import Ufo.SortIndices

namespace Ufo

/-- Lines 238-239: the effective window `[locmin, locmax)`; `locmin` is clamped to
`nlocs - 1` and `locmax = 0` stands for `nlocs`. -/
def window (locmin locmax nlocs : Int) : Int × Int :=
  (if locmin ≥ nlocs then nlocs - 1 else locmin, if locmax = 0 then nlocs else locmax)

/-- The test of line 296 for one `loc`: the index it pushes to `indicesToPrint`, if any.
The original row number `loc` is the index into `sortIndices`. -/
def selectLocation (locmin locmax : Int) (globalApply : List Int) (sortIndices : List Nat)
    (loc : Int) : Except Failure (Option Nat) :=
  if locmin ≤ loc ∧ loc < locmax then do
    let idx ← read sortIndices loc
    let apply ← read globalApply idx
    return if apply ≠ 0 then some idx else none
  else return none

/-- Lines 294-300: the selection loop over `permutedGlobalIndex`, pushing to `locsToPrint`
and `indicesToPrint` together. -/
def selectLocations (locmin locmax : Int) (globalApply : List Int) (sortIndices : List Nat) :
    List Int → Except Failure (List Int × List Nat)
  | [] => .ok ([], [])
  | loc :: locs => do
    let selected ← selectLocation locmin locmax globalApply sortIndices loc
    let (locsToPrint, indicesToPrint) ← selectLocations locmin locmax globalApply sortIndices locs
    return match selected with
      | some idx => (loc :: locsToPrint, idx :: indicesToPrint)
      | none => (locsToPrint, indicesToPrint)

/-- Lines 264-300: from the gathered mask and index to `locsToPrint` and `indicesToPrint`. -/
def locationsToPrint (nlocs : Nat) (locmin locmax : Int) (globalApply globalIndex : List Int) :
    Except Failure (List Int × List Nat) := do
  let sortIndices := sortIndices nlocs globalIndex
  let permuted ← permutedGlobalIndex globalIndex sortIndices
  selectLocations locmin locmax globalApply sortIndices permuted

section
variable (locmin locmax : Int) (globalApply : List Int) (sortIndices : List Nat)

/-- The test of line 296 once its reads are in range: `loc` lies in the window and the bit
read at `sortIndices[loc]` is set. -/
def selects (loc : Int) : Bool :=
  locmin ≤ loc && loc < locmax && globalApply.getD (sortIndices.getD loc.toNat 0) 0 != 0

/-- The reads of line 296 for `loc` stay inside `sortIndices` and `globalApply`. -/
def ReadsInRange (loc : Int) : Prop :=
  locmin ≤ loc → loc < locmax →
    0 ≤ loc ∧ loc.toNat < sortIndices.length ∧ sortIndices.getD loc.toNat 0 < globalApply.length

variable {locmin locmax globalApply sortIndices}

theorem selectLocation_eq {loc : Int}
    (h : ReadsInRange locmin locmax globalApply sortIndices loc) :
    selectLocation locmin locmax globalApply sortIndices loc =
      .ok (if selects locmin locmax globalApply sortIndices loc
        then some (sortIndices.getD loc.toNat 0) else none) := by
  unfold selectLocation selects
  by_cases hw : locmin ≤ loc ∧ loc < locmax
  · obtain ⟨h0, h1, h2⟩ := h hw.1 hw.2
    rw [if_pos hw, read_eq_getD 0 h0 h1, ok_bind, read_of_lt h2, List.getD_eq_getElem _ _ h2]
    simp [hw]
  · rw [if_neg hw]
    simp only [not_and_or, not_le, not_lt] at hw
    rcases hw with hw | hw <;> simp [hw, not_le.mpr, not_lt.mpr]

theorem selectLocation_error {loc : Int}
    (h : ¬ ReadsInRange locmin locmax globalApply sortIndices loc) :
    selectLocation locmin locmax globalApply sortIndices loc = .error .outOfRange := by
  simp only [ReadsInRange, Classical.not_imp, not_and_or, not_lt, not_le] at h
  obtain ⟨hlo, hhi, h⟩ := h
  rw [selectLocation, if_pos ⟨hlo, hhi⟩]
  by_cases h0 : 0 ≤ loc
  · by_cases h1 : loc.toNat < sortIndices.length
    · have h2 : globalApply.length ≤ sortIndices.getD loc.toNat 0 := by omega
      rw [read_eq_getD 0 h0 h1, ok_bind, read_eq_error (.inr (by simpa using h2))]
      rfl
    · rw [read_eq_error (.inr (by omega))]
      rfl
  · rw [read_eq_error (.inl (by omega))]
    rfl

/-- The selection loop when every read is in range: the `loc`s that pass line 296, each with
`sortIndices[loc]`. -/
theorem selectLocations_eq {locs : List Int}
    (h : ∀ loc ∈ locs, ReadsInRange locmin locmax globalApply sortIndices loc) :
    selectLocations locmin locmax globalApply sortIndices locs =
      .ok (locs.filter (selects locmin locmax globalApply sortIndices),
        (locs.filter (selects locmin locmax globalApply sortIndices)).map
          (sortIndices.getD ·.toNat 0)) := by
  induction locs with
  | nil => rfl
  | cons loc locs ih =>
    rw [selectLocations, selectLocation_eq (h loc (.head _)), ok_bind,
      ih fun l hl => h l (.tail _ hl), ok_bind]
    by_cases hs : selects locmin locmax globalApply sortIndices loc <;> simp [hs]

/-- The selection loop fails exactly when some read is out of range. -/
theorem selectLocations_error {locs : List Int}
    (h : ¬ ∀ loc ∈ locs, ReadsInRange locmin locmax globalApply sortIndices loc) :
    selectLocations locmin locmax globalApply sortIndices locs = .error .outOfRange := by
  induction locs with
  | nil => simp at h
  | cons loc locs ih =>
    rw [selectLocations]
    by_cases hl : ReadsInRange locmin locmax globalApply sortIndices loc
    · rw [selectLocation_eq hl, ok_bind, ih fun ht => h (List.forall_mem_cons.mpr ⟨hl, ht⟩)]
      rfl
    · rw [selectLocation_error hl]
      rfl

end

/-- The comment's example (lines 260-293), no location restriction: header `1` is paired
with position `0`, which holds row `2`; the comment expects `indicesToPrint = [2, 0, 3, 1]`. -/
theorem locationsToPrint_pairs_header_with_other_row :
    locationsToPrint 4 0 4 [1, 1, 1, 1] [2, 4, 1, 3] = .ok ([1, 2, 3], [0, 3, 1]) := rfl

/-- The same example with `locmax = 6`, which passes the range check of line 240: the loop
reads `sortIndices[4]` of a vector of four. -/
theorem locationsToPrint_reads_past_sortIndices :
    (window 0 6 4).1 ≤ (window 0 6 4).2 ∧
    locationsToPrint 4 (window 0 6 4).1 (window 0 6 4).2 [1, 1, 1, 1] [2, 4, 1, 3] =
      .error .outOfRange := ⟨by decide, rfl⟩

/-- With `locmax = 0` the window ends at `nlocs = 2`, so row `5` at position `1`, whose bit is
set, is dropped. -/
theorem locationsToPrint_drops_row_past_nlocs :
    window 0 0 2 = (0, 2) ∧
    locationsToPrint 2 (window 0 0 2).1 (window 0 0 2).2 [1, 1] [0, 5] = .ok ([0], [0]) :=
  ⟨rfl, rfl⟩

end Ufo
