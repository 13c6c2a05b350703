import Ufo.Render

namespace Ufo

/-- The selection the comments of lines 284-293 describe: the original row numbers in the window
whose own `apply` bit is set, ascending, each with the position in the gathered vectors that
holds it. -/
def referenceSelection (locmin locmax : Int) (globalApply globalIndex : List Int) :
    List Int × List Nat :=
  let rows := (globalIndex.insertionSort (· ≤ ·)).filter fun r =>
    locmin ≤ r ∧ r < locmax ∧ globalApply.getD (globalIndex.indexOf r) 0 ≠ 0
  (rows, rows.map (globalIndex.indexOf ·))

/-- The original row numbers `0..n-1`, with no gap. -/
def Dense (globalIndex : List Int) : Prop :=
  globalIndex.Perm ((List.range globalIndex.length).map Int.ofNat)

section
variable {globalIndex : List Int}

theorem sorted_range_ofNat (n : Nat) : ((List.range n).map Int.ofNat).Sorted (· ≤ ·) :=
  List.pairwise_map.mpr ((List.pairwise_le_range n).imp Int.ofNat_le.mpr)

theorem Dense.nodup (hdense : Dense globalIndex) : globalIndex.Nodup :=
  hdense.nodup_iff.mpr ((List.nodup_range _).map fun _ _ => Int.ofNat.inj)

theorem Dense.insertionSort (hdense : Dense globalIndex) :
    globalIndex.insertionSort (· ≤ ·) = (List.range globalIndex.length).map Int.ofNat :=
  List.eq_of_perm_of_sorted ((List.perm_insertionSort _ _).trans hdense)
    (List.sorted_insertionSort _ _) (sorted_range_ofNat _)

/-- With no gap, `permutedGlobalIndex` is `0..n-1`. -/
theorem Dense.map_sortIndices (hdense : Dense globalIndex) :
    (sortIndices globalIndex.length globalIndex).map (globalIndex.getD · 0) =
      (List.range globalIndex.length).map Int.ofNat :=
  List.eq_of_perm_of_sorted ((perm_map_sortIndices globalIndex).trans hdense)
    (List.pairwise_map.mpr (sortIndices_sorted _ _)) (sorted_range_ofNat _)

/-- With no gap, `sortIndices[r]` is the position holding row `r`. -/
theorem Dense.getD_sortIndices (hdense : Dense globalIndex) {r : Nat}
    (hr : r < globalIndex.length) :
    (sortIndices globalIndex.length globalIndex).getD r 0 = globalIndex.indexOf (r : Int) := by
  have hlen : r < (sortIndices globalIndex.length globalIndex).length := by simpa using hr
  have hpos := mem_sortIndices.mp (List.getElem_mem hlen)
  have hrow : globalIndex[(sortIndices globalIndex.length globalIndex)[r]] = (r : Int) := by
    have h := congrArg (·[r]?) hdense.map_sortIndices
    simpa [List.getElem?_eq_getElem hlen, hr, List.getElem?_eq_getElem hpos] using h
  rw [List.getD_eq_getElem _ _ hlen, ← hrow, List.indexOf_getElem hdense.nodup]

end

/-- With no gap in the original row numbers, the selection loop of `printAllData` computes the
reference selection, whatever the window and the mask. -/
theorem locationsToPrint_eq_reference {locmin locmax : Int} {globalApply globalIndex : List Int}
    (hdense : Dense globalIndex) (happly : globalApply.length = globalIndex.length) :
    locationsToPrint globalIndex.length locmin locmax globalApply globalIndex =
      .ok (referenceSelection locmin locmax globalApply globalIndex) := by
  have hrows : ∀ loc ∈ (List.range globalIndex.length).map Int.ofNat,
      0 ≤ loc ∧ loc.toNat < globalIndex.length ∧
      (sortIndices globalIndex.length globalIndex).getD loc.toNat 0 = globalIndex.indexOf loc := by
    intro loc hloc
    obtain ⟨r, hr, rfl⟩ := List.mem_map.mp hloc
    have hr := List.mem_range.mp hr
    exact ⟨Int.ofNat_zero_le r, by simpa using hr, by simpa using hdense.getD_sortIndices hr⟩
  have hreads : ∀ loc ∈ (List.range globalIndex.length).map Int.ofNat,
      ReadsInRange locmin locmax globalApply (sortIndices globalIndex.length globalIndex) loc := by
    intro loc hloc _ _
    obtain ⟨h0, hlt, -⟩ := hrows loc hloc
    refine ⟨h0, by simpa using hlt, ?_⟩
    rw [happly, List.getD_eq_getElem _ _ (by simpa using hlt)]
    exact mem_sortIndices.mp (List.getElem_mem _)
  have hselects : ∀ loc ∈ (List.range globalIndex.length).map Int.ofNat,
      selects locmin locmax globalApply (sortIndices globalIndex.length globalIndex) loc =
        decide (locmin ≤ loc ∧ loc < locmax ∧ globalApply.getD (globalIndex.indexOf loc) 0 ≠ 0) := by
    intro loc hloc
    rw [selects, (hrows loc hloc).2.2]
    simp [Bool.and_assoc, bne, Bool.beq_eq_decide_eq]
  rw [locationsToPrint, permutedGlobalIndex_eq fun _ h => by simpa using mem_sortIndices.mp h,
    ok_bind, hdense.map_sortIndices, selectLocations_eq hreads, referenceSelection,
    hdense.insertionSort, List.filter_congr hselects]
  congr 2
  exact List.map_congr_left fun loc hloc => (hrows loc (List.mem_of_mem_filter hloc)).2.2

theorem sorted_lt_range_ofNat (n : Nat) : ((List.range n).map Int.ofNat).Sorted (· < ·) :=
  List.pairwise_map.mpr ((List.pairwise_lt_range n).imp Int.ofNat_lt.mpr)

/-- With no gap in the original row numbers, every read of the selection loop is in range, each
header is paired with the position of its own row, and the headers are, ascending, exactly the
rows in the window whose own bit is set. -/
theorem locationsToPrint_dense_selects_own_rows {locmin locmax : Int}
    {globalApply globalIndex : List Int} (hdense : Dense globalIndex)
    (happly : globalApply.length = globalIndex.length) :
    ∃ locsToPrint indicesToPrint,
      locationsToPrint globalIndex.length locmin locmax globalApply globalIndex =
        .ok (locsToPrint, indicesToPrint) ∧
      indicesToPrint.map (globalIndex.getD · 0) = locsToPrint ∧
      locsToPrint.Sorted (· < ·) ∧
      ∀ r, r ∈ locsToPrint ↔ r ∈ globalIndex ∧ locmin ≤ r ∧ r < locmax ∧
        globalApply.getD (globalIndex.indexOf r) 0 ≠ 0 := by
  refine ⟨_, _, locationsToPrint_eq_reference hdense happly, ?_, ?_, fun r => ?_⟩
  · simp only [referenceSelection, List.map_map]
    refine (List.map_congr_left fun r hr => ?_).trans (List.map_id _)
    have hr : r ∈ globalIndex :=
      (List.perm_insertionSort _ _).mem_iff.mp (List.mem_of_mem_filter hr)
    have hlt := List.indexOf_lt_length.mpr hr
    show globalIndex.getD (globalIndex.indexOf r) 0 = r
    rw [List.getD_eq_getElem _ _ hlt, List.getElem_indexOf hlt]
  · simp only [referenceSelection, hdense.insertionSort]
    exact (sorted_lt_range_ofNat _).filter _
  · simp [referenceSelection, List.mem_filter, (List.perm_insertionSort _ _).mem_iff]

/-- Rows `0..3` gathered as `[1, 3, 0, 2]`, row `0` masked out. -/
def shuffledIndex : List Int := [1, 3, 0, 2]

def shuffledApply : List Int := [1, 1, 0, 1]

theorem locationsToPrint_dense_selects_own_rows_shuffled :
    Dense shuffledIndex ∧ shuffledApply.length = shuffledIndex.length ∧
    ∃ locsToPrint indicesToPrint,
      locationsToPrint shuffledIndex.length 0 4 shuffledApply shuffledIndex =
        .ok (locsToPrint, indicesToPrint) ∧
      indicesToPrint.map (shuffledIndex.getD · 0) = locsToPrint ∧
      locsToPrint.Sorted (· < ·) ∧
      ∀ r, r ∈ locsToPrint ↔ r ∈ shuffledIndex ∧ 0 ≤ r ∧ r < 4 ∧
        shuffledApply.getD (shuffledIndex.indexOf r) 0 ≠ 0 :=
  have hdense : Dense shuffledIndex := by unfold Dense shuffledIndex; decide
  ⟨hdense, rfl, locationsToPrint_dense_selects_own_rows hdense rfl⟩

end Ufo
