import Mathlib.Data.List.Basic
import Mathlib.Order.Basic

namespace Ufo

/-- Lines 245-246: locations per table row, at least one; the `3` is the width of the
`" | "` after each column, and `/` truncates toward zero. -/
def nlocsPerRow (maxTextWidth maxVariableNameLength columnWidth : Int) : Int :=
  max ((maxTextWidth - maxVariableNameLength).tdiv (columnWidth + 3)) 1

theorem one_le_nlocsPerRow (maxTextWidth maxVariableNameLength columnWidth : Int) :
    1 ≤ nlocsPerRow maxTextWidth maxVariableNameLength columnWidth := by
  unfold nlocsPerRow
  omega

/-- `rows.back().push_back(x)`. -/
def pushBack {α : Type} (rows : List (List α)) (x : α) : List (List α) :=
  rows.dropLast ++ [rows.getLastD [] ++ [x]]

/-- One iteration of lines 311-321 on one of the two vectors: a new row when
`count % nlocsPerRow == 0`, then a push to the last row. -/
def groupStep {α : Type} (nlocsPerRow : Nat) (state : Nat × List (List α)) (x : α) :
    Nat × List (List α) :=
  (state.1 + 1, pushBack (if state.1 % nlocsPerRow = 0 then state.2 ++ [[]] else state.2) x)

/-- Lines 308-321: `rowOfLocsToPrint` from `locsToPrint`, and `rowOfIndicesToPrint` from
`indicesToPrint`; the loop pushes to both with the same `count`. -/
def groupRows {α : Type} (nlocsPerRow : Nat) (xs : List α) : List (List α) :=
  (xs.foldl (groupStep nlocsPerRow) (0, [])).2

example : groupRows 3 [1, 2, 3, 4] = [[1, 2, 3], [4]] := by decide

theorem pushBack_concat {α : Type} (rows : List (List α)) (r : List α) (x : α) :
    pushBack (rows ++ [r]) x = rows ++ [r ++ [x]] := by
  simp [pushBack]

/-- The shape the grouping loop keeps: full rows of `k`, then one row of `1` to `k`. -/
def Paged {α : Type} (k : Nat) (rows : List (List α)) : Prop :=
  rows = [] ∨ ∃ full last, rows = full ++ [last] ∧ (∀ r ∈ full, r.length = k) ∧
    0 < last.length ∧ last.length ≤ k

theorem length_flatten_full {α : Type} {k : Nat} {full : List (List α)}
    (h : ∀ r ∈ full, r.length = k) : full.flatten.length = k * full.length := by
  induction full with
  | nil => rfl
  | cons r full ih =>
    simp only [List.flatten_cons, List.length_append, List.length_cons,
      h r (.head _), ih fun r' hr => h r' (.tail _ hr)]
    rw [Nat.mul_add_one, Nat.add_comm]

/-- One step keeps the shape, given that `count` is the number of values pushed so far. -/
theorem paged_groupStep {α : Type} {k : Nat} (hk : 0 < k) {rows : List (List α)} (x : α)
    (h : Paged k rows) : Paged k (groupStep k (rows.flatten.length, rows) x).2 := by
  rcases h with rfl | ⟨full, last, rfl, hfull, hlast0, hlastk⟩
  · exact .inr ⟨[], [x], by simp [groupStep, pushBack], by simp, by simp, hk⟩
  · have hcount : (full ++ [last]).flatten.length % k = last.length % k := by
      simp [length_flatten_full hfull, Nat.mul_add_mod]
    by_cases he : last.length = k
    · have h0 : (full ++ [last]).flatten.length % k = 0 := by rw [hcount, he, Nat.mod_self]
      refine .inr ⟨full ++ [last], [x], ?_, ?_, by simp, hk⟩
      · simp only [groupStep, if_pos h0]
        rw [pushBack_concat]
        simp
      · intro r hr
        simp only [List.mem_append, List.mem_singleton] at hr
        rcases hr with hr | rfl
        exacts [hfull r hr, he]
    · have h0 : ¬(full ++ [last]).flatten.length % k = 0 := by
        rw [hcount, Nat.mod_eq_of_lt (by omega)]
        omega
      refine .inr ⟨full, last ++ [x], ?_, hfull, by simp, by simp; omega⟩
      simp only [groupStep, if_neg h0, pushBack_concat]

theorem flatten_pushBack {α : Type} (rows : List (List α)) (x : α) :
    (pushBack rows x).flatten = rows.flatten ++ [x] := by
  rcases List.eq_nil_or_concat rows with rfl | ⟨init, r, rfl⟩
  · rfl
  · simp [pushBack_concat]

theorem flatten_groupStep {α : Type} (k count : Nat) (rows : List (List α)) (x : α) :
    (groupStep k (count, rows) x).2.flatten = rows.flatten ++ [x] := by
  unfold groupStep
  split <;> simp [flatten_pushBack]

/-- The run of the loop from any state appends the values to the rows. -/
theorem flatten_foldl_groupStep {α : Type} (k : Nat) :
    ∀ (xs : List α) (count : Nat) (rows : List (List α)),
      (xs.foldl (groupStep k) (count, rows)).2.flatten = rows.flatten ++ xs
  | [], _, _ => by simp
  | x :: xs, count, rows => by
    rw [List.foldl_cons, show groupStep k (count, rows) x =
      (count + 1, (groupStep k (count, rows) x).2) from rfl, flatten_foldl_groupStep k xs,
      flatten_groupStep, List.append_assoc]
    rfl

/-- The rows hold the values in order, whatever `nlocsPerRow`. -/
theorem flatten_groupRows {α : Type} (k : Nat) (xs : List α) : (groupRows k xs).flatten = xs := by
  simpa using flatten_foldl_groupStep k xs 0 []

/-- The run of the loop from a state whose `count` is the number of values pushed so far keeps
the shape. -/
theorem paged_foldl_groupStep {α : Type} {k : Nat} (hk : 0 < k) :
    ∀ (xs : List α) (rows : List (List α)), Paged k rows →
      Paged k (xs.foldl (groupStep k) (rows.flatten.length, rows)).2
  | [], _, h => h
  | x :: xs, rows, h => by
    have hcount : groupStep k (rows.flatten.length, rows) x =
        ((groupStep k (rows.flatten.length, rows) x).2.flatten.length,
          (groupStep k (rows.flatten.length, rows) x).2) :=
      Prod.ext (by rw [flatten_groupStep, List.length_append]; rfl) rfl
    rw [List.foldl_cons, hcount]
    exact paged_foldl_groupStep hk xs _ (paged_groupStep hk x h)

theorem paged_groupRows {α : Type} {k : Nat} (hk : 0 < k) (xs : List α) :
    Paged k (groupRows k xs) := by
  simpa using paged_foldl_groupStep hk xs [] (.inl rfl)

theorem Paged.length_dropLast {α : Type} {k : Nat} {rows : List (List α)} (h : Paged k rows) :
    ∀ row ∈ rows.dropLast, row.length = k := by
  rcases h with rfl | ⟨full, last, rfl, hfull, -, -⟩
  · simp
  · rwa [List.dropLast_concat]

theorem Paged.length_getLast? {α : Type} {k : Nat} {rows : List (List α)} (h : Paged k rows) :
    ∀ row ∈ rows.getLast?, 0 < row.length ∧ row.length ≤ k := by
  rcases h with rfl | ⟨full, last, rfl, -, hlast0, hlastk⟩
  · simp
  · intro row hrow
    rw [List.getLast?_concat, Option.mem_def, Option.some.injEq] at hrow
    exact hrow ▸ ⟨hlast0, hlastk⟩

theorem length_le_of_mem_groupRows {α : Type} {k : Nat} (hk : 0 < k) {xs : List α}
    {row : List α} (h : row ∈ groupRows k xs) : row.length ≤ k := by
  rcases paged_groupRows hk xs with hrows | ⟨full, last, hrows, hfull, -, hlast⟩
  · simp [hrows] at h
  · rw [hrows] at h
    rcases List.mem_append.mp h with h | h
    · exact (hfull row h).le
    · exact List.mem_singleton.mp h ▸ hlast

theorem pushBack_map {α β : Type} (f : α → β) (rows : List (List α)) (x : α) :
    pushBack (rows.map (List.map f)) (f x) = (pushBack rows x).map (List.map f) := by
  rcases List.eq_nil_or_concat rows with rfl | ⟨init, r, rfl⟩
  · rfl
  · simp [pushBack_concat]

theorem groupStep_map {α β : Type} (k : Nat) (f : α → β) (count : Nat) (rows : List (List α))
    (x : α) : groupStep k (count, rows.map (List.map f)) (f x) =
      (count + 1, (groupStep k (count, rows) x).2.map (List.map f)) := by
  unfold groupStep
  split <;> simp [← pushBack_map]

theorem foldl_groupStep_map {α β : Type} (k : Nat) (f : α → β) :
    ∀ (xs : List α) (count : Nat) (rows : List (List α)),
      (xs.map f).foldl (groupStep k) (count, rows.map (List.map f)) =
        ((xs.foldl (groupStep k) (count, rows)).1,
          (xs.foldl (groupStep k) (count, rows)).2.map (List.map f))
  | [], _, _ => rfl
  | x :: xs, count, rows => by
    rw [List.map_cons, List.foldl_cons, groupStep_map, List.foldl_cons]
    exact foldl_groupStep_map k f xs (count + 1) _

/-- Grouping commutes with mapping the values: the rows depend only on positions. -/
theorem groupRows_map {α β : Type} (k : Nat) (f : α → β) (xs : List α) :
    groupRows k (xs.map f) = (groupRows k xs).map (List.map f) := by
  simpa [groupRows] using congrArg Prod.snd (foldl_groupStep_map k f xs 0 [])

theorem shape_groupRows {α β : Type} (k : Nat) {xs : List α} {ys : List β}
    (h : xs.length = ys.length) :
    (groupRows k xs).map List.length = (groupRows k ys).map List.length := by
  have hx := groupRows_map k (fun _ => ()) xs
  have hy := groupRows_map k (fun _ => ()) ys
  have he : xs.map (fun _ => ()) = ys.map (fun _ => ()) := by
    simp [List.map_const', h]
  rw [he, hy] at hx
  simpa [Function.comp_def] using (congrArg (List.map List.length) hx).symm

/-- The number of rows is `ceil(m / k)`, none when `m = 0`. -/
theorem length_of_paged {α : Type} {k : Nat} (hk : 0 < k) {rows : List (List α)}
    (h : Paged k rows) : rows.length = (rows.flatten.length + k - 1) / k := by
  rcases h with rfl | ⟨full, last, rfl, hfull, hlast0, hlastk⟩
  · simp [Nat.div_eq_of_lt (by omega : k - 1 < k)]
  · symm
    apply Nat.div_eq_of_lt_le
    all_goals simp only [List.flatten_append, List.length_append, length_flatten_full hfull,
      List.flatten_singleton, List.length_singleton, Nat.add_mul, Nat.one_mul, Nat.mul_comm k]
    all_goals omega

/-- Lines 242-321: for equal-length `locsToPrint` and `indicesToPrint`, the two vectors of rows
have the same shape and flatten back to their inputs; every row but the last holds
`nlocsPerRow` values, the last between one and `nlocsPerRow`, and there are
`ceil(m / nlocsPerRow)` rows. -/
theorem groupRows_pages (maxTextWidth maxVariableNameLength columnWidth : Int)
    (locsToPrint : List Int) (indicesToPrint : List Nat)
    (hlen : locsToPrint.length = indicesToPrint.length)
    (k : Int) (hk : k = nlocsPerRow maxTextWidth maxVariableNameLength columnWidth) :
    (groupRows k.toNat locsToPrint).map List.length =
      (groupRows k.toNat indicesToPrint).map List.length ∧
    (groupRows k.toNat locsToPrint).flatten = locsToPrint ∧
    (groupRows k.toNat indicesToPrint).flatten = indicesToPrint ∧
    (∀ row ∈ (groupRows k.toNat locsToPrint).dropLast, (row.length : Int) = k) ∧
    (∀ row ∈ (groupRows k.toNat locsToPrint).getLast?, 1 ≤ row.length ∧ (row.length : Int) ≤ k) ∧
    (groupRows k.toNat locsToPrint).length = (locsToPrint.length + k.toNat - 1) / k.toNat := by
  have hk1 := one_le_nlocsPerRow maxTextWidth maxVariableNameLength columnWidth
  have hk0 : 0 < k.toNat := by omega
  have hpaged := paged_groupRows hk0 locsToPrint
  have hcount := length_of_paged hk0 hpaged
  rw [flatten_groupRows] at hcount
  refine ⟨shape_groupRows _ hlen, flatten_groupRows _ _, flatten_groupRows _ _,
    fun row hrow => ?_, fun row hrow => ?_, hcount⟩
  · have := hpaged.length_dropLast row hrow
    omega
  · have := hpaged.length_getLast? row hrow
    omega

/-- The comment's example (lines 302-307): three locations per row. -/
theorem groupRows_pages_comment_example :
    ([1, 2, 3, 4] : List Int).length = ([2, 0, 3, 1] : List Nat).length ∧
    nlocsPerRow 41 8 8 = nlocsPerRow 41 8 8 ∧
    (groupRows (nlocsPerRow 41 8 8).toNat ([1, 2, 3, 4] : List Int)).map List.length =
      (groupRows (nlocsPerRow 41 8 8).toNat ([2, 0, 3, 1] : List Nat)).map List.length ∧
    (groupRows (nlocsPerRow 41 8 8).toNat ([1, 2, 3, 4] : List Int)).flatten = [1, 2, 3, 4] ∧
    (groupRows (nlocsPerRow 41 8 8).toNat ([2, 0, 3, 1] : List Nat)).flatten = [2, 0, 3, 1] ∧
    (∀ row ∈ (groupRows (nlocsPerRow 41 8 8).toNat ([1, 2, 3, 4] : List Int)).dropLast,
      (row.length : Int) = nlocsPerRow 41 8 8) ∧
    (∀ row ∈ (groupRows (nlocsPerRow 41 8 8).toNat ([1, 2, 3, 4] : List Int)).getLast?,
      1 ≤ row.length ∧ (row.length : Int) ≤ nlocsPerRow 41 8 8) ∧
    (groupRows (nlocsPerRow 41 8 8).toNat ([1, 2, 3, 4] : List Int)).length =
      (([1, 2, 3, 4] : List Int).length + (nlocsPerRow 41 8 8).toNat - 1) /
        (nlocsPerRow 41 8 8).toNat :=
  ⟨rfl, rfl, groupRows_pages 41 8 8 [1, 2, 3, 4] [2, 0, 3, 1] rfl _ rfl⟩

end Ufo
