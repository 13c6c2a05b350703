import Mathlib.Data.List.Sort
import Mathlib.Data.List.Perm.Subperm
import Ufo.Store

namespace Ufo

/-- The comparison of `std::stable_sort` at line 275, in the non-strict form an insertion
sort takes: position `idx1` may go before `idx2` when `globalIndex[idx1] ≤ globalIndex[idx2]`.
Its arguments are positions below `nlocs`, so the reads are in range. -/
def keyLE (globalIndex : List Int) (idx1 idx2 : Nat) : Prop :=
  globalIndex.getD idx1 0 ≤ globalIndex.getD idx2 0

instance (globalIndex : List Int) : DecidableRel (keyLE globalIndex) :=
  fun _ _ => inferInstanceAs (Decidable (_ ≤ _))

instance (globalIndex : List Int) : IsTotal Nat (keyLE globalIndex) :=
  ⟨fun _ _ => Int.le_total _ _⟩

instance (globalIndex : List Int) : IsTrans Nat (keyLE globalIndex) :=
  ⟨fun _ _ _ => Int.le_trans⟩

/-- Lines 271-275: `std::iota`, then `std::stable_sort` by
`globalIndex[idx1] < globalIndex[idx2]`. A stable sort orders the positions by key and keeps
tied positions in input order; insertion sort on the non-strict order does exactly that. -/
def sortIndices (nlocs : Nat) (globalIndex : List Int) : List Nat :=
  (List.range nlocs).insertionSort (keyLE globalIndex)

/-- Lines 280-283: `permutedGlobalIndex[idx] = globalIndex[sortIndices[idx]]`. -/
def permutedGlobalIndex (globalIndex : List Int) (sortIndices : List Nat) :
    Except Failure (List Int) :=
  sortIndices.mapM fun (idx : Nat) => read globalIndex idx

example : sortIndices 4 [2, 4, 1, 3] = [2, 0, 3, 1] := by decide

theorem sortIndices_perm (nlocs : Nat) (globalIndex : List Int) :
    (sortIndices nlocs globalIndex).Perm (List.range nlocs) :=
  List.perm_insertionSort _ _

theorem sortIndices_sorted (nlocs : Nat) (globalIndex : List Int) :
    (sortIndices nlocs globalIndex).Sorted (keyLE globalIndex) :=
  List.sorted_insertionSort _ _

@[simp] theorem length_sortIndices (nlocs : Nat) (globalIndex : List Int) :
    (sortIndices nlocs globalIndex).length = nlocs := by
  simp [(sortIndices_perm nlocs globalIndex).length_eq]

theorem mem_sortIndices {nlocs : Nat} {globalIndex : List Int} {idx : Nat} :
    idx ∈ sortIndices nlocs globalIndex ↔ idx < nlocs := by
  simp [(sortIndices_perm nlocs globalIndex).mem_iff]

/-- Tied positions in increasing order. -/
def Stable (globalIndex : List Int) (l : List Nat) : Prop :=
  l.Pairwise fun a b => globalIndex.getD a 0 = globalIndex.getD b 0 → a < b

theorem stable_orderedInsert (globalIndex : List Int) (x : Nat) :
    ∀ l : List Nat, (∀ b ∈ l, x < b) → Stable globalIndex l →
      Stable globalIndex (l.orderedInsert (keyLE globalIndex) x)
  | [], _, _ => List.pairwise_singleton _ _
  | b :: l, hx, hl => by
    rw [Stable, List.pairwise_cons] at hl
    by_cases hxb : keyLE globalIndex x b
    · rw [List.orderedInsert_of_le _ _ hxb]
      exact List.pairwise_cons.mpr ⟨fun c hc _ => hx c hc, List.pairwise_cons.mpr hl⟩
    · simp only [List.orderedInsert, if_neg hxb]
      refine List.pairwise_cons.mpr ⟨fun c hc => ?_,
        stable_orderedInsert globalIndex x l (fun c hc => hx c (.tail _ hc)) hl.2⟩
      rcases (List.mem_orderedInsert _).mp hc with rfl | hc
      · intro h
        exact absurd (le_of_eq h.symm) hxb
      · exact hl.1 c hc

theorem stable_insertionSort (globalIndex : List Int) :
    ∀ l : List Nat, l.Sorted (· < ·) → Stable globalIndex (l.insertionSort (keyLE globalIndex))
  | [], _ => List.Pairwise.nil
  | x :: l, hl => by
    rw [List.sorted_cons] at hl
    exact stable_orderedInsert globalIndex x _
      (fun b hb => hl.1 b ((List.perm_insertionSort _ l).mem_iff.mp hb))
      (stable_insertionSort globalIndex l hl.2)

/-- Stability: positions holding equal entries keep increasing position order. -/
theorem sortIndices_stable (nlocs : Nat) (globalIndex : List Int) :
    Stable globalIndex (sortIndices nlocs globalIndex) :=
  stable_insertionSort globalIndex _ (List.sorted_lt_range nlocs)

/-- The order a stable sort leaves the positions in: by key, ties by position. -/
def StableLE (globalIndex : List Int) (a b : Nat) : Prop :=
  keyLE globalIndex a b ∧ (globalIndex.getD a 0 = globalIndex.getD b 0 → a ≤ b)

instance (globalIndex : List Int) : IsAntisymm Nat (StableLE globalIndex) :=
  ⟨fun _ _ hab hba =>
    Nat.le_antisymm (hab.2 (Int.le_antisymm hab.1 hba.1)) (hba.2 (Int.le_antisymm hba.1 hab.1))⟩

theorem sorted_stableLE {globalIndex : List Int} {l : List Nat} (hs : l.Sorted (keyLE globalIndex))
    (hst : Stable globalIndex l) : l.Sorted (StableLE globalIndex) :=
  (hs.and hst).imp fun h => ⟨h.1, fun e => (h.2 e).le⟩

/-- Every permutation of `0..nlocs-1` ordered by key with ties in position order is
`sortIndices`: all implementations of `std::stable_sort` give the same vector. -/
theorem sortIndices_unique {nlocs : Nat} {globalIndex : List Int} {l : List Nat}
    (hp : l.Perm (List.range nlocs)) (hs : l.Sorted (keyLE globalIndex))
    (hst : Stable globalIndex l) : l = sortIndices nlocs globalIndex :=
  List.eq_of_perm_of_sorted (hp.trans (sortIndices_perm nlocs globalIndex).symm)
    (sorted_stableLE hs hst)
    (sorted_stableLE (sortIndices_sorted nlocs globalIndex) (sortIndices_stable nlocs globalIndex))

theorem permutedGlobalIndex_eq {globalIndex : List Int} {l : List Nat}
    (h : ∀ idx ∈ l, idx < globalIndex.length) :
    permutedGlobalIndex globalIndex l = .ok (l.map (globalIndex.getD · 0)) := by
  induction l with
  | nil => rfl
  | cons a l ih =>
    have ha := h a (.head _)
    simp only [permutedGlobalIndex] at ih ⊢
    rw [List.mapM_cons, ih fun idx hi => h idx (.tail _ hi), read_of_lt ha]
    simp [List.getElem?_eq_getElem ha]

theorem map_getD_range (l : List Int) : (List.range l.length).map (l.getD · 0) = l :=
  List.ext_getElem (by simp) fun i _ h => by simp [List.getElem?_eq_getElem h]

/-- The sorted entries are a rearrangement of `globalIndex`. -/
theorem perm_map_sortIndices (globalIndex : List Int) :
    ((sortIndices globalIndex.length globalIndex).map (globalIndex.getD · 0)).Perm globalIndex := by
  simpa only [map_getD_range] using
    (sortIndices_perm globalIndex.length globalIndex).map (globalIndex.getD · 0)

/-- Lines 264-283 for every gathered index: `sortIndices` is a permutation of `0..n-1`, every
read of the permute loop succeeds, and `permutedGlobalIndex` is the ascending rearrangement of
`globalIndex` (strictly ascending for distinct entries), ties kept in position order. -/
theorem sortIndices_ascending (globalIndex : List Int) :
    (sortIndices globalIndex.length globalIndex).Perm (List.range globalIndex.length) ∧
    permutedGlobalIndex globalIndex (sortIndices globalIndex.length globalIndex) =
      .ok ((sortIndices globalIndex.length globalIndex).map (globalIndex.getD · 0)) ∧
    ((sortIndices globalIndex.length globalIndex).map (globalIndex.getD · 0)).Sorted (· ≤ ·) ∧
    (globalIndex.Nodup →
      ((sortIndices globalIndex.length globalIndex).map (globalIndex.getD · 0)).Sorted (· < ·)) ∧
    Stable globalIndex (sortIndices globalIndex.length globalIndex) ∧
    ((sortIndices globalIndex.length globalIndex).map (globalIndex.getD · 0)).Perm globalIndex := by
  have hsorted : ((sortIndices globalIndex.length globalIndex).map (globalIndex.getD · 0)).Sorted
      (· ≤ ·) := List.pairwise_map.mpr (sortIndices_sorted globalIndex.length globalIndex)
  refine ⟨sortIndices_perm _ _, permutedGlobalIndex_eq fun _ h => mem_sortIndices.mp h,
    hsorted, fun hnd => ?_, sortIndices_stable _ _, perm_map_sortIndices _⟩
  exact List.Sorted.lt_of_le hsorted ((perm_map_sortIndices globalIndex).nodup_iff.mpr hnd)

end Ufo
