import Ufo.DoFilter
import Ufo.Reference

namespace Ufo

/-! Two runs whose gathered vectors hold the same rows in another order: rank counts and row
distributions differ only by such an order. -/

/-- The column reordered by `σ`: its `q`-th value is the `σ[q]`-th of the original. -/
def FilterDatum.permute (σ : List Nat) : FilterDatum → FilterDatum
  | .int values => .int (σ.map (values.getD · 0))
  | .float values => .float (σ.map (values.getD · ⟨0⟩))
  | .string values => .string (σ.map (values.getD · ""))
  | .dateTime values => .dateTime (σ.map (values.getD · ⟨0, 0⟩))

/-- `filterData_` with every column reordered by `σ`. -/
def Cache.permute (σ : List Nat) (cache : Cache) : Cache := fun key => (cache key).map (·.permute σ)

section
variable {σ : List Nat} {q : Nat}

theorem read_permute {α : Type} {values : List α} (d : α) (hq : q < σ.length)
    (hσ : σ.getD q 0 < values.length) :
    read (σ.map (values.getD · d)) q = read values (σ.getD q 0) := by
  rw [List.getD_eq_getElem _ _ hq] at hσ ⊢
  rw [read_of_lt (by simpa using hq), read_of_lt hσ, List.getElem_map, List.getD_eq_getElem _ _ hσ]

/-- A cell of a reordered column at `q` is the cell of the column at `σ[q]`. -/
theorem printVariable_permute (env : Env) (params : Parameters) (T : VariableType)
    (datum : FilterDatum) (hq : q < σ.length) (hσ : σ.getD q 0 < datum.length) :
    printVariable env params T (datum.permute σ) q = printVariable env params T datum (σ.getD q 0) := by
  cases T <;> cases datum <;> simp only [FilterDatum.length] at hσ <;>
    simp only [printVariable, printCell, FilterDatum.permute, read_permute _ hq hσ]

theorem printTyped_permute (env : Env) (params : Parameters) (dtype : ObsDtype)
    (datum : FilterDatum) (hq : q < σ.length) (hσ : σ.getD q 0 < datum.length) :
    printTyped env params dtype (datum.permute σ) q = printTyped env params dtype datum (σ.getD q 0) := by
  cases dtype <;> simp only [printTyped, printVariable_permute env params _ datum hq hσ]

theorem printVariableCell_permute (env : Env) (params : Parameters) (store : Store)
    (p : VariablePrintParameters) (datum : FilterDatum) (hq : q < σ.length)
    (hσ : σ.getD q 0 < datum.length) :
    printVariableCell env params store p (datum.permute σ) q =
      printVariableCell env params store p datum (σ.getD q 0) := by
  unfold printVariableCell
  split
  · exact printVariable_permute env params _ datum hq hσ
  · exact printTyped_permute env params _ datum hq hσ

end

/-- Every column of `filterData_` has one value per location. -/
def Cache.Columns (cache : Cache) (n : Nat) : Prop :=
  ∀ key column, cache key = some column → column.length = n

theorem foundKeys_permute (store : Store) (cache : Cache) (σ : List Nat)
    (p : VariablePrintParameters) :
    foundKeys store (cache.permute σ) p =
      (foundKeys store cache p).map fun kd => (kd.1, kd.2.permute σ) := by
  rw [foundKeys, foundKeys, List.map_filterMap]
  congr 1
  funext key
  simp only [Cache.permute]
  cases cache key <;> rfl

section
variable (env : Env) (params : Parameters) (store : Store) {cache : Cache} {n : Nat}
  (maxVariableNameLength : Int) {σ : List Nat}

/-- A page of the reordered run at positions `idxGroup` is the page of the original run at
`σ[idxGroup]`. -/
theorem printPage_permute (hcolumns : cache.Columns n) {idxGroup : List Nat}
    (hidx : ∀ q ∈ idxGroup, q < σ.length ∧ σ.getD q 0 < n) (locGroup : List Int) :
    printPage env params store (cache.permute σ) maxVariableNameLength locGroup idxGroup =
      printPage env params store cache maxVariableNameLength locGroup
        (idxGroup.map (σ.getD · 0)) := by
  have hrows : printVariableRows env params store (cache.permute σ) maxVariableNameLength
      idxGroup = printVariableRows env params store cache maxVariableNameLength
        (idxGroup.map (σ.getD · 0)) := by
    funext p
    rw [printVariableRows, printVariableRows, foundKeys_permute]
    refine (mapM_map_congr fun ⟨varname, datum⟩ hkd => ?_).symm
    have hlen : datum.length = n := hcolumns varname datum (mem_foundKeys.mp hkd).2
    have hcells : idxGroup.mapM (printVariableCell env params store p (datum.permute σ)) =
        (idxGroup.map (σ.getD · 0)).mapM (printVariableCell env params store p datum) :=
      mapM_map_congr fun q hq =>
        printVariableCell_permute env params store p datum (hidx q hq).1 (hlen ▸ (hidx q hq).2)
    dsimp only
    rw [hcells]
  rw [printPage, printPage, hrows]

theorem mapM_printPage_permute (hcolumns : cache.Columns n) {groups : List (List Int × List Nat)}
    (hgroups : ∀ group ∈ groups, ∀ q ∈ group.2, q < σ.length ∧ σ.getD q 0 < n) :
    groups.mapM (fun group => printPage env params store (cache.permute σ) maxVariableNameLength
        group.1 group.2) =
      (groups.map (Prod.map id (List.map (σ.getD · 0)))).mapM fun group =>
        printPage env params store cache maxVariableNameLength group.1 group.2 :=
  mapM_map_congr fun group hgroup =>
    printPage_permute env params store maxVariableNameLength hcolumns (hgroups group hgroup) _

end

section
variable {σ : List Nat} {globalIndex : List Int}

theorem getD_map_permute {l : List Int} {q : Nat} (hq : q < σ.length) :
    (σ.map (l.getD · 0)).getD q 0 = l.getD (σ.getD q 0) 0 := by
  rw [List.getD_eq_getElem _ _ (by simpa using hq), List.getElem_map, List.getD_eq_getElem _ _ hq]

theorem perm_map_permute (hσ : σ.Perm (List.range globalIndex.length)) :
    (σ.map (globalIndex.getD · 0)).Perm globalIndex := by
  simpa only [map_getD_range] using hσ.map (globalIndex.getD · 0)

theorem Dense.permute (hdense : Dense globalIndex) (hσ : σ.Perm (List.range globalIndex.length)) :
    Dense (σ.map (globalIndex.getD · 0)) := by
  rw [Dense, (perm_map_permute hσ).length_eq]
  exact (perm_map_permute hσ).trans hdense

/-- Row `r` sits at position `q` of the reordered run and at `σ[q]` of the original one. -/
theorem indexOf_permute (hdense : Dense globalIndex) (hσ : σ.Perm (List.range globalIndex.length))
    {r : Int} (hr : r ∈ globalIndex) :
    (σ.map (globalIndex.getD · 0)).indexOf r < σ.length ∧
      σ.getD ((σ.map (globalIndex.getD · 0)).indexOf r) 0 = globalIndex.indexOf r := by
  have hq := List.indexOf_lt_length.mpr ((perm_map_permute hσ).mem_iff.mpr hr)
  have hqσ : (σ.map (globalIndex.getD · 0)).indexOf r < σ.length := List.length_map σ _ ▸ hq
  have hσq : σ[(σ.map (globalIndex.getD · 0)).indexOf r] < globalIndex.length :=
    List.mem_range.mp (hσ.mem_iff.mp (List.getElem_mem hqσ))
  have hget := List.getElem_indexOf hq
  simp only [List.getElem_map, List.getD_eq_getElem _ _ hσq] at hget
  have hpos := List.indexOf_getElem hdense.nodup _ hσq
  rw [hget] at hpos
  exact ⟨hqσ, by rw [List.getD_eq_getElem _ _ hqσ, hpos]⟩

/-- The reordered run selects the same rows, at positions that `σ` sends to the original
ones. -/
theorem referenceSelection_permute (locmin locmax : Int) (globalApply : List Int)
    (hdense : Dense globalIndex) (hσ : σ.Perm (List.range globalIndex.length)) :
    ∃ locs indices, referenceSelection locmin locmax (σ.map (globalApply.getD · 0))
        (σ.map (globalIndex.getD · 0)) = (locs, indices) ∧
      referenceSelection locmin locmax globalApply globalIndex =
        (locs, indices.map (σ.getD · 0)) ∧
      ∀ q ∈ indices, q < σ.length ∧ σ.getD q 0 < globalIndex.length := by
  have hrows : ∀ r ∈ globalIndex.insertionSort (· ≤ ·), r ∈ globalIndex :=
    fun r hr => (List.perm_insertionSort _ _).mem_iff.mp hr
  have hsorted : (σ.map (globalIndex.getD · 0)).insertionSort (· ≤ ·) =
      globalIndex.insertionSort (· ≤ ·) := by
    rw [(hdense.permute hσ).insertionSort, hdense.insertionSort, (perm_map_permute hσ).length_eq]
  refine ⟨_, _, rfl, ?_, fun q hq => ?_⟩
  · simp only [referenceSelection, hsorted, List.map_map]
    have hfilter : ∀ r ∈ globalIndex.insertionSort (· ≤ ·),
        decide (locmin ≤ r ∧ r < locmax ∧ globalApply.getD (globalIndex.indexOf r) 0 ≠ 0) =
          decide (locmin ≤ r ∧ r < locmax ∧ (σ.map (globalApply.getD · 0)).getD
            ((σ.map (globalIndex.getD · 0)).indexOf r) 0 ≠ 0) := fun r hr => by
      obtain ⟨hq, hpos⟩ := indexOf_permute hdense hσ (hrows r hr)
      rw [getD_map_permute hq, hpos]
    rw [List.filter_congr hfilter]
    refine Prod.ext rfl (List.map_congr_left fun r hr => ?_)
    exact (indexOf_permute hdense hσ (hrows r (List.mem_of_mem_filter hr))).2.symm
  · simp only [referenceSelection, hsorted, List.mem_map] at hq
    obtain ⟨r, hr, rfl⟩ := hq
    obtain ⟨hqσ, hpos⟩ := indexOf_permute hdense hσ (hrows r (List.mem_of_mem_filter hr))
    exact ⟨hqσ, hpos ▸ List.indexOf_lt_length.mpr (hrows r (List.mem_of_mem_filter hr))⟩

end

/-- With no gap in the original row numbers, a run whose gathered mask, index and columns hold
the same rows in another order prints the same table. -/
theorem printTable_redistribute (env : Env) (params : Parameters) (store : Store) {cache : Cache}
    {globalApply globalIndex : List Int} {σ : List Nat} (hdense : Dense globalIndex)
    (hσ : σ.Perm (List.range globalIndex.length)) (happly : globalApply.length = globalIndex.length)
    (hcolumns : cache.Columns globalIndex.length) (maxVariableNameLength : Nat)
    (locmin locmax perRow : Int) :
    printTable env params store (cache.permute σ) maxVariableNameLength globalIndex.length locmin
        locmax perRow (σ.map (globalApply.getD · 0)) (σ.map (globalIndex.getD · 0)) =
      printTable env params store cache maxVariableNameLength globalIndex.length locmin locmax
        perRow globalApply globalIndex := by
  obtain ⟨locs, indices, hsel', hsel, hbound⟩ :=
    referenceSelection_permute locmin locmax globalApply hdense hσ
  have hloc' := @locationsToPrint_eq_reference locmin locmax (σ.map (globalApply.getD · 0)) _
    (hdense.permute hσ) (by simp)
  rw [(perm_map_permute hσ).length_eq] at hloc'
  have hgroups : ∀ group ∈ (groupRows perRow.toNat locs).zip (groupRows perRow.toNat indices),
      ∀ q ∈ group.2, q < σ.length ∧ σ.getD q 0 < globalIndex.length := fun group hgroup q hq =>
    hbound q (flatten_groupRows perRow.toNat indices ▸
      List.mem_flatten.mpr ⟨_, (List.of_mem_zip hgroup).2, hq⟩)
  rw [printTable, printTable, hloc', hsel', locationsToPrint_eq_reference hdense happly, hsel,
    ok_bind, ok_bind]
  dsimp only
  rw [groupRows_map, List.zip_map_right,
    mapM_printPage_permute env params store _ hcolumns hgroups]

theorem getMaxVariableNameLength_permute (params : Parameters) (cache : Cache) (σ : List Nat) :
    getMaxVariableNameLength params (cache.permute σ) = getMaxVariableNameLength params cache := by
  simp only [getMaxVariableNameLength, Cache.permute, Option.isNone_map']

/-- Two runs of `printAllData` on the same rows, with no gap in their original numbers, print the
same text when the second run's gathered mask, index and columns hold the rows of the first in the
order `σ`: the text does not depend on the number of ranks or on how the rows are spread over
them (lines 322-327). -/
theorem printAllData_redistribute (env : Env) (params : Parameters) (store : Store)
    {cache : Cache} {globalNumLocs : Nat} (allGatherv allGatherv' : AllGatherv) {σ : List Nat}
    (hdense : Dense (allGatherv fun _ store => store.index.map Int.ofNat))
    (hnum : (allGatherv fun _ store => store.index.map Int.ofNat).length = globalNumLocs)
    (happly : (allGatherv (localApply params)).length = globalNumLocs)
    (hcolumns : cache.Columns globalNumLocs) (hσ : σ.Perm (List.range globalNumLocs))
    (hindex' : allGatherv' (fun _ store => store.index.map Int.ofNat) =
      σ.map ((allGatherv fun _ store => store.index.map Int.ofNat).getD · 0))
    (happly' : allGatherv' (localApply params) =
      σ.map ((allGatherv (localApply params)).getD · 0)) :
    printAllData env params store (cache.permute σ) globalNumLocs allGatherv' =
      printAllData env params store cache globalNumLocs allGatherv := by
  subst hnum
  rw [printAllData_eq, printAllData_eq, getMaxVariableNameLength_permute, hindex', happly']
  rcases setup params (getMaxVariableNameLength params cache) _ with _ | ⟨locmin, locmax, perRow⟩
  · rw [error_bind, error_bind]
  · exact printTable_redistribute env params store hdense hσ happly hcolumns _ locmin locmax perRow

/-- Row `row` of the `ObsValue` field of `gappedParams`, alone on a rank. -/
def rowStore (row : Nat) : Store :=
  Store.ofInts [row] [true] [(obsValueField.variable, .integer, [10 * (row : Int)])] [] 0

/-- `filterData_` after the gather over `[rowStore 0, rowStore 1]`. -/
def twoRowCache : Cache := Cache.empty.insert "ObsValue/x" (.int [0, 10])

theorem twoRowCache_columns : twoRowCache.Columns 2 := fun key column h => by
  simp only [twoRowCache, Cache.insert_apply, Cache.empty_apply] at h
  split at h
  · cases h
    rfl
  · cases h

theorem printAllData_redistribute_two_ranks :
    Dense (gatherAll [rowStore 0, rowStore 1] fun _ store => store.index.map Int.ofNat) ∧
    (gatherAll [rowStore 0, rowStore 1] fun _ store => store.index.map Int.ofNat).length = 2 ∧
    (gatherAll [rowStore 0, rowStore 1] (localApply gappedParams)).length = 2 ∧
    twoRowCache.Columns 2 ∧ [1, 0].Perm (List.range 2) ∧
    (gatherAll [rowStore 1, rowStore 0] fun _ store => store.index.map Int.ofNat) =
      [1, 0].map ((gatherAll [rowStore 0, rowStore 1] fun _ store =>
        store.index.map Int.ofNat).getD · 0) ∧
    gatherAll [rowStore 1, rowStore 0] (localApply gappedParams) =
      [1, 0].map ((gatherAll [rowStore 0, rowStore 1] (localApply gappedParams)).getD · 0) ∧
    printAllData sampleEnv gappedParams (rowStore 0) (twoRowCache.permute [1, 0]) 2
        (gatherAll [rowStore 1, rowStore 0]) =
      printAllData sampleEnv gappedParams (rowStore 0) twoRowCache 2
        (gatherAll [rowStore 0, rowStore 1]) :=
  have hdense : Dense (gatherAll [rowStore 0, rowStore 1] fun _ store =>
      store.index.map Int.ofNat) := by
    unfold Dense
    decide
  have hσ : [1, 0].Perm (List.range 2) := by decide
  ⟨hdense, rfl, rfl, twoRowCache_columns, hσ, rfl, rfl,
    printAllData_redistribute sampleEnv gappedParams (rowStore 0) _ _ hdense rfl rfl
      twoRowCache_columns hσ rfl rfl⟩

end Ufo
