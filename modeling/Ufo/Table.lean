import Ufo.Widths
import Ufo.Reference

namespace Ufo

/-! With no gap in the original row numbers, `printAllData` prints the table the comments of
lines 284-327 describe: the selected rows ascending, `nlocsPerRow` to a page, and under each row
number the values held at the gathered position of that row. -/

/-- The table of the comments of lines 284-327, printed without `sortIndices`: the rows of
`referenceSelection`, `perRow` to a page, each cell read at the gathered position of its own
row. -/
def referenceTable (env : Env) (params : Parameters) (store : Store) (cache : Cache)
    (maxVariableNameLength : Nat) (locmin locmax perRow : Int) (globalApply globalIndex : List Int) :
    Except Failure (List String) := do
  let rows := (referenceSelection locmin locmax globalApply globalIndex).1
  let pages ← (groupRows perRow.toNat rows).mapM fun locGroup =>
    printPage env params store cache maxVariableNameLength locGroup
      (locGroup.map (globalIndex.indexOf ·))
  return pages.flatten

theorem zip_map_self {α β : Type} (l : List α) (f : α → β) :
    l.zip (l.map f) = l.map fun a => (a, f a) := by
  simpa using List.zip_map' id f l

/-- The pages of the two vectors of rows, when the second is the first mapped. -/
theorem zip_groupRows_map {α β : Type} (k : Nat) (f : α → β) (xs : List α) :
    (groupRows k xs).zip (groupRows k (xs.map f)) = (groupRows k xs).map fun g => (g, g.map f) := by
  rw [groupRows_map, zip_map_self]

section
variable (env : Env) (params : Parameters) (store : Store) (cache : Cache)
  {globalApply globalIndex : List Int}

/-- The selection, grouping and page loops of `printAllData` (lines 268-394) print the reference
table when the original row numbers have no gap. -/
theorem printTable_eq_referenceTable (hdense : Dense globalIndex)
    (happly : globalApply.length = globalIndex.length)
    (maxVariableNameLength : Nat) (locmin locmax perRow : Int) :
    printTable env params store cache maxVariableNameLength globalIndex.length locmin locmax perRow
        globalApply globalIndex =
      referenceTable env params store cache maxVariableNameLength locmin locmax perRow globalApply
        globalIndex := by
  rw [printTable, locationsToPrint_eq_reference hdense happly, ok_bind, referenceTable]
  dsimp only
  rw [show (referenceSelection locmin locmax globalApply globalIndex).2 =
      (referenceSelection locmin locmax globalApply globalIndex).1.map (globalIndex.indexOf ·)
      from rfl, zip_groupRows_map]
  congr 1
  exact (mapM_map_congr (h := fun g : List Int => (g, g.map (globalIndex.indexOf ·)))
    fun _ _ => rfl).symm

section
variable {globalNumLocs : Nat} (allGatherv : AllGatherv)
  (hdense : Dense (allGatherv fun _ store => store.index.map Int.ofNat))
  (hn : (allGatherv fun _ store => store.index.map Int.ofNat).length = globalNumLocs)
  (happly : (allGatherv (localApply params)).length = globalNumLocs)
include hdense hn happly

theorem printAllData_of_setup {window : Int × Int × Int}
    (hsetup : setup params (getMaxVariableNameLength params cache) globalNumLocs = .ok window) :
    printAllData env params store cache globalNumLocs allGatherv =
      referenceTable env params store cache (getMaxVariableNameLength params cache) window.1
        window.2.1 window.2.2 (allGatherv (localApply params))
        (allGatherv fun _ store => store.index.map Int.ofNat) := by
  subst hn
  obtain ⟨locmin, locmax, perRow⟩ := window
  rw [printAllData_eq, hsetup, ok_bind]
  exact printTable_eq_referenceTable env params store cache hdense happly _ _ _ _

/-- With no gap in the gathered original row numbers, `printAllData` is the window check
followed by the reference table. -/
theorem printAllData_dense :
    printAllData env params store cache globalNumLocs allGatherv =
      setup params (getMaxVariableNameLength params cache) globalNumLocs >>= fun window =>
        referenceTable env params store cache (getMaxVariableNameLength params cache) window.1
          window.2.1 window.2.2 (allGatherv (localApply params))
          (allGatherv fun _ store => store.index.map Int.ofNat) := by
  cases hsetup : setup params (getMaxVariableNameLength params cache) globalNumLocs with
  | error e => rw [printAllData_eq, hsetup, error_bind, error_bind]
  | ok window => rw [printAllData_of_setup env params store cache allGatherv hdense hn happly hsetup, ok_bind]

end

theorem setup_window {params : Parameters} {maxVariableNameLength globalNumLocs : Nat}
    {window' : Int × Int × Int} (h : setup params maxVariableNameLength globalNumLocs = .ok window') :
    window'.1 = (window params.locmin params.locmax globalNumLocs).1 ∧
      window'.2.1 = (window params.locmin params.locmax globalNumLocs).2 := by
  rw [setup_eq] at h
  split_ifs at h
  cases h
  exact ⟨rfl, rfl⟩

/-- With no gap in the original row numbers, the pages `printAllData` writes are headed, in
order, by the rows of the reference selection in the effective window. -/
theorem printAllData_headers {env : Env} {params : Parameters} {store : Store} {cache : Cache}
    {globalNumLocs : Nat} {allGatherv : AllGatherv}
    (hdense : Dense (allGatherv fun _ store => store.index.map Int.ofNat))
    (hn : (allGatherv fun _ store => store.index.map Int.ofNat).length = globalNumLocs)
    (happly : (allGatherv (localApply params)).length = globalNumLocs) {lines : List String}
    (h : printAllData env params store cache globalNumLocs allGatherv = .ok lines) :
    ∃ (locGroups : List (List Int)) (pages : List (List String)), lines = pages.flatten ∧
      List.Forall₂ (fun locGroup page => ∃ separator others, page =
          headerLine (getMaxVariableNameLength params cache) params.columnWidth locGroup ::
            separator :: others) locGroups pages ∧
      locGroups.flatten = (referenceSelection
        (window params.locmin params.locmax globalNumLocs).1
        (window params.locmin params.locmax globalNumLocs).2 (allGatherv (localApply params))
        (allGatherv fun _ store => store.index.map Int.ofNat)).1 := by
  subst hn
  rw [printAllData_eq] at h
  obtain ⟨⟨locmin, locmax, perRow⟩, hsetup, h⟩ := bind_eq_ok h
  dsimp only at h
  rw [printTable_eq_referenceTable env params store cache hdense happly, referenceTable] at h
  obtain ⟨pages, hpages, h⟩ := bind_eq_ok h
  rw [pure_eq_ok, Except.ok.injEq] at h
  obtain ⟨hmin, hmax⟩ : locmin = _ ∧ locmax = _ := setup_window hsetup
  refine ⟨_, pages, h.symm, (mapM_ok_forall₂ hpages).imp fun _ _ hpage => ?_, ?_⟩
  · obtain ⟨separator, others, -, rfl⟩ := printPage_header hpage
    exact ⟨separator, others, rfl⟩
  · rw [flatten_groupRows, hmin, hmax]

/-- Row `2` of the `ObsValue` field, with value `30`, on a second rank beside `twoRowStore`. -/
def rowTwoStore : Store :=
  Store.ofInts [2] [true] [(obsValueField.variable, .integer, [30])] [] 0

/-- The column gathered from `twoRowStore` and `rowTwoStore`. -/
def threeRowCache : Cache := Cache.empty.insert "ObsValue/x" (.int [10, 20, 30])

theorem printAllData_dense_twoRanks :
    Dense (gatherAll [twoRowStore, rowTwoStore] fun _ store => store.index.map Int.ofNat) ∧
    (gatherAll [twoRowStore, rowTwoStore] fun _ store => store.index.map Int.ofNat).length = 3 ∧
    (gatherAll [twoRowStore, rowTwoStore] (localApply narrowParams)).length = 3 ∧
    printAllData sampleEnv narrowParams twoRowStore threeRowCache 3
        (gatherAll [twoRowStore, rowTwoStore]) =
      setup narrowParams (getMaxVariableNameLength narrowParams threeRowCache) 3 >>= fun window =>
        referenceTable sampleEnv narrowParams twoRowStore threeRowCache
          (getMaxVariableNameLength narrowParams threeRowCache) window.1 window.2.1 window.2.2
          (gatherAll [twoRowStore, rowTwoStore] (localApply narrowParams))
          (gatherAll [twoRowStore, rowTwoStore] fun _ store => store.index.map Int.ofNat) :=
  have hdense : Dense (gatherAll [twoRowStore, rowTwoStore] fun _ store =>
      store.index.map Int.ofNat) := by
    unfold Dense
    decide
  ⟨hdense, rfl, rfl, printAllData_dense sampleEnv narrowParams twoRowStore threeRowCache _ hdense
    rfl rfl⟩

end

/-! Under `printRank0`, lines 250-252 clear every rank's part of `globalApply` but rank `0`'s. -/

/-- The original row numbers of the rows of `store` that its `where` clause selects. -/
def selectedRows (store : Store) : List Int :=
  (((store.index.map Int.ofNat).zip store.apply).filter (·.2)).map (·.1)

theorem gatherAll_cons (s : Store) (stores : List Store) (contribution : Nat → Store → List Int) :
    gatherAll (s :: stores) contribution =
      contribution 0 s ++ gatherAll stores fun rank => contribution (rank + 1) := by
  simp only [gatherAll, List.length_cons, List.range_succ_eq_map, List.zip_cons_cons,
    List.flatMap_cons, List.zip_map_left, List.flatMap_map]
  rfl

theorem length_gatherAll {contribution : Nat → Store → List Int}
    (h : ∀ rank store, (contribution rank store).length = store.nlocs) :
    ∀ stores : List Store, (gatherAll stores contribution).length = stores.foldr (·.nlocs + ·) 0
  | [] => rfl
  | s :: stores => by
    rw [gatherAll_cons, List.length_append, h, length_gatherAll (fun rank => h (rank + 1)) stores]
    rfl

theorem length_localApply (params : Parameters) (rank : Nat) (store : Store) :
    (localApply params rank store).length = store.nlocs := by
  unfold localApply
  split <;> simp [store.apply_length]

theorem length_gatherAll_index (stores : List Store) :
    (gatherAll stores fun _ store => store.index.map Int.ofNat).length =
      stores.foldr (·.nlocs + ·) 0 :=
  length_gatherAll (fun _ store => by simp [store.index_length]) stores

theorem length_gatherAll_localApply (params : Parameters) (stores : List Store) :
    (gatherAll stores (localApply params)).length = stores.foldr (·.nlocs + ·) 0 :=
  length_gatherAll (length_localApply params) stores

/-- The bit read for row `r` at its position in `rows ++ others`, when the mask is `bits`
followed by zeros, is set exactly when `r` is one of `rows` whose own bit is set. -/
theorem getD_indexOf_append {others zeros : List Int} (hzeros : ∀ z ∈ zeros, z = 0) (r : Int) :
    ∀ (rows : List Int) (bits : List Bool), rows.length = bits.length → (rows ++ others).Nodup →
      (((bits.map fun b => if b then (1 : Int) else 0) ++ zeros).getD ((rows ++ others).indexOf r) 0 ≠
        0 ↔ r ∈ ((rows.zip bits).filter (·.2)).map (·.1))
  | [], [], _, _ => by
    simp only [List.map_nil, List.nil_append, List.zip_nil_left, List.filter_nil,
      List.not_mem_nil, iff_false, not_not]
    rw [List.getD_eq_getD_get?]
    cases hz : zeros.get? (others.indexOf r) with
    | none => rfl
    | some z => exact hzeros z (List.get?_mem hz)
  | [], _ :: _, hlen, _ => absurd hlen (by simp)
  | _ :: _, [], hlen, _ => absurd hlen (by simp)
  | row :: rows, bit :: bits, hlen, hnodup => by
    have hrest := getD_indexOf_append hzeros r rows bits (by simpa using hlen) hnodup.of_cons
    rw [List.cons_append, List.indexOf_cons, List.map_cons, List.cons_append, List.zip_cons_cons,
      List.filter_cons]
    by_cases hrow : row = r
    · subst hrow
      have hnot : row ∉ ((rows.zip bits).filter (·.2)).map (·.1) := by
        simp only [List.mem_map, List.mem_filter]
        rintro ⟨⟨a, b⟩, ⟨hab, -⟩, rfl⟩
        exact (List.nodup_cons.mp hnodup).1 (List.mem_append_left _ (List.of_mem_zip hab).1)
      cases bit <;> simp [hnot]
    · rw [beq_false_of_ne hrow, cond_false, List.getD_cons_succ, hrest]
      cases bit
      · exact Iff.rfl
      · simp only [if_true, List.map_cons, List.mem_cons, Ne.symm hrow, false_or]

theorem localApply_zero (params : Parameters) (store : Store) :
    localApply params 0 store = store.apply.map fun b => if b then 1 else 0 := by
  simp [localApply]

theorem eq_zero_of_mem_gatherAll_succ {params : Parameters} (hrank0 : params.printRank0 = true)
    {stores : List Store} {z : Int}
    (h : z ∈ gatherAll stores fun rank => localApply params (rank + 1)) : z = 0 := by
  obtain ⟨_, -, hz⟩ := List.mem_flatMap.mp h
  simp only [localApply, hrank0, true_and, Nat.add_one_ne_zero, ne_eq, not_false_eq_true,
    if_true, List.mem_map] at hz
  obtain ⟨_, -, rfl⟩ := hz
  rfl

/-- Under `printRank0`, with no gap in the original row numbers, the pages every rank prints
are headed, in order, by exactly the rows of rank `0` that its `where` clause selects inside
the window, ascending: no row of another rank is printed. -/
theorem printAllData_printRank0 {env : Env} {params : Parameters} {store : Store} {cache : Cache}
    (hrank0 : params.printRank0 = true) (s₀ : Store) (rest : List Store)
    (hdense : Dense (gatherAll (s₀ :: rest) fun _ store => store.index.map Int.ofNat))
    {lines : List String}
    (h : printAllData env params store cache ((s₀ :: rest).foldr (·.nlocs + ·) 0)
      (gatherAll (s₀ :: rest)) = .ok lines) :
    ∃ (locGroups : List (List Int)) (pages : List (List String)), lines = pages.flatten ∧
      List.Forall₂ (fun locGroup page => ∃ separator others, page =
          headerLine (getMaxVariableNameLength params cache) params.columnWidth locGroup ::
            separator :: others) locGroups pages ∧
      locGroups.flatten = ((List.range ((s₀ :: rest).foldr (·.nlocs + ·) 0)).map Int.ofNat).filter
        fun r => (window params.locmin params.locmax
            (((s₀ :: rest).foldr (·.nlocs + ·) 0 : Nat) : Int)).1 ≤ r ∧
          r < (window params.locmin params.locmax
            (((s₀ :: rest).foldr (·.nlocs + ·) 0 : Nat) : Int)).2 ∧
          r ∈ selectedRows s₀ := by
  have hidx := length_gatherAll_index (s₀ :: rest)
  obtain ⟨locGroups, pages, hlines, hheaders, hflat⟩ :=
    printAllData_headers hdense hidx (length_gatherAll_localApply params _) h
  refine ⟨locGroups, pages, hlines, hheaders, ?_⟩
  have hnodup := hdense.nodup
  rw [gatherAll_cons] at hnodup
  rw [hflat, referenceSelection, hdense.insertionSort, hidx]
  refine List.filter_congr fun r _ => ?_
  rw [gatherAll_cons, gatherAll_cons, localApply_zero]
  exact decide_eq_decide.mpr (and_congr_right fun _ => and_congr_right fun _ =>
    getD_indexOf_append (fun _ hz => eq_zero_of_mem_gatherAll_succ hrank0 hz) r _ _
      (by simp [s₀.apply_length, s₀.index_length]) hnodup)

/-- `narrowParams` with `printRank0` set and room for every location on one page. -/
def rank0Params : Parameters := ⟨[obsValueField], 0, 0, 80, 4, 2, false, true, none, false⟩

theorem printAllData_printRank0_twoRanks :
    rank0Params.printRank0 = true ∧
    Dense (gatherAll [twoRowStore, rowTwoStore] fun _ store => store.index.map Int.ofNat) ∧
    printAllData sampleEnv rank0Params twoRowStore threeRowCache
        ([twoRowStore, rowTwoStore].foldr (·.nlocs + ·) 0) (gatherAll [twoRowStore, rowTwoStore]) =
      .ok ["  Location |    0 |    1 | ", "-----------+------+------+-", "ObsValue/x |   10 |   20 | ",
        ""] ∧
    ∃ (locGroups : List (List Int)) (pages : List (List String)),
      ["  Location |    0 |    1 | ", "-----------+------+------+-", "ObsValue/x |   10 |   20 | ",
        ""] = pages.flatten ∧
      List.Forall₂ (fun locGroup page => ∃ separator others, page =
          headerLine (getMaxVariableNameLength rank0Params threeRowCache) rank0Params.columnWidth
            locGroup :: separator :: others) locGroups pages ∧
      locGroups.flatten =
        ((List.range ([twoRowStore, rowTwoStore].foldr (·.nlocs + ·) 0)).map Int.ofNat).filter
          fun r => (window rank0Params.locmin rank0Params.locmax
              ((([twoRowStore, rowTwoStore].foldr (·.nlocs + ·) 0 : Nat) : Int))).1 ≤ r ∧
            r < (window rank0Params.locmin rank0Params.locmax
              ((([twoRowStore, rowTwoStore].foldr (·.nlocs + ·) 0 : Nat) : Int))).2 ∧
            r ∈ selectedRows twoRowStore :=
  have hdense : Dense (gatherAll [twoRowStore, rowTwoStore] fun _ store =>
      store.index.map Int.ofNat) := by
    unfold Dense
    decide
  have hlines : printAllData sampleEnv rank0Params twoRowStore threeRowCache
      ([twoRowStore, rowTwoStore].foldr (·.nlocs + ·) 0) (gatherAll [twoRowStore, rowTwoStore]) =
      .ok ["  Location |    0 |    1 | ", "-----------+------+------+-",
        "ObsValue/x |   10 |   20 | ", ""] := rfl
  ⟨rfl, hdense, hlines, printAllData_printRank0 rfl twoRowStore [rowTwoStore] hdense hlines⟩

end Ufo
