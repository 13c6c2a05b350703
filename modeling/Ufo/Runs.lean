import Ufo.Table
import Ufo.Variant
import Ufo.Redistribution

namespace Ufo

/-! Runs of `doFilter` on one object over ranks whose stores agree: a call never fails once the
configuration is printable and the original row numbers have no gap, and nothing `filterData_`
keeps from earlier calls changes that. -/

theorem Store.Agree.trans {s t u : Store} (h : s.Agree t) (h' : t.Agree u) : s.Agree u :=
  ⟨h.has.trans h'.has, h.dtype.trans h'.dtype, h.nlevs.trans h'.nlevs,
    fun T group name => (h.getDb T group name).trans (h'.getDb T group name)⟩

theorem mapM_eq_ok {α β : Type} {f : α → Except Failure β} :
    ∀ {l : List α}, (∀ a ∈ l, ∃ b, f a = .ok b) → ∃ bs, l.mapM f = .ok bs
  | [], _ => ⟨[], rfl⟩
  | a :: l, h => by
    obtain ⟨b, hb⟩ := h a (.head _)
    obtain ⟨bs, hbs⟩ := mapM_eq_ok fun x hx => h x (.tail _ hx)
    exact ⟨b :: bs, by rw [List.mapM_cons, hb, ok_bind, hbs, ok_bind]; rfl⟩

/-! Every read of the render loop prints when its column holds the alternative it asks for and
the position is inside the column. -/

section
variable (env : Env) (params : Parameters) {datum : FilterDatum} {idx : Nat}

theorem printVariable_ok {T : VariableType} (halt : datum.alternative = T.stored)
    (hidx : idx < datum.length) : ∃ cell, printVariable env params T datum idx = .ok cell := by
  cases T <;> cases datum <;> simp only [FilterDatum.alternative, VariableType.stored,
    reduceCtorEq] at halt <;> simp only [FilterDatum.length] at hidx <;>
    exact ⟨_, by simp only [printVariable, printCell, read_of_lt hidx, ok_bind, pure_eq_ok]; rfl⟩

theorem printVariableCell_ok {store : Store} {p : VariablePrintParameters}
    (halt : readAlternative store p = some datum.alternative) (hidx : idx < datum.length) :
    ∃ cell, printVariableCell env params store p datum idx = .ok cell := by
  unfold printVariableCell
  unfold readAlternative at halt
  split
  · rename_i hml
    rw [if_pos hml, Option.some.injEq] at halt
    exact printVariable_ok env params halt.symm hidx
  · rename_i hml
    rw [if_neg hml] at halt
    unfold printTyped
    cases hd : store.dtype p.variable <;> rw [hd] at halt <;>
      simp only [elementAlternative, Option.some.injEq, reduceCtorEq] at halt
    all_goals exact printVariable_ok env params halt.symm hidx

end

section
variable (env : Env) {params : Parameters} {store : Store} {cache : Cache} {n : Nat}

/-- With a non-negative `columnWidth`, a page prints whenever `filterData_` is readable, its
columns hold `n` values, and every position of the page is below `n`. -/
theorem printPage_ok (hcw : 0 ≤ params.columnWidth) (hread : Readable store params.variables cache)
    (hcolumns : cache.Columns n) (maxVariableNameLength : Int) (locGroup : List Int)
    {idxGroup : List Nat} (hidx : ∀ idx ∈ idxGroup, idx < n) :
    ∃ page, printPage env params store cache maxVariableNameLength locGroup idxGroup = .ok page := by
  obtain ⟨rows, hrows⟩ := mapM_eq_ok (l := params.variables)
    (f := printVariableRows env params store cache maxVariableNameLength idxGroup)
    fun p hp => mapM_eq_ok fun ⟨key, datum⟩ hkd => by
      obtain ⟨hkey, hd⟩ := mem_foundKeys.mp hkd
      obtain ⟨cells, hcells⟩ := mapM_eq_ok fun idx hi =>
        printVariableCell_ok env params (hread p hp key hkey datum hd)
          ((hcolumns key datum hd).symm ▸ hidx idx hi)
      exact ⟨_, by dsimp only; rw [hcells, ok_bind]; rfl⟩
  exact ⟨_, by
    rw [printPage, separatorLine, if_neg fun h => absurd h.1 (by omega), ok_bind, hrows, ok_bind]
    rfl⟩

theorem mem_of_mem_groupRows {α : Type} {k : Nat} {xs group : List α} {x : α}
    (hgroup : group ∈ groupRows k xs) (hx : x ∈ group) : x ∈ xs := by
  rw [← flatten_groupRows k xs]
  exact List.mem_flatten.mpr ⟨group, hgroup, hx⟩

theorem mem_of_mem_referenceSelection {locmin locmax : Int} {globalApply globalIndex : List Int}
    {r : Int} (h : r ∈ (referenceSelection locmin locmax globalApply globalIndex).1) :
    r ∈ globalIndex :=
  (List.perm_insertionSort _ _).mem_iff.mp (List.mem_of_mem_filter h)

/-- The reference table prints whenever its pages do: every cell it reads is at the position
of a gathered row. -/
theorem referenceTable_ok {globalIndex : List Int} (hcw : 0 ≤ params.columnWidth)
    (hread : Readable store params.variables cache) (hcolumns : cache.Columns globalIndex.length)
    (maxVariableNameLength : Nat) (locmin locmax perRow : Int) (globalApply : List Int) :
    ∃ lines, referenceTable env params store cache maxVariableNameLength locmin locmax perRow
      globalApply globalIndex = .ok lines := by
  obtain ⟨pages, hpages⟩ := mapM_eq_ok
    (l := groupRows perRow.toNat (referenceSelection locmin locmax globalApply globalIndex).1)
    (f := fun locGroup => printPage env params store cache maxVariableNameLength locGroup
      (locGroup.map (globalIndex.indexOf ·)))
    fun locGroup hgroup => printPage_ok env hcw hread hcolumns _ _ fun idx hidx => by
        obtain ⟨loc, hloc, rfl⟩ := List.mem_map.mp hidx
        exact List.indexOf_lt_length.mpr
          (mem_of_mem_referenceSelection (mem_of_mem_groupRows hgroup hloc))
  exact ⟨_, by rw [referenceTable, hpages, ok_bind]; rfl⟩

end

/-! The columns gathered over the ranks hold one value per location of every rank. -/

/-- Every column the actions gather has `n` values. -/
def Sized (n : Nat) (actions : List Action) : Prop :=
  ∀ key datum, .allGatherv key datum ∈ actions → datum.length = n

section
variable {store : Store}

theorem sized_getData (T : VariableType) (var : Variable) :
    Sized store.nlocs (getData T store var) := by
  intro key datum h
  unfold getData at h
  split at h
  · obtain ⟨-, rfl⟩ : key = _ ∧ datum = _ := by simpa using h
    rw [toDatum_length, store.get_length]
  · obtain ⟨ich, -, hmem⟩ := List.mem_flatMap.mp h
    split at hmem
    · simp at hmem
    · rename_i values hvalues
      obtain ⟨-, rfl⟩ : key = _ ∧ datum = _ := by simpa using hmem
      rw [toDatum_length, store.getDb_length _ _ _ _ hvalues]

theorem sized_getMultiLevelData (var : Variable) (levels : List Int) :
    Sized store.nlocs (getMultiLevelData store var levels) := by
  intro key datum h
  obtain ⟨level, -, hmem⟩ := List.mem_flatMap.mp h
  dsimp only at hmem
  split at hmem
  · simp at hmem
  · obtain ⟨-, rfl⟩ : key = _ ∧ datum = _ := by simpa using hmem
    exact store.getLevel_length _ _

theorem sized_getVariableData {p : VariablePrintParameters} {actions : List Action}
    (hget : getVariableData store p = .ok actions) : Sized store.nlocs actions := by
  unfold getVariableData at hget
  dsimp only at hget
  split at hget
  · split at hget <;> simp only [Except.ok.injEq, reduceCtorEq] at hget <;> subst hget <;>
      (try split) <;> first | exact sized_getMultiLevelData _ _ | exact sized_getData _ _
  · rw [Except.ok.injEq] at hget
    subst hget
    intro _ _ h
    simp at h

theorem sized_getAllData : ∀ vars : List VariablePrintParameters,
    Sized store.nlocs (getAllData store vars)
  | [] => fun _ _ h => nomatch h
  | p :: ps => by
    intro key datum h
    rw [getAllData] at h
    cases hget : getVariableData store p with
    | error failure => simp [hget] at h
    | ok actions =>
      rw [hget] at h
      rcases List.mem_append.mp h with h | h
      · exact sized_getVariableData hget key datum h
      · exact sized_getAllData ps key datum h

end

theorem length_append_of_shape {column column' : FilterDatum} (h : column.shape = column'.shape) :
    (column.append column').length = column.length + column'.length := by
  cases column <;> cases column' <;> cases h <;> simp [FilterDatum.append, FilterDatum.length]

theorem sized_zipWith_gather {m k : Nat} :
    ∀ {xs ys : List Action}, xs.map Action.shape = ys.map Action.shape → Sized m xs → Sized k ys →
      Sized (m + k) (List.zipWith Action.gather xs ys)
  | [], _, _, _, _ => fun _ _ h => nomatch h
  | _ :: _, [], hshape, _, _ => absurd hshape (by simp)
  | x :: xs, y :: ys, hshape, hx, hy => by
    simp only [List.map_cons, List.cons.injEq] at hshape
    have hrest := sized_zipWith_gather hshape.2 (fun key datum h => hx key datum (.tail _ h))
      (fun key datum h => hy key datum (.tail _ h))
    intro key datum h
    rw [List.zipWith_cons_cons] at h
    rcases List.mem_cons.mp h with h | h
    · cases x <;> cases y <;> simp only [Action.shape, reduceCtorEq, false_and,
        Action.allGatherv.injEq] at hshape <;> simp only [Action.gather, reduceCtorEq,
        Action.allGatherv.injEq] at h
      obtain ⟨rfl, rfl⟩ := h
      rw [length_append_of_shape hshape.1.2, hx _ _ (.head _), hy _ _ (.head _)]
    · exact hrest key datum h

theorem sized_foldl_gather {store : Store} {vars : List VariablePrintParameters} :
    ∀ (rest : List Store), (∀ s ∈ rest, s.Agree store) → ∀ (acc : List Action) (m : Nat),
      acc.map Action.shape = (getAllData store vars).map Action.shape → Sized m acc →
      Sized (m + rest.foldr (·.nlocs + ·) 0)
        ((rest.map fun s => getAllData s vars).foldl (List.zipWith Action.gather) acc)
  | [], _, _, _, _, hacc => hacc
  | s :: rest, hagree, acc, m, hshape, hacc => by
    have hs := getAllData_shape (hagree s (.head _)) vars
    have hlen : acc.length ≤ (getAllData s vars).length := by
      rw [← List.length_map acc Action.shape, hshape, ← hs, List.length_map]
    have := sized_foldl_gather rest (fun t ht => hagree t (.tail _ ht)) _ _
      ((map_shape_zipWith_gather hlen).trans hshape)
      (sized_zipWith_gather (hshape.trans hs.symm) hacc (sized_getAllData vars))
    simpa only [List.map_cons, List.foldl_cons, List.foldr_cons, Nat.add_assoc] using this

/-- Over ranks whose stores agree, every gathered column holds the locations of all ranks. -/
theorem sized_gatherActions {store : Store} {vars : List VariablePrintParameters} :
    ∀ {stores : List Store}, (∀ s ∈ stores, s.Agree store) →
      Sized (stores.foldr (·.nlocs + ·) 0)
        (gatherActions (stores.map fun s => getAllData s vars))
  | [], _ => fun _ _ h => nomatch h
  | s₀ :: rest, hagree =>
    sized_foldl_gather rest (fun t ht => hagree t (.tail _ ht)) _ s₀.nlocs
      (getAllData_shape (hagree s₀ (.head _)) vars) (sized_getAllData vars)

/-! A call over ranks whose stores agree. -/

theorem storedKeys_map_shape (actions : List Action) :
    storedKeys (actions.map Action.shape) = storedKeys actions := by
  induction actions with
  | nil => rfl
  | cons a actions ih => cases a <;> simp [Action.shape, ih]

theorem storedKeys_agree {s t : Store} (h : s.Agree t) (vars : List VariablePrintParameters) :
    storedKeys (getAllData s vars) = storedKeys (getAllData t vars) := by
  rw [← storedKeys_map_shape, getAllData_shape h, storedKeys_map_shape]

/-- Over ranks whose stores agree with `store`, the keys gathered are those `store` stores. -/
theorem storedKeys_gatherActions {store : Store} {vars : List VariablePrintParameters} :
    ∀ {stores : List Store}, stores ≠ [] → (∀ s ∈ stores, s.Agree store) →
      storedKeys (gatherActions (stores.map fun s => getAllData s vars)) =
        storedKeys (getAllData store vars)
  | [], hne, _ => absurd rfl hne
  | s₀ :: rest, _, hagree => by
    have hranks : ∀ r ∈ rest.map fun s => getAllData s vars,
        r.map Action.shape = (getAllData s₀ vars).map Action.shape := by
      intro r hr
      obtain ⟨s, hs, rfl⟩ := List.mem_map.mp hr
      rw [getAllData_shape ((hagree s (.tail _ hs)).trans (hagree s₀ (.head _)).symm)]
    rw [List.map_cons, ← storedKeys_map_shape, map_shape_gatherActions hranks, storedKeys_map_shape,
      storedKeys_agree (hagree s₀ (.head _))]

/-- The object after a call: its parameters, and the gathered columns written to
`filterData_`. -/
theorem doFilterOn_snd (env : Env) (self : PrintFilterData) (stores : List Store) (store : Store) :
    (self.doFilterOn env stores store).2 = ⟨self.parameters, writeFilterData self.filterData
      (gatherActions (stores.map fun s => getAllData s self.parameters.variables))⟩ := by
  unfold PrintFilterData.doFilterOn
  dsimp only
  split <;> rfl

theorem setup_ok {params : Parameters} {maxVariableNameLength globalNumLocs : Nat}
    (hwindow : (window params.locmin params.locmax globalNumLocs).1 ≤
      (window params.locmin params.locmax globalNumLocs).2)
    (hcw : 0 ≤ params.columnWidth) :
    setup params maxVariableNameLength globalNumLocs =
      .ok ((window params.locmin params.locmax globalNumLocs).1,
        (window params.locmin params.locmax globalNumLocs).2,
        nlocsPerRow params.maxTextWidth maxVariableNameLength params.columnWidth) := by
  rw [setup_eq, if_neg (Int.not_lt.mpr hwindow), if_neg (by omega)]

/-- `printAllData` prints, and throws nothing, when the window passes, `columnWidth` is
non-negative, the original row numbers have no gap, and `filterData_` is readable with a value
per location in every column. -/
theorem printAllData_ok (env : Env) {params : Parameters} {store : Store} {cache : Cache}
    {globalNumLocs : Nat} {allGatherv : AllGatherv}
    (hdense : Dense (allGatherv fun _ store => store.index.map Int.ofNat))
    (hn : (allGatherv fun _ store => store.index.map Int.ofNat).length = globalNumLocs)
    (happly : (allGatherv (localApply params)).length = globalNumLocs)
    (hwindow : (window params.locmin params.locmax globalNumLocs).1 ≤
      (window params.locmin params.locmax globalNumLocs).2)
    (hcw : 0 ≤ params.columnWidth) (hread : Readable store params.variables cache)
    (hcolumns : cache.Columns globalNumLocs) :
    ∃ lines, printAllData env params store cache globalNumLocs allGatherv = .ok lines := by
  rw [printAllData_of_setup env params store cache allGatherv hdense hn happly
    (setup_ok hwindow hcw)]
  exact referenceTable_ok env hcw hread (hn.symm ▸ hcolumns) _ _ _ _ _

/-- The columns gathered over ranks that agree hold the locations of all ranks. -/
theorem columns_gathered {store : Store} {stores : List Store} {vars : List VariablePrintParameters}
    (hagree : ∀ s ∈ stores, s.Agree store) :
    (writeFilterData Cache.empty (gatherActions (stores.map fun s => getAllData s vars))).Columns
      (stores.foldr (·.nlocs + ·) 0) := fun key datum h => by
  rcases mem_of_writeFilterData h with h | h
  · exact sized_gatherActions hagree key datum h
  · cases h

section
variable {env : Env} {self : PrintFilterData} {stores : List Store} {store : Store}

/-- A call on a rank whose store agrees with every rank's prints, and throws nothing, when every
present declared field has a printable type (`Float` if multi-level), declared fields sharing a
Display Key have one type, the window passes, `columnWidth` is non-negative, the original row
numbers have no gap, and this call stores again every key earlier calls cached. -/
theorem doFilterOn_ok (hmem : store ∈ stores) (hagree : ∀ s ∈ stores, s.Agree store)
    (hsupported : ∀ p ∈ self.parameters.variables, store.has p.variable →
      store.dtype p.variable ≠ .other)
    (hfloat : ∀ p ∈ self.parameters.variables, store.has p.variable →
      isMultiLevelData p.variable → store.dtype p.variable = .float)
    (hkeys : ∀ p ∈ self.parameters.variables, ∀ q ∈ self.parameters.variables,
      ∀ key ∈ renderKeys store p, key ∈ renderKeys store q →
        store.dtype p.variable = store.dtype q.variable)
    (hcw : 0 ≤ self.parameters.columnWidth)
    (hwindow : (window self.parameters.locmin self.parameters.locmax
        ((stores.foldr (·.nlocs + ·) 0 : Nat) : Int)).1 ≤
      (window self.parameters.locmin self.parameters.locmax
        ((stores.foldr (·.nlocs + ·) 0 : Nat) : Int)).2)
    (hdense : Dense (gatherAll stores fun _ store => store.index.map Int.ofNat))
    (hcached : ∀ key, (self.filterData key).isSome →
      key ∈ storedKeys (getAllData store self.parameters.variables)) :
    ∃ lines, (self.doFilterOn env stores store).1 = .ok lines := by
  have hgathered : storedKeys (gatherActions (stores.map fun s =>
      getAllData s self.parameters.variables)) =
      storedKeys (getAllData store self.parameters.variables) :=
    storedKeys_gatherActions (List.ne_nil_of_mem hmem) hagree
  unfold PrintFilterData.doFilterOn
  dsimp only
  rw [thrown_eq_none (getAllData_accounts hsupported hfloat),
    writeFilterData_of_stored _ _ fun key hkey => hgathered ▸ hcached key hkey]
  obtain ⟨lines, hlines⟩ := printAllData_ok env hdense (length_gatherAll_index stores)
    (length_gatherAll_localApply _ stores) hwindow hcw
    (readable_writeFilterData hfloat hkeys (fun _ _ h => gatherActions_stores hagree hfloat h)
      (readable_empty _ _)) (columns_gathered hagree)
  rw [hlines]
  exact ⟨_, rfl⟩

end

/-! Runs of calls on one object. -/

/-- The objects a run of calls leaves behind, from a fresh object with parameters `params`, when
every call runs over ranks whose stores agree with `ref`, the calling rank among them. -/
inductive Reachable (params : Parameters) (ref : Store) : PrintFilterData → Prop
  | init : Reachable params ref (.init params)
  | call {self : PrintFilterData} (env : Env) {stores : List Store} {store : Store} :
      Reachable params ref self → store ∈ stores → (∀ s ∈ stores, s.Agree ref) →
      Reachable params ref (self.doFilterOn env stores store).2

section
variable {params : Parameters} {ref : Store} {self : PrintFilterData}

theorem Reachable.parameters (h : Reachable params ref self) : self.parameters = params := by
  induction h with
  | init => rfl
  | call env _ _ _ ih => rw [doFilterOn_snd]; exact ih

/-- Along a run, `filterData_` holds only keys every call stores again. -/
theorem Reachable.cached (h : Reachable params ref self) :
    ∀ key, (self.filterData key).isSome → key ∈ storedKeys (getAllData ref params.variables) := by
  induction h with
  | init => intro key hkey; cases hkey
  | call env hreach hmem hagree ih =>
    intro key hkey
    rw [doFilterOn_snd, writeFilterData_isSome, hreach.parameters,
      storedKeys_gatherActions (List.ne_nil_of_mem hmem) hagree] at hkey
    exact hkey.elim id (ih key)

/-- Along a run over ranks that agree, a call prints, and leaves behind, what a fresh object
would: nothing earlier calls cached shows through. -/
theorem doFilterOn_run_eq_fresh (hreach : Reachable params ref self) (env : Env)
    {stores : List Store} {store : Store} (hmem : store ∈ stores)
    (hagree : ∀ s ∈ stores, s.Agree ref) :
    self.doFilterOn env stores store = (PrintFilterData.init params).doFilterOn env stores store := by
  have hcached := hreach.cached
  rw [← storedKeys_gatherActions (List.ne_nil_of_mem hmem) hagree, ← hreach.parameters] at hcached
  unfold PrintFilterData.doFilterOn PrintFilterData.init
  dsimp only
  rw [writeFilterData_of_stored _ _ hcached, hreach.parameters]

end

/-- Two ranks, each holding one row of the `ObsValue` field. -/
def twoRanks : List Store := [obsValueStore, obsValueStoreRank1]

theorem agree_twoRanks : ∀ s ∈ twoRanks, s.Agree obsValueStore :=
  List.forall_mem_cons.mpr ⟨.refl _, List.forall_mem_cons.mpr
    ⟨obsValueStore_agree.symm, fun _ h => nomatch h⟩⟩

/-- The object after a first call of a run over `twoRanks`, seen from rank `0`. -/
def calledObject : PrintFilterData :=
  ((PrintFilterData.init gappedParams).doFilterOn sampleEnv twoRanks obsValueStore).2

theorem reachable_calledObject : Reachable gappedParams obsValueStore calledObject :=
  .call sampleEnv .init (.head _) agree_twoRanks

theorem doFilterOn_run_eq_fresh_twoRanks :
    Reachable gappedParams obsValueStore calledObject ∧ obsValueStoreRank1 ∈ twoRanks ∧
    (∀ s ∈ twoRanks, s.Agree obsValueStore) ∧
    calledObject.doFilterOn sampleEnv twoRanks obsValueStoreRank1 =
      (PrintFilterData.init gappedParams).doFilterOn sampleEnv twoRanks obsValueStoreRank1 :=
  ⟨reachable_calledObject, .tail _ (.head _), agree_twoRanks,
    doFilterOn_run_eq_fresh reachable_calledObject sampleEnv (.tail _ (.head _)) agree_twoRanks⟩

section
variable {params : Parameters} {ref : Store} {self : PrintFilterData}

/-- Along a run over ranks that agree with `ref`, no call throws, whatever the number of ranks,
the distribution of the rows and the calls before it, when every present declared field has a
printable type (`Float` if multi-level), declared fields sharing a Display Key have one type,
the window passes, `columnWidth` is non-negative, and the original row numbers have no gap. -/
theorem doFilterOn_never_fails (hreach : Reachable params ref self)
    (hsupported : ∀ p ∈ params.variables, ref.has p.variable → ref.dtype p.variable ≠ .other)
    (hfloat : ∀ p ∈ params.variables, ref.has p.variable → isMultiLevelData p.variable →
      ref.dtype p.variable = .float)
    (hkeys : ∀ p ∈ params.variables, ∀ q ∈ params.variables, ∀ key ∈ renderKeys ref p,
      key ∈ renderKeys ref q → ref.dtype p.variable = ref.dtype q.variable)
    (hcw : 0 ≤ params.columnWidth) (env : Env) {stores : List Store} {store : Store}
    (hmem : store ∈ stores) (hagree : ∀ s ∈ stores, s.Agree ref)
    (hwindow : (window params.locmin params.locmax ((stores.foldr (·.nlocs + ·) 0 : Nat) : Int)).1 ≤
      (window params.locmin params.locmax ((stores.foldr (·.nlocs + ·) 0 : Nat) : Int)).2)
    (hdense : Dense (gatherAll stores fun _ store => store.index.map Int.ofNat)) :
    ∃ lines, (self.doFilterOn env stores store).1 = .ok lines := by
  have hstore := hagree store hmem
  have hp := hreach.parameters
  refine doFilterOn_ok hmem (fun s hs => (hagree s hs).trans hstore.symm) ?_ ?_ ?_ (hp ▸ hcw)
    (hp ▸ hwindow) hdense ?_
  all_goals rw [hp]
  · rw [hstore.has, hstore.dtype]; exact hsupported
  · rw [hstore.has, hstore.dtype]; exact hfloat
  · simp only [renderKeys_agree hstore, hstore.dtype]; exact hkeys
  · rw [storedKeys_agree hstore]; exact hreach.cached

end

theorem doFilterOn_never_fails_twoRanks :
    Reachable gappedParams obsValueStore calledObject ∧
    (∀ p ∈ gappedParams.variables, obsValueStore.has p.variable →
      obsValueStore.dtype p.variable ≠ .other) ∧
    (∀ p ∈ gappedParams.variables, obsValueStore.has p.variable → isMultiLevelData p.variable →
      obsValueStore.dtype p.variable = .float) ∧
    (∀ p ∈ gappedParams.variables, ∀ q ∈ gappedParams.variables,
      ∀ key ∈ renderKeys obsValueStore p, key ∈ renderKeys obsValueStore q →
        obsValueStore.dtype p.variable = obsValueStore.dtype q.variable) ∧
    0 ≤ gappedParams.columnWidth ∧ obsValueStoreRank1 ∈ twoRanks ∧
    (∀ s ∈ twoRanks, s.Agree obsValueStore) ∧
    (window gappedParams.locmin gappedParams.locmax
        ((twoRanks.foldr (·.nlocs + ·) 0 : Nat) : Int)).1 ≤
      (window gappedParams.locmin gappedParams.locmax
        ((twoRanks.foldr (·.nlocs + ·) 0 : Nat) : Int)).2 ∧
    Dense (gatherAll twoRanks fun _ store => store.index.map Int.ofNat) ∧
    ∃ lines, (calledObject.doFilterOn sampleEnv twoRanks obsValueStoreRank1).1 = .ok lines :=
  have hsupported : ∀ p ∈ gappedParams.variables, obsValueStore.has p.variable →
      obsValueStore.dtype p.variable ≠ .other := by decide
  have hfloat : ∀ p ∈ gappedParams.variables, obsValueStore.has p.variable →
      isMultiLevelData p.variable → obsValueStore.dtype p.variable = .float := by decide
  have hkeys : ∀ p ∈ gappedParams.variables, ∀ q ∈ gappedParams.variables,
      ∀ key ∈ renderKeys obsValueStore p, key ∈ renderKeys obsValueStore q →
        obsValueStore.dtype p.variable = obsValueStore.dtype q.variable := by decide
  have hwindow : (window gappedParams.locmin gappedParams.locmax
      ((twoRanks.foldr (·.nlocs + ·) 0 : Nat) : Int)).1 ≤
      (window gappedParams.locmin gappedParams.locmax
        ((twoRanks.foldr (·.nlocs + ·) 0 : Nat) : Int)).2 := by decide
  have hdense : Dense (gatherAll twoRanks fun _ store => store.index.map Int.ofNat) := by
    unfold Dense
    decide
  ⟨reachable_calledObject, hsupported, hfloat, hkeys, by decide, .tail _ (.head _), agree_twoRanks,
    hwindow, hdense, doFilterOn_never_fails reachable_calledObject hsupported hfloat hkeys
      (by decide) sampleEnv (.tail _ (.head _)) agree_twoRanks hwindow hdense⟩

end Ufo
