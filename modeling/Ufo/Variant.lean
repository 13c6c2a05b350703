import Ufo.Ranks

namespace Ufo

/-! The `boost::variant` of `filterData_`: the alternative `getAllData` stores under each Display
Key, against the alternative the `boost::get` of the render loop asks for. -/

/-- The alternative `getData<T>` stores its vector as: `bool` is converted to `int`. -/
def VariableType.stored : VariableType → VariableType
  | .bool => .int
  | T => T

@[simp] theorem alternative_toDatum (T : VariableType) (xs : List T.Elem) :
    (T.toDatum xs).alternative = T.stored := by
  cases T <;> rfl

/-- The alternative of `filterData_` that both type switches, of `getAllData` (lines 167-187)
and of the render loop (lines 368-386), give an element type: `bool` as `int`, none for the
types outside the switch. -/
def elementAlternative : ObsDtype → Option VariableType
  | .integer => some .int
  | .float => some .float
  | .string => some .string
  | .dateTime => some .dateTime
  | .bool => some .int
  | .other => none

/-- The alternative `printVariable` asks `boost::get` for under a Display Key of `p`: `float`
for multi-level data (line 355), else by element type. -/
def readAlternative (store : Store) (p : VariablePrintParameters) : Option VariableType :=
  if isMultiLevelData p.variable then some .float else elementAlternative (store.dtype p.variable)

/-- `boost::get` in `printVariable` throws exactly when the datum holds another alternative. -/
theorem printVariable_eq_badGet (env : Env) (params : Parameters) (T : VariableType)
    (datum : FilterDatum) (loc : Nat) :
    printVariable env params T datum loc = .error .badGet ↔
      datum.alternative ≠ T.stored := by
  cases T <;> cases datum <;>
    first
    | exact iff_of_true rfl nofun
    | exact iff_of_false (bind_ne_error (read_ne_badGet _ _) fun _ _ => nofun) fun h => h rfl

theorem printVariableCell_eq_badGet (env : Env) (params : Parameters) (store : Store)
    (p : VariablePrintParameters) (datum : FilterDatum) (idx : Nat) :
    printVariableCell env params store p datum idx = .error .badGet ↔
      ∃ T, readAlternative store p = some T ∧ datum.alternative ≠ T := by
  have hread : ∀ U, (∃ T, some U = some T ∧ datum.alternative ≠ T) ↔ datum.alternative ≠ U :=
    fun U => ⟨fun ⟨_, hT, h⟩ => Option.some.inj hT ▸ h, fun h => ⟨U, rfl, h⟩⟩
  unfold printVariableCell readAlternative
  split
  · rw [printVariable_eq_badGet, hread]
    rfl
  · cases store.dtype p.variable
    case other => exact iff_of_false nofun fun ⟨_, hT, _⟩ => nomatch hT
    all_goals rw [printTyped, printVariable_eq_badGet, elementAlternative, hread]; rfl

theorem separatorLine_ne_badGet (maxVariableNameLength columnWidth : Int) (locGroup : List Int) :
    separatorLine maxVariableNameLength columnWidth locGroup ≠ .error .badGet := by
  unfold separatorLine
  split <;> nofun

theorem setup_ne_badGet (params : Parameters) (maxVariableNameLength globalNumLocs : Nat) :
    setup params maxVariableNameLength globalNumLocs ≠ .error .badGet := by
  rw [setup_eq]
  split_ifs <;> nofun

theorem selectLocations_ne_badGet (locmin locmax : Int) (globalApply : List Int)
    (sortIndices : List Nat) (locs : List Int) :
    selectLocations locmin locmax globalApply sortIndices locs ≠ .error .badGet := by
  by_cases h : ∀ loc ∈ locs, ReadsInRange locmin locmax globalApply sortIndices loc
  · rw [selectLocations_eq h]
    nofun
  · rw [selectLocations_error h]
    nofun

theorem locationsToPrint_ne_badGet (nlocs : Nat) (locmin locmax : Int)
    (globalApply globalIndex : List Int) :
    locationsToPrint nlocs locmin locmax globalApply globalIndex ≠ .error .badGet :=
  bind_ne_error (mapM_ne_error fun _ _ => read_ne_badGet _ _) fun _ _ =>
    selectLocations_ne_badGet _ _ _ _ _

/-- Every Display Key the render loop looks up for a declared variable, when `filterData_`
holds it, holds the alternative the read expects. -/
def Readable (store : Store) (vars : List VariablePrintParameters) (cache : Cache) : Prop :=
  ∀ p ∈ vars, ∀ key ∈ renderKeys store p, ∀ datum, cache key = some datum →
    readAlternative store p = some datum.alternative

section
variable {env : Env} {params : Parameters} {store : Store} {cache : Cache}

theorem printVariableRows_ne_badGet {p : VariablePrintParameters}
    (h : ∀ key ∈ renderKeys store p, ∀ datum, cache key = some datum →
      readAlternative store p = some datum.alternative)
    (maxVariableNameLength : Int) (idxGroup : List Nat) :
    printVariableRows env params store cache maxVariableNameLength idxGroup p ≠ .error .badGet := by
  refine mapM_ne_error fun ⟨varname, datum⟩ hkd => ?_
  obtain ⟨hkey, hd⟩ := mem_foundKeys.mp hkd
  refine bind_ne_error (mapM_ne_error fun idx _ => ?_) fun _ _ => nofun
  rw [Ne, printVariableCell_eq_badGet]
  rintro ⟨T, hT, hne⟩
  exact hne (Option.some.inj ((h varname hkey datum hd).symm.trans hT))

theorem printPage_ne_badGet (h : Readable store params.variables cache)
    (maxVariableNameLength : Int) (locGroup : List Int) (idxGroup : List Nat) :
    printPage env params store cache maxVariableNameLength locGroup idxGroup ≠ .error .badGet :=
  bind_ne_error (separatorLine_ne_badGet _ _ _) fun _ _ =>
    bind_ne_error (mapM_ne_error fun p hp => printVariableRows_ne_badGet (h p hp) _ _)
      fun _ _ => nofun

/-- A readable `filterData_` never makes `printAllData` throw `bad_get`. -/
theorem printAllData_ne_badGet (h : Readable store params.variables cache) (globalNumLocs : Nat)
    (allGatherv : AllGatherv) :
    printAllData env params store cache globalNumLocs allGatherv ≠ .error .badGet := by
  rw [printAllData_eq]
  exact bind_ne_error (setup_ne_badGet _ _ _) fun _ _ =>
    bind_ne_error (locationsToPrint_ne_badGet _ _ _ _ _) fun _ _ =>
      bind_ne_error (mapM_ne_error fun _ _ => printPage_ne_badGet h _ _ _) fun _ _ => nofun

end

section
variable {store : Store} {key : String} {datum : FilterDatum}

theorem getData_stores {T : VariableType} {var : Variable}
    (h : .allGatherv key datum ∈ getData T store var) :
    key ∈ (List.range var.size).map (getVariableNameWithChannel var) ∧
      datum.alternative = T.stored := by
  unfold getData at h
  split at h
  · obtain ⟨rfl, rfl⟩ : key = _ ∧ datum = _ := by simpa using h
    exact ⟨List.mem_map.mpr ⟨0, List.mem_range.mpr var.size_pos, rfl⟩, alternative_toDatum _ _⟩
  · obtain ⟨ich, hich, hmem⟩ := List.mem_flatMap.mp h
    split at hmem
    · simp at hmem
    · obtain ⟨rfl, rfl⟩ : key = _ ∧ datum = _ := by simpa using hmem
      exact ⟨List.mem_map.mpr ⟨ich, hich, rfl⟩, alternative_toDatum _ _⟩

theorem getMultiLevelData_stores {var : Variable} {levels : List Int}
    (h : .allGatherv key datum ∈ getMultiLevelData store var levels) :
    key ∈ levels.map (getVariableNameAtLevel var.fullName) ∧ datum.alternative = .float := by
  obtain ⟨level, hlevel, hmem⟩ := List.mem_flatMap.mp h
  dsimp only at hmem
  split at hmem
  · simp at hmem
  · obtain ⟨rfl, rfl⟩ : key = _ ∧ datum = _ := by simpa using hmem
    exact ⟨List.mem_map.mpr ⟨level, hlevel, rfl⟩, rfl⟩

theorem getVariableData_stores {p : VariablePrintParameters} {actions : List Action}
    (hfloat : store.has p.variable → isMultiLevelData p.variable → store.dtype p.variable = .float)
    (hget : getVariableData store p = .ok actions) (h : .allGatherv key datum ∈ actions) :
    key ∈ renderKeys store p ∧ readAlternative store p = some datum.alternative := by
  unfold getVariableData at hget
  dsimp only at hget
  split at hget
  · rename_i hhas
    by_cases hml : isMultiLevelData p.variable
    · simp only [hfloat hhas hml, hml, if_true, Except.ok.injEq] at hget
      subst hget
      obtain ⟨hk, halt⟩ := getMultiLevelData_stores h
      simp [renderKeys, readAlternative, hhas, hml, hk, halt]
    · have hrender : renderKeys store p =
          (List.range p.variable.size).map (getVariableNameWithChannel p.variable) := by
        simp [renderKeys, hhas, hml]
      rw [hrender, readAlternative, if_neg hml]
      cases hd : store.dtype p.variable <;> simp only [hd, hml, if_false, Bool.false_eq_true,
        Except.ok.injEq, reduceCtorEq] at hget <;> subst hget <;>
        exact ⟨(getData_stores h).1, by rw [(getData_stores h).2]; rfl⟩
  · simp only [Except.ok.injEq] at hget
    subst hget
    simp at h

theorem getAllData_stores {vars : List VariablePrintParameters}
    (hfloat : ∀ p ∈ vars, store.has p.variable → isMultiLevelData p.variable →
      store.dtype p.variable = .float)
    (h : .allGatherv key datum ∈ getAllData store vars) :
    ∃ q ∈ vars, key ∈ renderKeys store q ∧ readAlternative store q = some datum.alternative := by
  induction vars with
  | nil => simp [getAllData] at h
  | cons p ps ih =>
    rw [getAllData] at h
    cases hget : getVariableData store p with
    | error failure => simp [hget] at h
    | ok actions =>
      rw [hget] at h
      rcases List.mem_append.mp h with h | h
      · exact ⟨p, .head _, getVariableData_stores (hfloat p (.head _)) hget h⟩
      · obtain ⟨q, hq, hqkey⟩ := ih (fun q hq => hfloat q (.tail _ hq)) h
        exact ⟨q, .tail _ hq, hqkey⟩

theorem has_of_mem_renderKeys {p : VariablePrintParameters} (h : key ∈ renderKeys store p) :
    store.has p.variable := by
  by_contra hhas
  simp [renderKeys, hhas] at h

/-- Two present fields of one element type, each multi-level only if `Float`, are read as the
same alternative. -/
theorem readAlternative_eq {p q : VariablePrintParameters} (hp : store.has p.variable)
    (hq : store.has q.variable)
    (hfloatp : store.has p.variable → isMultiLevelData p.variable → store.dtype p.variable = .float)
    (hfloatq : store.has q.variable → isMultiLevelData q.variable → store.dtype q.variable = .float)
    (hdtype : store.dtype p.variable = store.dtype q.variable) :
    readAlternative store p = readAlternative store q := by
  unfold readAlternative
  by_cases hmlp : isMultiLevelData p.variable <;> by_cases hmlq : isMultiLevelData q.variable
  · simp [hmlp, hmlq]
  · simp [hmlp, hmlq, ← hdtype, hfloatp hp hmlp, elementAlternative]
  · simp [hmlp, hmlq, hdtype, hfloatq hq hmlq, elementAlternative]
  · simp [hmlp, hmlq, hdtype]

/-- Writing columns each stored as a declared field is read keeps `filterData_` readable, when
fields sharing a key share an element type. -/
theorem readable_writeFilterData {vars : List VariablePrintParameters} {cache : Cache}
    {actions : List Action}
    (hfloat : ∀ p ∈ vars, store.has p.variable → isMultiLevelData p.variable →
      store.dtype p.variable = .float)
    (hkeys : ∀ p ∈ vars, ∀ q ∈ vars, ∀ key ∈ renderKeys store p, key ∈ renderKeys store q →
      store.dtype p.variable = store.dtype q.variable)
    (hstored : ∀ key datum, .allGatherv key datum ∈ actions →
      ∃ q ∈ vars, key ∈ renderKeys store q ∧ readAlternative store q = some datum.alternative)
    (hcache : Readable store vars cache) :
    Readable store vars (writeFilterData cache actions) := by
  intro p hp key hkey datum hd
  rcases mem_of_writeFilterData hd with hmem | hc
  · obtain ⟨q, hq, hkq, halt⟩ := hstored key datum hmem
    rw [← halt]
    exact readAlternative_eq (has_of_mem_renderKeys hkey) (has_of_mem_renderKeys hkq)
      (hfloat p hp) (hfloat q hq) (hkeys p hp q hq key hkey hkq)
  · exact hcache p hp key hkey datum hc

theorem throw_not_mem_getData {T : VariableType} {var : Variable} {failure : Failure} :
    .throw failure ∉ getData T store var := by
  unfold getData
  split
  · simp
  · simp only [List.mem_flatMap, not_exists, not_and]
    intro ich _
    split <;> simp

theorem throw_not_mem_getVariableData {p : VariablePrintParameters} {actions : List Action}
    {failure : Failure} (hget : getVariableData store p = .ok actions) :
    .throw failure ∉ actions := by
  unfold getVariableData at hget
  dsimp only at hget
  split at hget
  · cases hd : store.dtype p.variable <;>
      simp only [hd, Except.ok.injEq, reduceCtorEq] at hget <;> subst hget
    case float =>
      split
      · simp only [getMultiLevelData, List.mem_flatMap, not_exists, not_and]
        intro level _
        split <;> simp
      · exact throw_not_mem_getData
    all_goals exact throw_not_mem_getData
  · simp only [Except.ok.injEq] at hget
    subst hget
    simp

theorem mem_of_thrown {actions : List Action} {failure : Failure}
    (h : thrown actions = some failure) : .throw failure ∈ actions := by
  induction actions with
  | nil => cases h
  | cons a actions ih =>
    cases a with
    | throw f => exact Option.some.inj h ▸ .head _
    | note line => exact .tail _ (ih h)
    | allGatherv k column => exact .tail _ (ih h)

theorem getVariableData_error {p : VariablePrintParameters} {failure : Failure}
    (h : getVariableData store p = .error failure) :
    failure = .badParameter "Invalid variable type for printing" := by
  unfold getVariableData at h
  dsimp only at h
  split at h
  · split at h <;> cases h
    rfl
  · cases h

theorem throw_mem_getAllData {vars : List VariablePrintParameters} {failure : Failure}
    (h : .throw failure ∈ getAllData store vars) :
    failure = .badParameter "Invalid variable type for printing" := by
  induction vars with
  | nil => simp [getAllData] at h
  | cons p ps ih =>
    rw [getAllData] at h
    cases hget : getVariableData store p with
    | error f =>
      rw [hget] at h
      obtain rfl : failure = f := by simpa using h
      exact getVariableData_error hget
    | ok actions =>
      rw [hget] at h
      rcases List.mem_append.mp h with h | h
      · exact absurd h (throw_not_mem_getVariableData hget)
      · exact ih h

end

theorem readable_empty (store : Store) (vars : List VariablePrintParameters) :
    Readable store vars Cache.empty :=
  fun _ _ _ _ _ h => nomatch h

/-- When every present multi-level field is `Float` and Display Keys shared by declared
fields belong to fields of one element type, a call on an object whose `filterData_` is
readable leaves it readable, and never throws `bad_get`. -/
theorem doFilter_reads_stored_alternative (env : Env) (self : PrintFilterData) (store : Store)
    (hfloat : ∀ p ∈ self.parameters.variables, store.has p.variable →
      isMultiLevelData p.variable → store.dtype p.variable = .float)
    (hkeys : ∀ p ∈ self.parameters.variables, ∀ q ∈ self.parameters.variables,
      ∀ key ∈ renderKeys store p, key ∈ renderKeys store q →
        store.dtype p.variable = store.dtype q.variable)
    (hcache : Readable store self.parameters.variables self.filterData) :
    Readable store self.parameters.variables (self.doFilter env store).2.filterData ∧
      (self.doFilter env store).1 ≠ .error .badGet := by
  have hread := readable_writeFilterData hfloat hkeys (fun _ _ h => getAllData_stores hfloat h)
    hcache
  unfold PrintFilterData.doFilter PrintFilterData.doFilterOn
  dsimp only
  cases hthrown : thrown (getAllData store self.parameters.variables) with
  | some failure => exact ⟨hread, by rw [throw_mem_getAllData (mem_of_thrown hthrown)]; nofun⟩
  | none => exact ⟨hread, fun h => printAllData_ne_badGet hread _ _ (map_eq_error h)⟩

/-- Two calls on one object, the second on a store with another row and value, each reading a
`Float` level of `GeoVaLs/t` beside the `int` channels of `ObsValue/x`. -/
theorem doFilter_reads_stored_alternative_twoCalls :
    (∀ p ∈ levelChannelParams.variables, (levelChannelStore 1 9).has p.variable →
      isMultiLevelData p.variable → (levelChannelStore 1 9).dtype p.variable = .float) ∧
    (∀ p ∈ levelChannelParams.variables, ∀ q ∈ levelChannelParams.variables,
      ∀ key ∈ renderKeys (levelChannelStore 1 9) p, key ∈ renderKeys (levelChannelStore 1 9) q →
        (levelChannelStore 1 9).dtype p.variable = (levelChannelStore 1 9).dtype q.variable) ∧
    Readable (levelChannelStore 1 9) levelChannelParams.variables ((PrintFilterData.init
      levelChannelParams).doFilter sampleEnv (levelChannelStore 0 7)).2.filterData ∧
    Readable (levelChannelStore 1 9) levelChannelParams.variables (((PrintFilterData.init
      levelChannelParams).doFilter sampleEnv (levelChannelStore 0 7)).2.doFilter sampleEnv
        (levelChannelStore 1 9)).2.filterData ∧
    (((PrintFilterData.init levelChannelParams).doFilter sampleEnv (levelChannelStore 0 7)).2.doFilter
      sampleEnv (levelChannelStore 1 9)).1 ≠ .error .badGet :=
  have hfloat : ∀ p ∈ levelChannelParams.variables, (levelChannelStore 1 9).has p.variable →
      isMultiLevelData p.variable → (levelChannelStore 1 9).dtype p.variable = .float := by decide
  have hkeys : ∀ p ∈ levelChannelParams.variables, ∀ q ∈ levelChannelParams.variables,
      ∀ key ∈ renderKeys (levelChannelStore 1 9) p, key ∈ renderKeys (levelChannelStore 1 9) q →
        (levelChannelStore 1 9).dtype p.variable = (levelChannelStore 1 9).dtype q.variable := by
    decide
  have hfirst := doFilter_reads_stored_alternative sampleEnv (.init levelChannelParams)
    (levelChannelStore 0 7) hfloat hkeys (readable_empty _ _)
  ⟨hfloat, hkeys, hfirst.1,
    doFilter_reads_stored_alternative sampleEnv ((PrintFilterData.init levelChannelParams).doFilter
      sampleEnv (levelChannelStore 0 7)).2 (levelChannelStore 1 9) hfloat hkeys hfirst.1⟩

/-- A `GeoVaLs` field named as level `0` of `GeoVaLs/x` is: `getAllData` stores its `int`
column under the key the render loop looks up for level `0` of `GeoVaLs/x`. -/
def levelNamedField : VariablePrintParameters :=
  ⟨⟨"GeoVaLs", "x (level 0)", []⟩, [], List.sorted_nil⟩

def collidingStore : Store :=
  Store.ofInts [0] [true]
    [(levelNamedField.variable, .integer, [5]), (geoVaLsLevelField.variable, .integer, [6])] [] 1

def collidingParams : Parameters :=
  ⟨[levelNamedField, geoVaLsLevelField], 0, 0, 80, 4, 2, false, false, none, false⟩

/-- Both declared fields are present and of type `Integer`, yet the render loop reads the `int`
column stored for the first as the `float` of level `0` of the second. -/
theorem doFilter_reads_int_column_as_float :
    (∀ p ∈ collidingParams.variables,
      collidingStore.has p.variable ∧ collidingStore.dtype p.variable = .integer) ∧
    ((PrintFilterData.init collidingParams).doFilter sampleEnv collidingStore).1 =
      .error .badGet :=
  ⟨by decide, rfl⟩

/-! Over several ranks, `filterData_` holds the columns gathered from every rank under the keys
of rank `0`. -/

theorem shape_append (column column' : FilterDatum) :
    (column.append column').shape = column.shape := by
  cases column <;> cases column' <;> rfl

theorem shape_gather (a b : Action) : (a.gather b).shape = a.shape := by
  cases a <;> cases b <;> simp only [Action.gather, Action.shape, shape_append]

theorem map_shape_zipWith_gather :
    ∀ {xs ys : List Action}, xs.length ≤ ys.length →
      (List.zipWith Action.gather xs ys).map Action.shape = xs.map Action.shape
  | [], _, _ => rfl
  | _ :: _, [], h => absurd h (by simp)
  | x :: xs, y :: ys, h => by
    rw [List.zipWith_cons_cons, List.map_cons, List.map_cons, shape_gather,
      map_shape_zipWith_gather (by simpa using h)]

/-- The gathered actions have the keys and alternatives of every rank's actions, when these
all agree with them. -/
theorem map_shape_gatherActions {actions : List Action} {ranks : List (List Action)}
    (h : ∀ r ∈ ranks, r.map Action.shape = actions.map Action.shape) :
    (gatherActions (actions :: ranks)).map Action.shape = actions.map Action.shape := by
  suffices ∀ acc : List Action, acc.map Action.shape = actions.map Action.shape →
      (ranks.foldl (List.zipWith Action.gather) acc).map Action.shape =
        actions.map Action.shape from this actions rfl
  induction ranks with
  | nil => exact fun _ hacc => hacc
  | cons r ranks ih =>
    intro acc hacc
    have hlen : acc.length ≤ r.length := by
      rw [← List.length_map acc Action.shape, hacc, ← h r (.head _), List.length_map]
    exact ih (fun r' hr' => h r' (.tail _ hr')) _
      ((map_shape_zipWith_gather hlen).trans hacc)

theorem mem_of_map_shape {xs ys : List Action} {key : String} {datum : FilterDatum}
    (hshape : xs.map Action.shape = ys.map Action.shape) (h : .allGatherv key datum ∈ xs) :
    ∃ datum₀, .allGatherv key datum₀ ∈ ys ∧ datum₀.alternative = datum.alternative := by
  have hmem : (Action.allGatherv key datum).shape ∈ ys.map Action.shape :=
    hshape ▸ List.mem_map_of_mem _ h
  obtain ⟨a, ha, hs⟩ := List.mem_map.mp hmem
  cases a with
  | allGatherv k column =>
    simp only [Action.shape, Action.allGatherv.injEq] at hs
    obtain ⟨rfl, hc⟩ := hs
    exact ⟨column, ha, by
      rw [← FilterDatum.alternative_shape column, hc, FilterDatum.alternative_shape]⟩
  | note line => cases hs
  | throw failure => cases hs

/-- A column gathered from ranks whose stores agree with this rank's is stored under a key of a
declared field, as the alternative this rank reads it as. -/
theorem gatherActions_stores {store : Store} {stores : List Store}
    {vars : List VariablePrintParameters} {key : String} {datum : FilterDatum}
    (hagree : ∀ s ∈ stores, s.Agree store)
    (hfloat : ∀ p ∈ vars, store.has p.variable → isMultiLevelData p.variable →
      store.dtype p.variable = .float)
    (h : .allGatherv key datum ∈ gatherActions (stores.map fun s => getAllData s vars)) :
    ∃ q ∈ vars, key ∈ renderKeys store q ∧ readAlternative store q = some datum.alternative := by
  cases stores with
  | nil => cases h
  | cons s₀ rest =>
    have hranks : ∀ r ∈ rest.map fun s => getAllData s vars,
        r.map Action.shape = (getAllData s₀ vars).map Action.shape := by
      intro r hr
      obtain ⟨s, hs, rfl⟩ := List.mem_map.mp hr
      rw [getAllData_shape (hagree s (.tail _ hs)), getAllData_shape (hagree s₀ (.head _))]
    have hshape := (map_shape_gatherActions hranks).trans
      (getAllData_shape (hagree s₀ (.head _)) vars)
    obtain ⟨datum₀, hmem₀, halt⟩ := mem_of_map_shape hshape h
    obtain ⟨q, hq, hkq, halt₀⟩ := getAllData_stores hfloat hmem₀
    exact ⟨q, hq, hkq, halt₀.trans (congrArg some halt)⟩

/-- On a rank whose store agrees with every rank's, each `boost::get` of the render loop finds
the alternative it asks for in the gathered `filterData_`, and the call never throws
`bad_get`. -/
theorem doFilterOn_reads_stored_alternative (env : Env) (self : PrintFilterData)
    (stores : List Store) (store : Store) (hagree : ∀ s ∈ stores, s.Agree store)
    (hfloat : ∀ p ∈ self.parameters.variables, store.has p.variable →
      isMultiLevelData p.variable → store.dtype p.variable = .float)
    (hkeys : ∀ p ∈ self.parameters.variables, ∀ q ∈ self.parameters.variables,
      ∀ key ∈ renderKeys store p, key ∈ renderKeys store q →
        store.dtype p.variable = store.dtype q.variable)
    (hcache : Readable store self.parameters.variables self.filterData) :
    Readable store self.parameters.variables (self.doFilterOn env stores store).2.filterData ∧
      (self.doFilterOn env stores store).1 ≠ .error .badGet := by
  have hread := readable_writeFilterData hfloat hkeys
    (fun _ _ h => gatherActions_stores hagree hfloat h) hcache
  unfold PrintFilterData.doFilterOn
  dsimp only
  cases hthrown : thrown (getAllData store self.parameters.variables) with
  | some failure => exact ⟨hread, by rw [throw_mem_getAllData (mem_of_thrown hthrown)]; nofun⟩
  | none => exact ⟨hread, fun h => printAllData_ne_badGet hread _ _ (map_eq_error h)⟩

theorem levelChannelStore_agree (row row' : Nat) (value value' : Int) :
    (levelChannelStore row value).Agree (levelChannelStore row' value') where
  has := rfl
  dtype := rfl
  nlevs := rfl
  getDb T group name := by
    cases T <;> simp only [levelChannelStore, Store.ofInts, List.lookup_cons]
    split <;> rfl

/-- Rank `0` of a run over two ranks whose `ObsValue/x_1` values differ, each reading a `Float`
level of `GeoVaLs/t` beside the `int` channels of `ObsValue/x`. -/
theorem doFilterOn_reads_stored_alternative_twoRanks :
    (∀ s ∈ [levelChannelStore 0 7, levelChannelStore 1 9], s.Agree (levelChannelStore 0 7)) ∧
    (∀ p ∈ levelChannelParams.variables, (levelChannelStore 0 7).has p.variable →
      isMultiLevelData p.variable → (levelChannelStore 0 7).dtype p.variable = .float) ∧
    (∀ p ∈ levelChannelParams.variables, ∀ q ∈ levelChannelParams.variables,
      ∀ key ∈ renderKeys (levelChannelStore 0 7) p, key ∈ renderKeys (levelChannelStore 0 7) q →
        (levelChannelStore 0 7).dtype p.variable = (levelChannelStore 0 7).dtype q.variable) ∧
    Readable (levelChannelStore 0 7) levelChannelParams.variables
      (PrintFilterData.init levelChannelParams).filterData ∧
    Readable (levelChannelStore 0 7) levelChannelParams.variables
      ((PrintFilterData.init levelChannelParams).doFilterOn sampleEnv
        [levelChannelStore 0 7, levelChannelStore 1 9] (levelChannelStore 0 7)).2.filterData ∧
    ((PrintFilterData.init levelChannelParams).doFilterOn sampleEnv
      [levelChannelStore 0 7, levelChannelStore 1 9] (levelChannelStore 0 7)).1 ≠ .error .badGet :=
  have hagree : ∀ s ∈ [levelChannelStore 0 7, levelChannelStore 1 9],
      s.Agree (levelChannelStore 0 7) := by
    simp only [List.mem_cons, List.mem_singleton, List.not_mem_nil, or_false]
    rintro s (rfl | rfl) <;> exact levelChannelStore_agree _ _ _ _
  have hfloat : ∀ p ∈ levelChannelParams.variables, (levelChannelStore 0 7).has p.variable →
      isMultiLevelData p.variable → (levelChannelStore 0 7).dtype p.variable = .float := by decide
  have hkeys : ∀ p ∈ levelChannelParams.variables, ∀ q ∈ levelChannelParams.variables,
      ∀ key ∈ renderKeys (levelChannelStore 0 7) p, key ∈ renderKeys (levelChannelStore 0 7) q →
        (levelChannelStore 0 7).dtype p.variable = (levelChannelStore 0 7).dtype q.variable := by
    decide
  ⟨hagree, hfloat, hkeys, readable_empty _ _,
    doFilterOn_reads_stored_alternative sampleEnv (.init levelChannelParams) _
      (levelChannelStore 0 7) hagree hfloat hkeys (readable_empty _ _)⟩

end Ufo
