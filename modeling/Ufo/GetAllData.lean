import Mathlib.Data.List.Forall2
import Ufo.Store

namespace Ufo

/-- What one rank does while it gathers the filter data, in program order: a line written to
`os_`, an `allGatherv` of a local column whose result is stored under a Display Key, or a
throw that ends the loop. -/
inductive Action
  | note (line : String)
  | allGatherv (key : String) (column : FilterDatum)
  | throw (failure : Failure)
  deriving DecidableEq, Repr

/-- `getData<T>`: a field without channels is read with `data_.get`; otherwise each channel
is read with `obsdb_.get_db`, whose throw is caught, noted, and skips that channel. -/
def getData (T : VariableType) (store : Store) (var : Variable) : List Action :=
  if var.channels.length = 0 then
    [.allGatherv (getVariableNameWithChannel var 0) (T.toDatum (store.get T var))]
  else
    (List.range var.size).flatMap fun ich =>
      match store.getDb T var.group (var.variable ich) with
      | none => [.note (getVariableNameWithChannel var ich ++ " not present in filter data")]
      | some values => [.allGatherv (getVariableNameWithChannel var ich) (T.toDatum values)]

/-- `getMultiLevelData`: one float column per level, skipping (with a note) the levels
outside `[0, nlevs)`. -/
def getMultiLevelData (store : Store) (var : Variable) (levels : List Int) : List Action :=
  levels.flatMap fun level =>
    let name := getVariableNameAtLevel var.fullName level
    if level < 0 ∨ level ≥ store.nlevs var then [.note (name ++ " not present in filter data")]
    else [.allGatherv name (.float (store.getLevel var level))]

/-- The body of the loop of `getAllData` for one declared variable: the type dispatch, whose
`default` branch throws. -/
def getVariableData (store : Store) (p : VariablePrintParameters) :
    Except Failure (List Action) :=
  let var := p.variable
  if store.has var then
    match store.dtype var with
    | .integer => .ok (getData .int store var)
    | .float => .ok (if isMultiLevelData var then getMultiLevelData store var p.levels
        else getData .float store var)
    | .string => .ok (getData .string store var)
    | .dateTime => .ok (getData .dateTime store var)
    | .bool => .ok (getData .bool store var)
    | .other => .error (.badParameter "Invalid variable type for printing")
  else .ok [.note (var.fullName ++ " not present in filter data")]

/-- `getAllData`: the declared variables in their configured order. -/
def getAllData (store : Store) : List VariablePrintParameters → List Action
  | [] => []
  | p :: ps =>
    match getVariableData store p with
    | .ok actions => actions ++ getAllData store ps
    | .error failure => [.throw failure]

/-- A map from Display Key to gathered column, as `filterData_`. -/
def Cache := String → Option FilterDatum

namespace Cache

def empty : Cache := fun _ => none

/-- `filterData_[key] = column`. -/
def insert (cache : Cache) (key : String) (column : FilterDatum) : Cache :=
  fun k => if k = key then some column else cache k

@[simp] theorem empty_apply (k : String) : empty k = none := rfl

@[simp] theorem insert_apply (cache : Cache) (key k : String) (column : FilterDatum) :
    cache.insert key column k = if k = key then some column else cache k := rfl

end Cache

/-- `filterData_` after the actions, each `allGatherv` having returned its column. -/
def writeFilterData (cache : Cache) : List Action → Cache
  | [] => cache
  | .allGatherv key column :: actions => writeFilterData (cache.insert key column) actions
  | _ :: actions => writeFilterData cache actions

/-- The lines the actions write to `os_`. -/
def notes : List Action → List String :=
  List.filterMap fun | .note line => some line | _ => none

/-- The columns passed to `allGatherv`, in call order. -/
def collectives : List Action → List FilterDatum :=
  List.filterMap fun | .allGatherv _ column => some column | _ => none

/-- The Display Keys written to `filterData_`, in call order. -/
def storedKeys : List Action → List String :=
  List.filterMap fun | .allGatherv key _ => some key | _ => none

section
variable (line key : String) (column : FilterDatum) (failure : Failure) (actions : List Action)

@[simp] theorem notes_nil : notes [] = [] := rfl
@[simp] theorem notes_note : notes (.note line :: actions) = line :: notes actions := rfl
@[simp] theorem notes_allGatherv : notes (.allGatherv key column :: actions) = notes actions := rfl
@[simp] theorem notes_throw : notes (.throw failure :: actions) = notes actions := rfl
@[simp] theorem collectives_nil : collectives [] = [] := rfl
@[simp] theorem collectives_note : collectives (.note line :: actions) = collectives actions := rfl
@[simp] theorem collectives_allGatherv :
    collectives (.allGatherv key column :: actions) = column :: collectives actions := rfl
@[simp] theorem collectives_throw :
    collectives (.throw failure :: actions) = collectives actions := rfl
@[simp] theorem storedKeys_nil : storedKeys [] = [] := rfl
@[simp] theorem storedKeys_note : storedKeys (.note line :: actions) = storedKeys actions := rfl
@[simp] theorem storedKeys_allGatherv :
    storedKeys (.allGatherv key column :: actions) = key :: storedKeys actions := rfl
@[simp] theorem storedKeys_throw : storedKeys (.throw failure :: actions) = storedKeys actions :=
  rfl

@[simp] theorem notes_append (actions' : List Action) :
    notes (actions ++ actions') = notes actions ++ notes actions' := List.filterMap_append _ _ _
@[simp] theorem collectives_append (actions' : List Action) :
    collectives (actions ++ actions') = collectives actions ++ collectives actions' :=
  List.filterMap_append _ _ _
end

/-- The failure the actions end with, if any. -/
def thrown : List Action → Option Failure
  | [] => none
  | .throw failure :: _ => some failure
  | _ :: actions => thrown actions

/-- The declared items of one variable, named as a note would name them: the field when it is
absent, else the Display Keys of its levels (multi-level data) or of its channel slots. -/
def itemKeys (store : Store) (p : VariablePrintParameters) : List String :=
  if !store.has p.variable then [p.variable.fullName]
  else if isMultiLevelData p.variable then p.levels.map (getVariableNameAtLevel p.variable.fullName)
  else (List.range p.variable.size).map (getVariableNameWithChannel p.variable)

/-- The outcome of the item `key`: a column gathered and stored under `key`, or a note
naming it. -/
def Accounts (key : String) (action : Action) : Prop :=
  (∃ column, action = .allGatherv key column) ∨
    action = .note (key ++ " not present in filter data")

theorem forall₂_map_flatMap {α : Type} {R : String → Action → Prop} {f : α → String}
    {g : α → List Action} (h : ∀ x, ∃ a, g x = [a] ∧ R (f x) a) :
    ∀ xs : List α, List.Forall₂ R (xs.map f) (xs.flatMap g)
  | [] => .nil
  | x :: xs => by
    obtain ⟨a, ha, hr⟩ := h x
    simpa [ha] using List.Forall₂.cons hr (forall₂_map_flatMap h xs)

theorem getData_accounts (T : VariableType) (store : Store) (var : Variable) :
    List.Forall₂ Accounts ((List.range var.size).map (getVariableNameWithChannel var))
      (getData T store var) := by
  unfold getData
  split
  · rename_i h
    have hsize : var.size = 1 := by simp_all [Variable.size]
    rw [hsize]
    exact .cons (.inl ⟨_, rfl⟩) .nil
  · refine forall₂_map_flatMap (fun ich => ?_) _
    split
    · exact ⟨_, rfl, .inr rfl⟩
    · exact ⟨_, rfl, .inl ⟨_, rfl⟩⟩

theorem getMultiLevelData_accounts (store : Store) (var : Variable) (levels : List Int) :
    List.Forall₂ Accounts (levels.map (getVariableNameAtLevel var.fullName))
      (getMultiLevelData store var levels) :=
  forall₂_map_flatMap (fun level => by
    by_cases h : level < 0 ∨ level ≥ store.nlevs var
    · exact ⟨_, if_pos h, .inr rfl⟩
    · exact ⟨_, if_neg h, .inl ⟨_, rfl⟩⟩) levels

/-- With a supported element type, and `Float` for the multi-level groups, every item of the
variable has exactly one outcome. -/
theorem getVariableData_accounts {store : Store} {p : VariablePrintParameters}
    (hsupported : store.has p.variable → store.dtype p.variable ≠ .other)
    (hfloat : store.has p.variable → isMultiLevelData p.variable →
      store.dtype p.variable = .float) :
    ∃ actions, getVariableData store p = .ok actions ∧
      List.Forall₂ Accounts (itemKeys store p) actions := by
  unfold getVariableData itemKeys
  by_cases hhas : store.has p.variable
  · by_cases hml : isMultiLevelData p.variable
    · simp only [hhas, hfloat hhas hml, hml, if_true, Bool.not_true]
      exact ⟨_, rfl, getMultiLevelData_accounts _ _ _⟩
    · have hd := hsupported hhas
      simp only [hhas, hml, if_true, if_false, Bool.not_true, Bool.false_eq_true]
      cases hdt : store.dtype p.variable
      all_goals simp only [hdt, hml, if_false, Bool.false_eq_true] at hd ⊢
      all_goals first | exact absurd rfl hd | exact ⟨_, rfl, getData_accounts _ _ _⟩
  · simp only [hhas, if_false, Bool.not_false, if_true]
    exact ⟨_, rfl, .cons (.inr rfl) .nil⟩

/-- Under the same conditions, every declared item has exactly one outcome, in the configured
order, and the loop never throws. -/
theorem getAllData_accounts {store : Store} {vars : List VariablePrintParameters}
    (hsupported : ∀ p ∈ vars, store.has p.variable → store.dtype p.variable ≠ .other)
    (hfloat : ∀ p ∈ vars, store.has p.variable → isMultiLevelData p.variable →
      store.dtype p.variable = .float) :
    List.Forall₂ Accounts (vars.flatMap (itemKeys store)) (getAllData store vars) := by
  induction vars with
  | nil => exact .nil
  | cons p ps ih =>
    obtain ⟨actions, hget, hacc⟩ := getVariableData_accounts (hsupported p (.head _))
      (hfloat p (.head _))
    rw [getAllData, hget, List.flatMap_cons]
    exact List.rel_append hacc (ih (fun q hq => hsupported q (.tail _ hq))
      (fun q hq => hfloat q (.tail _ hq)))

theorem thrown_eq_none {items : List String} {actions : List Action}
    (h : List.Forall₂ Accounts items actions) : thrown actions = none := by
  induction h with
  | nil => rfl
  | cons hacc _ ih => rcases hacc with ⟨column, rfl⟩ | rfl <;> simpa [thrown] using ih

/-- A key is in `filterData_` after the actions exactly when they store it or it was there. -/
theorem writeFilterData_isSome (cache : Cache) (actions : List Action) (key : String) :
    (writeFilterData cache actions key).isSome ↔ key ∈ storedKeys actions ∨ (cache key).isSome := by
  induction actions generalizing cache with
  | nil => simp [writeFilterData]
  | cons a actions ih =>
    cases a with
    | allGatherv k column =>
      rw [writeFilterData, ih]
      by_cases hk : key = k <;> simp [hk]
    | note line => simpa [writeFilterData] using ih cache
    | throw failure => simpa [writeFilterData] using ih cache

/-- `filterData_` after the actions: the column they stored last under `key`, else what was
there. -/
theorem writeFilterData_apply (cache : Cache) (actions : List Action) (key : String) :
    writeFilterData cache actions key = (writeFilterData Cache.empty actions key).or (cache key) := by
  induction actions generalizing cache with
  | nil => rfl
  | cons a actions ih =>
    cases a with
    | allGatherv k column =>
      rw [writeFilterData, writeFilterData, ih, ih (Cache.empty.insert k column)]
      cases writeFilterData Cache.empty actions key <;> by_cases hk : key = k <;> simp [hk]
    | note line => exact ih cache
    | throw failure => exact ih cache

theorem mem_of_writeFilterData {cache : Cache} {actions : List Action} {key : String}
    {datum : FilterDatum} (h : writeFilterData cache actions key = some datum) :
    .allGatherv key datum ∈ actions ∨ cache key = some datum := by
  induction actions generalizing cache with
  | nil => exact .inr h
  | cons a actions ih =>
    cases a with
    | allGatherv k column =>
      rcases ih h with hmem | hc
      · exact .inl (.tail _ hmem)
      · rw [Cache.insert_apply] at hc
        split_ifs at hc with hk
        · obtain rfl := Option.some.inj hc
          exact .inl (hk ▸ .head _)
        · exact .inr hc
    | note line => exact (ih h).imp_left (.tail _)
    | throw failure => exact (ih h).imp_left (.tail _)

/-- A cache whose keys the actions all store again is overwritten entirely. -/
theorem writeFilterData_of_stored (cache : Cache) (actions : List Action)
    (hcached : ∀ key, (cache key).isSome → key ∈ storedKeys actions) :
    writeFilterData cache actions = writeFilterData Cache.empty actions := by
  funext key
  rw [writeFilterData_apply]
  cases hnew : writeFilterData Cache.empty actions key with
  | some column => rfl
  | none =>
    cases hold : cache key with
    | none => rfl
    | some column =>
      have hstored := (writeFilterData_isSome Cache.empty actions key).mpr
        (.inl (hcached key (by simp [hold])))
      simp [hnew] at hstored

end Ufo
