import Ufo.DoFilter

namespace Ufo

/-- What the local stores of two ranks agree on: field presence, element type, level count,
and which `obsdb_.get_db` reads succeed. -/
structure Store.Agree (s t : Store) : Prop where
  has : s.has = t.has
  dtype : s.dtype = t.dtype
  nlevs : s.nlevs = t.nlevs
  getDb : ∀ T group name, (s.getDb T group name).isSome = (t.getDb T group name).isSome

theorem Store.Agree.refl (s : Store) : s.Agree s := ⟨rfl, rfl, rfl, fun _ _ _ => rfl⟩

theorem Store.Agree.symm {s t : Store} (h : s.Agree t) : t.Agree s :=
  ⟨h.has.symm, h.dtype.symm, h.nlevs.symm, fun T group name => (h.getDb T group name).symm⟩

namespace FilterDatum

/-- The alternative of a datum with its values dropped: what the ranks must agree on at a
collective call. -/
def shape : FilterDatum → FilterDatum
  | int _ => int []
  | float _ => float []
  | string _ => string []
  | dateTime _ => dateTime []

@[simp] theorem alternative_shape (d : FilterDatum) : d.shape.alternative = d.alternative := by
  cases d <;> rfl

end FilterDatum

@[simp] theorem shape_toDatum (T : VariableType) (xs : List T.Elem) :
    (T.toDatum xs).shape = T.toDatum [] := by
  cases T <;> rfl

/-- An action with the values of its column dropped. -/
def Action.shape : Action → Action
  | .allGatherv key column => .allGatherv key column.shape
  | action => action

theorem thrown_map_shape (actions : List Action) :
    thrown (actions.map Action.shape) = thrown actions := by
  induction actions with
  | nil => rfl
  | cons a actions ih => cases a <;> simp [Action.shape, thrown, ih]

section
variable {s t : Store}

theorem getData_shape (h : s.Agree t) (T : VariableType) (var : Variable) :
    (getData T s var).map Action.shape = (getData T t var).map Action.shape := by
  unfold getData
  split
  · simp [Action.shape]
  · simp only [List.map_flatMap]
    congr 1
    funext ich
    have hsome := h.getDb T var.group (var.variable ich)
    cases hs : s.getDb T var.group (var.variable ich) <;>
      cases ht : t.getDb T var.group (var.variable ich) <;> simp_all [Action.shape]

theorem getMultiLevelData_shape (h : s.Agree t) (var : Variable) (levels : List Int) :
    (getMultiLevelData s var levels).map Action.shape =
      (getMultiLevelData t var levels).map Action.shape := by
  simp only [getMultiLevelData, List.map_flatMap, h.nlevs]
  congr 1
  funext level
  split <;> simp [Action.shape, FilterDatum.shape]

/-- Agreeing stores give the same dispatch, and the same actions up to their values. -/
theorem getVariableData_shape (h : s.Agree t) (p : VariablePrintParameters) :
    (getVariableData s p).map (List.map Action.shape) =
      (getVariableData t p).map (List.map Action.shape) := by
  unfold getVariableData
  dsimp only
  rw [h.has, h.dtype]
  split
  · cases t.dtype p.variable
    case float =>
      by_cases hml : isMultiLevelData p.variable <;>
        simp [Except.map, hml, getData_shape h, getMultiLevelData_shape h]
    all_goals simp [Except.map, getData_shape h]
  · rfl

theorem getAllData_shape (h : s.Agree t) (vars : List VariablePrintParameters) :
    (getAllData s vars).map Action.shape = (getAllData t vars).map Action.shape := by
  induction vars with
  | nil => rfl
  | cons p ps ih =>
    have hp := getVariableData_shape h p
    simp only [getAllData]
    cases hs : getVariableData s p <;> cases ht : getVariableData t p <;>
      simp_all [Except.map]

end

/-- The element types of the `allGatherv` calls of `doFilterOn` on the rank holding `store`, in
call order: those of `getAllData`, then, unless it threw, those of `printAllData`. -/
def doFilterCollectives (env : Env) (self : PrintFilterData) (stores : List Store)
    (store : Store) : List VariableType :=
  let params := self.parameters
  let actions := getAllData store params.variables
  let gathered := gatherActions (stores.map fun store => getAllData store params.variables)
  (collectives actions).map FilterDatum.alternative ++
    match thrown actions with
    | some _ => []
    | none => (printAllDataGathering env params store (writeFilterData self.filterData gathered)
        (stores.foldr (·.nlocs + ·) 0)).calls (gatherAll stores)

/-- Rank `1` holds row `1` of the field of `obsValueStore`, with another value. -/
def obsValueStoreRank1 : Store := Store.ofInts [1] [true] [(obsValueField.variable, .integer, [8])] [] 0

theorem obsValueStore_agree : obsValueStore.Agree obsValueStoreRank1 where
  has := by funext v; simp [obsValueStore, obsValueStoreRank1, Store.ofInts, apply_ite]
  dtype := by funext v; simp [obsValueStore, obsValueStoreRank1, Store.ofInts, apply_ite]
  nlevs := rfl
  getDb _ _ _ := rfl

end Ufo
