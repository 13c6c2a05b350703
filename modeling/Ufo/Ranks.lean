import Ufo.Collectives

namespace Ufo

/-! Ranks of one run whose local stores agree print the same text. -/

section
variable {s t : Store}

theorem renderKeys_agree (h : s.Agree t) (p : VariablePrintParameters) :
    renderKeys s p = renderKeys t p := by
  simp only [renderKeys, h.has]

theorem printVariableCell_agree (h : s.Agree t) (env : Env) (params : Parameters) :
    printVariableCell env params s = printVariableCell env params t := by
  funext p datum idx
  simp only [printVariableCell, h.dtype]

theorem printVariableRows_agree (h : s.Agree t) (env : Env) (params : Parameters) (cache : Cache)
    (maxVariableNameLength : Int) (idxGroup : List Nat) :
    printVariableRows env params s cache maxVariableNameLength idxGroup =
      printVariableRows env params t cache maxVariableNameLength idxGroup := by
  funext p
  simp only [printVariableRows, foundKeys, printVariableCell_agree h, renderKeys_agree h]

/-- The table depends on the rank's own store only through presence and element type. -/
theorem printAllData_agree (h : s.Agree t) (env : Env) (params : Parameters) (cache : Cache)
    (globalNumLocs : Nat) (allGatherv : AllGatherv) :
    printAllData env params s cache globalNumLocs allGatherv =
      printAllData env params t cache globalNumLocs allGatherv := by
  simp only [printAllData, printAllDataGathering, printTable, printPage, printVariableRows_agree h]

theorem notes_map_shape (actions : List Action) :
    notes (actions.map Action.shape) = notes actions := by
  induction actions with
  | nil => rfl
  | cons a actions ih => cases a <;> simp [Action.shape, ih]

/-- Two ranks whose stores agree, with the same summary text, print the same text. -/
theorem doFilterOn_agree (h : s.Agree t) (hsummary : s.summary = t.summary) (env : Env)
    (self : PrintFilterData) (stores : List Store) :
    (self.doFilterOn env stores s).1 = (self.doFilterOn env stores t).1 := by
  have hshape := getAllData_shape h self.parameters.variables
  have hnotes : notes (getAllData s self.parameters.variables) =
      notes (getAllData t self.parameters.variables) := by
    rw [← notes_map_shape, hshape, notes_map_shape]
  have hthrown : thrown (getAllData s self.parameters.variables) =
      thrown (getAllData t self.parameters.variables) := by
    rw [← thrown_map_shape, hshape, thrown_map_shape]
  simp only [PrintFilterData.doFilterOn, hnotes, hthrown, hsummary, printAllData_agree h]

end

theorem doFilterOn_agree_obsValue :
    obsValueStore.Agree obsValueStoreRank1 ∧ obsValueStore.summary = obsValueStoreRank1.summary ∧
    ((PrintFilterData.init gappedParams).doFilterOn sampleEnv [obsValueStore, obsValueStoreRank1]
        obsValueStore).1 =
      ((PrintFilterData.init gappedParams).doFilterOn sampleEnv [obsValueStore, obsValueStoreRank1]
        obsValueStoreRank1).1 :=
  ⟨obsValueStore_agree, rfl, doFilterOn_agree obsValueStore_agree rfl _ _ _⟩

end Ufo
