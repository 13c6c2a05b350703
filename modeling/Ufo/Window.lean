import Ufo.Ranks

namespace Ufo

/-! The location window of `printAllData` (lines 237-241): `locmin` is clamped before the range
check, and the check runs only once `getAllData` has made its collectives. -/

/-- With `locmax ≠ 0` and `locmin > locmax`, the check of line 240 fires exactly when
`locmax + 1 < nlocs`: a `locmin` at or past `nlocs` is first clamped to `nlocs - 1`. -/
theorem window_rejects_iff {locmin locmax nlocs : Int} (hmax : locmax ≠ 0)
    (hmin : locmax < locmin) :
    (window locmin locmax nlocs).2 < (window locmin locmax nlocs).1 ↔ locmax + 1 < nlocs := by
  unfold window
  split_ifs <;> simp only <;> omega

theorem setup_rejects_window (params : Parameters) (maxVariableNameLength globalNumLocs : Nat)
    (h : (window params.locmin params.locmax globalNumLocs).2 <
      (window params.locmin params.locmax globalNumLocs).1) :
    setup params maxVariableNameLength globalNumLocs =
      .error (.badValue "Minimum location cannot be larger than maximum location") := by
  rw [setup_eq, if_pos h]

/-- A window rejected at line 240 fails `printAllData` before its two collectives: the result
does not depend on them. -/
theorem printAllData_rejects_window (env : Env) (params : Parameters) (store : Store)
    (cache : Cache) (globalNumLocs : Nat) (allGatherv : AllGatherv)
    (h : (window params.locmin params.locmax globalNumLocs).2 <
      (window params.locmin params.locmax globalNumLocs).1) :
    printAllData env params store cache globalNumLocs allGatherv =
      .error (.badValue "Minimum location cannot be larger than maximum location") := by
  rw [printAllData_eq, setup_rejects_window params _ globalNumLocs h, error_bind]

/-- On every rank, a rejected window fails the call with the range error, or with the throw of
`getAllData` if it threw first, after the collectives of `getAllData` and before those of
`printAllData`. -/
theorem doFilterOn_rejects_window (env : Env) (self : PrintFilterData) (stores : List Store)
    (store : Store) (hmax : self.parameters.locmax ≠ 0)
    (hmin : self.parameters.locmax < self.parameters.locmin)
    (hnlocs : self.parameters.locmax + 1 < ((stores.foldr (·.nlocs + ·) 0 : Nat) : Int)) :
    (self.doFilterOn env stores store).1 =
      .error ((thrown (getAllData store self.parameters.variables)).getD
        (.badValue "Minimum location cannot be larger than maximum location")) ∧
    doFilterCollectives env self stores store =
      (collectives (getAllData store self.parameters.variables)).map FilterDatum.alternative := by
  have hwindow := (window_rejects_iff hmax hmin).mpr hnlocs
  constructor
  · unfold PrintFilterData.doFilterOn
    dsimp only
    cases thrown (getAllData store self.parameters.variables) with
    | some failure => rfl
    | none =>
      rw [printAllData_rejects_window _ _ _ _ _ _ hwindow]
      rfl
  · unfold doFilterCollectives
    dsimp only
    cases thrown (getAllData store self.parameters.variables) <;>
      simp [calls_printAllDataGathering, setup_rejects_window _ _ _ hwindow, Except.toBool]

/-- Rows `0`, `1` and `2` of the `ObsValue` field, with values `10`, `20` and `30`, on one
rank. -/
def threeRowStore : Store :=
  Store.ofInts [0, 1, 2] [true, true, true] [(obsValueField.variable, .integer, [10, 20, 30])] [] 0

/-- The `ObsValue` field printed over the locations `[locmin, locmax)`. -/
def windowParams (locmin locmax : Int) : Parameters :=
  ⟨[obsValueField], locmin, locmax, 80, 4, 2, false, false, none, false⟩

theorem doFilterOn_rejects_window_threeRows :
    (windowParams 2 1).locmax ≠ 0 ∧ (windowParams 2 1).locmax < (windowParams 2 1).locmin ∧
    (windowParams 2 1).locmax + 1 < (([threeRowStore].foldr (·.nlocs + ·) 0 : Nat) : Int) ∧
    ((PrintFilterData.init (windowParams 2 1)).doFilterOn sampleEnv [threeRowStore]
      threeRowStore).1 =
      .error ((thrown (getAllData threeRowStore (windowParams 2 1).variables)).getD
        (.badValue "Minimum location cannot be larger than maximum location")) ∧
    doFilterCollectives sampleEnv (.init (windowParams 2 1)) [threeRowStore] threeRowStore =
      (collectives (getAllData threeRowStore (windowParams 2 1).variables)).map
        FilterDatum.alternative :=
  have hmax : (windowParams 2 1).locmax ≠ 0 := by decide
  have hmin : (windowParams 2 1).locmax < (windowParams 2 1).locmin := by decide
  have hnlocs : (windowParams 2 1).locmax + 1 <
      (([threeRowStore].foldr (·.nlocs + ·) 0 : Nat) : Int) := by decide
  ⟨hmax, hmin, hnlocs, doFilterOn_rejects_window sampleEnv (.init (windowParams 2 1)) _ _ hmax hmin hnlocs⟩

/-- With `locmin = 2 > locmax = 1` the field is gathered before the check throws; with
`locmin = 5 > locmax = 3` the clamp of line 238 moves `locmin` to `2` and location `2` is
printed. -/
theorem doFilter_window_checked_after_gather :
    ((PrintFilterData.init (windowParams 2 1)).doFilter sampleEnv threeRowStore).1 =
      .error (.badValue "Minimum location cannot be larger than maximum location") ∧
    doFilterCollectives sampleEnv (.init (windowParams 2 1)) [threeRowStore] threeRowStore =
      [.int] ∧
    ((PrintFilterData.init (windowParams 5 3)).doFilter sampleEnv threeRowStore).1 =
      .ok (PrintFilterData.banner (windowParams 5 3) ++
        ["  Location |    2 | ", "-----------+------+-", "ObsValue/x |   30 | ", ""]) :=
  ⟨rfl, rfl, rfl⟩

end Ufo
