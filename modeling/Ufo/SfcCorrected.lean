import Mathlib.Data.List.Nodup
import Ufo.Store

namespace Ufo

/-- `SurfaceOperatorFactory::create` builds the operator named `var_method` (line 50). -/
def operatorName (var methodname : String) : String := var ++ "_" ++ methodname

/-- Lines 39-46: the name of the configured correction type among the named enumerators of
`SfcCorrectionType`; the loop keeps the last match, and the name stays empty when none
matches. -/
def methodName {α : Type} [DecidableEq α] (namedValues : List (α × String)) (correctionType : α) :
    String :=
  namedValues.foldl (fun methodname namedValue =>
    if namedValue.1 = correctionType then namedValue.2 else methodname) ""

/-- `getOperatorVariables` (`ufo/utils/OperatorUtils`, not in src/), as the interface of
ObsAtmVertInterpTLAD.interface.h (lines 39-52) documents it: the configured variables, else all
the assimilated ones, each with its position in the assimilated list. -/
def getOperatorVariables (configured : Option (List String)) (assimvariables : List String) :
    List String × List Nat :=
  let operatorVars := configured.getD assimvariables
  (operatorVars, operatorVars.map (List.indexOf · assimvariables))

/-- An `ObsSfcCorrected` after its constructor: `operatorVars_`, `operatorVarIndices_`, and
`operators_`, each operator by the name the factory builds it from. -/
structure ObsSfcCorrected where
  operatorVars : List String
  operatorVarIndices : List Nat
  operators : List String

/-- `ovec[i] = value`; a write past the end is undefined. -/
def write (ovec : List Float32) (i : Nat) (value : Float32) : Except Failure (List Float32) :=
  if i < ovec.length then .ok (ovec.set i value) else .error .outOfRange

/-- Lines 77-80: `hofx` written to column `jvar` of `ovec`, at the given locations. -/
def writeColumn (nvars jvar : Nat) (hofx : Nat → Float32) (ovec : List Float32)
    (jlocs : List Nat) : Except Failure (List Float32) :=
  jlocs.foldlM (fun ovec jloc => write ovec (jloc * nvars + jvar) (hofx jloc)) ovec

namespace ObsSfcCorrected

/-- The constructor (lines 29-58), given the named enumerators of `SfcCorrectionType` and the
configured correction type: one operator per operator variable, in the order of
`operatorVars_`. -/
def init {α : Type} [DecidableEq α] (configured : Option (List String))
    (assimvariables : List String) (namedValues : List (α × String)) (correctionType : α) :
    ObsSfcCorrected :=
  let vars := getOperatorVariables configured assimvariables
  let methodname := methodName namedValues correctionType
  ⟨vars.1, vars.2, vars.1.map (operatorName · methodname)⟩

/-- One pass of the loop of `simulateObs` (lines 73-80): `operators_[jvar]` computes `hofx`
(`simobs oper jloc` is its value at `jloc`), written to column `jvar`. -/
def simulateVar (operators : List String) (simobs : String → Nat → Float32) (nlocs nvars : Nat)
    (ovec : List Float32) (jvar : Nat) : Except Failure (List Float32) := do
  let oper ← read operators jvar
  writeColumn nvars jvar (simobs oper) ovec (List.range nlocs)

/-- `simulateObs` (lines 68-84) on the `nlocs × nvars` vector `ovec`. -/
def simulateObs (self : ObsSfcCorrected) (simobs : String → Nat → Float32) (nlocs nvars : Nat)
    (ovec : List Float32) : Except Failure (List Float32) :=
  self.operatorVarIndices.foldlM (simulateVar self.operators simobs nlocs nvars) ovec

end ObsSfcCorrected

/-! The loop computes a column fill. -/

/-- `ovec` with column `jvar` of its first `m` locations taken from `hofx`. -/
def fillColumn (nvars jvar m : Nat) (hofx : Nat → Float32) (ovec : List Float32) :
    List Float32 :=
  ovec.mapIdx fun i x => if i % nvars = jvar ∧ i / nvars < m then hofx (i / nvars) else x

@[simp] theorem length_fillColumn (nvars jvar m : Nat) (hofx : Nat → Float32)
    (ovec : List Float32) : (fillColumn nvars jvar m hofx ovec).length = ovec.length := by
  simp [fillColumn]

section
variable {nvars j : Nat}

theorem slot_mod (jloc : Nat) (hj : j < nvars) : (jloc * nvars + j) % nvars = j := by
  rw [Nat.add_comm, Nat.add_mul_mod_self_right, Nat.mod_eq_of_lt hj]

theorem slot_div (jloc : Nat) (hj : j < nvars) : (jloc * nvars + j) / nvars = jloc := by
  rw [Nat.add_comm, Nat.add_mul_div_right _ _ (by omega), Nat.div_eq_of_lt hj, Nat.zero_add]

theorem slot_lt {jloc nlocs : Nat} (hj : j < nvars) (hjloc : jloc < nlocs) :
    jloc * nvars + j < nlocs * nvars := by
  have h := Nat.mul_le_mul_right nvars hjloc
  rw [Nat.succ_mul] at h
  omega

/-- Column `j` of the first `m + 1` locations: that of the first `m`, and location `m`. -/
theorem column_succ {i m : Nat} (hj : j < nvars) :
    (i % nvars = j ∧ i / nvars < m + 1) ↔ (i % nvars = j ∧ i / nvars < m) ∨ i = m * nvars + j := by
  constructor
  · rintro ⟨hmod, hdiv⟩
    rcases Nat.lt_succ_iff_lt_or_eq.mp hdiv with hlt | heq
    · exact .inl ⟨hmod, hlt⟩
    · refine .inr ?_
      rw [← hmod, ← heq, Nat.mul_comm, Nat.div_add_mod]
  · rintro (⟨hmod, hdiv⟩ | rfl)
    · exact ⟨hmod, Nat.lt_succ_of_lt hdiv⟩
    · exact ⟨slot_mod m hj, (slot_div m hj).symm ▸ Nat.lt_succ_self m⟩

end

theorem fillColumn_zero (nvars jvar : Nat) (hofx : Nat → Float32) (ovec : List Float32) :
    fillColumn nvars jvar 0 hofx ovec = ovec :=
  List.ext_getElem (by simp) fun _ _ _ => by simp [fillColumn]

/-- The write at location `m` extends the fill by one location. -/
theorem fillColumn_succ {nvars jvar : Nat} (hj : jvar < nvars) (m : Nat) (hofx : Nat → Float32)
    (ovec : List Float32) :
    (fillColumn nvars jvar m hofx ovec).set (m * nvars + jvar) (hofx m) =
      fillColumn nvars jvar (m + 1) hofx ovec := by
  refine List.ext_getElem (by simp) fun i _ _ => ?_
  simp only [fillColumn, List.getElem_set, List.getElem_mapIdx, column_succ hj]
  by_cases hi : i = m * nvars + jvar
  · subst hi
    simp [slot_div m hj]
  · simp [Ne.symm hi, hi]

/-- The inner loop over the first `m` locations fills their column, every write in range. -/
theorem writeColumn_range {nvars jvar nlocs : Nat} (hj : jvar < nvars) (hofx : Nat → Float32)
    {ovec : List Float32} (hlen : ovec.length = nlocs * nvars) :
    ∀ m ≤ nlocs, writeColumn nvars jvar hofx ovec (List.range m) =
      .ok (fillColumn nvars jvar m hofx ovec)
  | 0, _ => by rw [fillColumn_zero]; rfl
  | m + 1, hm => by
    have hlt : m * nvars + jvar < (fillColumn nvars jvar m hofx ovec).length := by
      rw [length_fillColumn, hlen]
      exact slot_lt hj hm
    rw [writeColumn, List.range_succ, List.foldlM_append, ← writeColumn,
      writeColumn_range hj hofx hlen m (Nat.le_of_succ_le hm), ok_bind]
    simp only [List.foldlM_cons, List.foldlM_nil, write, if_pos hlt, ok_bind,
      fillColumn_succ hj]
    rfl

namespace ObsSfcCorrected

/-- What the loop of `simulateObs` computes when its reads are in range: column `jvar` filled
from `operators_[jvar]`, for each `jvar` of the index list in turn. -/
def simulated (operators : List String) (simobs : String → Nat → Float32) (nlocs nvars : Nat)
    (ovec : List Float32) (jvars : List Nat) : List Float32 :=
  jvars.foldl (fun ovec jvar => fillColumn nvars jvar nlocs (simobs (operators.getD jvar "")) ovec)
    ovec

theorem simulateVar_eq {operators : List String} (simobs : String → Nat → Float32)
    {nlocs nvars jvar : Nat} (hop : jvar < operators.length) (hj : jvar < nvars)
    {ovec : List Float32} (hlen : ovec.length = nlocs * nvars) :
    simulateVar operators simobs nlocs nvars ovec jvar =
      .ok (fillColumn nvars jvar nlocs (simobs (operators.getD jvar "")) ovec) := by
  rw [simulateVar, read_of_lt hop, ok_bind, writeColumn_range hj _ hlen nlocs le_rfl,
    List.getD_eq_getElem _ _ hop]

/-- The loop, when every `jvar` indexes `operators_` and a column of `ovec`. -/
theorem foldlM_simulateVar {operators : List String} (simobs : String → Nat → Float32)
    {nlocs nvars : Nat} :
    ∀ (jvars : List Nat), (∀ jvar ∈ jvars, jvar < operators.length ∧ jvar < nvars) →
      ∀ {ovec : List Float32}, ovec.length = nlocs * nvars →
      jvars.foldlM (simulateVar operators simobs nlocs nvars) ovec =
        .ok (simulated operators simobs nlocs nvars ovec jvars)
  | [], _, _, _ => rfl
  | jvar :: jvars, h, ovec, hlen => by
    have hjvar := h jvar (.head _)
    rw [List.foldlM_cons, simulateVar_eq simobs hjvar.1 hjvar.2 hlen, ok_bind,
      foldlM_simulateVar simobs jvars (fun j hj => h j (.tail _ hj)) (by simp [hlen])]
    rfl

@[simp] theorem length_simulated (operators : List String) (simobs : String → Nat → Float32)
    (nlocs nvars : Nat) (ovec : List Float32) (jvars : List Nat) :
    (simulated operators simobs nlocs nvars ovec jvars).length = ovec.length := by
  induction jvars generalizing ovec with
  | nil => rfl
  | cons jvar jvars ih => rw [simulated, List.foldl_cons, ← simulated, ih, length_fillColumn]

/-- Slot `j` of location `jloc` after the loop: the `hofx` of `operators_[j]` if `j` is among
the indices, else untouched. -/
theorem getElem?_simulated (operators : List String) (simobs : String → Nat → Float32)
    {nlocs nvars jloc j : Nat} (hjloc : jloc < nlocs) (hj : j < nvars) (jvars : List Nat)
    (ovec : List Float32) :
    (simulated operators simobs nlocs nvars ovec jvars)[jloc * nvars + j]? =
      ovec[jloc * nvars + j]?.map fun x =>
        if j ∈ jvars then simobs (operators.getD j "") jloc else x := by
  induction jvars generalizing ovec with
  | nil => simp [simulated]
  | cons jvar jvars ih =>
    rw [simulated, List.foldl_cons, ← simulated, ih]
    simp only [fillColumn, List.getElem?_mapIdx, Option.map_map, slot_mod jloc hj,
      slot_div jloc hj, hjloc, and_true]
    congr 1
    funext x
    by_cases hm : j ∈ jvars
    · simp [hm]
    · by_cases he : j = jvar <;> simp [hm, he]

end ObsSfcCorrected

open ObsSfcCorrected in
/-- When every index reads `operators_` and a column of `ovec`, `simulateObs` writes, at every
location, each column `j` of `operatorVarIndices_` with the `hofx` of `operators_[j]`, and
leaves every other column as it was. -/
theorem simulateObs_fills_indexed_columns (self : ObsSfcCorrected)
    (simobs : String → Nat → Float32) {nlocs nvars : Nat} {ovec : List Float32}
    (hlen : ovec.length = nlocs * nvars)
    (hidx : ∀ jvar ∈ self.operatorVarIndices, jvar < self.operators.length ∧ jvar < nvars) :
    ∃ ovec', self.simulateObs simobs nlocs nvars ovec = .ok ovec' ∧ ovec'.length = ovec.length ∧
      ∀ jloc < nlocs, ∀ j < nvars, ovec'[jloc * nvars + j]? =
        if j ∈ self.operatorVarIndices then some (simobs (self.operators.getD j "") jloc)
        else ovec[jloc * nvars + j]? := by
  refine ⟨_, foldlM_simulateVar simobs _ hidx hlen, length_simulated .., fun jloc hjloc j hj => ?_⟩
  have hin : jloc * nvars + j < ovec.length := hlen ▸ slot_lt hj hjloc
  rw [getElem?_simulated _ _ hjloc hj, List.getElem?_eq_getElem hin]
  split <;> rfl

/-! Out of range: `operators_[jvar]` past the operators, or `ovec[jloc * nvars + jvar]` past the
vector, at the last location, once `jvar` is not a column. -/

theorem length_of_write {ovec ovec' : List Float32} {i : Nat} {value : Float32}
    (h : write ovec i value = .ok ovec') : ovec'.length = ovec.length := by
  unfold write at h
  split at h
  · cases h
    exact List.length_set _ _ _
  · cases h

theorem length_of_writeColumn {nvars jvar : Nat} {hofx : Nat → Float32} :
    ∀ {jlocs : List Nat} {ovec ovec' : List Float32},
      writeColumn nvars jvar hofx ovec jlocs = .ok ovec' → ovec'.length = ovec.length
  | [], _, _, h => by cases h; rfl
  | _ :: _, _, _, h => by
    obtain ⟨ovec₁, h₁, h₂⟩ := bind_eq_ok h
    rw [length_of_writeColumn h₂, length_of_write h₁]

/-- With `jvar` past the last column, the write at the last location is past the vector. -/
theorem writeColumn_range_error {nvars jvar nlocs : Nat} (hj : nvars ≤ jvar) (hn : 0 < nlocs)
    (hofx : Nat → Float32) {ovec : List Float32} (hlen : ovec.length = nlocs * nvars) :
    ¬∃ ovec', writeColumn nvars jvar hofx ovec (List.range nlocs) = .ok ovec' := by
  obtain ⟨m, rfl⟩ : ∃ m, nlocs = m + 1 := ⟨nlocs - 1, by omega⟩
  rintro ⟨ovec', h⟩
  rw [writeColumn, List.range_succ, List.foldlM_append] at h
  obtain ⟨ovec₁, h₁, h₂⟩ := bind_eq_ok h
  have hlen₁ : ovec₁.length = (m + 1) * nvars := (length_of_writeColumn h₁).trans hlen
  simp only [List.foldlM_cons, List.foldlM_nil, write] at h₂
  rw [if_neg (by rw [hlen₁, Nat.succ_mul]; omega)] at h₂
  cases h₂

namespace ObsSfcCorrected

theorem simulateVar_ok_iff {operators : List String} {simobs : String → Nat → Float32}
    {nlocs nvars jvar : Nat} (hn : 0 < nlocs) {ovec : List Float32}
    (hlen : ovec.length = nlocs * nvars) :
    (∃ ovec', simulateVar operators simobs nlocs nvars ovec jvar = .ok ovec') ↔
      jvar < operators.length ∧ jvar < nvars := by
  constructor
  · rintro ⟨ovec', h⟩
    obtain ⟨oper, hread, hwrite⟩ := bind_eq_ok h
    have hop : jvar < operators.length := by
      by_contra hop
      rw [read_eq_error (.inr (by simpa using hop))] at hread
      cases hread
    exact ⟨hop, Nat.lt_of_not_le fun hj => writeColumn_range_error hj hn _ hlen ⟨ovec', hwrite⟩⟩
  · rintro ⟨hop, hj⟩
    exact ⟨_, simulateVar_eq simobs hop hj hlen⟩

/-- The loop stays in range exactly when every `jvar` indexes `operators_` and a column. -/
theorem foldlM_simulateVar_ok_iff {operators : List String} (simobs : String → Nat → Float32)
    {nlocs nvars : Nat} (hn : 0 < nlocs) :
    ∀ (jvars : List Nat) {ovec : List Float32}, ovec.length = nlocs * nvars →
      ((∃ ovec', jvars.foldlM (simulateVar operators simobs nlocs nvars) ovec = .ok ovec') ↔
        ∀ jvar ∈ jvars, jvar < operators.length ∧ jvar < nvars)
  | [], _, _ => iff_of_true ⟨_, rfl⟩ fun _ h => nomatch h
  | jvar :: jvars, ovec, hlen => by
    refine ⟨fun ⟨ovec', h⟩ => ?_, fun h => ⟨_, foldlM_simulateVar simobs _ h hlen⟩⟩
    rw [List.foldlM_cons] at h
    obtain ⟨ovec₁, h₁, h₂⟩ := bind_eq_ok h
    have hjvar := (simulateVar_ok_iff hn hlen).mp ⟨ovec₁, h₁⟩
    rw [simulateVar_eq simobs hjvar.1 hjvar.2 hlen, Except.ok.injEq] at h₁
    subst h₁
    exact List.forall_mem_cons.mpr ⟨hjvar, (foldlM_simulateVar_ok_iff simobs hn jvars
      (by rw [length_fillColumn, hlen])).mp ⟨ovec', h₂⟩⟩

end ObsSfcCorrected

/-- Operator variables that are a prefix of distinct assimilated variables sit at their own
index. -/
theorem getOperatorVariables_prefix {V A : List String} (hV : V <+: A) (hA : A.Nodup) :
    (getOperatorVariables (some V) A).2 = List.range V.length := by
  refine List.ext_getElem (by simp [getOperatorVariables]) fun k hk _ => ?_
  simp only [getOperatorVariables, Option.getD_some, List.getElem_map, List.getElem_range]
  rw [hV.getElem, List.indexOf_getElem hA]

/-- When the operator variables are a prefix of the distinct assimilated variables (all of
them, as when none is configured, among others), `simulateObs` fills column `k` at every
location with the `hofx` of the operator built for `V[k]`, and leaves the other columns. -/
theorem simulateObs_prefix_matches_operators {α : Type} [DecidableEq α] {V A : List String}
    (namedValues : List (α × String)) (correctionType : α)
    (simobs : String → Nat → Float32) {nlocs : Nat} {ovec : List Float32}
    (hV : V <+: A) (hA : A.Nodup) (hlen : ovec.length = nlocs * A.length) :
    ∃ ovec', (ObsSfcCorrected.init (some V) A namedValues correctionType).simulateObs simobs nlocs
        A.length ovec = .ok ovec' ∧
      ∀ jloc < nlocs,
        (∀ (k : Nat) (hk : k < V.length), ovec'[jloc * A.length + k]? =
          some (simobs (operatorName V[k] (methodName namedValues correctionType)) jloc)) ∧
        ∀ j, V.length ≤ j → j < A.length → ovec'[jloc * A.length + j]? = ovec[jloc * A.length + j]? := by
  have hindices := getOperatorVariables_prefix hV hA
  have hle := hV.length_le
  have hidx : ∀ jvar ∈ (ObsSfcCorrected.init (some V) A namedValues correctionType).operatorVarIndices,
      jvar < (ObsSfcCorrected.init (some V) A namedValues correctionType).operators.length ∧
        jvar < A.length := by
    intro jvar hjvar
    simp only [ObsSfcCorrected.init, hindices, List.mem_range] at hjvar
    simp only [ObsSfcCorrected.init, getOperatorVariables, Option.getD_some, List.length_map]
    omega
  obtain ⟨ovec', hrun, -, hcols⟩ := simulateObs_fills_indexed_columns _ simobs hlen hidx
  refine ⟨ovec', hrun, fun jloc hjloc => ⟨fun k hk => ?_, fun j hj hjA => ?_⟩⟩
  · rw [hcols jloc hjloc k (by omega)]
    simp only [ObsSfcCorrected.init, hindices, List.mem_range, hk, if_true]
    simp [getOperatorVariables, List.getD_eq_getElem, hk]
  · rw [hcols jloc hjloc j hjA]
    simp [ObsSfcCorrected.init, hindices, hj]

/-- The correction types of the operators EvalSurfaceTemperature.h declares. -/
inductive SfcCorrectionType
  | WRFDA
  | UKMO
  | GSL
  deriving DecidableEq

/-- Named enumerators of `SfcCorrectionType`, each by its operators' suffix. -/
def sfcCorrectionNames : List (SfcCorrectionType × String) :=
  [(.WRFDA, "WRFDA"), (.UKMO, "UKMO"), (.GSL, "GSL")]

/-- The assimilated variables of a surface-correction run. -/
def surfaceVars : List String := ["stationPressure", "airTemperatureAt2M"]

/-- An `hofx` that tells the two surface operators apart. -/
def sampleSimobs (oper : String) (_ : Nat) : Float32 :=
  if oper = operatorName "airTemperatureAt2M" "UKMO" then ⟨1⟩ else ⟨2⟩

/-- With `[airTemperatureAt2M]` configured, `operatorVarIndices_ = [1]` but `operators_` has one
entry, and `simulateObs` reads `operators_[1]`. With the operator variables in the other order,
column `0` (`stationPressure`) receives the `hofx` of the `airTemperatureAt2M` operator, and
column `1` that of the `stationPressure` operator. -/
theorem simulateObs_indexes_operators_by_column :
    (ObsSfcCorrected.init (some ["airTemperatureAt2M"]) surfaceVars sfcCorrectionNames .UKMO).operatorVarIndices =
      [1] ∧
    (ObsSfcCorrected.init (some ["airTemperatureAt2M"]) surfaceVars sfcCorrectionNames .UKMO).simulateObs
      sampleSimobs 1 2 [⟨0⟩, ⟨0⟩] = .error .outOfRange ∧
    (ObsSfcCorrected.init (some ["airTemperatureAt2M", "stationPressure"]) surfaceVars
      sfcCorrectionNames .UKMO).simulateObs sampleSimobs 1 2 [⟨0⟩, ⟨0⟩] =
      .ok [sampleSimobs (operatorName "airTemperatureAt2M" "UKMO") 0,
        sampleSimobs (operatorName "stationPressure" "UKMO") 0] ∧
    sampleSimobs (operatorName "airTemperatureAt2M" "UKMO") 0 ≠
      sampleSimobs (operatorName "stationPressure" "UKMO") 0 :=
  ⟨rfl, rfl, rfl, by decide⟩

/-- Two locations, all columns zero. -/
def zeroObs : List Float32 := List.replicate 4 ⟨0⟩

theorem simulateObs_prefix_matches_operators_stationPressure :
    ["stationPressure"] <+: surfaceVars ∧ surfaceVars.Nodup ∧
    zeroObs.length = 2 * surfaceVars.length ∧
    ∃ ovec', (ObsSfcCorrected.init (some ["stationPressure"]) surfaceVars sfcCorrectionNames .UKMO).simulateObs
        sampleSimobs 2 surfaceVars.length zeroObs = .ok ovec' ∧
      ∀ jloc < 2,
        (∀ (k : Nat) (hk : k < ["stationPressure"].length), ovec'[jloc * surfaceVars.length + k]? =
          some (sampleSimobs (operatorName ["stationPressure"][k]
            (methodName sfcCorrectionNames .UKMO)) jloc)) ∧
        ∀ j, ["stationPressure"].length ≤ j → j < surfaceVars.length →
          ovec'[jloc * surfaceVars.length + j]? = zeroObs[jloc * surfaceVars.length + j]? :=
  have hV : ["stationPressure"] <+: surfaceVars := ⟨["airTemperatureAt2M"], rfl⟩
  have hA : surfaceVars.Nodup := by decide
  ⟨hV, hA, rfl, simulateObs_prefix_matches_operators sfcCorrectionNames .UKMO sampleSimobs hV hA rfl⟩

/-- With the operator variables among the assimilated ones and at least one location,
`simulateObs` reads and writes in range exactly when every operator variable sits, among the
assimilated variables, at a position below the number of operator variables: `operators_` is
indexed by that position. -/
theorem simulateObs_ok_iff {α : Type} [DecidableEq α] {V A : List String}
    (namedValues : List (α × String)) (correctionType : α) (simobs : String → Nat → Float32) {nlocs : Nat} (hnlocs : 0 < nlocs) (hVA : ∀ v ∈ V, v ∈ A)
    {ovec : List Float32} (hlen : ovec.length = nlocs * A.length) :
    (∃ ovec', (ObsSfcCorrected.init (some V) A namedValues correctionType).simulateObs simobs nlocs
      A.length ovec = .ok ovec') ↔ ∀ v ∈ V, A.indexOf v < V.length := by
  rw [ObsSfcCorrected.simulateObs, ObsSfcCorrected.foldlM_simulateVar_ok_iff simobs hnlocs _ hlen]
  simp only [ObsSfcCorrected.init, getOperatorVariables, Option.getD_some, List.length_map,
    List.forall_mem_map]
  exact forall₂_congr fun v hv => and_iff_left (List.indexOf_lt_length.mpr (hVA v hv))

theorem simulateObs_ok_iff_airTemperature :
    0 < 2 ∧ (∀ v ∈ ["airTemperatureAt2M"], v ∈ surfaceVars) ∧
    zeroObs.length = 2 * surfaceVars.length ∧
    ((∃ ovec', (ObsSfcCorrected.init (some ["airTemperatureAt2M"]) surfaceVars sfcCorrectionNames .UKMO).simulateObs
        sampleSimobs 2 surfaceVars.length zeroObs = .ok ovec') ↔
      ∀ v ∈ ["airTemperatureAt2M"], surfaceVars.indexOf v < ["airTemperatureAt2M"].length) :=
  ⟨by decide, by decide, rfl,
    simulateObs_ok_iff sfcCorrectionNames .UKMO sampleSimobs (by decide) (by decide) rfl⟩


/-- Whenever `simulateObs` completes, it has written column `j` at every location from
`operators_[j]` for each `j` of `operatorVarIndices_`, and nothing else: the other columns are
as they were. -/
theorem simulateObs_writes_only_indexed_columns (self : ObsSfcCorrected)
    (simobs : String → Nat → Float32) {nlocs nvars : Nat} {ovec ovec' : List Float32}
    (hlen : ovec.length = nlocs * nvars) (h : self.simulateObs simobs nlocs nvars ovec = .ok ovec') :
    ∀ jloc < nlocs, ∀ j < nvars, ovec'[jloc * nvars + j]? =
      if j ∈ self.operatorVarIndices then some (simobs (self.operators.getD j "") jloc)
      else ovec[jloc * nvars + j]? := by
  intro jloc hjloc
  have hidx := (ObsSfcCorrected.foldlM_simulateVar_ok_iff simobs (Nat.zero_lt_of_lt hjloc) _
    hlen).mp ⟨ovec', h⟩
  obtain ⟨ovec'', hrun, -, hcols⟩ := simulateObs_fills_indexed_columns self simobs hlen hidx
  rw [h, Except.ok.injEq] at hrun
  exact hrun ▸ hcols jloc hjloc

theorem simulateObs_writes_only_indexed_columns_swapped :
    ([⟨0⟩, ⟨0⟩] : List Float32).length = 1 * 2 ∧
    (ObsSfcCorrected.init (some ["airTemperatureAt2M", "stationPressure"]) surfaceVars
      sfcCorrectionNames .UKMO).simulateObs sampleSimobs 1 2 [⟨0⟩, ⟨0⟩] =
      .ok [sampleSimobs (operatorName "airTemperatureAt2M" "UKMO") 0,
        sampleSimobs (operatorName "stationPressure" "UKMO") 0] ∧
    ∀ jloc < 1, ∀ j < 2,
      [sampleSimobs (operatorName "airTemperatureAt2M" "UKMO") 0,
        sampleSimobs (operatorName "stationPressure" "UKMO") 0][jloc * 2 + j]? =
      if j ∈ (ObsSfcCorrected.init (some ["airTemperatureAt2M", "stationPressure"]) surfaceVars
          sfcCorrectionNames .UKMO).operatorVarIndices then
        some (sampleSimobs ((ObsSfcCorrected.init (some ["airTemperatureAt2M", "stationPressure"])
          surfaceVars sfcCorrectionNames .UKMO).operators.getD j "") jloc)
      else ([⟨0⟩, ⟨0⟩] : List Float32)[jloc * 2 + j]? :=
  have h : (ObsSfcCorrected.init (some ["airTemperatureAt2M", "stationPressure"]) surfaceVars
      sfcCorrectionNames .UKMO).simulateObs sampleSimobs 1 2 [⟨0⟩, ⟨0⟩] =
      .ok [sampleSimobs (operatorName "airTemperatureAt2M" "UKMO") 0,
        sampleSimobs (operatorName "stationPressure" "UKMO") 0] := rfl
  ⟨rfl, h, simulateObs_writes_only_indexed_columns _ sampleSimobs rfl h⟩

end Ufo
