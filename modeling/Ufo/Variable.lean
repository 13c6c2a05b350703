import Mathlib.Data.List.Sort

namespace Ufo

/-- Modelled from the spec: `ufo::Variable`, a field of a group with an optional list of
channels (its source is not part of this repository's files). -/
structure Variable where
  group : String
  name : String
  channels : List Int
  deriving DecidableEq, Repr

namespace Variable

/-- Modelled from the spec: `Variable::size()`, one slot per channel, one slot for a field
without channels. -/
def size (v : Variable) : Nat := if v.channels = [] then 1 else v.channels.length

/-- Modelled from the spec: `Variable::variable(ich)`, the name of slot `ich`; channel `c`
appends `_c` (`airTemperature_2`). -/
def «variable» (v : Variable) (ich : Nat) : String :=
  if v.channels = [] then v.name else v.name ++ "_" ++ toString (v.channels.getD ich 0)

/-- Modelled from the spec: `Variable::fullName()`, `group/name`. -/
def fullName (v : Variable) : String :=
  if v.group = "" then v.name else v.group ++ "/" ++ v.name

theorem size_pos (v : Variable) : 0 < v.size := by
  unfold size
  split <;> simp_all [List.length_pos]

end Variable

/-- `getVariableNameAtLevel`: the Display Key of one level of a multi-level field. -/
def getVariableNameAtLevel (varname : String) (level : Int) : String :=
  varname ++ " (level " ++ toString level ++ ")"

example : getVariableNameAtLevel "temperature" 3 = "temperature (level 3)" := by decide

/-- `getVariableNameWithChannel`: the Display Key of one channel slot. -/
def getVariableNameWithChannel (var : Variable) (channel : Nat) : String :=
  var.group ++ "/" ++ var.variable channel

example : getVariableNameWithChannel ⟨"ObsValue", "airTemperature", [0, 1, 2]⟩ 2 =
    "ObsValue/airTemperature_2" := by decide

/-- `isMultiLevelData`: the groups whose fields are printed level by level. -/
def isMultiLevelData (var : Variable) : Bool :=
  var.group = "GeoVaLs" || var.group = "ObsDiag" || var.group = "ObsBiasTerm"

/-- `VariablePrintParameters`: a declared variable and its `std::set<int>` of levels, which
iterates in ascending order. -/
structure VariablePrintParameters where
  «variable» : Variable
  levels : List Int
  levels_sorted : levels.Sorted (· < ·)

/-- The options of `PrintFilterDataParameters` that the filter reads. -/
structure Parameters where
  «variables» : List VariablePrintParameters
  locmin : Int
  locmax : Int
  maxTextWidth : Int
  columnWidth : Int
  floatPrecision : Int
  scientificNotation : Bool
  printRank0 : Bool
  message : Option String
  summary : Bool

end Ufo
