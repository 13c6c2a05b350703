import Ufo.Render

namespace Ufo

/-- Two columns of one alternative, concatenated as `allGatherv` concatenates them. -/
def FilterDatum.append : FilterDatum → FilterDatum → FilterDatum
  | .int xs, .int ys => .int (xs ++ ys)
  | .float xs, .float ys => .float (xs ++ ys)
  | .string xs, .string ys => .string (xs ++ ys)
  | .dateTime xs, .dateTime ys => .dateTime (xs ++ ys)
  | column, _ => column

/-- One call seen from two ranks: the columns of an `allGatherv`, concatenated. -/
def Action.gather : Action → Action → Action
  | .allGatherv key column, .allGatherv _ column' => .allGatherv key (column.append column')
  | action, _ => action

/-- The actions of the ranks, the columns of each `allGatherv` concatenated in rank order: the
columns `getAllData` stores in `filterData_` on every rank. -/
def gatherActions : List (List Action) → List Action
  | [] => []
  | actions :: ranks => ranks.foldl (List.zipWith Action.gather) actions

/-- A `PrintFilterData` object: its parameters, and the `filterData_` it keeps from one call
of `doFilter` to the next. -/
structure PrintFilterData where
  parameters : Parameters
  filterData : Cache

namespace PrintFilterData

/-- The constructor (lines 24-40): `filterData_` starts empty. -/
def init (params : Parameters) : PrintFilterData := ⟨params, Cache.empty⟩

/-- Lines 402-409: the banner, then the message if there is one. -/
def banner (params : Parameters) : List String :=
  ["", "############################", "### Printing filter data ###",
    "############################", "", ""] ++
  match params.message with
  | some message => [message, ""]
  | none => []

/-- `doFilter` (lines 397-418) on the rank holding `store`, in a run over `stores`, one store a
rank: what it writes to `os_`, and the object after the call. -/
def doFilterOn (env : Env) (self : PrintFilterData) (stores : List Store) (store : Store) :
    Except Failure (List String) × PrintFilterData :=
  let params := self.parameters
  let actions := getAllData store params.variables
  let gathered := gatherActions (stores.map fun store => getAllData store params.variables)
  let self' : PrintFilterData := ⟨params, writeFilterData self.filterData gathered⟩
  let written := banner params ++ (if params.summary then store.summary else []) ++ notes actions
  match thrown actions with
  | some failure => (.error failure, self')
  | none =>
    ((printAllData env params store self'.filterData (stores.foldr (·.nlocs + ·) 0)
      (gatherAll stores)).map (written ++ ·), self')

/-- `doFilter` on a single rank. -/
def doFilter (env : Env) (self : PrintFilterData) (store : Store) :
    Except Failure (List String) × PrintFilterData :=
  self.doFilterOn env [store] store

end PrintFilterData

/-- One declared `ObsValue` field of `int` values, present in the store. -/
def obsValueField : VariablePrintParameters := ⟨⟨"ObsValue", "x", []⟩, [], List.sorted_nil⟩

def obsValueStore : Store := Store.ofInts [0] [true] [(obsValueField.variable, .integer, [5])] [] 0

/-- A `GeoVaLs` field of `Integer` type, declared with level `0`. -/
def geoVaLsLevelField : VariablePrintParameters := ⟨⟨"GeoVaLs", "x", []⟩, [0], by decide⟩

/-- An environment for the concrete runs below; the cells they print hold no missing value. -/
def sampleEnv : Env := ⟨-2147483647, ⟨0xff7fffff⟩, "*****", ⟨0, 0⟩, fun _ _ _ => "", fun _ => ""⟩

/-- Channels `1` and `2` of an `ObsValue` field, of which `get_db` finds only channel `1`, with
value `value`, and levels `0` and `1` of a `Float` `GeoVaLs` field with one level, at row
`row`. -/
def levelChannelStore (row : Nat) (value : Int) : Store :=
  Store.ofInts [row] [true] [(⟨"ObsValue", "x", [1, 2]⟩, .integer, []), (⟨"GeoVaLs", "t", []⟩, .float, [])]
    [(("ObsValue", "x_1"), [value])] 1

def levelChannelParams : Parameters :=
  ⟨[⟨⟨"ObsValue", "x", [1, 2]⟩, [], List.sorted_nil⟩, ⟨⟨"GeoVaLs", "t", []⟩, [0, 1], by decide⟩],
    0, 0, 80, 5, 2, false, false, none, false⟩

/-- Rows `1` and `2` of an `ObsValue` field with values `10` and `20` (row `0` excluded
upstream), on one rank, with no location restriction. -/
def gappedStore : Store :=
  Store.ofInts [1, 2] [true, true] [(obsValueField.variable, .integer, [10, 20])] [] 0

def gappedParams : Parameters := ⟨[obsValueField], 0, 0, 80, 4, 2, false, false, none, false⟩

/-- The run prints `20`, the value of row `2`, under the header of row `1`. -/
theorem doFilter_prints_other_row_under_header :
    ((PrintFilterData.init gappedParams).doFilter sampleEnv gappedStore).1 =
      .ok (PrintFilterData.banner gappedParams ++
        ["  Location |    1 | ", "-----------+------+-", "ObsValue/x |   20 | ", ""]) := by
  rfl

/-- Channel `1` of an `ObsValue` field holding `7`, and the same store once the channel is
gone. -/
def channelStore (present : Bool) : Store :=
  Store.ofInts [0] [true] [(⟨"ObsValue", "x", [1]⟩, .integer, [])]
    (if present then [(("ObsValue", "x_1"), [7])] else []) 0

def channelParams : Parameters :=
  ⟨[⟨⟨"ObsValue", "x", [1]⟩, [], List.sorted_nil⟩], 0, 0, 80, 5, 2, false, false, none, false⟩

/-- A second call, on the store without the channel, notes the channel as absent and still
prints the row cached by the first call; a fresh object prints no row. -/
theorem doFilter_reprints_stale_channel :
    (((PrintFilterData.init channelParams).doFilter sampleEnv (channelStore true)).2.doFilter
      sampleEnv (channelStore false)).1 =
      .ok (PrintFilterData.banner channelParams ++ ["ObsValue/x_1 not present in filter data",
        "    Location |     0 | ", "-------------+-------+-", "ObsValue/x_1 |     7 | ", ""]) ∧
    ((PrintFilterData.init channelParams).doFilter sampleEnv (channelStore false)).1 =
      .ok (PrintFilterData.banner channelParams ++ ["ObsValue/x_1 not present in filter data",
        "    Location |     0 | ", "-------------+-------+-", ""]) :=
  ⟨rfl, rfl⟩

end Ufo
