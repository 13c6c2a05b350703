import Ufo.GetAllData
import Ufo.Selection
import Ufo.Rows

namespace Ufo

/-- What a cell takes from outside the filter: `util::missingValue<T>()`, and the `iostream`
text of a `float` (scientific or fixed, at a precision) and of a `util::DateTime`. -/
structure Env where
  missingInt : Int
  missingFloat : Float32
  missingString : String
  missingDateTime : DateTime
  showFloat : Bool → Int → Float32 → String
  showDateTime : DateTime → String

/-- `std::setw(width) << text`, right-aligned: padded on the left, never cut. -/
def setw (width : Int) (text : String) : String :=
  String.mk (List.replicate (width.toNat - text.length) ' ') ++ text

/-- The body of `printVariable<T>` once `boost::get` has returned the vector: the value at
`loc`, or `missing` when it equals the missing value. -/
def printCell {α : Type} [DecidableEq α] (params : Parameters) (missing : α)
    (text : α → String) (values : List α) (loc : Nat) : Except Failure String := do
  let value ← read values loc
  return setw params.columnWidth (if value = missing then "missing" else text value)

/-- `printVariable<T>` (lines 122-135) at the four alternatives of the variant, and the `bool`
overload (lines 137-142), which reads the `int` vector and has no missing value. A
`boost::get` of another alternative throws `bad_get`. -/
def printVariable (env : Env) (params : Parameters) :
    VariableType → FilterDatum → Nat → Except Failure String
  | .int, .int values, loc => printCell params env.missingInt toString values loc
  | .float, .float values, loc => printCell params env.missingFloat
      (env.showFloat params.scientificNotation params.floatPrecision) values loc
  | .string, .string values, loc => printCell params env.missingString id values loc
  | .dateTime, .dateTime values, loc => printCell params env.missingDateTime env.showDateTime
      values loc
  | .bool, .int values, loc => do
    let value ← read values loc
    return setw params.columnWidth (toString value)
  | _, _, _ => .error .badGet

/-- The type dispatch of lines 368-386 for one cell; a type outside the switch prints
nothing. -/
def printTyped (env : Env) (params : Parameters) (dtype : ObsDtype) (datum : FilterDatum)
    (idx : Nat) : Except Failure String :=
  match dtype with
  | .integer => printVariable env params .int datum idx
  | .float => printVariable env params .float datum idx
  | .string => printVariable env params .string datum idx
  | .dateTime => printVariable env params .dateTime datum idx
  | .bool => printVariable env params .bool datum idx
  | .other => .ok ""

/-- `getMaxVariableNameLength` (lines 199-232): the longest row label, at least
`"Location"`. Levels count only when their key is in `filterData_`. -/
def getMaxVariableNameLength (params : Parameters) (cache : Cache) : Nat :=
  params.variables.foldl (fun maxLength p =>
    let var := p.variable
    if isMultiLevelData var then
      p.levels.foldl (fun maxLength level =>
        let name := getVariableNameAtLevel var.fullName level
        if (cache name).isNone then maxLength else max name.length maxLength) maxLength
    else if var.channels.length = 0 then max var.fullName.length maxLength
    else (List.range var.size).foldl (fun maxLength ich =>
      max (getVariableNameWithChannel var ich).length maxLength) maxLength)
    "Location".length

/-- Lines 333-336: the header of a page. -/
def headerLine (maxVariableNameLength columnWidth : Int) (locGroup : List Int) : String :=
  setw maxVariableNameLength "Location" ++ " | " ++
    String.join (locGroup.map fun loc => setw columnWidth (toString loc) ++ " | ")

/-- Lines 338-341: the rule under the header; `std::string(columnWidth, '-')` throws
`std::length_error` for a negative width. -/
def separatorLine (maxVariableNameLength columnWidth : Int) (locGroup : List Int) :
    Except Failure String :=
  if columnWidth < 0 ∧ locGroup ≠ [] then .error .lengthError
  else .ok (String.mk (List.replicate maxVariableNameLength.toNat '-') ++ "-+-" ++
    String.join (locGroup.map fun _ => String.mk (List.replicate columnWidth.toNat '-') ++ "-+-"))

/-- One row of the table: the label, then each cell followed by `" | "`. -/
def variableRow (maxVariableNameLength : Int) (varname : String) (cells : List String) : String :=
  setw maxVariableNameLength varname ++ " | " ++ String.join (cells.map (· ++ " | "))

/-- The Display Keys the render loop looks up for one declared variable (lines 345-365). -/
def renderKeys (store : Store) (p : VariablePrintParameters) : List String :=
  let var := p.variable
  if !store.has var then []
  else if isMultiLevelData var then p.levels.map (getVariableNameAtLevel var.fullName)
  else (List.range var.size).map (getVariableNameWithChannel var)

/-- The looked-up keys of one variable that `filterData_` holds, with their columns. -/
def foundKeys (store : Store) (cache : Cache) (p : VariablePrintParameters) :
    List (String × FilterDatum) :=
  (renderKeys store p).filterMap fun varname => (cache varname).map (varname, ·)

/-- One cell of the row of a declared variable (lines 368-386): multi-level data prints as
`float`, the rest by its element type. -/
def printVariableCell (env : Env) (params : Parameters) (store : Store)
    (p : VariablePrintParameters) (datum : FilterDatum) (idx : Nat) : Except Failure String :=
  if isMultiLevelData p.variable then printVariable env params .float datum idx
  else printTyped env params (store.dtype p.variable) datum idx

/-- Lines 343-392 for one declared variable on one page: a row for each looked-up key found in
`filterData_`. -/
def printVariableRows (env : Env) (params : Parameters) (store : Store) (cache : Cache)
    (maxVariableNameLength : Int) (idxGroup : List Nat) (p : VariablePrintParameters) :
    Except Failure (List String) :=
  (foundKeys store cache p).mapM fun (varname, datum) => do
    let cells ← idxGroup.mapM (printVariableCell env params store p datum)
    return variableRow maxVariableNameLength varname cells

/-- Lines 329-394 for one page: header, rule, the rows, and a blank line. -/
def printPage (env : Env) (params : Parameters) (store : Store) (cache : Cache)
    (maxVariableNameLength : Int) (locGroup : List Int) (idxGroup : List Nat) :
    Except Failure (List String) := do
  let separator ← separatorLine maxVariableNameLength params.columnWidth locGroup
  let rows ← params.variables.mapM
    (printVariableRows env params store cache maxVariableNameLength idxGroup)
  return [headerLine maxVariableNameLength params.columnWidth locGroup, separator] ++
    rows.flatten ++ [""]

theorem mapM_map_congr {α β γ : Type} {f : α → Except Failure γ} {g : β → Except Failure γ}
    {h : α → β} : ∀ {l : List α}, (∀ a ∈ l, f a = g (h a)) → l.mapM f = (l.map h).mapM g
  | [], _ => rfl
  | a :: l, hfg => by
    rw [List.map_cons, List.mapM_cons, List.mapM_cons, hfg a (.head _),
      mapM_map_congr fun b hb => hfg b (.tail _ hb)]

theorem mapM_ok_forall₂ {α β : Type} {f : α → Except Failure β} :
    ∀ {l : List α} {r : List β}, l.mapM f = .ok r → List.Forall₂ (fun a b => f a = .ok b) l r
  | [], r, h => by
    rw [List.mapM_nil, pure_eq_ok, Except.ok.injEq] at h
    exact h ▸ .nil
  | x :: l, r, h => by
    rw [List.mapM_cons] at h
    cases hx : f x with
    | error e => rw [hx, error_bind] at h; cases h
    | ok b =>
      cases hl : l.mapM f with
      | error e => rw [hx, ok_bind, hl, error_bind] at h; cases h
      | ok bs =>
        rw [hx, ok_bind, hl, ok_bind, pure_eq_ok, Except.ok.injEq] at h
        exact h ▸ .cons hx (mapM_ok_forall₂ hl)

theorem mapM_ne_error {α β : Type} {f : α → Except Failure β} {e : Failure} :
    ∀ {l : List α}, (∀ a ∈ l, f a ≠ .error e) → l.mapM f ≠ .error e
  | [], _ => nofun
  | a :: l, h => by
    rw [List.mapM_cons]
    exact bind_ne_error (h a (.head _)) fun _ _ =>
      bind_ne_error (mapM_ne_error fun b hb => h b (.tail _ hb)) fun _ _ => nofun

theorem mem_foundKeys {store : Store} {cache : Cache} {p : VariablePrintParameters}
    {kd : String × FilterDatum} :
    kd ∈ foundKeys store cache p ↔ kd.1 ∈ renderKeys store p ∧ cache kd.1 = some kd.2 := by
  obtain ⟨key, datum⟩ := kd
  simp only [foundKeys, List.mem_filterMap, Option.map_eq_some', Prod.mk.injEq]
  constructor
  · rintro ⟨k, hk, d, hd, rfl, rfl⟩
    exact ⟨hk, hd⟩
  · rintro ⟨hk, hd⟩
    exact ⟨key, hk, datum, hd, rfl, rfl⟩

theorem printVariableRows_rows {env : Env} {params : Parameters} {store : Store} {cache : Cache}
    {maxVariableNameLength : Int} {idxGroup : List Nat} {p : VariablePrintParameters}
    {rows : List String}
    (h : printVariableRows env params store cache maxVariableNameLength idxGroup p = .ok rows) :
    List.Forall₂ (fun kd row => ∃ cells, row = variableRow maxVariableNameLength kd.1 cells)
      (foundKeys store cache p) rows :=
  (mapM_ok_forall₂ h).imp fun ⟨varname, datum⟩ row hrow => by
    dsimp only at hrow
    cases hcells : idxGroup.mapM (printVariableCell env params store p datum) with
    | error e => rw [hcells, error_bind] at hrow; cases hrow
    | ok cells =>
      rw [hcells, ok_bind, pure_eq_ok, Except.ok.injEq] at hrow
      exact ⟨cells, hrow.symm⟩

/-- A page that prints is its header, its rule, one row for each key the render loop looks up
and finds in `filterData_`, labelled with that key, in the configured order, and a blank
line. -/
theorem printPage_rows {env : Env} {params : Parameters} {store : Store} {cache : Cache}
    {maxVariableNameLength : Int} {locGroup : List Int} {idxGroup : List Nat} {lines : List String}
    (h : printPage env params store cache maxVariableNameLength locGroup idxGroup = .ok lines) :
    ∃ separator rows, lines =
        [headerLine maxVariableNameLength params.columnWidth locGroup, separator] ++ rows ++ [""] ∧
      List.Forall₂ (fun kd row => ∃ cells, row = variableRow maxVariableNameLength kd.1 cells)
        (params.variables.flatMap (foundKeys store cache)) rows := by
  unfold printPage at h
  cases hsep : separatorLine maxVariableNameLength params.columnWidth locGroup with
  | error e => rw [hsep, error_bind] at h; cases h
  | ok separator =>
    cases hrows : params.variables.mapM
        (printVariableRows env params store cache maxVariableNameLength idxGroup) with
    | error e => rw [hsep, ok_bind, hrows, error_bind] at h; cases h
    | ok rows =>
      rw [hsep, ok_bind, hrows, ok_bind, pure_eq_ok, Except.ok.injEq] at h
      refine ⟨separator, rows.flatten, h.symm, ?_⟩
      have hvars := (mapM_ok_forall₂ hrows).imp fun _ _ hp => printVariableRows_rows hp
      simpa [List.flatMap] using List.rel_flatten (List.forall₂_map_left_iff.mpr hvars)

theorem forall₂_exists_mem {α β : Type} {R : α → β → Prop} :
    ∀ {l : List α} {r : List β}, List.Forall₂ R l r → ∀ a ∈ l, ∃ b ∈ r, R a b
  | _, _, .nil, _, ha => absurd ha (List.not_mem_nil _)
  | _, _, .cons hab hrest, a, ha => by
    rcases List.mem_cons.mp ha with rfl | ha
    · exact ⟨_, .head _, hab⟩
    · obtain ⟨b, hb, hr⟩ := forall₂_exists_mem hrest a ha
      exact ⟨b, .tail _ hb, hr⟩

/-- An `allGatherv` of `int` vectors as one rank sees it: every rank passes the vector its
own code computes from its rank and local store, and receives their concatenation in rank
order. -/
abbrev AllGatherv := (Nat → Store → List Int) → List Int

/-- `allGatherv` over the ranks' local stores, rank `0` first. -/
def gatherAll (stores : List Store) : AllGatherv := fun contribution =>
  ((List.range stores.length).zip stores).flatMap fun rank => contribution rank.1 rank.2

/-- Lines 249-253: this rank's part of `globalApply`, all zero off rank 0 under `printRank0`. -/
def localApply (params : Parameters) (rank : Nat) (store : Store) : List Int :=
  if params.printRank0 ∧ rank ≠ 0 then store.apply.map fun _ => 0
  else store.apply.map fun b => if b then 1 else 0

/-- Lines 237-246, before the first collective of `printAllData`: the effective window,
checked at line 240, and the locations per row (a division by zero is undefined). -/
def setup (params : Parameters) (maxVariableNameLength globalNumLocs : Nat) :
    Except Failure (Int × Int × Int) := do
  let (locmin, locmax) := window params.locmin params.locmax globalNumLocs
  if locmin > locmax then
    throw (.badValue "Minimum location cannot be larger than maximum location")
  if params.columnWidth + 3 = 0 then throw .divisionByZero
  return (locmin, locmax, nlocsPerRow params.maxTextWidth maxVariableNameLength params.columnWidth)

theorem setup_eq (params : Parameters) (maxVariableNameLength globalNumLocs : Nat) :
    setup params maxVariableNameLength globalNumLocs =
      if (window params.locmin params.locmax globalNumLocs).2 <
          (window params.locmin params.locmax globalNumLocs).1 then
        .error (.badValue "Minimum location cannot be larger than maximum location")
      else if params.columnWidth + 3 = 0 then .error .divisionByZero
      else .ok ((window params.locmin params.locmax globalNumLocs).1,
        (window params.locmin params.locmax globalNumLocs).2,
        nlocsPerRow params.maxTextWidth maxVariableNameLength params.columnWidth) := by
  unfold setup
  cases window params.locmin params.locmax globalNumLocs with
  | mk locmin locmax =>
    dsimp only
    split_ifs <;> rfl

/-- Lines 268-394, once the mask and the index are gathered: select the locations, group them
into pages and print each page. -/
def printTable (env : Env) (params : Parameters) (store : Store) (cache : Cache)
    (maxVariableNameLength globalNumLocs : Nat) (locmin locmax perRow : Int)
    (globalApply globalIndex : List Int) : Except Failure (List String) := do
  let (locsToPrint, indicesToPrint) ←
    locationsToPrint globalNumLocs locmin locmax globalApply globalIndex
  let rowOfLocsToPrint := groupRows perRow.toNat locsToPrint
  let rowOfIndicesToPrint := groupRows perRow.toNat indicesToPrint
  let pages ← (rowOfLocsToPrint.zip rowOfIndicesToPrint).mapM fun group =>
    printPage env params store cache maxVariableNameLength group.1 group.2
  return pages.flatten

/-- What one rank computes around `allGatherv` calls of `int` vectors: each call names what every
rank contributes, and the rest of the computation reads their concatenation. -/
inductive Gathering (α : Type) where
  | done (result : α)
  | allGatherv (contribution : Nat → Store → List Int) (next : List Int → Gathering α)

namespace Gathering

/-- The computation, each call answered by the collective. -/
def run {α : Type} (allGatherv : AllGatherv) : Gathering α → α
  | .done result => result
  | .allGatherv contribution next => (next (allGatherv contribution)).run allGatherv

/-- The element types of the calls the computation makes, in call order. -/
def calls {α : Type} (allGatherv : AllGatherv) : Gathering α → List VariableType
  | .done _ => []
  | .allGatherv contribution next => .int :: (next (allGatherv contribution)).calls allGatherv

end Gathering

/-- `printAllData` (lines 234-395) as a computation around its two collectives: the window and
`nlocsPerRow` (lines 237-246), the `allGatherv` of `globalApply` and of `globalIndex` (lines
249-266), then the table (lines 268-394). -/
def printAllDataGathering (env : Env) (params : Parameters) (store : Store) (cache : Cache)
    (globalNumLocs : Nat) : Gathering (Except Failure (List String)) :=
  let maxVariableNameLength := getMaxVariableNameLength params cache
  match setup params maxVariableNameLength globalNumLocs with
  | .error failure => .done (.error failure)
  | .ok (locmin, locmax, perRow) =>
    .allGatherv (localApply params) fun globalApply =>
    .allGatherv (fun _ store => store.index.map Int.ofNat) fun globalIndex =>
    .done (printTable env params store cache maxVariableNameLength globalNumLocs locmin locmax
      perRow globalApply globalIndex)

/-- `printAllData` (lines 234-395) on one rank, given `globalNumLocs` and the collective. -/
def printAllData (env : Env) (params : Parameters) (store : Store) (cache : Cache)
    (globalNumLocs : Nat) (allGatherv : AllGatherv) : Except Failure (List String) :=
  (printAllDataGathering env params store cache globalNumLocs).run allGatherv

theorem printAllData_eq (env : Env) (params : Parameters) (store : Store) (cache : Cache)
    (globalNumLocs : Nat) (allGatherv : AllGatherv) :
    printAllData env params store cache globalNumLocs allGatherv = (do
      let (locmin, locmax, perRow) ←
        setup params (getMaxVariableNameLength params cache) globalNumLocs
      printTable env params store cache (getMaxVariableNameLength params cache) globalNumLocs
        locmin locmax perRow (allGatherv (localApply params))
        (allGatherv fun _ store => store.index.map Int.ofNat)) := by
  unfold printAllData printAllDataGathering
  dsimp only
  cases setup params (getMaxVariableNameLength params cache) globalNumLocs <;> rfl

/-- `printAllData` makes its two `int` gathers exactly when `setup` passes. -/
theorem calls_printAllDataGathering (env : Env) (params : Parameters) (store : Store)
    (cache : Cache) (globalNumLocs : Nat) (allGatherv : AllGatherv) :
    (printAllDataGathering env params store cache globalNumLocs).calls allGatherv =
      if (setup params (getMaxVariableNameLength params cache) globalNumLocs).toBool then
        [.int, .int]
      else [] := by
  unfold printAllDataGathering
  dsimp only
  cases setup params (getMaxVariableNameLength params cache) globalNumLocs <;> rfl

theorem setup_perRow {params : Parameters} {maxVariableNameLength globalNumLocs : Nat}
    {window : Int × Int × Int} (h : setup params maxVariableNameLength globalNumLocs = .ok window) :
    window.2.2 = nlocsPerRow params.maxTextWidth maxVariableNameLength params.columnWidth := by
  rw [setup_eq] at h
  split_ifs at h
  cases h
  rfl

/-- What `printAllData` writes: its pages, one for each group of at most `nlocsPerRow` selected
locations. -/
theorem printAllData_pages {env : Env} {params : Parameters} {store : Store} {cache : Cache}
    {globalNumLocs : Nat} {allGatherv : AllGatherv} {lines : List String}
    (h : printAllData env params store cache globalNumLocs allGatherv = .ok lines) :
    ∃ (locsToPrint : List Int) (indicesToPrint : List Nat) (pages : List (List String)),
      lines = pages.flatten ∧
      List.Forall₂ (fun group page => printPage env params store cache
          (getMaxVariableNameLength params cache) group.1 group.2 = .ok page)
        ((groupRows (nlocsPerRow params.maxTextWidth (getMaxVariableNameLength params cache)
            params.columnWidth).toNat locsToPrint).zip
          (groupRows (nlocsPerRow params.maxTextWidth (getMaxVariableNameLength params cache)
            params.columnWidth).toNat indicesToPrint)) pages := by
  rw [printAllData_eq] at h
  obtain ⟨⟨locmin, locmax, perRow⟩, hsetup, htable⟩ := bind_eq_ok h
  obtain ⟨⟨locsToPrint, indicesToPrint⟩, -, hselected⟩ := bind_eq_ok htable
  dsimp only at hselected
  obtain ⟨pages, hpages, hlines⟩ := bind_eq_ok hselected
  rw [pure_eq_ok, Except.ok.injEq] at hlines
  obtain rfl : perRow = _ := setup_perRow hsetup
  exact ⟨locsToPrint, indicesToPrint, pages, hlines.symm, mapM_ok_forall₂ hpages⟩

end Ufo
