import Mathlib.Data.List.GetD
import Ufo.Variable

namespace Ufo

/-- `ioda::ObsDtype`; `other` stands for every enumerator that reaches the `default` branch
of the type dispatch. -/
inductive ObsDtype
  | integer | float | string | dateTime | bool | other
  deriving DecidableEq, Repr

/-- A C++ `float`, by its bit pattern: `==` against the finite, nonzero missing-value
sentinel is equality of bit patterns. -/
structure Float32 where
  bits : UInt32
  deriving DecidableEq, Repr

/-- `util::DateTime`: a date and a time of day. -/
structure DateTime where
  date : Int
  time : Int
  deriving DecidableEq, Repr

/-- The C++ types `getData<VariableType>` is instantiated at. -/
inductive VariableType
  | int | float | string | dateTime | bool
  deriving DecidableEq, Repr

/-- The C++ element type of each instantiation. -/
def VariableType.Elem : VariableType → Type
  | .int => Int
  | .float => Float32
  | .string => String
  | .dateTime => DateTime
  | .bool => Bool

/-- The alternatives of the `boost::variant` held by `filterData_`. -/
inductive FilterDatum
  | int (values : List Int)
  | float (values : List Float32)
  | string (values : List String)
  | dateTime (values : List DateTime)
  deriving DecidableEq, Repr

namespace FilterDatum

def length : FilterDatum → Nat
  | int xs => xs.length
  | float xs => xs.length
  | string xs => xs.length
  | dateTime xs => xs.length

/-- The alternative a datum holds, as the `VariableType` of its element. -/
def alternative : FilterDatum → VariableType
  | int _ => .int
  | float _ => .float
  | string _ => .string
  | dateTime _ => .dateTime

end FilterDatum

/-- The vector `getData<T>` gathers and stores: a `std::vector<T>`, but `bool` is
converted to `int`. -/
def VariableType.toDatum : (T : VariableType) → List T.Elem → FilterDatum
  | .int, xs => .int xs
  | .float, xs => .float xs
  | .string, xs => .string xs
  | .dateTime, xs => .dateTime xs
  | .bool, xs => .int (xs.map fun (b : Bool) => if b then 1 else 0)

@[simp] theorem toDatum_length (T : VariableType) (xs : List T.Elem) :
    (T.toDatum xs).length = xs.length := by
  cases T <;> simp [VariableType.toDatum, FilterDatum.length]

/-- The errors of the filter: the two `eckit` exceptions, `boost::bad_get`,
`std::length_error`, and the undefined behaviour of an out-of-range `std::vector` read or an
integer division by zero. -/
inductive Failure
  | badValue (message : String)
  | badParameter (message : String)
  | badGet
  | lengthError
  | outOfRange
  | divisionByZero
  deriving DecidableEq, Repr

@[simp] theorem pure_eq_ok {ε α : Type} (a : α) : (pure a : Except ε α) = .ok a := rfl

@[simp] theorem ok_bind {ε α β : Type} (a : α) (f : α → Except ε β) :
    (Except.ok a >>= f) = f a := rfl

@[simp] theorem error_bind {ε α β : Type} (e : ε) (f : α → Except ε β) :
    (Except.error e >>= f) = .error e := rfl

theorem bind_ne_error {ε α β : Type} {x : Except ε α} {f : α → Except ε β} {e : ε}
    (hx : x ≠ .error e) (hf : ∀ a, x = .ok a → f a ≠ .error e) : x >>= f ≠ .error e := by
  cases x with
  | error e' => simpa using hx
  | ok a => rw [ok_bind]; exact hf a rfl

theorem bind_eq_ok {ε α β : Type} {x : Except ε α} {f : α → Except ε β} {b : β}
    (h : x >>= f = .ok b) : ∃ a, x = .ok a ∧ f a = .ok b := by
  cases x with
  | error e => cases h
  | ok a => exact ⟨a, rfl, h⟩

theorem map_eq_error {ε α β : Type} {f : α → β} {x : Except ε α} {e : ε}
    (h : x.map f = .error e) : x = .error e := by
  cases x with
  | error e' => cases h; rfl
  | ok a => cases h

/-- A `std::vector` read `xs[i]` at an `int` index, undefined outside `[0, size)`. -/
def read {α : Type} (xs : List α) (i : Int) : Except Failure α :=
  if 0 ≤ i then
    match xs[i.toNat]? with
    | some x => .ok x
    | none => .error .outOfRange
  else .error .outOfRange

theorem read_natCast {α : Type} (xs : List α) (i : Nat) :
    read xs i = match xs[i]? with
      | some x => .ok x
      | none => .error .outOfRange := by
  rw [read, if_pos (Int.ofNat_zero_le i), Int.toNat_ofNat]

theorem read_of_lt {α : Type} {xs : List α} {i : Nat} (h : i < xs.length) :
    read xs i = .ok xs[i] := by
  simp [read_natCast, List.getElem?_eq_getElem h]

theorem read_eq_getD {α : Type} {xs : List α} {i : Int} (d : α) (h0 : 0 ≤ i)
    (h : i.toNat < xs.length) : read xs i = .ok (xs.getD i.toNat d) := by
  simp [read, h0, List.getElem?_eq_getElem h]

theorem read_eq_error {α : Type} {xs : List α} {i : Int} (h : i < 0 ∨ xs.length ≤ i.toNat) :
    read xs i = .error .outOfRange := by
  unfold read
  split
  · rcases h with h | h
    · omega
    · simp [List.getElem?_eq_none h]
  · rfl

theorem read_ne_badGet {α : Type} (xs : List α) (i : Int) : read xs i ≠ .error .badGet := by
  unfold read
  split
  · split <;> nofun
  · nofun

/-- The local data of one rank (`data_` and `obsdb_`), external to the filter and given by
what the filter reads: `getDb` is `none` where `obsdb_.get_db` throws, `apply` is the result
of `processWhere`, and `summary` the lines `os_ << data_` writes. Every column holds one
value per local location. -/
structure Store where
  nlocs : Nat
  has : Variable → Bool
  dtype : Variable → ObsDtype
  nlevs : Variable → Int
  get : (T : VariableType) → Variable → List T.Elem
  getDb : (T : VariableType) → String → String → Option (List T.Elem)
  getLevel : Variable → Int → List Float32
  index : List Nat
  apply : List Bool
  summary : List String
  get_length : ∀ T v, (get T v).length = nlocs
  getDb_length : ∀ T g n xs, getDb T g n = some xs → xs.length = nlocs
  getLevel_length : ∀ v l, (getLevel v l).length = nlocs
  index_length : index.length = nlocs
  apply_length : apply.length = nlocs

/-- `xs` cut or padded with `d` to `n` values. -/
def fit {α : Type} (n : Nat) (d : α) (xs : List α) : List α := (xs ++ List.replicate n d).take n

@[simp] theorem length_fit {α : Type} (n : Nat) (d : α) (xs : List α) : (fit n d xs).length = n := by
  simp [fit]

/-- A default value of each element type. -/
def VariableType.default : (T : VariableType) → T.Elem
  | .int => (0 : Int)
  | .float => ⟨0⟩
  | .string => ""
  | .dateTime => ⟨0, 0⟩
  | .bool => false

/-- A store whose data are all `int`: `fields` lists the present variables with their element
type and column, `channels` the `(group, name)` pairs `get_db` finds, with their columns (it
throws for the others), and every field has `nlevs` levels. -/
def Store.ofInts (index : List Nat) (apply : List Bool)
    (fields : List (Variable × ObsDtype × List Int)) (channels : List ((String × String) × List Int))
    (nlevs : Int) : Store where
  nlocs := index.length
  has v := (fields.find? (·.1 = v)).isSome
  dtype v := ((fields.find? (·.1 = v)).map (·.2.1)).getD .other
  nlevs _ := nlevs
  get T v := match T with
    | .int => fit index.length (0 : Int) (((fields.find? (·.1 = v)).map (·.2.2)).getD [])
    | T => fit index.length T.default []
  getDb T g n := match T with
    | .int => (channels.lookup (g, n)).map (fit index.length (0 : Int))
    | _ => none
  getLevel _ _ := fit index.length ⟨0⟩ []
  index := index
  apply := fit index.length false apply
  summary := []
  get_length T v := by cases T <;> simp
  getDb_length T g n xs h := by
    cases T <;> simp at h
    obtain ⟨_, _, rfl⟩ := h
    simp
  getLevel_length _ _ := length_fit _ _ _
  index_length := rfl
  apply_length := length_fit _ _ _

end Ufo
