import SpineGrammar.Bounds
import SpineGrammar.Json.Basic
import SpineGrammar.Sorted.Map

/-!
# Decoding JSON values

Decoders are strict about types: numbers are no truth values, integers have to be in range, and
`null` stands only for what may be absent. A record is an object, whose unknown members are ignored
and whose known ones may not be repeated, or an array with the fields in order.
-/

namespace SpineGrammar.Json

/-- A decoder: the value that a JSON value stands for, if it stands for one. -/
abbrev Decoder (α : Type) : Type := Json → Option α

/-- A natural number below a bound. -/
def asNatBelow (bound : Nat) : Decoder Nat
  | .integer (.ofNat n) => if n < bound then some n else none
  | _ => none

/-- An index, an order or an id. -/
def asIndex : Decoder Nat := asNatBelow indexBound

/-- A count. -/
def asCount : Decoder Nat := asNatBelow countBound

/-- An integer of 64 bits with a sign. -/
def asSigned : Decoder Int
  | .integer n => if -(valuesOf 63 : Int) ≤ n ∧ n < valuesOf 63 then some n else none
  | _ => none

/-- A truth value. -/
def asBool : Decoder Bool
  | .bool b => some b
  | _ => none

/-- A text. -/
def asString : Decoder String
  | .string text => text
  | _ => none

/-- A list. -/
def asList {α : Type} (item : Decoder α) : Decoder (List α)
  | .array items => items.mapM item
  | _ => none

/-- A value or `null`. -/
def asOption {α : Type} (item : Decoder α) : Decoder (Option α)
  | .null => some none
  | j => (item j).map some

/-- An object whose member names are keys; a later member replaces an earlier one. -/
def asMap {α : Type} (item : Decoder α) : Decoder (SortedMap String α)
  | .object members => do
    let entries ← members.mapM fun m => do return (← m.1, ← item m.2)
    return .ofList entries
  | _ => none

/-- The name of a case without contents: a text, or an object with `null` under that name. -/
def asCase : Decoder String
  | .string text => text
  | .object [(name, .null)] => name
  | _ => none

/-- The name of a case and its contents: an object with one member. -/
def asCaseOf : Decoder (String × Json)
  | .object [(some name, contents)] => some (name, contents)
  | _ => none

/-! ## Records -/

/-- The fields of a record by name. An array gives them by position, and then a field that may be
    absent has to be there nevertheless. -/
structure Fields where
  positional : Bool
  values : List (String × Json)

/-- The fields of a record with the given names. -/
def asFields (names : List String) : Decoder Fields
  | .object members =>
    if members.all (·.1.isSome) && names.all (fun n => members.countP (·.1 == some n) ≤ 1) then
      some ⟨false, members.filterMap fun m => m.1.map (·, m.2)⟩
    else none
  | .array items =>
    if items.length ≤ names.length then some ⟨true, names.zip items⟩ else none
  | _ => none

namespace Fields

/-- A field that has to be there. -/
def required {α : Type} (fs : Fields) (name : String) (item : Decoder α) : Option α :=
  match fs.values.lookup name with
  | some j => item j
  | none => none

/-- A field that is taken to be `default` if it is absent. -/
def withDefault {α : Type} (fs : Fields) (name : String) (default : α) (item : Decoder α) :
    Option α :=
  match fs.values.lookup name with
  | some j => item j
  | none => some default

/-- A field that may be absent or `null`. -/
def optional {α : Type} (fs : Fields) (name : String) (item : Decoder α) : Option (Option α) :=
  match fs.values.lookup name with
  | some j => asOption item j
  | none => if fs.positional then none else some none

end Fields

end SpineGrammar.Json
