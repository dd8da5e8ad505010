import SpineGrammar.Bounds
import SpineGrammar.Snapshot.Reader
import SpineGrammar.Sorted.Map

/-!
# Decoding the values of snapshots

Decoders are strict about types: a text is no word, integers have to be in range, and what may be
absent is written as `None` or wrapped in `Some`. A record has its fields in any order; unknown ones
are ignored, and known ones may not be repeated.
-/

namespace SpineGrammar.Snapshot.Value

/-- A natural number below a bound. -/
def asNatBelow (bound : Nat) : Value → Option Nat
  | .integer (.ofNat n) => if n < bound then some n else none
  | _ => none

/-- A truth value. -/
def asBool : Value → Option Bool
  | .bool b => some b
  | _ => none

/-- A text. -/
def asText : Value → Option String
  | .text s => some s
  | _ => none

/-- A list. -/
def asList {α : Type} (item : Value → Option α) : Value → Option (List α)
  | .list items => items.mapM item
  | _ => none

/-- What a word says after a mark that is written as one with it: another word, or a number. -/
def afterMark? (name : String) : Option Value :=
  match name.toList with
  | 'S' :: 'o' :: 'm' :: 'e' :: c :: rest =>
    if isWordStart c then some (.word (String.ofList (c :: rest))) else numberOf? (c :: rest)
  | _ => none

/-- A value that may be absent. -/
def asOption {α : Type} (dialect : Dialect) (item : Value → Option α) : Value → Option (Option α)
  | .absent => some none
  | .present v => (item v).map some
  | v =>
    if dialect.bareOptions then
      match v with
      | .word name => (item ((afterMark? name).getD v)).map some
      | v => (item v).map some
    else none

/-- A value that wraps another one in parentheses, which may have the name of its type in front. -/
def asWrapped {α : Type} (bare : Bool) (typeName : String) (item : Value → Option α) (v : Value) :
    Option α :=
  if bare then item v
  else
    match v with
    | .tuple none [v] => item v
    | .tuple (some name) [v] => if name = typeName then item v else none
    | _ => none

/-- A map from texts to counts; a later entry replaces an earlier one. -/
def asCounts : Value → Option (SortedMap String Nat)
  | .map entries => do
    let entries ← entries.mapM fun e => do return (← asText e.1, ← asNatBelow countBound e.2)
    return .ofList entries
  | _ => none

/-- The fields of a record that may have the name of its type in front; none of the known ones may
    be repeated. -/
def asFields (typeName : String) (known : List String) : Value → Option (List (String × Value))
  | .record name fields =>
    if (name = none ∨ name = some typeName) ∧
        known.all (fun k => fields.countP (·.1 == k) ≤ 1) then some fields
    else none
  | _ => none

/-- A field that has to be there. -/
def required {α : Type} (fields : List (String × Value)) (name : String)
    (item : Value → Option α) : Option α :=
  match fields.lookup name with
  | some v => item v
  | none => none

/-- A field that is taken to be `default` if it is left out. -/
def withDefault {α : Type} (fields : List (String × Value)) (name : String) (default : α)
    (item : Value → Option α) : Option α :=
  match fields.lookup name with
  | some v => item v
  | none => some default

/-- A field whose value may be absent, and which may be left out. -/
def optional {α : Type} (dialect : Dialect) (fields : List (String × Value)) (name : String)
    (item : Value → Option α) : Option (Option α) :=
  withDefault fields name none (asOption dialect item)

end SpineGrammar.Snapshot.Value
