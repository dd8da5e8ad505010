/-!
# Notation of snapshots

Snapshots of trees are kept in a notation for nested values: truth values, words, numbers, quoted
texts, lists in brackets, maps in braces, groups in parentheses, which hold either items in order or
named fields and may have a name in front, and values that may be absent.

A snapshot may begin with attributes that allow it to leave out some parentheses and names.
-/

namespace SpineGrammar.Snapshot

/-- What a snapshot leaves out. -/
structure Dialect where
  /-- A value that may be absent stands without a mark that it is there. -/
  bareOptions : Bool
  /-- A value that wraps another one stands without parentheses. -/
  bareWrappers : Bool
  /-- So does one that is the only item of a group with a name. -/
  bareCases : Bool
  deriving DecidableEq, Repr

/-- Nothing is left out. -/
def Dialect.full : Dialect := ⟨false, false, false⟩

/-- A value. -/
inductive Value where
  | bool (b : Bool)
  | word (name : String)
  /-- An integer without a plus sign. -/
  | integer (n : Int)
  /-- Any other number, as it is written. -/
  | real (literal : String)
  | text (s : String)
  | char (c : Char)
  /-- Nothing, where a value may be absent. -/
  | absent
  /-- A value that might be absent. -/
  | present (v : Value)
  | list (items : List Value)
  | map (entries : List (Value × Value))
  /-- A group of items. -/
  | tuple (name : Option String) (items : List Value)
  /-- A group of named fields. -/
  | record (name : Option String) (fields : List (String × Value))

namespace Value

/-- A natural number. -/
def nat (n : Nat) : Value := .integer n

/-- One value in parentheses. -/
def wrapped (v : Value) : Value := .tuple none [v]

/-- A value that may be absent. -/
def option {α : Type} (encode : α → Value) : Option α → Value
  | none => .absent
  | some a => .present (encode a)

end Value

end SpineGrammar.Snapshot
