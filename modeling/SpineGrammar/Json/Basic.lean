/-!
# JSON values

Numbers are kept apart by how they are written: those without fraction and exponent are integers,
all others are kept as literals. A string literal may denote no text, if it holds half of a
surrogate pair or bytes that are no characters.
-/

namespace SpineGrammar

/-- A JSON value. -/
inductive Json where
  | null
  | bool (b : Bool)
  | integer (n : Int)
  /-- A number with a fraction or an exponent, or `-0`. -/
  | real (literal : String)
  /-- A string literal and the text that it denotes, if any. -/
  | string (text : Option String)
  | array (items : List Json)
  | object (members : List (Option String × Json))

namespace Json

/-- A text. -/
def str (s : String) : Json := .string (some s)

/-- A natural number. -/
def nat (n : Nat) : Json := .integer n

/-- A list of texts. -/
def strs (ss : List String) : Json := .array (ss.map str)

/-- An object with members in the given order. -/
def obj (members : List (String × Json)) : Json := .object (members.map fun m => (some m.1, m.2))

/-- A value that may be absent. -/
def opt {α : Type} (encode : α → Json) : Option α → Json
  | some a => encode a
  | none => .null

/-- The last member of an object with a given name. -/
def member? (name : String) : Json → Option Json
  | .object members => (members.reverse.find? (·.1 == some name)).map (·.2)
  | _ => none

end Json

end SpineGrammar
