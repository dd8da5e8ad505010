import SpineGrammar.Address
import SpineGrammar.Bounds
import SpineGrammar.Text.Blank
import SpineGrammar.Text.Decimal

/-!
# Dotted addresses

Interchange data writes an address as `0` for the root, followed by a dot and an index for each
step down: `0.1.0` is the first child of the root's second child. Blanks around the whole are
skipped, and an index may have a plus sign and leading zeros.
-/

namespace SpineGrammar

/-- The pieces of a text between the places where `separator` stands. -/
def cutAt (separator : Char) : List Char → List (List Char)
  | [] => [[]]
  | c :: cs =>
    if c = separator then [] :: cutAt separator cs
    else
      match cutAt separator cs with
      | [] => [[c]]
      | piece :: pieces => (c :: piece) :: pieces

theorem cutAt_ne_nil (separator : Char) (cs : List Char) : cutAt separator cs ≠ [] := by
  cases cs with
  | nil => simp [cutAt]
  | cons c cs =>
    unfold cutAt
    split
    · simp
    · split <;> simp

namespace Address

/-- The index that a piece between dots denotes. -/
def index? (piece : List Char) : Option Nat :=
  match signedDecimal? piece with
  | some n => if n < indexBound then some n else none
  | none => none

/-- Reads the dotted form. -/
def ofDotted? (text : String) : Option Address :=
  match cutAt '.' (trimBlanks text.toList) with
  | ['0'] :: pieces => pieces.mapM index?
  | _ => none

/-- Writes the dotted form. -/
def dotted (a : Address) : String :=
  ".".intercalate ("0" :: a.map Nat.repr)

end Address

end SpineGrammar
