import SpineGrammar.Text.Blank
import SpineGrammar.Text.Numeral

/-!
# Sets of characters

Sets of characters as a standard describes them: codes listed in a text, codes at even distances,
and sets made from others. The codes are worked out when a set is asked for (`Charset.ranges`), so
a large table costs nothing until then.
-/

namespace SpineGrammar

/-- A set of characters. -/
inductive Charset where
  /-- The codes and ranges of codes in a text such as `41-5A 5F`, in ascending order. -/
  | listed (codes : String)
  /-- Every `step`-th code from `first` on, `count` of them. -/
  | stepped (first step count : Nat)
  | union (a b : Charset)
  | minus (a b : Charset)
  deriving DecidableEq, Repr

namespace Charset

instance : Union Charset := ⟨union⟩

instance : SDiff Charset := ⟨minus⟩

/-- The set of all characters. -/
def everything : Charset := listed "0-D7FF E000-10FFFF"

/-- The range that a word such as `41-5A` or `5F` denotes. -/
def range? (word : List Char) : Option (Nat × Nat) := do
  let low ← numeral? 16 (word.takeWhile (· ≠ '-'))
  match word.dropWhile (· ≠ '-') with
  | [] => return (low, low)
  | _ :: high => return (low, ← numeral? 16 high)

/-- The codes of the members. -/
def ranges : Charset → CodeRanges
  | listed codes => (words codes.toList).filterMap range?
  | stepped first step count => .join ((List.range count).map fun i =>
      (first + step * i, first + step * i))
  | union a b => a.ranges.union b.ranges
  | minus a b => a.ranges.difference b.ranges

end Charset

/-- Sets of characters, each with the names that it goes by. -/
abbrev NamedCharsets : Type := List (List String × Charset)

/-- The set with a name. -/
def NamedCharsets.find? (sets : NamedCharsets) (name : String) : Option Charset :=
  (List.find? (fun s => s.1.contains name) sets).map (·.2)

end SpineGrammar
