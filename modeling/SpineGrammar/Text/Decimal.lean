/-!
# Decimal numerals

Reading natural numbers written in ASCII digits.
-/

namespace SpineGrammar

/-- The number that one or more digits denote; leading zeros are allowed. -/
def decimal? (cs : List Char) : Option Nat :=
  if cs.isEmpty then none
  else if cs.all Char.isDigit then some (Nat.ofDigitChars 10 cs 0)
  else none

/-- The number that digits denote, one plus sign before them being allowed. -/
def signedDecimal? : List Char → Option Nat
  | '+' :: cs => decimal? cs
  | cs => decimal? cs

end SpineGrammar
