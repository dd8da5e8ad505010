import SpineGrammar.Bounds
import SpineGrammar.Toml.Text
import SpineGrammar.Toml.Value

/-!
# Numbers and dates in TOML

Integers in four bases, floats, and dates with or without times. Underscores may stand between two
digits, leading zeros only behind a base and in exponents.
-/

namespace SpineGrammar.Toml

/-- Digits with single underscores between them; `after` tells whether a digit was just read. Gives
    the digits alone. -/
def digitsFrom? (isDigit : Char → Bool) (after : Bool) :
    List Char → Option (List Char × List Char)
  | [] => if after then some ([], []) else none
  | c :: rest =>
    if isDigit c then do
      let (ds, rest) ← digitsFrom? isDigit true rest
      return (c :: ds, rest)
    else if c = '_' then if after then digitsFrom? isDigit false rest else none
    else if after then some ([], c :: rest)
    else none

/-- One or more digits with single underscores between them. -/
def digits? (isDigit : Char → Bool) (cs : List Char) : Option (List Char × List Char) :=
  digitsFrom? isDigit false cs

/-- Decimal digits that do not start with a zero that others follow. -/
def whole? : List Char → Option (List Char × List Char)
  | '0' :: rest => some (['0'], rest)
  | cs => digits? Char.isDigit cs

/-- An integer that fits 64 bits. -/
def integerValue? (n : Int) : Option Value :=
  if -(valuesOf 63 : Int) ≤ n ∧ n < valuesOf 63 then some (.integer n) else none

/-- Digits in a base that a letter after a zero names. -/
def based? (base : Nat) (cs : List Char) : Option (Value × List Char) := do
  let (ds, rest) ← digits? (fun c => (digitIn? base c).isSome) cs
  return (← integerValue? (← numeral? base ds), rest)

/-- A sign, if there is one. -/
def sign : List Char → List Char × List Char
  | '+' :: rest => (['+'], rest)
  | '-' :: rest => (['-'], rest)
  | cs => ([], cs)

/-- A fraction with its point. -/
def fraction? : List Char → Option (List Char × List Char)
  | '.' :: rest => (digits? Char.isDigit rest).map fun r => ('.' :: r.1, r.2)
  | _ => none

/-- An exponent with its letter. -/
def exponent? : List Char → Option (List Char × List Char)
  | c :: rest =>
    if c = 'e' ∨ c = 'E' then
      let (s, rest) := sign rest
      (digits? Char.isDigit rest).map fun r => (c :: s ++ r.1, r.2)
    else none
  | [] => none

/-- Whether digits with a fraction and an exponent denote a number too large for a double. The
    number is at least half a unit above the largest double. -/
def tooLarge (whole fraction exponent : List Char) : Bool :=
  let places := fraction.drop 1
  let mantissa := Nat.ofDigitChars 10 (whole ++ places) 0
  let (s, ds) := sign (exponent.drop 1)
  let e := Nat.ofDigitChars 10 ds 0
  let down := places.length + (if s = ['-'] then e else 0)
  let up := if s = ['-'] then 0 else e
  let magnitude := (Nat.toDigits 10 mantissa).length + up
  -- Only numbers with just 309 digits before the point need the exact comparison.
  if mantissa = 0 ∨ magnitude ≤ down + 308 then false
  else if magnitude > down + 309 then true
  else (valuesOf 1024 - valuesOf 970) * Nat.pow 10 (down - up) ≤
    mantissa * Nat.pow 10 (up - down)

/-- A decimal integer or a float. -/
def decimal? (cs : List Char) : Option (Value × List Char) := do
  let (s, rest) := sign cs
  let (whole, rest) ← whole? rest
  let (fraction, rest) ← match rest with
    | '.' :: _ => fraction? rest
    | _ => some ([], rest)
  let (exponent, rest) ← match rest with
    | 'e' :: _ => exponent? rest
    | 'E' :: _ => exponent? rest
    | _ => some ([], rest)
  if fraction.isEmpty && exponent.isEmpty then
    let n : Int := Nat.ofDigitChars 10 whole 0
    return (← integerValue? (if s = ['-'] then -n else n), rest)
  else if s ≠ ['-'] && tooLarge whole fraction exponent then none
  else return (.float (String.ofList (s ++ whole ++ fraction ++ exponent)), rest)

/-- A number, or one of the words for infinity and for what is no number. -/
def number? (cs : List Char) : Option (Value × List Char) :=
  match cs with
  | '0' :: 'x' :: rest => based? 16 rest
  | '0' :: 'o' :: rest => based? 8 rest
  | '0' :: 'b' :: rest => based? 2 rest
  | cs =>
    match sign cs with
    | (s, 'i' :: 'n' :: 'f' :: rest) => some (.float (String.ofList (s ++ ['i', 'n', 'f'])), rest)
    | (s, 'n' :: 'a' :: 'n' :: rest) => some (.float (String.ofList (s ++ ['n', 'a', 'n'])), rest)
    | _ => decimal? cs

/-! ## Dates and times -/

/-- Exactly `count` digits, which denote a number in a range. -/
def fixed? (count low high : Nat) (cs : List Char) : Option (Nat × List Char) :=
  let ds := cs.take count
  if ds.length = count ∧ ds.all Char.isDigit then
    let n := Nat.ofDigitChars 10 ds 0
    if low ≤ n ∧ n ≤ high then some (n, cs.drop count) else none
  else none

/-- The input after a character that has to stand there. -/
def expect? (c : Char) : List Char → Option (List Char)
  | d :: rest => if d = c then some rest else none
  | [] => none

/-- The number of days of a month. -/
def daysIn (year month : Nat) : Nat :=
  if month = 2 then
    if year % 4 = 0 ∧ (year % 100 ≠ 0 ∨ year % 400 = 0) then 29 else 28
  else if month = 4 ∨ month = 6 ∨ month = 9 ∨ month = 11 then 30
  else 31

/-- A date. -/
def day? (cs : List Char) : Option (List Char) := do
  let (year, rest) ← fixed? 4 0 9999 cs
  let (month, rest) ← fixed? 2 1 12 (← expect? '-' rest)
  let (_, rest) ← fixed? 2 1 (daysIn year month) (← expect? '-' rest)
  return rest

/-- The parts of a second, if there are any. -/
def secondParts (cs : List Char) : List Char :=
  match cs with
  | '.' :: c :: rest => if c.isDigit then rest.dropWhile Char.isDigit else cs
  | cs => cs

/-- A time of day. -/
def time? (cs : List Char) : Option (List Char) := do
  let (_, rest) ← fixed? 2 0 23 cs
  let (_, rest) ← fixed? 2 0 59 (← expect? ':' rest)
  let (_, rest) ← fixed? 2 0 60 (← expect? ':' rest)
  return secondParts rest

/-- The distance from universal time. -/
def offset? : List Char → Option (List Char)
  | 'Z' :: rest => some rest
  | 'z' :: rest => some rest
  | c :: rest => do
    if c = '+' ∨ c = '-' then
      let (_, rest) ← fixed? 2 0 23 rest
      let (_, rest) ← fixed? 2 0 59 (← expect? ':' rest)
      return rest
    else none
  | [] => none

/-- A time after the date, with the distance from universal time if it is there. -/
def timeAfterDay? : List Char → Option (List Char)
  | c :: rest => do
    if c = 'T' ∨ c = 't' ∨ c = ' ' then
      let rest ← time? rest
      return (offset? rest).getD rest
    else none
  | [] => none

/-- A date with or without a time, or a time alone. -/
def date? (cs : List Char) : Option (Value × List Char) := do
  let rest ←
    match day? cs with
    | some rest => some ((timeAfterDay? rest).getD rest)
    | none => time? cs
  return (.date (String.ofList (cs.take (cs.length - rest.length))), rest)

end SpineGrammar.Toml
