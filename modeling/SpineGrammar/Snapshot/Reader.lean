import SpineGrammar.Bounds
import SpineGrammar.Snapshot.Value
import SpineGrammar.Text.Quoted

/-!
# Reading snapshots

The reader is more liberal than the printer: blanks and comments may stand anywhere between two
parts, the last part may go without its comma, numbers may have underscores and other bases, and
texts may be raw. A reader takes its part from the start of the input and gives what follows.
-/

namespace SpineGrammar.Snapshot.Value

/-! ## Blanks and comments -/

/-- Whether a character is a blank between parts. -/
def isSpace (c : Char) : Bool := c == ' ' || c == '\n' || c == '\t' || c == '\r'

/-- What follows a comment in which `level` more comments are open. -/
def afterComment? : (level : Nat) → List Char → Option (List Char)
  | _, [] => none
  | level, '/' :: '*' :: rest => afterComment? (level + 1) rest
  | 0, '*' :: '/' :: rest => some rest
  | level + 1, '*' :: '/' :: rest => afterComment? level rest
  | level, _ :: rest => afterComment? level rest

theorem length_le_of_afterComment? {level : Nat} {cs rest : List Char}
    (h : afterComment? level cs = some rest) : rest.length ≤ cs.length := by
  induction level, cs using afterComment?.induct with
  | case1 => simp [afterComment?] at h
  | case2 level cs ih =>
    rw [afterComment?] at h
    have := ih h
    simp only [List.length_cons]
    omega
  | case3 cs =>
    rw [afterComment?] at h
    cases h
    simp only [List.length_cons]
    omega
  | case4 level cs ih =>
    rw [afterComment?] at h
    have := ih h
    simp only [List.length_cons]
    omega
  | case5 level c cs hopen hclose hlast ih =>
    rw [afterComment?] at h
    · have := ih h
      simp only [List.length_cons]
      omega
    all_goals assumption

/-- The input without the blanks and comments at its start. A comment has to end. -/
def skip? (cs : List Char) : Option (List Char) :=
  match _hspace : cs.dropWhile isSpace with
  | '/' :: '/' :: rest => skip? (rest.dropWhile (· ≠ '\n'))
  | '/' :: '*' :: rest =>
    match _hcomment : afterComment? 0 rest with
    | some after => skip? after
    | none => none
  | '/' :: _ => none
  | rest => some rest
termination_by cs.length
decreasing_by
  · have hspaces := (List.dropWhile_suffix (l := cs) isSpace).length_le
    have hline := (List.dropWhile_suffix (l := rest) (· ≠ '\n')).length_le
    simp only [_hspace, List.length_cons] at hspaces
    omega
  · have hspaces := (List.dropWhile_suffix (l := cs) isSpace).length_le
    have hrest := length_le_of_afterComment? _hcomment
    simp only [_hspace, List.length_cons] at hspaces
    omega

/-! ## Words and texts -/

/-- Whether a character may start a word. -/
def isWordStart (c : Char) : Bool := c.isAlpha || c == '_'

/-- Whether a character may stand in a word. -/
def isWordChar (c : Char) : Bool := c.isAlphanum || c == '_'

/-- Whether a character may stand in a marked word. -/
def isMarkedChar (c : Char) : Bool := isWordChar c || c == '.' || c == '+' || c == '-'

/-- A word as it was read. -/
structure Word where
  name : String
  /-- An `r` and a number sign stand before it, so that it may hold more characters and has no
      meaning of its own. -/
  marked : Bool

/-- A word. One without a mark may not go on in characters that need the mark. -/
def word? (cs : List Char) : Option (Word × List Char) :=
  match cs with
  | 'r' :: '#' :: rest =>
    if rest.head?.any isMarkedChar then
      some (⟨String.ofList (rest.takeWhile isMarkedChar), true⟩, rest.dropWhile isMarkedChar)
    else none
  | c :: _ =>
    let rest := cs.dropWhile isWordChar
    if isWordStart c && !rest.head?.any isMarkedChar then
      some (⟨String.ofList (cs.takeWhile isWordChar), false⟩, rest)
    else none
  | [] => none

/-- A raw text after its opening quote, which ends at a quote with `marks` number signs. -/
def rawBody? (marks : Nat) : List Char → Option (List Char × List Char)
  | [] => none
  | c :: rest =>
    if c = '"' ∧ (rest.take marks) = List.replicate marks '#' then some ([], rest.drop marks)
    else do
      let (body, rest) ← rawBody? marks rest
      return (c :: body, rest)

/-- A raw text: an `r`, number signs, and a text without escapes in quotes. -/
def rawText? : List Char → Option (String × List Char)
  | 'r' :: rest =>
    match rest.dropWhile (· == '#') with
    | '"' :: body =>
      (rawBody? (rest.takeWhile (· == '#')).length body).map fun r => (String.ofList r.1, r.2)
    | _ => none
  | _ => none

/-- A character after its opening quote. -/
def char? (cs : List Char) : Option (Char × List Char) := do
  if cs.head? = some '\'' then none
  match ← Quoted.unescape? cs with
  | (c, '\'' :: rest) => return (c, rest)
  | _ => none

/-! ## Numbers -/

/-- Whether a character may stand in a number. -/
def isNumberChar (c : Char) : Bool := c.isAlphanum || c == '_' || c == '.' || c == '+' || c == '-'

/-- The number that digits in a base denote; underscores may stand after the first one. -/
def digitsValue? (base : Nat) : List Char → Option Nat
  | [] => none
  | '_' :: _ => none
  | ds => numeral? base (ds.filter (· ≠ '_'))

/-- An integer without a sign. -/
def unsigned? : List Char → Option Nat
  | '0' :: 'x' :: ds => digitsValue? 16 ds
  | '0' :: 'b' :: ds => digitsValue? 2 ds
  | '0' :: 'o' :: ds => digitsValue? 8 ds
  | ds => digitsValue? 10 ds

/-- Whether characters are a decimal number with an optional point and exponent. -/
def isDecimal (cs : List Char) : Bool :=
  let whole := cs.takeWhile Char.isDigit
  let (parts, rest) := match cs.dropWhile Char.isDigit with
    | '.' :: rest => (rest.takeWhile Char.isDigit, rest.dropWhile Char.isDigit)
    | rest => ([], rest)
  let exponent := match rest with
    | [] => true
    | c :: '+' :: ds => isMark c && isDigits ds
    | c :: '-' :: ds => isMark c && isDigits ds
    | c :: ds => isMark c && isDigits ds
  !(whole.isEmpty && parts.isEmpty) && exponent
where
  /-- Whether a character starts an exponent. -/
  isMark (c : Char) : Bool := c == 'e' || c == 'E'
  /-- Whether there are digits and nothing else. -/
  isDigits (ds : List Char) : Bool := !ds.isEmpty && ds.all Char.isDigit

/-- An integer between two bounds. One without underscores that is too large in decimal digits is
    read as a number that is no integer. -/
def integer? (token : List Char) (low high : Int) (sign : Int) (ds : List Char) : Option Value :=
  match unsigned? ds with
  | some n =>
    if low ≤ sign * n ∧ sign * n ≤ high then
      some (if sign < 0 ∧ n = 0 then .real (String.ofList token) else .integer (sign * n))
    else if ds.all Char.isDigit then some (.real (String.ofList token))
    else none
  | none => if isDecimal ds then some (.real (String.ofList token)) else none

/-- The number that some characters denote. Integers fit 64 bits; one with a plus sign is no
    integer to those who want one. -/
def numberOf? (token : List Char) : Option Value :=
  match token with
  | '-' :: ds =>
    if isSpecial ds then some (.real (String.ofList token))
    else integer? token (-(valuesOf 63)) (valuesOf 63 - 1) (-1) ds
  | '+' :: ds =>
    if isSpecial ds then some (.real (String.ofList token))
    else (integer? token 0 (valuesOf 63 - 1) 1 ds).map fun _ => .real (String.ofList token)
  | ds => integer? token 0 (valuesOf 64 - 1) 1 ds
where
  /-- Infinity, or what is no number. -/
  isSpecial (ds : List Char) : Bool := ds == ['i', 'n', 'f'] || ds == ['N', 'a', 'N']

/-- A number. -/
def number? (cs : List Char) : Option (Value × List Char) := do
  return (← numberOf? (cs.takeWhile isNumberChar), cs.dropWhile isNumberChar)

/-! ## Values -/

/-- The levels that are left inside of one. -/
def below? : (nesting : Nat) → Option Nat
  | 0 => none
  | nesting + 1 => some nesting

/-- The name of a field and what follows its colon. -/
def fieldName? (cs : List Char) : Option (String × List Char) := do
  let (w, rest) ← word? cs
  match ← skip? rest with
  | ':' :: rest => return (w.name, rest)
  | _ => none

/-- A word that is a value by itself, whatever follows it. -/
def constant? (w : Word) : Option Value :=
  if w.marked then none
  else
    match w.name with
    | "true" => some (.bool true)
    | "false" => some (.bool false)
    | "None" => some .absent
    | "inf" => some (.real "inf")
    | "NaN" => some (.real "NaN")
    | _ => none

mutual

/-- A value with at most `nesting` levels in it. A group, a list or a map is a level, and so is each
    of its parts. -/
def value? (dialect : Dialect) : (steps nesting : Nat) → List Char → Option (Value × List Char)
  | 0, _, _ => none
  | steps + 1, nesting, cs => do
    match ← skip? cs with
    | '"' :: rest =>
      let (body, rest) ← Quoted.body? rest
      return (.text (String.ofList body), rest)
    | '\'' :: rest =>
      let (c, rest) ← char? rest
      return (.char c, rest)
    | '[' :: rest =>
      let (items, rest) ← items? dialect steps (← below? nesting) ']' rest
      return (.list items, rest)
    | '\x7b' :: rest =>
      let (entries, rest) ← entries? dialect steps (← below? nesting) rest
      return (.map entries, rest)
    | '(' :: ')' :: rest => return (.tuple none [], rest)
    | '(' :: rest => group? dialect steps (← below? nesting) none rest
    | cs =>
      -- A raw text starts with a letter too, so it is tried before words.
      match rawText? cs with
      | some (body, rest) => return (.text body, rest)
      | none =>
        match word? cs with
        | some (w, rest) =>
          match constant? w with
          | some v => return (v, rest)
          | none =>
            if w.name = "Some" ∧ ¬w.marked then present? dialect steps nesting rest
            else
              match ← skip? rest with
              | '(' :: rest => group? dialect steps (← below? nesting) (some w.name) rest
              | _ => return (.word w.name, rest)
        | none => number? cs

/-- The rest of a value that is marked as being there. -/
def present? (dialect : Dialect) : (steps nesting : Nat) → List Char → Option (Value × List Char)
  | 0, _, _ => none
  | steps + 1, nesting, cs => do
    match ← skip? cs with
    | '(' :: rest =>
      let (v, rest) ← value? dialect steps (← below? nesting) rest
      match ← skip? rest with
      | ')' :: rest => return (.present v, rest)
      | ',' :: rest =>
        match ← skip? rest with
        | ')' :: rest => return (.present v, rest)
        | _ => none
      | _ => none
    | rest =>
      if dialect.bareOptions then
        let (v, rest) ← value? dialect steps (← below? nesting) rest
        return (.present v, rest)
      else none

/-- A group after its opening parenthesis. -/
def group? (dialect : Dialect) :
    (steps nesting : Nat) → Option String → List Char → Option (Value × List Char)
  | 0, _, _, _ => none
  | steps + 1, nesting, name, cs => do
    let cs ← skip? cs
    -- What starts with the name of a field and a colon is a record.
    match fieldName? cs with
    | some _ =>
      let (fields, rest) ← fields? dialect steps nesting cs
      return (.record name fields, rest)
    | none =>
      let (items, rest) ← items? dialect steps nesting ')' cs
      return (.tuple name items, rest)

/-- Items with commas between them, up to a closing character. -/
def items? (dialect : Dialect) :
    (steps nesting : Nat) → (closing : Char) → List Char → Option (List Value × List Char)
  | 0, _, _, _ => none
  | steps + 1, nesting, closing, cs => do
    match ← skip? cs with
    | [] => none
    | c :: rest =>
      if c = closing then return ([], rest)
      else
        let (item, rest) ← value? dialect steps (← below? nesting) (c :: rest)
        match ← skip? rest with
        | ',' :: rest =>
          let (items, rest) ← items? dialect steps nesting closing rest
          return (item :: items, rest)
        | c :: rest => if c = closing then return ([item], rest) else none
        | [] => none

/-- Entries with commas between them, up to the closing brace. -/
def entries? (dialect : Dialect) :
    (steps nesting : Nat) → List Char → Option (List (Value × Value) × List Char)
  | 0, _, _ => none
  | steps + 1, nesting, cs => do
    match ← skip? cs with
    | '\x7d' :: rest => return ([], rest)
    | cs =>
      let part ← below? nesting
      let (k, rest) ← value? dialect steps part cs
      match ← skip? rest with
      | ':' :: rest =>
        let (v, rest) ← value? dialect steps part rest
        match ← skip? rest with
        | ',' :: rest =>
          let (entries, rest) ← entries? dialect steps nesting rest
          return ((k, v) :: entries, rest)
        | '\x7d' :: rest => return ([(k, v)], rest)
        | _ => none
      | _ => none

/-- Fields with commas between them, up to the closing parenthesis. -/
def fields? (dialect : Dialect) :
    (steps nesting : Nat) → List Char → Option (List (String × Value) × List Char)
  | 0, _, _ => none
  | steps + 1, nesting, cs => do
    match ← skip? cs with
    | ')' :: rest => return ([], rest)
    | cs =>
      let (name, rest) ← fieldName? cs
      let (v, rest) ← value? dialect steps (← below? nesting) rest
      match ← skip? rest with
      | ',' :: rest =>
        let (fields, rest) ← fields? dialect steps nesting rest
        return ((name, v) :: fields, rest)
      | ')' :: rest => return ([(name, v)], rest)
      | _ => none

end

/-! ## Attributes -/

/-- The input after a mark and the blanks behind it. -/
def after? (mark : List Char) (cs : List Char) : Option (List Char) :=
  if mark.isPrefixOf cs then skip? (cs.drop mark.length) else none

/-- The input after several marks. -/
def afterAll? (marks : List (List Char)) (cs : List Char) : Option (List Char) :=
  marks.foldlM (fun rest mark => after? mark rest) cs

/-- The dialect with one more thing left out. -/
def extend? (dialect : Dialect) : String → Option Dialect
  | "implicit_some" => some { dialect with bareOptions := true }
  | "unwrap_newtypes" => some { dialect with bareWrappers := true }
  | "unwrap_variant_newtypes" => some { dialect with bareCases := true }
  | _ => none

/-- The names in an attribute, with commas between them. -/
def names? : (steps : Nat) → Dialect → List Char → Option (Dialect × List Char)
  | 0, _, _ => none
  | steps + 1, dialect, cs => do
    let (w, rest) ← word? cs
    let dialect ← extend? dialect w.name
    match ← skip? rest with
    | ',' :: rest =>
      let rest ← skip? rest
      if rest.head?.any isWordChar then names? steps dialect rest else return (dialect, rest)
    | rest => return (dialect, rest)

/-- The attributes that a snapshot begins with, at most `count`, and the rest without blanks at its
    start. -/
def attributes? : (count : Nat) → Dialect → List Char → Option (Dialect × List Char)
  | 0, _, _ => none
  | count + 1, dialect, cs => do
    match ← skip? cs with
    | '#' :: rest =>
      let rest ← afterAll? [['#'], ['!'], ['['], "enable".toList, ['(']] ('#' :: rest)
      let (dialect, rest) ← names? (rest.length + 1) dialect rest
      attributes? count dialect (← afterAll? [[')'], [']']] rest)
    | rest => return (dialect, rest)

/-- The levels that a snapshot may have. -/
def nestingLimit : Nat := 128

/-- The dialect and the value of a snapshot. Going down into a value or on to the next one takes at
    least one character for every two steps, so the steps are never used up. -/
def ofString? (text : String) : Option (Dialect × Value) := do
  let cs := text.toList
  let (dialect, cs) ← attributes? (cs.length + 1) .full cs
  let (v, rest) ← value? dialect (2 * cs.length + 2) nestingLimit cs
  if (← skip? rest).isEmpty then return (dialect, v) else none

end SpineGrammar.Snapshot.Value
