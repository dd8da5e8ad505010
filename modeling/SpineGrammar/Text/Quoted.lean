import SpineGrammar.Text.CodeRange
import SpineGrammar.Text.EscapeTable
import SpineGrammar.Text.Numeral

/-!
# Quoted text

Text between double quotes, in which some characters are escaped. Writing escapes quotes of both
kinds, backslashes, and all that is not visible by itself; reading also knows the other escapes. A
character reads back as it was written (`unescape?_escape`), and so does a text
(`body?_escapeAll`).
-/

namespace SpineGrammar.Quoted

/-! ## Writing -/

/-- The escape by number: `\u` and the hexadecimal code in braces. -/
def numbered (c : Char) : List Char :=
  ['\\', 'u', '\x7b'] ++ Nat.toDigits 16 c.toNat ++ ['\x7d']

/-- Whether a character is written by number. -/
def isNumbered (c : Char) : Bool :=
  c.toNat < 0x20 || c.toNat == 0x7F || numberedRanges.has c

/-- A character as it is written. -/
def escape (c : Char) : List Char :=
  if c = '\x00' then ['\\', '0']
  else if c = '\t' then ['\\', 't']
  else if c = '\r' then ['\\', 'r']
  else if c = '\n' then ['\\', 'n']
  else if c = '\'' then ['\\', '\'']
  else if c = '"' then ['\\', '"']
  else if c = '\\' then ['\\', '\\']
  else if isNumbered c then numbered c
  else [c]

/-- Characters as they are written. -/
def escapeAll (cs : List Char) : List Char := cs.flatMap escape

/-- A text as it is written, between quotes. -/
def quote (s : String) : List Char := '"' :: escapeAll s.toList ++ ['"']

/-! ## Reading -/

/-- A character given by one to six hexadecimal digits and a closing brace. -/
def braced? (cs : List Char) : Option (Char × List Char) := do
  let ds := cs.takeWhile (· ≠ '\x7d')
  match cs.dropWhile (· ≠ '\x7d') with
  | [] => none
  | _ :: rest =>
    if ds.isEmpty ∨ 6 < ds.length then none
    else return (← charOfCode? (← numeral? 16 ds), rest)

/-- The character that an escape stands for, after its backslash. -/
def escaped? : List Char → Option (Char × List Char)
  | '\'' :: rest => some ('\'', rest)
  | '"' :: rest => some ('"', rest)
  | '\\' :: rest => some ('\\', rest)
  | 'n' :: rest => some ('\n', rest)
  | 'r' :: rest => some ('\r', rest)
  | 't' :: rest => some ('\t', rest)
  | '0' :: rest => some ('\x00', rest)
  | 'x' :: a :: b :: rest => do return (← charOfCode? (← numeral? 16 [a, b]), rest)
  | 'u' :: '\x7b' :: rest => braced? rest
  | _ => none

/-- The next character of a quoted text: one that stands for itself, or an escape. -/
def unescape? : List Char → Option (Char × List Char)
  | [] => none
  | '\\' :: rest => escaped? rest
  | c :: rest => some (c, rest)

theorem length_lt_of_braced? {cs rest : List Char} {c : Char} (h : braced? cs = some (c, rest)) :
    rest.length < cs.length := by
  have hdrop := (List.dropWhile_suffix (l := cs) (· ≠ '\x7d')).length_le
  unfold braced? at h
  split at h
  · simp at h
  · next heq =>
    dsimp only at h
    split at h
    · simp at h
    · simp only [bind, Option.bind_eq_some_iff, pure, Option.some.injEq, Prod.mk.injEq] at h
      obtain ⟨_, _, _, _, _, rfl⟩ := h
      rw [heq, List.length_cons] at hdrop
      omega

theorem length_lt_of_escaped? {cs rest : List Char} {c : Char}
    (h : escaped? cs = some (c, rest)) : rest.length < cs.length := by
  unfold escaped? at h
  split at h
  case h_8 =>
    simp only [bind, Option.bind_eq_some_iff, pure, Option.some.injEq, Prod.mk.injEq] at h
    obtain ⟨_, _, _, _, _, rfl⟩ := h
    simp only [List.length_cons]
    omega
  case h_9 =>
    have := length_lt_of_braced? h
    simp only [List.length_cons]
    omega
  case h_10 => cases h
  all_goals
    cases h
    exact Nat.lt_succ_self _

theorem length_lt_of_unescape? {cs rest : List Char} {c : Char}
    (h : unescape? cs = some (c, rest)) : rest.length < cs.length := by
  unfold unescape? at h
  split at h
  · cases h
  · exact Nat.lt_succ_of_lt (length_lt_of_escaped? h)
  · cases h
    exact Nat.lt_succ_self _

/-- The characters up to the closing quote, and what follows it. -/
def body? (cs : List Char) : Option (List Char × List Char) :=
  if cs.head? = some '"' then some ([], cs.tail)
  else
    match _h : unescape? cs with
    | some (c, rest) => (body? rest).map fun r => (c :: r.1, r.2)
    | none => none
termination_by cs.length
decreasing_by exact length_lt_of_unescape? _h

/-! ## What is written reads back -/

theorem braced?_toDigits (c : Char) (rest : List Char) :
    braced? (Nat.toDigits 16 c.toNat ++ '\x7d' :: rest) = some (c, rest) := by
  have hdigit : ∀ d ∈ Nat.toDigits 16 c.toNat, (d ≠ '\x7d') = true := by
    intro d hd
    have hsome := isSome_digitIn?_of_mem_toDigits (by omega) (by omega) hd
    have hne : d ≠ '\x7d' := by
      rintro rfl
      exact absurd hsome (by decide)
    simpa using hne
  have htake : (Nat.toDigits 16 c.toNat ++ '\x7d' :: rest).takeWhile (· ≠ '\x7d')
      = Nat.toDigits 16 c.toNat := by
    rw [List.takeWhile_append_of_pos (by simpa using hdigit)]
    simp
  have hdrop : (Nat.toDigits 16 c.toNat ++ '\x7d' :: rest).dropWhile (· ≠ '\x7d')
      = '\x7d' :: rest := by
    rw [List.dropWhile_append_of_pos (by simpa using hdigit)]
    simp
  have hlength : (Nat.toDigits 16 c.toNat).length ≤ 6 := by
    rw [Nat.length_toDigits_le_iff (by omega) (by omega)]
    have hvalid := c.valid
    have hval : c.toNat < 0x110000 := by
      simp only [UInt32.isValidChar, Nat.isValidChar] at hvalid
      unfold Char.toNat
      omega
    omega
  unfold braced?
  rw [htake, hdrop]
  simp [Nat.toDigits_ne_nil, Nat.not_lt.2 hlength, numeral?_toDigits, charOfCode?_toNat]

theorem unescape?_escape (c : Char) (rest : List Char) :
    unescape? (escape c ++ rest) = some (c, rest) := by
  unfold escape
  split
  · simp_all [unescape?, escaped?]
  split
  · simp_all [unescape?, escaped?]
  split
  · simp_all [unescape?, escaped?]
  split
  · simp_all [unescape?, escaped?]
  split
  · simp_all [unescape?, escaped?]
  split
  · simp_all [unescape?, escaped?]
  split
  · simp_all [unescape?, escaped?]
  split
  · simp [numbered, unescape?, escaped?, braced?_toDigits]
  · simp_all [unescape?]

theorem exists_escape_eq_cons (c : Char) : ∃ d ds, escape c = d :: ds ∧ d ≠ '"' := by
  unfold escape
  repeat' split
  all_goals simp_all [numbered]

theorem body?_escapeAll (cs rest : List Char) :
    body? (escapeAll cs ++ '"' :: rest) = some (cs, rest) := by
  induction cs with
  | nil =>
    rw [body?]
    simp [escapeAll]
  | cons c cs ih =>
    have hstart := unescape?_escape c (escapeAll cs ++ '"' :: rest)
    have happend : escapeAll (c :: cs) ++ '"' :: rest
        = escape c ++ (escapeAll cs ++ '"' :: rest) := by
      simp [escapeAll]
    obtain ⟨d, ds, he, hd⟩ := exists_escape_eq_cons c
    have hhead : (escape c ++ (escapeAll cs ++ '"' :: rest)).head? ≠ some '"' := by
      simpa [he] using hd
    rw [happend, body?, if_neg hhead]
    split
    · next heq =>
      rw [hstart] at heq
      cases heq
      simp [ih]
    · next heq =>
      rw [hstart] at heq
      cases heq

end SpineGrammar.Quoted
