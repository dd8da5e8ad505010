import SpineGrammar.Text.Blank
import SpineGrammar.Text.CaseTable
import SpineGrammar.Pattern.Normal

/-!
# Modes of patterns

The modes that a pattern can switch on and off, and what they mean for blanks, for case and for
sets of characters.
-/

namespace SpineGrammar.Pattern

/-- The modes that a pattern can switch on and off. -/
structure Flags where
  ignoreCase : Bool
  multiLine : Bool
  dotAll : Bool
  /-- Carriage returns end lines too. -/
  crlf : Bool
  /-- Sets and words go beyond ASCII. -/
  unicode : Bool
  /-- Blanks and comments between the parts of the pattern mean nothing. -/
  verbose : Bool
  deriving DecidableEq, Repr

namespace Flags

/-- The modes at the start of a pattern. -/
def initial : Flags := ⟨false, false, false, false, true, false⟩

/-- One mode, switched. A repetition that wants few rounds matches the same texts as one that wants
    many, so the mode that swaps the two changes nothing. -/
def switch (f : Flags) (on : Bool) : Char → Option Flags
  | 'i' => some { f with ignoreCase := on }
  | 'm' => some { f with multiLine := on }
  | 's' => some { f with dotAll := on }
  | 'R' => some { f with crlf := on }
  | 'u' => some { f with unicode := on }
  | 'x' => some { f with verbose := on }
  | 'U' => some f
  | _ => none

end Flags

/-! ## Blanks and comments -/

/-- Skips a comment up to the end of its line. -/
def skipComment (cs : List Char) : List Char := cs.dropWhile (· ≠ '\n')

theorem length_skipComment_le (cs : List Char) : (skipComment cs).length ≤ cs.length :=
  (List.dropWhile_suffix _).length_le

/-- Skips blanks and comments. -/
def skipBlanks (cs : List Char) : List Char :=
  match cs with
  | [] => []
  | c :: rest =>
    if isBlank c then skipBlanks rest
    else if c = '#' then skipBlanks (skipComment rest)
    else c :: rest
termination_by cs.length
decreasing_by
  · simp
  · have := length_skipComment_le rest
    simp only [List.length_cons]
    omega

theorem length_skipBlanks_le (cs : List Char) : (skipBlanks cs).length ≤ cs.length := by
  induction cs using skipBlanks.induct with
  | case1 => simp [skipBlanks]
  | case2 c rest h ih =>
    rw [skipBlanks, if_pos h]
    exact Nat.le_succ_of_le ih
  | case3 rest h ih =>
    rw [skipBlanks, if_neg h, if_pos rfl]
    exact Nat.le_succ_of_le (Nat.le_trans ih (length_skipComment_le rest))
  | case4 c rest h hc => simp [skipBlanks, h, hc]

/-- The first character that is no blank. A `#` starts a comment, of which the first character that
    is no blank counts. -/
def firstBeyond (inComment : Bool) : List Char → Option Char
  | [] => none
  | c :: rest =>
    if isBlank c then firstBeyond inComment rest
    else if c = '#' ∧ !inComment then firstBeyond true rest
    else some c

namespace Flags

/-- Skips what means nothing in the present mode. -/
def skip (f : Flags) (cs : List Char) : List Char :=
  if f.verbose then skipBlanks cs else cs

theorem length_skip_le (f : Flags) (cs : List Char) : (f.skip cs).length ≤ cs.length := by
  unfold skip
  split
  · exact length_skipBlanks_le cs
  · exact Nat.le_refl _

/-- The character that stands next in the present mode. -/
def next? (f : Flags) (cs : List Char) : Option Char :=
  if f.verbose then firstBeyond false cs else cs.head?

/-- The characters up to the first one that fails a test, and the text from that one on; what means
    nothing in the present mode is left out. -/
def takeWhile (f : Flags) (test : Char → Bool) (cs : List Char) : List Char × List Char :=
  match _hskip : f.skip cs with
  | [] => ([], [])
  | c :: rest =>
    if test c then
      let (taken, after) := f.takeWhile test rest
      (c :: taken, after)
    else ([], c :: rest)
termination_by cs.length
decreasing_by
  have := f.length_skip_le cs
  simp only [_hskip, List.length_cons] at this
  omega

/-- A number of characters and what follows them; what means nothing in the present mode is left
    out. -/
def take? (f : Flags) : (count : Nat) → List Char → Option (List Char × List Char)
  | 0, cs => some ([], cs)
  | count + 1, cs =>
    match f.skip cs with
    | [] => none
    | c :: rest => (f.take? count rest).map fun r => (c :: r.1, r.2)

/-! ## Case and sets -/

/-- A set with all that differs from its members in case only, if the present mode ignores case. -/
def close (f : Flags) (s : CodeRanges) : CodeRanges :=
  if !f.ignoreCase then s else if f.unicode then s.anyCase else s.anyAsciiCase

/-- A set or what is outside of it. Beyond ASCII nothing can be left out in a mode that knows
    ASCII only. -/
def negate? (f : Flags) (negated : Bool) (s : CodeRanges) : Option CodeRanges :=
  if !negated then some s else if f.unicode then some s.complement else none

/-- The pattern that a character stands for. -/
def char (f : Flags) (c : Char) : Pattern :=
  if f.ignoreCase && (f.unicode || c.toNat < 0x80) then ofSet (f.close (.single c))
  else literal [c]

/-- The pattern that a dot stands for. -/
def dot? (f : Flags) : Option Pattern :=
  if !f.unicode then none
  else if f.dotAll then some (set CodeRanges.scalars)
  else if f.crlf then some (set (CodeRanges.complement [(0x0A, 0x0A), (0x0D, 0x0D)]))
  else some (set (CodeRanges.complement [(0x0A, 0x0A)]))

/-- The condition that `^` stands for. -/
def lineStart (f : Flags) : Assertion := if f.multiLine then .lineStart f.crlf else .textStart

/-- The condition that `$` stands for. -/
def lineEnd (f : Flags) : Assertion := if f.multiLine then .lineEnd f.crlf else .textEnd

/-- The kind of words in the present mode. -/
def wordKind (f : Flags) : WordKind := if f.unicode then .unicode else .ascii

/-- The digits. -/
def digits (f : Flags) : CodeRanges := if f.unicode then digitRanges else [(0x30, 0x39)]

/-- The blanks. -/
def blanks (f : Flags) : CodeRanges :=
  if f.unicode then blankRanges else [(0x09, 0x0D), (0x20, 0x20)]

end Flags

end SpineGrammar.Pattern
