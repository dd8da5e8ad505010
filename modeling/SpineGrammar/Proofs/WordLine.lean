import Mathlib.Data.List.Induction
import SpineGrammar.Proofs.Outcome
import SpineGrammar.Tree.Drawing

/-!
# The line of words

The line of words of a drawing is written word by word, and a column is the width of what is written
before it. Where the gap between words keeps its two columns whatever stands around it, the width of
the line is made up of those of its words and gaps, so words that come later start further right,
each at least the gap behind the end of the one before it.
-/

namespace SpineGrammar

/-- The blanks between neighbouring words. -/
def gapText : String := repeated wordGap ' '

/-- The line of some words. -/
def lineOf (words : List String) : String := gapText.intercalate words

/-- What stands on the line before the word that comes after some words. -/
def leadOf : List String → String
  | [] => ""
  | w :: ws => w ++ gapText ++ leadOf ws

/-- `Padded width`: a gap between words takes up its own columns, whatever stands before and behind
    it. -/
structure Padded (width : String → Nat) : Prop where
  empty : width "" = 0
  around_gap : ∀ a b, width (a ++ gapText ++ b) = width a + wordGap + width b

variable {width : String → Nat} {words before own after : List String}

/-! ## Texts -/

theorem leadOf_append (before after : List String) :
    leadOf (before ++ after) = leadOf before ++ leadOf after := by
  induction before with
  | nil => simp [leadOf]
  | cons w ws ih => simp [leadOf, ih, String.append_assoc]

theorem lineOf_append_singleton (words : List String) (w : String) :
    lineOf (words ++ [w]) = leadOf words ++ w := by
  induction words with
  | nil => simp [lineOf, leadOf]
  | cons v ws ih =>
    unfold lineOf at ih ⊢
    rw [List.cons_append, String.intercalate_cons_of_ne_nil (by simp), ih, leadOf,
      ← String.append_assoc]

/-- Behind the last word of some there is one more gap before the next word. -/
theorem leadOf_of_ne_nil (h : own ≠ []) : leadOf own = lineOf own ++ gapText := by
  obtain ⟨init, last, rfl⟩ := List.eq_nil_or_concat own |>.resolve_left h
  rw [List.concat_eq_append, lineOf_append_singleton, leadOf_append]
  simp [leadOf, String.append_assoc]

/-! ## Widths -/

namespace Padded

variable (hwidth : Padded width)

include hwidth

theorem width_leadOf_append (words : List String) (s : String) :
    width (leadOf words ++ s) = width (leadOf words) + width s := by
  induction words with
  | nil => simp [leadOf, hwidth.empty]
  | cons w ws ih =>
    rw [leadOf, hwidth.around_gap, String.append_assoc, hwidth.around_gap, ih]
    omega

theorem width_append_gapText (s : String) : width (s ++ gapText) = width s + wordGap := by
  have hgap := hwidth.around_gap s ""
  rw [String.append_empty, hwidth.empty] at hgap
  exact hgap

/-- A gap behind its last word is where words end on the line and the next one starts. -/
theorem width_leadOf_append_own (before : List String) (h : own ≠ []) :
    width (leadOf (before ++ own)) = width (leadOf before ++ lineOf own) + wordGap := by
  rw [leadOf_append, leadOf_of_ne_nil h, ← String.append_assoc, hwidth.width_append_gapText]

theorem start_le_stop (before own : List String) :
    width (leadOf before) ≤ width (leadOf before ++ lineOf own) := by
  rw [hwidth.width_leadOf_append]
  exact Nat.le_add_right _ _

/-- Later words start further right. -/
theorem width_leadOf_mono (h : before <+: words) :
    width (leadOf before) ≤ width (leadOf words) := by
  obtain ⟨rest, rfl⟩ := h
  rw [leadOf_append, hwidth.width_leadOf_append]
  exact Nat.le_add_right _ _

end Padded

/-! ## Columns -/

namespace WordLine

variable {l : WordLine}

/-- `l.Writes width words`: the line `l` has the words written so far, each with the width of what
    is written before it, and of this with the word itself. -/
structure Writes (width : String → Nat) (words : List String) (l : WordLine) : Prop where
  text : l.text = lineOf words
  length : l.columns.length = words.length
  column : ∀ before w after, words = before ++ w :: after →
    l.columns[before.length]? = some (width (leadOf before), width (leadOf before ++ w))

/-- What is written before the next word is what should stand there. -/
theorem Writes.push_eq (h : Writes width words l) (w : String) : l.push width w =
    ⟨leadOf words ++ w,
      l.columns ++ [(width (leadOf words), width (leadOf words ++ w))]⟩ := by
  have hlead : (if l.columns.isEmpty then l.text else l.text ++ repeated wordGap ' ') =
      leadOf words := by
    have hlength := h.length
    by_cases hnil : words = []
    · rw [hnil] at hlength ⊢
      rw [List.length_eq_zero_iff.1 hlength, h.text, hnil]
      rfl
    · rw [leadOf_of_ne_nil hnil, h.text, if_neg]
      · rfl
      · simpa [← List.length_eq_zero_iff, hlength] using hnil
  unfold push
  rw [hlead]

/-- **Step**: one more word is written behind those that are there. -/
theorem Writes.push (h : Writes width words l) (w : String) :
    Writes width (words ++ [w]) (l.push width w) := by
  rw [h.push_eq]
  refine ⟨(lineOf_append_singleton words w).symm, by simp [h.length], ?_⟩
  intro before v after heq
  -- The word is one of those before, or the one that is written now.
  rcases List.eq_nil_or_concat after with rfl | ⟨init, last, rfl⟩
  · obtain ⟨rfl, rfl⟩ : words = before ∧ w = v := by simpa using heq
    rw [← h.length]
    simp
  · have hwords : words = before ++ v :: init := by
      have hcons : words ++ [w] = (before ++ v :: init) ++ [last] := by simpa using heq
      exact (List.append_inj' hcons rfl).1
    have hlt : before.length < l.columns.length := by
      rw [h.length, hwords]
      simp
    rw [List.getElem?_append_left hlt]
    exact h.column before v init hwords

end WordLine

end SpineGrammar
