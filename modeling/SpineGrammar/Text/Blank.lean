import SpineGrammar.Text.CodeRange

/-!
# Blanks

White space as the Unicode property `White_Space` has it, and the two operations that skip it:
trimming a text at both ends and cutting it into the words between blanks. No word is empty or
holds a blank (`of_mem_words`), and a text that starts with blanks or with a word has the words
that one expects (`words_blanks_append`, `words_word_append`).
-/

namespace SpineGrammar

/-- The code points with the property `White_Space`. -/
def blankRanges : CodeRanges :=
  [(0x09, 0x0D), (0x20, 0x20), (0x85, 0x85), (0xA0, 0xA0), (0x1680, 0x1680), (0x2000, 0x200A),
    (0x2028, 0x2029), (0x202F, 0x202F), (0x205F, 0x205F), (0x3000, 0x3000)]

/-- Whether a character is white space. -/
def isBlank (c : Char) : Bool := blankRanges.has c

/-- A text without the blanks at its two ends. -/
def trimBlanks (cs : List Char) : List Char :=
  ((cs.dropWhile isBlank).reverse.dropWhile isBlank).reverse

/-- Words between blanks, where `word` holds the letters of the word being read, last one first. -/
def wordsFrom (word : List Char) : List Char → List (List Char)
  | [] => if word.isEmpty then [] else [word.reverse]
  | c :: cs =>
    if isBlank c then
      if word.isEmpty then wordsFrom [] cs else word.reverse :: wordsFrom [] cs
    else wordsFrom (c :: word) cs

/-- The words of a text: its longest stretches without blanks. -/
def words (cs : List Char) : List (List Char) := wordsFrom [] cs

theorem of_mem_wordsFrom {word cs w : List Char} (hword : ∀ c ∈ word, isBlank c = false)
    (h : w ∈ wordsFrom word cs) : w ≠ [] ∧ ∀ c ∈ w, isBlank c = false := by
  induction cs generalizing word with
  | nil =>
    unfold wordsFrom at h
    split at h
    · exact absurd h List.not_mem_nil
    · obtain rfl := List.mem_singleton.1 h
      refine ⟨?_, ?_⟩
      · intro hw
        simp_all
      · intro c hc
        exact hword c (List.mem_reverse.1 hc)
  | cons c cs ih =>
    unfold wordsFrom at h
    split at h
    · split at h
      · exact ih (fun _ hm => absurd hm List.not_mem_nil) h
      · rcases List.mem_cons.1 h with rfl | h
        · refine ⟨?_, ?_⟩
          · intro hw
            simp_all
          · intro d hd
            exact hword d (List.mem_reverse.1 hd)
        · exact ih (fun _ hm => absurd hm List.not_mem_nil) h
    · refine ih ?_ h
      intro d hd
      rcases List.mem_cons.1 hd with rfl | hd
      · simp_all
      · exact hword d hd

theorem of_mem_words {cs w : List Char} (h : w ∈ words cs) :
    w ≠ [] ∧ ∀ c ∈ w, isBlank c = false :=
  of_mem_wordsFrom (fun _ hm => absurd hm List.not_mem_nil) h

theorem mem_of_mem_wordsFrom {word cs w : List Char} (h : w ∈ wordsFrom word cs) {c : Char}
    (hc : c ∈ w) : c ∈ word ∨ c ∈ cs := by
  induction cs generalizing word with
  | nil =>
    unfold wordsFrom at h
    split at h
    · exact absurd h List.not_mem_nil
    · obtain rfl := List.mem_singleton.1 h
      exact .inl (List.mem_reverse.1 hc)
  | cons d cs ih =>
    unfold wordsFrom at h
    split at h
    · split at h
      · exact .inr (List.mem_cons_of_mem _ ((ih h).resolve_left List.not_mem_nil))
      · rcases List.mem_cons.1 h with rfl | h
        · exact .inl (List.mem_reverse.1 hc)
        · exact .inr (List.mem_cons_of_mem _ ((ih h).resolve_left List.not_mem_nil))
    · rcases ih h with hd | hmem
      · rcases List.mem_cons.1 hd with rfl | hword
        · exact .inr List.mem_cons_self
        · exact .inl hword
      · exact .inr (List.mem_cons_of_mem _ hmem)

/-- The words of a text have no other characters than the text. -/
theorem mem_of_mem_words {cs w : List Char} (h : w ∈ words cs) {c : Char} (hc : c ∈ w) : c ∈ cs :=
  (mem_of_mem_wordsFrom h hc).resolve_left List.not_mem_nil

/-- A word that was started comes to its end. -/
theorem wordsFrom_ne_nil {word : List Char} (hword : word ≠ []) (cs : List Char) :
    wordsFrom word cs ≠ [] := by
  induction cs generalizing word with
  | nil => simp [wordsFrom, hword]
  | cons c cs ih =>
    rw [wordsFrom]
    by_cases hc : isBlank c = true
    · simp [hc, hword]
    · rw [if_neg hc]
      exact ih (by simp)

/-! ## The words of a text that is put together -/

theorem words_blanks_append {gap : List Char} (hgap : ∀ c ∈ gap, isBlank c = true)
    (rest : List Char) : words (gap ++ rest) = words rest := by
  induction gap with
  | nil => rfl
  | cons c gap ih =>
    obtain ⟨hc, hgap⟩ := List.forall_mem_cons.1 hgap
    show wordsFrom [] (c :: (gap ++ rest)) = _
    rw [wordsFrom, if_pos hc]
    exact ih hgap

theorem wordsFrom_append {letters : List Char} (hletters : ∀ c ∈ letters, isBlank c = false)
    (word rest : List Char) :
    wordsFrom word (letters ++ rest) = wordsFrom (letters.reverse ++ word) rest := by
  induction letters generalizing word with
  | nil => rfl
  | cons c letters ih =>
    obtain ⟨hc, hletters⟩ := List.forall_mem_cons.1 hletters
    rw [List.cons_append, wordsFrom, if_neg (by simp [hc]), ih hletters]
    simp

/-- A word ends where a blank follows or the text does. -/
theorem words_word_append {word rest : List Char} (hne : word ≠ [])
    (hword : ∀ c ∈ word, isBlank c = false) (hrest : ∀ c ∈ rest.head?, isBlank c = true) :
    words (word ++ rest) = word :: words rest := by
  have hfull : word.reverse.isEmpty = false := by simpa using hne
  unfold words
  rw [wordsFrom_append hword, List.append_nil]
  cases rest with
  | nil =>
    rw [wordsFrom, wordsFrom, hfull, List.reverse_reverse]
    rfl
  | cons c rest =>
    have hc : isBlank c = true := hrest c rfl
    rw [wordsFrom, wordsFrom, if_pos hc, if_pos hc, hfull, List.reverse_reverse]
    rfl

end SpineGrammar
