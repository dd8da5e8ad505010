import SpineGrammar.Proofs.Delimiters
import SpineGrammar.Snapshot.Printer
import SpineGrammar.Snapshot.Reader

/-!
# Words and numbers of snapshots

A word or a number that is followed by a character that neither may hold is read as it was written,
and blanks in front of a value are passed over. Which characters may follow, and with which a value
may start, are predicates on the text behind and on the text itself.
-/

namespace SpineGrammar.Snapshot.Value

/-! ## Blanks -/

/-- Whether a text holds nothing but blanks. -/
def Blank (cs : List Char) : Prop := ∀ c ∈ cs, isSpace c = true

instance (cs : List Char) : Decidable (Blank cs) :=
  decidable_of_iff (cs.all isSpace = true) List.all_eq_true

theorem blank_nil : Blank [] := nofun

theorem Blank.append {before after : List Char} (hbefore : Blank before) (hafter : Blank after) :
    Blank (before ++ after) := by
  intro c hc
  cases List.mem_append.1 hc with
  | inl hc => exact hbefore c hc
  | inr hc => exact hafter c hc

theorem blank_margin (level : Nat) : Blank (margin level) := by
  intro c hc
  rw [List.eq_of_mem_replicate hc]
  rfl

theorem skip?_blanks {blanks rest : List Char} {c : Char} (hblanks : Blank blanks)
    (hspace : isSpace c = false) (hslash : c ≠ '/') :
    skip? (blanks ++ c :: rest) = some (c :: rest) := by
  have hdrop : (blanks ++ c :: rest).dropWhile isSpace = c :: rest := by
    rw [List.dropWhile_append_of_pos hblanks, List.dropWhile_cons, hspace]
    rfl
  unfold skip?
  split
  · next heq => exact absurd (List.cons.inj (hdrop.symm.trans heq)).1 hslash
  · next heq => exact absurd (List.cons.inj (hdrop.symm.trans heq)).1 hslash
  · next heq => exact absurd (List.cons.inj (hdrop.symm.trans heq)).1 hslash
  · rw [hdrop]

theorem skip?_cons {rest : List Char} {c : Char} (hspace : isSpace c = false) (hslash : c ≠ '/') :
    skip? (c :: rest) = some (c :: rest) :=
  skip?_blanks blank_nil hspace hslash

theorem skip?_nil : skip? [] = some [] := by
  unfold skip?
  rfl

/-! ## What stands behind -/

/-- Whether a character may come right behind a word or a number. -/
def isStop (c : Char) : Bool := c == ',' || c == ')' || c == ':' || c == '('

/-- Whether a text starts with a character that no word and no number goes on in. -/
def Stops (rest : List Char) : Prop := ∀ c ∈ rest.head?, isStop c = true

theorem eq_of_isStop {c : Char} (h : isStop c = true) : c = ',' ∨ c = ')' ∨ c = ':' ∨ c = '(' := by
  simpa only [isStop, Bool.or_eq_true, beq_iff_eq, or_assoc] using h

theorem isMarkedChar_of_isStop {c : Char} (h : isStop c = true) : isMarkedChar c = false := by
  rcases eq_of_isStop h with rfl | rfl | rfl | rfl <;> rfl

theorem isWordChar_of_isStop {c : Char} (h : isStop c = true) : isWordChar c = false := by
  rcases eq_of_isStop h with rfl | rfl | rfl | rfl <;> rfl

theorem isNumberChar_of_isStop {c : Char} (h : isStop c = true) : isNumberChar c = false := by
  rcases eq_of_isStop h with rfl | rfl | rfl | rfl <;> rfl

theorem skip?_of_stops {rest : List Char} (h : Stops rest) : skip? rest = some rest := by
  cases rest with
  | nil => exact skip?_nil
  | cons c rest =>
    have hc : isStop c = true := h c rfl
    rcases eq_of_isStop hc with rfl | rfl | rfl | rfl <;> exact skip?_cons rfl (by decide)

/-- Whether a text may come right behind a value. A parenthesis there would belong to the value. -/
def Ends (rest : List Char) : Prop := Stops rest ∧ rest.head? ≠ some '('

theorem stops_open (rest : List Char) : Stops ('(' :: rest) :=
  fun _ hc => Option.some.inj hc ▸ rfl

theorem ends_comma (rest : List Char) : Ends (',' :: rest) :=
  ⟨fun _ hc => Option.some.inj hc ▸ rfl, by simp⟩

theorem ends_close (rest : List Char) : Ends (')' :: rest) :=
  ⟨fun _ hc => Option.some.inj hc ▸ rfl, by simp⟩

theorem ends_colon (rest : List Char) : Ends (':' :: rest) :=
  ⟨fun _ hc => Option.some.inj hc ▸ rfl, by simp⟩

theorem ends_nil : Ends [] := ⟨nofun, nofun⟩

/-! ## Words -/

/-- Whether a text is a word: it starts with a letter or an underscore and goes on with these and
    digits. -/
structure IsWord (name : String) : Prop where
  start : name.toList.head?.any isWordStart = true
  chars : ∀ c ∈ name.toList, isWordChar c = true

instance (name : String) : Decidable (IsWord name) :=
  decidable_of_iff
    (name.toList.head?.any isWordStart = true ∧ name.toList.all isWordChar = true)
    ⟨fun h => ⟨h.1, List.all_eq_true.1 h.2⟩, fun h => ⟨h.1, List.all_eq_true.2 h.2⟩⟩

theorem IsWord.exists_cons {name : String} (h : IsWord name) :
    ∃ c cs, name.toList = c :: cs ∧ isWordStart c = true ∧ ∀ d ∈ cs, isWordChar d = true := by
  obtain ⟨hstart, hchars⟩ := h
  cases hname : name.toList with
  | nil =>
    rw [hname] at hstart
    cases hstart
  | cons c cs =>
    rw [hname] at hstart hchars
    exact ⟨c, cs, rfl, hstart, fun d hd => hchars d (List.mem_cons_of_mem c hd)⟩

/-- What comes behind the first character of a word goes on with the word or stops. -/
theorem isWordChar_or_isStop {cs rest : List Char} (hcs : ∀ d ∈ cs, isWordChar d = true)
    (hrest : Stops rest) : ∀ d ∈ (cs ++ rest).head?, isWordChar d = true ∨ isStop d = true := by
  intro d hd
  cases cs with
  | nil => exact .inr (hrest d hd)
  | cons e es =>
    obtain rfl : e = d := Option.some.inj hd
    exact .inl (hcs e List.mem_cons_self)

theorem word?_append {name : String} {rest : List Char} (hname : IsWord name) (hrest : Stops rest) :
    word? (name.toList ++ rest) = some (⟨name, false⟩, rest) := by
  obtain ⟨c, cs, hcs, hstart, hchars⟩ := hname.exists_cons
  obtain ⟨htake, hdrop⟩ := takeWhile_dropWhile_append hname.chars
    fun d hd => isWordChar_of_isStop (hrest d hd)
  have hmark : rest.head?.any isMarkedChar = false := by
    rw [Option.any_eq_false]
    intro d hd
    simp [isMarkedChar_of_isStop (hrest d hd)]
  unfold word?
  split
  · -- No word goes on with a number sign, so this is not a marked word.
    next tail heq =>
    rw [hcs, List.cons_append] at heq
    have hhead := isWordChar_or_isStop hchars hrest '#'
    rw [(List.cons.inj heq).2] at hhead
    rcases hhead rfl with h | h <;> cases h
  · next d ds _ heq =>
    rw [hcs, List.cons_append] at heq
    obtain rfl : c = d := (List.cons.inj heq).1
    simp only [hdrop, hmark, htake, hstart, Bool.not_false, Bool.and_self, if_true,
      String.ofList_toList]
  · next heq =>
    rw [hcs] at heq
    cases heq

/-- No word is taken for the start of a raw text: an `r` that starts one is not followed by a number
    sign or a quote. -/
theorem rawText?_append {name : String} {rest : List Char} (hname : IsWord name)
    (hrest : Stops rest) : rawText? (name.toList ++ rest) = none := by
  obtain ⟨c, cs, hcs, _, hchars⟩ := hname.exists_cons
  have hhead := isWordChar_or_isStop hchars hrest
  rw [hcs, List.cons_append]
  unfold rawText?
  split
  · next tail heq =>
    obtain ⟨_, rfl⟩ := List.cons.inj heq
    cases htail : cs ++ rest with
    | nil => rfl
    | cons d ds =>
      have hd := hhead d (by rw [htail]; rfl)
      have hsharp : d ≠ '#' := by
        intro h
        subst h
        rcases hd with h | h <;> cases h
      have hquote : d ≠ '"' := by
        intro h
        subst h
        rcases hd with h | h <;> cases h
      rw [List.dropWhile_cons_of_neg (by simpa using hsharp)]
      split
      · next heq => exact absurd (List.cons.inj heq).1 hquote
      · rfl
  · rfl

theorem word?_of_not_start {c : Char} {cs : List Char} (hc : isWordStart c = false) :
    word? (c :: cs) = none := by
  unfold word?
  split
  · next heq =>
    obtain ⟨rfl, _⟩ := List.cons.inj heq
    cases hc
  · next heq =>
    obtain ⟨rfl, _⟩ := List.cons.inj heq
    simp [hc]
  · rfl

theorem fieldName?_colon {name : String} {more : List Char} (hname : IsWord name) :
    fieldName? (name.toList ++ ':' :: more) = some (name, more) := by
  rw [fieldName?, word?_append hname (ends_colon more).1]
  simp only [Option.bind_eq_bind, Option.bind_some]
  rw [skip?_cons rfl (by decide)]
  rfl

theorem fieldName?_word {name : String} {rest : List Char} (hname : IsWord name)
    (hrest : Stops rest) (hcolon : rest.head? ≠ some ':') :
    fieldName? (name.toList ++ rest) = none := by
  rw [fieldName?, word?_append hname hrest]
  simp only [Option.bind_eq_bind, Option.bind_some, skip?_of_stops hrest]
  split
  · exact absurd rfl hcolon
  · rfl

theorem fieldName?_of_not_start {c : Char} {cs : List Char} (hc : isWordStart c = false) :
    fieldName? (c :: cs) = none := by
  rw [fieldName?, word?_of_not_start hc]
  rfl

/-! ## Numbers -/

/-- Digits without a base in front denote a decimal number. -/
theorem unsigned?_repr (k : Nat) : unsigned? k.repr.toList = some k := by
  have hfilter : k.repr.toList.filter (· ≠ '_') = k.repr.toList := by
    rw [List.filter_eq_self]
    intro c hc
    have hne : c ≠ '_' := by
      intro h
      subst h
      cases isDigit_of_mem_repr hc
    simpa using hne
  have hvalue : digitsValue? 10 k.repr.toList = some k := by
    unfold digitsValue?
    split
    · next heq =>
      obtain ⟨c, tail, hrepr, _⟩ := exists_repr_eq_cons k
      rw [hrepr] at heq
      cases heq
    · next heq => cases isDigit_of_mem_repr (heq ▸ List.mem_cons_self)
    · rw [hfilter, toList_repr, numeral?_toDigits (by omega) (by omega)]
  unfold unsigned?
  split
  · next heq =>
    have hmem : 'x' ∈ k.repr.toList := by simp [heq]
    cases isDigit_of_mem_repr hmem
  · next heq =>
    have hmem : 'b' ∈ k.repr.toList := by simp [heq]
    cases isDigit_of_mem_repr hmem
  · next heq =>
    have hmem : 'o' ∈ k.repr.toList := by simp [heq]
    cases isDigit_of_mem_repr hmem
  · exact hvalue

theorem numberOf?_repr {k : Nat} (hk : k < indexBound) :
    numberOf? k.repr.toList = some (.nat k) := by
  have hinteger : integer? k.repr.toList 0 (valuesOf 64 - 1) 1 k.repr.toList = some (.nat k) := by
    have hbound : (0 : Int) ≤ 1 * k ∧ (1 : Int) * k ≤ valuesOf 64 - 1 := by
      have : k < valuesOf 64 := hk
      omega
    rw [integer?, unsigned?_repr]
    simp only [if_pos hbound]
    rw [if_neg (by omega), Int.one_mul]
    rfl
  unfold numberOf?
  split
  · next heq => cases isDigit_of_mem_repr (heq ▸ List.mem_cons_self)
  · next heq => cases isDigit_of_mem_repr (heq ▸ List.mem_cons_self)
  · exact hinteger

theorem number?_append {k : Nat} {rest : List Char} (hk : k < indexBound) (hrest : Stops rest) :
    number? (k.repr.toList ++ rest) = some (.nat k, rest) := by
  have hnumber : ∀ c ∈ k.repr.toList, isNumberChar c = true := by
    intro c hc
    simp [isNumberChar, Char.isAlphanum, isDigit_of_mem_repr hc]
  obtain ⟨htake, hdrop⟩ := takeWhile_dropWhile_append hnumber
    fun c hc => isNumberChar_of_isStop (hrest c hc)
  rw [number?, htake, hdrop, numberOf?_repr hk]
  rfl

/-! ## How values start -/

/-- Whether a value may start with a character when it is written. -/
def isOpening (c : Char) : Bool :=
  !isSpace c && c != '/' && c != '#' && c != ',' && c != ')' && c != ':' && c != ']' &&
    c != '\x7d'

/-- Whether a text starts as a written value does. -/
def Opens (cs : List Char) : Prop := ∃ c tail, cs = c :: tail ∧ isOpening c = true

theorem Opens.append {cs : List Char} (h : Opens cs) (more : List Char) : Opens (cs ++ more) := by
  obtain ⟨c, tail, rfl, hc⟩ := h
  exact ⟨c, tail ++ more, rfl, hc⟩

theorem Opens.length_pos {cs : List Char} (h : Opens cs) : 0 < cs.length := by
  obtain ⟨c, tail, rfl, _⟩ := h
  exact Nat.succ_pos _

theorem skip?_opens {blanks cs : List Char} (hblanks : Blank blanks) (hcs : Opens cs)
    (rest : List Char) : skip? (blanks ++ (cs ++ rest)) = some (cs ++ rest) := by
  obtain ⟨c, tail, rfl, hc⟩ := hcs
  simp only [isOpening, Bool.and_eq_true, Bool.not_eq_true', bne_iff_ne] at hc
  exact skip?_blanks hblanks hc.1.1.1.1.1.1.1 hc.1.1.1.1.1.1.2

theorem Opens.skip? {cs : List Char} (h : Opens cs) (rest : List Char) :
    Value.skip? (cs ++ rest) = some (cs ++ rest) :=
  skip?_opens blank_nil h rest

/-- Behind blanks a reader comes to the first character of a value. -/
theorem Opens.exists_skip? {blanks cs : List Char} (hcs : Opens cs) (hblanks : Blank blanks) :
    ∃ c tail, cs = c :: tail ∧ isOpening c = true ∧
      Value.skip? (blanks ++ cs) = some (c :: tail) := by
  have hskip := skip?_opens hblanks hcs []
  obtain ⟨c, tail, rfl, hc⟩ := hcs
  rw [List.append_nil] at hskip
  exact ⟨c, tail, rfl, hc, hskip⟩

theorem ne_of_isOpening {c x : Char} (hc : isOpening c = true) (hx : isOpening x = false) :
    c ≠ x := by
  intro h
  rw [← h, hc] at hx
  cases hx

/-- Neither the blanks in front of a value nor the value start with a closing parenthesis. -/
theorem Opens.head?_ne_close {blanks cs : List Char} (hblanks : Blank blanks) (hcs : Opens cs)
    (rest : List Char) : (blanks ++ (cs ++ rest)).head? ≠ some ')' := by
  obtain ⟨c, tail, rfl, hc⟩ := hcs
  intro h
  cases blanks with
  | nil =>
    obtain rfl : c = ')' := Option.some.inj h
    cases hc
  | cons b blanks =>
    obtain rfl : b = ')' := Option.some.inj h
    cases hblanks ')' List.mem_cons_self

/-- What a character is not if it does not open a value. -/
theorem eq_of_not_isOpening {c : Char} (h : isOpening c = false) :
    c = ' ' ∨ c = '\n' ∨ c = '\t' ∨ c = '\r' ∨ c = '/' ∨ c = '#' ∨ c = ',' ∨ c = ')' ∨
      c = ':' ∨ c = ']' ∨ c = '\x7d' := by
  simpa only [isOpening, isSpace, bne, Bool.and_eq_false_iff, Bool.not_eq_false', Bool.or_eq_true,
    beq_iff_eq, or_assoc] using h

theorem isOpening_of_isWordStart {c : Char} (hc : isWordStart c = true) : isOpening c = true := by
  cases h : isOpening c with
  | true => rfl
  | false =>
    rcases eq_of_not_isOpening h with
      rfl | rfl | rfl | rfl | rfl | rfl | rfl | rfl | rfl | rfl | rfl <;> cases hc

theorem isOpening_of_isDigit {c : Char} (hc : c.isDigit = true) : isOpening c = true := by
  cases h : isOpening c with
  | true => rfl
  | false =>
    rcases eq_of_not_isOpening h with
      rfl | rfl | rfl | rfl | rfl | rfl | rfl | rfl | rfl | rfl | rfl <;> cases hc

theorem isWordStart_of_isDigit {c : Char} (hc : c.isDigit = true) : isWordStart c = false := by
  have hne : c ≠ '_' := by
    intro h
    subst h
    cases hc
  -- All letters come behind the digits.
  have hnine : c.val ≤ '9'.val := of_decide_eq_true (Bool.and_eq_true_iff.1 hc).2
  have hbehind : ∀ d : Char, ¬ d.val ≤ '9'.val → ¬ d.val ≤ c.val :=
    fun _ hd hle => hd (UInt32.le_trans hle hnine)
  have hupper : c.isUpper = false := decide_eq_false fun h => hbehind 'A' (by decide) h.1
  have hlower : c.isLower = false := by
    show (decide ('a'.val ≤ c.val) && decide (c.val ≤ 'z'.val)) = false
    rw [decide_eq_false (hbehind 'a' (by decide)), Bool.false_and]
  have halpha : c.isAlpha = false := by
    show (c.isUpper || c.isLower) = false
    rw [hupper, hlower, Bool.false_or]
  simp [isWordStart, halpha, hne]

theorem IsWord.opens {name : String} (h : IsWord name) : Opens name.toList := by
  obtain ⟨c, cs, hcs, hstart, _⟩ := h.exists_cons
  exact ⟨c, cs, hcs, isOpening_of_isWordStart hstart⟩

theorem opens_repr (k : Nat) : Opens k.repr.toList := by
  obtain ⟨c, tail, hrepr, hdigit⟩ := exists_repr_eq_cons k
  exact ⟨c, tail, hrepr, isOpening_of_isDigit hdigit⟩

end SpineGrammar.Snapshot.Value
