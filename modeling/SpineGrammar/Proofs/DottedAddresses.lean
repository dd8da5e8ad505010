import Mathlib.Data.List.Basic
import Mathlib.Data.List.TakeWhile
import SpineGrammar.Proofs.Delimiters
import SpineGrammar.Proofs.Outcome
import SpineGrammar.Records.Conversion

/-!
# Which texts are dotted addresses

A text is read as an address if and only if, between blanks, it is the character `0` and then, for
each index, a dot and a spelling of the index: digits, with a plus sign or zeros in front of them if
one likes. Every other text is refused, and the refusal names the text with its blanks. So what is
written for an address is read as this address, however its indices are spelled.
-/

namespace SpineGrammar

/-! ## Blanks at the ends -/

/-- What stands between blanks is what trimming leaves, if it is not empty and has no blank. -/
theorem trimBlanks_append {before body after : List Char} (hne : body ≠ [])
    (hbody : ∀ c ∈ body, isBlank c = false) (hbefore : ∀ c ∈ before, isBlank c = true)
    (hafter : ∀ c ∈ after, isBlank c = true) : trimBlanks (before ++ body ++ after) = body := by
  have hfirst : ∀ c ∈ (body ++ after).head?, isBlank c = false := by
    intro c hc
    rw [List.head?_append_of_ne_nil _ hne] at hc
    exact hbody c (List.mem_of_mem_head? hc)
  have hlast : ∀ c ∈ body.reverse.head?, isBlank c = false := by
    intro c hc
    exact hbody c (List.mem_reverse.1 (List.mem_of_mem_head? hc))
  have hafter' : ∀ c ∈ after.reverse, isBlank c = true :=
    fun c hc => hafter c (List.mem_reverse.1 hc)
  unfold trimBlanks
  rw [List.append_assoc, (takeWhile_dropWhile_append hbefore hfirst).2, List.reverse_append,
    (takeWhile_dropWhile_append hafter' hlast).2, List.reverse_reverse]

/-- Trimming takes away blanks at the two ends only. -/
theorem exists_trimBlanks (cs : List Char) : ∃ before after, cs = before ++ trimBlanks cs ++ after ∧
    (∀ c ∈ before, isBlank c = true) ∧ ∀ c ∈ after, isBlank c = true := by
  have hblank : ∀ ds : List Char, ∀ c ∈ ds.takeWhile isBlank, isBlank c = true :=
    fun ds c hc => List.mem_takeWhile_imp hc
  refine ⟨cs.takeWhile isBlank, ((cs.dropWhile isBlank).reverse.takeWhile isBlank).reverse, ?_,
    hblank cs, fun c hc => hblank _ c (List.mem_reverse.1 hc)⟩
  unfold trimBlanks
  rw [List.append_assoc, ← List.reverse_append, List.takeWhile_append_dropWhile,
    List.reverse_reverse, List.takeWhile_append_dropWhile]

theorem isBlank_of_isDigit {c : Char} (hc : c.isDigit = true) : isBlank c = false := by
  have hrange : 48 ≤ c.toNat ∧ c.toNat ≤ 57 := by
    simpa [Char.isDigit, UInt32.le_iff_toNat_le] using hc
  rw [← Bool.not_eq_true, isBlank, CodeRanges.has, CodeRanges.hasCode_iff]
  intro hblank
  obtain ⟨r, hr, hlow, hhigh⟩ := hblank
  -- All ranges of blanks end before the digits or begin behind them.
  have hgap : ∀ r ∈ blankRanges, r.2 < 48 ∨ 57 < r.1 := by decide
  have hr := hgap r hr
  omega

/-! ## Pieces between dots -/

/-- A text is its first piece and then each other piece behind a separator. -/
theorem eq_of_cutAt {separator : Char} {cs first : List Char} {pieces : List (List Char)}
    (h : cutAt separator cs = first :: pieces) :
    cs = first ++ pieces.flatMap (separator :: ·) := by
  induction cs generalizing first pieces with
  | nil =>
    obtain ⟨rfl, rfl⟩ : [] = first ∧ [] = pieces := by simpa [cutAt] using h
    rfl
  | cons c cs ih =>
    cases hcut : cutAt separator cs with
    | nil => exact absurd hcut (cutAt_ne_nil separator cs)
    | cons next later =>
      have hcs := ih hcut
      by_cases hc : c = separator
      · -- The separator ends an empty piece.
        rw [cutAt, if_pos hc, hcut] at h
        obtain ⟨rfl, rfl⟩ := List.cons.inj h
        simp [hc, hcs]
      · rw [cutAt, if_neg hc, hcut] at h
        obtain ⟨rfl, rfl⟩ := List.cons.inj h
        rw [hcs]
        rfl

theorem cutAt_of_notMem {separator : Char} {piece : List Char} (h : separator ∉ piece) :
    cutAt separator piece = [piece] := by
  induction piece with
  | nil => rfl
  | cons c piece ih =>
    have hc : c ≠ separator := fun heq => h (heq ▸ List.mem_cons_self)
    rw [cutAt, if_neg hc, ih fun hmem => h (List.mem_cons_of_mem c hmem)]

theorem cutAt_append_cons {separator : Char} {piece : List Char} (h : separator ∉ piece)
    (rest : List Char) :
    cutAt separator (piece ++ separator :: rest) = piece :: cutAt separator rest := by
  induction piece with
  | nil => rw [List.nil_append, cutAt, if_pos rfl]
  | cons c piece ih =>
    have hc : c ≠ separator := fun heq => h (heq ▸ List.mem_cons_self)
    rw [List.cons_append, cutAt, if_neg hc, ih fun hmem => h (List.mem_cons_of_mem c hmem)]

/-- Pieces without separators are told apart again. -/
theorem cutAt_flatMap {separator : Char} {first : List Char} {pieces : List (List Char)}
    (hfirst : separator ∉ first) (hpieces : ∀ piece ∈ pieces, separator ∉ piece) :
    cutAt separator (first ++ pieces.flatMap (separator :: ·)) = first :: pieces := by
  induction pieces generalizing first with
  | nil => rw [List.flatMap_nil, List.append_nil, cutAt_of_notMem hfirst]
  | cons piece pieces ih =>
    rw [List.flatMap_cons, List.cons_append, cutAt_append_cons hfirst,
      ih (hpieces piece List.mem_cons_self) fun p hp => hpieces p (List.mem_cons_of_mem piece hp)]

/-! ## Spellings of an index -/

theorem decimal?_eq_some_iff {cs : List Char} {n : Nat} : decimal? cs = some n ↔
    cs ≠ [] ∧ (∀ c ∈ cs, c.isDigit = true) ∧ Nat.ofDigitChars 10 cs 0 = n := by
  unfold decimal?
  by_cases hempty : cs.isEmpty = true
  · simp [List.isEmpty_iff.1 hempty]
  · have hne : cs ≠ [] := fun hnil => hempty (List.isEmpty_iff.2 hnil)
    by_cases hall : cs.all Char.isDigit = true
    · have hdigits : ∀ c ∈ cs, c.isDigit = true := List.all_eq_true.1 hall
      rw [if_neg hempty, if_pos hall, Option.some.injEq]
      exact ⟨fun h => ⟨hne, hdigits, h⟩, fun h => h.2.2⟩
    · have hother : ¬ ∀ c ∈ cs, c.isDigit = true := fun h => hall (List.all_eq_true.2 h)
      simp [hempty, hall, hother]

namespace Address

/-- `SpellsIndex piece i`: the text is the index `i` in ASCII digits, with as many zeros in front as
    one likes, and with a plus sign before these or without one. -/
def SpellsIndex (piece : List Char) (i : Nat) : Prop :=
  ∃ sign digits, piece = sign ++ digits ∧ (sign = [] ∨ sign = ['+']) ∧ digits ≠ [] ∧
    (∀ c ∈ digits, c.isDigit = true) ∧ Nat.ofDigitChars 10 digits 0 = i ∧ i < indexBound

/-- `IsDotted text a`: between blanks, the text is the character `0` and then, for each index of
    `a`, a dot and a spelling of the index. -/
def IsDotted (text : String) (a : Address) : Prop :=
  ∃ before pieces after,
    text.toList = before ++ '0' :: pieces.flatMap ('.' :: ·) ++ after ∧
    (∀ c ∈ before, isBlank c = true) ∧ (∀ c ∈ after, isBlank c = true) ∧
    List.Forall₂ SpellsIndex pieces a

variable {piece : List Char} {i : Nat} {a : Address} {text : String}

theorem signedDecimal?_eq_some_iff : signedDecimal? piece = some i ↔
    ∃ sign digits, piece = sign ++ digits ∧ (sign = [] ∨ sign = ['+']) ∧
      decimal? digits = some i := by
  constructor
  · intro h
    unfold signedDecimal? at h
    split at h
    · next cs => exact ⟨['+'], cs, rfl, .inr rfl, h⟩
    · exact ⟨[], piece, rfl, .inl rfl, h⟩
  · intro h
    obtain ⟨sign, digits, rfl, rfl | rfl, hdigits⟩ := h
    · -- The plus sign is no digit, so digits alone are not taken for a sign and the rest.
      rw [List.nil_append]
      unfold signedDecimal?
      split
      · next cs =>
        obtain ⟨_, hall, _⟩ := decimal?_eq_some_iff.1 hdigits
        have hplus : ('+').isDigit = true := hall '+' List.mem_cons_self
        cases hplus
      · exact hdigits
    · exact hdigits

/-- A piece is read as an index if it spells one. -/
theorem index?_eq_some_iff : index? piece = some i ↔ SpellsIndex piece i := by
  unfold index? SpellsIndex
  constructor
  · intro h
    cases hvalue : signedDecimal? piece with
    | none => simp [hvalue] at h
    | some n =>
      obtain ⟨hbound, rfl⟩ : n < indexBound ∧ n = i := by simpa [hvalue] using h
      obtain ⟨sign, digits, hpiece, hsign, hdigits⟩ := signedDecimal?_eq_some_iff.1 hvalue
      obtain ⟨hne, hall, hn⟩ := decimal?_eq_some_iff.1 hdigits
      exact ⟨sign, digits, hpiece, hsign, hne, hall, hn, hbound⟩
  · intro h
    obtain ⟨sign, digits, hpiece, hsign, hne, hall, hi, hbound⟩ := h
    have hvalue : signedDecimal? piece = some i :=
      signedDecimal?_eq_some_iff.2
        ⟨sign, digits, hpiece, hsign, decimal?_eq_some_iff.2 ⟨hne, hall, hi⟩⟩
    simp [hvalue, hbound]

/-- A spelling of an index has no other characters than digits and a plus sign. -/
theorem SpellsIndex.mem (h : SpellsIndex piece i) {c : Char} (hc : c ∈ piece) :
    c = '+' ∨ c.isDigit = true := by
  obtain ⟨sign, digits, rfl, hsign, _, hall, _⟩ := h
  rcases List.mem_append.1 hc with hc | hc
  · rcases hsign with rfl | rfl
    · exact absurd hc List.not_mem_nil
    · exact .inl (List.mem_singleton.1 hc)
  · exact .inr (hall c hc)

/-- No spelling of an index has a dot. -/
theorem SpellsIndex.dot_notMem (h : SpellsIndex piece i) : '.' ∉ piece := by
  intro hdot
  rcases h.mem hdot with hplus | hdigit
  · cases hplus
  · cases hdigit

theorem SpellsIndex.not_isBlank (h : SpellsIndex piece i) {c : Char} (hc : c ∈ piece) :
    isBlank c = false := by
  rcases h.mem hc with rfl | hdigit
  · decide
  · exact isBlank_of_isDigit hdigit

/-- The pieces behind the first one are read one by one. -/
theorem mapM_index?_eq_some_iff {pieces : List (List Char)} :
    pieces.mapM index? = some a ↔ List.Forall₂ SpellsIndex pieces a := by
  induction pieces generalizing a with
  | nil =>
    rw [List.forall₂_nil_left_iff]
    simp [eq_comm]
  | cons piece pieces ih =>
    rw [List.mapM_cons, List.forall₂_cons_left_iff]
    constructor
    · intro h
      obtain ⟨i, hi, h⟩ := Option.bind_eq_some_iff.1 h
      obtain ⟨rest, hrest, h⟩ := Option.bind_eq_some_iff.1 h
      exact ⟨i, rest, index?_eq_some_iff.1 hi, ih.1 hrest, (Option.some.inj h).symm⟩
    · intro h
      obtain ⟨i, rest, hi, hrest, rfl⟩ := h
      rw [index?_eq_some_iff.2 hi, ih.2 hrest]
      rfl

/-- The dotted form is read exactly. -/
theorem ofDotted?_eq_some_iff : ofDotted? text = some a ↔ IsDotted text a := by
  constructor
  · intro h
    obtain ⟨before, after, htext, hbefore, hafter⟩ := exists_trimBlanks text.toList
    unfold ofDotted? at h
    split at h
    · next pieces hcut =>
      refine ⟨before, pieces, after, ?_, hbefore, hafter, mapM_index?_eq_some_iff.1 h⟩
      rw [eq_of_cutAt hcut] at htext
      exact htext
    · cases h
  · intro h
    obtain ⟨before, pieces, after, htext, hbefore, hafter, hpieces⟩ := h
    have hspelled : ∀ piece ∈ pieces, ∃ i, SpellsIndex piece i := by
      intro piece hpiece
      obtain ⟨i, _, hi⟩ := exists_right_of_mem hpieces hpiece
      exact ⟨i, hi⟩
    have hblank : ∀ c ∈ '0' :: pieces.flatMap ('.' :: ·), isBlank c = false := by
      intro c hc
      rcases List.mem_cons.1 hc with rfl | hc
      · decide
      · obtain ⟨piece, hpiece, hc⟩ := List.mem_flatMap.1 hc
        rcases List.mem_cons.1 hc with rfl | hc
        · decide
        · obtain ⟨i, hi⟩ := hspelled piece hpiece
          exact hi.not_isBlank hc
    have hcut : cutAt '.' ('0' :: pieces.flatMap ('.' :: ·)) = ['0'] :: pieces := by
      show cutAt '.' (['0'] ++ pieces.flatMap ('.' :: ·)) = _
      apply cutAt_flatMap (by decide)
      intro piece hpiece
      obtain ⟨i, hi⟩ := hspelled piece hpiece
      exact hi.dot_notMem
    unfold ofDotted?
    rw [htext, trimBlanks_append (List.cons_ne_nil _ _) hblank hbefore hafter, hcut]
    exact mapM_index?_eq_some_iff.2 hpieces

/-! ## Writing an address -/

/-- An index in decimal behind some zeros, and behind a plus sign before these if `plus` says so. -/
def spelling (plus : Bool) (zeros i : Nat) : List Char :=
  (if plus then ['+'] else []) ++ List.replicate zeros '0' ++ i.repr.toList

/-- Zeros in front of a number do not change it. -/
theorem ofDigitChars_zeros (zeros : Nat) (ds : List Char) :
    Nat.ofDigitChars 10 (List.replicate zeros '0' ++ ds) 0 = Nat.ofDigitChars 10 ds 0 := by
  induction zeros with
  | zero => rfl
  | succ zeros ih =>
    rw [List.replicate_succ, List.cons_append, Nat.ofDigitChars_cons]
    exact ih

theorem spellsIndex_spelling (plus : Bool) (zeros : Nat) (hi : i < indexBound) :
    SpellsIndex (spelling plus zeros i) i := by
  refine ⟨if plus then ['+'] else [], List.replicate zeros '0' ++ i.repr.toList, ?_, ?_, ?_, ?_, ?_,
    hi⟩
  · exact List.append_assoc _ _ _
  · cases plus with
    | false => exact .inl rfl
    | true => exact .inr rfl
  · obtain ⟨c, tail, hrepr, _⟩ := exists_repr_eq_cons i
    simp [hrepr]
  · intro c hc
    rcases List.mem_append.1 hc with hc | hc
    · rw [List.eq_of_mem_replicate hc]
      rfl
    · exact isDigit_of_mem_repr hc
  · rw [ofDigitChars_zeros, toList_repr, Nat.ofDigitChars_ten_toDigits]

/-- The dotted form that is written has no blanks, no plus signs and no zeros in front. -/
theorem toList_dotted (a : Address) :
    a.dotted.toList = '0' :: (a.map (spelling false 0)).flatMap ('.' :: ·) := by
  rw [dotted, String.toList_intercalate, List.map_cons, List.map_map]
  exact intercalate_cons ['.'] ['0'] _

/-- However the indices of an address are spelled, the address is read. -/
theorem isDotted_of_spellings {before after : List Char} {pieces : List (List Char)}
    (hbound : ∀ i ∈ a, i < indexBound) (hbefore : ∀ c ∈ before, isBlank c = true)
    (hafter : ∀ c ∈ after, isBlank c = true)
    (hpieces : List.Forall₂ (fun piece i => ∃ plus zeros, piece = spelling plus zeros i) pieces a) :
    IsDotted (String.ofList (before ++ '0' :: pieces.flatMap ('.' :: ·) ++ after)) a := by
  refine ⟨before, pieces, after, String.toList_ofList, hbefore, hafter, ?_⟩
  refine List.forall₂_iff_get.2 ⟨hpieces.length_eq, ?_⟩
  intro k hk hk'
  obtain ⟨plus, zeros, hpiece⟩ := (List.forall₂_iff_get.1 hpieces).2 k hk hk'
  rw [hpiece]
  exact spellsIndex_spelling plus zeros (hbound _ (List.get_mem _ _))

theorem isDotted_dotted (hbound : ∀ i ∈ a, i < indexBound) : IsDotted a.dotted a := by
  have hspelled : List.Forall₂ (fun piece i => ∃ plus zeros, piece = spelling plus zeros i)
      (a.map (spelling false 0)) a := by
    rw [List.forall₂_map_left_iff, List.forall₂_same]
    exact fun i _ => ⟨false, 0, rfl⟩
  have hnone : ∀ c ∈ ([] : List Char), isBlank c = true := fun _ hc => absurd hc List.not_mem_nil
  have hread := isDotted_of_spellings hbound hnone hnone hspelled
  rwa [List.nil_append, List.append_nil, ← toList_dotted, String.ofList_toList] at hread

end Address

/-! ## Reading -/

theorem AddressRecord.toAddress_dotted (text : String) :
    (AddressRecord.dotted text).toAddress =
      match Address.ofDotted? text with
      | some a => .ok a
      | none => .error (.invalidAddress text) := rfl

/-- **Dotted addresses**: a text is read as the address that it is the dotted form of, and refused
    if it is none; the refusal names the text as it was given. What is written for an address is
    read as this address, and so is every text that has blanks around it, plus signs before its
    indices or zeros in front of them. -/
theorem dotted_form_read_exactly :
    (∀ text a, (AddressRecord.dotted text).toAddress = .ok a ↔ Address.IsDotted text a) ∧
    (∀ text e, (AddressRecord.dotted text).toAddress = .error e ↔
      e = .invalidAddress text ∧ ¬ ∃ a, Address.IsDotted text a) ∧
    ∀ a : Address, (∀ i ∈ a, i < indexBound) →
      (AddressRecord.dotted a.dotted).toAddress = .ok a ∧
      ∀ before pieces after, (∀ c ∈ before, isBlank c = true) → (∀ c ∈ after, isBlank c = true) →
        List.Forall₂ (fun piece i => ∃ plus zeros, piece = Address.spelling plus zeros i) pieces a →
        (AddressRecord.dotted
          (String.ofList (before ++ '0' :: pieces.flatMap ('.' :: ·) ++ after))).toAddress =
            .ok a := by
  have hread : ∀ text a,
      (AddressRecord.dotted text).toAddress = .ok a ↔ Address.IsDotted text a := by
    intro text a
    rw [← Address.ofDotted?_eq_some_iff, AddressRecord.toAddress_dotted]
    cases Address.ofDotted? text <;> simp
  refine ⟨hread, ?_, ?_⟩
  · intro text e
    simp only [← Address.ofDotted?_eq_some_iff, AddressRecord.toAddress_dotted]
    cases Address.ofDotted? text <;> simp [eq_comm]
  · intro a hbound
    refine ⟨(hread _ _).2 (Address.isDotted_dotted hbound), ?_⟩
    intro before pieces after hbefore hafter hpieces
    exact (hread _ _).2 (Address.isDotted_of_spellings hbound hbefore hafter hpieces)

/-- An ideographic blank, a plus sign and zeros are read over. -/
theorem dotted_form_read_exactly_padded :
    (∀ i ∈ [7, 12], i < indexBound) ∧ (∀ c ∈ ['\u3000', ' '], isBlank c = true) ∧
    List.Forall₂ (fun piece i => ∃ plus zeros, piece = Address.spelling plus zeros i)
      [['+', '0', '0', '7'], ['1', '2']] [7, 12] ∧
    (AddressRecord.dotted (String.ofList (['\u3000', ' '] ++
      '0' :: [['+', '0', '0', '7'], ['1', '2']].flatMap ('.' :: ·) ++ ['\n']))).toAddress =
        .ok [7, 12] ∧
    ¬ ∃ a, Address.IsDotted "00.1" a := by
  have hbound : ∀ i ∈ [7, 12], i < indexBound := by decide
  have hbefore : ∀ c ∈ ['\u3000', ' '], isBlank c = true :=
    List.all_eq_true.1 (by decide)
  have hafter : ∀ c ∈ ['\n'], isBlank c = true := List.all_eq_true.1 (by decide)
  have hpieces : List.Forall₂ (fun piece i => ∃ plus zeros, piece = Address.spelling plus zeros i)
      [['+', '0', '0', '7'], ['1', '2']] [7, 12] :=
    .cons ⟨true, 2, by decide +kernel⟩ (.cons ⟨false, 0, by decide +kernel⟩ .nil)
  have hrefused : (AddressRecord.dotted "00.1").toAddress = .error (.invalidAddress "00.1") := by
    decide +kernel
  obtain ⟨_, herror, hwritten⟩ := dotted_form_read_exactly
  exact ⟨hbound, hbefore, hpieces, (hwritten _ hbound).2 _ _ _ hbefore hafter hpieces,
    ((herror _ _).1 hrefused).2⟩

end SpineGrammar
