import SpineGrammar.Proofs.Lexemes

/-!
# Written values are read back

A value that the notation can tell (`Legible`) is written as a text that is read as this value,
whatever level of nesting it is written at and whatever may stand behind it (`Legible.reads`). The
reader takes one step for each value and for each part, and two characters of the text pay for them.
-/

namespace SpineGrammar.Snapshot.Value

variable {d : Dialect} {steps n : Nat}

/-! ## Legible values -/

/-- Whether a text is a word without a meaning of its own. -/
structure IsFree (name : String) : Prop extends IsWord name where
  no_constant : constant? ⟨name, false⟩ = none
  ne_some : name ≠ "Some"

/-- `Legible n v`: the notation can tell the value `v`, and reading it goes down `n` levels at
    most. -/
inductive Legible : (nesting : Nat) → Value → Prop where
  | bool {n : Nat} (b : Bool) : Legible n (.bool b)
  | word {n : Nat} {name : String} : IsFree name → Legible n (.word name)
  | nat {n k : Nat} : k < indexBound → Legible n (.nat k)
  | text {n : Nat} (s : String) : Legible n (.text s)
  | absent {n : Nat} : Legible n .absent
  | present {n : Nat} {v : Value} : Legible n v → Legible (n + 1) (.present v)
  | list {n : Nat} {items : List Value} : (∀ v ∈ items, Legible n v) → Legible (n + 2) (.list items)
  | map {n : Nat} {entries : List (Value × Value)} : (∀ e ∈ entries, Legible n e.1) →
      (∀ e ∈ entries, Legible n e.2) → Legible (n + 2) (.map entries)
  | tuple {n : Nat} {name : Option String} {items : List Value} : (∀ w ∈ name, IsFree w) →
      (∀ v ∈ items, Legible n v) → Legible (n + 2) (.tuple name items)
  | record {n : Nat} {name : Option String} {fields : List (String × Value)} :
      (∀ w ∈ name, IsFree w) → fields ≠ [] → (∀ f ∈ fields, IsWord f.1) →
      (∀ f ∈ fields, Legible n f.2) → Legible (n + 2) (.record name fields)

/-- `Reads d n level v`: what is written of `v` on a line at a level of nesting is read as `v`. -/
structure Reads (d : Dialect) (n level : Nat) (v : Value) : Prop where
  opens : Opens (write level v)
  read : ∀ steps rest, Ends rest → 2 * (write level v).length ≤ steps →
    value? d steps n (write level v ++ rest) = some (v, rest)

/-! ## Parts

What the readers of parts do with one more part, or with none.
-/

section Parts

variable {blanks cs more behind : List Char} {v k : Value} {items : List Value}
  {entries : List (Value × Value)} {fields : List (String × Value)} {closing : Char}

theorem items?_nil (hblanks : Blank blanks) (hclosing : isSpace closing = false)
    (hslash : closing ≠ '/') :
    items? d (steps + 1) n closing (blanks ++ closing :: behind) = some ([], behind) := by
  rw [items?, skip?_blanks hblanks hclosing hslash]
  simp

theorem items?_cons (hblanks : Blank blanks) (hopens : Opens cs)
    (hclosing : isOpening closing = false) (hv : value? d steps n cs = some (v, ',' :: more))
    (hitems : items? d steps (n + 1) closing more = some (items, behind)) :
    items? d (steps + 1) (n + 1) closing (blanks ++ cs) = some (v :: items, behind) := by
  obtain ⟨c, tail, rfl, hc, hskip⟩ := hopens.exists_skip? hblanks
  have hne : c ≠ closing := ne_of_isOpening hc hclosing
  rw [items?, hskip]
  simp only [Option.bind_eq_bind, Option.bind_some, if_neg hne, below?, hv]
  rw [skip?_cons rfl (by decide)]
  simp only [Option.bind_some, hitems]
  rfl

theorem items?_last (hblanks : Blank blanks) (hopens : Opens cs)
    (hv : value? d steps n cs = some (v, ')' :: behind)) :
    items? d (steps + 1) (n + 1) ')' (blanks ++ cs) = some ([v], behind) := by
  obtain ⟨c, tail, rfl, hc, hskip⟩ := hopens.exists_skip? hblanks
  have hne : c ≠ ')' := ne_of_isOpening hc rfl
  rw [items?, hskip]
  simp only [Option.bind_eq_bind, Option.bind_some, if_neg hne, below?, hv]
  rw [skip?_cons rfl (by decide)]
  rfl

theorem fields?_nil (hblanks : Blank blanks) :
    fields? d (steps + 1) n (blanks ++ ')' :: behind) = some ([], behind) := by
  rw [fields?, skip?_blanks hblanks rfl (by decide)]
  rfl

theorem fields?_cons {name : String} (hblanks : Blank blanks) (hname : IsWord name)
    (hv : value? d steps n cs = some (v, ',' :: more))
    (hfields : fields? d steps (n + 1) more = some (fields, behind)) :
    fields? d (steps + 1) (n + 1) (blanks ++ (name.toList ++ ':' :: cs)) =
      some ((name, v) :: fields, behind) := by
  have hskip := skip?_opens hblanks hname.opens (':' :: cs)
  have hfield : fieldName? (name.toList ++ ':' :: cs) = some (name, cs) := fieldName?_colon hname
  obtain ⟨c, tail, htail, hc⟩ := hname.opens
  rw [htail, List.cons_append] at hskip hfield
  rw [fields?, htail, List.cons_append, hskip]
  simp only [Option.bind_eq_bind, Option.bind_some]
  split
  · next heq =>
    obtain ⟨rfl, _⟩ := List.cons.inj heq
    cases hc
  · rw [hfield]
    simp only [Option.bind_some, below?, hv]
    rw [skip?_cons rfl (by decide)]
    simp only [Option.bind_some, hfields]
    rfl

theorem entries?_nil (hblanks : Blank blanks) :
    entries? d (steps + 1) n (blanks ++ '\x7d' :: behind) = some ([], behind) := by
  rw [entries?, skip?_blanks hblanks rfl (by decide)]
  rfl

theorem entries?_cons {vs : List Char} (hblanks : Blank blanks) (hopens : Opens cs)
    (hk : value? d steps n cs = some (k, ':' :: vs))
    (hv : value? d steps n vs = some (v, ',' :: more))
    (hentries : entries? d steps (n + 1) more = some (entries, behind)) :
    entries? d (steps + 1) (n + 1) (blanks ++ cs) = some ((k, v) :: entries, behind) := by
  obtain ⟨c, tail, rfl, hc, hskip⟩ := hopens.exists_skip? hblanks
  rw [entries?, hskip]
  simp only [Option.bind_eq_bind, Option.bind_some]
  split
  · next heq =>
    obtain ⟨rfl, _⟩ := List.cons.inj heq
    cases hc
  · simp only [below?, Option.bind_some, hk]
    rw [skip?_cons rfl (by decide)]
    simp only [Option.bind_some, hv]
    rw [skip?_cons rfl (by decide)]
    simp only [Option.bind_some, hentries]
    rfl

/-- Blanks in front of a value do not matter. -/
theorem value?_blanks (hblanks : Blank blanks) (hcs : Opens cs) :
    value? d steps n (blanks ++ (cs ++ more)) = value? d steps n (cs ++ more) := by
  cases steps with
  | zero => rw [value?, value?]
  | succ steps => rw [value?, value?, skip?_opens hblanks hcs, hcs.skip?]

/-- Blanks in front of the first field do not matter. -/
theorem fields?_blanks (hblanks : Blank blanks) (hcs : Opens cs) :
    fields? d steps n (blanks ++ (cs ++ more)) = fields? d steps n (cs ++ more) := by
  cases steps with
  | zero => rw [fields?, fields?]
  | succ steps => rw [fields?, fields?, skip?_opens hblanks hcs, hcs.skip?]

end Parts

/-! ## Lines

Each part with its comma and the end of its line is read, then the parts behind it. The blanks in
front of a part are those at the end of the line before it and its own margin.
-/

section Lines

variable {k level : Nat} {before after rest : List Char}

theorem length_line (level : Nat) (part : List Char) :
    (line level part).length = 4 * level + part.length + 2 := by
  simp only [line, margin, List.length_append, List.length_replicate, List.length_cons,
    List.length_nil]

theorem blank_newline : Blank ['\n'] := by decide

theorem blank_space : Blank [' '] := by decide

theorem items?_writeLines {items : List Value} (hreads : ∀ v ∈ items, Reads d n level v)
    (hbefore : Blank before) (hafter : Blank after)
    (hsteps : 2 * (writeLines level items).length < k) :
    items? d k (n + 1) ']' (before ++ (writeLines level items ++ (after ++ ']' :: rest))) =
      some (items, rest) := by
  induction items generalizing before k with
  | nil =>
    obtain ⟨s, rfl⟩ := Nat.exists_eq_add_one_of_ne_zero (n := k) (by omega)
    rw [writeLines, List.nil_append, ← List.append_assoc]
    exact items?_nil (hbefore.append hafter) rfl (by decide)
  | cons v items ih =>
    obtain ⟨s, rfl⟩ := Nat.exists_eq_add_one_of_ne_zero (n := k) (by omega)
    have hv : Reads d n level v := hreads v List.mem_cons_self
    have htext : before ++ (writeLines level (v :: items) ++ (after ++ ']' :: rest)) =
        (before ++ margin level) ++ (write level v ++ ',' :: (['\n'] ++
          (writeLines level items ++ (after ++ ']' :: rest)))) := by
      simp [writeLines, line]
    rw [writeLines, List.length_append, length_line] at hsteps
    have hvalue := hv.read s _ (ends_comma (['\n'] ++ (writeLines level items ++
      (after ++ ']' :: rest)))) (by omega)
    have hrest := ih (k := s) (fun w hw => hreads w (List.mem_cons_of_mem v hw))
      blank_newline (by omega)
    rw [htext]
    exact items?_cons (hbefore.append (blank_margin level)) (hv.opens.append _) rfl hvalue hrest

theorem fields?_writeFields {fields : List (String × Value)} (hnames : ∀ f ∈ fields, IsWord f.1)
    (hreads : ∀ f ∈ fields, Reads d n level f.2) (hbefore : Blank before) (hafter : Blank after)
    (hsteps : 2 * (writeFields level fields).length < k) :
    fields? d k (n + 1) (before ++ (writeFields level fields ++ (after ++ ')' :: rest))) =
      some (fields, rest) := by
  induction fields generalizing before k with
  | nil =>
    obtain ⟨s, rfl⟩ := Nat.exists_eq_add_one_of_ne_zero (n := k) (by omega)
    rw [writeFields, List.nil_append, ← List.append_assoc]
    exact fields?_nil (hbefore.append hafter)
  | cons f fields ih =>
    obtain ⟨name, v⟩ := f
    obtain ⟨s, rfl⟩ := Nat.exists_eq_add_one_of_ne_zero (n := k) (by omega)
    have hv : Reads d n level v := hreads _ List.mem_cons_self
    have htext : before ++ (writeFields level ((name, v) :: fields) ++ (after ++ ')' :: rest)) =
        (before ++ margin level) ++ (name.toList ++ ':' :: ([' '] ++ (write level v ++ ',' ::
          (['\n'] ++ (writeFields level fields ++ (after ++ ')' :: rest)))))) := by
      simp [writeFields, line]
    rw [writeFields, List.length_append, length_line, List.length_append, List.length_cons,
      List.length_cons] at hsteps
    have hvalue := hv.read s _ (ends_comma (['\n'] ++ (writeFields level fields ++
      (after ++ ')' :: rest)))) (by omega)
    rw [← value?_blanks blank_space hv.opens] at hvalue
    have hrest := ih (k := s) (fun g hg => hnames g (List.mem_cons_of_mem _ hg))
      (fun g hg => hreads g (List.mem_cons_of_mem _ hg)) blank_newline (by omega)
    rw [htext]
    exact fields?_cons (hbefore.append (blank_margin level)) (hnames _ List.mem_cons_self) hvalue
      hrest

theorem entries?_writeEntries {entries : List (Value × Value)}
    (hkeys : ∀ e ∈ entries, Reads d n level e.1) (hvalues : ∀ e ∈ entries, Reads d n level e.2)
    (hbefore : Blank before) (hafter : Blank after)
    (hsteps : 2 * (writeEntries level entries).length < k) :
    entries? d k (n + 1)
        (before ++ (writeEntries level entries ++ (after ++ '\x7d' :: rest))) =
      some (entries, rest) := by
  induction entries generalizing before k with
  | nil =>
    obtain ⟨s, rfl⟩ := Nat.exists_eq_add_one_of_ne_zero (n := k) (by omega)
    rw [writeEntries, List.nil_append, ← List.append_assoc]
    exact entries?_nil (hbefore.append hafter)
  | cons e entries ih =>
    obtain ⟨key, v⟩ := e
    obtain ⟨s, rfl⟩ := Nat.exists_eq_add_one_of_ne_zero (n := k) (by omega)
    have hk : Reads d n level key := hkeys _ List.mem_cons_self
    have hv : Reads d n level v := hvalues _ List.mem_cons_self
    have htext : before ++ (writeEntries level ((key, v) :: entries) ++ (after ++ '\x7d' :: rest)) =
        (before ++ margin level) ++ (write level key ++ ':' :: ([' '] ++ (write level v ++ ',' ::
          (['\n'] ++ (writeEntries level entries ++ (after ++ '\x7d' :: rest)))))) := by
      simp [writeEntries, line]
    rw [writeEntries, List.length_append, length_line, List.length_append, List.length_cons,
      List.length_cons] at hsteps
    have hkey := hk.read s _ (ends_colon ([' '] ++ (write level v ++ ',' :: (['\n'] ++
      (writeEntries level entries ++ (after ++ '\x7d' :: rest)))))) (by omega)
    have hvalue := hv.read s _ (ends_comma (['\n'] ++ (writeEntries level entries ++
      (after ++ '\x7d' :: rest)))) (by omega)
    rw [← value?_blanks blank_space hv.opens] at hvalue
    have hrest := ih (k := s) (fun e he => hkeys e (List.mem_cons_of_mem _ he))
      (fun e he => hvalues e (List.mem_cons_of_mem _ he)) blank_newline (by omega)
    rw [htext]
    exact entries?_cons (hbefore.append (blank_margin level)) (hk.opens.append _) hkey hvalue hrest

/-- The items of a group stand on one line, and the last one has no comma. -/
theorem items?_writeItems {items : List Value} (hreads : ∀ v ∈ items, Reads d n level v)
    (hbefore : Blank before) (hsteps : 2 * (writeItems level items).length < k) :
    items? d k (n + 1) ')' (before ++ (writeItems level items ++ ')' :: rest)) =
      some (items, rest) := by
  induction items generalizing before k with
  | nil =>
    obtain ⟨s, rfl⟩ := Nat.exists_eq_add_one_of_ne_zero (n := k) (by omega)
    exact items?_nil hbefore rfl (by decide)
  | cons v items ih =>
    obtain ⟨s, rfl⟩ := Nat.exists_eq_add_one_of_ne_zero (n := k) (by omega)
    have hv : Reads d n level v := hreads v List.mem_cons_self
    cases items with
    | nil =>
      rw [writeItems] at hsteps ⊢
      exact items?_last hbefore (hv.opens.append _) (hv.read s _ (ends_close rest) (by omega))
    | cons w items =>
      have hitems : writeItems level (v :: w :: items) =
          write level v ++ ',' :: ([' '] ++ writeItems level (w :: items)) := by
        rw [writeItems]
        · rfl
        · exact nofun
      have htext : before ++ (writeItems level (v :: w :: items) ++ ')' :: rest) =
          before ++ (write level v ++ ',' :: ([' '] ++ (writeItems level (w :: items) ++
            ')' :: rest))) := by
        rw [hitems]
        simp
      rw [hitems, List.length_append, List.length_cons, List.length_append] at hsteps
      have hvalue := hv.read s _ (ends_comma ([' '] ++ (writeItems level (w :: items) ++
        ')' :: rest))) (by omega)
      have hrest := ih (k := s) (fun w hw => hreads w (List.mem_cons_of_mem v hw))
        blank_space (by omega)
      rw [htext]
      exact items?_cons hbefore (hv.opens.append _) rfl hvalue hrest

end Lines

/-! ## How values start -/

/-- Between the opening and the closing character of a block stand its lines, with nothing but
    blanks around them. -/
theorem exists_block_eq (level : Nat) (opening closing : Char) (lines : List Char) :
    ∃ before after, Blank before ∧ Blank after ∧
      block level opening closing lines =
        opening :: (before ++ (lines ++ (after ++ [closing]))) := by
  unfold block
  split
  · next h =>
    rw [List.isEmpty_iff] at h
    exact ⟨[], [], blank_nil, blank_nil, by simp [h]⟩
  · exact ⟨['\n'], margin level, blank_newline, blank_margin level, by simp⟩

/-- A block with what stands behind it, as its parts are read. -/
theorem exists_block_append (level : Nat) (opening closing : Char) (lines : List Char) :
    ∃ before after, Blank before ∧ Blank after ∧
      lines.length + 2 ≤ (block level opening closing lines).length ∧
      ∀ rest, block level opening closing lines ++ rest =
        opening :: (before ++ (lines ++ (after ++ closing :: rest))) := by
  obtain ⟨before, after, hbefore, hafter, hblock⟩ := exists_block_eq level opening closing lines
  refine ⟨before, after, hbefore, hafter, ?_, ?_⟩
  · rw [hblock]
    simp only [List.length_cons, List.length_append, List.length_nil]
    omega
  · intro rest
    simp [hblock]

/-- A written value starts with a word that ends there or in front of a parenthesis, or with a
    character that starts no word. -/
theorem Legible.start {v : Value} (h : Legible n v) (level : Nat) :
    (∃ name tail, IsWord name ∧ write level v = name.toList ++ tail ∧
      (tail = [] ∨ ∃ inside, tail = '(' :: inside)) ∨
    ∃ c tail, write level v = c :: tail ∧ isWordStart c = false ∧ isOpening c = true := by
  cases h with
  | bool b =>
    cases b with
    | false => exact .inl ⟨"false", [], by decide, rfl, .inl rfl⟩
    | true => exact .inl ⟨"true", [], by decide, rfl, .inl rfl⟩
  | @word _ name hname =>
    exact .inl ⟨name, [], hname.toIsWord, by rw [write, List.append_nil], .inl rfl⟩
  | @nat _ k hk =>
    obtain ⟨c, tail, hrepr, hdigit⟩ := exists_repr_eq_cons k
    exact .inr ⟨c, tail, hrepr, isWordStart_of_isDigit hdigit, isOpening_of_isDigit hdigit⟩
  | text s => exact .inr ⟨_, _, rfl, rfl, rfl⟩
  | absent => exact .inl ⟨"None", [], by decide, rfl, .inl rfl⟩
  | @present _ v h =>
    refine .inl ⟨"Some", '(' :: (write level v ++ [')']), by decide, ?_, .inr ⟨_, rfl⟩⟩
    rw [write, List.append_assoc, List.cons_append]
  | @list _ items h =>
    obtain ⟨_, _, _, _, hblock⟩ := exists_block_eq level '[' ']' (writeLines (level + 1) items)
    exact .inr ⟨_, _, by rw [write, hblock], rfl, rfl⟩
  | @map _ entries h =>
    obtain ⟨_, _, _, _, hblock⟩ :=
      exists_block_eq level '\x7b' '\x7d' (writeEntries (level + 1) entries)
    exact .inr ⟨_, _, by rw [write, hblock], rfl, rfl⟩
  | @tuple _ name items hname _ =>
    cases name with
    | none => exact .inr ⟨_, _, rfl, rfl, rfl⟩
    | some w =>
      refine .inl ⟨w, '(' :: (writeItems level items ++ [')']), (hname w rfl).toIsWord, ?_,
        .inr ⟨_, rfl⟩⟩
      rw [write, List.append_assoc]
      rfl
  | @record _ name fields hname _ =>
    obtain ⟨_, _, _, _, hblock⟩ := exists_block_eq level '(' ')' (writeFields (level + 1) fields)
    cases name with
    | none => exact .inr ⟨'(', _, by rw [write, hblock]; rfl, rfl, rfl⟩
    | some w =>
      exact .inl ⟨w, '(' :: _, (hname w rfl).toIsWord, by rw [write, hblock]; rfl, .inr ⟨_, rfl⟩⟩

theorem Legible.opens {v : Value} (h : Legible n v) (level : Nat) : Opens (write level v) := by
  rcases h.start level with ⟨name, tail, hname, htext, _⟩ | ⟨c, tail, htext, _, hc⟩
  · rw [htext]
    exact hname.opens.append tail
  · exact ⟨c, tail, htext, hc⟩

/-- A written value is not taken for the name of a field. -/
theorem Legible.fieldName?_write {v : Value} (h : Legible n v) (level : Nat) {rest : List Char}
    (hrest : Stops rest) (hcolon : rest.head? ≠ some ':') :
    fieldName? (write level v ++ rest) = none := by
  rcases h.start level with ⟨name, tail, hname, htext, htail⟩ | ⟨c, tail, htext, hc, _⟩
  · rw [htext, List.append_assoc]
    rcases htail with rfl | ⟨inside, rfl⟩
    · exact fieldName?_word hname hrest hcolon
    · exact fieldName?_word hname (stops_open _) (by simp)
  · rw [htext, List.cons_append]
    exact fieldName?_of_not_start hc

/-- No blanks stand in front of the items of a group, and the items are not taken for fields. -/
theorem writeItems_start {items : List Value} (h : ∀ v ∈ items, Legible n v) (level : Nat)
    (rest : List Char) :
    skip? (writeItems level items ++ ')' :: rest) = some (writeItems level items ++ ')' :: rest) ∧
      fieldName? (writeItems level items ++ ')' :: rest) = none := by
  match items with
  | [] => exact ⟨skip?_cons rfl (by decide), rfl⟩
  | [v] =>
    have hv : Legible n v := h v List.mem_cons_self
    rw [writeItems]
    exact ⟨(hv.opens level).skip? _, hv.fieldName?_write level (ends_close rest).1 (by simp)⟩
  | v :: w :: items =>
    have hv : Legible n v := h v List.mem_cons_self
    rw [writeItems, List.append_assoc]
    · exact ⟨(hv.opens level).skip? _, hv.fieldName?_write level (ends_comma _).1 (by simp)⟩
    · exact nofun

/-- Behind the blanks in front of the fields of a record stands the name of the first, with its
    colon. -/
theorem exists_writeFields_eq {fields : List (String × Value)} (hne : fields ≠ [])
    (hnames : ∀ f ∈ fields, IsWord f.1) {before : List Char} (hbefore : Blank before) (level : Nat)
    (behind : List Char) :
    ∃ blanks w, Blank blanks ∧ IsWord w ∧ ∃ more,
      before ++ (writeFields level fields ++ behind) = blanks ++ (w.toList ++ ':' :: more) := by
  obtain ⟨⟨w, v⟩, fields, rfl⟩ := List.exists_cons_of_ne_nil hne
  refine ⟨before ++ margin level, w, hbefore.append (blank_margin level),
    hnames _ List.mem_cons_self, ?_⟩
  rw [writeFields, line]
  simp only [List.append_assoc, List.cons_append]
  exact ⟨_, rfl⟩

/-! ## One form of value at a time -/

section Forms

variable {cs more behind rest : List Char} {v : Value} {items : List Value}
  {entries : List (Value × Value)} {fields : List (String × Value)} {name : Option String}

/-- What a word means depends on what stands behind it only if it has no meaning of its own. -/
theorem value?_word {w : String} (hw : IsWord w) :
    Stops rest → value? d (steps + 1) n (w.toList ++ rest) =
      match constant? ⟨w, false⟩ with
      | some v => some (v, rest)
      | none =>
        if w = "Some" then present? d steps n rest
        else
          match rest with
          | '(' :: rest => (below? n).bind fun n => group? d steps n (some w) rest
          | _ => some (.word w, rest) := by
  intro hrest
  have hskip := hw.opens.skip? rest
  have hraw := rawText?_append hw hrest
  have hword := word?_append hw hrest
  obtain ⟨c, cs, hcs, hstart, _⟩ := hw.exists_cons
  rw [value?, hskip]
  simp only [Option.bind_eq_bind, Option.bind_some]
  split
  -- The first character is a letter or an underscore, so the six marked forms are out.
  iterate 6
    next heq =>
      rw [hcs] at heq
      obtain ⟨rfl, _⟩ := List.cons.inj heq
      cases hstart
  rw [hraw, hword]
  simp only [skip?_of_stops hrest, Option.bind_some, Option.pure_def]
  cases constant? ⟨w, false⟩ with
  | some v => rfl
  | none =>
    by_cases hsome : w = "Some"
    · rw [if_pos hsome]
      exact if_pos ⟨hsome, by simp⟩
    · rw [if_neg hsome]
      exact if_neg fun h => hsome h.1

theorem value?_free {w : String} (hw : IsFree w) (hrest : Ends rest) :
    value? d (steps + 1) n (w.toList ++ rest) = some (.word w, rest) := by
  rw [value?_word hw.toIsWord hrest.1, hw.no_constant]
  simp only [hw.ne_some, if_false]
  split
  · exact absurd rfl hrest.2
  · rfl

theorem value?_named {w : String} (hw : IsFree w) :
    value? d (steps + 1) (n + 2) (w.toList ++ '(' :: cs) = group? d steps (n + 1) (some w) cs := by
  rw [value?_word hw.toIsWord (stops_open cs), hw.no_constant]
  simp only [hw.ne_some, if_false]
  rfl

theorem value?_nat {k : Nat} (hk : k < indexBound) (hrest : Stops rest) :
    value? d (steps + 1) n (k.repr.toList ++ rest) = some (.nat k, rest) := by
  have hskip := (opens_repr k).skip? rest
  have hnumber := number?_append hk hrest
  obtain ⟨c, tail, hrepr, hdigit⟩ := exists_repr_eq_cons k
  rw [value?, hskip]
  rw [hrepr, List.cons_append] at hnumber ⊢
  have hraw : rawText? (c :: (tail ++ rest)) = none := by
    unfold rawText?
    split
    · next heq =>
      obtain ⟨rfl, _⟩ := List.cons.inj heq
      cases hdigit
    · rfl
  simp only [Option.bind_eq_bind, Option.bind_some]
  split
  iterate 6
    next heq =>
      obtain ⟨rfl, _⟩ := List.cons.inj heq
      cases hdigit
  rw [hraw, word?_of_not_start (isWordStart_of_isDigit hdigit)]
  exact hnumber

theorem value?_text (s : String) :
    value? d (steps + 1) n (Quoted.quote s ++ rest) = some (.text s, rest) := by
  have hbody := Quoted.body?_escapeAll s.toList rest
  have htext : Quoted.quote s ++ rest = '"' :: (Quoted.escapeAll s.toList ++ '"' :: rest) := by
    simp [Quoted.quote]
  rw [htext, value?, skip?_cons rfl (by decide)]
  simp only [Option.bind_eq_bind, Option.bind_some, hbody, Option.pure_def, String.ofList_toList]

theorem value?_present (h : value? d steps n cs = some (v, ')' :: behind)) :
    value? d (steps + 2) (n + 1) ("Some".toList ++ '(' :: cs) = some (.present v, behind) := by
  rw [value?_word (by decide) (stops_open cs)]
  show present? d (steps + 1) (n + 1) ('(' :: cs) = some (.present v, behind)
  rw [present?, skip?_cons rfl (by decide)]
  simp only [Option.bind_eq_bind, Option.bind_some, below?, h]
  rw [skip?_cons rfl (by decide)]
  rfl

theorem value?_list (h : items? d steps (n + 1) ']' cs = some (items, behind)) :
    value? d (steps + 1) (n + 2) ('[' :: cs) = some (.list items, behind) := by
  rw [value?, skip?_cons rfl (by decide)]
  simp only [Option.bind_eq_bind, Option.bind_some, below?, h]
  rfl

theorem value?_map (h : entries? d steps (n + 1) cs = some (entries, behind)) :
    value? d (steps + 1) (n + 2) ('\x7b' :: cs) = some (.map entries, behind) := by
  rw [value?, skip?_cons rfl (by decide)]
  simp only [Option.bind_eq_bind, Option.bind_some, below?, h]
  rfl

theorem value?_empty :
    value? d (steps + 1) n ('(' :: ')' :: rest) = some (.tuple none [], rest) := by
  rw [value?, skip?_cons rfl (by decide)]
  rfl

theorem value?_unnamed (hcs : cs.head? ≠ some ')') :
    value? d (steps + 1) (n + 2) ('(' :: cs) = group? d steps (n + 1) none cs := by
  rw [value?, skip?_cons rfl (by decide)]
  cases cs with
  | nil => rfl
  | cons c cs =>
    have hc : c ≠ ')' := by simpa using hcs
    simp [hc, below?]

theorem group?_record (hskip : skip? cs = some more) (hname : fieldName? more ≠ none)
    (h : fields? d steps n more = some (fields, behind)) :
    group? d (steps + 1) n name cs = some (.record name fields, behind) := by
  rw [group?, hskip]
  simp only [Option.bind_eq_bind, Option.bind_some]
  split
  · rw [h]
    rfl
  · next heq => exact absurd heq hname

theorem group?_tuple (hskip : skip? cs = some more) (hname : fieldName? more = none)
    (h : items? d steps n ')' more = some (items, behind)) :
    group? d (steps + 1) n name cs = some (.tuple name items, behind) := by
  rw [group?, hskip]
  simp only [Option.bind_eq_bind, Option.bind_some, hname, h]
  rfl

/-- A group is read after its name, or after its parenthesis if it has none. -/
theorem value?_group (hname : ∀ w ∈ name, IsFree w) (hcs : cs.head? ≠ some ')') :
    value? d (steps + 1) (n + 2) ((name.getD "").toList ++ '(' :: cs) =
      group? d steps (n + 1) name cs := by
  cases name with
  | some w => exact value?_named (hname w rfl)
  | none => exact value?_unnamed hcs

theorem value?_tuple (hname : ∀ w ∈ name, IsFree w) (hskip : skip? cs = some cs)
    (hfield : fieldName? cs = none) (h : items? d steps (n + 1) ')' cs = some (items, behind)) :
    value? d (steps + 2) (n + 2) ((name.getD "").toList ++ '(' :: cs) =
      some (.tuple name items, behind) := by
  have hgroup : group? d (steps + 1) (n + 1) name cs = some (.tuple name items, behind) :=
    group?_tuple hskip hfield h
  by_cases hcs : cs.head? = some ')'
  · -- Nothing stands in the parentheses, which the reader only asks of a group without a name.
    obtain ⟨more, rfl⟩ := List.head?_eq_some_iff.1 hcs
    cases name with
    | some w => exact (value?_named (hname w rfl)).trans hgroup
    | none =>
      cases steps with
      | zero =>
        rw [items?] at h
        cases h
      | succ steps =>
        have hnil : items? d (steps + 1) (n + 1) ')' (')' :: more) = some ([], more) :=
          items?_nil blank_nil rfl (by decide)
        obtain ⟨rfl, rfl⟩ := Prod.mk.inj (Option.some.inj (hnil.symm.trans h))
        exact value?_empty
  · exact (value?_group hname hcs).trans hgroup

/-- The name of a field with its colon is what tells a record from a group of items. -/
theorem value?_record {blanks : List Char} {w : String} (hname : ∀ w ∈ name, IsFree w)
    (hblanks : Blank blanks) (hw : IsWord w)
    (h : fields? d steps (n + 1) (blanks ++ (w.toList ++ ':' :: more)) = some (fields, behind)) :
    value? d (steps + 2) (n + 2)
        ((name.getD "").toList ++ '(' :: (blanks ++ (w.toList ++ ':' :: more))) =
      some (.record name fields, behind) := by
  have hfield : fieldName? (w.toList ++ ':' :: more) ≠ none := by
    rw [fieldName?_colon hw]
    exact nofun
  rw [fields?_blanks hblanks hw.opens] at h
  rw [value?_group hname (hw.opens.head?_ne_close hblanks (':' :: more))]
  exact group?_record (skip?_opens hblanks hw.opens (':' :: more)) hfield h

end Forms

/-! ## All values

A value is read if its parts are, one lemma for each form that has parts.
-/

namespace Reads

variable {level : Nat} {v : Value} {items : List Value} {entries : List (Value × Value)}
  {fields : List (String × Value)} {name : Option String}

/-- The text of a value has at least one character, so there is a step to begin with. -/
theorem of_succ (h : Legible n v)
    (hread : ∀ s rest, Ends rest → 2 * (write level v).length ≤ s + 1 →
      value? d (s + 1) n (write level v ++ rest) = some (v, rest)) : Reads d n level v := by
  refine ⟨h.opens level, ?_⟩
  intro steps rest hrest hsteps
  have hlength : 0 < (write level v).length := (h.opens level).length_pos
  obtain ⟨s, rfl⟩ := Nat.exists_eq_add_one_of_ne_zero (n := steps) (by omega)
  exact hread s rest hrest hsteps

theorem present (h : Legible n v) (hread : Reads d n level v) :
    Reads d (n + 1) level (.present v) := by
  refine .of_succ (.present h) ?_
  intro s rest hrest hsteps
  have htext : write level (.present v) ++ rest =
      "Some".toList ++ '(' :: (write level v ++ ')' :: rest) := by
    simp [write]
  have hsome : "Some".toList.length = 4 := rfl
  rw [write, List.length_append, List.length_append, List.length_cons, hsome] at hsteps
  obtain ⟨s, rfl⟩ := Nat.exists_eq_add_one_of_ne_zero (n := s) (by omega)
  rw [htext]
  exact value?_present (hread.read s _ (ends_close rest) (by omega))

theorem list (h : ∀ v ∈ items, Legible n v) (hreads : ∀ v ∈ items, Reads d n (level + 1) v) :
    Reads d (n + 2) level (.list items) := by
  refine .of_succ (.list h) ?_
  intro s rest hrest hsteps
  obtain ⟨before, after, hbefore, hafter, hlength, hblock⟩ :=
    exists_block_append level '[' ']' (writeLines (level + 1) items)
  rw [write] at hsteps ⊢
  rw [hblock]
  exact value?_list (items?_writeLines hreads hbefore hafter (by omega))

theorem map (hk : ∀ e ∈ entries, Legible n e.1) (hv : ∀ e ∈ entries, Legible n e.2)
    (hkeys : ∀ e ∈ entries, Reads d n (level + 1) e.1)
    (hvalues : ∀ e ∈ entries, Reads d n (level + 1) e.2) :
    Reads d (n + 2) level (.map entries) := by
  refine .of_succ (.map hk hv) ?_
  intro s rest hrest hsteps
  obtain ⟨before, after, hbefore, hafter, hlength, hblock⟩ :=
    exists_block_append level '\x7b' '\x7d' (writeEntries (level + 1) entries)
  rw [write] at hsteps ⊢
  rw [hblock]
  exact value?_map (entries?_writeEntries hkeys hvalues hbefore hafter (by omega))

theorem tuple (hname : ∀ w ∈ name, IsFree w) (h : ∀ v ∈ items, Legible n v)
    (hreads : ∀ v ∈ items, Reads d n level v) : Reads d (n + 2) level (.tuple name items) := by
  refine .of_succ (.tuple hname h) ?_
  intro s rest hrest hsteps
  have htext : write level (.tuple name items) ++ rest =
      (name.getD "").toList ++ '(' :: (writeItems level items ++ ')' :: rest) := by
    simp [write]
  simp only [write, List.length_append, List.length_cons, List.length_nil] at hsteps
  obtain ⟨s, rfl⟩ := Nat.exists_eq_add_one_of_ne_zero (n := s) (by omega)
  have hitems : items? d s (n + 1) ')' ([] ++ (writeItems level items ++ ')' :: rest)) =
      some (items, rest) := items?_writeItems hreads blank_nil (by omega)
  obtain ⟨hskip, hfield⟩ := writeItems_start h level rest
  rw [htext]
  exact value?_tuple hname hskip hfield hitems

theorem record (hname : ∀ w ∈ name, IsFree w) (hne : fields ≠ [])
    (hnames : ∀ f ∈ fields, IsWord f.1) (h : ∀ f ∈ fields, Legible n f.2)
    (hreads : ∀ f ∈ fields, Reads d n (level + 1) f.2) :
    Reads d (n + 2) level (.record name fields) := by
  refine .of_succ (.record hname hne hnames h) ?_
  intro s rest hrest hsteps
  obtain ⟨before, after, hbefore, hafter, hlength, hblock⟩ :=
    exists_block_append level '(' ')' (writeFields (level + 1) fields)
  have htext : write level (.record name fields) ++ rest = (name.getD "").toList ++
      '(' :: (before ++ (writeFields (level + 1) fields ++ (after ++ ')' :: rest))) := by
    rw [write, List.append_assoc, hblock]
  rw [write, List.length_append] at hsteps
  obtain ⟨s, rfl⟩ := Nat.exists_eq_add_one_of_ne_zero (n := s) (by omega)
  have hfields : fields? d s (n + 1)
      (before ++ (writeFields (level + 1) fields ++ (after ++ ')' :: rest))) =
      some (fields, rest) := fields?_writeFields hnames hreads hbefore hafter (by omega)
  obtain ⟨blanks, w, hblanks, hw, more, hstart⟩ :=
    exists_writeFields_eq hne hnames hbefore (level + 1) (after ++ ')' :: rest)
  rw [hstart] at hfields
  rw [htext, hstart]
  exact value?_record hname hblanks hw hfields

end Reads

/-- What is written of a value is read as this value. The induction is on the value; each of its
    parts is written one level further in, so the level varies. -/
theorem Legible.reads {v : Value} (h : Legible n v) (d : Dialect) (level : Nat) :
    Reads d n level v := by
  induction h generalizing level with
  | bool b =>
    refine .of_succ (.bool b) ?_
    intro s rest hrest _
    cases b with
    | false => exact value?_word (w := "false") (by decide) hrest.1
    | true => exact value?_word (w := "true") (by decide) hrest.1
  | word hw =>
    refine .of_succ (.word hw) ?_
    intro s rest hrest _
    rw [write]
    exact value?_free hw hrest
  | nat hk =>
    refine .of_succ (.nat hk) ?_
    exact fun s rest hrest _ => value?_nat hk hrest.1
  | text body =>
    refine .of_succ (.text body) ?_
    exact fun s rest _ _ => value?_text body
  | absent =>
    refine .of_succ .absent ?_
    exact fun s rest hrest _ => value?_word (w := "None") (by decide) hrest.1
  | present h ih => exact .present h (ih level)
  | list h ih => exact .list h fun v hv => ih v hv (level + 1)
  | map hk hv ihk ihv =>
    have hkeys := fun e he => ihk e he (level + 1)
    have hvalues := fun e he => ihv e he (level + 1)
    exact .map hk hv hkeys hvalues
  | tuple hname h ih => exact .tuple hname h fun v hv => ih v hv level
  | record hname hne hnames h ih =>
    exact .record hname hne hnames h fun f hf => ih f hf (level + 1)

/-- A written value with no attributes in front is read as this value, with nothing left out. -/
theorem ofString?_render {v : Value} (h : Legible nestingLimit v) :
    ofString? (render v) = some (.full, v) := by
  have hread := (h.reads .full 0).read (2 * (write 0 v).length + 2) [] ends_nil (by omega)
  have hskip := (h.opens 0).skip? []
  rw [List.append_nil] at hread hskip
  have hattributes : attributes? ((write 0 v).length + 1) .full (write 0 v) =
      some (.full, write 0 v) := by
    rw [attributes?, hskip]
    simp only [Option.bind_eq_bind, Option.bind_some]
    split
    · next heq =>
      obtain ⟨c, tail, htext, hc⟩ := h.opens 0
      obtain ⟨rfl, _⟩ := List.cons.inj (htext.symm.trans heq)
      cases hc
    · rfl
  rw [ofString?, render, String.toList_ofList]
  simp only [Option.bind_eq_bind, hattributes, Option.bind_some, hread, skip?_nil]
  rfl

end SpineGrammar.Snapshot.Value
