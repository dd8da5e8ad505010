import SpineGrammar.Grammar.Basic
import SpineGrammar.Proofs.RecordTrees

/-!
# Grammars of records

What a grammar that was built from records holds: the trees of the records that are read, in order,
less those that the options do not let through and those that were seen before.
-/

namespace SpineGrammar

/-! ## Choosing from a list by a test that may fault -/

section Choosing

variable {ε α : Type} [DecidableEq ε] {p : α → Except ε Bool} {xs ys : List α}

theorem filterAuxM_eq_ok_iff {seen : List α} : xs.filterAuxM p seen = .ok ys ↔
    (∀ x ∈ xs, ∃ b, p x = .ok b) ∧ ys = (xs.filter (p · = .ok true)).reverse ++ seen := by
  induction xs generalizing seen with
  | nil => simp [List.filterAuxM, eq_comm]
  | cons x xs ih =>
    rw [List.filterAuxM, bind_eq_ok_iff]
    cases hx : p x with
    | error e => simp [hx]
    | ok b =>
      cases b with
      | false => simp [hx, ih]
      | true => simp [hx, ih]

/-- The test has to have a result on each element, and those that pass are kept in order. -/
theorem filterM_eq_ok_iff : xs.filterM p = .ok ys ↔
    (∀ x ∈ xs, ∃ b, p x = .ok b) ∧ ys = xs.filter (p · = .ok true) := by
  rw [List.filterM, bind_eq_ok_iff]
  simp only [filterAuxM_eq_ok_iff, pure_eq_ok, Except.ok.injEq, List.append_nil]
  constructor
  · intro h
    obtain ⟨_, ⟨hall, rfl⟩, rfl⟩ := h
    exact ⟨hall, List.reverse_reverse _⟩
  · intro h
    obtain ⟨hall, rfl⟩ := h
    exact ⟨_, ⟨hall, rfl⟩, List.reverse_reverse _⟩

end Choosing

/-! ## The stages of building a grammar -/

/-- The records that are read. -/
def Config.read (config : Config) (records : List TreeRecord) : List TreeRecord :=
  match config.limit with
  | some n => records.take n
  | none => records

namespace Grammar

variable {config : Config} {m : Matcher} {patterns : List m.Pattern} {records : List TreeRecord}
  {g : Grammar} {t : Tree} {ts kept : List Tree}

theorem liftRecord_eq_ok_iff {α : Type} {x : Attempt RecordError α} {a : α} :
    liftRecord x = .ok a ↔ x = .ok a := by
  match x with
  | .ok a' => simp [liftRecord]
  | .error (.fault f) => simp [liftRecord]
  | .error (.refused e) => simp [liftRecord]

/-- The trees of records are the trees of one of them. -/
theorem exists_record_of_mem {index : Nat} (h : recordTrees index records = .ok ts)
    (ht : t ∈ ts) : ∃ r ∈ records, ∃ i own, r.trees i = .ok own ∧ t ∈ own := by
  induction records generalizing index ts with
  | nil =>
    obtain rfl := Except.ok.inj h
    cases ht
  | cons r records ih =>
    obtain ⟨own, hown, h⟩ := bind_eq_ok_iff.1 h
    obtain ⟨rest, hrest, h⟩ := bind_eq_ok_iff.1 h
    obtain rfl := Except.ok.inj h
    rcases List.mem_append.1 ht with ht | ht
    · exact ⟨r, List.mem_cons_self, index, own, hown, ht⟩
    · obtain ⟨r', hr', hrecord⟩ := ih hrest ht
      exact ⟨r', List.mem_cons_of_mem r hr', hrecord⟩

theorem sound_of_mem_recordTrees {index : Nat} (h : recordTrees index records = .ok ts)
    (ht : t ∈ ts) : t.Sound := by
  obtain ⟨r, _, i, own, hown, hmem⟩ := exists_record_of_mem h ht
  exact (TreeRecord.linear_trees hown t hmem).sound

/-- Dropping what was seen takes trees out and leaves the others in order. -/
theorem sublist_of_firstOfEach {key : Tree → Checked String} {seen : List String}
    (h : firstOfEach key seen ts = .ok kept) : kept.Sublist ts := by
  induction ts generalizing seen kept with
  | nil =>
    obtain rfl := Except.ok.inj h
    exact .slnil
  | cons t ts ih =>
    obtain ⟨k, _, h⟩ := bind_eq_ok_iff.1 h
    split at h
    · exact (ih h).cons t
    · obtain ⟨rest, hrest, h⟩ := bind_eq_ok_iff.1 h
      obtain rfl := Except.ok.inj h
      exact (ih hrest).cons_cons t

theorem trees_of_ofTrees {startLabel : String} (h : ofTrees ts startLabel = .ok g) :
    g.trees = ts := by
  obtain ⟨entries, hentries, hg⟩ := bind_eq_ok_iff.1 h
  obtain rfl := Except.ok.inj hg
  have hsame : List.Forall₂ (fun t e => t = e.2) ts entries := by
    refine (mapM_eq_ok_iff.1 hentries).imp ?_
    intro t e hentry
    obtain ⟨label, _, hentry⟩ := bind_eq_ok_iff.1 hentry
    obtain rfl := Except.ok.inj hentry
    rfl
  show entries.map (·.2) = ts
  rw [eq_comm, ← List.forall₂_eq_eq_eq, List.forall₂_map_right_iff]
  exact hsame

/-- The stages: the trees of the records that are read, then those that pass, then those that are
    kept. -/
theorem ofRecords_eq_ok_iff : ofRecords records config m = .ok g ↔
    ∃ patterns trees passed kept, Config.compile config.treePatterns m = .ok patterns ∧
      recordTrees 0 (config.read records) = .ok trees ∧
      trees.filterM (passes config patterns) = .ok passed ∧
      (if config.dedupe then firstOfEach Tree.fingerprint [] passed else .ok passed) = .ok kept ∧
      ofTrees kept config.startLabel = .ok g := by
  unfold ofRecords
  cases hcompile : Config.compile config.treePatterns m with
  | error text => simp [Attempt.refuse]
  | ok patterns =>
    simp only [bind_eq_ok_iff, liftRecord_eq_ok_iff, ofChecked_eq_ok_iff, keep, Except.ok.injEq,
      pure_eq_ok]
    constructor
    · intro h
      obtain ⟨trees, htrees, kept, ⟨passed, hpassed, hkept⟩, hg⟩ := h
      exact ⟨patterns, trees, passed, kept, rfl, htrees, hpassed, hkept, hg⟩
    · intro h
      obtain ⟨_, trees, passed, kept, rfl, htrees, hpassed, hkept, hg⟩ := h
      exact ⟨trees, htrees, kept, ⟨passed, hpassed, hkept⟩, hg⟩

/-- A tree of a grammar of records is a tree of the records that passes. -/
theorem passes_of_mem (h : ofRecords records config m = .ok g) (ht : t ∈ g.trees) :
    t.Sound ∧ ∃ patterns : List m.Pattern, passes config patterns t = .ok true := by
  obtain ⟨patterns, trees, passed, kept, _, htrees, hpassed, hkept, hg⟩ :=
    ofRecords_eq_ok_iff.1 h
  obtain rfl := trees_of_ofTrees hg
  obtain ⟨_, rfl⟩ := filterM_eq_ok_iff.1 hpassed
  have hmem : t ∈ trees.filter (passes config patterns · = .ok true) := by
    split at hkept
    · exact (sublist_of_firstOfEach hkept).subset ht
    · rw [Except.ok.inj hkept]
      exact ht
  obtain ⟨hmem, hpasses⟩ := List.mem_filter.1 hmem
  exact ⟨sound_of_mem_recordTrees htrees hmem, patterns, of_decide_eq_true hpasses⟩

end Grammar

end SpineGrammar
