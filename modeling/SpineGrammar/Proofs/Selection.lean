import SpineGrammar.Proofs.Duplicates
import SpineGrammar.Proofs.Lexicalization

/-!
# Which trees a grammar is built from

Building a grammar from records ends in one of three ways. A text that is no pattern is found before
any record is looked at; then a record that cannot be turned into trees is found, whether or not its
trees would have been kept. Otherwise the grammar has the trees of the records that are read, in
order, less those that the options do not let through and, if duplicates are dropped, less those
that are not the first of their key among the trees that are let through. So further records only
add trees at the end, and copies of records add none. All of this holds whatever the patterns are
and whatever they match.
-/

namespace SpineGrammar

/-! ## The loops over patterns and over records -/

variable {m : Matcher}

/-- The texts are read as the patterns, one by one. -/
def AllRead (texts : List String) (patterns : List m.Pattern) : Prop :=
  List.Forall₂ (fun text p => m.read? text = some p) texts patterns

/-- What compiling does with one text. -/
def Matcher.compileOne (m : Matcher) (text : String) : Except String m.Pattern :=
  match m.read? text with
  | some p => .ok p
  | none => .error text

namespace Matcher

theorem compileOne_eq_ok_iff {text : String} {p : m.Pattern} :
    m.compileOne text = .ok p ↔ m.read? text = some p := by
  unfold compileOne
  cases m.read? text <;> simp

theorem compileOne_eq_error_iff {text e : String} :
    m.compileOne text = .error e ↔ m.read? text = none ∧ e = text := by
  unfold compileOne
  cases m.read? text <;> simp [eq_comm]

end Matcher

theorem Config.compile_eq_mapM (texts : List String) (m : Matcher) :
    Config.compile texts m = texts.mapM m.compileOne := by
  induction texts with
  | nil => rfl
  | cons text texts ih =>
    rw [compile, List.mapM_cons, ih]
    unfold Matcher.compileOne
    cases m.read? text <;> rfl

/-- The records, of which the first is the `index`-th, come to the lists of trees, one by one. -/
def AllTrees (index : Nat) (records : List TreeRecord) (owns : List (List Tree)) : Prop :=
  List.Forall₂ (fun e own => e.1.trees e.2 = .ok own) (records.zipIdx index) owns

namespace Grammar

variable {records before after : List TreeRecord} {record : TreeRecord} {index : Nat}
  {owns : List (List Tree)} {ts passed kept : List Tree} {t : Tree} {e : RecordError}
  {config : Config} {patterns : List m.Pattern} {g : Grammar} {out : Attempt GrammarError Grammar}

theorem recordTrees_eq_mapM (index : Nat) (records : List TreeRecord) :
    recordTrees index records =
      ((records.zipIdx index).mapM fun e => e.1.trees e.2) >>= fun owns => .ok owns.flatten := by
  induction records generalizing index with
  | nil => rfl
  | cons r rest ih =>
    rw [recordTrees, ih, List.zipIdx_cons, List.mapM_cons]
    simp only [bind_assoc, pure_eq_ok, ok_bind, List.flatten_cons]

theorem recordTrees_eq_ok_iff : recordTrees index records = .ok ts ↔
    ∃ owns, AllTrees index records owns ∧ ts = owns.flatten := by
  rw [recordTrees_eq_mapM, bind_eq_ok_iff]
  simp only [mapM_eq_ok_iff, Except.ok.injEq, AllTrees, @eq_comm _ ts]

/-- The first record that does not come to trees stops the loop. -/
theorem recordTrees_of_first {halt : Halt RecordError} (after : List TreeRecord)
    (hbefore : AllTrees index before owns)
    (hhalt : record.trees (index + before.length) = .error halt) :
    recordTrees index (before ++ record :: after) = .error halt := by
  have hloop : ((before ++ record :: after).zipIdx index).mapM (fun e => e.1.trees e.2) =
      .error halt := by
    rw [List.zipIdx_append, List.zipIdx_cons]
    exact mapM_of_first (f := fun e : TreeRecord × Nat => e.1.trees e.2) hbefore hhalt
  rw [recordTrees_eq_mapM, hloop]
  rfl

end Grammar

/-! ## Which trees pass -/

/-- The options let the tree through: its labels and those that its rules wait for are allowed, and
    if there are patterns, its text matches one. -/
def Config.Admits (config : Config) (patterns : List m.Pattern) (t : Tree) : Prop :=
  (∃ labels, t.labelSet = .ok labels ∧ config.allows labels = true) ∧
    (patterns = [] ∨ ∃ text, t.text = .ok text ∧ ∃ p ∈ patterns, m.matchesIn p text = true)

instance (config : Config) (patterns : List m.Pattern) : DecidablePred (config.Admits patterns) :=
  fun t => inferInstanceAs (Decidable
    ((∃ labels, t.labelSet = .ok labels ∧ config.allows labels = true) ∧
      (patterns = [] ∨ ∃ text, t.text = .ok text ∧ ∃ p ∈ patterns, m.matchesIn p text = true)))

/-- Of the trees that pass all are kept, or if duplicates are dropped the first of each key. -/
def Config.Keeps (config : Config) (passed kept : List Tree) : Prop :=
  (config.dedupe = true → KeepsFirst (SameKey Tree.fingerprint) passed kept) ∧
    (config.dedupe = false → kept = passed)

namespace Grammar

variable {config : Config} {patterns : List m.Pattern} {ts passed kept : List Tree} {t : Tree}
  {g : Grammar} {startLabel : String}

theorem passes_of_sound (ht : t.Sound) :
    passes config patterns t = .ok (decide (config.Admits patterns t)) := by
  obtain ⟨b, hunfold, _⟩ := ht.exists_denotes
  obtain ⟨text, htext⟩ := ht.exists_text
  obtain ⟨labels, hlabels⟩ : ∃ labels, t.labelSet = .ok labels :=
    ⟨_, by rw [Tree.labelSet, Tree.depthFirst_eq_ok hunfold]; rfl⟩
  unfold passes Config.Admits
  simp only [hlabels, ok_bind, htext, Except.ok.injEq, exists_eq_left']
  by_cases hallows : config.allows labels = true
  · by_cases hpatterns : patterns = []
    · simp [hallows, hpatterns]
    · have hsome : patterns.isEmpty = false := by simpa using hpatterns
      simp [hallows, hpatterns, hsome, List.any_eq]
  · simp [hallows]

theorem exists_fingerprint (ht : t.Sound) : ∃ k, t.fingerprint = .ok k := by
  obtain ⟨b, hunfold, _⟩ := ht.exists_denotes
  exact ⟨_, Tree.fingerprint_eq hunfold⟩

theorem keep_eq_ok_iff (hts : ∀ t ∈ ts, t.Sound) : keep config patterns ts = .ok kept ↔
    config.Keeps (ts.filter fun t => config.Admits patterns t) kept := by
  have hfilter : ts.filterM (passes config patterns) =
      .ok (ts.filter fun t => config.Admits patterns t) := by
    refine filterM_eq_ok_iff.2 ⟨fun t ht => ⟨_, passes_of_sound (hts t ht)⟩, ?_⟩
    apply List.filter_congr
    intro t ht
    rw [passes_of_sound (hts t ht)]
    by_cases hadmits : config.Admits patterns t <;> simp [hadmits]
  have hkeys : ∀ t ∈ ts.filter fun t => config.Admits patterns t, ∃ k, t.fingerprint = .ok k :=
    fun t ht => exists_fingerprint (hts t (List.mem_filter.1 ht).1)
  unfold keep Config.Keeps
  rw [hfilter, ok_bind]
  cases config.dedupe with
  | true => simp [firstOfEach_eq_ok_iff hkeys]
  | false => simp [eq_comm]

theorem ofTrees_eq_ok_iff : ofTrees kept startLabel = .ok g ↔
    g.trees = kept ∧ g.startLabel = startLabel ∧ ∀ e ∈ g.entries, e.2.label = .ok e.1 := by
  constructor
  · intro h
    have htrees := trees_of_ofTrees h
    have hlabels : ∀ e ∈ g.entries, e.2.label = .ok e.1 := fun e he => (of_mem_ofTrees h he).2
    obtain ⟨entries, _, hg⟩ := bind_eq_ok_iff.1 h
    obtain rfl := Except.ok.inj hg
    exact ⟨htrees, rfl, hlabels⟩
  · intro h
    obtain ⟨entries, label⟩ := g
    obtain ⟨rfl, rfl, hlabels⟩ := h
    have hread : (entries.map (·.2)).mapM (fun t => return (← t.label, t)) =
        (.ok entries : Checked (List (String × Tree))) := by
      rw [mapM_eq_ok_iff, List.forall₂_map_left_iff, List.forall₂_same]
      intro e he
      rw [hlabels e he]
      rfl
    show ((entries.map (·.2)).mapM (fun t => return (← t.label, t)) >>= _) = _
    rw [hread]
    rfl

theorem exists_keeps (config : Config) (hpassed : ∀ t ∈ passed, t.Sound) :
    ∃ kept, config.Keeps passed kept := by
  obtain ⟨kept, hkept⟩ := exists_firstOfEach [] fun t ht => exists_fingerprint (hpassed t ht)
  unfold Config.Keeps
  cases config.dedupe with
  | true => exact ⟨kept, fun _ => keepsFirst_append .nil (by simp) hkept, (fun h => nomatch h)⟩
  | false => exact ⟨passed, (fun h => nomatch h), fun _ => rfl⟩

theorem subset_of_keeps (h : config.Keeps passed kept) : kept ⊆ passed := by
  cases hdedupe : config.dedupe with
  | true => exact (h.1 hdedupe).subset
  | false =>
    rw [h.2 hdedupe]
    exact List.Subset.refl _

/-- What is kept of the trees that pass is kept when more pass, before anything else. -/
theorem exists_start_of_keeps {more rest : List Tree} (h : config.Keeps (passed ++ more) rest) :
    ∃ kept, config.Keeps passed kept ∧ kept <+: rest := by
  unfold Config.Keeps at h ⊢
  cases hdedupe : config.dedupe with
  | true =>
    obtain ⟨kept, hkept, hprefix⟩ := (h.1 hdedupe).exists_start
    exact ⟨kept, ⟨fun _ => hkept, (fun h => nomatch h)⟩, hprefix⟩
  | false =>
    rw [h.2 hdedupe]
    exact ⟨passed, ⟨(fun h => nomatch h), fun _ => rfl⟩, List.prefix_append _ _⟩

/-- If duplicates are dropped, trees that are in the list already are not kept again. -/
theorem keeps_append_of_subset {more : List Tree} (hpassed : ∀ t ∈ passed, t.Sound)
    (hdedupe : config.dedupe = true) (h : config.Keeps passed kept) (hmore : more ⊆ passed) :
    config.Keeps (passed ++ more) kept := by
  refine ⟨fun _ => ?_, fun hfalse => ?_⟩
  · refine (h.1 hdedupe).append ?_
    intro t ht
    refine (h.1 hdedupe).exists_mem ?_ (hmore ht)
    intro u hu
    obtain ⟨k, hk⟩ := exists_fingerprint (hpassed u hu)
    exact ⟨k, hk, hk⟩
  · rw [hdedupe] at hfalse
    cases hfalse

/-! ## How building ends -/

/-- `Builds records config m out`: building the grammar of the records, with the patterns of `m`,
    ends with `out`. -/
inductive Builds (records : List TreeRecord) (config : Config) (m : Matcher) :
    Attempt GrammarError Grammar → Prop where
  | badPattern {before after : List String} {text : String} {patterns : List m.Pattern} :
      config.treePatterns = before ++ text :: after → AllRead before patterns →
      m.read? text = none →
      Builds records config m (.error (.refused (.badPattern text)))
  | badRecord {patterns : List m.Pattern} {before after : List TreeRecord} {record : TreeRecord}
      {owns : List (List Tree)} {e : RecordError} :
      AllRead config.treePatterns patterns →
      config.read records = before ++ record :: after → AllTrees 0 before owns →
      record.trees before.length = .error (.refused e) →
      Builds records config m (.error (.refused (.record e)))
  | built {patterns : List m.Pattern} {owns : List (List Tree)} {g : Grammar} :
      AllRead config.treePatterns patterns → AllTrees 0 (config.read records) owns →
      config.Keeps (owns.flatten.filter fun t => config.Admits patterns t) g.trees →
      g.startLabel = config.startLabel → (∀ e ∈ g.entries, e.2.label = .ok e.1) →
      Builds records config m (.ok g)

variable {records before after : List TreeRecord} {record : TreeRecord} {index : Nat}
  {owns : List (List Tree)} {e : RecordError} {out : Attempt GrammarError Grammar}

theorem compile_of_allRead {texts : List String} (h : AllRead texts patterns) :
    Config.compile texts m = .ok patterns := by
  rw [Config.compile_eq_mapM, mapM_eq_ok_iff]
  exact h.imp fun _ _ => Matcher.compileOne_eq_ok_iff.2

theorem compile_of_first {first later : List String} {text : String}
    (hfirst : AllRead first patterns) (htext : m.read? text = none) :
    Config.compile (first ++ text :: later) m = .error text := by
  rw [Config.compile_eq_mapM]
  exact mapM_of_first (hfirst.imp fun _ _ => Matcher.compileOne_eq_ok_iff.2)
    (Matcher.compileOne_eq_error_iff.2 ⟨htext, rfl⟩)

/-- What comes after the patterns have been read. -/
theorem ofRecords_of_compile (h : Config.compile config.treePatterns m = .ok patterns) :
    ofRecords records config m = liftRecord (recordTrees 0 (config.read records)) >>= fun trees =>
      Attempt.ofChecked (keep config patterns trees) >>= fun kept =>
        Attempt.ofChecked (ofTrees kept config.startLabel) := by
  unfold ofRecords
  rw [h]
  rfl

/-- The first record that does not come to trees tells how building ends. -/
theorem ofRecords_of_first {halt : Halt RecordError}
    (hpatterns : AllRead config.treePatterns patterns)
    (hsplit : config.read records = before ++ record :: after) (hbefore : AllTrees 0 before owns)
    (hhalt : record.trees before.length = .error halt) :
    ofRecords records config m = liftRecord (.error halt) := by
  rw [← Nat.zero_add (List.length _)] at hhalt
  rw [ofRecords_of_compile (compile_of_allRead hpatterns), hsplit,
    recordTrees_of_first _ hbefore hhalt]
  cases halt <;> rfl

theorem sound_of_mem_flatten (h : AllTrees index records owns) : ∀ t ∈ owns.flatten, t.Sound :=
  fun _ ht => sound_of_mem_recordTrees (recordTrees_eq_ok_iff.2 ⟨owns, h, rfl⟩) ht

theorem ofRecords_of_builds (h : Builds records config m out) :
    ofRecords records config m = out := by
  cases h with
  | badPattern htexts hfirst htext =>
    unfold ofRecords
    rw [htexts, compile_of_first hfirst htext]
    rfl
  | badRecord hpatterns hsplit hbefore he => exact ofRecords_of_first hpatterns hsplit hbefore he
  | built hpatterns howns hkeeps hstart hlabels =>
    have htrees := recordTrees_eq_ok_iff.2 ⟨_, howns, rfl⟩
    have hkept := (keep_eq_ok_iff (sound_of_mem_flatten howns)).2 hkeeps
    have hmade := ofTrees_eq_ok_iff.2 ⟨rfl, hstart, hlabels⟩
    rw [ofRecords_of_compile (compile_of_allRead hpatterns), htrees]
    show (Attempt.ofChecked (keep config _ _) >>= _) = _
    rw [hkept]
    show Attempt.ofChecked (ofTrees _ _) = _
    rw [hmade]
    rfl

/-- All records come to trees, or there is a first that does not. -/
theorem allTrees_or_exists_first (records : List TreeRecord) (index : Nat) :
    (∃ owns, AllTrees index records owns) ∨
      ∃ before record after owns halt, records = before ++ record :: after ∧
        AllTrees index before owns ∧ record.trees (index + before.length) = .error halt := by
  rcases forall₂_ok_or_exists_first (fun e : TreeRecord × Nat => e.1.trees e.2)
    (records.zipIdx index) with hall | hfirst
  · exact .inl hall
  · obtain ⟨first, last, rest, owns, halt, hsplit, hfirst, hhalt⟩ := hfirst
    obtain ⟨before, others, rfl, rfl, hothers⟩ := List.zipIdx_eq_append_iff.1 hsplit
    obtain ⟨record, after, rfl, rfl, _⟩ := List.zipIdx_eq_cons_iff.1 hothers.symm
    exact .inr ⟨before, record, after, owns, halt, rfl, hfirst, hhalt⟩

/-- Where all patterns are read and all records come to trees, there is a grammar. -/
theorem exists_built (hpatterns : AllRead config.treePatterns patterns)
    (howns : AllTrees 0 (config.read records) owns) : ∃ g, Builds records config m (.ok g) := by
  have hsound : ∀ t ∈ owns.flatten.filter fun t => config.Admits patterns t, t.Sound :=
    fun t ht => sound_of_mem_flatten howns t (List.mem_filter.1 ht).1
  obtain ⟨kept, hkept⟩ := exists_keeps config hsound
  obtain ⟨g, hg⟩ := exists_ofTrees (fun t ht => hsound t (subset_of_keeps hkept ht))
    config.startLabel
  obtain ⟨rfl, hstart, hlabels⟩ := ofTrees_eq_ok_iff.1 hg
  exact ⟨g, .built hpatterns howns hkept hstart hlabels⟩

/-- All patterns are read, or there is a first text that is none. -/
theorem allRead_or_builds (records : List TreeRecord) (config : Config) (m : Matcher) :
    (∃ patterns : List m.Pattern, AllRead config.treePatterns patterns) ∨
      ∃ text, Builds records config m (.error (.refused (.badPattern text))) := by
  rcases forall₂_ok_or_exists_first m.compileOne config.treePatterns with hall | hfirst
  · obtain ⟨patterns, hread⟩ := hall
    exact .inl ⟨patterns, hread.imp fun _ _ => Matcher.compileOne_eq_ok_iff.1⟩
  · obtain ⟨first, text, later, patterns, e, htexts, hfirst, htext⟩ := hfirst
    exact .inr ⟨text, .badPattern htexts (hfirst.imp fun _ _ => Matcher.compileOne_eq_ok_iff.1)
      (Matcher.compileOne_eq_error_iff.1 htext).1⟩

/-- Building ends in one of these ways. -/
theorem exists_builds (hfits : ∀ r ∈ config.read records, r.CountsFit) :
    ∃ out, Builds records config m out := by
  rcases allRead_or_builds records config m with hread | hbad
  · obtain ⟨patterns, hpatterns⟩ := hread
    rcases allTrees_or_exists_first (config.read records) 0 with hall | hfirst
    · obtain ⟨owns, howns⟩ := hall
      obtain ⟨g, hg⟩ := exists_built hpatterns howns
      exact ⟨_, hg⟩
    · obtain ⟨before, record, after, owns, halt, hsplit, hbefore, hhalt⟩ := hfirst
      have hfits : record.CountsFit := hfits record (by simp [hsplit])
      rw [Nat.zero_add] at hhalt
      rcases hfits.trees_outcome before.length with hok | hrefused
      · obtain ⟨ts, hts⟩ := hok
        cases hts.symm.trans hhalt
      · obtain ⟨e, he⟩ := hrefused
        exact ⟨_, .badRecord hpatterns hsplit hbefore he⟩
  · obtain ⟨text, hbad⟩ := hbad
    exact ⟨_, hbad⟩

/-- Building ends in one of these ways only. -/
theorem ofRecords_eq_iff (hfits : ∀ r ∈ config.read records, r.CountsFit) :
    ofRecords records config m = out ↔ Builds records config m out := by
  constructor
  · intro h
    obtain ⟨out', hout'⟩ := exists_builds (m := m) hfits
    rw [← h, ofRecords_of_builds hout']
    exact hout'
  · exact ofRecords_of_builds

/-! ## More records -/

/-- Records that are not read do not matter. -/
theorem ofRecords_congr {records' : List TreeRecord}
    (h : config.read records = config.read records') :
    ofRecords records config m = ofRecords records' config m := by
  cases hcompile : Config.compile config.treePatterns m with
  | error text =>
    unfold ofRecords
    rw [hcompile]
  | ok patterns => rw [ofRecords_of_compile hcompile, ofRecords_of_compile hcompile, h]

theorem allTrees_append {records' : List TreeRecord}
    (h : AllTrees index (records ++ records') owns) : ∃ first later, owns = first ++ later ∧
      AllTrees index records first ∧ AllTrees (index + records.length) records' later := by
  unfold AllTrees at h
  rw [List.zipIdx_append] at h
  have hfirst := List.forall₂_take_append _ _ _ h.flip
  have hlater := List.forall₂_drop_append _ _ _ h.flip
  exact ⟨_, _, (List.take_append_drop _ _).symm, hfirst.flip, hlater.flip⟩

/-- With more records read, a grammar has more trees at the end. -/
theorem exists_of_read_more {records' : List TreeRecord} {limit : Option Nat} {g' : Grammar}
    (hread : config.read records <+: { config with limit := limit }.read records')
    (h : Builds records' { config with limit := limit } m (.ok g')) :
    ∃ g, ofRecords records config m = .ok g ∧ g.trees <+: g'.trees := by
  obtain ⟨extra, hextra⟩ := hread
  cases h with
  | @built patterns owns _ hpatterns howns hkeeps hstart hlabels =>
    rw [← hextra] at howns
    obtain ⟨first, later, rfl, hfirst, _⟩ := allTrees_append howns
    rw [List.flatten_append, List.filter_append] at hkeeps
    obtain ⟨kept, hkept, hprefix⟩ := exists_start_of_keeps hkeeps
    -- The grammar of fewer records has the first entries of the other one.
    have htrees : (g'.entries.take kept.length).map (·.2) = kept := by
      rw [List.map_take]
      exact (List.prefix_iff_eq_take.1 hprefix).symm
    refine ⟨⟨g'.entries.take kept.length, config.startLabel⟩,
      ofRecords_of_builds (.built hpatterns hfirst ?_ rfl ?_), ?_⟩
    · show config.Keeps _ ((g'.entries.take kept.length).map (·.2))
      rw [htrees]
      exact hkept
    · exact fun e he => hlabels e (List.mem_of_mem_take he)
    · show (g'.entries.take kept.length).map (·.2) <+: g'.trees
      rw [htrees]
      exact hprefix

/-- Records that came to trees come to the same trees at a later place. -/
theorem exists_allTrees_of_subset {copies : List TreeRecord} (h : AllTrees index records owns)
    (hcopies : copies ⊆ records) :
    ∃ later, AllTrees index (records ++ copies) (owns ++ later) ∧ later ⊆ owns := by
  have hknown : ∀ e ∈ copies.zipIdx (index + records.length), ∃ own ∈ owns,
      e.1.trees e.2 = .ok own := by
    intro e he
    have hmem := hcopies (List.fst_mem_of_mem_zipIdx he)
    rw [← List.zipIdx_map_fst index records] at hmem
    obtain ⟨e', he', hsame⟩ := List.mem_map.1 hmem
    obtain ⟨own, hown, htrees⟩ := exists_right_of_mem h he'
    rw [hsame] at htrees
    exact ⟨own, hown, TreeRecord.trees_reindex htrees e.2⟩
  obtain ⟨later, hlater⟩ := exists_mapM_eq_ok fun e he =>
    (hknown e he).imp fun _ hown => hown.2
  refine ⟨later, ?_, ?_⟩
  · unfold AllTrees
    rw [List.zipIdx_append]
    exact List.rel_append h (mapM_eq_ok_iff.1 hlater)
  · intro own hown
    obtain ⟨e, he, htrees⟩ := exists_of_mem_mapM hlater hown
    obtain ⟨own', hown', htrees'⟩ := hknown e he
    rw [Except.ok.inj (htrees.symm.trans htrees')]
    exact hown'

/-- If duplicates are dropped, reading copies of records that were read changes nothing. -/
theorem ofRecords_of_read_copies {records' copies : List TreeRecord}
    (hfits : ∀ r ∈ config.read records, r.CountsFit) (hdedupe : config.dedupe = true)
    (hread : config.read records' = config.read records ++ copies)
    (hcopies : copies ⊆ config.read records) :
    ofRecords records' config m = ofRecords records config m := by
  obtain ⟨out, hout⟩ := exists_builds (m := m) hfits
  rw [ofRecords_of_builds hout]
  apply ofRecords_of_builds
  cases hout with
  | badPattern htexts hfirst htext => exact .badPattern htexts hfirst htext
  | badRecord hpatterns hsplit hbefore he =>
    have hsplit' := hread.trans (congrArg (· ++ copies) hsplit)
    rw [List.append_assoc, List.cons_append] at hsplit'
    exact .badRecord hpatterns hsplit' hbefore he
  | @built patterns owns g hpatterns howns hkeeps hstart hlabels =>
    -- The copies bring trees that are in the list already, so each has its key before it.
    obtain ⟨later, hlater, hsubset⟩ := exists_allTrees_of_subset howns hcopies
    rw [← hread] at hlater
    refine .built hpatterns hlater ?_ hstart hlabels
    rw [List.flatten_append, List.filter_append]
    refine keeps_append_of_subset ?_ hdedupe hkeeps ?_
    · exact fun t ht => sound_of_mem_flatten howns t (List.mem_filter.1 ht).1
    · intro t ht
      obtain ⟨hmem, hadmits⟩ := List.mem_filter.1 ht
      obtain ⟨own, hown, hmem⟩ := List.mem_flatten.1 hmem
      exact List.mem_filter.2 ⟨List.mem_flatten.2 ⟨own, hsubset hown, hmem⟩, hadmits⟩

theorem mem_of_mem_read {r : TreeRecord} (h : r ∈ config.read records) : r ∈ records := by
  unfold Config.read at h
  split at h
  · exact List.mem_of_mem_take h
  · exact h

theorem read_extends {limit : Option Nat} {more : List TreeRecord}
    (hlimit : ∀ n', limit = some n' → ∃ n ≤ n', config.limit = some n) :
    config.read records <+: { config with limit := limit }.read (records ++ more) := by
  have hall : config.read records <+: records := by
    unfold Config.read
    split
    · exact List.take_prefix _ _
    · exact List.prefix_refl _
  cases limit with
  | none => exact hall.trans (List.prefix_append _ _)
  | some n' =>
    obtain ⟨n, hn, hconfig⟩ := hlimit n' rfl
    show config.read records <+: (records ++ more).take n'
    unfold Config.read
    rw [hconfig, List.take_append]
    exact (List.take_prefix_take_left hn).trans (List.prefix_append _ _)

/-- Of copies at the end some are read, and only if all records are. -/
theorem exists_read_copies {copies : List TreeRecord} (hcopies : copies ⊆ records) :
    ∃ extra, config.read (records ++ copies) = config.read records ++ extra ∧
      extra ⊆ config.read records := by
  unfold Config.read
  cases config.limit with
  | none => exact ⟨copies, rfl, hcopies⟩
  | some n =>
    refine ⟨copies.take (n - records.length), List.take_append, ?_⟩
    by_cases hn : records.length ≤ n
    · show _ ⊆ records.take n
      rw [List.take_of_length_le hn]
      exact fun r hr => hcopies (List.mem_of_mem_take hr)
    · rw [Nat.sub_eq_zero_of_le (by omega), List.take_zero]
      exact List.nil_subset _

end Grammar

/-- **Selection**: building a grammar from records whose counts fit ends as `Grammar.Builds` says,
    whatever the patterns are and whatever they match: with the first text that is no pattern, else
    with the first record among those that are read that cannot be turned into trees, else with the
    trees of these records, in order, that the options let through and, if duplicates are dropped,
    that are the first of their key among them. Records past the limit never matter. More records,
    or a limit that is higher, only add trees at the end. If duplicates are dropped, copies of
    records at the end change nothing. -/
theorem Grammar.ofRecords_selects {records : List TreeRecord} (hfits : ∀ r ∈ records, r.CountsFit)
    (config : Config) (m : Matcher) :
    (∀ out, ofRecords records config m = out ↔ Builds records config m out) ∧
    (∀ n records', config.limit = some n → records'.take n = records.take n →
      ofRecords records' config m = ofRecords records config m) ∧
    (∀ more limit g', (∀ r ∈ more, r.CountsFit) →
      (∀ n', limit = some n' → ∃ n ≤ n', config.limit = some n) →
      ofRecords (records ++ more) { config with limit := limit } m = .ok g' →
      ∃ g, ofRecords records config m = .ok g ∧ g.trees <+: g'.trees) ∧
    (∀ copies, config.dedupe = true → copies ⊆ records →
      ofRecords (records ++ copies) config m = ofRecords records config m) := by
  have hread : ∀ r ∈ config.read records, r.CountsFit :=
    fun r hr => hfits r (mem_of_mem_read hr)
  refine ⟨fun out => ofRecords_eq_iff hread, ?_, ?_, ?_⟩
  · intro n records' hlimit hsame
    apply ofRecords_congr
    unfold Config.read
    rw [hlimit]
    exact hsame
  · intro more limit g' hmore hlimit hg'
    have hreadMore : ∀ r ∈ { config with limit := limit }.read (records ++ more), r.CountsFit := by
      intro r hr
      rcases List.mem_append.1 (mem_of_mem_read hr) with hr | hr
      · exact hfits r hr
      · exact hmore r hr
    exact exists_of_read_more (read_extends hlimit) ((ofRecords_eq_iff hreadMore).1 hg')
  · intro copies hdedupe hcopies
    obtain ⟨extra, hextra, hsubset⟩ := exists_read_copies hcopies
    exact ofRecords_of_read_copies hread hdedupe hextra hsubset

/-- The grammar of a clause and a noun phrase, of the clause alone if the limit says so, and with
    the noun phrase once if its record comes again. -/
theorem ofRecords_selects_clause :
    (∀ r ∈ [clauseRecord [], nounRecord], r.CountsFit) ∧
    Grammar.Builds [clauseRecord [], nounRecord] .default Pattern.matcher (.ok sleepGrammar) ∧
    (∃ g, Grammar.ofRecords [clauseRecord [], nounRecord]
        { Config.default with limit := some 1 } = .ok g ∧ g.trees <+: sleepGrammar.trees) ∧
    Grammar.ofRecords [clauseRecord [], nounRecord, nounRecord] .default = .ok sleepGrammar := by
  have hfits : ∀ r ∈ [clauseRecord [], nounRecord], r.CountsFit := by
    intro r hr lexicon hlexicon
    have hnone : ∀ r ∈ [clauseRecord [], nounRecord], r.lexicon = none := by decide +kernel
    rw [hnone r hr] at hlexicon
    cases hlexicon
  have hgrammar : Grammar.ofRecords [clauseRecord [], nounRecord] .default = .ok sleepGrammar := by
    decide +kernel
  obtain ⟨hbuilds, _, _, hcopies⟩ :=
    Grammar.ofRecords_selects hfits .default Pattern.matcher
  obtain ⟨_, _, hmore, _⟩ :=
    Grammar.ofRecords_selects hfits { Config.default with limit := some 1 } Pattern.matcher
  refine ⟨hfits, (hbuilds _).1 hgrammar, ?_, ?_⟩
  · exact hmore [] none sleepGrammar (by simp) (by simp) hgrammar
  · rw [← hgrammar]
    exact hcopies [nounRecord] rfl (by simp)

end SpineGrammar
