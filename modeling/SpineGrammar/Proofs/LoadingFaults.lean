import SpineGrammar.Interchange.Record
import SpineGrammar.Proofs.Selection

/-!
# When loading faults

A record that can be read comes to trees if the counts of its words add up to a count, and it faults
if they do not: the sum is taken before any tree is made, and nothing refuses it. No other step of
the way faults. So building a grammar faults on the first of the records that are read whose counts
do not add up to a count, unless a pattern or an earlier record is refused.
-/

namespace SpineGrammar

/-! ## One record -/

namespace TreeRecord

variable {r : TreeRecord} {index : Nat}

theorem trees_of_overflow (hreadable : r.Readable) (hoverflow : ¬ r.CountsFit) :
    r.trees index = .error (.fault .countOverflow) := by
  obtain ⟨b, hb⟩ := (readable_iff index).1 hreadable
  unfold CountsFit at hoverflow
  push Not at hoverflow
  obtain ⟨lexicon, hlexicon, hbound⟩ := hoverflow
  have hentries : r.entries = lexicon.entries := by
    unfold entries
    rw [hlexicon]
    rfl
  have hsum : countSum (r.entries.map (·.2)) = .error .countOverflow := by
    rw [hentries]
    exact if_neg (Nat.not_lt.2 hbound)
  -- Without words the sum would be zero.
  have hwords : r.entries ≠ [] := by
    intro hnone
    rw [hnone] at hsum
    cases hsum
  rw [trees_eq_of_entries hb hwords, hsum]
  rfl

/-- A record is refused, or it faults, or it comes to trees. -/
theorem trees_cases (r : TreeRecord) (index : Nat) :
    (¬ r.Readable ∧ ∃ e, r.trees index = .error (.refused e)) ∨
    (r.Readable ∧ ¬ r.CountsFit ∧ r.trees index = .error (.fault .countOverflow)) ∨
    (r.Readable ∧ r.CountsFit ∧ ∃ ts, r.trees index = .ok ts) := by
  by_cases hreadable : r.Readable
  · by_cases hfits : r.CountsFit
    · obtain ⟨b, hb⟩ := (readable_iff index).1 hreadable
      exact .inr (.inr ⟨hreadable, hfits, hfits.exists_trees hb⟩)
    · exact .inr (.inl ⟨hreadable, hfits, trees_of_overflow hreadable hfits⟩)
  · rcases unlexicalized_outcome r index with hok | herror
    · obtain ⟨t, _, ht, _⟩ := hok
      exact absurd ((readable_iff index).2 ⟨t, ht⟩) hreadable
    · obtain ⟨e, he⟩ := herror
      exact .inl ⟨hreadable, e, trees_of_unlexicalized he⟩

theorem exists_trees_iff : (∃ ts, r.trees index = .ok ts) ↔ r.Readable ∧ r.CountsFit := by
  rcases trees_cases r index with ⟨hreadable, e, he⟩ | ⟨_, hfits, hfault⟩ | ⟨hreadable, hfits, hok⟩
  · simp [he, hreadable]
  · simp [hfault, hfits]
  · simp [hok, hreadable, hfits]

theorem exists_refused_iff : (∃ e, r.trees index = .error (.refused e)) ↔ ¬ r.Readable := by
  rcases trees_cases r index with ⟨hreadable, hrefused⟩ | ⟨hreadable, _, hfault⟩ |
    ⟨hreadable, _, ts, hts⟩
  · simp [hrefused, hreadable]
  · simp [hfault, hreadable]
  · simp [hts, hreadable]

theorem trees_eq_fault_iff {f : Fault} : r.trees index = .error (.fault f) ↔
    f = .countOverflow ∧ r.Readable ∧ ¬ r.CountsFit := by
  rcases trees_cases r index with ⟨hreadable, e, he⟩ | ⟨hreadable, hfits, hfault⟩ |
    ⟨_, hfits, ts, hts⟩
  · simp [he, hreadable]
  · simp [hfault, hreadable, hfits, eq_comm]
  · simp [hts, hfits]

end TreeRecord

/-! ## All records -/

namespace Grammar

variable {records : List TreeRecord} {config : Config} {m : Matcher} {f : Fault} {index : Nat}

theorem exists_allTrees_iff : (∃ owns, AllTrees index records owns) ↔
    ∀ r ∈ records, r.Readable ∧ r.CountsFit := by
  constructor
  · intro h r hr
    obtain ⟨owns, howns⟩ := h
    rw [← List.zipIdx_map_fst index records] at hr
    obtain ⟨e, he, rfl⟩ := List.mem_map.1 hr
    obtain ⟨own, _, hown⟩ := exists_right_of_mem howns he
    exact TreeRecord.exists_trees_iff.1 ⟨own, hown⟩
  · intro h
    have htrees : ∀ e ∈ records.zipIdx index, ∃ own, e.1.trees e.2 = .ok own :=
      fun e he => TreeRecord.exists_trees_iff.2 (h e.1 (List.fst_mem_of_mem_zipIdx he))
    obtain ⟨owns, howns⟩ := exists_mapM_eq_ok htrees
    exact ⟨owns, mapM_eq_ok_iff.1 howns⟩

theorem ofRecords_eq_fault_iff : ofRecords records config m = .error (.fault f) ↔
    f = .countOverflow ∧ (∃ patterns : List m.Pattern, AllRead config.treePatterns patterns) ∧
      ∃ before r after, config.read records = before ++ r :: after ∧
        (∀ earlier ∈ before, earlier.Readable ∧ earlier.CountsFit) ∧
        r.Readable ∧ ¬ r.CountsFit := by
  constructor
  · intro h
    -- Building comes past the patterns and past the records that come to trees, and the first
    -- record that does not says how it ends.
    rcases allRead_or_builds records config m with hread | hbad
    · obtain ⟨patterns, hpatterns⟩ := hread
      rcases allTrees_or_exists_first (config.read records) 0 with hall | hfirst
      · obtain ⟨owns, howns⟩ := hall
        obtain ⟨g, hg⟩ := exists_built hpatterns howns
        cases (ofRecords_of_builds hg).symm.trans h
      · obtain ⟨before, r, after, owns, halt, hsplit, hbefore, hhalt⟩ := hfirst
        rw [Nat.zero_add] at hhalt
        rw [ofRecords_of_first hpatterns hsplit hbefore hhalt] at h
        cases halt with
        | refused e => cases h
        | fault f' =>
          obtain rfl : f' = f := by simpa [liftRecord] using h
          obtain ⟨hf, hr⟩ := TreeRecord.trees_eq_fault_iff.1 hhalt
          exact ⟨hf, ⟨patterns, hpatterns⟩, before, r, after, hsplit,
            exists_allTrees_iff.1 ⟨owns, hbefore⟩, hr⟩
    · obtain ⟨text, hbad⟩ := hbad
      cases (ofRecords_of_builds hbad).symm.trans h
  · intro h
    obtain ⟨rfl, ⟨patterns, hpatterns⟩, before, r, after, hsplit, hbefore, hr⟩ := h
    obtain ⟨owns, howns⟩ := exists_allTrees_iff.2 hbefore
    rw [ofRecords_of_first hpatterns hsplit howns (TreeRecord.trees_eq_fault_iff.2 ⟨rfl, hr⟩)]
    rfl

end Grammar

/-- **Faults of loading**: a record comes to trees if and only if it can be read and its counts add
    up to a count, and it is refused if and only if it cannot be read. What is left faults, and no
    other fault is possible. A grammar of records faults if and only if all patterns are patterns
    and the counts of the first of the records that does not come to trees do not add up to a count
    although it can be read. -/
theorem loading_faults_on_overflow_only (records : List TreeRecord) (config : Config)
    (m : Matcher) :
    (∀ (r : TreeRecord) (index : Nat),
      ((∃ ts, r.trees index = .ok ts) ↔ r.Readable ∧ r.CountsFit) ∧
      ((∃ e, r.trees index = .error (.refused e)) ↔ ¬ r.Readable) ∧
      ∀ f, r.trees index = .error (.fault f) ↔
        f = .countOverflow ∧ r.Readable ∧ ¬ r.CountsFit) ∧
    ∀ f, Grammar.ofRecords records config m = .error (.fault f) ↔
      f = .countOverflow ∧
        (∃ patterns : List m.Pattern, AllRead config.treePatterns patterns) ∧
        ∃ before r after, config.read records = before ++ r :: after ∧
          (∀ earlier ∈ before, earlier.Readable ∧ earlier.CountsFit) ∧
          r.Readable ∧ ¬ r.CountsFit := by
  refine ⟨?_, fun f => Grammar.ofRecords_eq_fault_iff⟩
  intro r index
  exact ⟨TreeRecord.exists_trees_iff, TreeRecord.exists_refused_iff,
    fun f => TreeRecord.trees_eq_fault_iff⟩

/-- A noun phrase that was seen with two words. -/
def crowdedRecord : TreeRecord :=
  { nounRecord with
    word := none
    lexicon := some (.ofList [("cats", 4294967295), ("dogs", 1)]) }

/-- Each of the numbers is a count, but their sum is not. -/
theorem not_forall_loading_faultless :
    TreeRecord.ofString? ("[\x7b\"spine\": \"(NP)\", \"lexicalization\": " ++
        "\x7b\"cats\": 4294967295, \"dogs\": 1\x7d\x7d]") = some [crowdedRecord] ∧
    ¬ Faultless (crowdedRecord.trees 0) ∧
    ¬ Faultless (Grammar.ofRecords [crowdedRecord] .default) := by
  have htrees : crowdedRecord.trees 0 = .error (.fault .countOverflow) := by decide +kernel
  have hgrammar : Grammar.ofRecords [crowdedRecord] .default = .error (.fault .countOverflow) := by
    decide +kernel
  exact ⟨by decide +kernel, fun h => h _ htrees, fun h => h _ hgrammar⟩

end SpineGrammar
