import SpineGrammar.Proofs.TableChange
import SpineGrammar.Records.Conversion

/-!
# Trees of records are sound

A tree that comes from a record is a chain of nodes with rules and perhaps a word at its end: its
table is linear, and a linear table is sound. Anchoring a rule and lexicalizing change single nodes
and keep a table linear.
-/

namespace SpineGrammar

/-! ## Linear tables -/

namespace Tree

/-- A table in which each node has at most the next one as a child, in the first place. Nothing was
    attached to it, and no rule stands twice at a node. -/
structure Linear (t : Tree) : Prop where
  root : t.root = 0
  nonempty : 0 < t.nodes.size
  next : ∀ k n i id, t.node k = .ok n → n.children[i]? = some (.node id) →
    i = 0 ∧ id = k + 1 ∧ id < t.nodes.size
  unattached : ∀ n ∈ t.nodes, n.attached = false
  rules_nodup : ∀ n ∈ t.nodes, n.rules.Nodup

namespace Linear

variable {t t' : Tree}

/-- The only path to a node of a linear table goes through first children. -/
theorem eq_replicate (h : t.Linear) {start id : Nat} {a : Address}
    (ha : t.resolve start a = .ok (some id)) : start + a.length = id ∧
      a = List.replicate a.length 0 := by
  induction a generalizing start with
  | nil =>
    obtain rfl : start = id := by simpa [resolve] using ha
    exact ⟨rfl, rfl⟩
  | cons i a ih =>
    obtain ⟨n, next, hn, hchild, hrest⟩ := resolve_cons_eq_some_iff.1 ha
    obtain ⟨rfl, rfl, _⟩ := h.next start n i next hn hchild
    obtain ⟨hlength, hzeros⟩ := ih hrest
    refine ⟨?_, ?_⟩
    · rw [List.length_cons]
      omega
    · rw [List.length_cons, List.replicate_succ, ← hzeros]

theorem sound (h : t.Linear) : t.Sound where
  root_lt := h.root ▸ h.nonempty
  child_lt := by
    intro n hn id hid
    obtain ⟨k, hk⟩ := Array.getElem?_of_mem hn
    obtain ⟨i, hi⟩ := List.getElem?_of_mem hid
    exact (h.next k n i id (node_eq_ok_iff.2 hk) hi).2.2
  path_unique := by
    intro a a' id ha ha'
    obtain ⟨hlength, hzeros⟩ := h.eq_replicate ha
    obtain ⟨hlength', hzeros'⟩ := h.eq_replicate ha'
    rw [hzeros, hzeros']
    congr 1
    omega
  slotted := by
    intro n hn hattached
    rw [h.unattached n hn] at hattached
    cases hattached
  rules_nodup := h.rules_nodup

/-- Changing a node keeps a table linear if it brings in no child, no attachment and no second copy
    of a rule. -/
theorem update (h : t.Linear) {m : Nat} {f : Node → Node} (hup : t.update m f = .ok t')
    (hchild : ∀ (n : Node) (i id : Nat), (f n).children[i]? = some (.node id) →
      n.children[i]? = some (.node id))
    (hattached : ∀ n : Node, (f n).attached = n.attached)
    (hrules : ∀ n : Node, n.rules.Nodup → (f n).rules.Nodup) : t'.Linear where
  root := by
    obtain ⟨_, rfl⟩ := update_eq_ok_iff.1 hup
    exact h.root
  nonempty := by
    rw [size_of_update hup]
    exact h.nonempty
  next := by
    intro k n i id hn hid
    rw [size_of_update hup]
    by_cases hk : k = m
    · subst hk
      rw [node_of_update_self hup] at hn
      cases hold : t.node k with
      | error e =>
        rw [hold] at hn
        cases hn
      | ok old =>
        rw [hold] at hn
        obtain rfl : f old = n := Except.ok.inj hn
        exact h.next k old i id hold (hchild old i id hid)
    · rw [node_of_update_of_ne hup hk] at hn
      exact h.next k n i id hn hid
  unattached := forall_mem_update hup (fun n hn => (hattached n).trans hn) h.unattached
  rules_nodup := forall_mem_update hup hrules h.rules_nodup

/-- A rule comes to a node. -/
theorem pushRule (h : t.Linear) {m : Nat} {r : Rule} (hup : t.update m (·.pushRule r) = .ok t') :
    t'.Linear := by
  refine h.update hup ?_ ?_ ?_
  · intro n i id hid
    unfold Node.pushRule at hid
    split at hid <;> exact hid
  · intro n
    unfold Node.pushRule
    split <;> rfl
  · intro n hn
    unfold Node.pushRule
    split
    · exact hn
    · next hnew =>
      show (n.rules ++ [r]).Nodup
      rw [← List.concat_eq_append]
      exact hn.concat hnew

/-- A word comes to a node, behind its other children. -/
theorem pushLeaf (h : t.Linear) {m : Nat} {word : String} (hup : t.pushLeaf m word = .ok t') :
    t'.Linear := by
  refine h.update hup ?_ (fun _ => rfl) (fun _ hn => hn)
  intro n i id hid
  rw [Node.pushChild, List.getElem?_append] at hid
  split at hid
  · exact hid
  · next hlength =>
    obtain hleaf := List.mem_of_getElem? hid
    rw [List.mem_singleton] at hleaf
    cases hleaf

/-- A change of other features of all nodes keeps a table linear. -/
theorem map (h : t.Linear) {f : Node → Node} (hchildren : ∀ n, (f n).children = n.children)
    (hattached : ∀ n, (f n).attached = n.attached) (hrules : ∀ n, (f n).rules = n.rules) :
    Linear { t with nodes := t.nodes.map f } where
  root := h.root
  nonempty := by
    rw [Array.size_map]
    exact h.nonempty
  next := by
    intro k n i id hn hid
    rw [node_eq_ok_iff, Array.getElem?_map, Option.map_eq_some_iff] at hn
    obtain ⟨old, hold, rfl⟩ := hn
    rw [hchildren] at hid
    rw [Array.size_map]
    exact h.next k old i id (node_eq_ok_iff.2 hold) hid
  unattached := by
    intro n hn
    obtain ⟨old, hold, rfl⟩ := Array.mem_map.1 hn
    rw [hattached]
    exact h.unattached old hold
  rules_nodup := by
    intro n hn
    obtain ⟨old, hold, rfl⟩ := Array.mem_map.1 hn
    rw [hrules]
    exact h.rules_nodup old hold

end Linear

/-! ## Spines -/

theorem length_chain (id : Nat) (word : Option String) (labels : List String) :
    (chain id word labels).length = labels.length := by
  induction labels generalizing id with
  | nil => rfl
  | cons label rest ih => cases rest with
    | nil => rfl
    | cons next rest => rw [chain, List.length_cons, ih, List.length_cons] <;> simp

theorem getElem?_chain {id : Nat} {word : Option String} {labels : List String} {k : Nat}
    {n : Node} (hn : (chain id word labels)[k]? = some n) {i c : Nat}
    (hc : n.children[i]? = some (.node c)) :
    i = 0 ∧ c = id + k + 1 ∧ k + 1 < labels.length := by
  induction labels generalizing id k with
  | nil => cases hn
  | cons label rest ih => cases rest with
    | nil =>
      -- The last node has at most a word below it.
      rw [chain, List.getElem?_singleton] at hn
      split at hn
      · obtain rfl := Option.some.inj hn
        have hmem := List.mem_of_getElem? hc
        cases word <;> simp at hmem
      · cases hn
    | cons next rest =>
      rw [chain] at hn
      · cases k with
        | zero =>
          obtain rfl := Option.some.inj hn
          rw [List.getElem?_singleton] at hc
          split at hc
          · next hi =>
            obtain rfl : id + 1 = c := by simpa using hc
            refine ⟨hi, by omega, ?_⟩
            rw [List.length_cons, List.length_cons]
            omega
          · cases hc
        | succ k =>
          obtain ⟨hi, hid, hlength⟩ := ih hn
          refine ⟨hi, by omega, ?_⟩
          rw [List.length_cons]
          omega
      · simp

theorem eq_of_mem_chain {id : Nat} {word : Option String} {labels : List String} {n : Node}
    (hn : n ∈ chain id word labels) : n.attached = false ∧ n.rules = [] := by
  induction labels generalizing id with
  | nil => cases hn
  | cons label rest ih => cases rest with
    | nil =>
      rw [List.mem_singleton.1 hn]
      exact ⟨rfl, rfl⟩
    | cons next rest =>
      rw [chain] at hn
      · rcases List.mem_cons.1 hn with rfl | hn
        · exact ⟨rfl, rfl⟩
        · exact ih hn
      · simp

theorem linear_chain (word : Option String) (label : String) (rest : List String) :
    Linear ⟨(chain 0 word (label :: rest)).toArray, 0⟩ where
  root := rfl
  nonempty := by
    rw [List.size_toArray, length_chain]
    exact Nat.succ_pos _
  next := by
    intro k n i id hn hid
    rw [node_eq_ok_iff, List.getElem?_toArray] at hn
    obtain ⟨hi, hnext, hlength⟩ := getElem?_chain hn hid
    rw [List.size_toArray, length_chain]
    exact ⟨hi, by omega, by omega⟩
  unattached := fun n hn => (eq_of_mem_chain (List.mem_toArray.1 hn)).1
  rules_nodup := by
    intro n hn
    rw [(eq_of_mem_chain (List.mem_toArray.1 hn)).2]
    exact List.nodup_nil

theorem linear_ofSpine (labels : List String) (word : Option String) :
    (ofSpine labels word).Linear := by
  cases labels with
  | nil => exact linear_chain word "" []
  | cons label rest => exact linear_chain word label rest

/-! ## Children before the word -/

/-- A table in which each node has one child at most, and no word. -/
def Wordless (t : Tree) : Prop := ∀ n ∈ t.nodes, n.children = [] ∨ ∃ id, n.children = [.node id]

theorem wordless_chain {id : Nat} {labels : List String} {n : Node}
    (hn : n ∈ chain id none labels) : n.children = [] ∨ ∃ k, n.children = [.node k] := by
  induction labels generalizing id with
  | nil => cases hn
  | cons label rest ih => cases rest with
    | nil =>
      rw [List.mem_singleton.1 hn]
      exact .inl rfl
    | cons next rest =>
      rw [chain] at hn
      · rcases List.mem_cons.1 hn with rfl | hn
        · exact .inr ⟨id + 1, rfl⟩
        · exact ih hn
      · simp

theorem wordless_ofSpine (labels : List String) : (ofSpine labels none).Wordless := by
  intro n hn
  cases labels with
  | nil => exact wordless_chain (List.mem_toArray.1 hn)
  | cons label rest => exact wordless_chain (List.mem_toArray.1 hn)

/-- The end of the spine has no child. -/
theorem Wordless.children_spineBottom {t : Tree} (h : t.Wordless) {bottom : Nat}
    (hbottom : t.spineBottom = .ok bottom) : ∃ n, t.node bottom = .ok n ∧ n.children = [] := by
  have hlast : ∀ length start, t.lastBelow length start = .ok bottom →
      ∃ n, t.node bottom = .ok n ∧ n.children = [] := by
    intro length
    induction length with
    | zero =>
      intro start hstart
      cases hstart
    | succ length ih =>
      intro start hstart
      obtain ⟨n, hn, hstart⟩ := bind_eq_ok_iff.1 hstart
      rcases h n (mem_of_node_eq_ok hn) with hchildren | ⟨next, hchildren⟩
      · rw [hchildren] at hstart
        obtain rfl := Except.ok.inj hstart
        exact ⟨n, hn, hchildren⟩
      · rw [hchildren] at hstart
        exact ih next hstart
  exact hlast _ _ hbottom

end Tree

/-! ## Records -/

namespace TreeRecord

open SpineGrammar.Tree

theorem linear_bareSpine (r : TreeRecord) : r.bareSpine.Linear := by
  have hmap := (linear_ofSpine r.spineLabels none).map
    (f := fun n => { n with treeType := r.treeType }) (fun _ => rfl) (fun _ => rfl) (fun _ => rfl)
  exact hmap.update (update_eq_ok hmap.nonempty _) (fun _ _ _ h => h) (fun _ => rfl)
    (fun _ h => h)

theorem linear_anchor {index : Nat} {t t' : Tree} {record : RuleRecord} (ht : t.Linear)
    (h : anchor index t record = .ok t') : t'.Linear := by
  obtain ⟨rule, _, h⟩ := bind_eq_ok_iff.1 h
  obtain ⟨place, _, h⟩ := bind_eq_ok_iff.1 h
  cases place with
  | some id => exact ht.pushRule (ofChecked_eq_ok_iff.1 h)
  | none => exact ht.pushRule (ofChecked_eq_ok_iff.1 h)

theorem linear_unlexicalized {r : TreeRecord} {index : Nat} {t : Tree}
    (h : r.unlexicalized index = .ok t) : t.Linear := by
  unfold unlexicalized at h
  split at h
  · cases h
  · exact foldlM_preserves (fun _ _ _ ht hstep => linear_anchor ht hstep) r.linear_bareSpine h

theorem linear_lexicalize {base t : Tree} {word : String} {wordCount treeCount : Nat}
    (hbase : base.Linear) (h : lexicalize base word wordCount treeCount = .ok t) : t.Linear := by
  obtain ⟨bottom, _, h⟩ := bind_eq_ok_iff.1 h
  obtain ⟨grown, hgrown, h⟩ := bind_eq_ok_iff.1 h
  exact (hbase.pushLeaf hgrown).update h (fun _ _ _ hc => hc) (fun _ => rfl) (fun _ hn => hn)

/-- The trees of a record are the unlexicalized tree or come from it with a word. -/
theorem exists_base_of_mem_trees {r : TreeRecord} {index : Nat} {ts : List Tree}
    (h : r.trees index = .ok ts) {t : Tree} (ht : t ∈ ts) :
    ∃ base, r.unlexicalized index = .ok base ∧ (t = base ∨
      ∃ word wordCount treeCount, lexicalize base word wordCount treeCount = .ok t) := by
  obtain ⟨base, hbase, h⟩ := bind_eq_ok_iff.1 h
  refine ⟨base, hbase, ?_⟩
  simp only at h
  split at h
  · split at h
    · obtain ⟨t', ht', hts⟩ := bind_eq_ok_iff.1 h
      obtain rfl := Except.ok.inj hts
      rw [List.mem_singleton.1 ht]
      exact .inr ⟨_, 1, 1, ofChecked_eq_ok_iff.1 ht'⟩
    · obtain rfl := Except.ok.inj h
      exact .inl (List.mem_singleton.1 ht)
  · obtain ⟨total, _, h⟩ := bind_eq_ok_iff.1 h
    obtain ⟨e, _, he⟩ := exists_of_mem_mapM h ht
    exact .inr ⟨_, _, _, ofChecked_eq_ok_iff.1 he⟩

/-- Each tree of a record is linear. -/
theorem linear_trees {r : TreeRecord} {index : Nat} {ts : List Tree}
    (h : r.trees index = .ok ts) : ∀ t ∈ ts, t.Linear := by
  intro t ht
  obtain ⟨base, hbase, ht⟩ := exists_base_of_mem_trees h ht
  have hlinear := linear_unlexicalized hbase
  rcases ht with rfl | ⟨word, wordCount, treeCount, ht⟩
  · exact hlinear
  · exact linear_lexicalize hlinear ht

theorem wordless_bareSpine (r : TreeRecord) : r.bareSpine.Wordless := by
  have hmap : ∀ n ∈ ((ofSpine r.spineLabels none).nodes.map fun n =>
      { n with treeType := r.treeType }), n.children = [] ∨ ∃ id, n.children = [.node id] := by
    intro n hn
    obtain ⟨old, hold, rfl⟩ := Array.mem_map.1 hn
    exact wordless_ofSpine _ old hold
  intro n hn
  dsimp only [bareSpine] at hn
  refine forall_mem_modify ?_ hmap 0 n hn
  exact fun _ hold => hold

theorem wordless_unlexicalized {r : TreeRecord} {index : Nat} {t : Tree}
    (h : r.unlexicalized index = .ok t) : t.Wordless := by
  have hrule : ∀ (t t' : Tree) (id : Nat) (rule : Rule), t.Wordless →
      t.update id (·.pushRule rule) = .ok t' → t'.Wordless := by
    intro t t' id rule ht hup
    refine forall_mem_update hup (fun n hn => ?_) ht
    have hchildren : (n.pushRule rule).children = n.children := by
      unfold Node.pushRule
      split <;> rfl
    rw [hchildren]
    exact hn
  unfold unlexicalized at h
  split at h
  · cases h
  · refine foldlM_preserves (fun t record t' ht hstep => ?_) r.wordless_bareSpine h
    obtain ⟨rule, _, hstep⟩ := bind_eq_ok_iff.1 hstep
    obtain ⟨place, _, hstep⟩ := bind_eq_ok_iff.1 hstep
    cases place with
    | some id => exact hrule t t' id _ ht (ofChecked_eq_ok_iff.1 hstep)
    | none => exact hrule t t' _ _ ht (ofChecked_eq_ok_iff.1 hstep)

/-- In the trees of records each node has one child at most. -/
theorem length_children_le_one {r : TreeRecord} {index : Nat} {ts : List Tree}
    (h : r.trees index = .ok ts) {t : Tree} (ht : t ∈ ts) {id : Nat} {n : Node}
    (hn : t.node id = .ok n) : n.children.length ≤ 1 := by
  obtain ⟨base, hbase, ht⟩ := exists_base_of_mem_trees h ht
  have hwordless := wordless_unlexicalized hbase
  have hbare : ∀ n ∈ base.nodes, n.children.length ≤ 1 := by
    intro n hn
    rcases hwordless n hn with hchildren | ⟨k, hchildren⟩ <;> simp [hchildren]
  rcases ht with rfl | ⟨word, wordCount, treeCount, ht⟩
  · exact hbare n (mem_of_node_eq_ok hn)
  · obtain ⟨bottom, hbottom, ht⟩ := bind_eq_ok_iff.1 ht
    obtain ⟨grown, hgrown, ht⟩ := bind_eq_ok_iff.1 ht
    obtain ⟨old, hold, hempty⟩ := hwordless.children_spineBottom hbottom
    -- The word comes to the end of the spine, which had no child.
    have hgrownle : ∀ n ∈ grown.nodes, n.children.length ≤ 1 := by
      intro n hn
      obtain ⟨k, hk⟩ := Array.getElem?_of_mem hn
      rw [← node_eq_ok_iff] at hk
      by_cases hkb : k = bottom
      · rw [hkb, node_of_update_self hgrown, hold] at hk
        obtain rfl := Except.ok.inj hk
        simp [Node.pushChild, hempty]
      · rw [node_of_update_of_ne hgrown hkb] at hk
        exact hbare n (mem_of_node_eq_ok hk)
    exact forall_mem_update ht (fun _ hn => hn) hgrownle n (mem_of_node_eq_ok hn)

end TreeRecord

end SpineGrammar
