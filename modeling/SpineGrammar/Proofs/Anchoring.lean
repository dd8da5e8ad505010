import SpineGrammar.Proofs.RecordTrees

/-!
# Where the rules of a record come to stand

A record whose rules all convert gives a chain of nodes, one for each label of its spine. A rule
whose address is a number of zeros that leads to a node of the chain stands at that node and is
addressed to it; every other rule stands at the root as it is. A node lists its rules in the order
of the record, and an equal one that comes later is dropped. If a rule does not convert, the first
such rule says why there is no tree.
-/

namespace SpineGrammar

/-! ## Reading a rule -/

/-- `r.Names a`: the address `a` is meant, either as such or in the dotted form. -/
def AddressRecord.Names (r : AddressRecord) (a : Address) : Prop :=
  r = .indices a ∨ ∃ text, r = .dotted text ∧ Address.ofDotted? text = some a

namespace RuleRecord

variable {index : Nat} {record : RuleRecord} {out : Except RecordError Rule}

/-- The code of the slot is given, or a coordination leaves it out and means the left. -/
def HasSlot (record : RuleRecord) (code : Int) : Prop :=
  record.slot = some code ∨
    record.slot = none ∧ record.kind = .coordinate ∧ code = Slot.left.code

/-- The order is given, or a coordination leaves it out and means the first. -/
def HasOrder (record : RuleRecord) (order : Nat) : Prop :=
  record.order = some order ∨ record.order = none ∧ record.kind = .coordinate ∧ order = 0

/-- `record.Converts index out`: reading the rule of the record at `index` ends with `out`. The slot
    has to be there before the order, both before the address is read, and the address before the
    slot is told from its code. -/
inductive Converts (index : Nat) (record : RuleRecord) : Except RecordError Rule → Prop where
  | missingSlot :
      record.slot = none → record.kind ≠ .coordinate →
      Converts index record (.error (.missingSlot index record.kind record.pos))
  | missingOrder {code : Int} :
      record.HasSlot code → record.order = none → record.kind ≠ .coordinate →
      Converts index record (.error (.missingOrder index record.kind record.pos))
  | invalidAddress {code : Int} {order : Nat} {text : String} :
      record.HasSlot code → record.HasOrder order → record.target = .dotted text →
      Address.ofDotted? text = none →
      Converts index record (.error (.invalidAddress text))
  | invalidSlot {code : Int} {order : Nat} {a : Address} :
      record.HasSlot code → record.HasOrder order → record.target.Names a →
      (∀ slot : Slot, code ≠ slot.code) →
      Converts index record (.error (.invalidSlot code))
  | rule {slot : Slot} {order : Nat} {a : Address} :
      record.HasSlot slot.code → record.HasOrder order → record.target.Names a →
      Converts index record (.ok ⟨record.kind, record.pos, ⟨a, slot, order⟩, record.role,
        record.description, record.attachCounts⟩)

theorem hasSlot_iff {code : Int} : record.HasSlot code ↔
    record.slot.or ((defaultPlace record.kind).map (·.1)) = some code := by
  unfold HasSlot
  cases record.slot with
  | some given => simp
  | none => cases record.kind <;> simp [defaultPlace, Slot.code, eq_comm]

theorem slot_missing_iff : record.slot.or ((defaultPlace record.kind).map (·.1)) = none ↔
    record.slot = none ∧ record.kind ≠ .coordinate := by
  cases record.slot with
  | some given => simp
  | none => cases record.kind <;> simp [defaultPlace]

theorem hasOrder_iff {order : Nat} : record.HasOrder order ↔
    record.order.or ((defaultPlace record.kind).map (·.2)) = some order := by
  unfold HasOrder
  cases record.order with
  | some given => simp
  | none => cases record.kind <;> simp [defaultPlace, eq_comm]

theorem order_missing_iff : record.order.or ((defaultPlace record.kind).map (·.2)) = none ↔
    record.order = none ∧ record.kind ≠ .coordinate := by
  cases record.order with
  | some given => simp
  | none => cases record.kind <;> simp [defaultPlace]

theorem names_iff {r : AddressRecord} {a : Address} : r.Names a ↔ r.toAddress = .ok a := by
  unfold AddressRecord.Names AddressRecord.toAddress
  cases r with
  | indices b => simp
  | dotted text => cases htext : Address.ofDotted? text <;> simp [htext]

theorem toAddress_eq_error_iff {r : AddressRecord} {e : RecordError} : r.toAddress = .error e ↔
    ∃ text, r = .dotted text ∧ Address.ofDotted? text = none ∧ e = .invalidAddress text := by
  unfold AddressRecord.toAddress
  cases r with
  | indices b => simp
  | dotted text => cases htext : Address.ofDotted? text <;> simp [htext, eq_comm]

theorem toSlot_code (slot : Slot) : toSlot slot.code = .ok slot := by
  unfold toSlot
  rw [Slot.ofCode?_code]

theorem toSlot_of_ne {code : Int} (h : ∀ slot : Slot, code ≠ slot.code) :
    toSlot code = .error (.invalidSlot code) := by
  have hleft : code ≠ 0 := h .left
  have hright : code ≠ 1 := h .right
  have hnone : Slot.ofCode? code = none := by
    unfold Slot.ofCode?
    split <;> simp_all
  unfold toSlot
  rw [hnone]

/-- The records are read as the rules, one by one. -/
abbrev AllConvert (index : Nat) (records : List RuleRecord) (rules : List Rule) : Prop :=
  List.Forall₂ (fun record rule => record.Converts index (.ok rule)) records rules

/-- Each record is read in one of these ways. -/
theorem converts_toRule (index : Nat) (record : RuleRecord) :
    record.Converts index (record.toRule index) := by
  unfold toRule
  cases hcode : record.slot.or ((defaultPlace record.kind).map (·.1)) with
  | none =>
    obtain ⟨hslot, hkind⟩ := slot_missing_iff.1 hcode
    exact .missingSlot hslot hkind
  | some code =>
    have hslot := hasSlot_iff.2 hcode
    cases hrank : record.order.or ((defaultPlace record.kind).map (·.2)) with
    | none =>
      obtain ⟨horder, hkind⟩ := order_missing_iff.1 hrank
      exact .missingOrder hslot horder hkind
    | some order =>
      have horder := hasOrder_iff.2 hrank
      cases haddress : record.target.toAddress with
      | error e =>
        obtain ⟨text, htarget, htext, rfl⟩ := toAddress_eq_error_iff.1 haddress
        exact .invalidAddress hslot horder htarget htext
      | ok a =>
        have htarget := names_iff.2 haddress
        by_cases hknown : ∃ slot : Slot, code = slot.code
        · obtain ⟨slot, rfl⟩ := hknown
          simp only [ok_bind, toSlot_code, pure_eq_ok]
          exact .rule hslot horder htarget
        · have hunknown : ∀ slot : Slot, code ≠ slot.code := fun slot h => hknown ⟨slot, h⟩
          simp only [ok_bind, toSlot_of_ne hunknown]
          exact .invalidSlot hslot horder htarget hunknown

/-- A record is read in one way only. -/
theorem toRule_eq_iff : record.toRule index = out ↔ record.Converts index out := by
  constructor
  · intro h
    rw [← h]
    exact converts_toRule index record
  · intro h
    unfold toRule
    cases h with
    | missingSlot hslot hkind => simp only [slot_missing_iff.2 ⟨hslot, hkind⟩]
    | missingOrder hslot horder hkind =>
      simp only [hasSlot_iff.1 hslot, order_missing_iff.2 ⟨horder, hkind⟩]
    | invalidAddress hslot horder htarget htext =>
      have haddress := toAddress_eq_error_iff.2 ⟨_, htarget, htext, rfl⟩
      simp only [hasSlot_iff.1 hslot, hasOrder_iff.1 horder, haddress]
      rfl
    | invalidSlot hslot horder htarget hunknown =>
      simp only [hasSlot_iff.1 hslot, hasOrder_iff.1 horder, names_iff.1 htarget, ok_bind,
        toSlot_of_ne hunknown]
      rfl
    | rule hslot horder htarget =>
      simp only [hasSlot_iff.1 hslot, hasOrder_iff.1 horder, names_iff.1 htarget, ok_bind,
        toSlot_code]
      rfl

/-- A rule that can be read does not depend on where its record stands. -/
theorem Converts.reindex {rule : Rule} (h : record.Converts index (.ok rule)) (index' : Nat) :
    record.Converts index' (.ok rule) := by
  cases h with
  | rule hslot horder htarget => exact .rule hslot horder htarget

/-- The rule can be read, wherever its record stands. -/
def Readable (record : RuleRecord) : Prop := ∃ rule, ∀ index, record.Converts index (.ok rule)

end RuleRecord

/-! ## Where a rule comes to stand -/

namespace Rule

/-- The node of a chain of `n` nodes at which a rule comes to stand, and the rule as it stands
    there. -/
def anchored (n : Nat) (rule : Rule) : Nat × Rule :=
  if rule.target.length < n ∧ rule.target = List.replicate rule.target.length 0 then
    (rule.target.length, rule.selfAddressed)
  else (0, rule)

theorem anchored_lt {n : Nat} (hn : 0 < n) (rule : Rule) : (rule.anchored n).1 < n := by
  unfold anchored
  split
  · next hchain => exact hchain.1
  · exact hn

/-- The rules that come to stand at the `k`-th node of a chain of `n` nodes, with equal ones as
    often as they come. -/
def standing (n k : Nat) (rules : List Rule) : List Rule :=
  if k = 0 then
    rules.filter fun rule => rule.target = [] ∨ ∀ j < n, rule.target ≠ List.replicate j 0
  else (rules.filter fun rule => rule.target = List.replicate k 0).map selfAddressed

theorem selfAddressed_of_target {rule : Rule} (h : rule.target = []) :
    rule.selfAddressed = rule := by
  obtain ⟨kind, pos, ⟨target, slot, order⟩, role, description, attachCounts⟩ := rule
  obtain rfl : target = [] := h
  rfl

theorem anchored_of_target {n k : Nat} {rule : Rule} (hk : k < n)
    (h : rule.target = List.replicate k 0) : rule.anchored n = (k, rule.selfAddressed) := by
  unfold anchored
  rw [if_pos]
  · rw [h, List.length_replicate]
  · rw [h, List.length_replicate]
    exact ⟨hk, rfl⟩

theorem anchored_of_ne {n : Nat} {rule : Rule} (h : ∀ j < n, rule.target ≠ List.replicate j 0) :
    rule.anchored n = (0, rule) := by
  unfold anchored
  rw [if_neg]
  intro hchain
  exact h _ hchain.1 hchain.2

theorem standing_append (n k : Nat) (rules rules' : List Rule) :
    standing n k (rules ++ rules') = standing n k rules ++ standing n k rules' := by
  unfold standing
  split <;> simp

/-- A rule stands at one node of the chain and at no other. -/
theorem standing_singleton {n k : Nat} (hk : k < n) (rule : Rule) :
    standing n k [rule] = if (rule.anchored n).1 = k then [(rule.anchored n).2] else [] := by
  have hsingle : standing n k [rule] =
      if k = 0 then
        if rule.target = [] ∨ ∀ j < n, rule.target ≠ List.replicate j 0 then [rule] else []
      else if rule.target = List.replicate k 0 then [rule.selfAddressed] else [] := by
    unfold standing
    by_cases hk0 : k = 0
    · simp only [hk0, if_true, List.filter_cons, List.filter_nil, decide_eq_true_eq]
    · simp only [hk0, if_false, List.filter_cons, List.filter_nil, decide_eq_true_eq]
      split <;> rfl
  rw [hsingle]
  by_cases hchain : ∃ j < n, rule.target = List.replicate j 0
  · obtain ⟨j, hj, htarget⟩ := hchain
    have hleads : (∀ i < n, rule.target ≠ List.replicate i 0) ↔ False :=
      iff_false_intro fun hnone => hnone j hj htarget
    have hroot : rule.target = [] ↔ j = 0 := by
      rw [htarget, List.replicate_eq_nil_iff]
    have hnode : rule.target = List.replicate k 0 ↔ j = k := by
      rw [htarget, List.replicate_left_inj]
    rw [anchored_of_target hj htarget]
    simp only [hleads, hroot, hnode, or_false]
    by_cases hk0 : k = 0
    · subst hk0
      by_cases hj0 : j = 0
      · -- A rule at the root that is addressed to the root stays as it is.
        rw [selfAddressed_of_target (hroot.2 hj0)]
        simp only [hj0, if_true]
      · simp only [hj0, if_true, if_false]
    · simp only [hk0, if_false]
  · have hnone : ∀ j < n, rule.target ≠ List.replicate j 0 :=
      fun j hj htarget => hchain ⟨j, hj, htarget⟩
    rw [anchored_of_ne hnone, if_neg (hnone k hk), if_pos (Or.inr hnone)]
    simp only [eq_comm]

end Rule

/-! ## A chain with rules at its nodes -/

namespace Node

/-- The label of a spine says what the label of the node is: a `^` at its end marks a foot and
    belongs to the mark only. -/
def Spells (n : Node) (label : String) : Prop :=
  n.isFoot = true ∧ label = n.label ++ "^" ∨
    n.isFoot = false ∧ label = n.label ∧ ¬ ∃ before, label = before ++ "^"

theorem spells_ofLabel (label : String) : (ofLabel label).Spells label := by
  unfold Spells ofLabel splitFoot
  split
  · next rest hrest =>
    refine .inl ⟨rfl, ?_⟩
    rw [← String.toList_inj, String.toList_append, String.toList_ofList]
    simpa using congrArg List.reverse hrest
  · next hnone =>
    refine .inr ⟨rfl, rfl, ?_⟩
    intro hfoot
    obtain ⟨before, hbefore⟩ := hfoot
    apply hnone before.toList.reverse
    rw [hbefore, String.toList_append, List.reverse_append]
    rfl

/-- A node that lists some rules, with equal ones once, lists them with one more after that comes
    to it. -/
theorem pushRule_eraseDups (n : Node) (rules : List Rule) (rule : Rule) :
    pushRule { n with rules := rules.eraseDups } rule =
      { n with rules := (rules ++ [rule]).eraseDups } := by
  rw [List.eraseDups_append]
  unfold pushRule List.removeAll
  by_cases hmem : rule ∈ rules
  · simp [List.mem_eraseDups, hmem]
  · simp [List.mem_eraseDups, hmem, List.eraseDups_cons]

end Node

namespace Tree

theorem getElem?_chain_none (id : Nat) (labels : List String) (k : Nat) :
    (chain id none labels)[k]? = labels[k]?.map fun label =>
      { Node.ofLabel label with
        children := if k + 1 < labels.length then [.node (id + k + 1)] else [] } := by
  induction labels generalizing id k with
  | nil => rfl
  | cons label rest ih => cases rest with
    | nil => cases k <;> rfl
    | cons next rest =>
      rw [chain]
      · cases k with
        | zero => simp
        | succ k =>
          have hid : id + 1 + k + 1 = id + (k + 1) + 1 := by omega
          rw [List.getElem?_cons_succ, List.getElem?_cons_succ, ih, hid]
          simp only [List.length_cons, Nat.add_lt_add_iff_right]
      · simp

end Tree

namespace TreeRecord

variable {r : TreeRecord} {index : Nat} {rules : List Rule} {t : Tree}

/-- The `k`-th node of the chain of a record where `rules` came to stand at the nodes. -/
def spineNode (r : TreeRecord) (rules : List Rule) (k : Nat) (label : String) : Node :=
  { Node.ofLabel label with
    children := if k + 1 < r.spineLabels.length then [.node (k + 1)] else []
    rules := (Rule.standing r.spineLabels.length k rules).eraseDups
    treeType := r.treeType
    predicate := if k = 0 then r.predicate else none
    rolesetId := if k = 0 then r.rolesetId else none
    argCount := if k = 0 then r.argCount else none
    treeId := if k = 0 then r.treeId else none }

/-- `r.Carries rules t`: the tree is the chain of the record with the rules at its nodes. -/
structure Carries (r : TreeRecord) (rules : List Rule) (t : Tree) : Prop where
  root : t.root = 0
  size : t.nodes.size = r.spineLabels.length
  nonempty : 0 < t.nodes.size
  nodes : ∀ k, t.nodes[k]? = r.spineLabels[k]?.map (r.spineNode rules k)

theorem ofSpine_of_ne_nil {labels : List String} {word : Option String} (h : labels ≠ []) :
    Tree.ofSpine labels word = ⟨(Tree.chain 0 word labels).toArray, 0⟩ := by
  cases labels with
  | nil => exact absurd rfl h
  | cons label rest => rfl

theorem carries_bareSpine (hspine : r.spineLabels ≠ []) : r.Carries [] r.bareSpine where
  root := by
    unfold bareSpine
    rw [ofSpine_of_ne_nil hspine]
  size := by
    unfold bareSpine
    rw [ofSpine_of_ne_nil hspine, Array.size_modify, Array.size_map, List.size_toArray,
      Tree.length_chain]
  nonempty := r.linear_bareSpine.nonempty
  nodes := by
    intro k
    unfold bareSpine
    rw [ofSpine_of_ne_nil hspine, Array.getElem?_modify, Array.getElem?_map,
      List.getElem?_toArray, Tree.getElem?_chain_none]
    cases r.spineLabels[k]? with
    | none => simp
    | some label =>
      unfold spineNode
      by_cases hk : k = 0
      · subst hk
        simp [Rule.standing, Node.ofLabel]
      · simp [Rule.standing, Node.ofLabel, hk, Ne.symm hk]

theorem Carries.exists_node (h : r.Carries rules t) {k : Nat} (hk : k < t.nodes.size) :
    ∃ label, t.node k = .ok (r.spineNode rules k label) := by
  have hlength : k < r.spineLabels.length := h.size ▸ hk
  refine ⟨r.spineLabels[k], ?_⟩
  rw [Tree.node_eq_ok_iff, h.nodes, List.getElem?_eq_getElem hlength]
  rfl

/-- From a node of the chain the only way down goes through first children. -/
theorem Carries.resolve (h : r.Carries rules t) {start : Nat} (hstart : start < t.nodes.size)
    (a : Address) : t.resolve start a = .ok
      (if start + a.length < t.nodes.size ∧ a = List.replicate a.length 0 then
        some (start + a.length) else none) := by
  induction a generalizing start with
  | nil => simp [Tree.resolve, hstart]
  | cons i a ih =>
    obtain ⟨label, hnode⟩ := h.exists_node hstart
    rw [Tree.resolve, hnode, ok_bind]
    unfold spineNode
    rw [← h.size]
    by_cases hnext : start + 1 < t.nodes.size
    · rw [if_pos hnext]
      cases i with
      | zero =>
        have hlength : start + (a.length + 1) = start + 1 + a.length := by omega
        simp only [List.getElem?_cons_zero, ih hnext, List.length_cons, List.replicate_succ,
          List.cons.injEq, true_and, hlength]
      | succ i => simp [List.replicate_succ]
    · -- The last node has no child, and any further step would pass the end of the chain.
      rw [if_neg hnext, List.getElem?_nil, if_neg]
      · rfl
      · rw [List.length_cons]
        omega

/-- One more rule comes to the chain. -/
theorem Carries.exists_anchor (h : r.Carries rules t) {record : RuleRecord} {rule : Rule}
    (hrule : record.Converts index (.ok rule)) :
    ∃ t', anchor index t record = .ok t' ∧ r.Carries (rules ++ [rule]) t' := by
  -- Both branches push one rule to one node, which is the root if the address leads nowhere.
  have hplace : anchor index t record = Attempt.ofChecked
      (t.update (rule.anchored t.nodes.size).1 (·.pushRule (rule.anchored t.nodes.size).2)) := by
    unfold anchor
    rw [RuleRecord.toRule_eq_iff.2 hrule]
    simp only [Attempt.ofRefusable, ok_bind]
    unfold Rule.anchored Tree.nodeAt
    rw [h.root, h.resolve h.nonempty, Nat.zero_add]
    by_cases hchain : rule.target.length < t.nodes.size ∧
        rule.target = List.replicate rule.target.length 0
    · rw [if_pos hchain, if_pos hchain]
      rfl
    · rw [if_neg hchain, if_neg hchain]
      rfl
  have hlt := rule.anchored_lt h.nonempty
  rw [hplace, Tree.update_eq_ok hlt]
  refine ⟨_, rfl, h.root, ?_, ?_, ?_⟩
  · rw [← h.size, Array.size_modify]
  · rw [Array.size_modify]
    exact h.nonempty
  · intro k
    rw [Array.getElem?_modify, h.nodes]
    cases hlabel : r.spineLabels[k]? with
    | none => simp
    | some label =>
      have hk : k < r.spineLabels.length := (List.getElem?_eq_some_iff.1 hlabel).1
      rw [h.size]
      unfold spineNode
      rw [Rule.standing_append, Rule.standing_singleton hk]
      by_cases hhere : (rule.anchored r.spineLabels.length).1 = k
      · rw [if_pos hhere, if_pos hhere]
        exact congrArg some
          (Node.pushRule_eraseDups (r.spineNode rules k label) _ (rule.anchored _).2)
      · rw [if_neg hhere, if_neg hhere, List.append_nil]

theorem anchor_of_error {record : RuleRecord} {e : RecordError}
    (h : record.Converts index (.error e)) : anchor index t record = .error (.refused e) := by
  unfold anchor
  rw [RuleRecord.toRule_eq_iff.2 h]
  rfl

/-- The loop: the rules of a list of records come to the chain one after the other. -/
theorem Carries.exists_foldlM (h : r.Carries rules t) {records : List RuleRecord}
    {later : List Rule} (hrules : RuleRecord.AllConvert index records later) :
    ∃ t', records.foldlM (anchor index) t = .ok t' ∧ r.Carries (rules ++ later) t' := by
  induction hrules generalizing rules t with
  | nil => exact ⟨t, rfl, by rwa [List.append_nil]⟩
  | cons hrule _ ih =>
    obtain ⟨t₁, ht₁, h₁⟩ := h.exists_anchor hrule
    obtain ⟨t', ht', h'⟩ := ih h₁
    rw [List.append_assoc] at h'
    exact ⟨t', by rw [List.foldlM_cons, ht₁, ok_bind, ht'], h'⟩

theorem exists_unlexicalized (hspine : r.spineLabels ≠ [])
    (hrules : RuleRecord.AllConvert index r.rules rules) :
    ∃ t, r.unlexicalized index = .ok t ∧ r.Carries rules t := by
  have hfull : r.spineLabels.isEmpty = false := by simpa using hspine
  unfold unlexicalized
  rw [hfull]
  exact (carries_bareSpine hspine).exists_foldlM hrules

theorem unlexicalized_of_first {before after : List RuleRecord} {record : RuleRecord}
    {e : RecordError} (hspine : r.spineLabels ≠ []) (hsplit : r.rules = before ++ record :: after)
    (hbefore : RuleRecord.AllConvert index before rules)
    (he : record.Converts index (.error e)) : r.unlexicalized index = .error (.refused e) := by
  have hfull : r.spineLabels.isEmpty = false := by simpa using hspine
  obtain ⟨t, ht, _⟩ := (carries_bareSpine hspine).exists_foldlM hbefore
  unfold unlexicalized
  rw [hfull, hsplit]
  show (before ++ record :: after).foldlM (anchor index) r.bareSpine = _
  rw [List.foldlM_append, ht, ok_bind, List.foldlM_cons, anchor_of_error he]
  rfl

/-- All rules of a record convert, or the first that does not says why. -/
theorem converts_or_exists_first (index : Nat) (records : List RuleRecord) :
    (∃ rules, RuleRecord.AllConvert index records rules) ∨
      ∃ before record after rules e, records = before ++ record :: after ∧
        RuleRecord.AllConvert index before rules ∧ record.Converts index (.error e) := by
  simp only [RuleRecord.AllConvert, ← RuleRecord.toRule_eq_iff]
  exact forall₂_ok_or_exists_first _ records

/-- A record has no spine, or it comes to a chain that carries its rules, or one of its rules says
    why not. -/
theorem unlexicalized_outcome (r : TreeRecord) (index : Nat) :
    (∃ t rules, r.unlexicalized index = .ok t ∧ r.spineLabels ≠ [] ∧ r.Carries rules t ∧
      RuleRecord.AllConvert index r.rules rules) ∨
    ∃ e, r.unlexicalized index = .error (.refused e) := by
  by_cases hspine : r.spineLabels = []
  · refine .inr ⟨.emptySpine index r.spine, ?_⟩
    unfold unlexicalized
    rw [hspine]
    rfl
  · rcases converts_or_exists_first index r.rules with hall | hfirst
    · obtain ⟨rules, hrules⟩ := hall
      obtain ⟨t, ht, hcarries⟩ := exists_unlexicalized hspine hrules
      exact .inl ⟨t, rules, ht, hspine, hcarries, hrules⟩
    · obtain ⟨before, record, after, rules, e, hsplit, hbefore, he⟩ := hfirst
      exact .inr ⟨e, unlexicalized_of_first hspine hsplit hbefore he⟩

theorem carries_of_unlexicalized (h : r.unlexicalized index = .ok t) :
    r.spineLabels ≠ [] ∧
      ∃ rules, r.Carries rules t ∧ RuleRecord.AllConvert index r.rules rules := by
  rcases unlexicalized_outcome r index with hok | herror
  · obtain ⟨t', rules, ht', hspine, hcarries, hrules⟩ := hok
    obtain rfl := Except.ok.inj (ht'.symm.trans h)
    exact ⟨hspine, rules, hcarries, hrules⟩
  · obtain ⟨e, he⟩ := herror
    rw [h] at he
    cases he

/-- The record has a spine, and all its rules can be read. -/
def Readable (r : TreeRecord) : Prop :=
  r.spineLabels ≠ [] ∧ ∀ record ∈ r.rules, record.Readable

/-- Whether a record comes to a chain does not depend on where it stands. -/
theorem readable_iff (index : Nat) : r.Readable ↔ ∃ t, r.unlexicalized index = .ok t := by
  constructor
  · intro h
    obtain ⟨hspine, hreadable⟩ := h
    rcases converts_or_exists_first index r.rules with hall | hfirst
    · obtain ⟨rules, hrules⟩ := hall
      obtain ⟨t, ht, _⟩ := exists_unlexicalized hspine hrules
      exact ⟨t, ht⟩
    · -- The first record that cannot be read is one that can.
      obtain ⟨before, record, after, _, e, hsplit, _, he⟩ := hfirst
      obtain ⟨rule, hrule⟩ := hreadable record (by simp [hsplit])
      have herror := RuleRecord.toRule_eq_iff.2 he
      rw [RuleRecord.toRule_eq_iff.2 (hrule index)] at herror
      cases herror
  · intro h
    obtain ⟨t, ht⟩ := h
    obtain ⟨hspine, rules, _, hrules⟩ := carries_of_unlexicalized ht
    refine ⟨hspine, ?_⟩
    intro record hrecord
    obtain ⟨rule, _, hrule⟩ := exists_right_of_mem hrules hrecord
    exact ⟨rule, hrule.reindex⟩

/-- No rule is lost. -/
theorem Carries.exists_standing (h : r.Carries rules t) {rule : Rule} (hrule : rule ∈ rules) :
    ∃ k node, t.node k = .ok node ∧
      (rule.target = List.replicate k 0 ∧ rule.selfAddressed ∈ node.rules ∨
        k = 0 ∧ rule ∈ node.rules) := by
  have hlt := rule.anchored_lt h.nonempty
  obtain ⟨label, hnode⟩ := h.exists_node hlt
  have hmem : (rule.anchored t.nodes.size).2 ∈
      (r.spineNode rules (rule.anchored t.nodes.size).1 label).rules := by
    show _ ∈ (Rule.standing _ _ rules).eraseDups
    rw [List.mem_eraseDups, ← h.size]
    obtain ⟨before, after, rfl⟩ := List.append_of_mem hrule
    rw [List.append_cons, Rule.standing_append, Rule.standing_append,
      Rule.standing_singleton hlt, if_pos rfl]
    simp
  refine ⟨_, _, hnode, ?_⟩
  by_cases hchain : ∃ j < t.nodes.size, rule.target = List.replicate j 0
  · obtain ⟨j, hj, htarget⟩ := hchain
    rw [Rule.anchored_of_target hj htarget] at hmem ⊢
    exact .inl ⟨htarget, hmem⟩
  · have hnone : ∀ j < t.nodes.size, rule.target ≠ List.replicate j 0 :=
      fun j hj htarget => hchain ⟨j, hj, htarget⟩
    rw [Rule.anchored_of_ne hnone] at hmem ⊢
    exact .inr ⟨rfl, hmem⟩

/-- The rules tell the chain. -/
theorem Carries.unique {t' : Tree} (h : r.Carries rules t) (h' : r.Carries rules t') : t = t' := by
  have hnodes : t.nodes = t'.nodes :=
    Array.ext_getElem? fun k => (h.nodes k).trans (h'.nodes k).symm
  cases t
  cases t'
  cases hnodes
  cases h.root.trans h'.root.symm
  rfl

/-- A tree that a record comes to does not depend on where the record stands. -/
theorem unlexicalized_reindex (h : r.unlexicalized index = .ok t) (index' : Nat) :
    r.unlexicalized index' = .ok t := by
  obtain ⟨hspine, rules, hcarries, hrules⟩ := carries_of_unlexicalized h
  obtain ⟨t', ht', hcarries'⟩ :=
    exists_unlexicalized hspine (hrules.imp fun _ _ hrule => hrule.reindex index')
  rw [ht', hcarries'.unique hcarries]

/-- **Push-down of rules**: where a record has a spine of `n` labels and all its rules convert, it
    comes to a chain of `n` nodes with these labels. The rules at the `k`-th node below the root are
    those that are addressed by `k` zeros, now addressed to the node itself; the rules at the root
    are those that are addressed to it and, as they are, those whose address is no such number of
    zeros below `n`. They stand in the order of the record, an equal one that comes later is
    dropped, and no rule is lost otherwise. Where some rule does not convert, the first such rule
    says why there is no tree. -/
theorem unlexicalized_anchors_rules (r : TreeRecord) (index : Nat) (hspine : r.spineLabels ≠ []) :
    (∀ rules, RuleRecord.AllConvert index r.rules rules →
      ∃ t, r.unlexicalized index = .ok t ∧ t.root = 0 ∧ t.nodes.size = r.spineLabels.length ∧
        (∀ k label, r.spineLabels[k]? = some label → ∃ node, t.node k = .ok node ∧
          node.Spells label ∧
          node.children = (if k + 1 < r.spineLabels.length then [.node (k + 1)] else []) ∧
          (0 < k → node.rules = ((rules.filter fun rule => rule.target = List.replicate k 0).map
            Rule.selfAddressed).eraseDups) ∧
          (k = 0 → node.rules = (rules.filter fun rule => rule.target = [] ∨
            ∀ j < r.spineLabels.length, rule.target ≠ List.replicate j 0).eraseDups)) ∧
        ∀ rule ∈ rules, ∃ k node, t.node k = .ok node ∧
          (rule.target = List.replicate k 0 ∧ rule.selfAddressed ∈ node.rules ∨
            k = 0 ∧ rule ∈ node.rules)) ∧
    ((∃ record ∈ r.rules, ∃ e, record.Converts index (.error e)) →
      ∃ before record after e, r.rules = before ++ record :: after ∧
        (∀ earlier ∈ before, ∃ rule, earlier.Converts index (.ok rule)) ∧
        record.Converts index (.error e) ∧ r.unlexicalized index = .error (.refused e)) := by
  constructor
  · intro rules hrules
    obtain ⟨t, ht, hcarries⟩ := exists_unlexicalized hspine hrules
    refine ⟨t, ht, hcarries.root, hcarries.size, ?_, fun rule => hcarries.exists_standing⟩
    intro k label hlabel
    refine ⟨r.spineNode rules k label, ?_, Node.spells_ofLabel label, rfl, ?_, ?_⟩
    · rw [Tree.node_eq_ok_iff, hcarries.nodes, hlabel]
      rfl
    · intro hk
      show (Rule.standing _ k rules).eraseDups = _
      unfold Rule.standing
      rw [if_neg (by omega)]
    · intro hk
      show (Rule.standing _ k rules).eraseDups = _
      unfold Rule.standing
      rw [if_pos hk]
  · intro herror
    obtain ⟨bad, hbad, e, he⟩ := herror
    rcases converts_or_exists_first index r.rules with hall | hfirst
    · -- A rule that does not convert is among those that do.
      obtain ⟨rules, hrules⟩ := hall
      obtain ⟨rule, _, hrule⟩ := exists_right_of_mem hrules hbad
      rw [← RuleRecord.toRule_eq_iff] at he hrule
      rw [he] at hrule
      cases hrule
    · obtain ⟨before, record, after, rules, e', hsplit, hbefore, he'⟩ := hfirst
      refine ⟨before, record, after, e', hsplit, ?_, he', ?_⟩
      · intro earlier hearlier
        obtain ⟨rule, _, hrule⟩ := exists_right_of_mem hbefore hearlier
        exact ⟨rule, hrule⟩
      · exact unlexicalized_of_first hspine hsplit hbefore he'

end TreeRecord

/-- A rule for an adverb on the right of the node below the root, whose address is as given. -/
def adverbRecord (target : AddressRecord) : RuleRecord where
  kind := .adjoin
  pos := "ADVP"
  target := target
  slot := some 1
  order := some 0
  role := none
  description := none
  attachCounts := .empty

/-- A record of a verb phrase with given rules. -/
def verbRecord (rules : List RuleRecord) : TreeRecord where
  spine := "(S (VP^))"
  word := none
  lexicon := none
  treeType := none
  predicate := some "run"
  rolesetId := none
  argCount := none
  treeId := none
  rules := rules

/-- The rule for an adverb with an address. -/
def adverbRule (target : Address) : Rule :=
  ⟨.adjoin, "ADVP", ⟨target, .right, 0⟩, none, none, .empty⟩

theorem unlexicalized_anchors_rules_adverbs :
    (∀ rules, (verbRecord rules).spineLabels ≠ []) ∧
    (∃ t root node, (verbRecord [adverbRecord (.dotted "0.0"), adverbRecord (.indices [0, 3]),
        adverbRecord (.indices [0])]).unlexicalized 0 = .ok t ∧
      t.node 0 = .ok root ∧ root.rules = [adverbRule [0, 3]] ∧
      t.node 1 = .ok node ∧ node.rules = [adverbRule []]) ∧
    ∃ (record : RuleRecord) (e : RecordError), record.Converts 0 (.error e) ∧
      (verbRecord [adverbRecord (.indices []), adverbRecord (.dotted "x")]).unlexicalized 0 =
        .error (.refused e) := by
  have hspine : ∀ rules, (verbRecord rules).spineLabels ≠ [] := by
    intro rules
    show (verbRecord []).spineLabels ≠ []
    decide +kernel
  refine ⟨hspine, ?_, ?_⟩
  · have hread : [adverbRecord (.dotted "0.0"), adverbRecord (.indices [0, 3]),
        adverbRecord (.indices [0])].mapM (·.toRule 0) =
        .ok [adverbRule [0], adverbRule [0, 3], adverbRule [0]] := by decide +kernel
    obtain ⟨hconverts, _⟩ := TreeRecord.unlexicalized_anchors_rules (verbRecord
      [adverbRecord (.dotted "0.0"), adverbRecord (.indices [0, 3]), adverbRecord (.indices [0])])
      0 (hspine _)
    obtain ⟨t, ht, _, _, hnodes, _⟩ := hconverts _
      ((mapM_eq_ok_iff.1 hread).imp fun _ _ => RuleRecord.toRule_eq_iff.1)
    obtain ⟨root, hroot, _, _, _, hrootRules⟩ := hnodes 0 "S" (by decide +kernel)
    obtain ⟨node, hnode, _, _, hnodeRules, _⟩ := hnodes 1 "VP^" (by decide +kernel)
    refine ⟨t, root, node, ht, hroot, ?_, hnode, ?_⟩
    · rw [hrootRules rfl]
      decide +kernel
    · rw [hnodeRules Nat.one_pos]
      decide +kernel
  · obtain ⟨_, hfails⟩ := TreeRecord.unlexicalized_anchors_rules (verbRecord
      [adverbRecord (.indices []), adverbRecord (.dotted "x")]) 0 (hspine _)
    obtain ⟨_, record, _, e, _, _, he, hresult⟩ := hfails ⟨adverbRecord (.dotted "x"),
      List.mem_cons_of_mem _ (List.mem_singleton_self _), .invalidAddress "x",
      RuleRecord.toRule_eq_iff.1 (by decide +kernel)⟩
    exact ⟨record, e, he, hresult⟩

end SpineGrammar
