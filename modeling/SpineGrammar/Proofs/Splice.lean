import SpineGrammar.Attachment
import SpineGrammar.Phrase.Rewriting
import SpineGrammar.Proofs.TableChange

/-!
# One insertion

What `splice` does to a table, told on the branches that the two tables denote. A rule is served if
`Branch.Serves` names its owner, its target and the position; then the result denotes
`Branch.inserted`, whose ids are those of the host and the raised ids of the candidate.
-/

namespace SpineGrammar

/-! ## The spine gap -/

namespace Tree

variable {t : Tree}

/-- The child that continues the spine is the first part that is on it. -/
theorem Unfolds.spineChildFrom {cs : List Child} {f : Forest} (h : t.Unfolds cs f) (i : Nat) :
    t.spineChildFrom i cs = .ok ((f.phrases.findIdx? Phrase.onSpine).map (· + i)) := by
  induction h generalizing i with
  | nil => rfl
  | leaf _ _ => simp [Tree.spineChildFrom, Forest.phrases, List.findIdx?_cons, Phrase.onSpine]
  | @node id n cs below rest hn _ _ _ ih =>
    rw [Tree.spineChildFrom, hn, ok_bind, Forest.phrases, List.findIdx?_cons, Phrase.onSpine]
    by_cases hattached : n.attached = true
    · rw [if_pos hattached, ih (i + 1)]
      simp [hattached, Function.comp_def, Nat.add_assoc, Nat.add_comm 1]
    · simp [hattached]

/-- Below a node without a spine child every part was attached, so each names its side. -/
theorem Unfolds.leftCount (hslot : t.Slotted) (label : String) {cs : List Child} {f : Forest}
    (h : t.Unfolds cs f) (hoff : ∀ p ∈ f.phrases, Phrase.onSpine p = false) :
    t.leftCount label cs = .ok (f.phrases.countP Phrase.onLeft) := by
  induction h with
  | nil => rfl
  | leaf _ ih =>
    obtain ⟨hword, _⟩ := List.forall_mem_cons.1 hoff
    cases hword
  | @node id n cs below rest hn _ _ _ ih =>
    obtain ⟨hnode, hrest⟩ := List.forall_mem_cons.1 hoff
    have hattached : n.attached = true := by simpa [Phrase.onSpine] using hnode
    obtain ⟨slot, hslot⟩ := hslot n (mem_of_node_eq_ok hn) hattached
    rw [Tree.leftCount, hn, ok_bind, hslot, Forest.phrases, List.countP_cons, ih hrest]
    cases slot <;> simp [Phrase.onLeft, hslot]

/-- The gap of a node is read off the parts of its branch. -/
theorem Holds.gap (hslot : t.Slotted) {b : Branch} (h : t.Holds b) :
    t.gap b.id = .ok (Phrase.gap b.below.phrases) := by
  rw [Tree.gap, h.node, ok_bind, Tree.spineChild?, h.below.spineChildFrom, ok_bind, Phrase.gap]
  cases hspine : b.below.phrases.findIdx? Phrase.onSpine with
  | some i => rfl
  | none =>
    have hoff := List.findIdx?_eq_none_iff.1 hspine
    simp [h.below.leftCount hslot _ hoff]

end Tree

/-! ## Served rules -/

/-- `b.Serves a r s m i`: the rule `r` of the node `s` at the address `a` of `b` has the target `m`,
    and its turn has come to put its argument at position `i` there. -/
structure Branch.Serves (b : Branch) (a : Address) (r : Rule) (s m : Branch) (i : Nat) : Prop where
  owner : b.at? a = some s
  target : s.at? r.target = some m
  position : (Phrase.gap s.below.phrases).position? m.below.phrases.length r.slot r.order = some i

/-- The branch of a candidate as the argument of a rule, its ids raised by `k`. -/
def Branch.argument (k : Nat) (r : Rule) (g : Branch) : Branch :=
  ⟨g.id + k, (g.data.shift k).stamp r, g.below.shift k⟩

/-- The branch with `x` put before the `i`-th child of `target`. -/
def Branch.grown (b : Branch) (target i : Nat) (x : Branch) : Branch :=
  b.editAt target (·.insertChild i (.node x.id)) (·.insertIdx x i)

/-- The branch with `x` put before the `i`-th child of `target` and the rule taken from `owner`. -/
def Branch.inserted (b : Branch) (r : Rule) (owner target i : Nat) (x : Branch) : Branch :=
  (b.grown target i x).editAt owner (·.consumeRule r) fun below => below

theorem SpineGap.position?_le {g : SpineGap} {count order i : Nat} {slot : Slot}
    (h : g.position? count slot order = some i) : i ≤ count := by
  cases slot with
  | left =>
    obtain ⟨_, hi⟩ := Option.ite_none_right_eq_some.1 h
    exact Option.some.inj hi ▸ Nat.min_le_right _ _
  | right =>
    obtain ⟨_, hi⟩ := Option.ite_none_right_eq_some.1 h
    exact Option.some.inj hi ▸ Nat.min_le_right _ _

namespace Branch

variable {b s m x : Branch} {a : Address} {r : Rule} {i : Nat}

theorem Serves.at?_target (h : b.Serves a r s m i) : b.at? (a ++ r.target) = some m := by
  rw [at?_append h.owner, h.target]

theorem Serves.position_le (h : b.Serves a r s m i) : i ≤ m.below.phrases.length :=
  SpineGap.position?_le h.position

theorem gather_editAt_of_eq {α : Type} {onWord : String → List α} {onNode : Nat → Node → List α}
    {id : Nat} {f : Node → Node} (hf : ∀ n, onNode id (f n) = onNode id n) (b : Branch) :
    (b.editAt id f (fun below => below)).gather onWord onNode = b.gather onWord onNode := by
  have hbelow : ∀ g : Forest, (g.editAt id f (fun below => below)).gather onWord onNode =
      g.gather onWord onNode := by
    intro g
    induction g with
    | nil => rfl
    | leaf word rest ih => rw [Forest.editAt, Forest.gather, Forest.gather, ih]
    | node id' data below rest ihbelow ihrest =>
      rw [Forest.editAt]
      by_cases hid : id' = id
      · rw [if_pos hid, Forest.gather, Forest.gather, ihbelow, ihrest, hid, hf]
      · rw [if_neg hid, Forest.gather, Forest.gather, ihbelow, ihrest]
  rw [editAt]
  by_cases hid : b.id = id
  · rw [if_pos hid, gather, gather, hbelow, hid, hf]
  · rw [if_neg hid, gather, gather, hbelow]

/-- What the argument lists comes in one piece between what was listed before. -/
theorem Serves.exists_gather_grown (h : b.Serves a r s m i) (hids : b.ids.Nodup)
    {α : Type} (onWord : String → List α) (onNode : Nat → Node → List α)
    (hnode : ∀ n c, onNode m.id (n.insertChild i c) = onNode m.id n) :
    ∃ before after, b.gather onWord onNode = before ++ after ∧
      (b.grown m.id i x).gather onWord onNode =
        before ++ x.gather onWord onNode ++ after := by
  obtain ⟨before, after, hedit⟩ := exists_gather_editAt h.at?_target hids onWord onNode
  obtain ⟨left, right, hleft, hright⟩ :=
    Forest.exists_gather_insertIdx onWord onNode x h.position_le
  refine ⟨before ++ onNode m.id m.data ++ left, right ++ after, ?_, ?_⟩
  · have hsame := hedit (fun n => n) (fun below => below)
    rw [editAt_id] at hsame
    rw [hsame, gather, hleft]
    simp only [List.append_assoc]
  · rw [grown, hedit, gather, hright, hnode]
    simp only [List.append_assoc]

theorem Serves.exists_gather_inserted (h : b.Serves a r s m i) (hids : b.ids.Nodup)
    {α : Type} (onWord : String → List α) (onNode : Nat → Node → List α)
    (hinsert : ∀ n c, onNode m.id (n.insertChild i c) = onNode m.id n)
    (hconsume : ∀ n, onNode s.id (n.consumeRule r) = onNode s.id n) :
    ∃ before after, b.gather onWord onNode = before ++ after ∧
      (b.inserted r s.id m.id i x).gather onWord onNode =
        before ++ x.gather onWord onNode ++ after := by
  rw [inserted, gather_editAt_of_eq hconsume]
  exact h.exists_gather_grown hids onWord onNode hinsert

theorem Serves.ids_perm (h : b.Serves a r s m i) (hids : b.ids.Nodup) :
    (b.inserted r s.id m.id i x).ids.Perm (b.ids ++ x.ids) := by
  obtain ⟨before, after, hb, hx⟩ := h.exists_gather_inserted (x := x) hids (fun _ => [])
    (fun id _ => [id]) (fun _ _ => rfl) (fun _ => rfl)
  rw [← ids_eq_gather] at hb
  rw [← ids_eq_gather, ← ids_eq_gather] at hx
  rw [hb, hx, List.append_assoc, List.append_assoc]
  exact List.perm_append_comm.append_left before

theorem ids_inserted (b : Branch) (owner target : Nat) :
    (b.inserted r owner target i x).ids = (b.grown target i x).ids := by
  rw [inserted, ids_eq_gather, gather_editAt_of_eq (f := (·.consumeRule r)) fun _ => rfl,
    ids_eq_gather]

/-- The owner stands where it did, with the argument at its target. -/
theorem Serves.at?_grown (h : b.Serves a r s m i) (hids : b.ids.Nodup) :
    (b.grown m.id i x).at? a = some (s.grown m.id i x) :=
  at?_editAt h.owner (id_mem_of_at? h.target) hids

/-- On phrases, the insertion is the rewriting step at the owner's address. -/
theorem Serves.phrase_inserted (h : b.Serves a r s m i) (hids : b.ids.Nodup)
    (hinserted : (b.inserted r s.id m.id i x).ids.Nodup) :
    (b.inserted r s.id m.id i x).phrase =
      (b.phrase.modifyAt (Phrase.insertPart i x.phrase) (a ++ r.target)).modifyAt
        (Phrase.withoutRule r) a := by
  have htarget : (b.grown m.id i x).phrase =
      b.phrase.modifyAt (Phrase.insertPart i x.phrase) (a ++ r.target) := by
    apply phrase_editAt h.at?_target hids
    show Phrase.node m.data.toFeatures (m.below.phrases.insertIdx i x.phrase) =
      .node m.data.toFeatures (m.below.insertIdx x i).phrases
    rw [Forest.phrases_insertIdx]
  have hid : (s.grown m.id i x).id = s.id := id_editAt s
  rw [ids_inserted] at hinserted
  rw [← htarget, inserted, ← hid]
  exact phrase_editAt (h.at?_grown hids) hinserted rfl

theorem phrase_argument (g : Branch) (k : Nat) :
    (g.argument k r).phrase = g.phrase.stamped r := by
  rw [argument, phrase, Forest.phrases_shift]
  rfl

theorem ids_argument (g : Branch) (k : Nat) : (g.argument k r).ids = g.ids.map (· + k) := by
  rw [← ids_shift]
  rfl

end Branch

/-! ## Insertion into a table -/

namespace Tree

/-- The table of `d` with a copy of `c` behind it, put before the `i`-th child of `target` as the
    argument of the rule `r` of `owner`. -/
def spliced (d c : Tree) (r : Rule) (owner target i : Nat) : Tree :=
  let root := c.root + d.nodes.size
  { d with
    nodes := (((d.extend c.nodes).nodes.modify root (Node.stamp r)).modify target
      (·.insertChild i (.node root))).modify owner (·.consumeRule r) }

@[simp] theorem root_spliced (d c : Tree) (r : Rule) (owner target i : Nat) :
    (d.spliced c r owner target i).root = d.root := by
  simp only [spliced]

theorem nodes_spliced (d c : Tree) (r : Rule) (owner target i : Nat) :
    (d.spliced c r owner target i).nodes =
      (((d.extend c.nodes).nodes.modify (c.root + d.nodes.size) (Node.stamp r)).modify target
        (·.insertChild i (.node (c.root + d.nodes.size)))).modify owner (·.consumeRule r) := by
  simp only [spliced]

variable {d c : Tree} {b g s m : Branch} {a : Address} {r : Rule} {i : Nat}

theorem IsTree.fits (h : c.IsTree) (offset : Nat) : c.fits offset = true := by
  have hnodes : c.nodes.all (Node.fits c.nodes.size offset) = true := by
    rw [Array.all_eq_true_iff_forall_mem]
    intro n hn
    rw [Node.fits, List.all_eq_true]
    intro child hchild
    cases child with
    | leaf word => rfl
    | node id => simp [Child.fits, idFits, h.child_lt n hn id hchild]
  simp [Tree.fits, hnodes, idFits, h.root_lt]

/-- What comes of a splice whose target is there: the argument at the position that the gap of the
    owner gives, if it gives one. -/
theorem splice_eq_map {owner target : Nat} {gap : SpineGap} {host : Node}
    (howner : owner < d.nodes.size) (hgap : d.gap owner = .ok gap)
    (htarget : d.resolve owner r.target = .ok (some target)) (hhost : d.node target = .ok host)
    (hc : c.IsTree) :
    d.splice owner r c = .ok
      ((gap.position? host.children.length r.slot r.order).map (d.spliced c r owner target)) := by
  have hroot := hc.root_lt
  have hsize := lt_of_node_eq_ok hhost
  rw [splice, htarget, ok_bind]
  simp only
  rw [hgap, ok_bind, hhost, ok_bind]
  cases gap.position? host.children.length r.slot r.order with
  | none => rfl
  | some i =>
    simp only [graft, hc.fits, if_true]
    rw [ok_bind]
    simp only
    rw [update_eq_ok (by rw [size_extend]; omega), ok_bind,
      update_eq_ok (by rw [Array.size_modify, size_extend]; omega), ok_bind,
      update_eq_ok (by rw [Array.size_modify, Array.size_modify, size_extend]; omega)]
    rfl

/-- A rule that is served has a result. -/
theorem splice_eq_some (hd : d.Holds b) (hslot : d.Slotted) (hc : c.IsTree)
    (h : b.Serves a r s m i) :
    d.splice s.id r c = .ok (some (d.spliced c r s.id m.id i)) := by
  have hs := hd.at? h.owner
  have hm := hs.at? h.target
  have htarget : d.resolve s.id r.target = .ok (some m.id) := by
    rw [hs.resolve, h.target]
    rfl
  rw [splice_eq_map (lt_of_node_eq_ok hs.node) (hs.gap hslot) htarget hm.node hc,
    ← hm.below.length_phrases, h.position]
  rfl

/-- A rule that is not served has none. -/
theorem splice_eq_none (hd : d.Holds b) (hslot : d.Slotted) (hs : b.at? a = some s)
    (h : ∀ m i, ¬ b.Serves a r s m i) : d.splice s.id r c = .ok none := by
  have hsheld := hd.at? hs
  rw [splice, hsheld.resolve, ok_bind]
  cases hm : s.at? r.target with
  | none => rfl
  | some m =>
    have hmheld := hsheld.at? hm
    simp only [Option.map_some]
    rw [hsheld.gap hslot, ok_bind, hmheld.node, ok_bind, ← hmheld.below.length_phrases]
    split
    · rfl
    · next i hi => exact absurd ⟨hs, hm, hi⟩ (h m i)

/-- The ids of an argument are new to the table that it comes to. -/
theorem Holds.notMem_argument (h : d.Holds b) (r : Rule) {id : Nat} (hid : id ∈ b.ids) :
    id ∉ (g.argument d.nodes.size r).ids := by
  intro hmem
  rw [Branch.ids_argument] at hmem
  obtain ⟨id', _, rfl⟩ := List.mem_map.1 hmem
  exact absurd (h.lt_of_mem_ids hid) (by omega)

/-- A table that was extended by `c` and stamped at the copied root holds the argument. -/
theorem Denotes.argument (hc : c.Denotes g) {t : Tree}
    (hup : (d.extend c.nodes).update (c.root + d.nodes.size) (Node.stamp r) = .ok t) :
    t.Holds (g.argument d.nodes.size r) := by
  have hids : (g.shift d.nodes.size).ids.Nodup := by
    rw [Branch.ids_shift]
    exact hc.ids_nodup.map fun _ _ hid => Nat.add_right_cancel hid
  rw [← hc.root] at hup
  have hstamped : t.Holds ((g.shift d.nodes.size).editAt (g.shift d.nodes.size).id
      (Node.stamp r) fun below => below) :=
    hc.extend_shift.update_features hup fun _ => rfl
  rw [Branch.editAt_self hids] at hstamped
  exact hstamped

/-- The ids of the result are those of the host and the new ids of the argument. -/
theorem Denotes.nodup_inserted (hd : d.Denotes b) (hc : c.Denotes g) (h : b.Serves a r s m i) :
    (b.inserted r s.id m.id i (g.argument d.nodes.size r)).ids.Nodup := by
  rw [(h.ids_perm hd.ids_nodup).nodup_iff, List.nodup_append]
  refine ⟨hd.ids_nodup, ?_, ?_⟩
  · rw [Branch.ids_argument]
    exact hc.ids_nodup.map fun _ _ hid => Nat.add_right_cancel hid
  · rintro id hid _ hmem rfl
    exact hd.notMem_argument r hid hmem

/-- The result of a rule that is served denotes the branch with the argument in it. -/
theorem spliced_denotes (hd : d.Denotes b) (hc : c.Denotes g) (h : b.Serves a r s m i) :
    (d.spliced c r s.id m.id i).Denotes
      (b.inserted r s.id m.id i (g.argument d.nodes.size r)) := by
  have hs := lt_of_node_eq_ok (hd.at? h.owner).node
  have hm := lt_of_node_eq_ok ((hd.at? h.owner).at? h.target).node
  have hroot := hc.root ▸ lt_of_node_eq_ok hc.node
  have hnew : ∀ id ∈ b.ids, id ∉ (g.argument d.nodes.size r).ids :=
    fun id hid => hd.notMem_argument r hid
  -- The four steps of the insertion: copy, stamp, put in place, take the rule.
  obtain ⟨stamped, hstamp⟩ : ∃ t, (d.extend c.nodes).update (c.root + d.nodes.size)
      (Node.stamp r) = .ok t := ⟨_, update_eq_ok (by rw [size_extend]; omega) _⟩
  have hsize := size_of_update hstamp
  rw [size_extend] at hsize
  obtain ⟨placed, hplace⟩ : ∃ t, stamped.update m.id
      (·.insertChild i (.node (g.id + d.nodes.size))) = .ok t := ⟨_, update_eq_ok (by omega) _⟩
  have hsize' := size_of_update hplace
  obtain ⟨taken, htake⟩ : ∃ t, placed.update s.id (·.consumeRule r) = .ok t :=
    ⟨_, update_eq_ok (by omega) _⟩
  have hargument := hc.argument hstamp
  -- Copy and stamp touch no node of `b`; the later steps touch none of the argument's.
  have hb : stamped.Holds b := by
    refine (hd.extend c.nodes).update_of_notMem hstamp fun hmem => hnew _ hmem ?_
    rw [← hc.root]
    exact Branch.id_mem_ids _
  have hargument' := hargument.update_of_notMem hplace
    (hnew m.id (Branch.id_mem_of_at? h.at?_target))
  have hplaced := Holds.update_insertChild hplace hargument' hb
  have htaken := hplaced.update_features htake fun _ => rfl
  refine ⟨?_, ?_, hd.nodup_inserted hc h⟩
  · obtain ⟨_, rfl⟩ := update_eq_ok_iff.1 hstamp
    obtain ⟨_, rfl⟩ := update_eq_ok_iff.1 hplace
    obtain ⟨_, rfl⟩ := update_eq_ok_iff.1 htake
    rw [hc.root] at htaken
    exact htaken
  · rw [root_spliced, Branch.inserted, Branch.id_editAt, Branch.grown, Branch.id_editAt]
    exact hd.root

/-! ## The nodes of the result -/

variable {owner target : Nat}

/-- What all nodes of both tables have, and what the three changes keep, all nodes of the result
    have. -/
theorem forall_mem_spliced {P : Node → Prop} (hd : ∀ n ∈ d.nodes, P n)
    (hc : ∀ n ∈ c.nodes, P (n.shift d.nodes.size)) (hstamp : ∀ n, P n → P (n.stamp r))
    (hinsert : ∀ n, P n → P (n.insertChild i (.node (c.root + d.nodes.size))))
    (hconsume : ∀ n, P n → P (n.consumeRule r)) :
    ∀ n ∈ (d.spliced c r owner target i).nodes, P n := by
  have hextend : ∀ n ∈ (d.extend c.nodes).nodes, P n := by
    intro n hn
    rcases Array.mem_append.1 hn with hn | hn
    · exact hd n hn
    · obtain ⟨old, hold, rfl⟩ := Array.mem_map.1 hn
      exact hc old hold
  rw [nodes_spliced]
  exact forall_mem_modify hconsume (forall_mem_modify hinsert (forall_mem_modify hstamp hextend _)
    _) _

theorem size_spliced : (d.spliced c r owner target i).nodes.size = d.nodes.size + c.nodes.size := by
  simp [spliced, size_extend]

/-- The child ids of the result name nodes of it. -/
theorem child_lt_spliced (hd : d.IsTree) (hc : c.IsTree) :
    ∀ n ∈ (d.spliced c r owner target i).nodes, ∀ id, Child.node id ∈ n.children →
      id < (d.spliced c r owner target i).nodes.size := by
  rw [size_spliced]
  apply forall_mem_spliced
  · intro n hn id hid
    have hlt := hd.child_lt n hn id hid
    omega
  · intro n hn id hid
    obtain ⟨child, hchild, hshift⟩ := List.mem_map.1 hid
    cases child with
    | leaf word => cases hshift
    | node old =>
      obtain rfl : old + d.nodes.size = id := by simpa [Child.shift] using hshift
      have hlt := hc.child_lt n hn old hchild
      omega
  · exact fun n hn => hn
  · intro n hn id hid
    rcases List.eq_or_mem_of_mem_insertIdx hid with heq | hmem
    · obtain rfl := Child.node.inj heq
      have hlt := hc.root_lt
      omega
    · exact hn id hmem
  · exact fun n hn => hn

theorem isTree_spliced (hdtree : d.IsTree) (hctree : c.IsTree) (hd : d.Denotes b)
    (hc : c.Denotes g) (h : b.Serves a r s m i) : (d.spliced c r s.id m.id i).IsTree :=
  (spliced_denotes hd hc h).isTree (child_lt_spliced hdtree hctree)

end Tree

end SpineGrammar
