import SpineGrammar.Proofs.Insertion

/-!
# Children beside the spine

`Tree.sideCount` counts the children on a side of a node's own spine gap. A rule that acts on its
owner is served if this count is its order. The insertion then puts the argument at the end of that
side: the count of that side and node grows by one, and every other count stays, whether of the same
node, of another node of the host or of a node of the candidate.
-/

namespace SpineGrammar

/-- The end of a side of the spine on which `order` of `count` children stand: after as many
    children on the left, or behind all children on the right. -/
def Slot.edge (order count : Nat) : Slot → Nat
  | .left => order
  | .right => count

/-- An argument is put at the end of the rule's side, even where the gap, taken from another node,
    ends past the child list. -/
theorem SpineGap.position?_eq_some_iff {g : SpineGap} {count order i : Nat} {slot : Slot} :
    g.position? count slot order = some i ↔
      g.side count slot = order ∧ i = slot.edge order count := by
  cases slot with
  | left =>
    rw [position?, Option.ite_none_right_eq_some, Option.some.injEq]
    simp only [side, sides, Slot.edge]
    omega
  | right =>
    rw [position?, Option.ite_none_right_eq_some, Option.some.injEq]
    simp only [side, sides, Slot.edge]
    omega

/-! ## Gaps of parts -/

namespace Phrase

variable {q : Phrase}

/-- The gap of a list of parts lies within the list. -/
theorem gap_le_length (parts : List Phrase) :
    (gap parts).index + (gap parts).width ≤ parts.length := by
  unfold gap
  split
  · next j hj => exact (List.findIdx?_eq_some_iff_getElem.1 hj).1
  · exact List.countP_le_length

/-- A part attached on the left moves the gap by one. -/
theorem gap_insertIdx_index (parts : List Phrase) (hspine : onSpine q = false)
    (hleft : onLeft q = true) :
    gap (parts.insertIdx (gap parts).index q) = ⟨(gap parts).index + 1, (gap parts).width⟩ := by
  have hfound : ∀ (ps : List Phrase) (j : Nat), ps.findIdx? onSpine = some j →
      (ps.insertIdx j q).findIdx? onSpine = some (j + 1) := by
    intro ps
    induction ps with
    | nil =>
      intro j hj
      cases hj
    | cons p ps ih =>
      intro j hj
      rw [List.findIdx?_cons] at hj
      by_cases hp : onSpine p = true
      · rw [if_pos hp, Option.some.injEq] at hj
        subst hj
        simp [List.findIdx?_cons, hspine, hp]
      · rw [if_neg hp, Option.map_eq_some_iff] at hj
        obtain ⟨j, hj, rfl⟩ := hj
        simp [List.findIdx?_cons, hp, ih j hj]
  cases hspot : parts.findIdx? onSpine with
  | some j =>
    have hgap : gap parts = ⟨j, 1⟩ := by simp [gap, hspot]
    rw [hgap, gap, hfound parts j hspot]
  | none =>
    have hgap : gap parts = ⟨parts.countP onLeft, 0⟩ := by simp [gap, hspot]
    have hperm := List.perm_insertIdx q parts (List.countP_le_length (p := onLeft))
    -- No part is on the spine, so the gap is told by the parts attached on the left.
    have hnone : (parts.insertIdx (parts.countP onLeft) q).findIdx? onSpine = none := by
      rw [List.findIdx?_eq_none_iff] at hspot ⊢
      intro p hp
      rcases List.mem_cons.1 (hperm.mem_iff.1 hp) with rfl | hp
      · exact hspine
      · exact hspot p hp
    rw [hgap, gap, hnone]
    simp [hperm.countP_eq, hleft]

/-- A part attached on the right leaves the gap where it is. -/
theorem gap_append_singleton (parts : List Phrase) (hspine : onSpine q = false)
    (hright : onLeft q = false) : gap (parts ++ [q]) = gap parts := by
  have hlast : [q].findIdx? onSpine = none := by simp [List.findIdx?_cons, hspine]
  simp [gap, List.findIdx?_append, hlast, hright, List.countP_append]

/-- An argument at the end of a side makes this side longer and leaves the other alone. -/
theorem side_insertIdx_edge {parts : List Phrase} {slot : Slot} {order : Nat}
    (horder : (gap parts).side parts.length slot = order) (hspine : onSpine q = false)
    (hslot : onLeft q = decide (slot = .left)) (side : Slot) :
    (gap (parts.insertIdx (slot.edge order parts.length) q)).side (parts.length + 1) side =
      (gap parts).side parts.length side + if side = slot then 1 else 0 := by
  have hle := gap_le_length parts
  cases slot with
  | left =>
    have hindex : (gap parts).index = order := by
      rw [← horder]
      exact (Nat.min_eq_left (by omega)).symm
    rw [Slot.edge, ← hindex, gap_insertIdx_index parts hspine hslot]
    cases side with
    | left => simp [SpineGap.side, SpineGap.sides]
    | right =>
      simp only [SpineGap.side, SpineGap.sides, reduceCtorEq, if_false]
      omega
  | right =>
    rw [Slot.edge, List.insertIdx_length_self, gap_append_singleton parts hspine hslot]
    cases side with
    | left =>
      simp only [SpineGap.side, SpineGap.sides, reduceCtorEq, if_false]
      omega
    | right =>
      simp only [SpineGap.side, SpineGap.sides, if_true]
      omega

end Phrase

/-! ## Side counts -/

namespace Tree

/-- The number of children on a side of a node's own spine gap. -/
def sideCount (t : Tree) (id : Nat) (slot : Slot) : Checked Nat := do
  let n ← t.node id
  let gap ← t.gap id
  return gap.side n.children.length slot

/-- What a child is to the spine: nothing for a word, and for a node whether it was attached and on
    which side. -/
def stance (t : Tree) : Child → Checked (Option (Bool × Option Slot))
  | .leaf _ => .ok none
  | .node id => do
    let n ← t.node id
    return some (n.attached, n.attachedSlot)

variable {t t' d c x : Tree} {b g s m : Branch} {a : Address} {r : Rule} {i id : Nat} {slot : Slot}

theorem stance_node {k : Nat} {n : Node} (h : t.node k = .ok n) :
    t.stance (.node k) = .ok (some (n.attached, n.attachedSlot)) := by
  rw [stance, h]
  rfl

theorem spineChildFrom_cons (t : Tree) (j : Nat) (ch : Child) (cs : List Child) :
    t.spineChildFrom j (ch :: cs) = (do
      match ← t.stance ch with
      | some (true, _) => t.spineChildFrom (j + 1) cs
      | _ => return some j) := by
  cases ch with
  | leaf word => rfl
  | node k =>
    rw [spineChildFrom, stance]
    cases t.node k with
    | error e => rfl
    | ok n => cases hattached : n.attached <;> simp [hattached]

theorem leftCount_cons (t : Tree) (label : String) (ch : Child) (cs : List Child) :
    t.leftCount label (ch :: cs) = (do
      match ← t.stance ch with
      | none => t.leftCount label cs
      | some (_, some .left) => return (← t.leftCount label cs) + 1
      | some (_, some .right) => t.leftCount label cs
      | some (_, none) => .error (.slotlessChild label)) := by
  cases ch with
  | leaf word => rfl
  | node k =>
    rw [leftCount, stance]
    cases t.node k with
    | error e => rfl
    | ok n =>
      cases hside : n.attachedSlot with
      | none => simp [hside]
      | some side => cases side <;> simp [hside]

/-- Where the spine continues depends on what the children are to it. -/
theorem spineChildFrom_congr {cs cs' : List Child} (h : cs'.map t'.stance = cs.map t.stance)
    (j : Nat) : t'.spineChildFrom j cs' = t.spineChildFrom j cs := by
  induction cs generalizing cs' j with
  | nil =>
    rw [List.map_nil, List.map_eq_nil_iff] at h
    rw [h]
    rfl
  | cons ch cs ih =>
    obtain ⟨ch', cs', rfl, hch, hcs⟩ := List.map_eq_cons_iff.1 h
    rw [spineChildFrom_cons, spineChildFrom_cons, hch, ih hcs]

theorem leftCount_congr {cs cs' : List Child} (h : cs'.map t'.stance = cs.map t.stance)
    (label : String) : t'.leftCount label cs' = t.leftCount label cs := by
  induction cs generalizing cs' with
  | nil =>
    rw [List.map_nil, List.map_eq_nil_iff] at h
    rw [h]
    rfl
  | cons ch cs ih =>
    obtain ⟨ch', cs', rfl, hch, hcs⟩ := List.map_eq_cons_iff.1 h
    rw [leftCount_cons, leftCount_cons, hch, ih hcs]

/-- Two nodes with one label, whose children are the same to the spine, have the same gap and the
    same side counts. -/
theorem sideCount_congr {id' : Nat} {n n' : Node} (hn : t.node id = .ok n)
    (hn' : t'.node id' = .ok n') (hlabel : n'.label = n.label)
    (hchildren : n'.children.map t'.stance = n.children.map t.stance) (slot : Slot) :
    t'.sideCount id' slot = t.sideCount id slot := by
  have hlength : n'.children.length = n.children.length := by
    rw [← List.length_map (f := t'.stance), hchildren, List.length_map]
  have hgap : t'.gap id' = t.gap id := by
    rw [gap, gap, hn, hn', ok_bind, ok_bind, spineChild?, spineChild?,
      spineChildFrom_congr hchildren, leftCount_congr hchildren, hlabel]
  rw [sideCount, sideCount, hn, hn', ok_bind, ok_bind, hgap, hlength]

/-- The side counts of a node are read off the parts of its branch. -/
theorem Holds.sideCount (hslot : t.Slotted) (h : t.Holds b) (slot : Slot) :
    t.sideCount b.id slot =
      .ok ((Phrase.gap b.below.phrases).side b.below.phrases.length slot) := by
  rw [Tree.sideCount, h.node, ok_bind, h.gap hslot, ok_bind, h.below.length_phrases]
  rfl

end Tree

/-! ## A rule that acts on its owner -/

namespace Branch

variable {b s m x : Branch} {a : Address} {r : Rule} {i : Nat}

theorem nodup_ids_of_at? (hs : b.at? a = some s) (hids : b.ids.Nodup) : s.ids.Nodup := by
  induction a generalizing b with
  | nil =>
    obtain rfl : b = s := by simpa [at?] using hs
    exact hids
  | cons j a ih =>
    obtain ⟨c, hc, hs⟩ := at?_cons_eq_some_iff.1 hs
    exact ih hs (Forest.nodup_ids_of_branch? hc (List.nodup_cons.1 hids).2)

theorem Serves.target_eq (h : b.Serves a r s m i) (hself : r.target = []) : m = s := by
  have htarget := h.target
  rw [hself, at?, Option.some.injEq] at htarget
  exact htarget.symm

/-- The owner after the insertion: its argument among its items, and without the rule. -/
theorem Serves.at?_inserted_self (h : b.Serves a r s s i) (hids : b.ids.Nodup)
    (hinserted : (b.inserted r s.id s.id i x).ids.Nodup) :
    (b.inserted r s.id s.id i x).at? a = some
      ⟨s.id, (s.data.insertChild i (.node x.id)).consumeRule r, s.below.insertIdx x i⟩ := by
  rw [ids_inserted] at hinserted
  have hgrown := h.at?_grown (x := x) hids
  have hs : s.grown s.id i x = ⟨s.id, s.data.insertChild i (.node x.id), s.below.insertIdx x i⟩ :=
    editAt_self (nodup_ids_of_at? h.owner hids)
  have hnodup := nodup_ids_of_at? hgrown hinserted
  rw [hs] at hgrown hnodup
  rw [inserted, at?_editAt hgrown (id_mem_ids _) hinserted, editAt_self hnodup]

end Branch

/-! ## Side counts after an insertion -/

namespace Tree

variable {t d c x : Tree} {b g s m : Branch} {a : Address} {r : Rule} {i id owner target : Nat}
  {slot : Slot}

/-- What a child of the host is to the spine stays. -/
theorem stance_spliced {ch : Child} {v : Option (Bool × Option Slot)} (h : d.stance ch = .ok v) :
    (d.spliced c r owner target i).stance ch = .ok v := by
  cases ch with
  | leaf word =>
    rw [stance] at h ⊢
    exact h
  | node k =>
    obtain ⟨old, hold, hv⟩ := bind_eq_ok_iff.1 h
    rw [← hv, stance_node (node_spliced_of_lt hold)]
    rfl

/-- What a child of the candidate is to the spine stays, unless it is the root. -/
theorem stance_spliced_shift (howner : owner < d.nodes.size) (htarget : target < d.nodes.size)
    {ch : Child} {v : Option (Bool × Option Slot)} (h : c.stance ch = .ok v)
    (hroot : ch ≠ .node c.root) :
    (d.spliced c r owner target i).stance (ch.shift d.nodes.size) = .ok v := by
  cases ch with
  | leaf word =>
    rw [Child.shift, stance]
    rw [stance] at h
    exact h
  | node k =>
    obtain ⟨old, hold, hv⟩ := bind_eq_ok_iff.1 h
    have hne : k ≠ c.root := fun heq => hroot (congrArg _ heq)
    have hcopy := node_spliced_add (r := r) (i := i) howner htarget hold
    rw [if_neg hne] at hcopy
    rw [Child.shift, stance_node hcopy, ← hv]
    rfl

/-- In a table whose ids name nodes each child is something to the spine. -/
theorem IsTree.exists_stance (h : t.IsTree) {n : Node} (hn : n ∈ t.nodes) {ch : Child}
    (hch : ch ∈ n.children) : ∃ v, t.stance ch = .ok v := by
  cases ch with
  | leaf word => exact ⟨none, rfl⟩
  | node k =>
    obtain ⟨old, _, hold⟩ := exists_node (h.child_lt n hn k hch)
    exact ⟨_, stance_node hold⟩

/-- A node that is not the target keeps its side counts. -/
theorem sideCount_spliced_of_ne (hd : d.IsTree) {n : Node} (hn : d.node id = .ok n)
    (hne : id ≠ target) (slot : Slot) :
    (d.spliced c r owner target i).sideCount id slot = d.sideCount id slot := by
  refine sideCount_congr hn (node_spliced_of_lt hn) rfl ?_ slot
  rw [Node.afterInsertion, if_neg hne]
  refine List.map_congr_left fun ch hch => ?_
  obtain ⟨v, hv⟩ := hd.exists_stance (mem_of_node_eq_ok hn) hch
  rw [stance_spliced hv, hv]

/-- No path leads from a node below the root to the root. -/
theorem IsTree.root_notMem_children (h : c.IsTree) {k : Nat} {n : Node} (hk : c.Reaches k)
    (hn : c.node k = .ok n) : Child.node c.root ∉ n.children := by
  intro hroot
  obtain ⟨a, ha⟩ := hk
  obtain ⟨j, hj⟩ := List.getElem?_of_mem hroot
  have hlong : c.nodeAt (a ++ [j]) = .ok (some c.root) := by
    rw [nodeAt, resolve_append_of_eq_some ha]
    exact resolve_cons_eq_some_iff.2 ⟨n, c.root, hn, hj, rfl⟩
  have hshort : c.nodeAt [] = .ok (some c.root) := rfl
  have heq := h.path_unique _ _ _ hlong hshort
  simp at heq

/-- A node of the candidate keeps its side counts under its raised id. -/
theorem sideCount_spliced_add (hc : c.IsTree) (howner : owner < d.nodes.size)
    (htarget : target < d.nodes.size) {k : Nat} (hk : c.Reaches k) (slot : Slot) :
    (d.spliced c r owner target i).sideCount (k + d.nodes.size) slot = c.sideCount k slot := by
  obtain ⟨n, _, hn⟩ := hc.exists_node_of_reaches hk
  have hnew := node_spliced_add (r := r) (i := i) howner htarget hn
  refine sideCount_congr hn hnew ?_ ?_ slot
  · split <;> rfl
  · have hchildren : (if k = c.root then (n.shift d.nodes.size).stamp r
        else n.shift d.nodes.size).children = n.children.map (Child.shift d.nodes.size) := by
      split <;> rfl
    rw [hchildren, List.map_map]
    refine List.map_congr_left fun ch hch => ?_
    -- Only the root is stamped, and the root is no child.
    have hroot : ch ≠ .node c.root := by
      rintro rfl
      exact hc.root_notMem_children hk hn hch
    obtain ⟨v, hv⟩ := hc.exists_stance (mem_of_node_eq_ok hn) hch
    rw [Function.comp_apply, stance_spliced_shift howner htarget hv hroot, hv]

/-- A rule that acts on its owner is served if as many children as its order says stand on its
    side. -/
theorem Denotes.exists_serves_iff (hd : d.Denotes b) (hslot : d.Slotted) (hs : b.at? a = some s)
    (hself : r.target = []) :
    (∃ i, b.Serves a r s s i) ↔ d.sideCount s.id r.slot = .ok r.order := by
  rw [(hd.at? hs).sideCount hslot, Except.ok.injEq]
  constructor
  · rintro ⟨i, h⟩
    exact (SpineGap.position?_eq_some_iff.1 h.position).1
  · intro horder
    refine ⟨_, hs, ?_, SpineGap.position?_eq_some_iff.2 ⟨horder, rfl⟩⟩
    rw [hself, Branch.at?]

/-- The owner has one child more on the side of the served rule. -/
theorem Denotes.sideCount_spliced_self (hd : d.Denotes b) (hdsound : d.Sound) (hc : c.Denotes g)
    (hcsound : c.Sound) (h : b.Serves a r s s i) {k : Nat} (hk : d.sideCount s.id slot = .ok k) :
    (d.spliced c r s.id s.id i).sideCount s.id slot =
      .ok (k + if slot = r.slot then 1 else 0) := by
  have hresult := spliced_denotes hd hc h
  have hslot : (d.spliced c r s.id s.id i).Slotted :=
    slotted_spliced hdsound.slotted hcsound.slotted
  have howner := hresult.at? (h.at?_inserted_self hd.ids_nodup hresult.ids_nodup)
  obtain ⟨horder, hi⟩ := SpineGap.position?_eq_some_iff.1 h.position
  rw [(hd.at? h.owner).sideCount hdsound.slotted, Except.ok.injEq] at hk
  have hlength := List.length_insertIdx_of_le_length h.position_le
    (g.argument d.nodes.size r).phrase
  rw [howner.sideCount hslot, Forest.phrases_insertIdx, hlength, hi,
    Phrase.side_insertIdx_edge horder, hk]
  · rfl
  · rw [Branch.phrase_argument]
    cases hslot : r.slot <;> simp [Branch.phrase, Phrase.stamped, Phrase.onLeft, hslot]

/-- Side counts after serving a rule that acts on its owner: one more on its side of the owner. -/
theorem Attaches.sideCount (h : d.Attaches c (owner, r) x) (hd : d.Sound) (hc : c.Sound)
    (hself : r.target = []) {k : Nat} (hk : d.sideCount id slot = .ok k) :
    x.sideCount id slot = .ok (k + if id = owner ∧ slot = r.slot then 1 else 0) := by
  obtain ⟨b, g, a, s, m, i, hb, hg, rfl, hserves, _, rfl⟩ := h.exists_serves hd hc
  obtain rfl := hserves.target_eq hself
  by_cases hid : id = m.id
  · subst hid
    rw [hb.sideCount_spliced_self hd hg hc hserves hk]
    simp
  · obtain ⟨n, hn, _⟩ := bind_eq_ok_iff.1 hk
    rw [sideCount_spliced_of_ne hd.toIsTree hn hid, hk]
    simp [hid]

/-- The nodes of the candidate keep their side counts. -/
theorem Attaches.sideCount_add (h : d.Attaches c (owner, r) x) (hc : c.Sound) {k : Nat}
    (hk : c.Reaches k) (slot : Slot) :
    x.sideCount (k + d.nodes.size) slot = c.sideCount k slot := by
  obtain ⟨target, i, _, howner, htarget, rfl⟩ := h.exists_spliced
  exact sideCount_spliced_add hc.toIsTree howner htarget hk slot

/-- When inserting for a rule that acts on its owner has a result. -/
theorem exists_attaches_iff (hd : d.Sound) (hc : c.Sound) (hself : r.target = []) :
    (∃ x, d.Attaches c (owner, r) x) ↔
      d.Reaches owner ∧ (∃ n, d.node owner = .ok n ∧ r.Foremost n.rules) ∧ c.label = .ok r.pos ∧
        d.sideCount owner r.slot = .ok r.order := by
  obtain ⟨b, _, hb⟩ := hd.exists_denotes
  obtain ⟨g, _, hg⟩ := hc.exists_denotes
  simp only [hb.attaches_iff hd hg hc, hb.reaches_iff, hg.label_eq, Except.ok.injEq]
  constructor
  · rintro ⟨x, a, s, m, i, rfl, hserves, hforemost, hpos, rfl⟩
    obtain rfl := hserves.target_eq hself
    exact ⟨Branch.id_mem_of_at? hserves.owner, ⟨m.data, (hb.at? hserves.owner).node, hforemost⟩,
      hpos.symm, (hb.exists_serves_iff hd.slotted hserves.owner hself).1 ⟨i, hserves⟩⟩
  · rintro ⟨hreaches, ⟨n, hn, hforemost⟩, hpos, hcount⟩
    obtain ⟨a, s, hs, rfl⟩ := Branch.mem_ids.1 hreaches
    obtain rfl := Except.ok.inj ((hb.at? hs).node.symm.trans hn)
    obtain ⟨i, hserves⟩ := (hb.exists_serves_iff hd.slotted hs hself).2 hcount
    exact ⟨_, a, s, s, i, rfl, hserves, hforemost, hpos.symm, rfl⟩

end Tree

end SpineGrammar
