import Mathlib.Data.Fintype.Card
import SpineGrammar.Phrase.Basic
import SpineGrammar.Proofs.Unfolding
import SpineGrammar.Tree.Sound

/-!
# Sound tables have branches

A table that is a rooted tree denotes a branch: no path is longer than the table, since the nodes on
a path are pairwise different. Conversely a table is a rooted tree if it unfolds to a branch whose
ids are pairwise different, which can be computed.
-/

namespace SpineGrammar

namespace Tree

/-- `t.Denotes b`: below its root, the table of `t` holds the branch `b`, in which no id stands
    twice. -/
structure Denotes (t : Tree) (b : Branch) : Prop extends t.Holds b where
  root : b.id = t.root
  ids_nodup : b.ids.Nodup

variable {t : Tree}

theorem exists_node {id : Nat} (h : id < t.nodes.size) : ∃ n ∈ t.nodes, t.node id = .ok n :=
  ⟨t.nodes[id], Array.getElem_mem h, node_eq_ok_iff.2 (Array.getElem?_eq_getElem h)⟩

theorem mem_of_node_eq_ok {id : Nat} {n : Node} (h : t.node id = .ok n) : n ∈ t.nodes :=
  Array.mem_of_getElem? (node_eq_ok_iff.1 h)

theorem lt_of_node_eq_ok {id : Nat} {n : Node} (h : t.node id = .ok n) : id < t.nodes.size :=
  (Array.getElem?_eq_some_iff.1 (node_eq_ok_iff.1 h)).1

theorem exists_resolve_of_append {start goal : Nat} {a a' : Address}
    (h : t.resolve start (a ++ a') = .ok (some goal)) :
    ∃ middle, t.resolve start a = .ok (some middle) := by
  induction a generalizing start with
  | nil => exact ⟨start, rfl⟩
  | cons i a ih =>
    obtain ⟨n, id, hn, hchild, hrest⟩ := resolve_cons_eq_some_iff.1 h
    obtain ⟨middle, hmiddle⟩ := ih hrest
    exact ⟨middle, resolve_cons_eq_some_iff.2 ⟨n, id, hn, hchild, hmiddle⟩⟩

theorem exists_unfoldChildren {branch : Nat → Checked Branch} {cs : List Child}
    (h : ∀ id, Child.node id ∈ cs → ∃ b, branch id = .ok b) :
    ∃ f, unfoldChildren branch cs = .ok f := by
  induction cs with
  | nil => exact ⟨.nil, rfl⟩
  | cons c cs ih =>
    obtain ⟨rest, hrest⟩ := ih fun id hid => h id (List.mem_cons_of_mem _ hid)
    cases c with
    | leaf word => exact ⟨.leaf word rest, by rw [unfoldChildren, hrest]; rfl⟩
    | node id =>
      obtain ⟨b, hb⟩ := h id List.mem_cons_self
      exact ⟨.node b.id b.data b.below rest, by rw [unfoldChildren, hb, ok_bind, hrest]; rfl⟩

namespace IsRootedTree

theorem nodeAt_lt (h : t.IsRootedTree) {a : Address} {id : Nat}
    (ha : t.nodeAt a = .ok (some id)) : id < t.nodes.size := by
  rcases List.eq_nil_or_concat a with rfl | ⟨path, i, rfl⟩
  · obtain rfl : t.root = id := by simpa [nodeAt, resolve] using ha
    exact h.root_lt
  · -- The last step of the path leads from a node that the path before leads to.
    rw [List.concat_eq_append] at ha
    obtain ⟨parent, hparent⟩ := exists_resolve_of_append ha
    rw [nodeAt, resolve_append_of_eq_some hparent] at ha
    obtain ⟨n, child, hn, hchild, hlast⟩ := resolve_cons_eq_some_iff.1 ha
    obtain rfl : child = id := by simpa [resolve] using hlast
    exact h.child_lt parent n ⟨path, hparent⟩ hn child (List.mem_of_getElem? hchild)

theorem exists_node_of_reaches (h : t.IsRootedTree) {id : Nat} (hid : t.Reaches id) :
    ∃ n ∈ t.nodes, t.node id = .ok n := by
  obtain ⟨a, ha⟩ := hid
  exact exists_node (h.nodeAt_lt ha)

/-- A path is shorter than the table: the nodes on it are pairwise different. -/
theorem length_lt (h : t.IsRootedTree) {a : Address} {id : Nat}
    (ha : t.nodeAt a = .ok (some id)) : a.length < t.nodes.size := by
  have hprefix : ∀ k : Fin (a.length + 1), ∃ m : Fin t.nodes.size,
      t.nodeAt (a.take k) = .ok (some m.1) := by
    intro k
    rw [← List.take_append_drop k.1 a] at ha
    obtain ⟨m, hm⟩ := exists_resolve_of_append ha
    exact ⟨⟨m, h.nodeAt_lt hm⟩, hm⟩
  -- The nodes on the path are pairwise different, since each is reached on one path.
  choose m hm using hprefix
  have hinj : Function.Injective m := by
    intro j k hjk
    have htake := h.path_unique _ _ _ (hm j) (hjk ▸ hm k)
    have hlen := congrArg List.length htake
    rw [List.length_take, List.length_take] at hlen
    have hj := j.2
    have hk := k.2
    exact Fin.ext (by omega)
  have hcard := Fintype.card_le_of_injective m hinj
  rw [Fintype.card_fin, Fintype.card_fin] at hcard
  omega

theorem exists_branchWithin (h : t.IsRootedTree) {depth id : Nat} {a : Address}
    (ha : t.nodeAt a = .ok (some id)) (hdepth : t.nodes.size < a.length + depth) :
    ∃ b, t.branchWithin depth id = .ok b := by
  -- By induction on the levels that are left: the path to `id` uses up the others.
  induction depth generalizing id a with
  | zero =>
    have hlt := h.length_lt ha
    omega
  | succ depth ih =>
    obtain ⟨n, _, hnode⟩ := exists_node (h.nodeAt_lt ha)
    obtain ⟨f, hf⟩ : ∃ f, unfoldChildren (t.branchWithin depth) n.children = .ok f := by
      apply exists_unfoldChildren
      intro next hnext
      obtain ⟨i, hi⟩ := List.getElem?_of_mem hnext
      have hchild : t.nodeAt (a ++ [i]) = .ok (some next) := by
        rw [nodeAt, resolve_append_of_eq_some ha]
        exact resolve_cons_eq_some_iff.2 ⟨n, next, hnode, hi, rfl⟩
      refine ih hchild ?_
      rw [List.length_append, List.length_singleton]
      omega
    exact ⟨⟨id, n, f⟩, by rw [branchWithin, hnode, ok_bind, hf]; rfl⟩

/-- Each node that a path leads to denotes a branch. -/
theorem exists_branchAt (h : t.IsRootedTree) {id : Nat} {a : Address}
    (ha : t.nodeAt a = .ok (some id)) : ∃ b, t.branchAt id = .ok b := by
  apply h.exists_branchWithin ha
  omega

/-- A table that is a rooted tree unfolds to a branch that it denotes. -/
theorem exists_denotes (h : t.IsRootedTree) : ∃ b, t.unfold = .ok b ∧ t.Denotes b := by
  obtain ⟨b, hb⟩ := h.exists_branchAt (a := []) rfl
  obtain ⟨hid, hholds⟩ := holds_of_unfold hb
  refine ⟨b, hb, hholds, hid, Branch.nodup_ids_iff.2 ?_⟩
  intro a a' s s' hs hs' hss
  have hpath := (hid ▸ hholds.resolve_eq_some_iff).2 ⟨s, hs, rfl⟩
  have hpath' := (hid ▸ hholds.resolve_eq_some_iff).2 ⟨s', hs', hss.symm⟩
  exact h.path_unique a a' s.id hpath hpath'

end IsRootedTree

namespace IsTree

/-- In a tree the nodes below the root have nodes as children, as all nodes have. -/
theorem isRootedTree (h : t.IsTree) : t.IsRootedTree where
  root_lt := h.root_lt
  child_lt := fun _ n _ hn child hchild => h.child_lt n (mem_of_node_eq_ok hn) child hchild
  path_unique := h.path_unique

theorem exists_node_of_reaches (h : t.IsTree) {id : Nat} (hid : t.Reaches id) :
    ∃ n ∈ t.nodes, t.node id = .ok n :=
  h.isRootedTree.exists_node_of_reaches hid

/-- A table that is a tree unfolds to a branch that it denotes. -/
theorem exists_denotes (h : t.IsTree) : ∃ b, t.unfold = .ok b ∧ t.Denotes b :=
  h.isRootedTree.exists_denotes

end IsTree

namespace Denotes

/-- A table that denotes a branch is a rooted tree. -/
theorem isRootedTree {b : Branch} (h : t.Denotes b) : t.IsRootedTree where
  root_lt := h.root ▸ lt_of_node_eq_ok h.node
  child_lt := by
    rintro id n ⟨a, ha⟩ hn child hchild
    rw [nodeAt, ← h.root] at ha
    obtain ⟨s, hs, rfl⟩ := h.resolve_eq_some_iff.1 ha
    have hheld := h.at? hs
    obtain rfl := Except.ok.inj (hheld.node.symm.trans hn)
    obtain ⟨i, hi⟩ := List.getElem?_of_mem hchild
    obtain ⟨c, hc, rfl⟩ := hheld.below.exists_branch? hi
    exact lt_of_node_eq_ok (hheld.below.branch?_eq_some hc).2.node
  path_unique := by
    intro a a' id ha ha'
    rw [nodeAt, ← h.root] at ha ha'
    obtain ⟨s, hs, rfl⟩ := h.resolve_eq_some_iff.1 ha
    obtain ⟨s', hs', hid⟩ := h.resolve_eq_some_iff.1 ha'
    exact Branch.nodup_ids_iff.1 h.ids_nodup a a' s s' hs hs' hid.symm

/-- A table is a tree if it denotes a branch and its ids name nodes. -/
theorem isTree {b : Branch} (h : t.Denotes b)
    (hchild : ∀ n ∈ t.nodes, ∀ id, Child.node id ∈ n.children → id < t.nodes.size) :
    t.IsTree where
  root_lt := h.isRootedTree.root_lt
  child_lt := hchild
  path_unique := h.isRootedTree.path_unique

/-- The branch that a tree denotes is the one that it unfolds to. -/
theorem unfold_eq {b : Branch} (h : t.Denotes b) (ht : t.IsTree) : t.unfold = .ok b := by
  obtain ⟨b', hb', hdenotes⟩ := ht.exists_denotes
  rw [hb', hdenotes.functional h.toHolds (hdenotes.root.trans h.root.symm)]

theorem phrase_eq {b : Branch} (h : t.Denotes b) (ht : t.IsTree) :
    t.phrase = .ok b.phrase := by
  rw [phrase, h.unfold_eq ht]
  rfl

/-- The nodes that paths from the root lead to are those of the branch. -/
theorem reaches_iff {b : Branch} (h : t.Denotes b) {id : Nat} : t.Reaches id ↔ id ∈ b.ids := by
  simp only [Reaches, nodeAt, ← h.root, h.resolve_eq_some_iff, Branch.mem_ids]

end Denotes

/-! ## Deciding soundness -/

/-- Whether a table denotes a branch in which no id stands twice. -/
def unfoldsOnce (t : Tree) : Bool :=
  match t.unfold with
  | .ok b => decide b.ids.Nodup
  | .error _ => false

theorem isRootedTree_iff : t.IsRootedTree ↔ t.unfoldsOnce = true := by
  constructor
  · intro h
    obtain ⟨b, hb, hdenotes⟩ := h.exists_denotes
    simp [unfoldsOnce, hb, hdenotes.ids_nodup]
  · intro h
    unfold unfoldsOnce at h
    split at h
    · next b hb =>
      obtain ⟨hroot, hholds⟩ := holds_of_unfold hb
      have hdenotes : t.Denotes b := ⟨hholds, hroot, of_decide_eq_true h⟩
      exact hdenotes.isRootedTree
    · cases h

theorem isTree_iff : t.IsTree ↔
    (∀ n ∈ t.nodes, ∀ c ∈ n.children, ∀ id ∈ c.id?, id < t.nodes.size) ∧
      t.unfoldsOnce = true := by
  rw [← isRootedTree_iff]
  constructor
  · intro h
    refine ⟨?_, h.isRootedTree⟩
    intro n hn c hc id hid
    cases c with
    | leaf word => cases hid
    | node id' =>
      obtain rfl : id' = id := Option.some.inj hid
      exact h.child_lt n hn id' hc
  · rintro ⟨hchild, h⟩
    obtain ⟨b, _, hb⟩ := h.exists_denotes
    exact hb.isTree fun n hn id hid => hchild n hn (.node id) hid id rfl

theorem slotted_iff : t.Slotted ↔
    ∀ n ∈ t.nodes, n.attached = true → n.attachedSlot.isSome = true := by
  simp only [Slotted, Option.isSome_iff_exists]

theorem sound_iff : t.Sound ↔ t.IsTree ∧ t.Slotted ∧ ∀ n ∈ t.nodes, n.rules.Nodup :=
  ⟨fun h => ⟨h.toIsTree, h.slotted, h.rules_nodup⟩, fun h => ⟨h.1, h.2.1, h.2.2⟩⟩

instance : Decidable t.IsRootedTree := decidable_of_iff' _ isRootedTree_iff

instance : Decidable t.IsTree := decidable_of_iff' _ isTree_iff

instance : Decidable t.Slotted := decidable_of_iff' _ slotted_iff

instance : Decidable t.Sound := decidable_of_iff' _ sound_iff

end Tree

/-! ## A clause and a noun -/

/-- A node with a label, open rules and children, and nothing else. -/
def Node.plain (label : String) (rules : List Rule) (children : List Child) : Node where
  label := label
  rules := rules
  isFoot := false
  attached := false
  attachedSlot := none
  predicate := none
  role := none
  treeType := none
  rolesetId := none
  argCount := none
  treeId := none
  wordCount := 1
  treeCount := 1
  children := children

/-- A rule for the first noun phrase on one side of the spine. -/
def nounRule (target : Address) (slot : Slot) : Rule where
  kind := .attach
  pos := "NP"
  location := ⟨target, slot, 0⟩
  role := none
  description := none
  attachCounts := .empty

/-- A clause that waits for a subject and, at its verb phrase, for an object. -/
def Tree.clause : Tree where
  nodes := #[.plain "S" [nounRule [] .left, nounRule [0] .right] [.node 1],
    .plain "VP" [] [.leaf "chase"]]
  root := 0

/-- A clause whose open rules all act on their owners: it waits for a noun phrase on either side of
    its verb phrase and for one behind the verb. -/
def Tree.openClause : Tree where
  nodes := #[.plain "S" [nounRule [] .left, nounRule [] .right] [.node 1],
    .plain "VP" [nounRule [] .right] [.leaf "chase"]]
  root := 0

/-- A noun phrase without open rules. -/
def Tree.noun : Tree := ⟨#[.plain "NP" [] [.leaf "cats"]], 0⟩

/-- The clause with the noun phrase as its subject. -/
def Tree.subjectClause : Tree where
  nodes := #[.plain "S" [nounRule [0] .right] [.node 2, .node 1], .plain "VP" [] [.leaf "chase"],
    { Node.plain "NP" [] [.leaf "cats"] with attached := true, attachedSlot := some .left }]
  root := 0

/-- The clause with the noun phrase as its object. -/
def Tree.objectClause : Tree where
  nodes := #[.plain "S" [nounRule [] .left] [.node 1], .plain "VP" [] [.leaf "chase", .node 2],
    { Node.plain "NP" [] [.leaf "cats"] with attached := true, attachedSlot := some .right }]
  root := 0

example : Tree.subjectClause.Sound ∧ Tree.objectClause.Sound := by decide

end SpineGrammar
