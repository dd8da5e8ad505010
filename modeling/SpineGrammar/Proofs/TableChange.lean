import SpineGrammar.Proofs.Editing
import SpineGrammar.Proofs.SoundTables

/-!
# What becomes of the branches in a table that is changed

A table that is extended, grafted onto or changed at one node still holds its branches, changed
accordingly. A branch none of whose nodes is touched is held as before.
-/

namespace SpineGrammar

/-! ## Raised ids -/

/-- The forest with all ids raised by `k`. -/
def Forest.shift (k : Nat) : Forest → Forest
  | nil => nil
  | leaf word rest => leaf word (rest.shift k)
  | node id data below rest => node (id + k) (data.shift k) (below.shift k) (rest.shift k)

/-- The branch with all ids raised by `k`. -/
def Branch.shift (k : Nat) (b : Branch) : Branch := ⟨b.id + k, b.data.shift k, b.below.shift k⟩

theorem Forest.phrases_shift (k : Nat) (f : Forest) : (f.shift k).phrases = f.phrases := by
  induction f with
  | nil => rfl
  | leaf word rest ih => rw [shift, phrases, phrases, ih]
  | node id data below rest ihbelow ihrest => rw [shift, phrases, phrases, ihbelow, ihrest]; rfl

theorem Forest.gather_shift {α : Type} (onWord : String → List α) (onNode : Nat → Node → List α)
    (k : Nat) (f : Forest) : (f.shift k).gather onWord onNode =
      f.gather onWord fun id n => onNode (id + k) (n.shift k) := by
  induction f with
  | nil => rfl
  | leaf word rest ih => rw [shift, gather, gather, ih]
  | node id data below rest ihbelow ihrest => rw [shift, gather, gather, ihbelow, ihrest]

theorem Branch.gather_shift {α : Type} (onWord : String → List α) (onNode : Nat → Node → List α)
    (k : Nat) (b : Branch) : (b.shift k).gather onWord onNode =
      b.gather onWord fun id n => onNode (id + k) (n.shift k) := by
  rw [shift, gather, gather, Forest.gather_shift]

theorem Forest.map_gather {α β : Type} (g : α → β) (onWord : String → List α)
    (onNode : Nat → Node → List α) (f : Forest) : (f.gather onWord onNode).map g =
      f.gather (fun w => (onWord w).map g) (fun id n => (onNode id n).map g) := by
  induction f with
  | nil => rfl
  | leaf word rest ih => rw [gather, gather, List.map_append, ih]
  | node id data below rest ihbelow ihrest =>
    rw [gather, gather, List.map_append, List.map_append, ihbelow, ihrest]

theorem Branch.ids_shift (k : Nat) (b : Branch) : (b.shift k).ids = b.ids.map (· + k) := by
  rw [ids_eq_gather, ids_eq_gather, gather_shift, gather, gather, List.map_append,
    Forest.map_gather]
  rfl

namespace Tree

variable {t t' : Tree}

/-! ## Untouched branches -/

theorem Unfolds.congr {cs : List Child} {f : Forest} (h : t.Unfolds cs f)
    (hsame : ∀ id ∈ f.ids, t'.node id = t.node id) : t'.Unfolds cs f := by
  induction h with
  | nil => exact .nil
  | leaf _ ih => exact .leaf (ih hsame)
  | @node id n cs below rest hn _ _ ihbelow ihrest =>
    refine .node ((hsame id List.mem_cons_self).trans hn) (ihbelow ?_) (ihrest ?_)
    · exact fun id' hid => hsame id' (List.mem_cons_of_mem _ (List.mem_append_left _ hid))
    · exact fun id' hid => hsame id' (List.mem_cons_of_mem _ (List.mem_append_right _ hid))

theorem Holds.congr {b : Branch} (h : t.Holds b) (hsame : ∀ id ∈ b.ids, t'.node id = t.node id) :
    t'.Holds b where
  node := (hsame b.id List.mem_cons_self).trans h.node
  below := h.below.congr fun id hid => hsame id (List.mem_cons_of_mem _ hid)

theorem Holds.lt_of_mem_ids {b : Branch} (h : t.Holds b) {id : Nat} (hid : id ∈ b.ids) :
    id < t.nodes.size := by
  obtain ⟨a, s, hs, rfl⟩ := Branch.mem_ids.1 hid
  exact lt_of_node_eq_ok (h.at? hs).node

theorem Holds.update_of_notMem {b : Branch} (h : t.Holds b) {m : Nat} {f : Node → Node}
    (hup : t.update m f = .ok t') (hm : m ∉ b.ids) : t'.Holds b :=
  h.congr fun _ hid => node_of_update_of_ne hup fun heq => hm (heq ▸ hid)

/-! ## Grafted tables -/

theorem size_extend (t : Tree) (nodes : Array Node) :
    (t.extend nodes).nodes.size = t.nodes.size + nodes.size := by
  simp [extend]

theorem Holds.extend {b : Branch} (h : t.Holds b) (nodes : Array Node) :
    (t.extend nodes).Holds b :=
  h.congr fun _ hid => node_extend_of_lt t nodes (h.lt_of_mem_ids hid)

theorem node_extend_shift {c : Tree} {id : Nat} {n : Node} (h : c.node id = .ok n) :
    (t.extend c.nodes).node (id + t.nodes.size) = .ok (n.shift t.nodes.size) := by
  rw [node_extend_add, node_eq_ok_iff.1 h]

theorem Unfolds.extend_shift {c : Tree} {cs : List Child} {f : Forest} (h : c.Unfolds cs f) :
    (t.extend c.nodes).Unfolds (cs.map (Child.shift t.nodes.size)) (f.shift t.nodes.size) := by
  induction h with
  | nil => exact .nil
  | leaf _ ih => exact .leaf ih
  | node hn _ _ ihbelow ihrest => exact .node (node_extend_shift hn) ihbelow ihrest

/-- A table holds the branches of a tree that was grafted onto it, with their ids raised. -/
theorem Holds.extend_shift {c : Tree} {b : Branch} (h : c.Holds b) :
    (t.extend c.nodes).Holds (b.shift t.nodes.size) where
  node := node_extend_shift h.node
  below := h.below.extend_shift

/-! ## Changed nodes -/

theorem update_eq_ok {t : Tree} {id : Nat} (h : id < t.nodes.size) (f : Node → Node) :
    t.update id f = .ok { t with nodes := t.nodes.modify id f } :=
  update_eq_ok_iff.2 ⟨h, rfl⟩

/-- What holds of all nodes, and of the changed node if of the node that it was, holds of all nodes
    after the change. -/
theorem forall_mem_modify {P : Node → Prop} {f : Node → Node} (hf : ∀ n, P n → P (f n))
    {nodes : Array Node} (h : ∀ n ∈ nodes, P n) (m : Nat) : ∀ n ∈ nodes.modify m f, P n := by
  intro n hn
  obtain ⟨k, hk⟩ := Array.getElem?_of_mem hn
  rw [Array.getElem?_modify] at hk
  by_cases hkm : m = k
  · rw [if_pos hkm] at hk
    obtain ⟨old, hold, rfl⟩ := Option.map_eq_some_iff.1 hk
    exact hf old (h old (Array.mem_of_getElem? hold))
  · rw [if_neg hkm] at hk
    exact h n (Array.mem_of_getElem? hk)

theorem forall_mem_update {P : Node → Prop} {m : Nat} {f : Node → Node}
    (hup : t.update m f = .ok t') (hf : ∀ n, P n → P (f n)) (h : ∀ n ∈ t.nodes, P n) :
    ∀ n ∈ t'.nodes, P n := by
  obtain ⟨_, rfl⟩ := update_eq_ok_iff.1 hup
  exact forall_mem_modify hf h m

theorem Unfolds.update {m : Nat} {f : Node → Node} {h : Forest → Forest}
    (hup : t.update m f = .ok t')
    (hbelow : ∀ n g, t.node m = .ok n → t'.Unfolds n.children g → t'.Unfolds (f n).children (h g))
    {cs : List Child} {g : Forest} (hg : t.Unfolds cs g) : t'.Unfolds cs (g.editAt m f h) := by
  induction hg with
  | nil => exact .nil
  | leaf _ ih => exact .leaf ih
  | @node id n cs below rest hn _ _ ihbelow ihrest =>
    rw [Forest.editAt]
    by_cases hid : id = m
    · -- The changed node: its new children denote what `h` makes of the old ones.
      subst hid
      have hn' : t'.node id = .ok (f n) := by rw [node_of_update_self hup, hn]; rfl
      rw [if_pos rfl]
      exact .node hn' (hbelow n _ hn ihbelow) ihrest
    · rw [if_neg hid]
      exact .node ((node_of_update_of_ne hup hid).trans hn) ihbelow ihrest

theorem Holds.update {m : Nat} {f : Node → Node} {h : Forest → Forest}
    (hup : t.update m f = .ok t')
    (hbelow : ∀ n g, t.node m = .ok n → t'.Unfolds n.children g → t'.Unfolds (f n).children (h g))
    {b : Branch} (hb : t.Holds b) : t'.Holds (b.editAt m f h) := by
  have hg := hb.below.update hup hbelow
  unfold Branch.editAt
  split
  · next hid =>
    subst hid
    have hn : t'.node b.id = .ok (f b.data) := by rw [node_of_update_self hup, hb.node]; rfl
    exact ⟨hn, hbelow b.data _ hb.node hg⟩
  · next hid => exact ⟨(node_of_update_of_ne hup hid).trans hb.node, hg⟩

/-- A change of features changes nothing below the node. -/
theorem Holds.update_features {m : Nat} {f : Node → Node} (hup : t.update m f = .ok t')
    (hf : ∀ n, (f n).children = n.children) {b : Branch} (hb : t.Holds b) :
    t'.Holds (b.editAt m f fun below => below) :=
  hb.update hup fun n _ _ hg => by rw [hf n]; exact hg

theorem Unfolds.insertIdx {c : Branch} (hc : t.Holds c) {cs : List Child} {f : Forest}
    (h : t.Unfolds cs f) (i : Nat) :
    t.Unfolds (cs.insertIdx i (.node c.id)) (f.insertIdx c i) := by
  induction h generalizing i with
  | nil => cases i with
    | zero => exact .node hc.node hc.below .nil
    | succ i => exact .nil
  | @leaf word cs rest hrest ih => cases i with
    | zero => exact .node hc.node hc.below (.leaf hrest)
    | succ i => exact .leaf (ih i)
  | @node id n cs below rest hn hbelow hrest _ ih => cases i with
    | zero => exact .node hc.node hc.below (.node hn hbelow hrest)
    | succ i => exact .node hn hbelow (ih i)

/-- A branch that is put among the children of another's node comes to hang below it. -/
theorem Holds.update_insertChild {c : Branch} {m i : Nat}
    (hup : t.update m (·.insertChild i (.node c.id)) = .ok t') (hc : t'.Holds c) {b : Branch}
    (hb : t.Holds b) :
    t'.Holds (b.editAt m (·.insertChild i (.node c.id)) (·.insertIdx c i)) :=
  hb.update hup fun _ _ _ hg => hg.insertIdx hc i

theorem Unfolds.length_phrases {cs : List Child} {f : Forest} (h : t.Unfolds cs f) :
    f.phrases.length = cs.length := by
  induction h with
  | nil => rfl
  | leaf _ ih => rw [Forest.phrases, List.length_cons, List.length_cons, ih]
  | node _ _ _ _ ih => rw [Forest.phrases, List.length_cons, List.length_cons, ih]

end Tree

end SpineGrammar
