import SpineGrammar.Proofs.BracketedText
import SpineGrammar.Proofs.Traversal

/-!
# The bracketed text determines what stands where

In a table an address leads from the root to a node or, by its last step, to a word. Two rooted
trees whose labels and words are tokens have one bracketed text if and only if each address leads to
the same label or the same word in both. How the nodes are numbered, which nodes no path leads to,
and what else a node says, do not matter. The text tells the branches up to such differences, so
what is left is that a branch is told by what stands at its addresses.
-/

namespace SpineGrammar

/-- What an address leads to: a node, of which only the label is told, or a word. -/
inductive Item where
  | label (label : String)
  | word (word : String)
  deriving DecidableEq

/-! ## What stands at the addresses of a forest -/

namespace Forest

/-- What stands at an address whose first index says which item of the forest it leads to. -/
def itemAt : Forest → Address → Option Item
  | _, [] => none
  | nil, _ :: _ => none
  | leaf word _, 0 :: a => if a = [] then some (.word word) else none
  | leaf _ rest, (i + 1) :: a => rest.itemAt (i :: a)
  | node _ n below _, 0 :: a => if a = [] then some (.label n.label) else below.itemAt a
  | node _ _ _ rest, (i + 1) :: a => rest.itemAt (i :: a)

variable {f g : Forest} {id : Nat} {n : Node} {below rest : Forest} {word : String} {i : Nat}
  {a : Address}

@[simp] theorem itemAt_nil_cons : nil.itemAt (i :: a) = none := rfl

@[simp] theorem itemAt_leaf_zero :
    (leaf word rest).itemAt (0 :: a) = if a = [] then some (.word word) else none := rfl

@[simp] theorem itemAt_leaf_succ :
    (leaf word rest).itemAt ((i + 1) :: a) = rest.itemAt (i :: a) := rfl

@[simp] theorem itemAt_node_zero : (node id n below rest).itemAt (0 :: a) =
    if a = [] then some (.label n.label) else below.itemAt a := rfl

@[simp] theorem itemAt_node_succ :
    (node id n below rest).itemAt ((i + 1) :: a) = rest.itemAt (i :: a) := rfl

theorem Alike.itemAt_eq (h : f.Alike Node.SameLabel g) (a : Address) : f.itemAt a = g.itemAt a := by
  induction h generalizing a with
  | nil => rfl
  | @leaf _ f g _ ih =>
    rcases a with _ | ⟨_ | i, a⟩
    · rfl
    · rfl
    · exact ih (i :: a)
  | @node _ _ n n' below below' f g hlabel _ _ ihbelow ihrest =>
    have hlabels : n.label = n'.label := hlabel
    rcases a with _ | ⟨_ | i, a⟩
    · rfl
    · -- At the end of the address the labels are compared, else what is below.
      rw [itemAt_node_zero, itemAt_node_zero, hlabels, ihbelow a]
    · exact ihrest (i :: a)

/-- A forest is told by what stands at its addresses. The first index `0` tells the first item and
    what hangs below it, and the other indices tell the rest. -/
theorem alike_of_itemAt_eq (h : ∀ i a, f.itemAt (i :: a) = g.itemAt (i :: a)) :
    f.Alike Node.SameLabel g := by
  induction f generalizing g with
  | nil =>
    cases g with
    | nil => exact .nil
    | leaf _ _ => simpa using h 0 []
    | node _ _ _ _ => simpa using h 0 []
  | leaf word f ih =>
    cases g with
    | nil => simpa using h 0 []
    | leaf word' g =>
      obtain rfl : word = word' := by simpa using h 0 []
      exact .leaf (ih fun i a => h (i + 1) a)
    | node _ _ _ _ => simpa using h 0 []
  | node id n below f ihbelow ihrest =>
    cases g with
    | nil => simpa using h 0 []
    | leaf _ _ => simpa using h 0 []
    | node id' n' below' g =>
      have hlabel : n.label = n'.label := by simpa using h 0 []
      refine .node hlabel (ihbelow ?_) (ihrest fun i a => h (i + 1) a)
      intro i a
      simpa using h 0 (i :: a)

end Forest

namespace Branch

variable {b c : Branch}

/-- What stands at an address from the root of a branch. -/
def itemAt (b : Branch) (a : Address) : Option Item :=
  if a = [] then some (.label b.data.label) else b.below.itemAt a

theorem alike_iff_itemAt_eq : b.Alike Node.SameLabel c ↔ ∀ a, b.itemAt a = c.itemAt a := by
  constructor
  · intro h a
    have hlabel : b.data.label = c.data.label := h.data
    rw [itemAt, itemAt, hlabel, h.below.itemAt_eq a]
  · intro h
    have hlabel : b.data.label = c.data.label := by simpa [itemAt] using h []
    refine ⟨hlabel, Forest.alike_of_itemAt_eq ?_⟩
    intro i a
    simpa [itemAt] using h (i :: a)

end Branch

/-! ## What stands at the addresses of a table -/

namespace Tree

variable {t u : Tree} {b c : Branch} {start i : Nat} {a : Address} {item : Item}

/-- `t.HasItem start a item`: the address `a`, taken from the node `start`, leads to `item`. -/
def HasItem (t : Tree) (start : Nat) (a : Address) : Item → Prop
  | .label label => ∃ id n, t.resolve start a = .ok (some id) ∧ t.node id = .ok n ∧ n.label = label
  | .word word => t.HasWord start a word

/-- In both tables the same labels stand at the same addresses and the same words at the same
    places among the children. -/
def Agrees (t u : Tree) : Prop := ∀ a item, t.HasItem t.root a item ↔ u.HasItem u.root a item

theorem hasItem_nil_iff {n : Node} (hn : t.node start = .ok n) :
    t.HasItem start [] item ↔ item = .label n.label := by
  cases item with
  | label label =>
    have hresolve : t.resolve start [] = .ok (some start) := rfl
    simp [HasItem, hresolve, hn, eq_comm]
  | word word => simp [HasItem, HasWord, Address.child]

/-- The first step leads to a word, where the address ends, or to a node from which the rest of the
    address leads on. -/
theorem hasItem_cons_iff {n : Node} (hn : t.node start = .ok n) :
    t.HasItem start (i :: a) item ↔
      (∃ word, n.children[i]? = some (.leaf word) ∧ a = [] ∧ item = .word word) ∨
        ∃ id, n.children[i]? = some (.node id) ∧ t.HasItem id a item := by
  cases item with
  | label label =>
    simp only [HasItem, resolve_cons_eq_some_iff, hn]
    constructor
    · intro h
      obtain ⟨id, m, ⟨n', next, hn', hchild, hresolve⟩, hm⟩ := h
      obtain rfl := Except.ok.inj hn'
      exact .inr ⟨next, hchild, id, m, hresolve, hm⟩
    · intro h
      obtain ⟨next, hchild, id, m, hresolve, hm⟩ := h.resolve_left (by simp)
      exact ⟨id, m, ⟨n, next, rfl, hchild, hresolve⟩, hm⟩
  | word word =>
    simp only [HasItem, hasWord_cons_iff, hn]
    constructor
    · intro h
      obtain ⟨n', hn', ⟨rfl, hword⟩ | hbelow⟩ := h
      · obtain rfl := Except.ok.inj hn'
        exact .inl ⟨word, hword, rfl, rfl⟩
      · obtain rfl := Except.ok.inj hn'
        exact .inr hbelow
    · intro h
      refine ⟨n, rfl, ?_⟩
      rcases h with ⟨word', hword, rfl, heq⟩ | hbelow
      · obtain rfl : word = word' := by simpa using heq
        exact .inl ⟨rfl, hword⟩
      · exact .inr hbelow

theorem Unfolds.itemAt_eq_some_iff {cs : List Child} {f : Forest} (h : t.Unfolds cs f) :
    f.itemAt (i :: a) = some item ↔
      (∃ word, cs[i]? = some (.leaf word) ∧ a = [] ∧ item = .word word) ∨
        ∃ id, cs[i]? = some (.node id) ∧ t.HasItem id a item := by
  induction h generalizing i a with
  | nil => simp
  | leaf _ ih =>
    cases i with
    | zero => simp [eq_comm]
    | succ i => simpa using ih
  | node hn _ _ ihbelow ihrest =>
    cases i with
    | succ i => simpa using ihrest
    | zero =>
      -- The node itself stands at the end of the address, else the address goes on below it.
      cases a with
      | nil => simp [hasItem_nil_iff hn, eq_comm]
      | cons j a => simp [hasItem_cons_iff hn, ihbelow]

/-- Where a branch has an item, the table has it too. -/
theorem Holds.itemAt_eq_some_iff (h : t.Holds b) :
    b.itemAt a = some item ↔ t.HasItem b.id a item := by
  cases a with
  | nil => simp [Branch.itemAt, hasItem_nil_iff h.node, eq_comm]
  | cons i a => simp [Branch.itemAt, hasItem_cons_iff h.node, h.below.itemAt_eq_some_iff]

/-- Two tables agree on what stands where if and only if what they denote is alike. -/
theorem Denotes.agrees_iff (hb : t.Denotes b) (hc : u.Denotes c) :
    t.Agrees u ↔ b.Alike Node.SameLabel c := by
  rw [Branch.alike_iff_itemAt_eq]
  unfold Agrees
  rw [← hb.root, ← hc.root]
  constructor
  · intro h a
    apply Option.ext
    intro item
    rw [hb.itemAt_eq_some_iff, hc.itemAt_eq_some_iff]
    exact h a item
  · intro h a item
    rw [← hb.itemAt_eq_some_iff, ← hc.itemAt_eq_some_iff, h a]

/-- A rooted tree has the text of a branch whose labels and words are tokens if its own are. -/
theorem IsRootedTree.exists_text (h : t.IsRootedTree)
    (htokens : ∀ id n, t.Reaches id → t.node id = .ok n → n.Tokens) :
    ∃ b, t.Denotes b ∧ t.text = .ok b.text ∧ b.Tokens := by
  obtain ⟨b, hunfold, hb⟩ := h.exists_denotes
  refine ⟨b, hb, ?_, ?_⟩
  · unfold text
    rw [hunfold]
    rfl
  · apply hb.tokens
    intro id hid n hn
    exact htokens id n (hb.reaches_iff.2 hid) hn

end Tree

/-- **Unambiguity**: rooted trees whose labels and words have no blank, no bracket and at least one
    character have bracketed texts, and the texts are equal if and only if the same labels stand at
    the same addresses and the same words at the same places among the children. -/
theorem bracketed_text_determines_tree {t u : Tree} (ht : t.IsRootedTree) (hu : u.IsRootedTree)
    (httokens : ∀ id n, t.Reaches id → t.node id = .ok n → n.Tokens)
    (hutokens : ∀ id n, u.Reaches id → u.node id = .ok n → n.Tokens) :
    ∃ text text', t.text = .ok text ∧ u.text = .ok text' ∧ (text = text' ↔ t.Agrees u) := by
  obtain ⟨b, hb, hbtext, hbtokens⟩ := ht.exists_text httokens
  obtain ⟨c, hc, hctext, hctokens⟩ := hu.exists_text hutokens
  refine ⟨b.text, c.text, hbtext, hctext, ?_⟩
  have hlists : b.text.toList ++ [] = c.text.toList ++ [] ↔ b.Alike Node.SameLabel c := by
    rw [Branch.text_append_inj_iff hbtokens hctokens]
    exact and_iff_left rfl
  rw [hb.agrees_iff hc, ← hlists, List.append_nil, List.append_nil, String.toList_inj]

/-- The clause about farm cats without its annotations, numbered from the words up. -/
def Tree.bareHuntClause : Tree where
  nodes := #[.plain "NN" [] [.leaf "farm"], .plain "NNS" [] [.leaf "cats"],
    .plain "NP" [] [.node 0, .node 1], .plain "VP" [] [.leaf "hunts"],
    .plain "S" [] [.node 2, .node 3]]
  root := 4

/-- The verb phrase hangs below the noun phrase, so the labels and the words keep their order. -/
def Tree.lowHuntClause : Tree where
  nodes := #[.plain "NN" [] [.leaf "farm"], .plain "NNS" [] [.leaf "cats"],
    .plain "NP" [] [.node 0, .node 1, .node 3], .plain "VP" [] [.leaf "hunts"],
    .plain "S" [] [.node 2]]
  root := 4

/-- The bare clause has the text of the annotated one and agrees with it. The one with the low verb
    phrase has another text and does not agree. -/
theorem bracketed_text_determines_tree_huntClause :
    Tree.huntClause.text = .ok "(S (NP (NN farm) (NNS cats)) (VP hunts))" ∧
    Tree.huntClause.Agrees .bareHuntClause ∧
    Tree.lowHuntClause.text = .ok "(S (NP (NN farm) (NNS cats) (VP hunts)))" ∧
    ¬ Tree.huntClause.Agrees .lowHuntClause := by
  have hrooted : ∀ t ∈ [Tree.huntClause, .bareHuntClause, .lowHuntClause], t.IsRootedTree := by
    decide +kernel
  have hnodes : ∀ t ∈ [Tree.huntClause, .bareHuntClause, .lowHuntClause],
      ∀ n ∈ t.nodes, n.Tokens := by
    decide +kernel
  have hclause : Tree.huntClause.text = .ok "(S (NP (NN farm) (NNS cats)) (VP hunts))" := by
    decide +kernel
  have hbare : Tree.bareHuntClause.text = .ok "(S (NP (NN farm) (NNS cats)) (VP hunts))" := by
    decide +kernel
  have hlow : Tree.lowHuntClause.text = .ok "(S (NP (NN farm) (NNS cats) (VP hunts)))" := by
    decide +kernel
  have htells : ∀ u ∈ [Tree.bareHuntClause, .lowHuntClause], ∃ text text',
      Tree.huntClause.text = .ok text ∧ u.text = .ok text' ∧
        (text = text' ↔ Tree.huntClause.Agrees u) := by
    intro u hu
    have hmem : u ∈ [Tree.huntClause, .bareHuntClause, .lowHuntClause] := List.mem_cons_of_mem _ hu
    exact bracketed_text_determines_tree (hrooted _ (by simp)) (hrooted u hmem)
      (fun _ n _ hn => hnodes _ (by simp) n (Tree.mem_of_node_eq_ok hn))
      (fun _ n _ hn => hnodes u hmem n (Tree.mem_of_node_eq_ok hn))
  refine ⟨hclause, ?_, hlow, ?_⟩
  · obtain ⟨text, text', htext, htext', hiff⟩ := htells .bareHuntClause (by simp)
    obtain rfl := Except.ok.inj (hclause.symm.trans htext)
    obtain rfl := Except.ok.inj (hbare.symm.trans htext')
    exact hiff.1 rfl
  · obtain ⟨text, text', htext, htext', hiff⟩ := htells .lowHuntClause (by simp)
    obtain rfl := Except.ok.inj (hclause.symm.trans htext)
    obtain rfl := Except.ok.inj (hlow.symm.trans htext')
    intro hagrees
    have htexts := hiff.2 hagrees
    revert htexts
    decide

end SpineGrammar
