import Mathlib.Data.List.Nodup
import SpineGrammar.Proofs.Outcome
import SpineGrammar.Tree.Forest

/-!
# What tables denote

The relation `Tree.Unfolds` says which forest a child list denotes in a table, without a bound on
depth. The functions that unfold a table agree with it, and so do the addresses: following an
address in the table and following it in the branch lead to the same node. Depth-first order lists
the nodes by address, each once, so the ids of a branch are pairwise different if and only if no
node is reached on two paths.
-/

namespace SpineGrammar

/-! ## The relation -/

/-- `t.Unfolds cs f`: looked up in the table of `t`, the children `cs` denote the forest `f`. -/
inductive Tree.Unfolds (t : Tree) : List Child → Forest → Prop where
  | nil : t.Unfolds [] .nil
  | leaf {word : String} {cs : List Child} {rest : Forest} :
      t.Unfolds cs rest → t.Unfolds (.leaf word :: cs) (.leaf word rest)
  | node {id : Nat} {n : Node} {cs : List Child} {below rest : Forest} :
      t.node id = .ok n → t.Unfolds n.children below → t.Unfolds cs rest →
      t.Unfolds (.node id :: cs) (.node id n below rest)

/-- `t.Holds b`: the table of `t` holds the branch `b` under the ids that it names. -/
structure Tree.Holds (t : Tree) (b : Branch) : Prop where
  node : t.node b.id = .ok b.data
  below : t.Unfolds b.data.children b.below

namespace Tree

variable {t : Tree}

theorem unfolds_of_unfoldChildren {branch : Nat → Checked Branch}
    (hbranch : ∀ id b, branch id = .ok b → b.id = id ∧ t.Holds b) {cs : List Child} {f : Forest}
    (h : unfoldChildren branch cs = .ok f) : t.Unfolds cs f := by
  induction cs generalizing f with
  | nil =>
    cases h
    exact .nil
  | cons c cs ih =>
    cases c with
    | leaf word =>
      obtain ⟨rest, hrest, hf⟩ := bind_eq_ok_iff.1 h
      cases hf
      exact .leaf (ih hrest)
    | node id =>
      obtain ⟨b, hb, h⟩ := bind_eq_ok_iff.1 h
      obtain ⟨rest, hrest, hf⟩ := bind_eq_ok_iff.1 h
      obtain ⟨rfl, hholds⟩ := hbranch _ _ hb
      cases hf
      exact .node hholds.node hholds.below (ih hrest)

theorem holds_of_branchWithin {depth id : Nat} {b : Branch}
    (h : t.branchWithin depth id = .ok b) : b.id = id ∧ t.Holds b := by
  induction depth generalizing id b with
  | zero => cases h
  | succ depth ih =>
    obtain ⟨n, hn, h⟩ := bind_eq_ok_iff.1 h
    obtain ⟨f, hf, h⟩ := bind_eq_ok_iff.1 h
    cases h
    exact ⟨rfl, hn, unfolds_of_unfoldChildren (fun id b => ih) hf⟩

theorem holds_of_unfold {b : Branch} (h : t.unfold = .ok b) : b.id = t.root ∧ t.Holds b :=
  holds_of_branchWithin h

theorem Unfolds.functional {cs : List Child} {f g : Forest} (hf : t.Unfolds cs f)
    (hg : t.Unfolds cs g) : f = g := by
  induction hf generalizing g with
  | nil => cases hg with
    | nil => rfl
  | leaf _ ih => cases hg with
    | leaf hrest => rw [ih hrest]
  | node hn _ _ ihbelow ihrest => cases hg with
    | node hn' hbelow hrest =>
      obtain rfl := Except.ok.inj (hn.symm.trans hn')
      rw [ihbelow hbelow, ihrest hrest]

/-- A table holds at most one branch under an id. -/
theorem Holds.functional {b b' : Branch} (h : t.Holds b) (h' : t.Holds b') (hid : b.id = b'.id) :
    b = b' := by
  obtain ⟨id, data, below⟩ := b
  obtain ⟨id', data', below'⟩ := b'
  obtain rfl : id = id' := hid
  obtain rfl : data = data' := Except.ok.inj (h.node.symm.trans h'.node)
  obtain rfl : below = below' := h.below.functional h'.below
  rfl

end Tree

/-! ## Following addresses -/

/-- The branch that is the `i`-th item of a forest. -/
def Forest.branch? : Forest → Nat → Option Branch
  | nil, _ => none
  | leaf _ _, 0 => none
  | leaf _ rest, i + 1 => rest.branch? i
  | node id data below _, 0 => some ⟨id, data, below⟩
  | node _ _ _ rest, i + 1 => rest.branch? i

/-- The branch at an address. -/
def Branch.at? : Branch → Address → Option Branch
  | b, [] => some b
  | b, i :: a =>
    match b.below.branch? i with
    | some c => c.at? a
    | none => none

theorem Branch.at?_cons_eq_some_iff {b s : Branch} {i : Nat} {a : Address} :
    b.at? (i :: a) = some s ↔ ∃ c, b.below.branch? i = some c ∧ c.at? a = some s := by
  rw [Branch.at?]
  cases b.below.branch? i <;> simp

theorem Branch.at?_append {b s : Branch} {a : Address} (h : b.at? a = some s) (a' : Address) :
    b.at? (a ++ a') = s.at? a' := by
  induction a generalizing b with
  | nil =>
    obtain rfl : b = s := by simpa [Branch.at?] using h
    rfl
  | cons i a ih =>
    obtain ⟨c, hc, hs⟩ := Branch.at?_cons_eq_some_iff.1 h
    rw [List.cons_append, Branch.at?, hc]
    exact ih hs

namespace Tree

variable {t : Tree}

theorem Unfolds.branch?_eq_some {cs : List Child} {f : Forest} (h : t.Unfolds cs f) {i : Nat}
    {b : Branch} (hb : f.branch? i = some b) : cs[i]? = some (.node b.id) ∧ t.Holds b := by
  induction h generalizing i with
  | nil => simp [Forest.branch?] at hb
  | leaf _ ih => cases i with
    | zero => simp [Forest.branch?] at hb
    | succ i => simpa using ih hb
  | node hn hbelow _ _ ih => cases i with
    | zero =>
      obtain rfl := Option.some.inj hb
      exact ⟨rfl, hn, hbelow⟩
    | succ i => simpa using ih hb

theorem Unfolds.exists_branch? {cs : List Child} {f : Forest} (h : t.Unfolds cs f) {i id : Nat}
    (hc : cs[i]? = some (.node id)) : ∃ b, f.branch? i = some b ∧ b.id = id := by
  induction h generalizing i with
  | nil => simp at hc
  | leaf _ ih => cases i with
    | zero => simp at hc
    | succ i => exact ih (by simpa using hc)
  | @node id' n _ below _ _ _ _ _ ih => cases i with
    | zero =>
      obtain rfl : id' = id := by simpa using hc
      exact ⟨⟨id', n, below⟩, rfl, rfl⟩
    | succ i => exact ih (by simpa using hc)

theorem Holds.at? {b s : Branch} (h : t.Holds b) {a : Address} (hs : b.at? a = some s) :
    t.Holds s := by
  induction a generalizing b with
  | nil =>
    obtain rfl : b = s := by simpa [Branch.at?] using hs
    exact h
  | cons i a ih =>
    obtain ⟨c, hc, hs⟩ := Branch.at?_cons_eq_some_iff.1 hs
    exact ih (h.below.branch?_eq_some hc).2 hs

/-- Following an address in a table and in the branch that it holds leads to the same node. -/
theorem Holds.resolve {b : Branch} (h : t.Holds b) (a : Address) :
    t.resolve b.id a = .ok ((b.at? a).map (·.id)) := by
  induction a generalizing b with
  | nil => rfl
  | cons i a ih =>
    rw [Tree.resolve, h.node, ok_bind, Branch.at?]
    cases hb : b.below.branch? i with
    | some c =>
      obtain ⟨hchild, hc⟩ := h.below.branch?_eq_some hb
      simp only [hchild]
      exact ih hc
    | none =>
      -- No node stands there, so the child list ends before `i` or has a word at `i`.
      split
      · next id hchild =>
        obtain ⟨c, hc, _⟩ := h.below.exists_branch? hchild
        rw [hb] at hc
        cases hc
      · rfl

theorem Holds.resolve_eq_some_iff {b : Branch} (h : t.Holds b) {a : Address} {id : Nat} :
    t.resolve b.id a = .ok (some id) ↔ ∃ s, b.at? a = some s ∧ s.id = id := by
  simp [h.resolve a]

end Tree

/-! ## Depth-first order -/

theorem Forest.mem_depthFirst {f : Forest} {parent : Address} {i : Nat} {p : Place} :
    p ∈ f.depthFirst parent i ↔ ∃ j a b s, f.branch? j = some b ∧ b.at? a = some s ∧
      p = ⟨s.id, parent ++ (i + j) :: a, s.data⟩ := by
  induction f generalizing parent i with
  | nil => simp [depthFirst, branch?]
  | leaf word rest ih =>
    rw [depthFirst, ih]
    constructor
    · rintro ⟨j, a, b, s, hb, hs, rfl⟩
      exact ⟨j + 1, a, b, s, hb, hs, by rw [Nat.add_assoc, Nat.add_comm 1 j]⟩
    · rintro ⟨j, a, b, s, hb, hs, rfl⟩
      cases j with
      | zero => cases hb
      | succ j => exact ⟨j, a, b, s, hb, hs, by rw [Nat.add_assoc, Nat.add_comm 1 j]⟩
  | node id data below rest ihbelow ihrest =>
    rw [depthFirst, List.mem_cons, List.mem_append, ihbelow, ihrest]
    constructor
    · rintro (rfl | ⟨j, a, b, s, hb, hs, rfl⟩ | ⟨j, a, b, s, hb, hs, rfl⟩)
      · exact ⟨0, [], ⟨id, data, below⟩, _, rfl, rfl, rfl⟩
      · refine ⟨0, j :: a, ⟨id, data, below⟩, s, rfl, ?_, by simp [Address.child]⟩
        exact Branch.at?_cons_eq_some_iff.2 ⟨b, hb, hs⟩
      · exact ⟨j + 1, a, b, s, hb, hs, by rw [Nat.add_assoc, Nat.add_comm 1 j]⟩
    · rintro ⟨j, a, b, s, hb, hs, rfl⟩
      cases j with
      | succ j =>
        exact .inr (.inr ⟨j, a, b, s, hb, hs, by rw [Nat.add_assoc, Nat.add_comm 1 j]⟩)
      | zero =>
        obtain rfl := Option.some.inj hb
        cases a with
        | nil =>
          obtain rfl : (⟨id, data, below⟩ : Branch) = s := by simpa [Branch.at?] using hs
          exact .inl rfl
        | cons k a =>
          obtain ⟨c, hc, hs⟩ := Branch.at?_cons_eq_some_iff.1 hs
          exact .inr (.inl ⟨k, a, c, s, hc, hs, by simp [Address.child]⟩)

/-- Depth-first order lists the node at each address. -/
theorem Branch.mem_depthFirst {b : Branch} {p : Place} :
    p ∈ b.depthFirst ↔ ∃ a s, b.at? a = some s ∧ p = ⟨s.id, a, s.data⟩ := by
  rw [depthFirst, List.mem_cons, Forest.mem_depthFirst]
  constructor
  · rintro (rfl | ⟨j, a, c, s, hc, hs, rfl⟩)
    · exact ⟨[], b, rfl, rfl⟩
    · exact ⟨j :: a, s, at?_cons_eq_some_iff.2 ⟨c, hc, hs⟩, by simp⟩
  · rintro ⟨a, s, hs, rfl⟩
    cases a with
    | nil =>
      obtain rfl : b = s := by simpa [at?] using hs
      exact .inl rfl
    | cons j a =>
      obtain ⟨c, hc, hs⟩ := at?_cons_eq_some_iff.1 hs
      exact .inr ⟨j, a, c, s, hc, hs, by simp⟩

/-- What starts at a child comes before what starts at a later child of the same node. -/
theorem append_cons_lt (parent : Address) {i j : Nat} (h : i < j) (a a' : Address) :
    parent ++ i :: a < parent ++ j :: a' :=
  List.append_left_lt (List.cons_lt_cons_iff.2 (.inl h))

theorem Forest.pairwise_depthFirst (f : Forest) (parent : Address) (i : Nat) :
    (f.depthFirst parent i).Pairwise fun p q => p.address < q.address := by
  induction f generalizing parent i with
  | nil => exact .nil
  | leaf word rest ih => exact ih parent (i + 1)
  | node id data below rest ihbelow ihrest =>
    rw [depthFirst, List.pairwise_cons, List.pairwise_append]
    refine ⟨?_, ihbelow _ _, ihrest _ _, ?_⟩
    · intro p hp
      rcases List.mem_append.1 hp with hp | hp
      · -- Below the node, addresses go on from its own.
        obtain ⟨j, a, c, s, _, _, rfl⟩ := mem_depthFirst.1 hp
        have hlt : parent.child i ++ [] < parent.child i ++ (0 + j) :: a :=
          List.append_left_lt (List.nil_lt_cons _ _)
        simpa using hlt
      · obtain ⟨j, a, c, s, _, _, rfl⟩ := mem_depthFirst.1 hp
        exact append_cons_lt parent (by omega) [] a
    · intro p hp q hq
      obtain ⟨j, a, c, s, _, _, rfl⟩ := mem_depthFirst.1 hp
      obtain ⟨k, a', c', s', _, _, rfl⟩ := mem_depthFirst.1 hq
      have hlt := append_cons_lt parent (show i < i + 1 + k by omega)
        ((0 + j) :: a) a'
      simpa [Address.child] using hlt

/-- Depth-first order is the lexicographic order of addresses. -/
theorem Branch.pairwise_depthFirst (b : Branch) :
    b.depthFirst.Pairwise fun p q => p.address < q.address := by
  rw [depthFirst, List.pairwise_cons]
  refine ⟨?_, Forest.pairwise_depthFirst _ _ _⟩
  intro p hp
  obtain ⟨j, a, c, s, _, _, rfl⟩ := Forest.mem_depthFirst.1 hp
  exact List.nil_lt_cons _ _

theorem Branch.nodup_depthFirst (b : Branch) : b.depthFirst.Nodup := by
  refine b.pairwise_depthFirst.imp ?_
  rintro p _ hlt rfl
  exact List.lt_irrefl _ hlt

/-! ## Ids -/

/-- The ids of the nodes in depth-first order. -/
def Forest.ids : Forest → List Nat
  | nil => []
  | leaf _ rest => rest.ids
  | node id _ below rest => id :: (below.ids ++ rest.ids)

/-- The ids of the nodes in depth-first order. -/
def Branch.ids (b : Branch) : List Nat := b.id :: b.below.ids

theorem Forest.map_id_depthFirst (f : Forest) (parent : Address) (i : Nat) :
    (f.depthFirst parent i).map (·.id) = f.ids := by
  induction f generalizing parent i with
  | nil => rfl
  | leaf word rest ih => exact ih parent (i + 1)
  | node id data below rest ihbelow ihrest =>
    rw [depthFirst, List.map_cons, List.map_append, ihbelow, ihrest, ids]

theorem Branch.map_id_depthFirst (b : Branch) : b.depthFirst.map (·.id) = b.ids := by
  rw [depthFirst, List.map_cons, Forest.map_id_depthFirst, ids]

theorem Branch.mem_ids {b : Branch} {id : Nat} :
    id ∈ b.ids ↔ ∃ a s, b.at? a = some s ∧ s.id = id := by
  rw [← map_id_depthFirst, List.mem_map]
  constructor
  · rintro ⟨p, hp, rfl⟩
    obtain ⟨a, s, hs, rfl⟩ := mem_depthFirst.1 hp
    exact ⟨a, s, hs, rfl⟩
  · rintro ⟨a, s, hs, rfl⟩
    exact ⟨_, mem_depthFirst.2 ⟨a, s, hs, rfl⟩, rfl⟩

/-- The ids of a branch are pairwise different if and only if each stands at one address. -/
theorem Branch.nodup_ids_iff {b : Branch} :
    b.ids.Nodup ↔ ∀ a a' s s', b.at? a = some s → b.at? a' = some s' → s.id = s'.id → a = a' := by
  rw [← map_id_depthFirst]
  constructor
  · intro hnodup a a' s s' hs hs' hid
    have hp := mem_depthFirst.2 ⟨a, s, hs, rfl⟩
    have hp' := mem_depthFirst.2 ⟨a', s', hs', rfl⟩
    exact congrArg Place.address (List.inj_on_of_nodup_map hnodup hp hp' hid)
  · intro hunique
    refine List.Nodup.map_on ?_ b.nodup_depthFirst
    intro p hp q hq hid
    obtain ⟨a, s, hs, rfl⟩ := mem_depthFirst.1 hp
    obtain ⟨a', s', hs', rfl⟩ := mem_depthFirst.1 hq
    obtain rfl := hunique a a' s s' hs hs' hid
    obtain rfl := Option.some.inj (hs.symm.trans hs')
    rfl

end SpineGrammar
