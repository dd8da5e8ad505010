import Mathlib.Data.List.Shortlex
import SpineGrammar.Proofs.Inheritance
import SpineGrammar.Proofs.Projection
import SpineGrammar.Proofs.Walk

/-!
# Traversals follow the order of addresses

In a rooted tree, breadth-first order lists the nodes by the length of their addresses and, on one
level, from left to right, which is the shortlex order of addresses; depth-first order lists the
same nodes in lexicographic order. The words come in the lexicographic order of their places. An id
and its address are found from each other, and an id without an address is one that no path leads
to.
-/

namespace SpineGrammar

/-! ## Addresses of one level -/

/-- Of two different addresses of one length the smaller one stays smaller, however both go on. -/
theorem Address.append_lt_append {a b : Address} (hlength : a.length = b.length) (h : a < b)
    (c d : Address) : a ++ c < b ++ d := by
  induction a generalizing b with
  | nil =>
    have hb : b = [] := List.eq_nil_of_length_eq_zero hlength.symm
    rw [hb] at h
    exact absurd h (List.not_lt_nil _)
  | cons i a ih => cases b with
    | nil => simp at hlength
    | cons j b =>
      simp only [List.cons_append, List.cons_lt_cons_iff] at h ⊢
      by_cases hij : i < j
      · exact .inl hij
      · obtain ⟨rfl, hab⟩ := h.resolve_left hij
        exact .inr ⟨rfl, ih (by simpa using hlength) hab⟩

theorem Forest.exists_of_mem_branches {f : Forest} {parent : Address} {i : Nat}
    {s : Address × Branch} (hs : s ∈ f.branches parent i) : ∃ j, s.1 = parent ++ [i + j] := by
  induction f generalizing i with
  | nil => cases hs
  | leaf word rest ih =>
    obtain ⟨j, hj⟩ := ih hs
    exact ⟨j + 1, by rw [hj]; congr 2; omega⟩
  | node id data below rest _ ih =>
    rcases List.mem_cons.1 hs with rfl | hs
    · exact ⟨0, rfl⟩
    · obtain ⟨j, hj⟩ := ih hs
      exact ⟨j + 1, by rw [hj]; congr 2; omega⟩

theorem Forest.pairwise_branches (f : Forest) (parent : Address) (i : Nat) :
    (f.branches parent i).Pairwise fun s s' => s.1 < s'.1 := by
  induction f generalizing i with
  | nil => exact .nil
  | leaf word rest ih => exact ih (i + 1)
  | node id data below rest _ ih =>
    unfold branches
    rw [List.pairwise_cons]
    refine ⟨?_, ih (i + 1)⟩
    intro s hs
    obtain ⟨j, hj⟩ := exists_of_mem_branches hs
    rw [hj]
    exact append_cons_lt parent (by omega) [] []

namespace Branch

variable {b : Branch}

theorem length_of_mem_level {k : Nat} {s : Address × Branch} (hs : s ∈ b.level k) :
    s.1.length = k := by
  induction k generalizing s with
  | zero => simp [List.mem_singleton.1 hs]
  | succ k ih =>
    obtain ⟨above, habove, hs⟩ := List.mem_flatMap.1 hs
    obtain ⟨j, hj⟩ := Forest.exists_of_mem_branches hs
    have hlength := ih habove
    simp [hj, hlength]

/-- A level lists its nodes in the lexicographic order of their addresses. -/
theorem pairwise_level (b : Branch) (k : Nat) :
    (b.level k).Pairwise fun s s' => s.1 < s'.1 := by
  induction k with
  | zero => exact List.pairwise_singleton _ _
  | succ k ih =>
    unfold level
    rw [List.pairwise_flatMap]
    refine ⟨fun s _ => s.2.below.pairwise_branches s.1 0, ?_⟩
    -- What hangs below different nodes of a level is told apart by the addresses of those nodes.
    refine ih.imp_of_mem ?_
    intro s s' hs hs' hlt c hc c' hc'
    obtain ⟨j, hj⟩ := Forest.exists_of_mem_branches hc
    obtain ⟨j', hj'⟩ := Forest.exists_of_mem_branches hc'
    rw [hj, hj']
    apply Address.append_lt_append _ hlt
    rw [length_of_mem_level hs, length_of_mem_level hs']

/-- Breadth-first order is the shortlex order of addresses. -/
theorem pairwise_breadthFirst (b : Branch) :
    b.breadthFirst.Pairwise fun p q => List.Shortlex (· < ·) p.address q.address := by
  unfold breadthFirst
  rw [List.pairwise_flatMap]
  constructor
  · intro k _
    rw [List.pairwise_map]
    refine (b.pairwise_level k).imp_of_mem ?_
    intro s s' hs hs' hlt
    apply List.Shortlex.of_lex _ hlt
    rw [length_of_mem_level hs, length_of_mem_level hs']
  · refine List.pairwise_lt_range.imp ?_
    intro k k' hlt p hp q hq
    obtain ⟨s, hs, rfl⟩ := List.mem_map.1 hp
    obtain ⟨s', hs', rfl⟩ := List.mem_map.1 hq
    apply List.Shortlex.of_length_lt
    show s.1.length < s'.1.length
    rw [length_of_mem_level hs, length_of_mem_level hs']
    exact hlt

end Branch

/-! ## Words and their places -/

/-- `t.HasWord start a word`: the address `a`, taken from the node `start`, leads to `word`. Its
    last step is to a child of the node that the steps before lead to. -/
def Tree.HasWord (t : Tree) (start : Nat) (a : Address) (word : String) : Prop :=
  ∃ above i id n, a = above.child i ∧ t.resolve start above = .ok (some id) ∧
    t.node id = .ok n ∧ n.children[i]? = some (.leaf word)

/-- The words, left to right, each with its address, where the forest starts at child `i` of the
    node at `parent`. -/
def Forest.wordSpots (parent : Address) (i : Nat) : Forest → List (Address × String)
  | nil => []
  | leaf word rest => (parent.child i, word) :: rest.wordSpots parent (i + 1)
  | node _ _ below rest =>
    below.wordSpots (parent.child i) 0 ++ rest.wordSpots parent (i + 1)

theorem Forest.map_snd_wordSpots (f : Forest) (parent : Address) (i : Nat) :
    (f.wordSpots parent i).map (·.2) = f.words := by
  induction f generalizing parent i with
  | nil => rfl
  | leaf word rest ih => simp [wordSpots, words, ih]
  | node id data below rest ihbelow ihrest => simp [wordSpots, words, ihbelow, ihrest]

theorem Forest.exists_of_mem_wordSpots {f : Forest} {parent : Address} {i : Nat}
    {s : Address × String} (hs : s ∈ f.wordSpots parent i) :
    ∃ j rest, s.1 = parent ++ (i + j) :: rest := by
  induction f generalizing parent i with
  | nil => cases hs
  | leaf word rest ih =>
    rcases List.mem_cons.1 hs with rfl | hs
    · exact ⟨0, [], rfl⟩
    · obtain ⟨j, a, hj⟩ := ih hs
      exact ⟨j + 1, a, by rw [hj]; congr 2; omega⟩
  | node id data below rest ihbelow ihrest =>
    rcases List.mem_append.1 hs with hs | hs
    · obtain ⟨j, a, hj⟩ := ihbelow hs
      exact ⟨0, (0 + j) :: a, by rw [hj]; simp [Address.child]⟩
    · obtain ⟨j, a, hj⟩ := ihrest hs
      exact ⟨j + 1, a, by rw [hj]; congr 2; omega⟩

/-- Words are listed in the lexicographic order of their addresses. -/
theorem Forest.pairwise_wordSpots (f : Forest) (parent : Address) (i : Nat) :
    (f.wordSpots parent i).Pairwise fun s s' => s.1 < s'.1 := by
  induction f generalizing parent i with
  | nil => exact .nil
  | leaf word rest ih =>
    unfold wordSpots
    rw [List.pairwise_cons]
    refine ⟨?_, ih parent (i + 1)⟩
    intro s hs
    obtain ⟨j, a, hj⟩ := exists_of_mem_wordSpots hs
    rw [hj]
    exact append_cons_lt parent (by omega) [] a
  | node id data below rest ihbelow ihrest =>
    unfold wordSpots
    rw [List.pairwise_append]
    refine ⟨ihbelow _ _, ihrest _ _, ?_⟩
    intro s hs s' hs'
    obtain ⟨j, a, hj⟩ := exists_of_mem_wordSpots hs
    obtain ⟨j', a', hj'⟩ := exists_of_mem_wordSpots hs'
    rw [hj, hj', Address.child, List.append_assoc]
    exact append_cons_lt parent (by omega) _ a'

namespace Tree

variable {t : Tree} {b : Branch}

/-- The first step to a word is the step to it, or to a node from which the rest leads to it. -/
theorem hasWord_cons_iff {start i : Nat} {a : Address} {word : String} :
    t.HasWord start (i :: a) word ↔ ∃ n, t.node start = .ok n ∧
      (a = [] ∧ n.children[i]? = some (.leaf word) ∨
        ∃ id, n.children[i]? = some (.node id) ∧ t.HasWord id a word) := by
  constructor
  · intro h
    obtain ⟨above, j, id, n, ha, habove, hn, hword⟩ := h
    cases above with
    | nil =>
      obtain ⟨rfl, rfl⟩ : i = j ∧ a = [] := by simpa [Address.child] using ha
      obtain rfl : start = id := by simpa [resolve] using habove
      exact ⟨n, hn, .inl ⟨rfl, hword⟩⟩
    | cons k above =>
      obtain ⟨rfl, rfl⟩ : i = k ∧ a = above ++ [j] := by simpa [Address.child] using ha
      obtain ⟨n', next, hn', hnext, hrest⟩ := resolve_cons_eq_some_iff.1 habove
      exact ⟨n', hn', .inr ⟨next, hnext, above, j, id, n, rfl, hrest, hn, hword⟩⟩
  · intro h
    obtain ⟨n, hn, ⟨rfl, hword⟩ | ⟨next, hnext, above, j, id, n', rfl, habove, hn', hword⟩⟩ := h
    · exact ⟨[], i, start, n, rfl, rfl, hn, hword⟩
    · refine ⟨i :: above, j, id, n', rfl, ?_, hn', hword⟩
      exact resolve_cons_eq_some_iff.2 ⟨n, next, hn, hnext, habove⟩

/-- The words of a forest are those that its child list has and those below its nodes. -/
theorem Unfolds.mem_wordSpots {cs : List Child} {f : Forest} (h : t.Unfolds cs f)
    {parent : Address} {i : Nat} {a : Address} {word : String} :
    (a, word) ∈ f.wordSpots parent i ↔ ∃ j rest, a = parent ++ (i + j) :: rest ∧
      (rest = [] ∧ cs[j]? = some (.leaf word) ∨
        ∃ id, cs[j]? = some (.node id) ∧ t.HasWord id rest word) := by
  induction h generalizing parent i with
  | nil => simp [Forest.wordSpots]
  | leaf _ ih =>
    unfold Forest.wordSpots
    rw [List.mem_cons, ih]
    constructor
    · rintro (heq | ⟨j, rest, rfl, hitem⟩)
      · obtain ⟨rfl, rfl⟩ := Prod.mk.inj heq
        exact ⟨0, [], rfl, .inl ⟨rfl, rfl⟩⟩
      · exact ⟨j + 1, rest, by rw [Nat.add_assoc, Nat.add_comm 1 j], hitem⟩
    · intro h
      obtain ⟨j, rest, rfl, hitem⟩ := h
      cases j with
      | zero =>
        left
        obtain ⟨rfl, rfl⟩ : rest = [] ∧ _ = word := by simpa using hitem
        rfl
      | succ j => exact .inr ⟨j, rest, by rw [Nat.add_assoc, Nat.add_comm 1 j], hitem⟩
  | @node id n cs below rest hn _ _ ihbelow ihrest =>
    unfold Forest.wordSpots
    rw [List.mem_append, ihbelow, ihrest]
    constructor
    · rintro (⟨j, r, rfl, hitem⟩ | ⟨j, r, rfl, hitem⟩)
      · refine ⟨0, j :: r, by simp [Address.child], .inr ⟨id, rfl, ?_⟩⟩
        exact hasWord_cons_iff.2 ⟨n, hn, hitem⟩
      · exact ⟨j + 1, r, by rw [Nat.add_assoc, Nat.add_comm 1 j], hitem⟩
    · intro h
      obtain ⟨j, r, rfl, hitem⟩ := h
      cases j with
      | zero =>
        obtain ⟨id', hid, hword⟩ := hitem.resolve_left (by simp)
        obtain rfl : id = id' := by simpa using hid
        cases r with
        | nil => simp [HasWord, Address.child] at hword
        | cons j r =>
          obtain ⟨n', hn', hitem⟩ := hasWord_cons_iff.1 hword
          obtain rfl := Except.ok.inj (hn.symm.trans hn')
          exact .inl ⟨j, r, by simp [Address.child], hitem⟩
      | succ j => exact .inr ⟨j, r, by rw [Nat.add_assoc, Nat.add_comm 1 j], hitem⟩

/-- `t.ListsWords start words`: `words` are the words that addresses lead to from the node `start`,
    one for each address, in the lexicographic order of the addresses. -/
def ListsWords (t : Tree) (start : Nat) (words : List String) : Prop :=
  ∃ spots : List (Address × String), spots.map (·.2) = words ∧
    (spots.Pairwise fun s s' => s.1 < s'.1) ∧
    ∀ a word, (a, word) ∈ spots ↔ t.HasWord start a word

/-- `t.ListsSpots start spots`: `spots` are the addresses that lead from the node `start` to words,
    each with its word, in lexicographic order. -/
structure ListsSpots (t : Tree) (start : Nat) (spots : List (Address × String)) : Prop where
  sorted : spots.Pairwise fun s s' => s.1 < s'.1
  mem_iff : ∀ a word, (a, word) ∈ spots ↔ t.HasWord start a word

theorem Holds.listsSpots (h : t.Holds b) : t.ListsSpots b.id (b.below.wordSpots [] 0) where
  sorted := b.below.pairwise_wordSpots [] 0
  mem_iff := by
    intro a word
    rw [h.below.mem_wordSpots]
    constructor
    · intro hspot
      obtain ⟨j, rest, rfl, hitem⟩ := hspot
      rw [List.nil_append, Nat.zero_add]
      exact hasWord_cons_iff.2 ⟨b.data, h.node, hitem⟩
    · intro hword
      cases a with
      | nil => simp [HasWord, Address.child] at hword
      | cons i rest =>
        obtain ⟨n, hn, hitem⟩ := hasWord_cons_iff.1 hword
        obtain rfl := Except.ok.inj (h.node.symm.trans hn)
        exact ⟨i, rest, by simp, hitem⟩

theorem Holds.listsWords (h : t.Holds b) : t.ListsWords b.id b.words :=
  ⟨_, b.below.map_snd_wordSpots [] 0, h.listsSpots.sorted, h.listsSpots.mem_iff⟩

/-- The words below each node that a path leads to are listed in the order of their addresses. -/
theorem IsRootedTree.exists_wordsUnder (h : t.IsRootedTree) {id : Nat} (hid : t.Reaches id) :
    ∃ words, t.wordsUnder id = .ok words ∧ t.ListsWords id words := by
  obtain ⟨a, ha⟩ := hid
  obtain ⟨b, hb⟩ := h.exists_branchAt ha
  obtain ⟨rfl, hholds⟩ := holds_of_branchWithin hb
  refine ⟨b.words, ?_, hholds.listsWords⟩
  unfold wordsUnder
  rw [hb]
  rfl

/-! ## Nodes and their addresses -/

/-- `t.ListsNodes places`: the list has each address that leads to a node just once, with the id of
    the node and its data. -/
structure ListsNodes (t : Tree) (places : List Place) : Prop where
  nodup : (places.map fun p => (p.id, p.address)).Nodup
  mem_iff : ∀ id a,
    (id, a) ∈ (places.map fun p => (p.id, p.address)) ↔ t.nodeAt a = .ok (some id)
  node : ∀ p ∈ places, t.node p.id = .ok p.data

/-- Depth-first order lists the nodes. -/
theorem Denotes.listsNodes (h : t.Denotes b) : t.ListsNodes b.depthFirst where
  nodup := by
    -- The ids alone are pairwise different.
    have hids := h.ids_nodup
    rw [← b.map_id_depthFirst] at hids
    refine List.Nodup.of_map (·.1) ?_
    rw [List.map_map]
    exact hids
  mem_iff := by
    intro id a
    rw [List.mem_map]
    constructor
    · intro hplace
      obtain ⟨p, hp, heq⟩ := hplace
      obtain ⟨rfl, rfl⟩ := Prod.mk.inj heq
      exact (h.mem_depthFirst.1 hp).nodeAt
    · intro ha
      obtain ⟨n, hn⟩ := h.isRootedTree.exists_stands ha
      exact ⟨⟨id, a, n⟩, h.mem_depthFirst.2 hn, rfl⟩
  node := fun p hp => (h.mem_depthFirst.1 hp).node

/-- It does not depend on the order of the list. -/
theorem ListsNodes.perm {places places' : List Place} (h : t.ListsNodes places)
    (hperm : places'.Perm places) : t.ListsNodes places' where
  nodup := (hperm.map _).nodup_iff.2 h.nodup
  mem_iff := fun id a => ((hperm.map _).mem_iff).trans (h.mem_iff id a)
  node := fun p hp => h.node p (hperm.mem_iff.1 hp)

namespace IsRootedTree

theorem exists_nodeAt (h : t.IsRootedTree) (a : Address) : ∃ found, t.nodeAt a = .ok found := by
  obtain ⟨b, _, hb⟩ := h.exists_denotes
  unfold nodeAt
  rw [← hb.root]
  exact ⟨_, hb.resolve a⟩

/-- The address of an id is the one address that leads to its node, if any does. -/
theorem addressOf?_eq (h : t.IsRootedTree) (id : Nat) : ∃ found, t.addressOf? id = .ok found ∧
    ∀ a, found = some a ↔ t.nodeAt a = .ok (some id) := by
  obtain ⟨b, hunfold, hb⟩ := h.exists_denotes
  have hlists := hb.listsNodes.perm b.breadthFirst_perm
  refine ⟨(b.breadthFirst.find? (·.id = id)).map (·.address), ?_, ?_⟩
  · unfold addressOf?
    rw [breadthFirst_eq_ok hunfold]
    rfl
  · intro a
    rw [Option.map_eq_some_iff]
    constructor
    · intro hfound
      obtain ⟨p, hp, rfl⟩ := hfound
      have hid : p.id = id := by simpa using List.find?_some hp
      rw [← hid]
      exact (hlists.mem_iff _ _).1 (List.mem_map_of_mem (List.mem_of_find?_eq_some hp))
    · intro ha
      obtain ⟨p, hp, heq⟩ := List.mem_map.1 ((hlists.mem_iff id a).2 ha)
      obtain ⟨rfl, rfl⟩ := Prod.mk.inj heq
      -- Some node with this id is found, and only this address leads to it.
      obtain ⟨q, hq⟩ : ∃ q, b.breadthFirst.find? (·.id = p.id) = some q := by
        rw [← Option.isSome_iff_exists, List.find?_isSome]
        exact ⟨p, hp, by simp⟩
      have hid : q.id = p.id := by simpa using List.find?_some hq
      have hqa := (hlists.mem_iff _ _).1 (List.mem_map_of_mem (List.mem_of_find?_eq_some hq))
      exact ⟨q, hq, h.path_unique _ _ p.id (hid ▸ hqa) ha⟩

theorem addressOf?_eq_some_iff (h : t.IsRootedTree) {id : Nat} {a : Address} :
    t.addressOf? id = .ok (some a) ↔ t.nodeAt a = .ok (some id) := by
  obtain ⟨found, hfound, hiff⟩ := h.addressOf?_eq id
  rw [hfound, Except.ok.injEq, hiff]

theorem addressOf?_eq_none_iff (h : t.IsRootedTree) {id : Nat} :
    t.addressOf? id = .ok none ↔ ¬ t.Reaches id := by
  obtain ⟨found, hfound, hiff⟩ := h.addressOf?_eq id
  rw [hfound, Except.ok.injEq]
  unfold Reaches
  cases found with
  | none =>
    simp only [reduceCtorEq, false_iff] at hiff
    simp [hiff]
  | some a => simpa using ⟨a, (hiff a).1 rfl⟩

end IsRootedTree

end Tree

/-- A walk from the root visits what it visits on the branch, with any number of steps that lets it
    come to its end. -/
theorem Tree.walk_root_eq_ok {t : Tree} {b : Branch} (h : t.Denotes b) {d : Discipline}
    {places : List Place} (hvisits : d.Visits [([], b)] places) {steps : Nat}
    (hsteps : places.length ≤ steps) : t.walk d steps [(t.root, [])] = .ok places := by
  rw [← h.root]
  exact walk_eq_ok hvisits (fun s hs => List.mem_singleton.1 hs ▸ h.toHolds) hsteps

/-- A list in strict lexicographic order is what sorting any other order of it gives. -/
theorem Address.eq_sort_of_perm {as bs : List Address} (hperm : as.Perm bs)
    (hsorted : as.Pairwise (· < ·)) : as = Address.sort bs := by
  have hle : as.Pairwise fun a b => (compare a b).isLE = true := by
    refine hsorted.imp ?_
    intro a b hab
    rw [Address.compare_eq_lt_iff.2 hab]
    rfl
  have hsort : (Address.sort bs).Pairwise fun a b => (compare a b).isLE = true := by
    apply List.pairwise_mergeSort
    · intro a b c hab hbc
      exact Std.TransCmp.isLE_trans hab hbc
    · intro a b
      have htotal : compare a b = (compare b a).swap := Std.OrientedCmp.eq_swap
      rw [htotal]
      cases compare b a <;> rfl
  refine (hperm.trans (List.mergeSort_perm bs _).symm).eq_of_pairwise ?_ hle hsort
  intro a b _ _ hab hba
  exact Std.LawfulEqOrd.eq_of_compare (Std.OrientedCmp.isLE_antisymm hab hba)

/-- **Traversals**: in a rooted tree, breadth-first order lists each address that leads to a node
    once, shorter ones first and those of one length in lexicographic order; depth-first order lists
    the same nodes in lexicographic order. Both walks have an end, however many more steps they may
    take. Ids and addresses are found from each other, and the ids without an address are those that
    no path leads to. The words below a node come in the lexicographic order of their addresses. -/
theorem traversals_follow_addresses {t : Tree} (h : t.IsRootedTree) :
    ∃ level deep : List Place, t.breadthFirst = .ok level ∧ t.depthFirst = .ok deep ∧
      t.ListsNodes level ∧
      (level.Pairwise fun p q => List.Shortlex (· < ·) p.address q.address) ∧
      deep.Perm level ∧ (deep.Pairwise fun p q => p.address < q.address) ∧
      deep.map (·.address) = Address.sort (level.map (·.address)) ∧
      (∀ steps, level.length ≤ steps →
        t.walk .queue steps [(t.root, [])] = .ok level ∧
        t.walk .stack steps [(t.root, [])] = .ok deep) ∧
      (∀ a, ∃ found, t.nodeAt a = .ok found) ∧
      (∀ id a, t.addressOf? id = .ok (some a) ↔ t.nodeAt a = .ok (some id)) ∧
      (∀ id, t.addressOf? id = .ok none ↔ ¬ t.Reaches id) ∧
      (∃ words, t.words = .ok words ∧ t.ListsWords t.root words) ∧
      ∀ id, t.Reaches id → ∃ words, t.wordsUnder id = .ok words ∧ t.ListsWords id words := by
  obtain ⟨b, hunfold, hb⟩ := h.exists_denotes
  have hperm := b.breadthFirst_perm
  refine ⟨b.breadthFirst, b.depthFirst, Tree.breadthFirst_eq_ok hunfold,
    Tree.depthFirst_eq_ok hunfold, hb.listsNodes.perm hperm, b.pairwise_breadthFirst, hperm.symm,
    b.pairwise_depthFirst, ?_, ?_, h.exists_nodeAt, fun id a => h.addressOf?_eq_some_iff,
    fun id => h.addressOf?_eq_none_iff, ?_, fun id hid => h.exists_wordsUnder hid⟩
  · apply Address.eq_sort_of_perm (hperm.symm.map _)
    rw [List.pairwise_map]
    exact b.pairwise_depthFirst
  · intro steps hsteps
    refine ⟨Tree.walk_root_eq_ok hb b.visits_breadthFirst hsteps, ?_⟩
    rw [hperm.length_eq] at hsteps
    exact Tree.walk_root_eq_ok hb b.visits_depthFirst hsteps
  · exact h.exists_wordsUnder ⟨[], rfl⟩

/-- A subject of two nouns comes before them and before the verb phrase on its level, but the nouns
    come before the verb phrase in depth-first order. -/
theorem traversals_follow_addresses_huntClause :
    Tree.huntClause.IsRootedTree ∧
    ∃ level deep, Tree.huntClause.breadthFirst = .ok level ∧ Tree.huntClause.depthFirst = .ok deep ∧
      level.map (·.address) = [[], [0], [1], [0, 0], [0, 1]] ∧
      deep.map (·.address) = [[], [0], [0, 0], [0, 1], [1]] ∧
      deep.map (·.address) = Address.sort (level.map (·.address)) ∧
      Tree.huntClause.nodeAt [0, 1] = .ok (some 4) ∧
      Tree.huntClause.addressOf? 4 = .ok (some [0, 1]) ∧ ¬ Tree.huntClause.Reaches 5 ∧
      Tree.huntClause.ListsWords 0 ["farm", "cats", "hunts"] := by
  have htree : Tree.huntClause.IsRootedTree := by decide +kernel
  have hlevel : ∃ level, Tree.huntClause.breadthFirst = .ok level ∧
      level.map (·.address) = [[], [0], [1], [0, 0], [0, 1]] := by
    decide +kernel
  have hdeep : ∃ deep, Tree.huntClause.depthFirst = .ok deep ∧
      deep.map (·.address) = [[], [0], [0, 0], [0, 1], [1]] := by
    decide +kernel
  have hnode : Tree.huntClause.nodeAt [0, 1] = .ok (some 4) := by decide +kernel
  have hnone : Tree.huntClause.addressOf? 5 = .ok none := by decide +kernel
  have hwords : Tree.huntClause.words = .ok ["farm", "cats", "hunts"] := by decide +kernel
  obtain ⟨level, hl, hladdresses⟩ := hlevel
  obtain ⟨deep, hd, hdaddresses⟩ := hdeep
  obtain ⟨level', deep', hl', hd', _, _, _, _, hsort, _, _, hsome, hlost, hlisted, _⟩ :=
    traversals_follow_addresses htree
  obtain rfl := Except.ok.inj (hl.symm.trans hl')
  obtain rfl := Except.ok.inj (hd.symm.trans hd')
  obtain ⟨words, hw, hlisted⟩ := hlisted
  obtain rfl := Except.ok.inj (hwords.symm.trans hw)
  exact ⟨htree, level, deep, hl, hd, hladdresses, hdaddresses, hsort, hnode,
    (hsome 4 [0, 1]).2 hnode, (hlost 5).1 hnone, hlisted⟩

end SpineGrammar
