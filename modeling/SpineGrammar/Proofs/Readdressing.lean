import SpineGrammar.Proofs.Inheritance
import SpineGrammar.Proofs.Targets

/-!
# Addresses after an insertion

An argument that is put before the `i`-th child of a node makes room for itself: an address that
steps from that node to its `i`-th child or a later one steps one place further on, and every other
address stays. Making room keeps apart what lies above what. So the nodes of a result, with their
addresses, are those of the host where room was made, and those of the candidate below the place of
the argument.
-/

namespace SpineGrammar

/-! ## Making room -/

namespace Address

/-- The address of a node after the node at `parent` got another child before its `i`-th one. -/
def makeRoom : (parent : Address) → (i : Nat) → (a : Address) → Address
  | [], i, j :: rest => (if i ≤ j then j + 1 else j) :: rest
  | k :: parent, i, j :: rest => if j = k then k :: makeRoom parent i rest else j :: rest
  | _, _, [] => []

variable {parent a a' : Address} {i : Nat}

@[simp] theorem makeRoom_nil (parent : Address) (i : Nat) : makeRoom parent i [] = [] := by
  cases parent <;> rfl

/-- A later child moves one place on. -/
theorem makeRoom_of_le {j : Nat} (h : i ≤ j) (parent rest : Address) :
    makeRoom parent i (parent ++ j :: rest) = parent ++ (j + 1) :: rest := by
  induction parent with
  | nil => simp [makeRoom, h]
  | cons k parent ih => simp [makeRoom, ih]

/-- An address that does not step to a later child stays. -/
theorem makeRoom_of_before (h : ∀ j rest, a = parent ++ j :: rest → j < i) :
    makeRoom parent i a = a := by
  induction parent generalizing a with
  | nil => cases a with
    | nil => rfl
    | cons j rest =>
      have hj : j < i := h j rest rfl
      simp [makeRoom, Nat.not_le.2 hj]
  | cons k parent ih => cases a with
    | nil => rfl
    | cons j rest =>
      by_cases hjk : j = k
      · subst hjk
        have hrest : makeRoom parent i rest = rest := by
          apply ih
          intro j' rest' heq
          exact h j' rest' (by rw [heq]; rfl)
        simp [makeRoom, hrest]
      · simp [makeRoom, hjk]

/-- An address stays, or it steps to a later child and moves. -/
theorem makeRoom_cases (parent : Address) (i : Nat) (a : Address) :
    ((∀ j rest, a = parent ++ j :: rest → j < i) ∧ makeRoom parent i a = a) ∨
    ∃ j rest, a = parent ++ j :: rest ∧ i ≤ j ∧
      makeRoom parent i a = parent ++ (j + 1) :: rest := by
  by_cases h : ∀ j rest, a = parent ++ j :: rest → j < i
  · exact .inl ⟨h, makeRoom_of_before h⟩
  · simp only [not_forall, Nat.not_lt] at h
    obtain ⟨j, rest, rfl, hj⟩ := h
    exact .inr ⟨j, rest, rfl, hj, makeRoom_of_le hj parent rest⟩

/-- What lies above the new child or at its parent stays. -/
theorem makeRoom_of_prefix (h : a <+: parent) : makeRoom parent i a = a := by
  apply makeRoom_of_before
  intro j rest heq
  have hlength := h.length_le
  rw [heq, List.length_append, List.length_cons] at hlength
  omega

private theorem later_eq_iff {j k : Nat} :
    (if i ≤ j then j + 1 else j) = (if i ≤ k then k + 1 else k) ↔ j = k := by
  split <;> split <;> omega

/-- Making room keeps what lies above what. -/
theorem makeRoom_prefix_iff :
    makeRoom parent i a <+: makeRoom parent i a' ↔ a <+: a' := by
  -- On the way to the parent nothing changes, and at it the children keep their order.
  induction parent generalizing a a' with
  | nil => cases a <;> cases a' <;> simp [makeRoom, List.cons_prefix_cons, later_eq_iff]
  | cons k parent ih => cases a with
    | nil => simp
    | cons j rest => cases a' with
      | nil => by_cases hj : j = k <;> simp [makeRoom, hj]
      | cons j' rest' =>
        by_cases hj : j = k <;> by_cases hj' : j' = k <;>
          simp [makeRoom, List.cons_prefix_cons, hj, hj', ih, eq_comm (a := k)]

theorem makeRoom_inj : makeRoom parent i a = makeRoom parent i a' ↔ a = a' := by
  constructor
  · intro heq
    have hle : a <+: a' := makeRoom_prefix_iff.1 (by rw [heq])
    have hge : a' <+: a := makeRoom_prefix_iff.1 (by rw [heq])
    exact hle.eq_of_length_le hge.length_le
  · intro heq
    rw [heq]

/-- Above the new child lies what was at its parent or above it. -/
theorem makeRoom_prefix_new_iff :
    makeRoom parent i a <+: parent ++ i :: a' ↔ a <+: parent := by
  induction parent generalizing a with
  | nil => cases a with
    | nil => simp
    | cons j rest =>
      -- No old child gets the number of the new one.
      have hj : (if i ≤ j then j + 1 else j) ≠ i := by split <;> omega
      simp [makeRoom, List.cons_prefix_cons, hj]
  | cons k parent ih => cases a with
    | nil => simp
    | cons j rest =>
      by_cases hj : j = k <;> simp [makeRoom, List.cons_prefix_cons, hj, ih]

/-- The new child lies above no old node. -/
theorem not_new_prefix_makeRoom : ¬ parent ++ i :: a' <+: makeRoom parent i a := by
  induction parent generalizing a with
  | nil => cases a with
    | nil => simp
    | cons j rest =>
      have hj : i ≠ (if i ≤ j then j + 1 else j) := by split <;> omega
      simp [makeRoom, List.cons_prefix_cons, hj]
  | cons k parent ih => cases a with
    | nil => simp
    | cons j rest =>
      by_cases hj : j = k
      · simp [makeRoom, List.cons_prefix_cons, hj, ih]
      · simp [makeRoom, List.cons_prefix_cons, hj, Ne.symm hj]

theorem makeRoom_ne_new : makeRoom parent i a ≠ parent ++ i :: a' := by
  intro heq
  have hnew : parent ++ i :: a' <+: makeRoom parent i a := by rw [heq]
  exact not_new_prefix_makeRoom hnew

end Address

/-! ## The nodes of a result -/

namespace Tree

/-- `d.InsertsAt c x owner r target place i`: the sound tree `x` is `d` with a copy of `c` for the
    rule `r` of `owner`, put before the `i`-th child of the node `target` at the address `place`. -/
structure InsertsAt (d c x : Tree) (owner : Nat) (r : Rule) (target : Nat) (place : Address)
    (i : Nat) : Prop where
  host : d.Sound
  candidate : c.Sound
  attaches : d.Attaches c (owner, r) x
  resolve : d.resolve owner r.target = .ok (some target)
  nodeAt : d.nodeAt place = .ok (some target)
  position : ∃ n, d.node target = .ok n ∧ i ≤ n.children.length
  result : x = d.spliced c r owner target i

variable {d c x : Tree} {r : Rule} {owner target i id : Nat} {place a a' : Address} {n n' : Node}

theorem Attaches.exists_insertsAt (h : d.Attaches c (owner, r) x) (hd : d.Sound) (hc : c.Sound) :
    ∃ target place i, d.InsertsAt c x owner r target place i := by
  obtain ⟨path, hpath⟩ := h.reaches_owner hd hc
  obtain ⟨target, gap, host, i, htarget, _, hhost, hi, hx⟩ := exists_of_splice_eq_some h.result
  have hplace : d.nodeAt (path ++ r.target) = .ok (some target) := by
    rw [nodeAt, resolve_append_of_eq_some hpath]
    exact htarget
  exact ⟨target, path ++ r.target, i, hd, hc, h, htarget, hplace,
    ⟨host, hhost, SpineGap.position?_le hi⟩, hx⟩

/-- Below a copied node the copies of its descendants are found. -/
theorem resolve_spliced_add (howner : owner < d.nodes.size) (htarget : target < d.nodes.size)
    {start goal : Nat} (h : c.resolve start a = .ok (some goal)) :
    (d.spliced c r owner target i).resolve (start + d.nodes.size) a =
      .ok (some (goal + d.nodes.size)) := by
  induction a generalizing start with
  | nil =>
    obtain rfl : start = goal := by simpa [Tree.resolve] using h
    rfl
  | cons j a ih =>
    obtain ⟨n, child, hn, hchild, hrest⟩ := resolve_cons_eq_some_iff.1 h
    have hcopy := node_spliced_add (r := r) (i := i) howner htarget hn
    have hshifted : (n.shift d.nodes.size).children[j]? = some (.node (child + d.nodes.size)) := by
      simp [Node.shift, hchild, Child.shift]
    refine resolve_cons_eq_some_iff.2 ⟨_, child + d.nodes.size, hcopy, ?_, ih hrest⟩
    split
    · exact hshifted
    · exact hshifted

namespace InsertsAt

theorem sound (h : d.InsertsAt c x owner r target place i) : x.Sound :=
  h.attaches.sound h.host h.candidate

theorem owner_lt (h : d.InsertsAt c x owner r target place i) : owner < d.nodes.size := by
  obtain ⟨_, _, _, howner, _⟩ := h.attaches.exists_spliced
  exact howner

theorem target_lt (h : d.InsertsAt c x owner r target place i) : target < d.nodes.size := by
  obtain ⟨n, hn, _⟩ := h.position
  exact lt_of_node_eq_ok hn

/-- A node of the host is found where room was made. -/
theorem nodeAt_host (h : d.InsertsAt c x owner r target place i)
    (ha : d.nodeAt a = .ok (some id)) : x.nodeAt (place.makeRoom i a) = .ok (some id) := by
  have htree := h.host.toIsTree
  obtain rfl := h.result
  -- A path leads to the target by one address only.
  have honly : ∀ p, d.resolve d.root p = .ok (some target) → p = place :=
    fun p hp => htree.path_unique p place target hp h.nodeAt
  rcases Address.makeRoom_cases place i a with ⟨hbefore, hstays⟩ | ⟨j, rest, rfl, hj, hmoves⟩
  · rw [hstays]
    apply resolve_spliced ha
    intro p j rest heq hp
    rw [honly p hp] at heq
    exact hbefore j rest heq
  · have hreaches : d.Reaches target := ⟨place, h.nodeAt⟩
    have hplace : (d.spliced c r owner target i).resolve d.root place = .ok (some target) :=
      resolve_spliced h.nodeAt (htree.staysBefore_of_resolve hreaches h.nodeAt)
    have hbelow : d.resolve target (j :: rest) = .ok (some id) := by
      rw [Tree.nodeAt, resolve_append_of_eq_some h.nodeAt] at ha
      exact ha
    rw [hmoves, Tree.nodeAt, root_spliced, resolve_append_of_eq_some hplace]
    exact htree.resolve_spliced_succ hreaches hbelow hj

/-- A node of the candidate is found below the place of the argument. -/
theorem nodeAt_argument (h : d.InsertsAt c x owner r target place i) {k : Nat}
    (ha : c.nodeAt a = .ok (some k)) :
    x.nodeAt (place ++ i :: a) = .ok (some (k + d.nodes.size)) := by
  have hplace : x.nodeAt place = .ok (some target) := by
    have hroom := h.nodeAt_host h.nodeAt
    rw [Address.makeRoom_of_prefix List.prefix_rfl] at hroom
    exact hroom
  obtain ⟨n, hn, hi⟩ := h.position
  have hcopy := resolve_spliced_add (r := r) (i := i) h.owner_lt h.target_lt ha
  rw [Tree.nodeAt, resolve_append_of_eq_some hplace, h.result]
  refine resolve_cons_eq_some_iff.2 ⟨_, c.root + d.nodes.size, node_spliced_of_lt hn, ?_, hcopy⟩
  show (if target = target then _ else n.children)[i]? = _
  rw [if_pos rfl, List.getElem?_insertIdx_self, if_pos hi]

/-- A node of the host stands where room was made for the argument. -/
theorem stands_of_host (h : d.InsertsAt c x owner r target place i) (hn : d.Stands a id n) :
    x.Stands (place.makeRoom i a) id
      (n.afterInsertion id r owner target i (c.root + d.nodes.size)) := by
  refine ⟨h.nodeAt_host hn.nodeAt, ?_⟩
  rw [h.result]
  exact node_spliced_of_lt hn.node

/-- A node of the candidate stands below the place of the argument. -/
theorem stands_of_argument (h : d.InsertsAt c x owner r target place i) {k : Nat}
    (hn : c.Stands a k n) : x.Stands (place ++ i :: a) (k + d.nodes.size)
      (if k = c.root then (n.shift d.nodes.size).stamp r else n.shift d.nodes.size) :=
  ⟨h.nodeAt_argument hn.nodeAt, h.attaches.node_candidate hn.node⟩

/-- Nothing else stands in the result. -/
theorem stands_cases (h : d.InsertsAt c x owner r target place i) (hn' : x.Stands a' id n') :
    (∃ a n, d.Stands a id n ∧ a' = place.makeRoom i a) ∨
    ∃ a k n, c.Stands a k n ∧ a' = place ++ i :: a := by
  rcases (h.attaches.reaches_iff h.host h.candidate).1 hn'.reaches with hid | hid
  · -- The id is reached by one address only, so it is the one where the host's node went.
    obtain ⟨a, ha⟩ := hid
    obtain ⟨n, hn⟩ := h.host.isRootedTree.exists_stands ha
    exact .inl ⟨a, n, hn, h.sound.path_unique _ _ id hn'.nodeAt (h.nodeAt_host ha)⟩
  · obtain ⟨k, ⟨a, ha⟩, rfl⟩ := hid
    obtain ⟨n, hn⟩ := h.candidate.isRootedTree.exists_stands ha
    exact .inr ⟨a, k, n, hn, h.sound.path_unique _ _ _ hn'.nodeAt (h.nodeAt_argument ha)⟩

theorem stands_host_iff (h : d.InsertsAt c x owner r target place i) :
    x.Stands (place.makeRoom i a) id n' ↔ ∃ n, d.Stands a id n ∧
      n' = n.afterInsertion id r owner target i (c.root + d.nodes.size) := by
  constructor
  · intro hn'
    rcases h.stands_cases hn' with ⟨a₀, n, hn, heq⟩ | ⟨a₀, k, n, hn, heq⟩
    · obtain rfl := Address.makeRoom_inj.1 heq
      exact ⟨n, hn, (hn'.functional (h.stands_of_host hn)).2⟩
    · exact absurd heq Address.makeRoom_ne_new
  · intro hhost
    obtain ⟨n, hn, rfl⟩ := hhost
    exact h.stands_of_host hn

theorem stands_argument_iff (h : d.InsertsAt c x owner r target place i) :
    x.Stands (place ++ i :: a) id n' ↔ ∃ k n, c.Stands a k n ∧ id = k + d.nodes.size ∧
      n' = if k = c.root then (n.shift d.nodes.size).stamp r else n.shift d.nodes.size := by
  constructor
  · intro hn'
    rcases h.stands_cases hn' with ⟨a₀, n, hn, heq⟩ | ⟨a₀, k, n, hn, heq⟩
    · exact absurd heq.symm Address.makeRoom_ne_new
    · obtain rfl : a = a₀ := by simpa using heq
      obtain ⟨hid, hnode⟩ := hn'.functional (h.stands_of_argument hn)
      exact ⟨k, n, hn, hid, hnode⟩
  · intro hargument
    obtain ⟨k, n, hn, rfl, rfl⟩ := hargument
    exact h.stands_of_argument hn

end InsertsAt

end Tree

end SpineGrammar
