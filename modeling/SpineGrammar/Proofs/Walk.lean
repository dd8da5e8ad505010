import SpineGrammar.Proofs.Unfolding

/-!
# Walks through a table

A walk with a stack visits the nodes below the root in depth-first order, a walk with a queue in
breadth-first order: level by level. The relation `Visits` follows a walk on branches and without a
bound on its steps; both orders are shown for it and carried over to the table.
-/

namespace SpineGrammar

/-! ## Walks through branches -/

/-- What a walk records of a branch that it comes to. -/
def Branch.place (s : Address × Branch) : Place := ⟨s.2.id, s.1, s.2.data⟩

/-- What waits in a walk for a branch. -/
def Branch.spot (s : Address × Branch) : Nat × Address := (s.2.id, s.1)

/-- The branches right below one, each with its address. -/
def Branch.next (s : Address × Branch) : List (Address × Branch) := s.2.below.branches s.1 0

/-- `d.Visits waiting places`: a walk that starts with the branches `waiting` visits `places`. -/
inductive Discipline.Visits (d : Discipline) : List (Address × Branch) → List Place → Prop where
  | nil : d.Visits [] []
  | cons {s : Address × Branch} {waiting : List (Address × Branch)} {places : List Place} :
      d.Visits (d.enter (Branch.next s) waiting) places →
      d.Visits (s :: waiting) (Branch.place s :: places)

/-- The places of a branch at an address, in depth-first order. -/
def Branch.placesFrom (s : Address × Branch) : List Place :=
  Branch.place s :: s.2.below.depthFirst s.1 0

theorem Forest.flatMap_branches (f : Forest) (parent : Address) (i : Nat) :
    (f.branches parent i).flatMap Branch.placesFrom = f.depthFirst parent i := by
  induction f generalizing parent i with
  | nil => rfl
  | leaf word rest ih => exact ih parent (i + 1)
  | node id data below rest _ ih =>
    rw [branches, depthFirst, List.flatMap_cons, ih]
    rfl

theorem Discipline.enter_perm {α : Type} (d : Discipline) (found waiting : List α) :
    (d.enter found waiting).Perm (found ++ waiting) := by
  cases d with
  | queue => exact List.perm_append_comm
  | stack => exact List.Perm.refl _

theorem Discipline.map_enter {α β : Type} (d : Discipline) (g : α → β) (found waiting : List α) :
    (d.enter found waiting).map g = d.enter (found.map g) (waiting.map g) := by
  cases d <;> exact List.map_append

/-- Whatever the order, a walk visits each place of the branches that wait once. -/
theorem Discipline.Visits.perm {d : Discipline} {waiting : List (Address × Branch)}
    {places : List Place} (h : d.Visits waiting places) :
    places.Perm (waiting.flatMap Branch.placesFrom) := by
  induction h with
  | nil => exact List.Perm.refl _
  | @cons s waiting places _ ih =>
    have henter := (d.enter_perm (Branch.next s) waiting).flatMap_right Branch.placesFrom
    rw [List.flatMap_append, Branch.next, Forest.flatMap_branches] at henter
    rw [List.flatMap_cons]
    exact (ih.trans henter).cons _

/-! ## The two orders -/

/-- With a stack, what hangs below an item is visited before the next item. -/
theorem Forest.visits_stack (f : Forest) (parent : Address) (i : Nat)
    {waiting : List (Address × Branch)} {places : List Place}
    (h : Discipline.stack.Visits waiting places) :
    Discipline.stack.Visits (f.branches parent i ++ waiting)
      (f.depthFirst parent i ++ places) := by
  induction f generalizing parent i waiting places with
  | nil => exact h
  | leaf word rest ih => exact ih parent (i + 1) h
  | node id data below rest ihbelow ihrest =>
    rw [branches, depthFirst, List.cons_append, List.cons_append, List.append_assoc]
    exact .cons (ihbelow _ _ (ihrest _ _ h))

theorem Branch.visits_depthFirst (b : Branch) :
    Discipline.stack.Visits [([], b)] b.depthFirst := by
  have h := Forest.visits_stack b.below [] 0 .nil
  rw [List.append_nil (b.below.depthFirst [] 0)] at h
  exact .cons h

/-- With a queue, a whole level is visited before anything below it. -/
theorem visits_queue {level waiting : List (Address × Branch)} {places : List Place}
    (h : Discipline.queue.Visits (waiting ++ level.flatMap Branch.next) places) :
    Discipline.queue.Visits (level ++ waiting) (level.map Branch.place ++ places) := by
  induction level generalizing waiting with
  | nil =>
    rw [List.flatMap_nil, List.append_nil] at h
    exact h
  | cons s level ih =>
    rw [List.flatMap_cons, ← List.append_assoc] at h
    rw [List.cons_append, List.map_cons, List.cons_append]
    refine .cons ?_
    rw [Discipline.enter, List.append_assoc]
    exact ih h

theorem Branch.visits_level (b : Branch) (n k : Nat) (hempty : b.level (k + n) = []) :
    Discipline.queue.Visits (b.level k)
      ((List.range' k n).flatMap fun j => (b.level j).map Branch.place) := by
  induction n generalizing k with
  | zero =>
    rw [Nat.add_zero] at hempty
    rw [hempty]
    exact .nil
  | succ n ih =>
    have hnext := ih (k + 1) (by rw [← hempty]; congr 1; omega)
    rw [List.range'_succ, List.flatMap_cons]
    -- Nothing else waits when the walk comes to a new level.
    have hvisits : Discipline.queue.Visits (b.level k ++ []) _ := visits_queue hnext
    rw [List.append_nil] at hvisits
    exact hvisits

theorem Forest.height_of_mem_branches {f : Forest} {parent : Address} {i : Nat}
    {s : Address × Branch} (hs : s ∈ f.branches parent i) : s.2.height ≤ f.height := by
  induction f generalizing i with
  | nil => cases hs
  | leaf word rest ih => exact ih hs
  | node id data below rest _ ih =>
    rcases List.mem_cons.1 hs with rfl | hs
    · exact Nat.le_max_left _ _
    · exact Nat.le_trans (ih hs) (Nat.le_max_right _ _)

theorem Branch.height_of_mem_level {b : Branch} {k : Nat} {s : Address × Branch}
    (hs : s ∈ b.level k) : s.2.height + k ≤ b.height := by
  induction k generalizing s with
  | zero =>
    rw [List.mem_singleton.1 hs]
    exact Nat.le_refl _
  | succ k ih =>
    obtain ⟨above, habove, hs⟩ := List.mem_flatMap.1 hs
    have hle := Forest.height_of_mem_branches hs
    have hih := ih habove
    rw [height] at hih
    omega

theorem Branch.level_height (b : Branch) : b.level b.height = [] := by
  rw [List.eq_nil_iff_forall_not_mem]
  intro s hs
  have hle := height_of_mem_level hs
  rw [height] at hle
  omega

theorem Branch.visits_breadthFirst (b : Branch) :
    Discipline.queue.Visits [([], b)] b.breadthFirst := by
  have h := b.visits_level b.height 0 (by rw [Nat.zero_add, level_height])
  rw [← List.range_eq_range'] at h
  exact h

theorem Branch.placesFrom_root (b : Branch) : placesFrom ([], b) = b.depthFirst := rfl

/-- Both orders list the same places. -/
theorem Branch.breadthFirst_perm (b : Branch) : b.breadthFirst.Perm b.depthFirst := by
  have h := b.visits_breadthFirst.perm
  rw [List.flatMap_singleton, placesFrom_root] at h
  exact h

/-! ## Walks through tables -/

theorem Forest.size_eq_length (f : Forest) (parent : Address) (i : Nat) :
    (f.depthFirst parent i).length = f.size := by
  induction f generalizing parent i with
  | nil => rfl
  | leaf word rest ih => exact ih parent (i + 1)
  | node id data below rest ihbelow ihrest =>
    rw [depthFirst, List.length_cons, List.length_append, ihbelow, ihrest, size]

theorem Branch.size_eq_length (b : Branch) : b.depthFirst.length = b.size := by
  rw [depthFirst, List.length_cons, Forest.size_eq_length, size]

namespace Tree

variable {t : Tree}

theorem Unfolds.spots {cs : List Child} {f : Forest} (h : t.Unfolds cs f) (parent : Address)
    (i : Nat) : Child.spots parent i cs = (f.branches parent i).map Branch.spot := by
  induction h generalizing i with
  | nil => rfl
  | leaf _ ih => exact ih (i + 1)
  | node _ _ _ _ ih =>
    rw [Child.spots, Forest.branches, List.map_cons, ih]
    rfl

theorem Unfolds.holds_of_mem {cs : List Child} {f : Forest} (h : t.Unfolds cs f)
    {parent : Address} {i : Nat} {s : Address × Branch} (hs : s ∈ f.branches parent i) :
    t.Holds s.2 := by
  induction h generalizing i with
  | nil => cases hs
  | leaf _ ih => exact ih hs
  | node hn hbelow _ _ ih =>
    rcases List.mem_cons.1 hs with rfl | hs
    · exact ⟨hn, hbelow⟩
    · exact ih hs

theorem walk_eq_ok {d : Discipline} {waiting : List (Address × Branch)} {places : List Place}
    (h : d.Visits waiting places) (hholds : ∀ s ∈ waiting, t.Holds s.2) {steps : Nat}
    (hsteps : places.length ≤ steps) : t.walk d steps (waiting.map Branch.spot) = .ok places := by
  induction h generalizing steps with
  | nil => cases steps <;> rfl
  | @cons s waiting places _ ih =>
    obtain ⟨hs, hwaiting⟩ := List.forall_mem_cons.1 hholds
    cases steps with
    | zero => cases hsteps
    | succ steps =>
      have hlater := ih (by
        intro s' hs'
        rcases List.mem_append.1 ((d.enter_perm _ _).mem_iff.1 hs') with hs' | hs'
        · exact hs.below.holds_of_mem hs'
        · exact hwaiting s' hs') (Nat.le_of_succ_le_succ hsteps)
      rw [d.map_enter, Branch.next, ← hs.below.spots] at hlater
      rw [List.map_cons, Branch.spot, walk, hs.node, ok_bind, hlater]
      rfl

theorem visit_eq_ok {b : Branch} (hb : t.unfold = .ok b) {d : Discipline} {places : List Place}
    (h : d.Visits [([], b)] places) : t.visit d = .ok places := by
  obtain ⟨hroot, hholds⟩ := holds_of_unfold hb
  have hlength : places.length = b.size := by
    rw [h.perm.length_eq, List.flatMap_singleton, Branch.placesFrom_root, Branch.size_eq_length]
  rw [visit, hb, ok_bind, ← hroot]
  exact walk_eq_ok h (fun s hs => List.mem_singleton.1 hs ▸ hholds) (Nat.le_of_eq hlength)

/-- A walk with a stack lists the nodes in depth-first order. -/
theorem depthFirst_eq_ok {b : Branch} (hb : t.unfold = .ok b) :
    t.depthFirst = .ok b.depthFirst :=
  visit_eq_ok hb b.visits_depthFirst

/-- A walk with a queue lists the nodes level by level. -/
theorem breadthFirst_eq_ok {b : Branch} (hb : t.unfold = .ok b) :
    t.breadthFirst = .ok b.breadthFirst :=
  visit_eq_ok hb b.visits_breadthFirst

end Tree

end SpineGrammar
