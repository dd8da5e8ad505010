import SpineGrammar.Bounds
import SpineGrammar.Proofs.SpineSides

/-!
# The arithmetic of an insertion

The place of an argument is taken from the spine gap of the rule's owner and from the child count of
the rule's target. The gap ends within the owner's children, but may end past those of the target.
All the same no child of the target is counted on both sides, the sums for a rule whose turn it is
stay within the longer of the two child lists, and the place has to be held back to the end of the
target's children in one case only.

Carried out step by step on indices, where a sum may leave the range and a difference may go below
zero, the arithmetic gives the same counts and the same place.
-/

namespace SpineGrammar

/-! ## Sums and differences of indices -/

/-- The sum of two indices, if it is an index again. -/
def indexSum? (a b : Nat) : Option Nat := if a + b < indexBound then some (a + b) else none

/-- The difference of two indices, if the first is not the smaller one. -/
def indexDifference? (a b : Nat) : Option Nat := if b ≤ a then some (a - b) else none

theorem indexSum?_eq_some {a b : Nat} (h : a + b < indexBound) : indexSum? a b = some (a + b) :=
  if_pos h

theorem indexDifference?_eq_some {a b : Nat} (h : b ≤ a) : indexDifference? a b = some (a - b) :=
  if_pos h

/-! ## The arithmetic of one gap -/

namespace SpineGap

/-- The place for the `order`-th child of a side before it is held back to the end of the child
    list. -/
def reach (g : SpineGap) (order : Nat) : Slot → Nat
  | .left => order
  | .right => order + g.width + g.index

/-- `sides`, step by step on indices; nothing if a step has no result. -/
def indexSides? (g : SpineGap) (count : Nat) : Option (Nat × Nat) := do
  let stop ← indexSum? g.index g.width
  let right ← indexDifference? count (min stop count)
  return (min g.index count, right)

/-- `position?`, step by step on indices; nothing if a step has no result. -/
def indexPosition? (g : SpineGap) (count : Nat) (slot : Slot) (order : Nat) :
    Option (Option Nat) := do
  let sides ← g.indexSides? count
  match slot with
  | .left => if sides.1 = order then return some (min order count) else return none
  | .right =>
    if sides.2 = order then
      let beyond ← indexSum? order g.width
      let place ← indexSum? beyond g.index
      return some (min place count)
    else return none

/-- `g.Places own count slot order`: where a rule for the `order`-th child of a side puts its
    argument among `count` children when it is its turn, by the gap `g` of a node with `own`
    children. -/
structure Places (g : SpineGap) (own count : Nat) (slot : Slot) (order : Nat) : Prop where
  position : g.position? count slot order = some (min (g.reach order slot) count)
  /-- The sums stay within the longer of the two child lists. -/
  reach_le : g.reach order slot ≤ max own count
  right : slot = .right → min (g.reach order slot) count = count
  left : slot = .left → min (g.reach order slot) count = min g.index count
  /-- Only the first argument for the right of a gap that ends past the children is held back. -/
  held_back : min (g.reach order slot) count ≠ g.reach order slot ↔
    slot = .right ∧ order = 0 ∧ count < g.index + g.width

/-- `g.Exact own count slot order`: what the gap `g` of a node with `own` children gives for a rule
    of a side among `count` children is exact. If both numbers of children are indices, as those of
    all lists that are kept are, no step on indices fails. -/
structure Exact (g : SpineGap) (own count : Nat) (slot : Slot) (order : Nat) : Prop where
  stop_le : g.index + g.width ≤ own
  /-- No child is counted on both sides. -/
  sides_le : (g.sides count).1 + (g.sides count).2 ≤ count
  sides_on_indices : own < indexBound → g.indexSides? count = some (g.sides count)
  position_on_indices : own < indexBound → count < indexBound →
    g.indexPosition? count slot order = some (g.position? count slot order)
  turn : g.side count slot = order → g.Places own count slot order

variable {g : SpineGap} {own count order : Nat} {slot : Slot}

/-- No child is counted on both sides. -/
theorem sides_le (g : SpineGap) (count : Nat) :
    (g.sides count).1 + (g.sides count).2 ≤ count := by
  simp only [sides]
  omega

/-- On the right, the place is the end of the child list or that of the gap, whichever is last. -/
theorem reach_right (h : g.side count .right = order) :
    g.reach order .right = max count (g.index + g.width) := by
  simp only [side, sides] at h
  simp only [reach]
  omega

theorem places_of_turn (hown : g.index + g.width ≤ own) (hturn : g.side count slot = order) :
    g.Places own count slot order := by
  cases slot with
  | left =>
    -- The order is the start of the gap or the child count, whichever is smaller.
    have horder : order = min g.index count := hturn.symm
    have hreach : g.reach order .left = order := rfl
    exact {
      position := if_pos hturn
      reach_le := by omega
      right := nofun
      left := fun _ => by omega
      held_back := by
        simp only [reduceCtorEq, false_and, iff_false, not_not]
        omega }
  | right =>
    have horder : order = count - min (g.index + g.width) count := hturn.symm
    have hreach := reach_right hturn
    exact {
      position := if_pos hturn
      reach_le := by omega
      right := fun _ => by omega
      left := nofun
      held_back := by
        simp only [true_and]
        omega }

/-- The counts of the sides are taken on indices if the gap ends at one. -/
theorem indexSides?_eq_some (h : g.index + g.width < indexBound) :
    g.indexSides? count = some (g.sides count) := by
  have hle : min (g.index + g.width) count ≤ count := Nat.min_le_right _ _
  rw [indexSides?, indexSum?_eq_some h, Option.bind_eq_bind, Option.bind_some,
    indexDifference?_eq_some hle]
  rfl

-- A gap that lies past all indices.
example : indexSides? ⟨indexBound - 1, 1⟩ 2 = none := by decide

/-- The place is found on indices if the gap ends at one and the children are counted by one. -/
theorem indexPosition?_eq_some (h : g.index + g.width < indexBound) (hcount : count < indexBound) :
    g.indexPosition? count slot order = some (g.position? count slot order) := by
  rw [indexPosition?, indexSides?_eq_some h, Option.bind_eq_bind, Option.bind_some]
  cases slot with
  | left =>
    by_cases hturn : (g.sides count).1 = order
    · simp [position?, hturn]
    · simp [position?, hturn]
  | right =>
    by_cases hturn : (g.sides count).2 = order
    · -- No sum goes past the place, and the place is an index.
      have hreach : order + g.width + g.index = max count (g.index + g.width) :=
        reach_right hturn
      have hbeyond : indexSum? order g.width = some (order + g.width) := by
        apply indexSum?_eq_some
        omega
      have hplace : indexSum? (order + g.width) g.index = some (order + g.width + g.index) := by
        apply indexSum?_eq_some
        omega
      simp [position?, hturn, hbeyond, hplace]
    · simp [position?, hturn]

theorem exact_of_le (hown : g.index + g.width ≤ own) : g.Exact own count slot order where
  stop_le := hown
  sides_le := sides_le g count
  sides_on_indices := fun hbound => indexSides?_eq_some (Nat.lt_of_le_of_lt hown hbound)
  position_on_indices := fun hbound hcount =>
    indexPosition?_eq_some (Nat.lt_of_le_of_lt hown hbound) hcount
  turn := places_of_turn hown

end SpineGap

/-! ## The gap of any node -/

namespace Tree

variable {t : Tree} {n : Node} {ch : Child} {cs : List Child} {id : Nat}

/-- A child is on the spine or was attached. -/
theorem onSpine_or_offSpine {v : Option (Bool × Option Slot)} (h : t.stance ch = .ok v) :
    t.OnSpine ch ∨ t.OffSpine ch := by
  rcases v with _ | ⟨_ | _, side⟩
  · exact .inl (.inl h)
  · exact .inl (.inr ⟨side, h⟩)
  · exact .inr ⟨side, h⟩

/-- The spine continues with one of the children of a list, or all of them were attached. -/
theorem spineChildFrom_cases (h : ∀ ch ∈ cs, t.OnSpine ch ∨ t.OffSpine ch) (i : Nat) :
    (∃ k, t.spineChildFrom i cs = .ok (some k) ∧ k < i + cs.length) ∨
      t.spineChildFrom i cs = .ok none ∧ ∀ ch ∈ cs, t.OffSpine ch := by
  induction cs generalizing i with
  | nil => exact .inr ⟨rfl, nofun⟩
  | cons ch cs ih =>
    obtain ⟨hch, hcs⟩ := List.forall_mem_cons.1 h
    rw [List.length_cons]
    rcases hch with hon | hoff
    · refine .inl ⟨i, ?_, by omega⟩
      exact spineChildFrom_eq_some_iff.2 ⟨0, rfl, ⟨ch, rfl, hon⟩, nofun⟩
    · -- The search goes on behind an attached child.
      obtain ⟨side, hstance⟩ := id hoff
      have hnext : t.spineChildFrom i (ch :: cs) = t.spineChildFrom (i + 1) cs := by
        rw [spineChildFrom_cons, hstance]
        rfl
      rw [hnext]
      rcases ih hcs (i + 1) with ⟨k, hk, hlt⟩ | ⟨hnone, hall⟩
      · exact .inl ⟨k, hk, by omega⟩
      · exact .inr ⟨hnone, List.forall_mem_cons.2 ⟨hoff, hall⟩⟩

/-- Among attached children that name their sides, those on the left are counted. -/
theorem exists_leftCount (h : ∀ ch ∈ cs, ∃ slot, t.OnSide slot ch) (label : String) :
    ∃ k, t.leftCount label cs = .ok k ∧ k ≤ cs.length := by
  induction cs with
  | nil => exact ⟨0, rfl, Nat.le_refl _⟩
  | cons ch cs ih =>
    obtain ⟨⟨slot, hslot⟩, hcs⟩ := List.forall_mem_cons.1 h
    obtain ⟨k, hk, hle⟩ := ih hcs
    rw [leftCount_cons, hslot, ok_bind, List.length_cons]
    cases slot with
    | left => exact ⟨k + 1, by simp [hk], by omega⟩
    | right => exact ⟨k, hk, by omega⟩

/-- An attached child names its side. -/
theorem OffSpine.exists_onSide (h : t.OffSpine ch) (hslot : t.Slotted) :
    ∃ slot, t.OnSide slot ch := by
  obtain ⟨side, hstance⟩ := h
  cases ch with
  | leaf word => cases hstance
  | node k =>
    obtain ⟨n, hn, hv⟩ := bind_eq_ok_iff.1 hstance
    have hpair : (n.attached, n.attachedSlot) = (true, side) := Option.some.inj (Except.ok.inj hv)
    obtain ⟨hattached, hside⟩ := Prod.mk.inj hpair
    obtain ⟨slot, hsome⟩ := hslot n (mem_of_node_eq_ok hn) hattached
    refine ⟨slot, ?_⟩
    rw [OnSide, stance_node hn, hattached, hsome]

/-- The gap of a node ends within its children, whether a path leads to the node or not. -/
theorem exists_gap (ht : t.IsTree) (hslot : t.Slotted) (hn : t.node id = .ok n) :
    ∃ gap, t.gap id = .ok gap ∧ gap.index + gap.width ≤ n.children.length := by
  have hchildren : ∀ ch ∈ n.children, t.OnSpine ch ∨ t.OffSpine ch := by
    intro ch hch
    obtain ⟨v, hv⟩ := ht.exists_stance (mem_of_node_eq_ok hn) hch
    exact onSpine_or_offSpine hv
  rcases spineChildFrom_cases hchildren 0 with ⟨k, hk, hlt⟩ | ⟨hnone, hoff⟩
  · refine ⟨⟨k, 1⟩, gap_of_spineChild? hn hk, ?_⟩
    simp only
    omega
  · obtain ⟨k, hk, hle⟩ :=
      exists_leftCount (fun ch hch => (hoff ch hch).exists_onSide hslot) n.label
    refine ⟨⟨k, 0⟩, ?_, hle⟩
    rw [gap, hn, ok_bind, spineChild?, hnone, ok_bind]
    simp [hk]

end Tree

/-! ## The place of an argument -/

/-- **Arithmetic of an insertion**: whatever rule of whatever node of a sound tree is looked at, the
    gap of the node and the child count of the rule's target give the counts of the two sides and
    the place of the argument, on indices as well as without a bound. If the rule's turn has come,
    its argument goes to the end of the target's children for the right, and for the left behind as
    many of them as stand left of the owner's spine, or behind all if the target has fewer. -/
theorem insertion_index_exact {d : Tree} {owner target : Nat} {r : Rule} {n host : Node}
    (hd : d.Sound) (hn : d.node owner = .ok n)
    (htarget : d.resolve owner r.target = .ok (some target)) (hhost : d.node target = .ok host) :
    ∃ gap, d.gap owner = .ok gap ∧
      gap.Exact n.children.length host.children.length r.slot r.order ∧
      ∀ c : Tree, c.Sound →
        (gap.side host.children.length r.slot = r.order → ∃ x host',
          d.splice owner r c = .ok (some x) ∧ x.node target = .ok host' ∧
          (r.slot = .right → host'.children = host.children ++ [.node (c.root + d.nodes.size)]) ∧
          (r.slot = .left → host'.children = host.children.insertIdx
            (min gap.index host.children.length) (.node (c.root + d.nodes.size)))) ∧
        (gap.side host.children.length r.slot ≠ r.order → d.splice owner r c = .ok none) := by
  obtain ⟨gap, hgap, hown⟩ := Tree.exists_gap hd.toIsTree hd.slotted hn
  have hexact : gap.Exact n.children.length host.children.length r.slot r.order :=
    SpineGap.exact_of_le hown
  refine ⟨gap, hgap, hexact, ?_⟩
  intro c hc
  have hsplice :=
    Tree.splice_eq_map (Tree.lt_of_node_eq_ok hn) hgap htarget hhost hc.toIsTree
  constructor
  · intro hturn
    obtain ⟨hposition, _, hright, hleft, _⟩ := hexact.turn hturn
    rw [hposition] at hsplice
    refine ⟨_, _, hsplice, Tree.node_spliced_of_lt hhost, ?_, ?_⟩
    · intro hslot
      rw [Node.afterInsertion, if_pos rfl, hright hslot, List.insertIdx_length_self]
    · intro hslot
      rw [Node.afterInsertion, if_pos rfl, hleft hslot]
  · intro hwait
    have hnone : gap.position? host.children.length r.slot r.order = none := by
      rw [Option.eq_none_iff_forall_ne_some]
      intro i hi
      exact hwait (SpineGap.exists_position?_iff.1 ⟨i, hi⟩)
    rw [hnone] at hsplice
    exact hsplice

/-- The subject has come before the verb phrase, so the object's rule leads to the subject, whose
    only child ends before the clause's gap does: the object is held back to the end of this one
    child. -/
theorem insertion_index_exact_subjectClause :
    Tree.subjectClause.Sound ∧ Tree.noun.Sound ∧
    Tree.subjectClause.resolve 0 (nounRule [0] .right).target = .ok (some 2) ∧
    ∃ n host, Tree.subjectClause.node 0 = .ok n ∧ Tree.subjectClause.node 2 = .ok host ∧
      ∃ gap, Tree.subjectClause.gap 0 = .ok gap ∧
        gap.Exact n.children.length host.children.length .right 0 ∧
        gap.side host.children.length .right = 0 ∧
        host.children.length < gap.reach 0 .right ∧
        gap.indexPosition? host.children.length .right 0 = some (some host.children.length) ∧
        ∃ x host', Tree.subjectClause.splice 0 (nounRule [0] .right) .noun = .ok (some x) ∧
          x.node 2 = .ok host' ∧ host'.children = host.children ++ [.node (0 + 3)] := by
  have hclause : Tree.subjectClause.Sound := by decide
  have hnoun : Tree.noun.Sound := by decide
  have htarget : Tree.subjectClause.resolve 0 (nounRule [0] .right).target = .ok (some 2) := by
    decide +kernel
  have hn : Tree.subjectClause.node 0 =
      .ok (.plain "S" [nounRule [0] .right] [.node 2, .node 1]) := by decide +kernel
  have hhost : Tree.subjectClause.node 2 = .ok { Node.plain "NP" [] [.leaf "cats"] with
      attached := true, attachedSlot := some .left } := by decide +kernel
  have hspot : Tree.subjectClause.gap 0 = .ok ⟨1, 1⟩ := by decide +kernel
  obtain ⟨gap, hgap, hexact, hsplice⟩ := insertion_index_exact hclause hn htarget hhost
  obtain rfl := Except.ok.inj (hspot.symm.trans hgap)
  have hturn : SpineGap.side ⟨1, 1⟩ 1 .right = 0 := rfl
  have hplace : SpineGap.indexPosition? ⟨1, 1⟩ 1 .right 0 = some (some 1) :=
    hexact.position_on_indices (by decide) (by decide)
  obtain ⟨x, host', hx, hhost', hright, _⟩ := (hsplice .noun hnoun).1 hturn
  exact ⟨hclause, hnoun, htarget, _, _, hn, hhost, _, hspot, hexact, hturn, by decide, hplace, x,
    host', hx, hhost', hright rfl⟩

end SpineGrammar
