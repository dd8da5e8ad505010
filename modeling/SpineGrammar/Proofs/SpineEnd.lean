import Mathlib.Logic.Relation
import SpineGrammar.Proofs.SurfaceOrder

/-!
# Where the spine ends

From the root the spine goes on to the spine child of each node as long as this is a node. The
bottom of a tree is found otherwise: along last children. On a tree of a record the two ways are
one. On a derivation they come to the same end if and only if they are one from the root on; where a
tree was attached behind the spine child of a node of the spine, or at the end of the spine, the
bottom lies in an attached tree.
-/

namespace SpineGrammar

/-- `EndsAt step start last`: with steps of a kind, taken as long as there is one, the node `start`
    leads to the node `last`. -/
def EndsAt (step : Nat → Nat → Prop) (start last : Nat) : Prop :=
  Relation.ReflTransGen step start last ∧ ∀ next, ¬ step last next

namespace Tree

/-- `t.SpineStep id next`: the spine child of the node `id` is the node `next`. -/
def SpineStep (t : Tree) (id next : Nat) : Prop :=
  ∃ n k, t.node id = .ok n ∧ t.spineChild? n = .ok (some k) ∧ n.children[k]? = some (.node next)

/-- `t.LastStep id next`: the last child of the node `id` is the node `next`. -/
def LastStep (t : Tree) (id next : Nat) : Prop :=
  ∃ n, t.node id = .ok n ∧ n.children.getLast? = some (.node next)

/-! ## Ways down a tree -/

/-- Whether steps of a kind lead from a node to a child of it, and to one child only. -/
structure Descends (t : Tree) (step : Nat → Nat → Prop) : Prop where
  child : ∀ {id next}, step id next → ∃ i, t.resolve id [i] = .ok (some next)
  functional : ∀ {id next next'}, step id next → step id next' → next = next'

variable {t d c x t₀ : Tree} {step step' : Nat → Nat → Prop} {start last last' id next i : Nat}
  {a : Address} {n : Node}

theorem resolve_singleton (hn : t.node id = .ok n) (hchild : n.children[i]? = some (.node next)) :
    t.resolve id [i] = .ok (some next) :=
  resolve_cons_eq_some_iff.2 ⟨n, next, hn, hchild, rfl⟩

theorem descends_spineStep (t : Tree) : t.Descends t.SpineStep where
  child := by
    intro id next h
    obtain ⟨n, k, hn, _, hchild⟩ := h
    exact ⟨k, resolve_singleton hn hchild⟩
  functional := by
    intro id next next' h h'
    obtain ⟨n, k, hn, hk, hchild⟩ := h
    obtain ⟨n', k', hn', hk', hchild'⟩ := h'
    obtain rfl := Except.ok.inj (hn.symm.trans hn')
    obtain rfl := Option.some.inj (Except.ok.inj (hk.symm.trans hk'))
    simpa [hchild] using hchild'

theorem descends_lastStep (t : Tree) : t.Descends t.LastStep where
  child := by
    intro id next h
    obtain ⟨n, hn, hlast⟩ := h
    rw [List.getLast?_eq_getElem?] at hlast
    exact ⟨_, resolve_singleton hn hlast⟩
  functional := by
    intro id next next' h h'
    obtain ⟨n, hn, hlast⟩ := h
    obtain ⟨n', hn', hlast'⟩ := h'
    obtain rfl := Except.ok.inj (hn.symm.trans hn')
    simpa [hlast] using hlast'

namespace Descends

/-- A way down follows an address. -/
theorem exists_resolve (h : t.Descends step) (hpath : Relation.ReflTransGen step start last) :
    ∃ a, t.resolve start a = .ok (some last) := by
  induction hpath using Relation.ReflTransGen.head_induction_on with
  | refl => exact ⟨[], rfl⟩
  | head hstep _ ih =>
    obtain ⟨i, hi⟩ := h.child hstep
    obtain ⟨a, ha⟩ := ih
    exact ⟨[i] ++ a, (resolve_append_of_eq_some hi a).trans ha⟩

theorem endsAt_unique (h : t.Descends step) (hlast : EndsAt step start last)
    (hlast' : EndsAt step start last') : last = last' := by
  obtain ⟨hpath, hend⟩ := hlast
  induction hpath using Relation.ReflTransGen.head_induction_on with
  | refl =>
    rcases hlast'.1.cases_head with heq | hhead
    · exact heq
    · obtain ⟨next, hstep, _⟩ := hhead
      exact absurd hstep (hend next)
  | head hstep _ ih =>
    rcases hlast'.1.cases_head with rfl | hhead
    · exact absurd hstep (hlast'.2 _)
    · obtain ⟨next, hstep', hrest⟩ := hhead
      obtain rfl := h.functional hstep hstep'
      exact ih ⟨hrest, hlast'.2⟩

/-- In a rooted tree every way down has an end. -/
theorem exists_endsAt (h : t.Descends step) (ht : t.IsRootedTree) (depth : Nat)
    (ha : t.nodeAt a = .ok (some start)) (hdepth : t.nodes.size ≤ a.length + depth) :
    ∃ last, EndsAt step start last := by
  -- By induction on the levels that are left: the path to `start` uses up the others.
  induction depth generalizing start a with
  | zero =>
    have hlt := ht.length_lt ha
    omega
  | succ depth ih =>
    by_cases hstep : ∃ next, step start next
    · obtain ⟨next, hstep⟩ := hstep
      obtain ⟨i, hi⟩ := h.child hstep
      have hnext : t.nodeAt (a ++ [i]) = .ok (some next) :=
        (resolve_append_of_eq_some ha [i]).trans hi
      have hlength : (a ++ [i]).length = a.length + 1 := by simp
      obtain ⟨last, hpath, hend⟩ := ih hnext (by omega)
      exact ⟨last, .head hstep hpath, hend⟩
    · exact ⟨start, .refl, fun next hnext => hstep ⟨next, hnext⟩⟩

/-- Two steps from one node that lead on to one end are the same step. -/
theorem eq_of_common_end (h : t.Descends step) (h' : t.Descends step') (ht : t.IsRootedTree)
    (hstart : t.Reaches start) (hstep : step start next) {next' : Nat} (hstep' : step' start next')
    (hpath : Relation.ReflTransGen step next last)
    (hpath' : Relation.ReflTransGen step' next' last) : next = next' := by
  obtain ⟨a, ha⟩ := hstart
  obtain ⟨i, hi⟩ := h.child hstep
  obtain ⟨j, hj⟩ := h'.child hstep'
  obtain ⟨b, hb⟩ := h.exists_resolve hpath
  obtain ⟨c, hc⟩ := h'.exists_resolve hpath'
  have hway : t.nodeAt (a ++ ([i] ++ b)) = .ok (some last) := by
    rw [nodeAt, resolve_append_of_eq_some ha, resolve_append_of_eq_some hi, hb]
  have hway' : t.nodeAt (a ++ ([j] ++ c)) = .ok (some last) := by
    rw [nodeAt, resolve_append_of_eq_some ha, resolve_append_of_eq_some hj, hc]
  -- One address leads to the end, so its first step below `start` is the same.
  have haddress := List.append_cancel_left (ht.path_unique _ _ last hway hway')
  obtain ⟨rfl, _⟩ : i = j ∧ b = c := by simpa using haddress
  exact Option.some.inj (Except.ok.inj (hi.symm.trans hj))

/-- Two ways down a rooted tree come to the same end if and only if they are one. -/
theorem endsAt_eq_iff (h : t.Descends step) (h' : t.Descends step') (ht : t.IsRootedTree)
    (hstart : t.Reaches start) (hlast : EndsAt step start last)
    (hlast' : EndsAt step' start last') : last' = last ↔
      ∀ id, Relation.ReflTransGen step start id → ∀ next, step id next ↔ step' id next := by
  obtain ⟨hpath, hend⟩ := hlast
  induction hpath using Relation.ReflTransGen.head_induction_on with
  | refl =>
    constructor
    · rintro rfl id hid next
      rcases hid.cases_head with rfl | hhead
      · exact iff_of_false (hend next) (hlast'.2 next)
      · obtain ⟨next, hstep, _⟩ := hhead
        exact absurd hstep (hend next)
    · intro hagree
      have hstop : EndsAt step' last last :=
        ⟨.refl, fun next hnext => hend next ((hagree last .refl next).2 hnext)⟩
      exact h'.endsAt_unique hlast' hstop
  | @head start next hstep hrest ih =>
    have hnext : t.Reaches next := by
      obtain ⟨a, ha⟩ := hstart
      obtain ⟨i, hi⟩ := h.child hstep
      exact ⟨a ++ [i], (resolve_append_of_eq_some ha [i]).trans hi⟩
    constructor
    · rintro rfl
      rcases hlast'.1.cases_head with rfl | hhead
      · exact absurd hstep (hend next)
      · obtain ⟨next', hstep', hrest'⟩ := hhead
        obtain rfl := h.eq_of_common_end h' ht hstart hstep hstep' hrest hrest'
        intro id hid other
        rcases hid.cases_head with rfl | hhead
        · -- At the first node both steps lead to `next` and to no other node.
          constructor
          · intro hother
            rwa [← h.functional hstep hother]
          · intro hother
            rwa [← h'.functional hstep' hother]
        · obtain ⟨next', hfirst, hid⟩ := hhead
          obtain rfl := h.functional hstep hfirst
          exact (ih hnext ⟨hrest', hlast'.2⟩).1 rfl id hid other
    · intro hagree
      have hstep' : step' start next := (hagree start .refl next).1 hstep
      rcases hlast'.1.cases_head with rfl | hhead
      · exact absurd hstep' (hlast'.2 next)
      · obtain ⟨next', hfirst, hrest'⟩ := hhead
        obtain rfl := h'.functional hstep' hfirst
        exact (ih hnext ⟨hrest', hlast'.2⟩).2 fun id hid => hagree id (.head hstep hid)

end Descends

/-! ## The bottom of a tree -/

theorem lastBelow_eq_ok (ht : t.IsRootedTree) {length : Nat} (ha : t.nodeAt a = .ok (some start))
    (hlength : t.nodes.size ≤ a.length + length) :
    ∃ last, t.lastBelow length start = .ok last ∧ EndsAt t.LastStep start last := by
  -- By induction on the nodes that the path may still have.
  induction length generalizing start a with
  | zero =>
    have hlt := ht.length_lt ha
    omega
  | succ length ih =>
    obtain ⟨n, _, hn⟩ := exists_node (ht.nodeAt_lt ha)
    rw [lastBelow, hn, ok_bind]
    by_cases hnode : ∃ next, n.children.getLast? = some (.node next)
    · obtain ⟨next, hlast⟩ := hnode
      have hstep : t.LastStep start next := ⟨n, hn, hlast⟩
      obtain ⟨i, hi⟩ := t.descends_lastStep.child hstep
      have hnext : t.nodeAt (a ++ [i]) = .ok (some next) :=
        (resolve_append_of_eq_some ha [i]).trans hi
      have hlevel : (a ++ [i]).length = a.length + 1 := by simp
      obtain ⟨last, hbelow, hpath, hend⟩ := ih hnext (by omega)
      refine ⟨last, ?_, .head hstep hpath, hend⟩
      rw [hlast]
      exact hbelow
    · -- A node whose last child is a word, and one without children, is the last on the path.
      have hstop : ∀ next, ¬ t.LastStep start next := by
        intro next h
        obtain ⟨m, hm, hlast⟩ := h
        obtain rfl := Except.ok.inj (hn.symm.trans hm)
        exact hnode ⟨next, hlast⟩
      refine ⟨start, ?_, .refl, hstop⟩
      split
      · next next hlast => exact absurd ⟨next, hlast⟩ hnode
      · rfl

/-- The bottom of a rooted tree is the end of the way along last children. -/
theorem IsRootedTree.exists_spineBottom (ht : t.IsRootedTree) :
    ∃ bottom, t.spineBottom = .ok bottom ∧ EndsAt t.LastStep t.root bottom :=
  lastBelow_eq_ok ht (a := []) rfl (by simp)

/-! ## Trees of records -/

/-- In a tree of a record the last child of a node is its own, so the spine goes on with it. -/
theorem OfRecord.spineStep_iff (h : t.OfRecord) : t.SpineStep id next ↔ t.LastStep id next := by
  have hown : ∀ n, t.node id = .ok n → n.children = [.node next] →
      t.spineChild? n = .ok (some 0) := by
    intro n hn hchildren
    have hmem : Child.node next ∈ n.children := by simp [hchildren]
    obtain ⟨i, hi⟩ := List.getElem?_of_mem hmem
    obtain ⟨_, _, hlt⟩ := h.linear.next id n i next hn hi
    obtain ⟨m, hm, hnode⟩ := exists_node hlt
    rw [spineChild?, hchildren, spineChildFrom, hnode, ok_bind, h.linear.unattached m hm]
    rfl
  constructor
  · intro hspine
    obtain ⟨n, k, hn, _, hchild⟩ := hspine
    refine ⟨n, hn, ?_⟩
    rcases h.own_children hn with hnil | ⟨word, hword⟩ | hnode
    · simp [hnil] at hchild
    · rw [hword] at hchild
      cases k <;> simp at hchild
    · rw [hnode] at hchild ⊢
      cases k with
      | zero => simpa using hchild
      | succ k => simp at hchild
  · intro hlast
    obtain ⟨n, hn, hlast⟩ := hlast
    rcases h.own_children hn with hnil | ⟨word, hword⟩ | hnode
    · simp [hnil] at hlast
    · simp [hword] at hlast
    · obtain rfl : id + 1 = next := by simpa [hnode] using hlast
      exact ⟨n, 0, hn, hown n hn hnode, by rw [hnode]; rfl⟩

/-- Every derivation over sound trees is sound. -/
theorem Grows.sound {log : List Insertion} (h : t₀.Grows log x) (h₀ : t₀.Sound)
    (hlog : ∀ e ∈ log, e.candidate.Sound) : x.Sound := by
  induction h with
  | start => exact h₀
  | step _ hattaches ih =>
    have hd := ih fun e he => hlog e (List.mem_append_left _ he)
    exact hattaches.sound hd (hlog _ (List.mem_append_right _ (List.mem_singleton_self _)))

end Tree

/-! ## The end of the spine -/

/-- **The end of the spine**: the bottom of a tree of a record is the node where its spine ends.
    Every derivation over trees of records has a bottom, and its spine has one end; the bottom is
    this end if and only if, at every node of the spine, the spine goes on to a node just if this is
    the last child. -/
theorem spineBottom_ends_spine_iff {t₀ x : Tree} {log : List Insertion} (h₀ : t₀.OfRecord)
    (hlog : ∀ e ∈ log, e.candidate.OfRecord) (hgrows : t₀.Grows log x) :
    (∃ last, t₀.spineBottom = .ok last ∧ EndsAt t₀.SpineStep t₀.root last) ∧
    ∃ bottom last, x.spineBottom = .ok bottom ∧ EndsAt x.SpineStep x.root last ∧
      (∀ other, EndsAt x.SpineStep x.root other → other = last) ∧
      (bottom = last ↔ ∀ id, Relation.ReflTransGen x.SpineStep x.root id →
        ∀ next, x.SpineStep id next ↔ x.LastStep id next) := by
  constructor
  · have hrooted := h₀.linear.sound.isRootedTree
    obtain ⟨last, hlast, hend⟩ := hrooted.exists_spineBottom
    have hsame : t₀.SpineStep = t₀.LastStep := by
      funext id next
      exact propext h₀.spineStep_iff
    exact ⟨last, hlast, hsame ▸ hend⟩
  · have hsound := hgrows.sound h₀.linear.sound fun e he => (hlog e he).linear.sound
    have hrooted := hsound.isRootedTree
    have hspine := x.descends_spineStep
    obtain ⟨bottom, hbottom, hend⟩ := hrooted.exists_spineBottom
    obtain ⟨last, hlast⟩ := hspine.exists_endsAt hrooted x.nodes.size (a := []) rfl (by simp)
    exact ⟨bottom, last, hbottom, hlast, fun other hother => hspine.endsAt_unique hother hlast,
      hspine.endsAt_eq_iff x.descends_lastStep hrooted ⟨[], rfl⟩ hlast hend⟩

/-- The clause that waits for three noun phrases, with one of them behind its verb phrase. -/
def Tree.trailedClause : Tree := Tree.openClause.spliced .noun (nounRule [] .right) 0 0 1

/-- The noun phrase comes in behind the verb phrase. -/
def trailedHistory : List Insertion := [⟨.noun, 0, nounRule [] .right, 2⟩]

/-- The clause is a derivation over trees of records; its spine ends at the verb phrase, and its
    last children end at the noun phrase behind it. -/
theorem trailedClause_ends : Tree.openClause.OfRecord ∧
    (∀ e ∈ trailedHistory, e.candidate.OfRecord) ∧
    Tree.openClause.Grows trailedHistory .trailedClause ∧
    EndsAt Tree.trailedClause.SpineStep 0 1 ∧ Tree.trailedClause.spineBottom = .ok 2 := by
  have hclause : openRecord.trees 0 = .ok [.openClause] := by decide +kernel
  have hnoun : nounRecord.trees 0 = .ok [.noun] := by decide +kernel
  have hattaches : Tree.openClause.Attaches .noun (0, nounRule [] .right) .trailedClause := by
    decide +kernel
  have hroot : ∃ n, Tree.trailedClause.node 0 = .ok n ∧
      Tree.trailedClause.spineChild? n = .ok (some 0) ∧ n.children[0]? = some (.node 1) := by
    decide +kernel
  have hverb : ∃ n, Tree.trailedClause.node 1 = .ok n ∧ n.children = [.leaf "chase"] := by
    decide +kernel
  have hbottom : Tree.trailedClause.spineBottom = .ok 2 := by decide +kernel
  refine ⟨⟨openRecord, 0, _, hclause, List.mem_singleton_self _⟩, ?_,
    Tree.Grows.start.step hattaches, ⟨?_, ?_⟩, hbottom⟩
  · intro e he
    rw [List.mem_singleton.1 he]
    exact ⟨nounRecord, 0, _, hnoun, List.mem_singleton_self _⟩
  · obtain ⟨n, hn, hspine, hchild⟩ := hroot
    exact .single ⟨n, 0, hn, hspine, hchild⟩
  · intro next hstep
    obtain ⟨m, hm, hchildren⟩ := hverb
    obtain ⟨n, k, hn, _, hchild⟩ := hstep
    obtain rfl := Except.ok.inj (hm.symm.trans hn)
    have hmem := List.mem_of_getElem? hchild
    simp [hchildren] at hmem

/-- The bottom of the clause is the noun phrase behind its verb phrase. -/
theorem spineBottom_ends_spine_iff_trailedClause :
    Tree.openClause.OfRecord ∧ (∀ e ∈ trailedHistory, e.candidate.OfRecord) ∧
    Tree.openClause.Grows trailedHistory .trailedClause ∧
    (∃ last, Tree.openClause.spineBottom = .ok last ∧
      EndsAt Tree.openClause.SpineStep Tree.openClause.root last) ∧
    ¬ ∀ id, Relation.ReflTransGen Tree.trailedClause.SpineStep 0 id →
      ∀ next, Tree.trailedClause.SpineStep id next ↔ Tree.trailedClause.LastStep id next := by
  obtain ⟨hclause, hlog, hgrows, hend, hbottom⟩ := trailedClause_ends
  obtain ⟨hrecord, bottom, last, hbottom', _, hunique, hiff⟩ :=
    spineBottom_ends_spine_iff hclause hlog hgrows
  obtain rfl : 2 = bottom := Except.ok.inj (hbottom.symm.trans hbottom')
  obtain rfl : 1 = last := hunique 1 hend
  refine ⟨hclause, hlog, hgrows, hrecord, ?_⟩
  intro hagree
  cases hiff.2 hagree

/-- So the bottom of a derivation is not always the node where its spine ends. -/
theorem not_forall_spineBottom_ends_spine :
    ¬ ∀ (t₀ x : Tree) (log : List Insertion) (last : Nat), t₀.OfRecord →
      (∀ e ∈ log, e.candidate.OfRecord) → t₀.Grows log x → EndsAt x.SpineStep x.root last →
      x.spineBottom = .ok last := by
  intro hall
  obtain ⟨hclause, hlog, hgrows, hend, hbottom⟩ := trailedClause_ends
  have hone := hall _ _ _ 1 hclause hlog hgrows hend
  rw [hbottom] at hone
  cases hone

end SpineGrammar
