import SpineGrammar.Proofs.Notation
import SpineGrammar.Snapshot.Tree

/-!
# Trees are read back from their snapshots

Every table of nodes whose numbers fit their types is read back from its snapshot, with all nodes in
the same order, all their fields and the same root (`snapshot_round_trip`). The table need not be a
tree: children and roots may name nodes that it does not have. Each encoder gives a value that the
notation can tell, and its decoder takes this value back.
-/

namespace SpineGrammar

open Snapshot Snapshot.Value

/-! ## Numbers in range -/

/-- The indices of a rule lie below the bound for indices, and its counts below that for counts. -/
structure Rule.InRange (r : Rule) : Prop where
  target : ∀ i ∈ r.target, i < indexBound
  order : r.order < indexBound
  counts : ∀ e ∈ r.attachCounts.entries, e.2 < countBound

/-- The ids of a node lie below the bound for indices, and its counts below that for counts. -/
structure Node.InRange (n : Node) : Prop where
  children : ∀ c ∈ n.children, ∀ id ∈ c.id?, id < indexBound
  rules : ∀ r ∈ n.rules, r.InRange
  argCount : ∀ k ∈ n.argCount, k < countBound
  treeId : ∀ k ∈ n.treeId, k < indexBound
  wordCount : n.wordCount < countBound
  treeCount : n.treeCount < countBound

/-- All numbers of a table fit their types. -/
structure Tree.InRange (t : Tree) : Prop where
  nodes : ∀ n ∈ t.nodes.toList, n.InRange
  root : t.root < indexBound

theorem countBound_le_indexBound : countBound ≤ indexBound := by decide

/-! ## Encoded values can be told -/

namespace Snapshot.Value

variable {n : Nat} {α : Type} {encode : α → Value}

theorem legible_count {k : Nat} (hk : k < countBound) : Legible n (.nat k) :=
  .nat (Nat.lt_of_lt_of_le hk countBound_le_indexBound)

theorem legible_option {o : Option α} (h : ∀ a ∈ o, Legible n (encode a)) :
    Legible (n + 1) (option encode o) := by
  cases o with
  | none => exact .absent
  | some a => exact .present (h a rfl)

theorem legible_list_map {as : List α} (h : ∀ a ∈ as, Legible n (encode a)) :
    Legible (n + 2) (.list (as.map encode)) := by
  refine .list ?_
  intro v hv
  obtain ⟨a, ha, rfl⟩ := List.mem_map.1 hv
  exact h a ha

theorem legible_wrapped {v : Value} (h : Legible n v) : Legible (n + 2) (wrapped v) := by
  refine .tuple nofun ?_
  intro w hw
  rw [List.mem_singleton.1 hw]
  exact h

end Snapshot.Value

theorem Address.legible_toValue {a : Address} (h : ∀ i ∈ a, i < indexBound) (n : Nat) :
    Legible (n + 4) a.toValue :=
  legible_wrapped (legible_list_map fun i hi => .nat (h i hi))

theorem Slot.legible_toValue (s : Slot) (n : Nat) : Legible n s.toValue := by
  have hfree : IsFree s.name := by
    cases s with
    | left => exact ⟨by decide, rfl, by decide⟩
    | right => exact ⟨by decide, rfl, by decide⟩
  exact .word hfree

theorem RuleKind.legible_code (k : RuleKind) (n : Nat) : Legible n (.word k.code) := by
  have hfree : IsFree k.code := by
    cases k with
    | attach => exact ⟨by decide, rfl, by decide⟩
    | adjoin => exact ⟨by decide, rfl, by decide⟩
    | coordinate => exact ⟨by decide, rfl, by decide⟩
  exact .word hfree

theorem Rule.InRange.legible_location {r : Rule} (h : r.InRange) (n : Nat) :
    Legible (n + 6) r.location.toValue := by
  refine .record nofun (by simp) ?_ ?_
  · simp only [List.forall_mem_cons]
    decide
  · simp only [List.forall_mem_cons, List.not_mem_nil, false_imp_iff, implies_true, and_true]
    exact ⟨Address.legible_toValue h.target n, Slot.legible_toValue _ _, .nat h.order⟩

theorem Rule.InRange.legible {r : Rule} (h : r.InRange) (n : Nat) : Legible (n + 8) r.toValue := by
  have hcounts : Legible (n + 6)
      (.map (r.attachCounts.entries.map fun e => (Value.text e.1, Value.nat e.2))) := by
    refine .map ?_ ?_
    · intro e he
      obtain ⟨e, _, rfl⟩ := List.mem_map.1 he
      exact .text e.1
    · intro e he
      obtain ⟨e, hmem, rfl⟩ := List.mem_map.1 he
      exact legible_count (h.counts e hmem)
  refine .record nofun (by simp) ?_ ?_
  · simp only [List.forall_mem_cons]
    decide
  · simp only [List.forall_mem_cons, List.not_mem_nil, false_imp_iff, implies_true, and_true]
    exact ⟨RuleKind.legible_code _ _, .text _, h.legible_location n,
      legible_option fun s _ => .text s, legible_option fun s _ => .text s, hcounts⟩

theorem Child.legible_toValue {c : Child} (h : ∀ id ∈ c.id?, id < indexBound) (n : Nat) :
    Legible (n + 4) c.toValue := by
  cases c with
  | node id =>
    refine .tuple (fun w hw => ?_) ?_
    · rw [Option.mem_some_iff.1 hw |>.symm]
      exact ⟨by decide, rfl, by decide⟩
    · rw [List.forall_mem_singleton]
      exact legible_wrapped (.nat (h id rfl))
  | leaf word =>
    refine .tuple (fun w hw => ?_) ?_
    · rw [Option.mem_some_iff.1 hw |>.symm]
      exact ⟨by decide, rfl, by decide⟩
    · rw [List.forall_mem_singleton]
      exact .text word

theorem Node.InRange.legible {x : Node} (h : x.InRange) (n : Nat) :
    Legible (n + 12) x.toValue := by
  have hchildren : Legible (n + 10) (.list (x.children.map Child.toValue)) :=
    legible_list_map fun c hc => Child.legible_toValue (h.children c hc) (n + 4)
  have hrules : Legible (n + 10) (.list (x.rules.map Rule.toValue)) :=
    legible_list_map fun r hr => (h.rules r hr).legible n
  refine .record nofun (by simp) ?_ ?_
  · simp only [List.forall_mem_cons]
    decide
  · simp only [List.forall_mem_cons, List.not_mem_nil, false_imp_iff, implies_true, and_true]
    exact ⟨.text _, hchildren, hrules, .bool _, .bool _,
      legible_option fun s _ => Slot.legible_toValue s _, legible_option fun s _ => .text s,
      legible_option fun s _ => .text s, legible_option fun s _ => .text s,
      legible_option fun s _ => .text s, legible_option fun k hk => legible_count (h.argCount k hk),
      legible_option fun k hk => .nat (h.treeId k hk), legible_count h.wordCount,
      legible_count h.treeCount⟩

/-- A snapshot goes no further down than sixteen levels. -/
theorem Tree.InRange.legible {t : Tree} (h : t.InRange) (n : Nat) :
    Legible (n + 16) t.toValue := by
  have hnodes : Legible (n + 14) (.list (t.nodes.toList.map Node.toValue)) :=
    legible_list_map fun x hx => (h.nodes x hx).legible n
  refine .record nofun (by simp) ?_ ?_
  · simp only [List.forall_mem_cons]
    decide
  · simp only [List.forall_mem_cons, List.not_mem_nil, false_imp_iff, implies_true, and_true]
    exact ⟨hnodes, legible_wrapped (.nat h.root)⟩

/-! ## Decoders undo encoders -/

namespace Snapshot.Value

variable {α : Type} {item : Value → Option α} {encode : α → Value}

theorem asNatBelow_nat {bound k : Nat} (hk : k < bound) : asNatBelow bound (.nat k) = some k :=
  if_pos hk

theorem asOption_option (d : Dialect) {o : Option α} (h : ∀ a ∈ o, item (encode a) = some a) :
    asOption d item (option encode o) = some o := by
  cases o with
  | none => rfl
  | some a =>
    show (item (encode a)).map some = some (some a)
    rw [h a rfl]
    rfl

theorem asOption_text {o : Option String} : asOption .full asText (option .text o) = some o :=
  asOption_option .full fun _ _ => rfl

theorem asList_map {as : List α} (h : ∀ a ∈ as, item (encode a) = some a) :
    asList item (.list (as.map encode)) = some as := by
  show (as.map encode).mapM item = some as
  induction as with
  | nil => rfl
  | cons a as ih =>
    rw [List.map_cons, List.mapM_cons, h a List.mem_cons_self,
      ih fun b hb => h b (List.mem_cons_of_mem a hb)]
    rfl

theorem asCounts_map {m : SortedMap String Nat} (h : ∀ e ∈ m.entries, e.2 < countBound) :
    asCounts (.map (m.entries.map fun e => (.text e.1, .nat e.2))) = some m := by
  have hentries : (m.entries.map fun e => (Value.text e.1, Value.nat e.2)).mapM
      (fun e => do return (← asText e.1, ← asNatBelow countBound e.2)) = some m.entries := by
    generalize m.entries = es at h
    induction es with
    | nil => rfl
    | cons e es ih =>
      rw [List.map_cons, List.mapM_cons, ih fun e he => h e (List.mem_cons_of_mem _ he),
        asNatBelow_nat (h e List.mem_cons_self)]
      rfl
  rw [asCounts, hentries]
  exact congrArg some m.ofList_entries

/-- No field is repeated if all names are different. -/
theorem asFields_record {typeName : String} {known : List String} {fields : List (String × Value)}
    (h : (fields.map (·.1)).Nodup) :
    asFields typeName known (.record none fields) = some fields := by
  have hcount : known.all (fun k => fields.countP (·.1 == k) ≤ 1) = true := by
    rw [List.all_eq_true]
    intro k _
    have := List.nodup_iff_count.1 h k
    rw [List.count, List.countP_map] at this
    exact decide_eq_true this
  exact if_pos ⟨.inl rfl, hcount⟩

end Snapshot.Value

theorem Address.ofValue?_toValue {a : Address} (h : ∀ i ∈ a, i < indexBound) :
    Address.ofValue? .full a.toValue = some a :=
  asList_map fun i hi => asNatBelow_nat (h i hi)

theorem Rule.InRange.ofValue?_location {r : Rule} (h : r.InRange) :
    Location.ofValue? .full r.location.toValue = some r.location := by
  have htarget := Address.ofValue?_toValue h.target
  have hslot : Slot.ofValue? r.location.slot.toValue = some r.location.slot :=
    Slot.ofName?_name r.location.slot
  have horder : asNatBelow indexBound (.nat r.location.order) = some r.location.order :=
    asNatBelow_nat h.order
  rw [Location.ofValue?, Location.toValue, asFields_record (by simp)]
  show (do
    let target ← Address.ofValue? .full (Address.toValue r.target)
    let slot ← Slot.ofValue? r.location.slot.toValue
    let order ← asNatBelow indexBound (.nat r.location.order)
    return ⟨target, slot, order⟩) = some r.location
  rw [htarget, hslot, horder]
  rfl

theorem Rule.InRange.ofValue?_toValue {r : Rule} (h : r.InRange) :
    Rule.ofValue? .full r.toValue = some r := by
  have hkind : RuleKind.ofValue? (.word r.kind.code) = some r.kind := RuleKind.ofCode?_code r.kind
  have hcounts := asCounts_map h.counts
  rw [Rule.ofValue?, Rule.toValue, asFields_record (by simp)]
  -- Each field is found under its name, so what is read is its value.
  show (do
    let kind ← RuleKind.ofValue? (.word r.kind.code)
    let pos ← asText (.text r.pos)
    let location ← Location.ofValue? .full r.location.toValue
    let role ← asOption .full asText (option .text r.role)
    let description ← asOption .full asText (option .text r.description)
    let attachCounts ← asCounts (.map (r.attachCounts.entries.map fun e => (.text e.1, .nat e.2)))
    return { kind, pos, location, role, description, attachCounts }) = some r
  rw [hkind, h.ofValue?_location, asOption_text, asOption_text, hcounts]
  rfl

theorem Child.ofValue?_toValue {c : Child} (h : ∀ id ∈ c.id?, id < indexBound) :
    Child.ofValue? .full c.toValue = some c := by
  cases c with
  | node id =>
    have hid : asNatBelow indexBound (.nat id) = some id := asNatBelow_nat (h id rfl)
    show (asNatBelow indexBound (.nat id)).map Child.node = some (.node id)
    rw [hid]
    rfl
  | leaf word => rfl

theorem Node.InRange.ofValue?_toValue {x : Node} (h : x.InRange) :
    Node.ofValue? .full x.toValue = some x := by
  have hchildren : asList (Child.ofValue? .full) (.list (x.children.map Child.toValue)) =
      some x.children := asList_map fun c hc => Child.ofValue?_toValue (h.children c hc)
  have hrules : asList (Rule.ofValue? .full) (.list (x.rules.map Rule.toValue)) = some x.rules :=
    asList_map fun r hr => (h.rules r hr).ofValue?_toValue
  have hslot : asOption .full Slot.ofValue? (option Slot.toValue x.attachedSlot) =
      some x.attachedSlot := asOption_option .full fun s _ => Slot.ofName?_name s
  have hargs : asOption .full (asNatBelow countBound) (option .nat x.argCount) = some x.argCount :=
    asOption_option .full fun k hk => asNatBelow_nat (h.argCount k hk)
  have htree : asOption .full (asNatBelow indexBound) (option .nat x.treeId) = some x.treeId :=
    asOption_option .full fun k hk => asNatBelow_nat (h.treeId k hk)
  rw [Node.ofValue?, Node.toValue, asFields_record (by simp)]
  -- Each field is found under its name, so what is read is its value.
  show (do
    let label ← asText (.text x.label)
    let children ← asList (Child.ofValue? .full) (.list (x.children.map Child.toValue))
    let rules ← asList (Rule.ofValue? .full) (.list (x.rules.map Rule.toValue))
    let isFoot ← asBool (.bool x.isFoot)
    let attached ← asBool (.bool x.attached)
    let attachedSlot ← asOption .full Slot.ofValue? (option Slot.toValue x.attachedSlot)
    let predicate ← asOption .full asText (option .text x.predicate)
    let role ← asOption .full asText (option .text x.role)
    let treeType ← asOption .full asText (option .text x.treeType)
    let rolesetId ← asOption .full asText (option .text x.rolesetId)
    let argCount ← asOption .full (asNatBelow countBound) (option .nat x.argCount)
    let treeId ← asOption .full (asNatBelow indexBound) (option .nat x.treeId)
    let wordCount ← asNatBelow countBound (.nat x.wordCount)
    let treeCount ← asNatBelow countBound (.nat x.treeCount)
    return {
      label, children, rules, isFoot, attached, attachedSlot, predicate, role, treeType, rolesetId,
      argCount, treeId, wordCount, treeCount }) = some x
  rw [hchildren, hrules, hslot, asOption_text, asOption_text, asOption_text, asOption_text, hargs,
    htree, asNatBelow_nat h.wordCount, asNatBelow_nat h.treeCount]
  rfl

theorem Tree.InRange.ofValue?_toValue {t : Tree} (h : t.InRange) :
    Tree.ofValue? .full t.toValue = some t := by
  have hnodes : asList (Node.ofValue? .full) (.list (t.nodes.toList.map Node.toValue)) =
      some t.nodes.toList := asList_map fun x hx => (h.nodes x hx).ofValue?_toValue
  have hroot : asWrapped Dialect.full.bareWrappers "NodeId" (asNatBelow indexBound)
      (wrapped (.nat t.root)) = some t.root := asNatBelow_nat h.root
  rw [Tree.ofValue?, Tree.toValue, asFields_record (by simp)]
  show (do
    let nodes ← asList (Node.ofValue? .full) (.list (t.nodes.toList.map Node.toValue))
    let root ← asWrapped Dialect.full.bareWrappers "NodeId" (asNatBelow indexBound)
      (wrapped (.nat t.root))
    return ⟨nodes.toArray, root⟩) = some t
  rw [hnodes, hroot]
  rfl

/-! ## Round trip -/

/-- A table of nodes is read back from its snapshot. -/
theorem snapshot_round_trip (t : Tree) (h : t.InRange) : Tree.ofSnapshot? t.snapshot = some t := by
  have hread : ofString? t.snapshot = some (.full, t.toValue) := ofString?_render (h.legible 112)
  rw [Tree.ofSnapshot?, hread]
  exact h.ofValue?_toValue

/-- A table that is no tree: its node is a child of itself, beside a child and a root that it does
    not have. Label, word and role hold characters that are escaped, and its rule counts a label. -/
def Tree.tangled : Tree where
  nodes := #[{
    Node.ofLabel "S\"^\\" with
    children := [.node 0, .leaf "na\u00efve, (\n\u0301", .node 9]
    rules := [{
      kind := .adjoin
      pos := "\x7d //"
      location := ⟨[1, 0], .right, 2⟩
      role := some "Some(\u200b)"
      description := some ""
      attachCounts := .ofList [("b", 0), ("a", 4294967295)] }]
    attached := true
    attachedSlot := some .left
    argCount := some 3
    treeId := some 18446744073709551615 }]
  root := 7

theorem snapshot_round_trip_tangled :
    Tree.tangled.InRange ∧ Tree.ofSnapshot? Tree.tangled.snapshot = some .tangled := by
  have hrule : ∀ r ∈ (Tree.tangled.nodes[0]).rules, r.InRange := by
    intro r hr
    rw [List.mem_singleton.1 hr]
    exact ⟨by decide, by decide, by decide⟩
  have htangled : Tree.tangled.InRange := by
    refine ⟨?_, by decide⟩
    intro n hn
    rw [List.mem_singleton.1 hn]
    exact ⟨by decide, hrule, by decide, by decide, by decide, by decide⟩
  exact ⟨htangled, snapshot_round_trip .tangled htangled⟩

end SpineGrammar
