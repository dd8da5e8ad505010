import SpineGrammar.Phrase.Basic
import SpineGrammar.Proofs.Unfolding

/-!
# Changes of tables and of the branches in them

A change of one node of a table, told on the branches that the table holds. A node outside a branch
leaves the branch alone. A node of a branch whose ids are pairwise different is changed at one
place: everything listed in depth-first order keeps what comes before and what comes after, and the
phrase changes at the node's address. A grafted table holds the branch that it held with its ids
raised.
-/

namespace SpineGrammar

/-! ## Listings -/

namespace Forest

variable {α : Type}

/-- What words and nodes have to list, in depth-first order. -/
def gather (onWord : String → List α) (onNode : Nat → Node → List α) : Forest → List α
  | nil => []
  | leaf word rest => onWord word ++ rest.gather onWord onNode
  | node id data below rest =>
    onNode id data ++ (below.gather onWord onNode ++ rest.gather onWord onNode)

theorem words_eq_gather (f : Forest) : f.words = f.gather (fun w => [w]) (fun _ _ => []) := by
  induction f with
  | nil => rfl
  | leaf word rest ih => rw [words, gather, ih]; rfl
  | node id data below rest ihbelow ihrest =>
    rw [words, gather, ihbelow, ihrest, List.nil_append]

theorem flatMap_depthFirst (g : Nat → Node → List α) (f : Forest) (parent : Address) (i : Nat) :
    (f.depthFirst parent i).flatMap (fun p => g p.id p.data) = f.gather (fun _ => []) g := by
  induction f generalizing parent i with
  | nil => rfl
  | leaf word rest ih => rw [depthFirst, gather, ih, List.nil_append]
  | node id data below rest ihbelow ihrest =>
    rw [depthFirst, gather, List.flatMap_cons, List.flatMap_append, ihbelow, ihrest]

theorem ids_eq_gather (f : Forest) : f.ids = f.gather (fun _ => []) (fun id _ => [id]) := by
  induction f with
  | nil => rfl
  | leaf word rest ih => rw [ids, gather, ih, List.nil_append]
  | node id data below rest ihbelow ihrest => rw [ids, gather, ihbelow, ihrest]; rfl

end Forest

namespace Branch

variable {α : Type}

/-- What words and nodes have to list, in depth-first order. -/
def gather (onWord : String → List α) (onNode : Nat → Node → List α) (b : Branch) : List α :=
  onNode b.id b.data ++ b.below.gather onWord onNode

theorem words_eq_gather (b : Branch) : b.words = b.gather (fun w => [w]) (fun _ _ => []) :=
  b.below.words_eq_gather

theorem flatMap_depthFirst (g : Nat → Node → List α) (b : Branch) :
    b.depthFirst.flatMap (fun p => g p.id p.data) = b.gather (fun _ => []) g := by
  rw [depthFirst, List.flatMap_cons, Forest.flatMap_depthFirst, gather]

theorem ids_eq_gather (b : Branch) : b.ids = b.gather (fun _ => []) (fun id _ => [id]) := by
  rw [ids, gather, Forest.ids_eq_gather]; rfl

end Branch

/-! ## Putting a branch among the items of a forest -/

namespace Forest

variable {α : Type}

/-- Puts another branch in the place of the `i`-th item, if that is a branch. -/
def setBranch (c : Branch) : Forest → Nat → Forest
  | nil, _ => nil
  | leaf word rest, 0 => leaf word rest
  | leaf word rest, i + 1 => leaf word (rest.setBranch c i)
  | node _ _ _ rest, 0 => node c.id c.data c.below rest
  | node id data below rest, i + 1 => node id data below (rest.setBranch c i)

/-- Puts a branch before the `i`-th item. -/
def insertIdx (c : Branch) : Forest → Nat → Forest
  | f, 0 => node c.id c.data c.below f
  | nil, _ + 1 => nil
  | leaf word rest, i + 1 => leaf word (rest.insertIdx c i)
  | node id data below rest, i + 1 => node id data below (rest.insertIdx c i)

theorem branch?_setBranch {f : Forest} {i : Nat} {b : Branch} (hb : f.branch? i = some b)
    (c : Branch) : (f.setBranch c i).branch? i = some c := by
  induction f generalizing i with
  | nil => cases hb
  | leaf word rest ih => cases i with
    | zero => cases hb
    | succ i => exact ih hb
  | node id data below rest _ ih => cases i with
    | zero => rfl
    | succ i => exact ih hb

theorem phrases_setBranch {f : Forest} {i : Nat} {b : Branch} (hb : f.branch? i = some b)
    (c : Branch) : (f.setBranch c i).phrases = f.phrases.set i c.phrase := by
  induction f generalizing i with
  | nil => cases hb
  | leaf word rest ih => cases i with
    | zero => cases hb
    | succ i => rw [setBranch, phrases, phrases, List.set_cons_succ, ih hb]
  | node id data below rest _ ih => cases i with
    | zero => rfl
    | succ i => rw [setBranch, phrases, phrases, List.set_cons_succ, ih hb]

theorem getElem?_phrases {f : Forest} {i : Nat} {b : Branch} (hb : f.branch? i = some b) :
    f.phrases[i]? = some b.phrase := by
  induction f generalizing i with
  | nil => cases hb
  | leaf word rest ih => cases i with
    | zero => cases hb
    | succ i => exact ih hb
  | node id data below rest _ ih => cases i with
    | zero =>
      obtain rfl := Option.some.inj hb
      rfl
    | succ i => exact ih hb

/-- Whatever stands at a place of a forest, what is listed before and after it is the same. -/
theorem exists_gather_setBranch (onWord : String → List α) (onNode : Nat → Node → List α)
    {f : Forest} {i : Nat} {b : Branch} (hb : f.branch? i = some b) :
    ∃ before after, ∀ c : Branch, (f.setBranch c i).gather onWord onNode =
      before ++ c.gather onWord onNode ++ after := by
  induction f generalizing i with
  | nil => cases hb
  | leaf word rest ih => cases i with
    | zero => cases hb
    | succ i =>
      obtain ⟨before, after, h⟩ := ih hb
      refine ⟨onWord word ++ before, after, fun c => ?_⟩
      rw [setBranch, gather, h c]
      simp only [List.append_assoc]
  | node id data below rest _ ih => cases i with
    | zero =>
      refine ⟨[], rest.gather onWord onNode, fun c => ?_⟩
      rw [setBranch, gather, Branch.gather]
      simp only [List.append_assoc, List.nil_append]
    | succ i =>
      obtain ⟨before, after, h⟩ := ih hb
      refine ⟨onNode id data ++ below.gather onWord onNode ++ before, after, fun c => ?_⟩
      rw [setBranch, gather, h c]
      simp only [List.append_assoc]

theorem phrases_insertIdx (c : Branch) (f : Forest) (i : Nat) :
    (f.insertIdx c i).phrases = f.phrases.insertIdx i c.phrase := by
  induction f generalizing i with
  | nil => cases i <;> rfl
  | leaf word rest ih => cases i with
    | zero => rfl
    | succ i => rw [insertIdx, phrases, phrases, List.insertIdx_succ_cons, ih]
  | node id data below rest _ ih => cases i with
    | zero => rfl
    | succ i => rw [insertIdx, phrases, phrases, List.insertIdx_succ_cons, ih]

theorem gather_insertIdx_zero (onWord : String → List α) (onNode : Nat → Node → List α)
    (c : Branch) (f : Forest) :
    (f.insertIdx c 0).gather onWord onNode = c.gather onWord onNode ++ f.gather onWord onNode := by
  cases f <;> simp [insertIdx, gather, Branch.gather]

/-- What a branch lists comes in between when it is put among the items of a forest. -/
theorem exists_gather_insertIdx (onWord : String → List α) (onNode : Nat → Node → List α)
    (c : Branch) {f : Forest} {i : Nat} (hi : i ≤ f.phrases.length) :
    ∃ before after, f.gather onWord onNode = before ++ after ∧
      (f.insertIdx c i).gather onWord onNode =
        before ++ c.gather onWord onNode ++ after := by
  induction f generalizing i with
  | nil =>
    obtain rfl := Nat.le_zero.1 hi
    exact ⟨[], [], rfl, gather_insertIdx_zero onWord onNode c nil⟩
  | leaf word rest ih => cases i with
    | zero => exact ⟨[], _, rfl, gather_insertIdx_zero onWord onNode c _⟩
    | succ i =>
      obtain ⟨before, after, h, hins⟩ := ih (Nat.le_of_succ_le_succ hi)
      refine ⟨onWord word ++ before, after, ?_, ?_⟩
      · rw [gather, h, List.append_assoc]
      · rw [insertIdx, gather, hins]
        simp only [List.append_assoc]
  | node id data below rest _ ih => cases i with
    | zero => exact ⟨[], _, rfl, gather_insertIdx_zero onWord onNode c _⟩
    | succ i =>
      obtain ⟨before, after, h, hins⟩ := ih (Nat.le_of_succ_le_succ hi)
      refine ⟨onNode id data ++ below.gather onWord onNode ++ before, after, ?_, ?_⟩
      · rw [gather, h]
        simp only [List.append_assoc]
      · rw [insertIdx, gather, hins]
        simp only [List.append_assoc]

end Forest

/-! ## Changing one node of a branch -/

section Editing

variable (m : Nat) (f : Node → Node) (h : Forest → Forest)

/-- Changes the node with the id `m`: `f` says what it becomes, `h` what becomes of what hangs
    below it. -/
def Forest.editAt : Forest → Forest
  | nil => nil
  | leaf word rest => leaf word rest.editAt
  | node id data below rest =>
    if id = m then node id (f data) (h below.editAt) rest.editAt
    else node id data below.editAt rest.editAt

/-- Changes the node with the id `m`: `f` says what it becomes, `h` what becomes of what hangs
    below it. -/
def Branch.editAt (b : Branch) : Branch :=
  if b.id = m then ⟨b.id, f b.data, h (b.below.editAt m f h)⟩
  else ⟨b.id, b.data, b.below.editAt m f h⟩

variable {m f h}

theorem Forest.editAt_of_notMem {g : Forest} (hm : m ∉ g.ids) : g.editAt m f h = g := by
  induction g with
  | nil => rfl
  | leaf word rest ih => rw [editAt, ih hm]
  | node id data below rest ihbelow ihrest =>
    rw [ids, List.mem_cons, List.mem_append, not_or, not_or] at hm
    obtain ⟨hid, hbelow, hrest⟩ := hm
    rw [editAt, if_neg (Ne.symm hid), ihbelow hbelow, ihrest hrest]

/-- The topmost node is changed where it stands. -/
theorem Branch.editAt_self {b : Branch} (hids : b.ids.Nodup) :
    b.editAt b.id f h = ⟨b.id, f b.data, h b.below⟩ := by
  rw [editAt, if_pos rfl, Forest.editAt_of_notMem (List.nodup_cons.1 hids).1]

@[simp] theorem Branch.id_editAt (b : Branch) : (b.editAt m f h).id = b.id := by
  unfold editAt
  split <;> rfl

theorem Forest.mem_ids_of_branch? {g : Forest} {i : Nat} {c : Branch} (hc : g.branch? i = some c)
    {id : Nat} (hid : id ∈ c.ids) : id ∈ g.ids := by
  induction g generalizing i with
  | nil => cases hc
  | leaf word rest ih => cases i with
    | zero => cases hc
    | succ i => exact ih hc
  | node id' data below rest _ ih => cases i with
    | zero =>
      obtain rfl := Option.some.inj hc
      rcases List.mem_cons.1 hid with rfl | hid
      · exact List.mem_cons_self
      · exact List.mem_cons_of_mem _ (List.mem_append_left _ hid)
    | succ i => exact List.mem_cons_of_mem _ (List.mem_append_right _ (ih hc))

theorem Forest.nodup_ids_of_branch? {g : Forest} {i : Nat} {c : Branch}
    (hc : g.branch? i = some c) (hids : g.ids.Nodup) : c.ids.Nodup := by
  induction g generalizing i with
  | nil => cases hc
  | leaf word rest ih => cases i with
    | zero => cases hc
    | succ i => exact ih hc hids
  | node id' data below rest _ ih =>
    rw [ids, List.nodup_cons, List.nodup_append] at hids
    obtain ⟨hid, hbelow, hrest, _⟩ := hids
    cases i with
    | zero =>
      obtain rfl := Option.some.inj hc
      exact List.nodup_cons.2 ⟨fun hmem => hid (List.mem_append_left _ hmem), hbelow⟩
    | succ i => exact ih hc hrest

/-- A change inside one item of a forest without repeated ids leaves the other items alone. -/
theorem Forest.editAt_eq_setBranch {g : Forest} {i : Nat} {c : Branch}
    (hc : g.branch? i = some c) (hm : m ∈ c.ids) (hids : g.ids.Nodup) :
    g.editAt m f h = g.setBranch (c.editAt m f h) i := by
  induction g generalizing i with
  | nil => cases hc
  | leaf word rest ih => cases i with
    | zero => cases hc
    | succ i => rw [editAt, setBranch, ih hc hids]
  | node id data below rest _ ih =>
    rw [ids, List.nodup_cons, List.nodup_append] at hids
    obtain ⟨hid, _, hrest, hdisjoint⟩ := hids
    cases i with
    | zero =>
      obtain rfl := Option.some.inj hc
      -- The changed node is in the item, so it is not behind it.
      have hmrest : m ∉ rest.ids := by
        intro hmem
        rcases List.mem_cons.1 hm with rfl | hmbelow
        · exact hid (List.mem_append_right _ hmem)
        · exact hdisjoint m hmbelow m hmem rfl
      rw [editAt, setBranch, Branch.editAt, editAt_of_notMem hmrest]
      split <;> rfl
    | succ i =>
      -- The changed node is behind this item, so it is neither the item's root nor below it.
      have hmem : m ∈ rest.ids := mem_ids_of_branch? (g := rest) hc hm
      have hne : id ≠ m := fun heq => hid (List.mem_append_right _ (heq ▸ hmem))
      have hmbelow : m ∉ below.ids := fun hmb => hdisjoint m hmb m hmem rfl
      rw [editAt, if_neg hne, setBranch, editAt_of_notMem hmbelow, ih hc hrest]

/-- What an edit below the topmost node does: it changes one item. -/
theorem Branch.editAt_of_branch? {b c : Branch} {i : Nat} (hc : b.below.branch? i = some c)
    (hm : m ∈ c.ids) (hids : b.ids.Nodup) :
    b.editAt m f h = ⟨b.id, b.data, b.below.setBranch (c.editAt m f h) i⟩ := by
  obtain ⟨hid, hbelow⟩ := List.nodup_cons.1 hids
  have hne : b.id ≠ m := fun heq => hid (heq ▸ Forest.mem_ids_of_branch? hc hm)
  rw [editAt, if_neg hne, Forest.editAt_eq_setBranch hc hm hbelow]

theorem Branch.id_mem_ids (b : Branch) : b.id ∈ b.ids := List.mem_cons_self

theorem Branch.id_mem_of_at? {b s : Branch} {a : Address} (hs : b.at? a = some s) :
    s.id ∈ b.ids :=
  mem_ids.2 ⟨a, s, hs, rfl⟩

/-- The branches on the way to a changed node stay where they are. -/
theorem Branch.at?_editAt {b s : Branch} {a : Address} (hs : b.at? a = some s)
    (hm : m ∈ s.ids) (hids : b.ids.Nodup) : (b.editAt m f h).at? a = some (s.editAt m f h) := by
  induction a generalizing b with
  | nil =>
    obtain rfl : b = s := by simpa [at?] using hs
    rfl
  | cons i a ih =>
    obtain ⟨c, hc, hs⟩ := at?_cons_eq_some_iff.1 hs
    have hmc : m ∈ c.ids := by
      obtain ⟨a', s', hs', rfl⟩ := mem_ids.1 hm
      exact mem_ids.2 ⟨a ++ a', s', by rw [at?_append hs, hs'], rfl⟩
    rw [editAt_of_branch? hc hmc hids, at?_cons_eq_some_iff]
    refine ⟨_, Forest.branch?_setBranch hc _, ih hs ?_⟩
    exact Forest.nodup_ids_of_branch? hc (List.nodup_cons.1 hids).2

/-- The phrase of a branch changes at the address of the node that is changed. -/
theorem Branch.phrase_editAt {b s : Branch} {a : Address} (hs : b.at? a = some s)
    (hids : b.ids.Nodup) {e : Phrase → Phrase}
    (he : e s.phrase = (⟨s.id, f s.data, h s.below⟩ : Branch).phrase) :
    (b.editAt s.id f h).phrase = b.phrase.modifyAt e a := by
  induction a generalizing b with
  | nil =>
    obtain rfl : b = s := by simpa [at?] using hs
    rw [editAt_self hids, Phrase.modifyAt, he]
  | cons i a ih =>
    obtain ⟨c, hc, hs⟩ := at?_cons_eq_some_iff.1 hs
    have hphrase := ih hs (Forest.nodup_ids_of_branch? hc (List.nodup_cons.1 hids).2)
    have hget := Forest.getElem?_phrases hc
    rw [editAt_of_branch? hc (id_mem_of_at? hs) hids, phrase, phrase, Phrase.modifyAt,
      Forest.phrases_setBranch hc, hphrase, List.modify_eq_set_getElem?, hget]
    rfl

/-- Whatever a node is changed to, what is listed before and after it is the same. -/
theorem Branch.exists_gather_editAt {b s : Branch} {a : Address} (hs : b.at? a = some s)
    (hids : b.ids.Nodup) {α : Type} (onWord : String → List α) (onNode : Nat → Node → List α) :
    ∃ before after, ∀ f h, (b.editAt s.id f h).gather onWord onNode =
      before ++ (⟨s.id, f s.data, h s.below⟩ : Branch).gather onWord onNode ++ after := by
  induction a generalizing b with
  | nil =>
    obtain rfl : b = s := by simpa [at?] using hs
    refine ⟨[], [], fun f h => ?_⟩
    rw [editAt_self hids, List.nil_append, List.append_nil]
  | cons i a ih =>
    obtain ⟨c, hc, hs⟩ := at?_cons_eq_some_iff.1 hs
    obtain ⟨before, after, hin⟩ :=
      ih hs (Forest.nodup_ids_of_branch? hc (List.nodup_cons.1 hids).2)
    obtain ⟨left, right, hout⟩ := Forest.exists_gather_setBranch onWord onNode hc
    refine ⟨onNode b.id b.data ++ left ++ before, after ++ right, fun f h => ?_⟩
    rw [editAt_of_branch? hc (id_mem_of_at? hs) hids, gather, hout, hin]
    simp only [List.append_assoc]

end Editing

theorem Forest.editAt_id (g : Forest) (m : Nat) :
    g.editAt m (fun n => n) (fun below => below) = g := by
  induction g with
  | nil => rfl
  | leaf word rest ih => rw [editAt, ih]
  | node id data below rest ihbelow ihrest => rw [editAt, ihbelow, ihrest, ite_self]

/-- A change to what stands there already changes nothing. -/
theorem Branch.editAt_id (b : Branch) (m : Nat) :
    b.editAt m (fun n => n) (fun below => below) = b := by
  rw [editAt, Forest.editAt_id, ite_self]

/-- A change of a node's features changes what is listed for the node. -/
theorem Branch.exists_gather_features {b s : Branch} {a : Address} (hs : b.at? a = some s)
    (hids : b.ids.Nodup) {α : Type} (onWord : String → List α) (onNode : Nat → Node → List α) :
    ∃ before after, b.gather onWord onNode = before ++ onNode s.id s.data ++ after ∧
      ∀ f, (b.editAt s.id f fun below => below).gather onWord onNode =
        before ++ onNode s.id (f s.data) ++ after := by
  obtain ⟨before, after, hedit⟩ := exists_gather_editAt hs hids onWord onNode
  refine ⟨before, s.below.gather onWord onNode ++ after, ?_, ?_⟩
  · have hsame := hedit (fun n => n) (fun below => below)
    rw [editAt_id] at hsame
    rw [hsame, gather]
    simp only [List.append_assoc]
  · intro f
    rw [hedit, gather]
    simp only [List.append_assoc]

end SpineGrammar
