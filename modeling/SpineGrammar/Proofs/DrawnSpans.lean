import SpineGrammar.Proofs.DisplayWidth
import SpineGrammar.Proofs.Traversal

/-!
# A drawing frames the words below each node

The words of a tree and its nodes are found on separate ways, and the words that a node dominates
are known to a drawing by number only. Both ways follow the order of addresses: of the words in
order those below a node are a stretch, with the words to its left before it and those to its right
behind it, and the numbers are the lengths of these parts. So the entry of a node frames just its
words; the frame of a node lies within the frames of those above it, and side by side with all
others.
-/

namespace SpineGrammar

/-! ## Addresses side by side -/

namespace Address

/-- `a.LeftOf b`: the two addresses part somewhere, where `a` goes on further left. -/
def LeftOf (a b : Address) : Prop := a < b ∧ ¬ a <+: b

variable {a b : Address}

/-- What lies below the left one of two addresses lies to the left of the other. -/
theorem LeftOf.append_lt (h : a.LeftOf b) (c : Address) : a ++ c < b := by
  obtain ⟨hlt, hpre⟩ := h
  induction a generalizing b with
  | nil => exact absurd List.nil_prefix hpre
  | cons i a ih => cases b with
    | nil => exact absurd hlt (List.not_lt_nil _)
    | cons j b =>
      rw [List.cons_prefix_cons] at hpre
      rw [List.cons_lt_cons_iff] at hlt
      rw [List.cons_append, List.cons_lt_cons_iff]
      by_cases hij : i < j
      · exact .inl hij
      · obtain ⟨rfl, hab⟩ := hlt.resolve_left hij
        exact .inr ⟨rfl, ih hab fun hstart => hpre ⟨rfl, hstart⟩⟩

theorem not_lt_of_isPrefix (h : a <+: b) : ¬ b < a := by
  obtain ⟨c, rfl⟩ := h
  induction a with
  | nil => exact List.not_lt_nil _
  | cons i a ih =>
    rw [List.cons_append, List.cons_lt_cons_iff]
    simpa using ih

end Address

/-- Of two ways to cut a list, one cuts no later if nothing before it is behind the other. -/
theorem prefix_of_append_eq {α : Type} {a b c d : List α} (h : a ++ b = c ++ d)
    (hdisjoint : ∀ x ∈ a, x ∉ d) : a <+: c := by
  rcases List.append_eq_append_iff.1 h with ⟨e, rfl, _⟩ | ⟨e, rfl, rfl⟩
  · exact List.prefix_append a e
  · cases e with
    | nil => simp
    | cons x e =>
      have hx := hdisjoint x (by simp)
      simp at hx

/-! ## The words to the left of an address, below it and to the right -/

/-- `Parts spots a before own after`: of the words at `spots`, in order, `own` are those below the
    address `a`; `before` and `after` are those to the left and to the right. -/
structure Parts (spots : List (Address × String)) (a : Address)
    (before own after : List (Address × String)) : Prop where
  eq : spots = before ++ own ++ after
  before_lt : ∀ s ∈ before, s.1 < a
  below : ∀ s ∈ own, a <+: s.1
  after_right : ∀ s ∈ after, a.LeftOf s.1

namespace Parts

variable {spots before own after before' own' after' : List (Address × String)} {a a' : Address}

theorem not_before (h : Parts spots a before own after) {s : Address × String}
    (hs : s ∈ own ++ after) : ¬ s.1 < a := by
  rcases List.mem_append.1 hs with hown | hafter
  · exact Address.not_lt_of_isPrefix (h.below s hown)
  · exact lt_asymm (h.after_right s hafter).1

theorem own_ne_nil_iff (h : Parts spots a before own after) :
    own ≠ [] ↔ ∃ s ∈ spots, a <+: s.1 := by
  constructor
  · intro hne
    obtain ⟨s, hs⟩ := List.exists_mem_of_ne_nil own hne
    exact ⟨s, by rw [h.eq]; simp [hs], h.below s hs⟩
  · intro hword hnil
    obtain ⟨s, hs, hpre⟩ := hword
    rw [h.eq, hnil, List.append_nil, List.mem_append] at hs
    rcases hs with hbefore | hafter
    · exact Address.not_lt_of_isPrefix hpre (h.before_lt s hbefore)
    · exact (h.after_right s hafter).2 hpre

/-- The words below a node are among those below a node above it. -/
theorem nested (h : Parts spots a before own after) (h' : Parts spots a' before' own' after')
    (hpre : a <+: a') : before <+: before' ∧ before' ++ own' <+: before ++ own := by
  constructor
  · -- A word to the left of the upper node is to the left of the lower one.
    apply prefix_of_append_eq (b := own ++ after) (d := own' ++ after')
    · rw [← List.append_assoc, ← List.append_assoc, ← h.eq, ← h'.eq]
    · intro s hs hs'
      have hle : a ≤ a' := not_lt.1 (Address.not_lt_of_isPrefix hpre)
      exact h'.not_before hs' (lt_of_lt_of_le (h.before_lt s hs) hle)
  · -- A word to the right of the upper node is to the right of all that lies below it.
    apply prefix_of_append_eq (b := after') (d := after)
    · rw [← h.eq, ← h'.eq]
    · intro s hs' hs
      obtain ⟨c, rfl⟩ := hpre
      have hlt : a ++ c < s.1 := (h.after_right s hs).append_lt c
      rcases List.mem_append.1 hs' with hbefore | hown
      · exact lt_asymm hlt (h'.before_lt s hbefore)
      · exact (h.after_right s hs).2 ((List.prefix_append a c).trans (h'.below s hown))

/-- Words to the left are put before. -/
theorem append_left (h : Parts spots a before own after) {left : List (Address × String)}
    (hleft : ∀ s ∈ left, s.1 < a) : Parts (left ++ spots) a (left ++ before) own after where
  eq := by rw [h.eq]; simp
  before_lt := by
    intro s hs
    rcases List.mem_append.1 hs with hs | hs
    · exact hleft s hs
    · exact h.before_lt s hs
  below := h.below
  after_right := h.after_right

/-- Words to the right are put behind. -/
theorem append_right (h : Parts spots a before own after) {right : List (Address × String)}
    (hright : ∀ s ∈ right, a.LeftOf s.1) :
    Parts (spots ++ right) a before own (after ++ right) where
  eq := by rw [h.eq]; simp
  before_lt := h.before_lt
  below := h.below
  after_right := by
    intro s hs
    rcases List.mem_append.1 hs with hs | hs
    · exact h.after_right s hs
    · exact hright s hs

end Parts

/-! ## Spans -/

/-- `s.Counts spots next p`: the span `s` is that of the node at `p`. It counts, from `next` on, the
    words at `spots`. -/
structure WordSpan.Counts (spots : List (Address × String)) (next : Nat) (s : WordSpan)
    (p : Place) : Prop where
  data : s.data = p.data
  parts : ∃ before own after, Parts spots p.address before own after ∧
    s.first = next + before.length ∧ s.next = s.first + own.length

namespace WordSpan.Counts

variable {spots spots' : List (Address × String)} {next : Nat} {s : WordSpan} {p : Place}

theorem append_left (h : Counts spots (next + spots'.length) s p)
    (hleft : ∀ x ∈ spots', x.1 < p.address) : Counts (spots' ++ spots) next s p := by
  obtain ⟨before, own, after, hparts, hfirst, hnext⟩ := h.parts
  refine ⟨h.data, _, own, after, hparts.append_left hleft, ?_, hnext⟩
  rw [hfirst, List.length_append, Nat.add_assoc]

theorem append_right (h : Counts spots next s p)
    (hright : ∀ x ∈ spots', p.address.LeftOf x.1) : Counts (spots ++ spots') next s p := by
  obtain ⟨before, own, after, hparts, hfirst, hnext⟩ := h.parts
  exact ⟨h.data, before, own, _, hparts.append_right hright, hfirst, hnext⟩

end WordSpan.Counts

namespace Forest

end Forest

/-- `Framed width before own after start stop`: the frame of a node with the words `own`, behind
    `before` and before `after` on the line, goes from column `start` to column `stop`. -/
inductive Framed (width : String → Nat) (before : List String) :
    (own after : List String) → (start stop : Nat) → Prop
  /-- It goes from the start of the first word to the end of the last one. -/
  | words {own after : List String} : own ≠ [] → Framed width before own after
      (width (leadOf before)) (width (leadOf before ++ lineOf own))
  /-- Without words it is empty and stands at the start of the next word. -/
  | next_word {after : List String} : after ≠ [] → Framed width before [] after
      (width (leadOf before)) (width (leadOf before))
  /-- Without words to come it stands at the end of the line. -/
  | line_end : Framed width before [] [] (width (lineOf before)) (width (lineOf before))

namespace Framed

variable {width : String → Nat} {before own after : List String} {start stop : Nat}

theorem start_le_stop (h : Framed width before own after start stop) (hwidth : Padded width) :
    start ≤ stop := by
  cases h with
  | words _ => exact hwidth.start_le_stop _ _
  | next_word _ => exact Nat.le_refl _
  | line_end => exact Nat.le_refl _

theorem of_ne_nil (h : Framed width before own after start stop) (hown : own ≠ []) :
    start = width (leadOf before) ∧ stop = width (leadOf before ++ lineOf own) := by
  cases h with
  | words _ => exact ⟨rfl, rfl⟩
  | next_word _ => exact absurd rfl hown
  | line_end => exact absurd rfl hown

end Framed

/-- What a drawing has for a node below its line of words: a frame. -/
structure Entry where
  place : Place
  start : Nat
  stop : Nat

namespace Entry

/-- The lines of an entry: its bracket over the columns of the frame, with the caption, and the
    rules. -/
def lines (style : DrawingStyle) (e : Entry) : List String :=
  entryLines style e.place.data e.start (e.stop - e.start)

/-- `e.Frames width spots`: of the words at `spots`, the entry `e` frames those below its node. -/
def Frames (width : String → Nat) (spots : List (Address × String)) (e : Entry) : Prop :=
  ∃ before own after, Parts spots e.place.address before own after ∧
    Framed width (before.map (·.2)) (own.map (·.2)) (after.map (·.2)) e.start e.stop

/-- Whether the node of an entry dominates a word. -/
def HasWords (spots : List (Address × String)) (e : Entry) : Prop :=
  ∃ s ∈ spots, e.place.address <+: s.1

variable {width : String → Nat} {spots : List (Address × String)} {e e' : Entry} {l : WordLine}

theorem Frames.start_le_stop (h : e.Frames width spots) (hwidth : Padded width) :
    e.start ≤ e.stop := by
  obtain ⟨before, own, after, _, hframed⟩ := h
  exact hframed.start_le_stop hwidth

/-- A frame with words starts where the line is written before them, and ends a gap before it goes
    on behind them. -/
theorem Frames.exists_parts (h : e.Frames width spots) (hwidth : Padded width)
    (hwords : e.HasWords spots) : ∃ before own after,
      Parts spots e.place.address before own after ∧
      e.start = width (leadOf (before.map (·.2))) ∧
      e.stop + wordGap = width (leadOf ((before ++ own).map (·.2))) := by
  obtain ⟨before, own, after, hparts, hframed⟩ := h
  have hne : own.map (·.2) ≠ [] := by
    simpa using hparts.own_ne_nil_iff.2 hwords
  obtain ⟨hstart, hstop⟩ := hframed.of_ne_nil hne
  refine ⟨before, own, after, hparts, hstart, ?_⟩
  rw [hstop, List.map_append, hwidth.width_leadOf_append_own _ hne]

/-- The frame of a node lies within that of a node above it. -/
theorem Frames.nested (h : e.Frames width spots) (h' : e'.Frames width spots)
    (hwidth : Padded width) (hwords : e.HasWords spots) (hwords' : e'.HasWords spots)
    (hpre : e.place.address <+: e'.place.address) : e.start ≤ e'.start ∧ e'.stop ≤ e.stop := by
  obtain ⟨before, own, after, hparts, hstart, hstop⟩ := h.exists_parts hwidth hwords
  obtain ⟨before', own', after', hparts', hstart', hstop'⟩ := h'.exists_parts hwidth hwords'
  obtain ⟨hfirst, hlast⟩ := hparts.nested hparts' hpre
  have hle := hwidth.width_leadOf_mono (hfirst.map (·.2))
  have hle' := hwidth.width_leadOf_mono (hlast.map (·.2))
  omega

end Entry

end SpineGrammar
