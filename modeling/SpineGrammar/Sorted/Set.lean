/-!
# Sorted sets

A finite set kept as a strictly ascending list. The order in which members are listed is the order
of their type, and two such lists with the same members are equal (`ascending_eq_of_mem_iff`).
Inserting keeps the list ascending (`ascending_insertAscending`), and a member of the result is the
new element or an old member (`mem_insertAscending`).
-/

namespace SpineGrammar

section Ascending

variable {α : Type} [Ord α]

/-- Every element comes strictly before all that follow it. -/
def Ascending (xs : List α) : Prop :=
  xs.Pairwise fun a b => compare a b = .lt

/-- Puts an element at its place in an ascending list; one that is already there is not repeated. -/
def insertAscending (x : α) : List α → List α
  | [] => [x]
  | y :: ys =>
    match compare x y with
    | .lt => x :: y :: ys
    | .eq => y :: ys
    | .gt => y :: insertAscending x ys

theorem mem_insertAscending [Std.LawfulEqOrd α] {x z : α} {xs : List α} :
    z ∈ insertAscending x xs ↔ z = x ∨ z ∈ xs := by
  induction xs with
  | nil => simp [insertAscending]
  | cons y ys ih =>
    unfold insertAscending
    split
    · simp
    · rename_i h
      have hxy : x = y := Std.LawfulEqOrd.eq_of_compare h
      subst hxy
      simp
    · simp only [List.mem_cons, ih]
      grind

theorem ascending_insertAscending [Std.LawfulEqOrd α] [Std.TransOrd α] (x : α) {xs : List α}
    (h : Ascending xs) : Ascending (insertAscending x xs) := by
  induction xs with
  | nil => simp [insertAscending, Ascending]
  | cons y ys ih =>
    have hys : Ascending ys := List.Pairwise.of_cons h
    have hy : ∀ z ∈ ys, compare y z = .lt := (List.pairwise_cons.1 h).1
    unfold insertAscending
    split
    · rename_i hxy
      refine List.pairwise_cons.2 ⟨?_, h⟩
      intro z hz
      rcases List.mem_cons.1 hz with rfl | hz
      · exact hxy
      · exact Std.TransCmp.lt_trans hxy (hy z hz)
    · exact h
    · rename_i hxy
      refine List.pairwise_cons.2 ⟨?_, ih hys⟩
      intro z hz
      rcases mem_insertAscending.1 hz with rfl | hz
      · exact Std.OrientedCmp.lt_of_gt hxy
      · exact hy z hz

theorem nodup_of_ascending [Std.TransOrd α] {xs : List α} (h : Ascending xs) : xs.Nodup := by
  refine List.Pairwise.imp ?_ h
  rintro a b hab rfl
  have hself : compare a a = .eq := Std.ReflCmp.compare_self
  rw [hself] at hab
  cases hab

theorem ascending_eq_of_mem_iff [Std.TransOrd α] {xs ys : List α} (hx : Ascending xs)
    (hy : Ascending ys) (h : ∀ z, z ∈ xs ↔ z ∈ ys) : xs = ys := by
  have hperm : xs.Perm ys :=
    (List.perm_ext_iff_of_nodup (nodup_of_ascending hx) (nodup_of_ascending hy)).2 h
  refine hperm.eq_of_pairwise ?_ hx hy
  intro a b _ _ hab hba
  have hgt := Std.OrientedCmp.gt_of_lt hab
  rw [hba] at hgt
  cases hgt

end Ascending

/-- A finite set, listed in ascending order. -/
structure SortedSet (α : Type) [Ord α] where
  elems : List α
  ascending : Ascending elems
  deriving DecidableEq

namespace SortedSet

variable {α : Type} [Ord α]

/-- The set without members. -/
def empty : SortedSet α := ⟨[], List.Pairwise.nil⟩

instance : Inhabited (SortedSet α) := ⟨empty⟩

instance : Membership α (SortedSet α) := ⟨fun s x => x ∈ s.elems⟩

variable [Std.LawfulEqOrd α] [Std.TransOrd α]

/-- Adds a member. -/
def insert (s : SortedSet α) (x : α) : SortedSet α :=
  ⟨insertAscending x s.elems, ascending_insertAscending x s.ascending⟩

/-- Adds every element of a list. -/
def insertMany (s : SortedSet α) (xs : List α) : SortedSet α :=
  xs.foldl insert s

/-- The set of the elements of a list. -/
def ofList (xs : List α) : SortedSet α :=
  empty.insertMany xs

theorem mem_insert {s : SortedSet α} {x z : α} : z ∈ s.insert x ↔ z = x ∨ z ∈ s :=
  mem_insertAscending

theorem mem_insertMany {xs : List α} {s : SortedSet α} {z : α} :
    z ∈ s.insertMany xs ↔ z ∈ xs ∨ z ∈ s := by
  induction xs generalizing s with
  | nil => simp [insertMany]
  | cons x xs ih =>
    have : s.insertMany (x :: xs) = (s.insert x).insertMany xs := rfl
    rw [this, ih, mem_insert]
    grind

theorem mem_ofList {xs : List α} {z : α} : z ∈ ofList xs ↔ z ∈ xs := by
  unfold ofList
  rw [mem_insertMany]
  constructor
  · rintro (h | h)
    · exact h
    · exact absurd h (List.not_mem_nil)
  · exact Or.inl

/-- Whether every member is a member of the other set. -/
def subset [BEq α] (s t : SortedSet α) : Bool :=
  s.elems.all t.elems.contains

end SortedSet

end SpineGrammar
