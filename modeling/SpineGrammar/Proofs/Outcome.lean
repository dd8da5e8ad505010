import Mathlib.Data.List.Forall2
import SpineGrammar.Fault

/-!
# Outcomes of composed operations

How a sequence of operations that may fault or be refused comes to a result: each step has a result
of its own, and the next one starts from it.
-/

namespace SpineGrammar

variable {ε α β : Type}

@[simp] theorem ok_bind (a : α) (f : α → Except ε β) : (Except.ok a >>= f) = f a := rfl

@[simp] theorem pure_eq_ok (a : α) : (pure a : Except ε α) = .ok a := rfl

theorem bind_eq_ok_iff {x : Except ε α} {f : α → Except ε β} {b : β} :
    x >>= f = .ok b ↔ ∃ a, x = .ok a ∧ f a = .ok b := by
  cases x with
  | error e => simp [bind, Except.bind]
  | ok a => simp

/-- What an operation that has a result gives can be looked at. -/
instance decidableExistsOk (x : Except ε α) (p : α → Prop) [DecidablePred p] :
    Decidable (∃ a, x = .ok a ∧ p a) :=
  match x with
  | .ok a => decidable_of_iff (p a)
      ⟨fun h => ⟨a, rfl, h⟩, fun ⟨_, heq, h⟩ => Except.ok.inj heq ▸ h⟩
  | .error _ => isFalse fun ⟨_, heq, _⟩ => nomatch heq

/-- An operation on every element of a list has a result if it has one on each. -/
theorem mapM_eq_ok_iff {f : α → Except ε β} {xs : List α} {ys : List β} :
    xs.mapM f = .ok ys ↔ List.Forall₂ (fun x y => f x = .ok y) xs ys := by
  induction xs generalizing ys with
  | nil =>
    rw [List.mapM_nil, List.forall₂_nil_left_iff, pure_eq_ok, Except.ok.injEq, eq_comm]
  | cons x xs ih =>
    rw [List.mapM_cons, bind_eq_ok_iff, List.forall₂_cons_left_iff]
    constructor
    · rintro ⟨y, hy, hrest⟩
      obtain ⟨ys', hys, hcons⟩ := bind_eq_ok_iff.1 hrest
      exact ⟨y, ys', hy, ih.1 hys, (Except.ok.inj hcons).symm⟩
    · rintro ⟨y, ys', hy, hys, rfl⟩
      exact ⟨y, hy, bind_eq_ok_iff.2 ⟨ys', ih.2 hys, rfl⟩⟩

theorem mapM_eq_ok_map {f : α → Except ε β} {g : α → β} {xs : List α}
    (h : ∀ x ∈ xs, f x = .ok (g x)) : xs.mapM f = .ok (xs.map g) := by
  rw [mapM_eq_ok_iff, List.forall₂_map_right_iff, List.forall₂_same]
  exact h

/-- Of two lists that correspond each element of the first has a counterpart. -/
theorem exists_right_of_mem {R : α → β → Prop} {xs : List α} {ys : List β}
    (h : List.Forall₂ R xs ys) {x : α} (hx : x ∈ xs) : ∃ y ∈ ys, R x y := by
  induction h with
  | nil => cases hx
  | cons hfirst _ ih =>
    rcases List.mem_cons.1 hx with rfl | hx
    · exact ⟨_, List.mem_cons_self, hfirst⟩
    · obtain ⟨y, hy, hxy⟩ := ih hx
      exact ⟨y, List.mem_cons_of_mem _ hy, hxy⟩

/-- Each result of an operation on a list is the result on one of its elements. -/
theorem exists_of_mem_mapM {f : α → Except ε β} {xs : List α} {ys : List β}
    (h : xs.mapM f = .ok ys) {y : β} (hy : y ∈ ys) : ∃ x ∈ xs, f x = .ok y :=
  exists_right_of_mem (mapM_eq_ok_iff.1 h).flip hy

/-- The result on each element is among the results on the list. -/
theorem exists_mem_of_mapM {f : α → Except ε β} {xs : List α} {ys : List β}
    (h : xs.mapM f = .ok ys) {x : α} (hx : x ∈ xs) : ∃ y ∈ ys, f x = .ok y :=
  exists_right_of_mem (mapM_eq_ok_iff.1 h) hx

/-- An operation that has a result on each element of a list has one on the list. -/
theorem exists_mapM_eq_ok {f : α → Except ε β} {xs : List α} (h : ∀ x ∈ xs, ∃ y, f x = .ok y) :
    ∃ ys, xs.mapM f = .ok ys := by
  induction xs with
  | nil => exact ⟨[], rfl⟩
  | cons x xs ih =>
    obtain ⟨y, hy⟩ := h x List.mem_cons_self
    obtain ⟨ys, hys⟩ := ih fun x hx => h x (List.mem_cons_of_mem _ hx)
    exact ⟨y :: ys, by rw [List.mapM_cons, hy, ok_bind, hys]; rfl⟩

/-- An operation has a result on each element of a list, or there is a first element where it has
    none. -/
theorem forall₂_ok_or_exists_first (f : α → Except ε β) (xs : List α) :
    (∃ ys, List.Forall₂ (fun x y => f x = .ok y) xs ys) ∨
      ∃ before x after ys e, xs = before ++ x :: after ∧
        List.Forall₂ (fun x y => f x = .ok y) before ys ∧ f x = .error e := by
  induction xs with
  | nil => exact .inl ⟨[], .nil⟩
  | cons x xs ih =>
    cases hx : f x with
    | error e => exact .inr ⟨[], x, xs, [], e, rfl, .nil, hx⟩
    | ok y =>
      rcases ih with hall | hfirst
      · obtain ⟨ys, hys⟩ := hall
        exact .inl ⟨y :: ys, .cons hx hys⟩
      · obtain ⟨before, x', after, ys, e, rfl, hbefore, he⟩ := hfirst
        exact .inr ⟨x :: before, x', after, y :: ys, e, rfl, .cons hx hbefore, he⟩

/-- An operation on a list stops with the error of the first element where it has one. -/
theorem mapM_of_first {f : α → Except ε β} {before after : List α} {x : α} {ys : List β} {e : ε}
    (hbefore : List.Forall₂ (fun x y => f x = .ok y) before ys) (hx : f x = .error e) :
    (before ++ x :: after).mapM f = .error e := by
  rw [List.mapM_append, mapM_eq_ok_iff.2 hbefore, ok_bind, List.mapM_cons, hx]
  rfl

/-- What holds at the start of a fold and is kept by its steps holds at its end. -/
theorem foldlM_preserves {P : α → Prop} {f : α → β → Except ε α}
    (hstep : ∀ a b a', P a → f a b = .ok a' → P a') {bs : List β} {a a' : α} (ha : P a)
    (h : bs.foldlM f a = .ok a') : P a' := by
  induction bs generalizing a with
  | nil =>
    obtain rfl := Except.ok.inj h
    exact ha
  | cons b bs ih =>
    rw [List.foldlM_cons] at h
    obtain ⟨next, hnext, hrest⟩ := bind_eq_ok_iff.1 h
    exact ih (hstep a b next ha hnext) hrest

/-! ## Operations that may be refused -/

@[simp] theorem ofChecked_eq_ok_iff {x : Checked α} {a : α} :
    (Attempt.ofChecked x : Attempt ε α) = .ok a ↔ x = .ok a := by
  cases x <;> simp [Attempt.ofChecked]

@[simp] theorem ofChecked_ok (a : α) :
    (Attempt.ofChecked (.ok a) : Attempt ε α) = .ok a := rfl

/-- Whether an operation ends without a fault: with a result, or refused. -/
def Faultless (x : Attempt ε α) : Prop := ∀ f, x ≠ .error (.fault f)

theorem faultless_ok (a : α) : Faultless (.ok a : Attempt ε α) :=
  fun _ h => nomatch h

theorem faultless_refuse (reason : ε) : Faultless (Attempt.refuse reason : Attempt ε α) :=
  fun _ h => nomatch h

theorem faultless_bind {x : Attempt ε α} {f : α → Attempt ε β} (hx : Faultless x)
    (hf : ∀ a, x = .ok a → Faultless (f a)) : Faultless (x >>= f) := by
  cases hcase : x with
  | ok a => exact hf a hcase
  | error e =>
    intro fault h
    have he : e = .fault fault := Except.error.inj h
    exact hx fault (by rw [hcase, he])

end SpineGrammar
