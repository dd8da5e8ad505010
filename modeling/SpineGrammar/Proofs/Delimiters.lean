import Mathlib.Data.List.TakeDrop
import SpineGrammar.Text.Numeral

/-!
# Where a stretch of text ends

A stretch of characters of a class ends where a character outside of it follows. So a text that
starts with such a stretch, with a decimal number, or with a list whose items are set off by a
character that none of them has, tells the stretch, the number or the items, and what is left.
-/

namespace SpineGrammar

/-! ## Stretches -/

section Stretches

variable {p : Char → Bool} {w w' rest rest' : List Char}

theorem takeWhile_dropWhile_append (hw : ∀ c ∈ w, p c = true)
    (hrest : ∀ c ∈ rest.head?, p c = false) :
    (w ++ rest).takeWhile p = w ∧ (w ++ rest).dropWhile p = rest := by
  rw [List.takeWhile_append_of_pos hw, List.dropWhile_append_of_pos hw]
  cases rest with
  | nil => simp
  | cons c rest =>
    have hc : p c = false := hrest c rfl
    simp [hc]

/-- A text starts with one stretch only. -/
theorem stretch_inj (hw : ∀ c ∈ w, p c = true) (hw' : ∀ c ∈ w', p c = true)
    (hrest : ∀ c ∈ rest.head?, p c = false) (hrest' : ∀ c ∈ rest'.head?, p c = false)
    (h : w ++ rest = w' ++ rest') : w = w' ∧ rest = rest' := by
  obtain ⟨htake, hdrop⟩ := takeWhile_dropWhile_append hw hrest
  obtain ⟨htake', hdrop'⟩ := takeWhile_dropWhile_append hw' hrest'
  rw [h] at htake hdrop
  exact ⟨htake.symm.trans htake', hdrop.symm.trans hdrop'⟩

end Stretches

/-! ## Numbers -/

theorem toList_repr (k : Nat) : k.repr.toList = Nat.toDigits 10 k := by
  rw [Nat.repr, String.toList_ofList]

theorem isDigit_of_mem_repr {k : Nat} {c : Char} (hc : c ∈ k.repr.toList) : c.isDigit = true := by
  rw [toList_repr] at hc
  exact Nat.isDigit_of_mem_toDigits (by omega) (by omega) hc

theorem exists_repr_eq_cons (k : Nat) : ∃ c tail, k.repr.toList = c :: tail ∧ c.isDigit = true := by
  cases hrepr : k.repr.toList with
  | nil =>
    rw [toList_repr] at hrepr
    exact absurd hrepr Nat.toDigits_ne_nil
  | cons c tail => exact ⟨c, tail, rfl, isDigit_of_mem_repr (hrepr ▸ List.mem_cons_self)⟩

/-- Written in decimal, numbers are stretches of digits, and none is empty. -/
theorem stretches_repr (ks : List Nat) :
    ∀ x ∈ ks.map fun k => k.repr.toList, x ≠ [] ∧ ∀ c ∈ x, c.isDigit = true := by
  intro x hx
  obtain ⟨k, _, rfl⟩ := List.mem_map.1 hx
  obtain ⟨c, tail, hrepr, _⟩ := exists_repr_eq_cons k
  exact ⟨by simp [hrepr], fun c hc => isDigit_of_mem_repr hc⟩

theorem repr_inj {k l : Nat} (h : k.repr.toList = l.repr.toList) : k = l := by
  have hread : ∀ n : Nat, numeral? 10 n.repr.toList = some n := by
    intro n
    rw [toList_repr]
    exact numeral?_toDigits (by omega) (by omega) n
  have hnumeral := hread k
  rw [h, hread l] at hnumeral
  exact (Option.some.inj hnumeral).symm

/-! ## Lists -/

section Lists

variable {p : Char → Bool} {mark : Char} {gap rest rest' : List Char} {xs ys : List (List Char)}

/-- A list with separators is its first item and then each other item behind a separator. -/
theorem intercalate_cons (sep : List Char) (x : List Char) (xs : List (List Char)) :
    sep.intercalate (x :: xs) = x ++ xs.flatMap (sep ++ ·) := by
  induction xs generalizing x with
  | nil => simp [List.intercalate]
  | cons y ys ih =>
    have hstep : sep.intercalate (x :: y :: ys) = x ++ (sep ++ sep.intercalate (y :: ys)) := by
      simp [List.intercalate]
    rw [hstep, ih, List.flatMap_cons, List.append_assoc]

/-- What follows an item is a separator or what follows the list, and neither goes on with it. -/
theorem head?_items (hmark : p mark = false) (hrest : ∀ c ∈ rest.head?, p c = false ∧ c ≠ mark)
    (zs : List (List Char)) : ∀ c ∈ (zs.flatMap (mark :: gap ++ ·) ++ rest).head?, p c = false := by
  intro c hc
  cases zs with
  | nil => exact (hrest c hc).1
  | cons z zs =>
    obtain rfl : mark = c := Option.some.inj hc
    exact hmark

/-- Items behind separators can be told if no item has the first character of the separator, and
    what follows the last one does not start with it. -/
theorem items_inj (hmark : p mark = false) (hxs : ∀ x ∈ xs, ∀ c ∈ x, p c = true)
    (hys : ∀ y ∈ ys, ∀ c ∈ y, p c = true) (hrest : ∀ c ∈ rest.head?, p c = false ∧ c ≠ mark)
    (hrest' : ∀ c ∈ rest'.head?, p c = false ∧ c ≠ mark)
    (h : xs.flatMap (mark :: gap ++ ·) ++ rest = ys.flatMap (mark :: gap ++ ·) ++ rest') :
    xs = ys ∧ rest = rest' := by
  induction xs generalizing ys with
  | nil =>
    cases ys with
    | nil => exact ⟨rfl, h⟩
    | cons y ys =>
      have hhead : mark ∈ rest.head? := by
        rw [List.flatMap_nil, List.nil_append] at h
        simp [h]
      exact absurd rfl (hrest mark hhead).2
  | cons x xs ih =>
    cases ys with
    | nil =>
      have hhead : mark ∈ rest'.head? := by
        rw [List.flatMap_nil, List.nil_append] at h
        simp [← h]
      exact absurd rfl (hrest' mark hhead).2
    | cons y ys =>
      simp only [List.flatMap_cons, List.cons_append, List.append_assoc, List.cons.injEq, true_and,
        List.append_cancel_left_eq] at h
      obtain ⟨hxy, hitems⟩ := stretch_inj (hxs x List.mem_cons_self) (hys y List.mem_cons_self)
        (head?_items hmark hrest xs) (head?_items hmark hrest' ys) h
      obtain ⟨rfl, hrests⟩ := ih (fun z hz => hxs z (List.mem_cons_of_mem x hz))
        (fun z hz => hys z (List.mem_cons_of_mem y hz)) hitems
      exact ⟨by rw [hxy], hrests⟩

/-- A list with separators can be told if its items are not empty. -/
theorem intercalate_inj (hmark : p mark = false) (hxs : ∀ x ∈ xs, x ≠ [] ∧ ∀ c ∈ x, p c = true)
    (hys : ∀ y ∈ ys, y ≠ [] ∧ ∀ c ∈ y, p c = true)
    (hrest : ∀ c ∈ rest.head?, p c = false ∧ c ≠ mark)
    (hrest' : ∀ c ∈ rest'.head?, p c = false ∧ c ≠ mark)
    (h : (mark :: gap).intercalate xs ++ rest = (mark :: gap).intercalate ys ++ rest') :
    xs = ys ∧ rest = rest' := by
  -- Only an empty list shows no item, for an item starts with a character of the class.
  have hstart : ∀ {z : List Char} {zs : List (List Char)} {tail tail' : List Char},
      (z ≠ [] ∧ ∀ c ∈ z, p c = true) → (∀ c ∈ tail.head?, p c = false ∧ c ≠ mark) →
      tail ≠ (mark :: gap).intercalate (z :: zs) ++ tail' := by
    intro z zs tail tail' hz htail heq
    obtain ⟨c, cs, rfl⟩ := List.exists_cons_of_ne_nil hz.1
    have hc : p c = true := hz.2 c List.mem_cons_self
    rw [intercalate_cons] at heq
    rw [(htail c (by rw [heq]; rfl)).1] at hc
    cases hc
  cases xs with
  | nil =>
    cases ys with
    | nil => exact ⟨rfl, h⟩
    | cons y ys => exact absurd h (hstart (hys y List.mem_cons_self) hrest)
  | cons x xs =>
    cases ys with
    | nil => exact absurd h.symm (hstart (hxs x List.mem_cons_self) hrest')
    | cons y ys =>
      rw [intercalate_cons, intercalate_cons, List.append_assoc, List.append_assoc] at h
      obtain ⟨rfl, hitems⟩ := stretch_inj (hxs x List.mem_cons_self).2 (hys y List.mem_cons_self).2
        (head?_items hmark hrest xs) (head?_items hmark hrest' ys) h
      obtain ⟨rfl, hrests⟩ := items_inj hmark
        (fun z hz => (hxs z (List.mem_cons_of_mem _ hz)).2)
        (fun z hz => (hys z (List.mem_cons_of_mem _ hz)).2) hrest hrest' hitems
      exact ⟨rfl, hrests⟩

end Lists

end SpineGrammar
