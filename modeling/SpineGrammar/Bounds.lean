import SpineGrammar.Fault

/-!
# Bounds of numbers

Indices, orders and node ids are kept as natural numbers and read from data only below
`indexBound`; counts only below `countBound`. A sum of counts is taken with a check against the
same bound, and a difference or a stretch of a list with a check that there is one.
-/

namespace SpineGrammar

/-- How many values `bits` bits have. -/
def valuesOf (bits : Nat) : Nat := 1 <<< bits

/-- Indices, orders, ids and record numbers lie below this. -/
def indexBound : Nat := valuesOf 64

/-- Counts lie below this. -/
def countBound : Nat := valuesOf 32

/-- The sum of a list of numbers. -/
def total : List Nat → Nat
  | [] => 0
  | n :: ns => n + total ns

/-- The sum of counts, which has to be a count again. -/
def countSum (counts : List Nat) : Checked Nat :=
  if total counts < countBound then .ok (total counts) else .error .countOverflow

theorem countSum_eq_ok_iff {counts : List Nat} {n : Nat} :
    countSum counts = .ok n ↔ total counts = n ∧ n < countBound := by
  unfold countSum
  split <;> grind

/-- The difference of two numbers, the first of which has to be the larger one. -/
def difference (a b : Nat) : Checked Nat :=
  if b ≤ a then .ok (a - b) else .error .negativeDifference

theorem difference_eq_ok {a b : Nat} (h : b ≤ a) : difference a b = .ok (a - b) := if_pos h

/-- The items of a list from position `start` up to, but not at, position `stop`. -/
def stretch {α : Type} (start stop : Nat) (xs : List α) : Checked (List α) :=
  if start ≤ stop ∧ stop ≤ xs.length then .ok ((xs.drop start).take (stop - start))
  else .error (.badStretch start stop)

theorem stretch_eq_ok {α : Type} {start stop : Nat} {xs : List α} (h : start ≤ stop)
    (hlength : stop ≤ xs.length) :
    stretch start stop xs = .ok ((xs.drop start).take (stop - start)) :=
  if_pos ⟨h, hlength⟩

/-- A quotient of two counts, kept exact. -/
structure Ratio where
  num : Nat
  den : Nat
  deriving DecidableEq, Repr

/-- The double nearest to the quotient of two counts. -/
def Ratio.toFloat (r : Ratio) : Float := r.num.toFloat / r.den.toFloat

end SpineGrammar
