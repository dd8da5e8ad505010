/-!
# Ranges of code points

Classes of characters are given as lists of closed ranges of code points, in ascending order and
with gaps between them. Sets are joined, cut and complemented range by range.
-/

namespace SpineGrammar

/-- Closed ranges of code points. -/
abbrev CodeRanges : Type := List (Nat × Nat)

namespace CodeRanges

/-- Whether a code point lies in one of the ranges. -/
def hasCode (ranges : CodeRanges) (code : Nat) : Bool :=
  ranges.any fun r => Nat.ble r.1 code && Nat.ble code r.2

/-- Whether a character lies in one of the ranges. -/
def has (ranges : CodeRanges) (c : Char) : Bool :=
  ranges.hasCode c.toNat

theorem hasCode_iff {ranges : CodeRanges} {code : Nat} :
    ranges.hasCode code = true ↔ ∃ r ∈ ranges, r.1 ≤ code ∧ code ≤ r.2 := by
  simp [hasCode]

/-! ## Sets -/

/-- The codes of all characters: all code points but the surrogates. -/
def scalars : CodeRanges := [(0, 0xD7FF), (0xE000, 0x10FFFF)]

/-- The set of one character. -/
def single (c : Char) : CodeRanges := [(c.toNat, c.toNat)]

/-- Joins the range from `low` to `high` with the ranges after it, none of which starts below
    `low`. -/
def joinFrom (low high : Nat) : CodeRanges → CodeRanges
  | [] => [(low, high)]
  | (a, b) :: rest =>
    if a ≤ high + 1 then joinFrom low (max high b) rest else (low, high) :: joinFrom a b rest

/-- Joins ranges that touch or overlap, where the ranges are sorted by their first code points. -/
def join : CodeRanges → CodeRanges
  | [] => []
  | (a, b) :: rest => joinFrom a b rest

/-- Whether one range starts before or where another does. -/
def startsBefore (r s : Nat × Nat) : Bool := Nat.ble r.1 s.1

/-- The members of either of two sets. -/
def union (s t : CodeRanges) : CodeRanges := join (s.merge t startsBefore)

/-- The set of some code points. -/
def ofCodes (codes : List Nat) : CodeRanges :=
  join ((codes.map fun c => (c, c)).mergeSort startsBefore)

/-- The members of both of two sets. -/
def inter : CodeRanges → CodeRanges → CodeRanges
  | [], _ => []
  | _ :: _, [] => []
  | (a, b) :: s, (c, d) :: t =>
    let rest := if b < d then inter s ((c, d) :: t) else inter ((a, b) :: s) t
    if max a c ≤ min b d then (max a c, min b d) :: rest else rest
termination_by s t => s.length + t.length

/-- The gaps between ranges from a code point on. -/
def gapsFrom (next : Nat) : CodeRanges → CodeRanges
  | [] => if next ≤ 0x10FFFF then [(next, 0x10FFFF)] else []
  | (a, b) :: rest =>
    if next < a then (next, a - 1) :: gapsFrom (b + 1) rest else gapsFrom (max next (b + 1)) rest

/-- The characters outside of a set. -/
def complement (s : CodeRanges) : CodeRanges := inter (gapsFrom 0 s) scalars

/-- The members of a set that are not in another. -/
def difference (s t : CodeRanges) : CodeRanges := inter s (complement t)

/-- The members of just one of two sets. -/
def symmDiff (s t : CodeRanges) : CodeRanges := union (difference s t) (difference t s)

/-- Whether all members are ASCII characters. -/
def isAscii (s : CodeRanges) : Bool := s.all fun r => Nat.ble r.2 0x7F

end CodeRanges

end SpineGrammar
