import SpineGrammar.Pattern.Basic

/-!
# Building patterns in normal form

A pattern is built from simpler ones so that what means the same looks the same: characters in a row
are one literal, a choice between characters is a set, nothing is strung together with the empty
pattern, and what all branches of a choice start with stands before it. The size of a pattern is
that of its normal form.
-/

namespace SpineGrammar.Pattern

/-- One character of a set, where a set of one character is that character. -/
def ofSet : CodeRanges → Pattern
  | [(low, high)] => if low = high then literal [Char.ofNat low] else set [(low, high)]
  | s => set s

/-! ## Repetition -/

/-- A pattern repeated. Nothing is won by repeating a pattern that matches nothing but the empty
    text. -/
def repeated (p : Pattern) (least : Nat) (most : Option Nat) : Pattern :=
  let bounds : Nat × Option Nat :=
    if p.matchesOnlyEmpty then (min least 1, some (min (most.getD 1) 1)) else (least, most)
  match bounds with
  | (0, some 0) => empty
  | (1, some 1) => p
  | (least, most) => many p least most

/-! ## Sequence -/

/-- Parts in a row, where neighbouring literals are joined. -/
def joinLiterals : List Pattern → List Pattern
  | [] => []
  | p :: ps =>
    match p, joinLiterals ps with
    | literal cs, literal ds :: rest => literal (cs ++ ds) :: rest
    | p, rest => p :: rest

/-- The pattern that strings parts together. -/
def strung : List Pattern → Pattern
  | [] => empty
  | [p] => p
  | p :: ps => seq p (strung ps)

/-- Patterns in a row. -/
def concat (ps : List Pattern) : Pattern := strung (joinLiterals (ps.flatMap parts))

/-! ## Choice -/

/-- The pattern that chooses from branches. -/
def chosen : List Pattern → Pattern
  | [] => nowhere
  | [p] => p
  | p :: ps => alt p (chosen ps)

/-- The character of a literal that is one character long. -/
def char? : Pattern → Option Char
  | literal [c] => some c
  | _ => none

/-- The set of a pattern that is one. -/
def set? : Pattern → Option CodeRanges
  | set s => some s
  | _ => none

/-- The parts that two lists start with. Groups differ even if they look the same. -/
def commonParts : List Pattern → List Pattern → List Pattern
  | p :: ps, q :: qs => if p = q ∧ ¬p.hasGroup then p :: commonParts ps qs else []
  | _, _ => []

/-- The parts that all patterns of a list start with, where all have several parts. -/
def sharedParts : List Pattern → List Pattern
  | [] => []
  | p :: ps =>
    if (p :: ps).all fun q => 1 < q.parts.length then
      ps.foldl (fun shared q => commonParts shared q.parts) p.parts
    else []

/-- A choice between patterns. What they share at their start is taken out, and what is left is a
    choice again; `depth` bounds how often. -/
def choice : (depth : Nat) → List Pattern → Pattern
  | 0, ps => chosen ps
  | depth + 1, ps =>
    let bs := ps.flatMap branches
    match bs with
    | [] => nowhere
    | [p] => p
    | bs =>
      match bs.mapM char?, bs.mapM set? with
      | some cs, _ => ofSet (.ofCodes (cs.map Char.toNat))
      | none, some ss => ofSet (ss.foldl CodeRanges.union [])
      | none, none =>
        match sharedParts bs with
        | [] => chosen bs
        | shared =>
          concat (shared ++
            [choice depth (bs.map fun b => concat (b.parts.drop shared.length))])

end SpineGrammar.Pattern
