import SpineGrammar.Pattern.Escape

/-!
# Classes in brackets

Sets of characters written in brackets, with ranges, nested classes and set operations. A class is
read together with its height, the number of levels on which it is nested.
-/

namespace SpineGrammar.Pattern

/-- The ASCII classes that a name in `[:name:]` stands for. -/
def asciiClass? : String → Option CodeRanges
  | "alnum" => some [(0x30, 0x39), (0x41, 0x5A), (0x61, 0x7A)]
  | "alpha" => some [(0x41, 0x5A), (0x61, 0x7A)]
  | "ascii" => some [(0x00, 0x7F)]
  | "blank" => some [(0x09, 0x09), (0x20, 0x20)]
  | "cntrl" => some [(0x00, 0x1F), (0x7F, 0x7F)]
  | "digit" => some [(0x30, 0x39)]
  | "graph" => some [(0x21, 0x7E)]
  | "lower" => some [(0x61, 0x7A)]
  | "print" => some [(0x20, 0x7E)]
  | "punct" => some [(0x21, 0x2F), (0x3A, 0x40), (0x5B, 0x60), (0x7B, 0x7E)]
  | "space" => some [(0x09, 0x0D), (0x20, 0x20)]
  | "upper" => some [(0x41, 0x5A)]
  | "word" => some asciiWordRanges
  | "xdigit" => some [(0x30, 0x39), (0x41, 0x46), (0x61, 0x66)]
  | _ => none

/-- A class `[:name:]` or `[:^name:]` after its opening bracket: whether it is negated, the set and
    what follows. -/
def namedClass? (cs : List Char) : Option (Bool × CodeRanges × List Char) :=
  match cs with
  | ':' :: rest =>
    let (negated, rest) := match rest with
      | '^' :: rest => (true, rest)
      | rest => (false, rest)
    match rest.dropWhile (· ≠ ':') with
    | ':' :: ']' :: after =>
      (asciiClass? (String.ofList (rest.takeWhile (· ≠ ':')))).map fun s => (negated, s, after)
    | _ => none
  | _ => none

/-! ## The part that was read -/

/-- The operations between the parts of a class. -/
inductive ClassOp where
  | inter
  | difference
  | symmDiff
  deriving DecidableEq, Repr

/-- An operation on two sets. -/
def ClassOp.apply : ClassOp → CodeRanges → CodeRanges → CodeRanges
  | inter, s, t => s.inter t
  | difference, s, t => s.difference t
  | symmDiff, s, t => s.symmDiff t

/-- A set, and the number of levels on which its notation is nested. -/
structure ClassPart where
  set : CodeRanges
  height : Nat
  deriving DecidableEq, Repr

/-- The part of a class that was read: what stands before the last operation, and the number and
    the union of the items after it. -/
structure ClassSoFar where
  left : Option (ClassPart × ClassOp)
  count : Nat
  items : ClassPart
  deriving DecidableEq, Repr

namespace ClassSoFar

/-- Nothing was read yet. -/
def start : ClassSoFar := ⟨none, 0, ⟨[], 0⟩⟩

/-- One more item. -/
def add (a : ClassSoFar) (p : ClassPart) : ClassSoFar :=
  { a with
    count := a.count + 1
    items := ⟨a.items.set.union p.set, max a.items.height p.height⟩ }

/-- All that was read. Where case does not matter, it does not matter in each operand. -/
def result (f : Flags) (a : ClassSoFar) : ClassPart :=
  let items := { a.items with height := a.items.height + (if 2 ≤ a.count then 1 else 0) }
  match a.left with
  | none => items
  | some (left, op) =>
    ⟨op.apply (f.close left.set) (f.close items.set), 1 + max left.height items.height⟩

/-- An operation, which applies to all that was read. -/
def operate (f : Flags) (a : ClassSoFar) (op : ClassOp) : ClassSoFar :=
  ⟨some (a.result f, op), 0, ⟨[], 0⟩⟩

end ClassSoFar

/-! ## Items -/

/-- A character or escape inside a class. -/
def classItem? (f : Flags) : List Char → Option (Escape × List Char)
  | [] => none
  | '\\' :: rest => Escape.read? f rest
  | c :: rest => some (.char c, rest)

/-- The set of the characters from one to another; in a mode that knows ASCII only both are. -/
def rangeSet? (f : Flags) (a b : Char) : Option CodeRanges :=
  if a ≤ b ∧ (f.unicode ∨ b.toNat < 0x80) then some [(a.toNat, b.toNat)] else none

/-- The set that an item of a class stands for; a condition has none. -/
def itemSet? (f : Flags) : Escape → Option CodeRanges
  | .char c => rangeSet? f c c
  | .set s => some s
  | .assertion _ => none

/-- One item of a class or one range. A dash before the closing bracket or another dash makes no
    range. -/
def itemOrRange? (f : Flags) (cs : List Char) : Option (CodeRanges × List Char) := do
  let (first, rest) ← classItem? f cs
  match f.skip rest with
  | '-' :: after =>
    if f.next? after == some ']' || f.next? after == some '-' then
      return (← itemSet? f first, '-' :: after)
    else
      match first, ← classItem? f (f.skip after) with
      | .char a, (.char b, rest) => return (← rangeSet? f a b, rest)
      | _, _ => none
  | rest => return (← itemSet? f first, rest)

/-- The dashes that a class starts with, which stand for themselves. -/
def leadingDashes (f : Flags) (a : ClassSoFar) : (cs : List Char) → ClassSoFar × List Char
  | '-' :: rest =>
    let dashes := f.takeWhile (· == '-') rest
    ((dashes.1.foldl (fun a _ => a.add ⟨.single '-', 0⟩) (a.add ⟨.single '-', 0⟩)), dashes.2)
  | rest => (a, rest)

/-! ## Classes -/

mutual

/-- A class after its opening bracket. -/
def classBody? (f : Flags) : (fuel : Nat) → List Char → Option (ClassPart × List Char)
  | 0, _ => none
  | fuel + 1, cs => do
    let (negated, rest) := match f.skip cs with
      | '^' :: rest => (true, f.skip rest)
      | rest => (false, rest)
    -- A class has at least one item, so a bracket right at its start stands for itself.
    let (a, rest) := match rest with
      | ']' :: rest => (ClassSoFar.start.add ⟨.single ']', 0⟩, rest)
      | rest => leadingDashes f .start rest
    let (p, rest) ← classRest? f fuel a rest
    return (⟨← f.negate? negated (f.close p.set), p.height + 1⟩, rest)

/-- The rest of a class of which something was read. -/
def classRest? (f : Flags) : (fuel : Nat) → ClassSoFar → List Char →
    Option (ClassPart × List Char)
  | 0, _, _ => none
  | fuel + 1, a, cs =>
    match f.skip cs with
    | [] => none
    | ']' :: rest => some (a.result f, rest)
    | '[' :: rest =>
      match namedClass? rest with
      | some (negated, s, rest) => do
        classRest? f fuel (a.add ⟨← f.negate? negated (f.close s), 0⟩) rest
      | none => do
        let (p, rest) ← classBody? f fuel rest
        classRest? f fuel (a.add p) rest
    | '&' :: '&' :: rest => classRest? f fuel (a.operate f .inter) rest
    | '-' :: '-' :: rest => classRest? f fuel (a.operate f .difference) rest
    | '~' :: '~' :: rest => classRest? f fuel (a.operate f .symmDiff) rest
    | cs => do
      let (s, rest) ← itemOrRange? f cs
      classRest? f fuel (a.add ⟨s, 0⟩) rest

end

/-- A class after its opening bracket. -/
def class? (f : Flags) (cs : List Char) : Option (ClassPart × List Char) :=
  classBody? f (2 * cs.length + 2) cs

end SpineGrammar.Pattern
