import SpineGrammar.Pattern.Normal

/-!
# The size of a pattern

A pattern is searched for by a machine that reads bytes, with repetitions written out, and by one
that reads them backwards. Patterns are refused if a machine would take up too much room. This
module counts the room without building the machines: a state takes 32 bytes, an arc from it 8
bytes if it reads a byte and 4 if it reads nothing.
-/

namespace SpineGrammar

/-! ## Bytes of characters -/

/-- A range of bytes. -/
abbrev ByteRange : Type := Nat × Nat

/-- The bytes of the character with a code. -/
def bytesOfCode (code : Nat) : List Nat :=
  if code < 0x80 then [code]
  else if code < 0x800 then [0xC0 + code / 64, 0x80 + code % 64]
  else if code < 0x10000 then [0xE0 + code / 4096, 0x80 + code / 64 % 64, 0x80 + code % 64]
  else [0xF0 + code / 262144, 0x80 + code / 4096 % 64, 0x80 + code / 64 % 64, 0x80 + code % 64]

/-- Where a range of codes has to be cut so that the bytes of its members run through all
    combinations: at the start of the first whole block of a size that a range begins before, or
    of the last one that it ends in. -/
def cutAt? (low high : Nat) : List Nat → Option Nat
  | [] => none
  | size :: sizes =>
    if low / size = high / size then cutAt? low high sizes
    else if low % size ≠ 0 then some ((low / size + 1) * size)
    else if high % size ≠ size - 1 then some (high / size * size)
    else cutAt? low high sizes

/-- A range of codes with equally many bytes, cut into ranges whose bytes run through all
    combinations; no range is cut more than twice for each byte after the first. -/
def cutRange : (cuts : Nat) → Nat × Nat → List (Nat × Nat)
  | 0, r => [r]
  | cuts + 1, (low, high) =>
    match cutAt? low high [64, 4096, 262144] with
    | some c => cutRange cuts (low, c - 1) ++ cutRange cuts (c, high)
    | none => [(low, high)]

/-- The byte sequences of the characters in a set. -/
def CodeRanges.byteSequences (s : CodeRanges) : List (List ByteRange) :=
  let sameLength : CodeRanges :=
    [(0, 0x7F), (0x80, 0x7FF), (0x800, 0xD7FF), (0xE000, 0xFFFF), (0x10000, 0x10FFFF)]
  ((s.inter sameLength).flatMap (cutRange 6)).map fun r =>
    (bytesOfCode r.1).zip (bytesOfCode r.2)

/-- Sequences with the same first element, without it, by that element. Sequences that begin alike
    stand next to each other. -/
def groupByHead : List (List ByteRange) → List (List (List ByteRange))
  | [] => []
  | [] :: rest => groupByHead rest
  | (b :: bs) :: rest =>
    match rest, groupByHead rest with
    | (c :: _) :: _, g :: gs => if b = c then (bs :: g) :: gs else [bs] :: g :: gs
    | _, gs => [bs] :: gs

/-- The states that read sequences of at most `length` bytes, each given by what it reads. -/
def readerStates : (length : Nat) → List (List ByteRange) → List (List (List ByteRange))
  | 0, _ => []
  | length + 1, seqs =>
    if seqs.all List.isEmpty then [] else seqs :: (groupByHead seqs).flatMap (readerStates length)

/-- The number of sequences' starts that differ. -/
def startsCount : List (List ByteRange) → Nat
  | [] => 0
  | [s] => s.length
  | s :: t :: rest => s.length - sharedLength s t + startsCount (t :: rest)
where
  /-- The number of elements that two sequences begin with alike. -/
  sharedLength : List ByteRange → List ByteRange → Nat
    | a :: s, b :: t => if a = b then sharedLength s t + 1 else 0
    | _, _ => 0

/-! ## Sets -/

/-- The room that a set takes up in the machine that reads forwards. Sequences that go on alike
    share the states that read what is left. -/
def CodeRanges.forwardSize (s : CodeRanges) : Nat :=
  if s.isAscii then 64 + 8 * s.length
  else
    let states := (readerStates 4 s.byteSequences).eraseDups
    32 + total (states.map fun seqs => 32 + 8 * (groupByHead seqs).length)

/-- The room that a set takes up in the machine that reads backwards. Sequences that begin alike
    share the states that read their start. -/
def CodeRanges.backwardSize (s : CodeRanges) : Nat :=
  if s.isAscii then 64 + 8 * s.length
  else
    let seqs := s.byteSequences
    64 + 4 * seqs.length + 32 * startsCount seqs

/-! ## Choices between literals -/

/-- The words of a list up to the first empty one, and those after it if there is one. -/
def untilEmpty : List (List Nat) → List (List Nat) × Option (List (List Nat))
  | [] => ([], none)
  | [] :: rest => ([], some rest)
  | (b :: bs) :: rest => ((b :: bs) :: (untilEmpty rest).1, (untilEmpty rest).2)

/-- The rest of the words that start with a byte. -/
def restsAfter (b : Nat) (words : List (List Nat)) : List (List Nat) :=
  words.filterMap fun
    | [] => none
    | c :: cs => if c = b then some cs else none

/-- The room that a choice between words takes up, without the state at its end. Words that begin
    alike share states, but no word before an empty one shares any with a word after it. Empty words
    at the start count once, unless words before them were `seen`. `fuel` bounds the bytes and the
    words. -/
def wordsSize : (fuel : Nat) → (seen : Bool) → List (List Nat) → Nat
  | 0, _, _ => 0
  | fuel + 1, seen, words =>
    match untilEmpty words with
    | ([], some rest) =>
      4 + wordsSize fuel seen (if seen then rest else rest.dropWhile List.isEmpty)
    | (run, after) =>
      let heads := (run.filterMap List.head?).eraseDups
      let below := heads.map fun b =>
        let rests := restsAfter b run
        if rests.all List.isEmpty then 0 else 32 + wordsSize fuel false rests
      let arcs := if heads.length ≤ 1 then 0 else 8 * heads.length
      let own := if heads.isEmpty then 0 else 36 + arcs
      own + total below + (after.map fun rest => 4 + wordsSize fuel true rest).getD 0

namespace Pattern

/-! ## Patterns -/

/-- The way in which a machine reads a text. -/
inductive Direction where
  | forward
  | backward
  deriving DecidableEq, Repr

/-- The bytes of a literal in the order in which they are read. -/
def literalBytes (d : Direction) (cs : List Char) : List Nat :=
  let bytes := cs.flatMap fun c => bytesOfCode c.toNat
  match d with
  | .forward => bytes
  | .backward => bytes.reverse

/-- The characters of a literal. -/
def literal? : Pattern → Option (List Char)
  | literal cs => some cs
  | _ => none

/-- The room that a set takes up. -/
def setSize (d : Direction) (s : CodeRanges) : Nat :=
  match d with
  | .forward => s.forwardSize
  | .backward => s.backwardSize

/-- The room that a repetition takes up, where `once` is that of the pattern that is repeated. -/
def repetitionSize (once : Nat) (neverBlank : Bool) : (least : Nat) → (most : Option Nat) → Nat
  | 0, some 1 => 72 + once
  | 0, none => if neverBlank then 40 + once else 112 + once
  | least, none => least * once + 40
  | least, some most =>
    let needed := if least = 0 then 32 else least * once
    if least = most then needed else needed + 32 + (most - least) * (40 + once)

/-- The room that a pattern takes up, with the arc that leads to it if it is a branch of a choice
    that is counted already. -/
def sizeIn (d : Direction) (isBranch : Bool) : Pattern → Nat
  | empty | assertion _ => 32 + arc
  | literal cs => 32 * (literalBytes d cs).length + arc
  | set s => setSize d s + arc
  | group p => (if d = .forward then 64 else 0) + p.sizeIn d false + arc
  | seq p q => p.sizeIn d false + q.sizeIn d false + arc
  | alt p q =>
    if isBranch then p.sizeIn d true + q.sizeIn d true
    else
      match (alt p q).branches.mapM literal? with
      | some words =>
        let bytes := words.map (literalBytes d)
        64 + wordsSize (total (bytes.map List.length) + bytes.length + 1) false bytes
      | none => 64 + (p.sizeIn d true + q.sizeIn d true)
  | many p least most =>
    repetitionSize (p.sizeIn d false) (p.minLength?.any (0 < ·)) least most + arc
where
  /-- The room for the arc that leads to a branch. -/
  arc : Nat := if isBranch then 4 else 0

/-- The room that a pattern takes up. -/
def size (d : Direction) (p : Pattern) : Nat := p.sizeIn d false

/-- Whether a pattern matches at the start of a text only. -/
def startsAnchored : Pattern → Bool
  | assertion a => a = .textStart
  | group p => p.startsAnchored
  | seq p q => p.startsAnchored || (p.matchesOnlyEmpty && q.startsAnchored)
  | alt p q => p.startsAnchored && q.startsAnchored
  | many p least _ => 0 < least && p.startsAnchored
  | _ => false

/-- Whether a pattern matches at the end of a text only. -/
def endsAnchored : Pattern → Bool
  | assertion a => a = .textEnd
  | group p => p.endsAnchored
  | seq p q => q.endsAnchored || (q.matchesOnlyEmpty && p.endsAnchored)
  | alt p q => p.endsAnchored && q.endsAnchored
  | many p least _ => 0 < least && p.endsAnchored
  | _ => false

/-- The room that a machine may take up. -/
def sizeLimit : Nat := 10 * valuesOf 20

/-- The room for the states that skip what stands before a match, and for the match itself. -/
def frameSize (anchored : Bool) : Nat := if anchored then 64 else 144

/-- Whether the machines that search for a pattern are small enough. Forwards the whole match is a
    group, too. -/
def fits (p : Pattern) : Bool :=
  frameSize p.startsAnchored + 64 + p.size .forward ≤ sizeLimit &&
    frameSize p.endsAnchored + p.size .backward ≤ sizeLimit

end Pattern

end SpineGrammar
