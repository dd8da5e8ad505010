import SpineGrammar.Pattern.Basic

/-!
# Searching a text

Where a pattern leads in a text. The places of a text of `n` characters are the numbers from `0` to
`n`, and a set of places is kept as the bits of one number, so all places are followed at once. A
pattern is first laid against the text (`Pattern.route`), by which sets and assertions turn into
the places that they hold at; the route then leads from a set of places to the places where matches
that start there can end (`Route.reach`). A text is matched if some match starts somewhere in it.
-/

namespace SpineGrammar

/-- A set of places in a text: place `i` is in it if bit `i` is set. -/
abbrev Places : Type := Nat

namespace Places

/-- The places before the characters that a test holds for. -/
def before (test : Char → Bool) : List Char → Places
  | [] => 0
  | c :: cs => 2 * before test cs + (if test c then 1 else 0)

/-- The places where an assertion holds, where `last` is the character before the text. -/
def holding (a : Assertion) (last : Option Char) : List Char → Places
  | [] => if a.holds last none then 1 else 0
  | c :: cs => 2 * holding a (some c) cs + (if a.holds last (some c) then 1 else 0)

/-- The places of one set that are not in another. -/
def without (s t : Places) : Places := s ^^^ (s &&& t)

/-- All places of a text with a number of characters. -/
def all (size : Nat) : Places := valuesOf (size + 1) - 1

/-- The places that exactly `count` rounds lead to. -/
def afterRounds (round : Places → Places) : (count : Nat) → Places → Places
  | 0, s => s
  | count + 1, s => if s = 0 then 0 else afterRounds round count (round s)

/-- The places that at most `count` rounds lead to, where those of `seen` were reached and those of
    `fresh` in the last round for the first time. -/
def withinRounds (round : Places → Places) : (count : Nat) → (seen fresh : Places) → Places
  | 0, seen, _ => seen
  | count + 1, seen, fresh =>
    let new := (round fresh).without seen
    if new = 0 then seen else withinRounds round count (seen ||| new) new

end Places

/-- A pattern laid against a text. -/
inductive Route where
  | stay
  /-- Past one character from each of the given places. -/
  | step (places : Places)
  /-- On at the given places only. -/
  | check (places : Places)
  | seq (r s : Route)
  | alt (r s : Route)
  | many (r : Route) (least : Nat) (most : Option Nat)
  deriving DecidableEq, Repr

/-- The places that a route leads to. No match takes more rounds that get anywhere than the text
    has characters, so more rounds than places lead where just as many do. -/
def Route.reach (size : Nat) : Route → Places → Places
  | stay, s => s
  | step places, s => (s &&& places) <<< 1
  | check places, s => s &&& places
  | seq r t, s => t.reach size (r.reach size s)
  | alt r t, s => r.reach size s ||| t.reach size s
  | many r least most, s =>
    let start := Places.afterRounds (r.reach size) (min least (size + 1)) s
    let more := match most with
      | some m => min (m - least) (size + 1)
      | none => size + 1
    Places.withinRounds (r.reach size) more start start

namespace Pattern

/-- A pattern laid against a text. -/
def route (text : List Char) : Pattern → Route
  | empty => .stay
  | literal cs => cs.foldr (fun c r => .seq (.step (.before (· == c) text)) r) .stay
  | set s => .step (.before s.has text)
  | assertion a => .check (.holding a none text)
  | group p => p.route text
  | seq p q => .seq (p.route text) (q.route text)
  | alt p q => .alt (p.route text) (q.route text)
  | many p least most => .many (p.route text) least most

/-- The places where matches that start at one of the given places can end. -/
def ends (p : Pattern) (text : List Char) (starts : Places) : Places :=
  (p.route text).reach text.length starts

/-- Whether some part of a text is matched. -/
def matchesIn (p : Pattern) (s : String) : Bool :=
  let text := s.toList
  p.ends text (Places.all text.length) != 0

end Pattern

end SpineGrammar
