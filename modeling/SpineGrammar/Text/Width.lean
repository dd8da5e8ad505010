import SpineGrammar.Text.Joining

/-!
# Display width

The number of columns that a text takes up on a display: the sum over its characters, each of
which takes up none, one, two or three, changed where characters join with what follows them.
-/

namespace SpineGrammar

/-- The columns that one character takes up alone. -/
def charWidth (c : Char) : Nat :=
  if c.toNat = 0x17D8 then 3
  else if c.toNat = 0x17A4 then 2
  else if zeroWidthRanges.has c then 0
  else if doubleWidthRanges.has c then 2
  else 1

/-- The change of width that an ASCII or Latin-1 control or an ASCII character makes, and what it is
    to the character before it. Line ends take up no column, other controls do. -/
def narrowWidth (next : Follower) (c : Char) : Int × Follower :=
  if c = '\n' then (0, .plain .lineFeed)
  else if c = '\r' ∧ next = .plain .lineFeed then (0, .none)
  else (1, .none)

/-- The change of width that a character makes before `next`, where a selector for emoji does not
    apply to it, and what it is to the character before it. -/
def widthBefore (next : Follower) (c : Char) : Int × Follower :=
  if c.toNat ≤ 0xA0 then narrowWidth next c
  else if c.toNat = 0xFE0F then (0, next.selectEmoji)
  else if c.toNat = 0xFE0E then (0, next.selectText)
  else if next.textStyle && textStyleRanges.has c then (1, .none)
  else
    let next := next.dropText
    if next.joiner.isLetter && next.joiner != .alef && isSeeThrough c then
      (0, if c = zeroWidthJoiner then .plain next.joiner.linked else next)
    else
      match joined? next.joiner c with
      | some (change, j) => (change, .plain j)
      | none => (charWidth c, .plain (.ofChar c))

/-- The change of width that a character makes before `next`, and what it is to the character before
    it. -/
def widthStep (next : Follower) (c : Char) : Int × Follower :=
  if next.emojiStyle && emojiStyleRanges.has c then
    (if next.joiner = .other then 2 else 0, .plain .emoji)
  else widthBefore next.dropEmoji c

/-- The columns that characters take up, and what they are to a character before them. -/
def widthFrom : List Char → Int × Follower
  | [] => (0, .none)
  | c :: rest =>
    let (width, next) := widthFrom rest
    let (change, f) := widthStep next c
    (width + change, f)

/-- The columns that a text takes up. -/
def displayWidth (s : String) : Nat := (widthFrom s.toList).1.toNat

end SpineGrammar
