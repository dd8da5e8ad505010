import SpineGrammar.Text.WidthTable

/-!
# Characters that join

Some characters take up less or more room than they do alone because of what follows them: they
join into one letter, one syllable or one emoji with it, or a selector after them changes their
style. Widths are found from the end of a text to its start. What was found to follow is kept as a
`Follower`, and `joined?` says what becomes of a character in front of it.
-/

namespace SpineGrammar

/-- Whether the code of a character is in a range. -/
def codeIn (low high : Nat) (c : Char) : Bool := low ≤ c.toNat && c.toNat ≤ high

/-- What follows a character, as far as the width of the character may depend on it. -/
inductive Joiner where
  | other
  | lineFeed
  /-- A modifier of skin tone. -/
  | modifier
  /-- A letter of a flag. -/
  | flagLetter
  | flagLetters
  | emoji
  /-- An emoji, an emoji behind a keycap, and flags that a zero width joiner was put before. -/
  | linkedEmoji
  | linkedKeycap
  | linkedFlagLetter
  | linkedFlag
  | linkedFlagAndLetter
  /-- The end of a sequence of tags, with so many digits or so many letters before it. -/
  | tagDigits (count : Nat)
  | tagLetters (count : Nat)
  | tagEnd
  /-- Vowels of Kirat Rai. -/
  | vowelE
  | vowelAi
  /-- Arabic alef. -/
  | alef
  /-- Hebrew lamed, without and with a zero width joiner. -/
  | lamed
  | linkedLamed
  /-- Buginese ya, without and with a zero width joiner and with a vowel sign before that. -/
  | ya
  | linkedYa
  | vowelSignYa
  /-- A consonant of Tifinagh, without and with a zero width joiner, and with the joiner of the
      script. -/
  | consonant
  | linkedConsonant
  | joinedConsonant
  /-- A tone letter of Lisu that may end a pair. -/
  | toneLetter
  /-- Old Turkic orkhon i, without and with a zero width joiner. -/
  | orkhonI
  | linkedOrkhonI
  /-- A Khmer letter that may stand below another one. -/
  | subscriptLetter
  deriving DecidableEq, Repr

namespace Joiner

/-- Whether characters of a script join here, as opposed to emoji. -/
def isLetter : Joiner → Bool
  | alef | lamed | linkedLamed | ya | linkedYa | vowelSignYa | consonant | linkedConsonant
  | joinedConsonant | toneLetter | orkhonI | linkedOrkhonI | subscriptLetter => true
  | _ => false

/-- Whether a selector before it leaves it as it is. -/
def keepsSelector (j : Joiner) : Bool := j.isLetter || j == linkedEmoji || j == linkedKeycap

/-- What it becomes with a zero width joiner before it. -/
def linked : Joiner → Joiner
  | lamed => linkedLamed
  | ya => linkedYa
  | consonant => linkedConsonant
  | orkhonI => linkedOrkhonI
  | j => j

/-- What a character is for the one before it. -/
def ofChar (c : Char) : Joiner :=
  let code := c.toNat
  if code = 0x5DC then lamed
  else if code = 0x622 ∨ code = 0x623 ∨ code = 0x625 ∨ code = 0x627 ∨ codeIn 0x671 0x673 c
      ∨ code = 0x675 ∨ codeIn 0x773 0x774 c ∨ codeIn 0x870 0x882 c then alef
  else if isSubscript code then subscriptLetter
  else if code = 0x1A10 then ya
  else if codeIn 0x2D31 0x2D65 c ∨ code = 0x2D6F then consonant
  else if codeIn 0xA4FC 0xA4FD c then toneLetter
  else if code = 0x10C03 then orkhonI
  else if code = 0x16D67 then vowelE
  else if code = 0x16D68 then vowelAi
  else if codeIn 0x1F1E6 0x1F1FF c then flagLetter
  else if codeIn 0x1F3FB 0x1F3FF c then modifier
  else if emojiRanges.has c then emoji
  else other
where
  /-- The Khmer letters that may stand below another one. -/
  isSubscript (code : Nat) : Bool :=
    0x1780 ≤ code && code ≤ 0x17AF &&
      !([0x1783, 0x1788, 0x178D, 0x1794, 0x1799, 0x179A, 0x179E, 0x179F, 0x17A1, 0x17A3, 0x17A4,
        0x17A5, 0x17A6, 0x17A8, 0x17A9, 0x17AA, 0x17AD, 0x17AE].contains code)

end Joiner

/-- What follows a character, and whether a variation selector for emoji or for text stands before
    it. -/
structure Follower where
  joiner : Joiner
  emojiStyle : Bool
  textStyle : Bool
  deriving DecidableEq, Repr

namespace Follower

/-- A follower without selectors. -/
def plain (j : Joiner) : Follower := ⟨j, false, false⟩

/-- Nothing, or nothing that matters. -/
def none : Follower := plain .other

/-- What it becomes with the selector for emoji before it. -/
def selectEmoji (f : Follower) : Follower :=
  if f.joiner.keepsSelector then { f with emojiStyle := true } else ⟨.other, true, false⟩

/-- What it is to a character that the selector for emoji does not apply to. -/
def dropEmoji (f : Follower) : Follower :=
  if ¬f.emojiStyle then f
  else if f.joiner.isLetter then { f with emojiStyle := false }
  else none

/-- What it becomes with the selector for text before it. -/
def selectText (f : Follower) : Follower :=
  if f.joiner.isLetter then { f with textStyle := true } else ⟨.other, false, true⟩

/-- What it is to a character that the selector for text does not apply to. -/
def dropText (f : Follower) : Follower := { f with textStyle := false }

end Follower

/-- The zero width joiner. -/
def zeroWidthJoiner : Char := '\u200d'

/-- Whether a character may stand inside of joined letters without a change. -/
def isSeeThrough (c : Char) : Bool :=
  c.toNat == 0x34F || codeIn 0x17B4 0x17B5 c || codeIn 0x180B 0x180D c || c.toNat == 0x180F
    || c == zeroWidthJoiner || codeIn 0xFE00 0xFE0F c || codeIn 0xE0100 0xE01EF c

/-- Whether an Arabic letter joins with an alef after it. -/
def isLam (c : Char) : Bool :=
  c.toNat == 0x644 || codeIn 0x6B5 0x6B8 c || c.toNat == 0x76A || c.toNat == 0x8A6
    || c.toNat == 0x8C7

/-- Whether a character is a consonant of Tifinagh. -/
def isTifinagh (c : Char) : Bool := codeIn 0x2D31 0x2D65 c || c.toNat == 0x2D6F

/-- Whether a character is a letter of a flag. -/
def isFlagLetter (c : Char) : Bool := codeIn 0x1F1E6 0x1F1FF c

/-- Whether a character takes up no column and lets letters join across it. -/
def isTransparent (c : Char) : Bool := zeroWidthRanges.has c && !opaqueRanges.has c

/-- The change of width that a character of a script makes before what it joins with, and what both
    are to the character before them. -/
def joinedLetter? (next : Joiner) (c : Char) : Option (Int × Joiner) :=
  match next with
  | .alef =>
    if isLam c then some (0, .other)
    else if isTransparent c then some (0, .alef)
    else none
  | .linkedLamed => if c.toNat = 0x5D0 then some (0, .other) else none
  | .subscriptLetter => if c.toNat = 0x17D2 then some (-1, .other) else none
  | .linkedYa => if c.toNat = 0x1A17 then some (0, .vowelSignYa) else none
  | .vowelSignYa => if c.toNat = 0x1A15 then some (0, .other) else none
  | .consonant => if c.toNat = 0x2D7F then some (1, .joinedConsonant) else none
  | .linkedConsonant =>
    if c.toNat = 0x2D7F then some (1, .joinedConsonant)
    else if isTifinagh c then some (0, .other)
    else none
  | .joinedConsonant => if isTifinagh c then some (-1, .other) else none
  | .toneLetter => if codeIn 0xA4F8 0xA4FB c then some (0, .other) else none
  | .linkedOrkhonI => if c.toNat = 0x10C32 then some (0, .other) else none
  | .vowelE =>
    if c.toNat = 0x16D63 then some (0, .other)
    else if c.toNat = 0x16D67 then some (0, .vowelAi)
    else if c.toNat = 0x16D68 then some (1, .vowelE)
    else if c.toNat = 0x16D69 then some (0, .other)
    else none
  | .vowelAi => if c.toNat = 0x16D63 then some (0, .other) else none
  | _ => none

/-- The same for the letters and digits of a tag, which are read from its end and have to follow a
    black flag. Three to six letters make a tag, or up to four letters after three digits. -/
def joinedTag? (next : Joiner) (c : Char) : Option (Int × Joiner) :=
  let isLetter := codeIn 0xE0061 0xE007A c
  let isDigit := codeIn 0xE0030 0xE0039 c
  let isFlag := c.toNat == 0x1F3F4
  match next with
  | .tagEnd =>
    if isLetter then some (0, .tagLetters 1)
    else if isDigit then some (0, .tagDigits 1)
    else none
  | .tagLetters count =>
    if isLetter && count < 6 then some (0, .tagLetters (count + 1))
    else if isDigit && count < 5 then some (0, .tagDigits 1)
    else if isFlag && 3 ≤ count then some (0, .emoji)
    else none
  | .tagDigits count =>
    if isDigit && count < 3 then some (0, .tagDigits (count + 1))
    else if isFlag && count = 3 then some (0, .emoji)
    else none
  | _ => none

/-- The same for emoji with modifiers, flags, and emoji with zero width joiners between them. -/
def joinedEmoji? (next : Joiner) (c : Char) : Option (Int × Joiner) :=
  match next with
  | .modifier =>
    if modifierBaseRanges.has c then some (0, .emoji)
    else if c = zeroWidthJoiner then some (0, .linkedEmoji)
    else none
  | .flagLetter => if isFlagLetter c then some (1, .flagLetters) else none
  | .flagLetters =>
    if isFlagLetter c then some (1, .flagLetters)
    else if c = zeroWidthJoiner then some (0, .linkedEmoji)
    else none
  | .emoji => if c = zeroWidthJoiner then some (0, .linkedEmoji) else none
  | .linkedEmoji =>
    if c.toNat = 0x20E3 then some (0, .linkedKeycap)
    else if isFlagLetter c then some (1, .linkedFlagLetter)
    else if codeIn 0x1F3FB 0x1F3FF c then some (0, .modifier)
    else if c.toNat = 0xE007F then some (0, .tagEnd)
    else if Joiner.ofChar c = .emoji then some (0, .emoji)
    else none
  | .linkedFlagLetter => if isFlagLetter c then some (-1, .linkedFlag) else none
  | .linkedFlag =>
    if isFlagLetter c then some (3, .linkedFlagAndLetter)
    else if c = zeroWidthJoiner then some (0, .linkedEmoji)
    else none
  | .linkedFlagAndLetter =>
    if isFlagLetter c then some (-1, .linkedFlag)
    else if c = zeroWidthJoiner then some (0, .linkedEmoji)
    else none
  | _ => none

/-- The change of width that a character makes before what it joins with, and what both are to the
    character before them; nothing if the character does not join. -/
def joined? (next : Joiner) (c : Char) : Option (Int × Joiner) :=
  ((joinedLetter? next c).or (joinedTag? next c)).or (joinedEmoji? next c)

end SpineGrammar
