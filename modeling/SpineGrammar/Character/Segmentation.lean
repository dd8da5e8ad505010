import SpineGrammar.Character.Property

/-!
# Segmentation classes

The classes by which text is cut into what readers take for one character, into words and into
sentences.
-/

namespace SpineGrammar

namespace Charset

/-- The carriage return. -/
def carriageReturn : Charset := .listed "D"

/-- The line feed. -/
def lineFeed : Charset := .listed "A"

/-- The zero width joiner. -/
def zeroWidthJoiner : Charset := .listed "200D"

end Charset

open Charset Category Property

namespace GraphemeBreak

/-- Characters that stand alone. -/
def control : Charset := .listed
  "0-9 B-C E-1F 7F-9F AD 61C 180E 200B 200E-200F 2028-202E 2060-206F FEFF FFF0-FFFB 13430-1343F
    1BCA0-1BCA3 1D173-1D17A E0000-E001F E0080-E00FF E01F0-E0FFF"

/-- Characters that go on with the one before them. -/
def extend : Charset := graphemeExtend ∪ emojiModifier

/-- Characters that go on with the one after them. -/
def prepend : Charset := .listed
  "600-605 6DD 70F 890-891 8E2 D4E 110BD 110CD 111C2-111C3 113D1 1193F 11941 11A3A 11A84-11A89
    11D46 11F02"

/-- Marks with a width of their own that go on with the character before them. -/
def spacingMark : Charset :=
  ((Category.spacingMark \ graphemeExtend) ∪ .listed "E33 EB3") \ .listed
    "102B-102C 1038 1062-1064 1067-106D 1083 1087-108C 108F 109A-109C 1A61 1A63-1A64 AA7B AA7D
      11720-11721"

/-- Hangul syllables without a final consonant. -/
def openSyllable : Charset := .stepped 0xAC00 28 399

/-- Hangul syllables with a final consonant. -/
def closedSyllable : Charset := .listed "AC00-D7A3" \ openSyllable

/-- The classes by their names. -/
def table : NamedCharsets :=
  [(["cr"], carriageReturn),
   (["lf"], lineFeed),
   (["cn", "control"], control),
   (["ex", "extend"], extend),
   (["zwj"], zeroWidthJoiner),
   (["ri", "regionalindicator"], regionalIndicator),
   (["pp", "prepend"], prepend),
   (["sm", "spacingmark"], spacingMark),
   (["l"], .listed "1100-115F A960-A97C"),
   (["v"], .listed "1160-11A7 D7B0-D7C6 16D63 16D67-16D6A"),
   (["t"], .listed "11A8-11FF D7CB-D7FB"),
   (["lv"], openSyllable),
   (["lvt"], closedSyllable)]

end GraphemeBreak

namespace WordBreak

/-- Characters that go on with the one before them. -/
def extend : Charset := (graphemeExtend ∪ spacingMark ∪ emojiModifier) \ zeroWidthJoiner

/-- Signs before numerals that hold them together. -/
def numberSign : Charset := prependedMark \ .listed "70F"

/-- Digits and what stands inside numbers. -/
def numeric : Charset := decimalNumber ∪ numberSign ∪ .listed "66B"

/-- Characters that direct the layout and are not seen. -/
def invisible : Charset := format \ (prependedMark ∪ .listed "200B-200D E0020-E007F")

/-- Letters of Hebrew. -/
def hebrewLetter : Charset := .listed
  "5D0-5EA 5EF-5F2 FB1D FB1F-FB28 FB2A-FB36 FB38-FB3C FB3E FB40-FB41 FB43-FB44 FB46-FB4F"

/-- Letters of Katakana. -/
def katakana : Charset := .listed
  "3031-3035 309B-309C 30A0-30FA 30FC-30FF 31F0-31FF 32D0-32FE 3300-3357 FF66-FF9D 1AFF0-1AFF3
    1AFF5-1AFFB 1AFFD-1AFFE 1B000 1B120-1B122 1B155 1B164-1B167"

/-- Signs that count as letters. -/
def letterLike : Charset := .listed
  "2C2-2C5 2D2-2D7 2DE-2DF 2E5-2EB 2ED 2EF-2FF 55A-55C 55E 58A 5F3 70F A708-A716 A720-A721
    A789-A78A AB5B"

/-- Letters of scripts that are written without blanks between words. -/
def unspacedLetter : Charset := .listed
  "E01-E30 E32-E33 E40-E46 E81-E82 E84 E86-E8A E8C-EA3 EA5 EA7-EB0 EB2-EB3 EBD EC0-EC4 EC6
    EDC-EDF 1000-102A 103F 1050-1055 105A-105D 1061 1065-1066 106E-1070 1075-1081 108E 1780-17B3
    17D7 17DC 1950-196D 1970-1974 1980-19AB 19B0-19C9 1A20-1A54 1AA7 3041-3096 309D-309F
    A9E0-A9E4 A9E6-A9EF A9FA-A9FE AA60-AA76 AA7A AA7E-AAAF AAB1 AAB5-AAB6 AAB9-AABD AAC0 AAC2
    AADB-AADD 11700-1171A 11740-11746 1B001-1B11F 1B132 1B150-1B152"

/-- Letters of other scripts. -/
def aLetter : Charset :=
  (alphabetic ∪ letterLike) \ (ideographic ∪ extend ∪ katakana ∪ hebrewLetter ∪ unspacedLetter)

/-- The classes by their names. -/
def table : NamedCharsets :=
  [(["cr"], carriageReturn),
   (["lf"], lineFeed),
   (["nl", "newline"], .listed "B-C 85 2028-2029"),
   (["extend"], extend),
   (["zwj"], zeroWidthJoiner),
   (["ri", "regionalindicator"], regionalIndicator),
   (["fo", "format"], invisible),
   (["ka", "katakana"], katakana),
   (["hl", "hebrewletter"], hebrewLetter),
   (["le", "aletter"], aLetter),
   (["sq", "singlequote"], .listed "27"),
   (["dq", "doublequote"], .listed "22"),
   (["mb", "midnumlet"], .listed "2E 2018-2019 2024 FE52 FF07 FF0E"),
   (["ml", "midletter"], .listed "3A B7 387 55F 5F4 2027 FE13 FE55 FF1A"),
   (["mn", "midnum"], .listed "2C 3B 37E 589 60C-60D 66C 7F8 2044 FE10 FE14 FE50 FE54 FF0C FF1B"),
   (["nu", "numeric"], numeric),
   (["ex", "extendnumlet"], connectorPunctuation ∪ .listed "202F"),
   (["wsegspace"], .listed "20 1680 2000-2006 2008-200A 205F 3000")]

end WordBreak

namespace SentenceBreak

/-- Characters that go on with the one before them. -/
def extend : Charset := graphemeExtend ∪ spacingMark ∪ zeroWidthJoiner

/-- Small letters. -/
def lower : Charset := lowercase \ (graphemeExtend ∪ .listed "10D0-10FA 10FD-10FF")

/-- Capital letters. -/
def upper : Charset := (uppercase ∪ titlecaseLetter) \ .listed "1C90-1CBA 1CBD-1CBF"

/-- Letters without case. -/
def otherLetter : Charset := (alphabetic \ (lower ∪ upper ∪ extend)) ∪ .listed "5F3"

/-- Marks that may end a sentence or an abbreviation. -/
def ambiguousTerminal : Charset := .listed "2E 2024 FE52 FF0E"

/-- Brackets and quotation marks. -/
def close : Charset :=
  (openPunctuation ∪ closePunctuation ∪ initialPunctuation ∪ finalPunctuation ∪ quotationMark ∪
    .listed "275B-2760 2E00-2E01 2E06-2E08 2E0B 1F676-1F678") \ .listed "FF02 FF07"

/-- The classes by their names. -/
def table : NamedCharsets :=
  [(["cr"], carriageReturn),
   (["lf"], lineFeed),
   (["ex", "extend"], extend),
   (["se", "sep"], .listed "85 2028-2029"),
   (["fo", "format"], WordBreak.invisible ∪ .listed "70F 200B"),
   (["sp"], .listed "9 B-C 20 A0 1680 2000-200A 202F 205F 3000"),
   (["lo", "lower"], lower),
   (["up", "upper"], upper),
   (["le", "oletter"], otherLetter),
   (["nu", "numeric"], WordBreak.numeric ∪ .listed "66C"),
   (["at", "aterm"], ambiguousTerminal),
   (["sc", "scontinue"], .listed
    "2C-2D 3A-3B 37E 55D 60C-60D 7F8 1802 1808 2013-2014 3001 FE10-FE11 FE13-FE14 FE31-FE32
     FE50-FE51 FE54-FE55 FE58 FE63 FF0C-FF0D FF1A-FF1B FF64"),
   (["st", "sterm"], sentenceTerminal \ ambiguousTerminal),
   (["cl", "close"], close)]

end SentenceBreak

end SpineGrammar
