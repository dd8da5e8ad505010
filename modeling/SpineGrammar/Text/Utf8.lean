/-!
# UTF-8 with gaps

Decoding bytes that may not all belong to characters. A byte that starts no well-formed sequence
is kept as a gap, so what comes before and after it can still be read.
-/

namespace SpineGrammar

/-- A character, or a byte that belongs to none. -/
abbrev Glyph : Type := Option Char

/-- A continuation byte's six bits. -/
def continuation? (b : UInt8) : Option Nat :=
  if 0x80 ≤ b.toNat ∧ b.toNat < 0xC0 then some (b.toNat - 0x80) else none

/-- The character with a code in a range of codes; neither the range nor the surrogates may be
    left. -/
def charWithin? (low high code : Nat) : Option Char :=
  if low ≤ code ∧ code ≤ high ∧ ¬(0xD800 ≤ code ∧ code ≤ 0xDFFF) then some (Char.ofNat code)
  else none

/-- The character that a first byte and the bytes after it spell, and the number of bytes after the
    first that it takes. -/
def charAt? (first : UInt8) (rest : List UInt8) : Option (Char × Nat) :=
  let a := first.toNat
  if a < 0x80 then some (Char.ofNat a, 0)
  else
    match rest.map continuation? with
    | some b :: more =>
      if a < 0xC0 then none
      else if a < 0xE0 then
        (charWithin? 0x80 0x7FF ((a - 0xC0) * 64 + b)).map (·, 1)
      else
        match more with
        | some c :: more =>
          if a < 0xF0 then
            (charWithin? 0x800 0xFFFF ((a - 0xE0) * 4096 + b * 64 + c)).map (·, 2)
          else if a < 0xF8 then
            match more with
            | some d :: _ =>
              (charWithin? 0x10000 0x10FFFF
                ((a - 0xF0) * 262144 + b * 4096 + c * 64 + d)).map (·, 3)
            | _ => none
          else none
        | _ => none
    | _ => none

/-- Decodes bytes, the first `taken` of which belong to a character that was read already. -/
def glyphsFrom : (taken : Nat) → List UInt8 → List Glyph
  | _, [] => []
  | taken + 1, _ :: rest => glyphsFrom taken rest
  | 0, b :: rest =>
    match charAt? b (rest.take 3) with
    | some (c, n) => some c :: glyphsFrom n rest
    | none => none :: glyphsFrom 0 rest

/-- Decodes bytes. -/
def glyphsOfBytes (bytes : List UInt8) : List Glyph := glyphsFrom 0 bytes

/-- The glyphs of a text. -/
def glyphsOfString (s : String) : List Glyph := s.toList.map some

/-- The text that glyphs spell, if they are all characters. -/
def textOfGlyphs? (glyphs : List Glyph) : Option String :=
  (glyphs.mapM id).map String.ofList

end SpineGrammar
