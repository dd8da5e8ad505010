import SpineGrammar.Character.Script

/-!
# Extended scripts

Some characters are common to a few scripts only. In the extended sense a script has its own
characters and those, and what is common or inherited has only the characters that no script claims.
-/

namespace SpineGrammar.ScriptExtension

open Charset

/-- The shared characters that scripts claim, by the longest name of the script. -/
def shared : List (String × Charset) :=
  [("adlam", .listed "61F 640 204F 2E41"),
   ("arabic", .listed "60C 61B 61F 640 64B-655 670 204F 2E41 FD3E-FD3F 102E0-102FB"),
   ("armenian", .listed "308"),
   ("avestan", .listed "B7 2E30-2E31"),
   ("bengali", .listed
    "2BC 951-952 964-965 1CD0 1CD2 1CD5-1CD6 1CD8 1CE1 1CEA 1CED 1CF2 1CF5-1CF7 A8F1"),
   ("bopomofo", .listed
    "2C7 2C9-2CB 2D9 3001-3003 3008-3011 3013-301F 302A-302D 3030 3037 30FB FE45-FE46 FF61-FF65"),
   ("buginese", .listed "A9CF"),
   ("buhid", .listed "1735-1736"),
   ("carian", .listed "B7 205A 205D 2E31"),
   ("caucasianalbanian", .listed "304 331 35E"),
   ("chakma", .listed "9E6-9EF 1040-1049"),
   ("cherokee", .listed "300-302 304 30B-30C 323-324 330-331"),
   ("coptic", .listed "B7 300 304-305 307 374-375 2E17 102E0-102FB"),
   ("cypriot", .listed "10100-10102 10107-10133 10137-1013F"),
   ("cyprominoan", .listed "10100-10101"),
   ("cyrillic", .listed "2BC 300-302 304 306 308 30B 311 485-486 1DF8 2E43"),
   ("devanagari", .listed "2BC 951-952 964-965 1CD0-1CF6 1CF8-1CF9 20F0 A830-A839"),
   ("dogra", .listed "964-96F A830-A839"),
   ("duployan", .listed "B7 307-308 30A 323-324 2E3C 1BCA0-1BCA3"),
   ("elbasan", .listed "B7 305"),
   ("ethiopic", .listed "30E"),
   ("garay", .listed "60C 61B 61F"),
   ("georgian", .listed "B7 589 10FB 205A 2E31"),
   ("glagolitic", .listed "B7 303 305 484 487 589 10FB 205A 2E43 A66F"),
   ("gothic", .listed "B7 304-305 308 331"),
   ("grantha", .listed
    "951-952 964-965 BE6-BF3 1CD0 1CD2-1CD3 1CF2-1CF4 1CF8-1CF9 20F0 1133B 11FD0-11FD1 11FD3"),
   ("greek", .listed "B7 300-301 304 306 308 313 342 345 374 1DC0-1DC1 205D"),
   ("gujarati", .listed "951-952 964-965 A830-A839"),
   ("gunjalagondi", .listed "B7 964-965"),
   ("gurmukhi", .listed "951-952 964-965 A830-A839"),
   ("gurungkhema", .listed "965"),
   ("han", .listed
    "B7 2FF0-2FFF 3001-3003 3006 3008-3011 3013-301F 302A-302D 3030 3037 303C-303F 30FB 3190-319F
     31C0-31E5 31EF 3220-3247 3280-32B0 32C0-32CB 32FF 3358-3370 337B-337F 33E0-33FE A700-A707
     FE45-FE46 FF61-FF65 1D360-1D371 1F250-1F251"),
   ("hangul", .listed "3001-3003 3008-3011 3013-301F 3030 3037 30FB FE45-FE46 FF61-FF65"),
   ("hanifirohingya", .listed "60C 61B 61F 640 6D4"),
   ("hanunoo", .listed "1735-1736"),
   ("hebrew", .listed "307-308"),
   ("hiragana", .listed
    "3001-3003 3008-3011 3013-301F 3030-3035 3037 303C-303D 3099-309C 30A0 30FB-30FC FE45-FE46
     FF61-FF65 FF70 FF9E-FF9F"),
   ("javanese", .listed "A9CF"),
   ("kaithi", .listed "966-96F 2E31 A830-A839"),
   ("kannada", .listed "951-952 964-965 1CD0 1CD2-1CD3 1CDA 1CF2 1CF4 A830-A835"),
   ("katakana", .listed
    "305 323 3001-3003 3008-3011 3013-301F 3030-3035 3037 303C-303D 3099-309C 30A0 30FB-30FC
     FE45-FE46 FF61-FF65 FF70 FF9E-FF9F"),
   ("kayahli", .listed "A92E"),
   ("khojki", .listed "AE6-AEF A830-A839"),
   ("khudawadi", .listed "964-965 A830-A839"),
   ("latin", .listed
    "B7 2BC 2C7 2C9-2CB 2CD 2D7 2D9 300-30E 310-311 313 323-325 32D-32E 330-331 358 35E 363-36F
     485-486 951-952 10FB 1DF8 202F 20F0 2E17 A700-A707 A92E"),
   ("limbu", .listed "965"),
   ("lineara", .listed "10107-10133"),
   ("linearb", .listed "10100-10102 10107-10133 10137-1013F"),
   ("lisu", .listed "2BC 2CD 300A-300B"),
   ("lycian", .listed "205A"),
   ("lydian", .listed "B7 2E31"),
   ("mahajani", .listed "B7 964-96F A830-A839"),
   ("malayalam", .listed "951-952 964-965 1CDA 1CF2 A830-A832"),
   ("mandaic", .listed "640"),
   ("manichaean", .listed "640"),
   ("masaramgondi", .listed "964-965"),
   ("meroitichieroglyphs", .listed "205D"),
   ("modi", .listed "A830-A839"),
   ("mongolian", .listed "1802-1803 1805 202F 3001-3002 3008-300B"),
   ("multani", .listed "A66-A6F"),
   ("myanmar", .listed "A92E"),
   ("nandinagari", .listed "951 964-965 CE6-CEF 1CE9 1CF2 1CFA A830-A835"),
   ("newa", .listed "951-952 1CD5 1CD7-1CD8 1CE2 1CE9 1CEB 1CED"),
   ("nko", .listed "60C 61B 61F FD3E-FD3F"),
   ("olonal", .listed "964-965"),
   ("oldhungarian", .listed "205A 205D 2E31 2E41"),
   ("oldpermic", .listed "B7 300 306-308 313 483"),
   ("oldturkic", .listed "205A 2E30"),
   ("olduyghur", .listed "640 10AF2"),
   ("oriya", .listed "951-952 964-965 1CDA 1CF2"),
   ("osage", .listed "301 304 30B 358"),
   ("phagspa", .listed "1802-1803 1805 202F 3002"),
   ("psalterpahlavi", .listed "640"),
   ("runic", .listed "16EB-16ED"),
   ("samaritan", .listed "2E31"),
   ("sharada", .listed "951 1CD7 1CD9 1CDC-1CDD 1CE0 1CEA 1CED A830-A835 A838"),
   ("shavian", .listed "B7"),
   ("sinhala", .listed "964-965 1CF2"),
   ("sogdian", .listed "640"),
   ("sunuwar", .listed "300-301 303 30D 310 32D 331"),
   ("sylotinagri", .listed "964-965 9E6-9EF"),
   ("syriac", .listed
    "303-304 307-308 30A 323-325 32D-32E 330-331 60C 61B-61C 61F 640 64B-655 670 1DF8 1DFA"),
   ("tagalog", .listed "1735-1736"),
   ("tagbanwa", .listed "1735-1736"),
   ("taile", .listed "300-301 307-308 30C 1040-1049"),
   ("takri", .listed "964-965 A830-A839"),
   ("tamil", .listed "951-952 964-965 1CDA A8F3 11301 11303 1133B-1133C"),
   ("tangut", .listed "2FF0-2FFF 31EF"),
   ("telugu", .listed "951-952 964-965 1CD5-1CD6 1CD8 1CDA 1CF2"),
   ("thaana", .listed "60C 61B-61C 61F 660-669 FDF2 FDFD"),
   ("thai", .listed "2BC 2D7 303 331"),
   ("tibetan", .listed "3008-300B"),
   ("tifinagh", .listed "302 304 306-309 323"),
   ("tirhuta", .listed "951-952 964-965 1CD5 1CE2 1CF2 A830-A839"),
   ("todhri", .listed "301 304 307 311 313 35E"),
   ("toto", .listed "2BC"),
   ("tulutigalari", .listed "CE6-CEF 1CF2 1CF4 A830-A835 A8F1"),
   ("yezidi", .listed "60C 61B 61F 660-669"),
   ("yi", .listed "3001-3002 3008-3011 3014-301B 30FB FF61-FF65")]

/-- The shared characters that some script claims. -/
def claimed : Charset := shared.foldr (fun s rest => s.2 ∪ rest) (.listed "")

/-- The characters of a script in the extended sense, where `own` are the characters that belong to
    it alone. -/
def extend (names : List String) (own : Charset) : Charset :=
  if names.contains "common" || names.contains "inherited" then own \ claimed
  else
    match shared.find? fun s => names.contains s.1 with
    | some (_, more) => own ∪ more
    | none => own

/-- The scripts in the extended sense by their names. -/
def table : NamedCharsets := Script.table.map fun s => (s.1, extend s.1 s.2)

end SpineGrammar.ScriptExtension
