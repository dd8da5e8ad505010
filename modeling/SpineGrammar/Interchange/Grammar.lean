import SpineGrammar.Grammar.Basic
import SpineGrammar.Interchange.Config
import SpineGrammar.Interchange.Record

/-!
# Grammars from files and texts

A grammar is read from a JSON array of records and a TOML document of options. For files the
contents are given as bytes; a file that is missing has none.
-/

namespace SpineGrammar

/-- The options in a file. A missing file gives the defaults. -/
def Config.load (file : Option (List UInt8)) : Except GrammarError Config :=
  match file with
  | none => .ok .default
  | some bytes =>
    match Config.ofBytes? bytes with
    | some c => .ok c
    | none => .error .unreadable

/-- The options in a text. -/
def Config.parse (text : String) : Except GrammarError Config :=
  match Config.ofString? text with
  | some c => .ok c
  | none => .error .undecodable

/-- The records in a text. -/
def TreeRecord.parse (text : String) : Except GrammarError (List TreeRecord) :=
  match TreeRecord.ofString? text with
  | some rs => .ok rs
  | none => .error .undecodable

namespace Grammar

/-- The grammar in a file of records. -/
def load (file : Option (List UInt8)) (config : Config) : Attempt GrammarError Grammar :=
  match file.bind TreeRecord.ofBytes? with
  | some records => ofRecords records config
  | none => Attempt.refuse .unreadable

end Grammar

end SpineGrammar
