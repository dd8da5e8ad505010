import SpineGrammar.Character.Age
import SpineGrammar.Character.ScriptExtension
import SpineGrammar.Character.Segmentation

/-!
# Queries for characters

Sets of characters are asked for by a name alone, which is that of a property, a category or a
script, or by the name of a property and one of its values. Case, blanks, dashes and underscores in
names do not matter, nor does a leading `is`.
-/

namespace SpineGrammar

/-- A query for a set of characters. -/
inductive CharQuery where
  | named (name : String)
  | valued (property value : String)
  deriving DecidableEq, Repr

namespace CharQuery

/-- A name in the form in which the tables have it: small letters of ASCII without blanks, dashes
    and underscores. -/
def plainName (name : String) : String :=
  let cs := name.toList
  let isForm := (cs.take 2).map Char.toLower == ['i', 's']
  let rest := if isForm then cs.drop 2 else cs
  let kept := rest.filter fun c =>
    c.toNat < 0x80 && c != ' ' && c != '_' && c != '-'
  let plain := String.ofList (kept.map Char.toLower)
  -- The property of that name is not the category `c`.
  if isForm && plain == "c" then "isc" else plain

/-- The set that a name alone stands for. -/
def setNamed? (name : String) : Option Charset :=
  Property.table.find? name <|> Category.table.find? name <|> Script.table.find? name

/-- The set of the characters for which a property has a value. -/
def setValued? (property value : String) : Option Charset :=
  match property with
  | "gc" | "generalcategory" => Category.table.find? value
  | "sc" | "script" => Script.table.find? value
  | "scx" | "scriptextensions" => ScriptExtension.table.find? value
  | "age" => Age.find? value
  | "gcb" | "graphemeclusterbreak" => GraphemeBreak.table.find? value
  | "wb" | "wordbreak" => WordBreak.table.find? value
  | "sb" | "sentencebreak" => SentenceBreak.table.find? value
  | _ => none

/-- The set that a query asks for. -/
def set? : CharQuery → Option Charset
  | named name => setNamed? (plainName name)
  | valued property value => setValued? (plainName property) (plainName value)

end CharQuery

end SpineGrammar
