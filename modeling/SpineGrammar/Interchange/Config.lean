import SpineGrammar.Grammar.Config
import SpineGrammar.Interchange.Semantics
import SpineGrammar.Toml.Reader

/-!
# Options in TOML

Options are read from a TOML document. Keys that mean nothing are ignored, and what is not given
takes its default.
-/

namespace SpineGrammar

namespace Toml

/-- A text. -/
def Item.text? : Item → Option String
  | .value (.text s) => some s
  | _ => none

/-- A truth value. -/
def Item.bool? : Item → Option Bool
  | .value (.bool b) => some b
  | _ => none

/-- A natural number. -/
def Item.nat? : Item → Option Nat
  | .value (.integer (.ofNat n)) => some n
  | _ => none

/-- An array of texts. -/
def Item.texts? : Item → Option (List String)
  | .value (.array items) => items.mapM fun v => (Item.value v).text?
  | _ => none

/-- What is under a key, or a default if there is nothing. -/
def Table.field {α : Type} (t : Table) (key : String) (default : α) (read : Item → Option α) :
    Option α :=
  match t.get? key with
  | some item => read item
  | none => some default

end Toml

namespace Config

/-- The options that a table gives. -/
def ofTable? (t : Toml.Table) : Option Config := do
  let startLabel ← t.field "start_label" default.startLabel (·.text?)
  let whitelist ← t.field "pos_whitelist" default.whitelist fun i => do
    return some (.ofList (← i.texts?))
  let limit ← t.field "limit" default.limit fun i => (i.nat?).map some
  let dedupe ← t.field "dedupe" default.dedupe (·.bool?)
  let treePatterns ← t.field "tree_patterns" default.treePatterns (·.texts?)
  return { startLabel, whitelist, limit, dedupe, treePatterns }

/-- The options that a document gives. -/
def ofString? (text : String) : Option Config := do ofTable? (← Toml.document? text)

/-- The options that the bytes of a document give. -/
def ofBytes? (bytes : List UInt8) : Option Config := do
  ofString? (← String.fromUTF8? ⟨bytes.toArray⟩)

/-- A record with all options. -/
def toJson (c : Config) : Json :=
  .obj [
    ("start_label", .str c.startLabel),
    ("pos_whitelist", .opt (SortedSet.toJson .str) c.whitelist),
    ("limit", .opt .nat c.limit),
    ("dedupe", .bool c.dedupe),
    ("tree_patterns", .strs c.treePatterns)]

end Config

end SpineGrammar
