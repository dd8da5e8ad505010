import SpineGrammar.Rule

/-!
# Grammar records

A grammar is exchanged as a list of records. Each describes one tree before it gets its words: the
spine, the rules with the addresses of the nodes that they act on, and the words that it was seen
with.
-/

namespace SpineGrammar

/-- An address as it is exchanged: a list of indices, or the dotted form. -/
inductive AddressRecord where
  | indices (a : Address)
  | dotted (text : String)
  deriving DecidableEq, Repr

/-- A rule as it is exchanged. Its slot is a code number, and slot and order may be left out. -/
structure RuleRecord where
  kind : RuleKind
  pos : String
  target : AddressRecord
  slot : Option Int
  order : Option Nat
  role : Option String
  description : Option String
  attachCounts : SortedMap String Nat
  deriving DecidableEq

/-- A tree as it is exchanged. -/
structure TreeRecord where
  /-- The labels of the spine, root first, with brackets or blanks between them. -/
  spine : String
  /-- The word of a tree that has just one. -/
  word : Option String
  /-- How often each word was seen with the tree. -/
  lexicon : Option (SortedMap String Nat)
  treeType : Option String
  predicate : Option String
  rolesetId : Option String
  argCount : Option Nat
  treeId : Option Nat
  rules : List RuleRecord
  deriving DecidableEq

end SpineGrammar
