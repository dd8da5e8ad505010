import SpineGrammar.Pattern.Reader
import SpineGrammar.Pattern.Search
import SpineGrammar.Sorted.Set

/-!
# Options of a grammar

Which records are read into a grammar, and where derivations start. Trees may be limited to given
labels and to given shapes; the shapes are patterns over the bracketed text, in whatever language
of patterns there is.
-/

namespace SpineGrammar

/-- A language of patterns. All that is used of a pattern is which text it is read from and which
    texts it matches. -/
structure Matcher where
  Pattern : Type
  read? : String → Option Pattern
  matchesIn : Pattern → String → Bool

/-- The language that `Pattern` is for. -/
abbrev Pattern.matcher : Matcher := ⟨Pattern, Pattern.ofString?, Pattern.matchesIn⟩

/-- The options for building a grammar from records. -/
structure Config where
  /-- The root label of trees that a derivation may start from. -/
  startLabel : String
  /-- The labels that trees and rules may have; any if it is not given. -/
  whitelist : Option (SortedSet String)
  /-- The number of records that are read; all if it is not given. -/
  limit : Option Nat
  /-- Whether a tree that was seen before is dropped. -/
  dedupe : Bool
  /-- Patterns of which a tree has to match one, if there is any. -/
  treePatterns : List String
  deriving DecidableEq

namespace Config

/-- The options that hold where nothing else is said. -/
def default : Config := ⟨"S", none, none, true, []⟩

instance : Inhabited Config := ⟨default⟩

/-- Whether all labels of a set are allowed. -/
def allows (c : Config) (labels : SortedSet String) : Bool :=
  match c.whitelist with
  | some allowed => labels.subset allowed
  | none => true

/-- The patterns, or the first text that is none. -/
def compile (texts : List String) (m : Matcher := Pattern.matcher) :
    Except String (List m.Pattern) :=
  match texts with
  | [] => .ok []
  | text :: rest =>
    match m.read? text with
    | none => .error text
    | some p => return p :: (← compile rest m)

end Config

end SpineGrammar
