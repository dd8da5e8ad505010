import SpineGrammar.Grammar.Config
import SpineGrammar.Records.Conversion
import SpineGrammar.Tree.Frontier

/-!
# Grammars

A grammar is a list of trees, found by the label of their root, with the label that derivations
start from. Building one from records converts as many as the limit says, keeps the trees that the
options let through, and of equal ones the first.
-/

namespace SpineGrammar

/-- A list of trees, each with the label of its root. -/
structure Grammar where
  entries : List (String × Tree)
  startLabel : String
  deriving DecidableEq

namespace Grammar

/-- The grammar of given trees. -/
def ofTrees (trees : List Tree) (startLabel : String) : Checked Grammar := do
  return ⟨← trees.mapM fun t => return (← t.label, t), startLabel⟩

/-- The trees in order. -/
def trees (g : Grammar) : List Tree := g.entries.map (·.2)

/-- The number of trees. -/
def size (g : Grammar) : Nat := g.entries.length

/-- The tree at an index. -/
def tree? (g : Grammar) (i : Nat) : Option Tree := g.trees[i]?

/-- The root labels that occur. -/
def labels (g : Grammar) : SortedSet String := .ofList (g.entries.map (·.1))

/-- The trees with a given root label, in order. -/
def treesFor (g : Grammar) (label : String) : List Tree :=
  (g.entries.filter (·.1 = label)).map (·.2)

/-- The trees that a derivation may start from, in order. -/
def startTrees (g : Grammar) : List Tree := g.treesFor g.startLabel

end Grammar

/-! ## Building from records -/

/-- Why no grammar can be built. -/
inductive GrammarError where
  /-- A file cannot be opened, or does not hold what it should. -/
  | unreadable
  /-- A text does not hold what it should. -/
  | undecodable
  /-- A pattern for trees is no pattern. -/
  | badPattern (text : String)
  /-- A record cannot be turned into trees. -/
  | record (e : RecordError)
  deriving DecidableEq, Repr

/-- The text that tells equal trees: the bracketed form with the rules after it. -/
def Tree.fingerprint (t : Tree) : Checked String := do
  return (← t.text) ++ " [" ++ "; ".intercalate ((← t.allRules).map Rule.text) ++ "]"

namespace Grammar

/-- Whether the options let a tree through. -/
def passes (config : Config) {m : Matcher} (patterns : List m.Pattern) (t : Tree) :
    Checked Bool := do
  if !config.allows (← t.labelSet) then return false
  if patterns.isEmpty then return true
  let text ← t.text
  return patterns.any (m.matchesIn · text)

/-- The trees whose key is not in `seen` and that none of the same key comes before. -/
def firstOfEach (key : Tree → Checked String) (seen : List String) :
    List Tree → Checked (List Tree)
  | [] => return []
  | t :: rest => do
    let k ← key t
    if seen.contains k then firstOfEach key seen rest
    else return t :: (← firstOfEach key (k :: seen) rest)

/-- The trees that the options keep. -/
def keep (config : Config) {m : Matcher} (patterns : List m.Pattern) (trees : List Tree) :
    Checked (List Tree) := do
  -- A tree that is filtered out does not count as seen.
  let passed ← trees.filterM (passes config patterns)
  if config.dedupe then firstOfEach Tree.fingerprint [] passed else return passed

/-- An error with records as one with grammars. -/
def liftRecord {α : Type} : Attempt RecordError α → Attempt GrammarError α
  | .ok a => .ok a
  | .error (.fault f) => .error (.fault f)
  | .error (.refused e) => .error (.refused (.record e))

/-- The trees of records whose first is the `index`-th. -/
def recordTrees (index : Nat) : List TreeRecord → Attempt RecordError (List Tree)
  | [] => return []
  | r :: rest => do
    let trees ← r.trees index
    return trees ++ (← recordTrees (index + 1) rest)

/-- The grammar that records describe, with the patterns of `m`, which are looked at before any
    record. -/
def ofRecords (records : List TreeRecord) (config : Config) (m : Matcher := Pattern.matcher) :
    Attempt GrammarError Grammar := do
  match Config.compile config.treePatterns m with
  | .error text => Attempt.refuse (.badPattern text)
  | .ok patterns =>
    let used := match config.limit with
      | some n => records.take n
      | none => records
    let trees ← liftRecord (recordTrees 0 used)
    let kept ← Attempt.ofChecked (keep config patterns trees)
    Attempt.ofChecked (ofTrees kept config.startLabel)

end Grammar

end SpineGrammar
