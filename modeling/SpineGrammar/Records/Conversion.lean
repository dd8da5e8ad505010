import SpineGrammar.Address.Dotted
import SpineGrammar.Records.Basic
import SpineGrammar.Tree.Forest
import SpineGrammar.Tree.Spine

/-!
# From records to trees

A record becomes the chain of its spine labels, with each rule anchored at the node that it acts on
and then addressed to that very node; a rule whose address leads nowhere stays at the root as it
is. Each word of the record gives one tree, with the word under the end of the spine.
-/

namespace SpineGrammar

/-- Why a record cannot be turned into trees; `index` is its place in the list of records. -/
inductive RecordError where
  | emptySpine (index : Nat) (spine : String)
  | missingSlot (index : Nat) (kind : RuleKind) (pos : String)
  | missingOrder (index : Nat) (kind : RuleKind) (pos : String)
  | invalidSlot (code : Int)
  | invalidAddress (text : String)
  deriving DecidableEq, Repr

namespace RecordError

/-- A sentence about the record at an index. -/
def malformed (index : Nat) (what : String) : String :=
  "malformed record " ++ index.repr ++ ": " ++ what

/-- The sentence that explains an error. -/
def message : RecordError → String
  | emptySpine index spine => malformed index ("empty spine `" ++ spine ++ "`")
  | missingSlot index kind pos =>
    malformed index (kind.code ++ " rule for " ++ pos ++ " has no slot")
  | missingOrder index kind pos =>
    malformed index (kind.code ++ " rule for " ++ pos ++ " has no order")
  | invalidSlot code => "invalid slot " ++ code.repr ++ ": expected 0 (left) or 1 (right)"
  | invalidAddress text => "invalid tree address `" ++ text ++ "`"

end RecordError

/-! ## Rules -/

/-- The address that is meant. -/
def AddressRecord.toAddress : AddressRecord → Except RecordError Address
  | .indices a => .ok a
  | .dotted text =>
    match Address.ofDotted? text with
    | some a => .ok a
    | none => .error (.invalidAddress text)

namespace RuleRecord

/-- The slot code and the order that are meant when none is given: the first place on the left for
    a coordination, and otherwise nothing. -/
def defaultPlace : RuleKind → Option (Int × Nat)
  | .coordinate => some (0, 0)
  | .attach => none
  | .adjoin => none

/-- The slot with a code number. -/
def toSlot (code : Int) : Except RecordError Slot :=
  match Slot.ofCode? code with
  | some slot => .ok slot
  | none => .error (.invalidSlot code)

/-- The rule that a record describes. Of several errors a missing slot comes first, then a missing
    order, then the address, then the value of the slot. -/
def toRule (r : RuleRecord) (index : Nat) : Except RecordError Rule := do
  match r.slot.or ((defaultPlace r.kind).map (·.1)) with
  | none => .error (.missingSlot index r.kind r.pos)
  | some code =>
    match r.order.or ((defaultPlace r.kind).map (·.2)) with
    | none => .error (.missingOrder index r.kind r.pos)
    | some order =>
      let target ← r.target.toAddress
      let slot ← toSlot code
      return {
        kind := r.kind
        pos := r.pos
        location := ⟨target, slot, order⟩
        role := r.role
        description := r.description
        attachCounts := r.attachCounts }

end RuleRecord

/-- A rule that acts on the node that owns it. -/
def Rule.selfAddressed (r : Rule) : Rule :=
  { r with location := { r.location with target := [] } }

/-! ## Trees -/

namespace TreeRecord

/-- The labels of a spine: the words between brackets and blanks. -/
def spineLabels (r : TreeRecord) : List String :=
  (words (r.spine.toList.map fun c => if c = '(' ∨ c = ')' then ' ' else c)).map String.ofList

/-- The spine without its rules. -/
def bareSpine (r : TreeRecord) : Tree :=
  let chain := Tree.ofSpine r.spineLabels none
  { chain with
    nodes := (chain.nodes.map fun n => { n with treeType := r.treeType }).modify 0 fun n =>
      { n with
        predicate := r.predicate
        rolesetId := r.rolesetId
        argCount := r.argCount
        treeId := r.treeId } }

/-- Anchors one rule. -/
def anchor (index : Nat) (t : Tree) (record : RuleRecord) : Attempt RecordError Tree := do
  let rule ← Attempt.ofRefusable (record.toRule index)
  match ← Attempt.ofChecked (t.nodeAt rule.target) with
  -- At the node that it acts on, the rule no longer needs an address.
  | some id => Attempt.ofChecked (t.update id (·.pushRule rule.selfAddressed))
  | none => Attempt.ofChecked (t.update t.root (·.pushRule rule))

/-- The tree without words that a record describes. -/
def unlexicalized (r : TreeRecord) (index : Nat) : Attempt RecordError Tree :=
  if r.spineLabels.isEmpty then Attempt.refuse (.emptySpine index r.spine)
  else r.rules.foldlM (anchor index) r.bareSpine

/-- A tree with a word under the end of its spine, and the counts of the word and of the tree. -/
def lexicalize (base : Tree) (word : String) (wordCount treeCount : Nat) : Checked Tree := do
  let bottom ← base.spineBottom
  let t ← base.pushLeaf bottom word
  t.update t.root fun n => { n with wordCount, treeCount }

/-- The trees that a record describes: one for each word, in the order of the words; without
    words the one for `word`, and without that the unlexicalized tree. -/
def trees (r : TreeRecord) (index : Nat) : Attempt RecordError (List Tree) := do
  let base ← r.unlexicalized index
  let entries := (r.lexicon.map (·.entries)).getD []
  if entries.isEmpty then
    match r.word with
    | some word => return [← Attempt.ofChecked (lexicalize base word 1 1)]
    | none => return [base]
  else
    let total ← Attempt.ofChecked (countSum (entries.map (·.2)))
    entries.mapM fun e => Attempt.ofChecked (lexicalize base e.1 e.2 total)

end TreeRecord

end SpineGrammar
