import SpineGrammar.Attachment
import SpineGrammar.Phrase.Basic

/-!
# Rewriting of phrases

Insertion told on phrases alone. `rewrites` visits the nodes of a phrase level by level; for each
rule to be served next that accepts the candidate, and whose turn has come, it puts the stamped
candidate at the rule's target and takes the rule from its owner. Targets and owners are named by
their addresses.
-/

namespace SpineGrammar.Phrase

/-! ## The spine among the parts of a node -/

/-- Whether a part continues the spine: a word, or a node that was not attached. -/
def onSpine : Phrase → Bool
  | word _ => true
  | node f _ => !f.attached

/-- Whether a part was attached on the left. -/
def onLeft : Phrase → Bool
  | word _ => false
  | node f _ => f.attachedSlot = some .left

/-- Where the spine passes through the parts of a node: at the first part on it, or else behind
    the parts attached on the left. -/
def gap (parts : List Phrase) : SpineGap :=
  match parts.findIdx? onSpine with
  | some i => ⟨i, 1⟩
  | none => ⟨parts.countP onLeft, 0⟩

/-! ## One rewriting step -/

/-- The phrase as the argument of a rule: it plays the rule's role and stands in its slot. -/
def stamped (r : Rule) : Phrase → Phrase
  | word w => word w
  | node f parts =>
    node { f with role := r.role, attached := true, attachedSlot := some r.slot } parts

/-- Puts a phrase before the `i`-th part. -/
def insertPart (i : Nat) (q : Phrase) : Phrase → Phrase
  | word w => word w
  | node f parts => node f (parts.insertIdx i q)

/-- Takes a rule from the topmost node. -/
def withoutRule (r : Rule) : Phrase → Phrase
  | word w => word w
  | node f parts => node { f with rules := f.rules.filter (· ≠ r) } parts

/-- The position at which the rule `r` of `owner` puts its argument below `target`, if its turn has
    come. -/
def position? (owner target : Phrase) (r : Rule) : Option Nat :=
  match owner, target with
  | node _ beside, node _ parts => (gap beside).position? parts.length r.slot r.order
  | _, _ => none

/-- The phrase with `c` inserted as the rule `r` of the node at `a` says, if the rule has a target
    and its turn has come. -/
def spliceAt (d : Phrase) (a : Address) (r : Rule) (c : Phrase) : Option Phrase := do
  let owner ← d.at? a
  let target ← owner.at? r.target
  let i ← position? owner target r
  return (d.modifyAt (insertPart i (c.stamped r)) (a ++ r.target)).modifyAt (withoutRule r) a

/-! ## All rewriting steps -/

/-- The phrases that come from inserting `c` at one open site, level by level. -/
def rewrites (d c : Phrase) : List Phrase :=
  (List.range d.height).flatMap fun k => (d.level k).flatMap fun s =>
    ((applicable s.2.rules).filter (·.pos = c.label)).filterMap fun r => d.spliceAt s.1 r c

end SpineGrammar.Phrase
