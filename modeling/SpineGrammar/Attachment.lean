import SpineGrammar.Tree.Forest
import SpineGrammar.Tree.Spine

/-!
# Attachment

`attach` lists every tree that comes from inserting a candidate into a derivation at one open site:
at each node in breadth-first order, for each rule to be served next that accepts the candidate's
root label. Each result is the derivation with a copy of the candidate at that site and the rule
removed.
-/

namespace SpineGrammar

/-- The root of an inserted tree: it plays the role of the rule and knows its side of the spine. -/
def Node.stamp (r : Rule) (n : Node) : Node :=
  { n with role := r.role, attached := true, attachedSlot := some r.slot }

namespace Tree

/-- The derivation with a copy of `candidate` inserted as the rule `r` of the node `owner` says, or
    nothing if the rule's target does not exist or its turn has not come.

    The side of the spine is taken from the owner's children and the child count from the
    target's. -/
def splice (t : Tree) (owner : Nat) (r : Rule) (candidate : Tree) : Checked (Option Tree) := do
  match ← t.resolve owner r.target with
  | none => return none
  | some target =>
    let gap ← t.gap owner
    let host ← t.node target
    -- The rule has to wait until as many siblings as its order says stand on its side.
    match gap.position? host.children.length r.slot r.order with
    | none => return none
    | some i =>
      let (grown, root) ← t.graft candidate
      let stamped ← grown.update root (Node.stamp r)
      let inserted ← stamped.update target (·.insertChild i (.node root))
      return some (← inserted.update owner (·.consumeRule r))

/-- The pairs of a node and one of its rules to be served next that accept `label`. -/
def openSites (places : List Place) (label : String) : List (Nat × Rule) :=
  places.flatMap fun p =>
    ((applicable p.data.rules).filter (·.pos = label)).map (p.id, ·)

/-- Every derivation that comes from inserting `candidate` at one open site. -/
def attach (t candidate : Tree) : Checked (List Tree) := do
  let label ← candidate.label
  let places ← t.breadthFirst
  let results ← (openSites places label).mapM fun s => t.splice s.1 s.2 candidate
  return results.filterMap id

end Tree

end SpineGrammar
