/-!
# Faults

Operations on node tables and bounded counts have preconditions. One that is called outside its
precondition ends in a `Fault`, so every function of the library is total and a caller can see
from its type whether it may fault. An operation that may also be refused for a reason of its
domain ends in a `Halt`, which keeps the two apart.
-/

namespace SpineGrammar

/-- Why an operation could not be carried out on the data it was given. -/
inductive Fault where
  /-- No node of the table has this id. -/
  | missingNode (id : Nat)
  /-- A node lies below itself, so its subtree has no end. -/
  | endlessBranch
  /-- A node has no spine child and an attached child that names no slot. -/
  | slotlessChild (label : String)
  /-- A sum of counts does not fit 32 bits. -/
  | countOverflow
  /-- A shifted node id does not fit 64 bits. -/
  | idOverflow
  /-- A child was to be put beyond the end of a child list. -/
  | positionPastEnd
  /-- The children of a childless node were to be rotated. -/
  | nothingToRotate
  /-- A larger number was to be taken from a smaller one. -/
  | negativeDifference
  /-- A stretch of a list was to begin behind its end, or to go past the end of the list. -/
  | badStretch (start stop : Nat)
  /-- No word of a sentence has this number. -/
  | missingWord (index : Nat)
  deriving DecidableEq, Repr

/-- The sentence that explains a fault. -/
def Fault.message : Fault → String
  | .missingNode id => "no node has the id " ++ toString id
  | .endlessBranch => "a node lies below itself"
  | .slotlessChild label =>
    "node " ++ label ++ " has no spine child and an attached child without a slot"
  | .countOverflow => "a sum of counts does not fit 32 bits"
  | .idOverflow => "a node id does not fit 64 bits"
  | .positionPastEnd => "a position lies past the end of a child list"
  | .nothingToRotate => "a node has no children to rotate"
  | .negativeDifference => "a difference of numbers is negative"
  | .badStretch start stop =>
    "a list has no stretch from " ++ toString start ++ " to " ++ toString stop
  | .missingWord index => "no word has the number " ++ toString index

/-- The outcome of an operation that may fault. -/
abbrev Checked (α : Type) : Type := Except Fault α

/-- Why an operation that may be refused for a reason `ε` of its domain has no result. -/
inductive Halt (ε : Type) where
  | fault (f : Fault)
  | refused (reason : ε)
  deriving DecidableEq, Repr

/-- The outcome of an operation that may fault or be refused. -/
abbrev Attempt (ε α : Type) : Type := Except (Halt ε) α

/-- Runs a faulting operation as a step of one that may also be refused. -/
def Attempt.ofChecked {ε α : Type} : Checked α → Attempt ε α
  | .ok a => .ok a
  | .error f => .error (.fault f)

/-- Runs an operation that may be refused as a step of one that may also fault. -/
def Attempt.ofRefusable {ε α : Type} : Except ε α → Attempt ε α
  | .ok a => .ok a
  | .error e => .error (.refused e)

/-- Stops with a reason of the domain. -/
def Attempt.refuse {ε α : Type} (reason : ε) : Attempt ε α :=
  .error (.refused reason)

end SpineGrammar
