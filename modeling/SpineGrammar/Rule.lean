import SpineGrammar.Address
import SpineGrammar.Bounds
import SpineGrammar.Sorted.Map

/-!
# Attachment rules

A rule waits at a node for a tree with a given root label. Of the rules that compete for one site
only the one of least order is `applicable`; sites are listed by the first rule that names them.
-/

namespace SpineGrammar

/-- How the awaited tree combines with the site. -/
inductive RuleKind where
  | attach
  | adjoin
  | coordinate
  deriving DecidableEq, Repr

/-- The code word of a kind of rule. -/
def RuleKind.code : RuleKind → String
  | .attach => "att"
  | .adjoin => "adj"
  | .coordinate => "crd"

/-- The kind of rule that a code word stands for. -/
def RuleKind.ofCode? : String → Option RuleKind
  | "att" => some .attach
  | "adj" => some .adjoin
  | "crd" => some .coordinate
  | _ => none

theorem RuleKind.ofCode?_code (k : RuleKind) : ofCode? k.code = some k := by
  cases k <;> rfl

/-- An obligation to insert a tree with root label `pos` at a location. -/
structure Rule where
  kind : RuleKind
  pos : String
  location : Location
  /-- The role that the inserted tree plays for its predicate. -/
  role : Option String
  /-- A description of the role in words. -/
  description : Option String
  /-- How often each label was seen at this site. -/
  attachCounts : SortedMap String Nat
  deriving DecidableEq

namespace Rule

/-- The target and the side, for which rules compete. -/
def site (r : Rule) : Address × Slot := r.location.site

/-- The rank among the rules of one site. -/
def order (r : Rule) : Nat := r.location.order

/-- The side of the spine. -/
def slot (r : Rule) : Slot := r.location.slot

/-- The address of the node to insert under, from the node that owns the rule. -/
def target (r : Rule) : Address := r.location.target

/-- One line of text: `att NP on (), slot left, order 0, role ARG0`. -/
def text (r : Rule) : String :=
  let place := r.kind.code ++ " " ++ r.pos ++ " on " ++ r.target.text ++ ", slot " ++ r.slot.text
    ++ ", order " ++ r.order.repr
  match r.role with
  | some role => place ++ ", role " ++ role
  | none => place

/-- The share of `label` among the labels seen at this site, if any was seen. -/
def attachRatio (r : Rule) (label : String) : Checked (Option Ratio) := do
  let total ← countSum r.attachCounts.values
  if total = 0 then return none
  return some ⟨(r.attachCounts.get? label).getD 0, total⟩

end Rule

/-- Whether a role is a numbered one, such as `ARG0`: its last character is an ASCII digit. -/
def isNumberedRole (role : String) : Bool :=
  match role.toList.getLast? with
  | some c => c.isDigit
  | none => false

/-- Enters a rule into a list that holds one rule for each site: it takes the place of its rival if
    its order is smaller, and comes last if it has none. -/
def contend (r : Rule) : List Rule → List Rule
  | [] => [r]
  | p :: ps =>
    if p.site = r.site then (if r.order < p.order then r else p) :: ps
    else p :: contend r ps

/-- The rule to be served next at each site: the one of least order, and of these the first. -/
def applicable (rules : List Rule) : List Rule :=
  rules.foldl (fun picked r => contend r picked) []

end SpineGrammar
