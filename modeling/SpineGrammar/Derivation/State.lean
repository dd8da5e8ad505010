import SpineGrammar.Derivation.Action
import SpineGrammar.Grammar.Basic
import SpineGrammar.Semantics.Formula

/-!
# States of a derivation

A state holds the derivation so far, if there is one, and the grammar that it draws on. It knows the
actions that can be taken, what they lead to, and where it stands: not started, in progress, stuck
with open rules that no tree of the grammar serves, or complete.
-/

namespace SpineGrammar

/-- Where a derivation stands. -/
inductive Phase where
  /-- Nothing was chosen yet. -/
  | empty
  | inProgress
  /-- Rules are open, but the grammar has no tree for any of them. -/
  | deadEnd
  /-- No rule is open. -/
  | terminal
  deriving DecidableEq, Repr

/-- Why a selection cannot be carried out. -/
inductive Refusal where
  | actionOutOfRange (index available : Nat)
  | outcomeOutOfRange (index available : Nat)
  /-- Nothing can be inserted before the start. -/
  | notStarted
  /-- A derivation has to start from the start label; `action` is the action in words. -/
  | notStartLabel (action label : String)
  /-- A derivation starts only once; `action` is the action in words. -/
  | alreadyStarted (action : String)
  deriving DecidableEq, Repr

/-- The sentence that explains a refusal. -/
def Refusal.message : Refusal → String
  | actionOutOfRange index available =>
    "action " ++ index.repr ++ " out of range: " ++ available.repr ++ " actions available"
  | outcomeOutOfRange index available =>
    "outcome " ++ index.repr ++ " out of range: " ++ available.repr ++ " outcomes available"
  | notStarted => "cannot substitute into a derivation that has not started"
  | notStartLabel action label =>
    "illegal action " ++ action ++ ": root " ++ label ++ " is not the start label"
  | alreadyStarted action => "illegal action " ++ action ++ ": derivation already started"

/-- A derivation, if it has started, and its grammar. -/
structure State where
  tree : Option Tree
  grammar : Grammar
  deriving DecidableEq

/-- One step onward: the action, which of its outcomes was taken, and the state it led to. -/
structure Successor where
  action : Action
  outcome : Nat
  state : State
  deriving DecidableEq

namespace State

/-- The state before the start. -/
def start (g : Grammar) : State := ⟨none, g⟩

/-- The state with a derivation that is there already. -/
def resume (g : Grammar) (t : Tree) : State := ⟨some t, g⟩

/-! ## Where a state stands -/

/-- The labels that the derivation waits for. -/
def openLabels (s : State) : Checked (SortedSet String) :=
  match s.tree with
  | none => return .empty
  | some t => t.openLabels

/-- Whether the grammar has no tree for any label that is waited for. -/
def isStalled (s : State) (t : Tree) : Checked Bool := do
  return (← t.openLabels).elems.all fun label => (s.grammar.treesFor label).isEmpty

/-- Where the derivation stands. -/
def phase (s : State) : Checked Phase := do
  match s.tree with
  | none => return .empty
  | some t =>
    if ← t.isComplete then return .terminal
    -- Some rule is open from here on.
    if ← s.isStalled t then return .deadEnd
    return .inProgress

/-- Whether no rule is open any more. -/
def isTerminal (s : State) : Checked Bool := return (← s.phase) = .terminal

/-- The words so far. -/
def sentence (s : State) : Checked String :=
  match s.tree with
  | none => return ""
  | some t => t.sentence

/-- The derivation in brackets. -/
def text (s : State) : Checked String :=
  match s.tree with
  | none => return "(empty)"
  | some t => t.text

/-- What the derivation asserts. -/
def formula (s : State) : Checked Formula :=
  match s.tree with
  | none => return .empty
  | some t => t.formula

/-! ## Moving on -/

/-- The actions that can be taken: first by the label that is waited for, then in the order of the
    grammar. -/
def actions (s : State) : Checked (List Action) := do
  match s.tree with
  | none => return s.grammar.startTrees.map .initial
  | some t => return ((← t.openLabels).elems.flatMap s.grammar.treesFor).map .substitute

/-- Every derivation that an action leads to from here. -/
def outcomes (s : State) (a : Action) : Attempt Refusal (List Tree) :=
  match a, s.tree with
  | .substitute _, none => Attempt.refuse .notStarted
  | a, current => Attempt.ofChecked (a.results current)

/-- Checks that an action may be taken: a start only before the start and from the start label, an
    insertion only after it. -/
def checkLegal (s : State) (a : Action) : Attempt Refusal Unit := do
  match a, s.tree with
  | .substitute _, none => Attempt.refuse .notStarted
  | .substitute _, some _ => return ()
  | .initial t, none =>
    let label ← Attempt.ofChecked t.label
    if label = s.grammar.startLabel then return ()
    else Attempt.refuse (.notStartLabel (← Attempt.ofChecked a.text) label)
  | .initial _, some _ => Attempt.refuse (.alreadyStarted (← Attempt.ofChecked a.text))

/-- The action that is selected. -/
def select (s : State) : Selection → Attempt Refusal Action
  | .action a => do
    s.checkLegal a
    return a
  | .index i => do
    let actions ← Attempt.ofChecked s.actions
    match actions[i]? with
    | some a => return a
    | none => Attempt.refuse (.actionOutOfRange i actions.length)

/-- Takes an action and keeps one of its outcomes. -/
def execute (s : State) (selection : Selection) (outcome : Nat) : Attempt Refusal State := do
  let a ← s.select selection
  let results ← s.outcomes a
  match results[outcome]? with
  | some t => return { s with tree := some t }
  | none => Attempt.refuse (.outcomeOutOfRange outcome results.length)

/-- Takes an action and puts the derivation it leads to in place of the one so far. -/
def perform (selection : Selection) (outcome : Nat) :
    ExceptT (Halt Refusal) (StateM State) Unit := do
  let s ← get
  let a ← s.select selection
  let results ← s.outcomes a
  match results[outcome]? with
  | some t => set { s with tree := some t }
  | none => throw (.refused (.outcomeOutOfRange outcome results.length))

/-- The successors by one action, one for each outcome. -/
def successorsBy (s : State) (a : Action) : Checked (List Successor) := do
  return (← a.results s.tree).mapIdx fun i t => ⟨a, i, { s with tree := some t }⟩

/-- All successors, by action and then by outcome. -/
def successors (s : State) : Checked (List Successor) := do
  return (← (← s.actions).mapM s.successorsBy).flatten

end State

end SpineGrammar
