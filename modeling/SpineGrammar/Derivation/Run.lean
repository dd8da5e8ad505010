import SpineGrammar.Derivation.State
import SpineGrammar.Tree.Sound

/-!
# Runs of a derivation

A run starts from the empty state and takes one action after another, each selected by its position
or as such, and keeps one outcome of each. Only calls that succeed belong to a run.
-/

namespace SpineGrammar

/-! ## Sound trees -/

/-- Whether all trees of a grammar are sound. -/
def Grammar.Sound (g : Grammar) : Prop := ∀ t ∈ g.trees, t.Sound

/-- Whether a selection that brings its own tree brings a sound one. -/
def Selection.Sound : Selection → Prop
  | .index _ => True
  | .action a => a.tree.Sound

/-- Whether a selection that brings its own tree brings one with the property `P`. -/
def Selection.Brings (P : Tree → Prop) : Selection → Prop
  | .index _ => True
  | .action a => P a.tree

/-! ## Steps and runs -/

/-- A selection and the action that it picked. -/
structure Call where
  selection : Selection
  action : Action

/-- `s.Step call s'`: the call's selection picks its action in `s`, and an outcome of that action
    is `s'`. -/
structure State.Step (s : State) (call : Call) (s' : State) : Prop where
  select : s.select call.selection = .ok call.action
  execute : ∃ outcome, s.execute call.selection outcome = .ok s'

/-- `Run g calls s`: starting empty with the grammar `g`, the calls lead to `s`. -/
inductive Run (g : Grammar) : List Call → State → Prop where
  | start : Run g [] (.start g)
  | step {calls : List Call} {call : Call} {s s' : State} :
      Run g calls s → s.Step call s' → Run g (calls ++ [call]) s'

/-- `RunFrom s₀ calls s`: starting from the state `s₀`, the calls lead to `s`. -/
inductive RunFrom (s₀ : State) : List Call → State → Prop where
  | start : RunFrom s₀ [] s₀
  | step {calls : List Call} {call : Call} {s s' : State} :
      RunFrom s₀ calls s → s.Step call s' → RunFrom s₀ (calls ++ [call]) s'

/-- A run of a grammar is one from the empty state. -/
theorem run_iff_runFrom {g : Grammar} {calls : List Call} {s : State} :
    Run g calls s ↔ RunFrom (.start g) calls s := by
  constructor
  · intro h
    induction h with
    | start => exact .start
    | step _ hstep ih => exact .step ih hstep
  · intro h
    induction h with
    | start => exact .start
    | step _ hstep ih => exact .step ih hstep

end SpineGrammar
