import SpineGrammar.Proofs.Inheritance
import SpineGrammar.Proofs.RunScan

/-!
# The formula is a projection of the role graph

Of the role graph the formula keeps, for each predicate, the edges with numbered roles. Within one
predicate role and argument tell its edges apart, so their order in the graph gives each a position;
an argument that is awaited is called by that position, and one that is there by its label and
address. Every address of a tree's own graph leads to a node, so there is no third case.
-/

namespace SpineGrammar

/-! ## The order of the edges of one predicate -/

theorem Address.compare_eq_lt_iff {a b : Address} : compare a b = .lt ↔ a < b := by
  rw [List.compare_eq_compareLex]
  induction a generalizing b with
  | nil => cases b <;> simp [List.compareLex]
  | cons i a ih => cases b with
    | nil => simp [List.compareLex]
    | cons j b =>
      rw [List.compareLex_cons_cons, Ordering.then_eq_lt, ih, List.cons_lt_cons_iff,
        Std.LawfulLTCmp.eq_lt_iff_lt, Std.LawfulEqCmp.compare_eq_iff_eq]

namespace RoleEdge

variable {e e' : RoleEdge}

/-- `e.Before e'`: the edge `e` has the smaller role by code points, or the same role and the
    smaller argument. An open edge comes before filled ones, and these in the lexicographic order of
    their addresses. -/
def Before (e e' : RoleEdge) : Prop :=
  e.role < e'.role ∨ e.role = e'.role ∧ e.argument < e'.argument

theorem compare_argument_eq_lt_iff {a b : Option Address} : compare a b = .lt ↔ a < b := by
  cases a with
  | none => cases b with
    | none => simp [compare]
    | some b => simp [compare]
  | some a => cases b with
    | none => simp [compare]
    | some b =>
      rw [Option.some_lt_some]
      exact Address.compare_eq_lt_iff

theorem compare_eq_lt_iff (h : e.predicate = e'.predicate) : compare e e' = .lt ↔ e.Before e' := by
  have hrole : compare e.role e'.role = .lt ↔ e.role < e'.role := compareOfLessAndEq_eq_lt
  unfold Before
  show order e e' = .lt ↔ _
  -- With the predicates equal, role and argument decide.
  simp [order, compareLex, compareOn, Ordering.then_eq_lt, h, hrole, compare_argument_eq_lt_iff]

/-- Of two edges of one predicate one comes before the other. -/
theorem before_or_before (h : e.predicate = e'.predicate) (hne : e ≠ e') :
    e.Before e' ∨ e'.Before e := by
  cases hcompare : compare e e' with
  | lt => exact .inl ((compare_eq_lt_iff h).1 hcompare)
  | eq => exact absurd (Std.LawfulEqOrd.eq_of_compare hcompare) hne
  | gt => exact .inr ((compare_eq_lt_iff h.symm).1 (Std.OrientedCmp.lt_of_gt hcompare))

theorem isNumbered_iff : e.isNumbered = true ↔
    ∃ c, e.role.toList.getLast? = some c ∧ c.isDigit = true := by
  rw [isNumbered, isNumberedRole]
  cases e.role.toList.getLast? with
  | none => simp
  | some c => simp

end RoleEdge

/-! ## The arguments of a predicate -/

namespace RoleGraph

/-- `g.Lists p es`: the edges of the predicate `p` whose role ends in an ASCII digit are those of
    `es`, in their order. -/
structure Lists (g : RoleGraph) (p : String) (es : List RoleEdge) : Prop where
  mem_iff : ∀ e, e ∈ es ↔ e ∈ g.edges ∧ e.predicate = some p ∧
    ∃ c, e.role.toList.getLast? = some c ∧ c.isDigit = true
  sorted : es.Pairwise RoleEdge.Before

variable {g : RoleGraph} {p : String} {es : List RoleEdge}

/-- The edges of one predicate are listed in one way only. -/
theorem Lists.functional {es' : List RoleEdge} (h : g.Lists p es) (h' : g.Lists p es') :
    es = es' := by
  have hascending : ∀ es, g.Lists p es → Ascending es := by
    intro es h
    apply h.sorted.imp_of_mem
    intro e e' he he' hbefore
    have hpredicate : e.predicate = e'.predicate :=
      ((h.mem_iff e).1 he).2.1.trans ((h.mem_iff e').1 he').2.1.symm
    exact (RoleEdge.compare_eq_lt_iff hpredicate).2 hbefore
  apply ascending_eq_of_mem_iff (hascending es h) (hascending es' h')
  intro e
  rw [h.mem_iff, h'.mem_iff]

theorem lists_edgesOf (g : RoleGraph) (p : String) :
    g.Lists p ((g.edgesOf p).filter (·.isNumbered)) where
  mem_iff := by
    intro e
    rw [List.mem_filter, edgesOf, List.mem_filter, decide_eq_true_iff, RoleEdge.isNumbered_iff,
      and_assoc]
    rfl
  sorted := by
    have hascending : ((g.edgesOf p).filter (·.isNumbered)).Pairwise
        fun e e' => compare e e' = .lt :=
      (g.edges.ascending.filter _).filter _
    apply hascending.imp_of_mem
    intro e e' he he' hlt
    have hpredicate : ∀ e ∈ (g.edgesOf p).filter (·.isNumbered), e.predicate = some p := by
      intro e he
      exact of_decide_eq_true (List.mem_filter.1 (List.mem_filter.1 he).1).2
    have hsame : e.predicate = e'.predicate := (hpredicate e he).trans (hpredicate e' he').symm
    exact (RoleEdge.compare_eq_lt_iff hsame).1 hlt

end RoleGraph

namespace Tree

/-- `t.Calls i e name noun`: as the `i`-th argument of its predicate, the edge `e` has the entity
    `name`, and `noun` is the run of nouns below its address, if there is one. -/
inductive Calls (t : Tree) (i : Nat) (e : RoleEdge) : String → Option String → Prop
  | awaited : e.argument = none → t.Calls i e ("ARG" ++ i.repr) none
  | filled {a : Address} {id : Nat} {n : Node} {noun : Option String} :
      e.argument = some a → t.Stands a id n → t.nounName? id = .ok noun →
      t.Calls i e (n.label ++ "_" ++ a.suffix) noun

/-- `t.Argues g p es args`: the numbered edges of the predicate `p` are `es`, and `args` are their
    entities, each with the noun that names it. -/
structure Argues (t : Tree) (g : RoleGraph) (p : String) (es : List RoleEdge)
    (args : List (String × Option String)) : Prop where
  lists : g.Lists p es
  length_eq : args.length = es.length
  calls : ∀ i e name noun, es[i]? = some e → args[i]? = some (name, noun) → t.Calls i e name noun

variable {t : Tree} {g : RoleGraph} {p : String} {e : RoleEdge} {es : List RoleEdge} {i : Nat}

theorem IsRootedTree.exists_nounName? (h : t.IsRootedTree) {a : Address} {id : Nat}
    (ha : t.nodeAt a = .ok (some id)) : ∃ noun, t.nounName? id = .ok noun := by
  obtain ⟨b, hb⟩ := h.exists_branchAt ha
  obtain ⟨i, l, hrun, _⟩ := exists_longestRun_eq_ok b.taggedWords
  exact ⟨_, by rw [nounName?, hb, ok_bind, hrun]; rfl⟩

theorem nounNameAt?_of_nodeAt {a : Address} {id : Nat} (ha : t.nodeAt a = .ok (some id)) :
    t.nounNameAt? a = t.nounName? id := by
  unfold nounNameAt?
  rw [ha]
  rfl

theorem IsRootedTree.exists_calls (h : t.IsRootedTree)
    (he : ∀ a, e.argument = some a → ∃ id n, t.Stands a id n) :
    ∃ name noun, t.Calls i e name noun := by
  cases hargument : e.argument with
  | none => exact ⟨_, _, .awaited hargument⟩
  | some a =>
    obtain ⟨id, n, hn⟩ := he a hargument
    obtain ⟨noun, hnoun⟩ := h.exists_nounName? hn.nodeAt
    exact ⟨_, _, .filled hargument hn hnoun⟩

/-- The entity of an argument whose address leads to a node, if it has one, is the one it should
    have. -/
theorem argument_eq_ok_iff (he : ∀ a, e.argument = some a → ∃ id n, t.Stands a id n)
    {name : String} {noun : Option String} :
    t.argument i e = .ok (name, noun) ↔ t.Calls i e name noun := by
  constructor
  · intro hcall
    unfold argument at hcall
    cases hargument : e.argument with
    | none =>
      rw [hargument] at hcall
      cases hcall
      exact .awaited hargument
    | some a =>
      obtain ⟨id, n, hn⟩ := he a hargument
      simp only [hargument, hn.nodeAt, ok_bind, hn.node, nounNameAt?_of_nodeAt hn.nodeAt] at hcall
      obtain ⟨noun', hnoun, hcall⟩ := bind_eq_ok_iff.1 hcall
      cases hcall
      exact .filled hargument hn hnoun
  · intro hcalls
    unfold argument
    cases hcalls with
    | awaited hargument =>
      rw [hargument]
      rfl
    | filled hargument hn hnoun =>
      simp only [hargument, hn.nodeAt, ok_bind, hn.node, nounNameAt?_of_nodeAt hn.nodeAt, hnoun]
      rfl

theorem argumentsFrom_eq_ok_iff {args : List (String × Option String)} :
    t.argumentsFrom i es = .ok args ↔ args.length = es.length ∧
      ∀ j e arg, es[j]? = some e → args[j]? = some arg → t.argument (i + j) e = .ok arg := by
  induction es generalizing i args with
  | nil =>
    rw [argumentsFrom, pure_eq_ok, Except.ok.injEq, List.length_nil, List.length_eq_zero_iff]
    simp [eq_comm]
  | cons e es ih =>
    rw [argumentsFrom, bind_eq_ok_iff]
    constructor
    · intro hargs
      obtain ⟨arg, harg, hargs⟩ := hargs
      obtain ⟨rest, hrest, hargs⟩ := bind_eq_ok_iff.1 hargs
      obtain rfl := Except.ok.inj hargs
      obtain ⟨hlength, hrest⟩ := ih.1 hrest
      refine ⟨by simp [hlength], ?_⟩
      intro j e' arg' he' harg'
      cases j with
      | zero =>
        obtain rfl : e = e' := by simpa using he'
        obtain rfl : arg = arg' := by simpa using harg'
        exact harg
      | succ j =>
        rw [← Nat.add_assoc, Nat.add_right_comm]
        exact hrest j e' arg' (by simpa using he') (by simpa using harg')
    · intro hargs
      obtain ⟨hlength, hargs⟩ := hargs
      cases args with
      | nil => simp at hlength
      | cons arg rest =>
        have hfirst : t.argument (i + 0) e = .ok arg := hargs 0 e arg rfl rfl
        have hrest : t.argumentsFrom (i + 1) es = .ok rest := by
          apply ih.2
          refine ⟨by simpa using hlength, ?_⟩
          intro j e' arg' he' harg'
          rw [Nat.add_right_comm]
          exact hargs (j + 1) e' arg' (by simpa using he') (by simpa using harg')
        exact ⟨arg, hfirst, by rw [hrest]; rfl⟩

namespace IsRootedTree

/-- The arguments that are computed for a predicate are those that it has. -/
theorem argues_iff (h : t.IsRootedTree) (hg : t.roleGraph = .ok g)
    {args : List (String × Option String)} : t.Argues g p es args ↔
      es = (g.edgesOf p).filter (·.isNumbered) ∧ t.argumentsOf g p = .ok args := by
  have hstands : ∀ es : List RoleEdge, g.Lists p es → ∀ (i : Nat) e, es[i]? = some e →
      ∀ a, e.argument = some a → ∃ id n, t.Stands a id n := by
    intro es hes i e he a ha
    exact h.exists_stands_of_mem_edges hg ((hes.mem_iff e).1 (List.mem_of_getElem? he)).1 ha
  have hlists := g.lists_edgesOf p
  -- All listed addresses lead to nodes, so what is computed for an edge is what it is called.
  unfold argumentsOf
  rw [argumentsFrom_eq_ok_iff]
  constructor
  · intro hargues
    obtain rfl := hargues.lists.functional hlists
    refine ⟨rfl, hargues.length_eq, ?_⟩
    intro i e arg he harg
    rw [Nat.zero_add]
    exact (argument_eq_ok_iff (hstands _ hlists i e he)).2 (hargues.calls i e _ _ he harg)
  · intro hargs
    obtain ⟨rfl, hlength, hargs⟩ := hargs
    refine ⟨hlists, hlength, ?_⟩
    intro i e name noun he harg
    have hargument := hargs i e _ he harg
    rw [Nat.zero_add] at hargument
    exact (argument_eq_ok_iff (hstands _ hlists i e he)).1 hargument

theorem exists_argumentsFrom (h : t.IsRootedTree)
    (hes : ∀ e ∈ es, ∀ a, e.argument = some a → ∃ id n, t.Stands a id n) :
    ∃ args, t.argumentsFrom i es = .ok args := by
  induction es generalizing i with
  | nil => exact ⟨[], rfl⟩
  | cons e es ih =>
    obtain ⟨args, hargs⟩ := ih (i := i + 1) fun e he => hes e (List.mem_cons_of_mem _ he)
    have he := hes e List.mem_cons_self
    obtain ⟨name, noun, hcalls⟩ := h.exists_calls (i := i) he
    have hargument := (argument_eq_ok_iff he).2 hcalls
    exact ⟨(name, noun) :: args, by rw [argumentsFrom, hargument, ok_bind, hargs]; rfl⟩

/-- Each predicate has one list of arguments. -/
theorem existsUnique_argues (h : t.IsRootedTree) (hg : t.roleGraph = .ok g) (p : String) :
    ∃! v : List RoleEdge × List (String × Option String), t.Argues g p v.1 v.2 := by
  obtain ⟨args, hargs⟩ : ∃ args, t.argumentsOf g p = .ok args := by
    apply h.exists_argumentsFrom
    intro e he a ha
    exact h.exists_stands_of_mem_edges hg (((g.lists_edgesOf p).mem_iff e).1 he).1 ha
  refine ⟨(_, args), (h.argues_iff hg).2 ⟨rfl, hargs⟩, ?_⟩
  intro v hv
  obtain ⟨es, args'⟩ := v
  obtain ⟨hes, hargs'⟩ := (h.argues_iff hg).1 hv
  obtain rfl := Except.ok.inj (hargs.symm.trans hargs')
  exact Prod.ext hes rfl

end IsRootedTree

/-! ## The atoms -/

theorem mem_predicateAtoms {args : List (String × Option String)} {atom : Atom} :
    atom ∈ predicateAtoms p args ↔ atom = ⟨p, args.map (·.1)⟩ ∨
      ∃ name noun, (name, some noun) ∈ args ∧ atom = ⟨noun, [name]⟩ := by
  rw [predicateAtoms, List.mem_append, List.mem_singleton, or_comm, List.mem_filterMap]
  apply or_congr_right
  constructor
  · intro hnamed
    obtain ⟨⟨name, noun⟩, harg, hatom⟩ := hnamed
    obtain ⟨noun, rfl, rfl⟩ := Option.map_eq_some_iff.1 hatom
    exact ⟨name, noun, harg, rfl⟩
  · intro hnamed
    obtain ⟨name, noun, harg, rfl⟩ := hnamed
    exact ⟨_, harg, rfl⟩

theorem argumentPair_eq_ok_iff {pair : String × List (String × Option String)} :
    (do return (p, ← t.argumentsOf g p)) = Except.ok (ε := Fault) pair ↔
      p = pair.1 ∧ t.argumentsOf g p = .ok pair.2 := by
  rw [bind_eq_ok_iff]
  constructor
  · intro hpair
    obtain ⟨args, hargs, hpair⟩ := hpair
    obtain rfl := Except.ok.inj hpair
    exact ⟨rfl, hargs⟩
  · intro hpair
    obtain ⟨rfl, hargs⟩ := hpair
    exact ⟨pair.2, hargs, rfl⟩

namespace IsRootedTree

/-- The arguments of all predicates of a graph can be listed. -/
theorem exists_argumentPairs (h : t.IsRootedTree) (hg : t.roleGraph = .ok g) :
    ∃ pairs, (g.predicates.elems.mapM fun p => return (p, ← t.argumentsOf g p)) =
        Except.ok (ε := Fault) pairs ∧
      ∀ p args, (p, args) ∈ pairs ↔ p ∈ g.predicates ∧ ∃ es, t.Argues g p es args := by
  obtain ⟨pairs, hpairs⟩ : ∃ pairs, (g.predicates.elems.mapM fun p =>
      return (p, ← t.argumentsOf g p)) = Except.ok (ε := Fault) pairs := by
    apply exists_mapM_eq_ok
    intro p _
    obtain ⟨v, hv, _⟩ := h.existsUnique_argues hg p
    exact ⟨(p, v.2), argumentPair_eq_ok_iff.2 ⟨rfl, ((h.argues_iff hg).1 hv).2⟩⟩
  refine ⟨pairs, hpairs, ?_⟩
  intro p args
  constructor
  · intro hpair
    obtain ⟨p', hp', hpair⟩ := exists_of_mem_mapM hpairs hpair
    obtain ⟨rfl, hargs⟩ := argumentPair_eq_ok_iff.1 hpair
    exact ⟨hp', _, (h.argues_iff hg).2 ⟨rfl, hargs⟩⟩
  · intro hargues
    obtain ⟨hp, es, hargues⟩ := hargues
    obtain ⟨pair, hpair, hp⟩ := exists_mem_of_mapM hpairs hp
    obtain ⟨rfl, hargs⟩ := argumentPair_eq_ok_iff.1 hp
    obtain rfl := Except.ok.inj (hargs.symm.trans ((h.argues_iff hg).1 hargues).2)
    exact hpair

/-- The formula collects what the predicates of the graph give. -/
theorem exists_formula (h : t.IsRootedTree) (hg : t.roleGraph = .ok g) :
    ∃ f, t.formula = .ok f ∧
      (∀ atom, atom ∈ f.atoms ↔ ∃ p ∈ g.predicates, ∃ es args, t.Argues g p es args ∧
        atom ∈ predicateAtoms p args) ∧
      ∀ name, name ∈ f.entities ↔ ∃ p ∈ g.predicates, ∃ es args, t.Argues g p es args ∧
        name ∈ args.map (·.1) := by
  obtain ⟨pairs, hpairs, hmem⟩ := h.exists_argumentPairs hg
  have hcollects : ∀ P : String × List (String × Option String) → Prop, (∃ v ∈ pairs, P v) ↔
      ∃ p ∈ g.predicates, ∃ es args, t.Argues g p es args ∧ P (p, args) := by
    intro P
    constructor
    · intro hv
      obtain ⟨⟨p, args⟩, hpair, hP⟩ := hv
      obtain ⟨hp, es, hargues⟩ := (hmem p args).1 hpair
      exact ⟨p, hp, es, args, hargues, hP⟩
    · intro hargues
      obtain ⟨p, hp, es, args, hargues, hP⟩ := hargues
      exact ⟨(p, args), (hmem p args).2 ⟨hp, es, hargues⟩, hP⟩
  have hformula : t.formula = .ok {
      entities := .ofList (pairs.flatMap fun a => a.2.map (·.1))
      atoms := .ofList (pairs.flatMap fun a => predicateAtoms a.1 a.2) } := by
    rw [formula, hg, ok_bind, hpairs]
    rfl
  refine ⟨_, hformula, ?_, ?_⟩
  · intro atom
    rw [SortedSet.mem_ofList, List.mem_flatMap, hcollects]
  · intro name
    rw [SortedSet.mem_ofList, List.mem_flatMap, hcollects]

end IsRootedTree

end Tree

/-! ## Projection -/

/-- **Projection**: a rooted tree has a role graph and a formula, and each predicate of the graph
    has one list of arguments: its numbered edges in their order, of which no two tie. The atoms are
    one for each predicate, applied to its entities, and one for each filled argument that a run of
    nouns names. The entities are those of all arguments, which are the arguments of all atoms.
    Every address of the graph leads to a node, so each filled argument is called by its node. -/
theorem formula_projects_roleGraph {t : Tree} (ht : t.IsRootedTree) :
    ∃ g f, t.roleGraph = .ok g ∧ t.formula = .ok f ∧
      (∀ p ∈ g.predicates, ∃! v : List RoleEdge × List (String × Option String),
        t.Argues g p v.1 v.2) ∧
      (∀ atom, atom ∈ f.atoms ↔ ∃ p ∈ g.predicates, ∃ es args, t.Argues g p es args ∧
        (atom = ⟨p, args.map (·.1)⟩ ∨
          ∃ name noun, (name, some noun) ∈ args ∧ atom = ⟨noun, [name]⟩)) ∧
      (∀ name, name ∈ f.entities ↔ ∃ p ∈ g.predicates, ∃ es args, t.Argues g p es args ∧
        name ∈ args.map (·.1)) ∧
      (∀ name, name ∈ f.entities ↔ ∃ atom ∈ f.atoms, name ∈ atom.args) ∧
      (∀ e ∈ g.edges, ∀ e' ∈ g.edges, e.predicate = e'.predicate → e ≠ e' →
        e.Before e' ∨ e'.Before e) ∧
      ∀ e ∈ g.edges, ∀ a, e.argument = some a → ∃ id n, t.Stands a id n := by
  obtain ⟨g, hg⟩ := ht.exists_roleGraph
  obtain ⟨f, hf, hatoms, hentities⟩ := ht.exists_formula hg
  simp only [Tree.mem_predicateAtoms] at hatoms
  refine ⟨g, f, hg, hf, fun p _ => ht.existsUnique_argues hg p, hatoms, hentities, ?_,
    fun e _ e' _ => RoleEdge.before_or_before,
    fun e he a ha => ht.exists_stands_of_mem_edges hg he ha⟩
  intro name
  rw [hentities]
  constructor
  · intro hname
    obtain ⟨p, hp, es, args, hargues, hname⟩ := hname
    exact ⟨_, (hatoms _).2 ⟨p, hp, es, args, hargues, .inl rfl⟩, hname⟩
  · intro hname
    obtain ⟨atom, hatom, hname⟩ := hname
    obtain ⟨p, hp, es, args, hargues, rfl | ⟨name', noun, harg, rfl⟩⟩ := (hatoms atom).1 hatom
    · exact ⟨p, hp, es, args, hargues, hname⟩
    · -- The one argument of a naming atom is an argument of the predicate.
      obtain rfl := List.mem_singleton.1 hname
      exact ⟨p, hp, es, args, hargues, List.mem_map_of_mem harg⟩

/-- A clause that has a subject, named by a run of two nouns, and waits for an object. One more node
    of the table hangs nowhere and names a child that there is not. -/
def Tree.huntClause : Tree where
  nodes := #[{ Node.plain "S" [{ nounRule [1] .right with role := some "ARG1" }] [.node 1, .node 2]
      with predicate := some "hunt" },
    { Node.plain "NP" [] [.node 3, .node 4] with role := some "ARG0" },
    { Node.plain "VP" [] [.leaf "hunts"] with role := some "manner" },
    .plain "NN" [] [.leaf "farm"],
    .plain "NNS" [] [.leaf "cats"],
    .plain "X" [] [.node 9]]
  root := 0

theorem formula_projects_roleGraph_huntClause :
    Tree.huntClause.IsRootedTree ∧ ¬ Tree.huntClause.IsTree ∧
    ∃ g f es args, Tree.huntClause.roleGraph = .ok g ∧ Tree.huntClause.formula = .ok f ∧
      f.atoms.elems = [⟨"farm_cats", ["NP_0"]⟩, ⟨"hunt", ["NP_0", "ARG1"]⟩] ∧
      f.entities.elems = ["ARG1", "NP_0"] ∧
      Tree.huntClause.Argues g "hunt" es args ∧ args.map (·.1) = ["NP_0", "ARG1"] := by
  have htree : Tree.huntClause.IsRootedTree := by decide +kernel
  have hdangling : ¬ Tree.huntClause.IsTree := by decide +kernel
  have hformula : ∃ f, Tree.huntClause.formula = .ok f ∧
      f.atoms.elems = [⟨"farm_cats", ["NP_0"]⟩, ⟨"hunt", ["NP_0", "ARG1"]⟩] ∧
      f.entities.elems = ["ARG1", "NP_0"] := by
    decide +kernel
  obtain ⟨f, hf, hatoms, hentities⟩ := hformula
  obtain ⟨g, f', hg, hf', _, hiff, _⟩ := formula_projects_roleGraph htree
  obtain rfl := Except.ok.inj (hf.symm.trans hf')
  have hhunt : (⟨"hunt", ["NP_0", "ARG1"]⟩ : Atom) ∈ f.atoms := by
    show _ ∈ f.atoms.elems
    simp [hatoms]
  obtain ⟨p, _, es, args, hargues, hatom | hatom⟩ := (hiff _).1 hhunt
  · obtain ⟨rfl, hargs⟩ := Atom.mk.inj hatom
    exact ⟨htree, hdangling, g, f, es, args, hg, hf, hatoms, hentities, hargues, hargs.symm⟩
  · -- A naming atom has one argument only.
    obtain ⟨name, noun, _, hatom⟩ := hatom
    simp at hatom

end SpineGrammar
