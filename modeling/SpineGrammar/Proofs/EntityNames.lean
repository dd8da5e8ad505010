import SpineGrammar.Proofs.Delimiters
import SpineGrammar.Proofs.Projection

/-!
# What the name of an entity tells

A filled argument is called by its label, an underscore and the indices of its address. The indices
tell the address, and the label ends at an underscore; so names with one label are told apart, and
so are names whose labels have no underscore. A name can be read in two ways only where an
underscore of a label may as well be one between indices. A placeholder has no underscore at all.
-/

namespace SpineGrammar

/-! ## Names -/

namespace Address

variable {a b : Address}

theorem toList_suffix (a : Address) :
    a.suffix.toList = ['_'].intercalate (a.map fun i => i.repr.toList) := by
  rw [suffix, joined, String.toList_intercalate, List.map_map]
  rfl

/-- The indices are told from each other, and the root, which has none, from every other address. -/
theorem suffix_injective : Function.Injective suffix := by
  intro a b h
  have hlists : ['_'].intercalate (a.map fun i => i.repr.toList) ++ [] =
      ['_'].intercalate (b.map fun i => i.repr.toList) ++ [] := by
    rw [← toList_suffix, ← toList_suffix, h]
  have hend : ∀ c ∈ ([] : List Char).head?, c.isDigit = false ∧ c ≠ '_' := by simp
  obtain ⟨hmap, _⟩ :=
    intercalate_inj (by decide) (stretches_repr a) (stretches_repr b) hend hend hlists
  exact (List.map_inj_right fun _ _ => repr_inj).1 hmap

end Address

namespace Tree

variable {label label' : String} {a b : Address}

theorem toList_entityName (label : String) (a : Address) :
    (entityName label a).toList = label.toList ++ '_' :: a.suffix.toList := by
  rw [entityName, String.toList_append, String.toList_append, List.append_assoc]
  rfl

/-- Names with one label have one address. -/
theorem eq_of_entityName_eq (h : entityName label a = entityName label b) : a = b := by
  have hlists := congrArg String.toList h
  rw [toList_entityName, toList_entityName, List.append_cancel_left_eq] at hlists
  exact Address.suffix_injective (String.toList_inj.1 (List.tail_eq_of_cons_eq hlists))

/-- A label without underscores ends at the first underscore of the name. -/
theorem entityName_inj (hlabel : '_' ∉ label.toList) (hlabel' : '_' ∉ label'.toList)
    (h : entityName label a = entityName label' b) : label = label' ∧ a = b := by
  have hstretch : ∀ label : String, '_' ∉ label.toList →
      ∀ c ∈ label.toList, decide (c ≠ '_') = true := by
    intro label hnone c hc
    have hne : c ≠ '_' := fun heq => hnone (heq ▸ hc)
    exact decide_eq_true hne
  have hmark : ∀ rest : List Char, ∀ c ∈ ('_' :: rest).head?, decide (c ≠ '_') = false := by
    intro rest c hc
    obtain rfl : '_' = c := Option.some.inj hc
    rfl
  have hlists := congrArg String.toList h
  rw [toList_entityName, toList_entityName] at hlists
  obtain ⟨heq, _⟩ :=
    stretch_inj (hstretch label hlabel) (hstretch label' hlabel') (hmark _) (hmark _) hlists
  obtain rfl : label = label' := String.toList_inj.1 heq
  exact ⟨rfl, eq_of_entityName_eq h⟩

/-- Arguments at different addresses that share a name have different labels, and not both labels
    are free of underscores. -/
theorem label_ne_of_entityName_eq (hne : a ≠ b) (h : entityName label a = entityName label' b) :
    label ≠ label' ∧ ('_' ∈ label.toList ∨ '_' ∈ label'.toList) := by
  constructor
  · intro heq
    subst heq
    exact hne (eq_of_entityName_eq h)
  · by_contra hfree
    rw [not_or] at hfree
    exact hne (entityName_inj hfree.1 hfree.2 h).2

/-- The name of a filled argument is no placeholder: of the two only the name has an underscore. -/
theorem entityName_ne_placeholder (label : String) (a : Address) (i : Nat) :
    entityName label a ≠ "ARG" ++ i.repr := by
  intro h
  have hname : '_' ∈ (entityName label a).toList := by
    rw [toList_entityName]
    exact List.mem_append_right _ List.mem_cons_self
  rw [h, String.toList_append, List.mem_append] at hname
  rcases hname with hletter | hdigit
  · revert hletter
    decide
  · have hbad : ('_').isDigit = true := isDigit_of_mem_repr hdigit
    cases hbad

end Tree

/-! ## Arguments of a derivation -/

/-- `t.Presents g place name`: among the arguments of the predicates of `g` there is one that has
    the entity `name`; it stands at the address `place`, or is awaited if there is none. -/
def Tree.Presents (t : Tree) (g : RoleGraph) (place : Option Address) (name : String) : Prop :=
  ∃ p ∈ g.predicates, ∃ es args, t.Argues g p es args ∧
    ∃ (i : Nat) (e : RoleEdge) (noun : Option String),
      es[i]? = some e ∧ args[i]? = some (name, noun) ∧ e.argument = place

namespace Tree

variable {t : Tree} {g : RoleGraph} {place : Option Address} {a b : Address} {name : String}

/-- A filled argument is called by the label of its node and by its address. -/
theorem Presents.exists_stands (h : t.Presents g (some a) name) :
    ∃ id n, t.Stands a id n ∧ name = entityName n.label a := by
  obtain ⟨p, _, es, args, hargues, i, e, noun, he, harg, hplace⟩ := h
  cases hargues.calls i e name noun he harg with
  | awaited hnone =>
    rw [hplace] at hnone
    cases hnone
  | filled hsome hn _ =>
    obtain rfl := Option.some.inj (hplace.symm.trans hsome)
    exact ⟨_, _, hn, rfl⟩

/-- An awaited argument is called by a placeholder. -/
theorem Presents.exists_placeholder (h : t.Presents g none name) :
    ∃ i : Nat, name = "ARG" ++ i.repr := by
  obtain ⟨p, _, es, args, hargues, i, e, noun, he, harg, hplace⟩ := h
  cases hargues.calls i e name noun he harg with
  | awaited _ => exact ⟨i, rfl⟩
  | filled hsome _ _ =>
    rw [hplace] at hsome
    cases hsome

/-- The names among the arguments of a predicate are those that its edges have. -/
theorem Argues.mem_names_iff {p : String} {es : List RoleEdge}
    {args : List (String × Option String)} (h : t.Argues g p es args) :
    name ∈ args.map (·.1) ↔ ∃ (i : Nat) (e : RoleEdge) (noun : Option String),
      es[i]? = some e ∧ args[i]? = some (name, noun) := by
  constructor
  · intro hname
    obtain ⟨⟨name', noun⟩, harg, rfl⟩ := List.mem_map.1 hname
    obtain ⟨i, hi⟩ := List.getElem?_of_mem harg
    have hlt : i < es.length := by
      rw [← h.length_eq]
      exact (List.getElem?_eq_some_iff.1 hi).1
    exact ⟨i, es[i], noun, List.getElem?_eq_getElem hlt, hi⟩
  · intro hname
    obtain ⟨i, e, noun, _, hi⟩ := hname
    exact List.mem_map_of_mem (f := (·.1)) (List.mem_of_getElem? hi)

/-- The addresses of filled arguments are those of the numbered edges that have a predicate. -/
theorem IsRootedTree.exists_presents_iff (h : t.IsRootedTree) (hg : t.roleGraph = .ok g) :
    (∃ name, t.Presents g place name) ↔
      ∃ e ∈ g.edges, e.argument = place ∧ e.predicate.isSome ∧ e.isNumbered = true := by
  constructor
  · intro hpresents
    obtain ⟨name, p, _, es, args, hargues, i, e, noun, he, _, hplace⟩ := hpresents
    obtain ⟨hedge, hp, hnumbered⟩ := (hargues.lists.mem_iff e).1 (List.mem_of_getElem? he)
    exact ⟨e, hedge, hplace, by simp [hp], RoleEdge.isNumbered_iff.2 hnumbered⟩
  · intro hedge
    obtain ⟨e, he, hplace, hsome, hnumbered⟩ := hedge
    obtain ⟨p, hp⟩ := Option.isSome_iff_exists.1 hsome
    obtain ⟨⟨es, args⟩, hargues, _⟩ := h.existsUnique_argues hg p
    have hmem : e ∈ es := (hargues.lists.mem_iff e).2 ⟨he, hp, RoleEdge.isNumbered_iff.1 hnumbered⟩
    obtain ⟨i, hi⟩ := List.getElem?_of_mem hmem
    have hlt : i < args.length := by
      rw [hargues.length_eq]
      exact (List.getElem?_eq_some_iff.1 hi).1
    exact ⟨args[i].1, p, h.mem_predicates_of_mem_edges hg he hp, es, args, hargues, i, e,
      args[i].2, hi, List.getElem?_eq_getElem hlt, hplace⟩

end Tree

/-! ## Entities -/

/-- **Entity names**: the indices at the end of a name tell the address. A rooted tree has a role
    graph and a formula whose entities are the names of the arguments, and an argument at an address
    is a numbered edge that has a predicate. Two arguments at different addresses share a name only
    if their labels differ and one of the labels has an underscore; so if no label below the root
    has one, they never do. The name of a filled argument is never that of an awaited one. -/
theorem entities_identify_arguments {t : Tree} (ht : t.IsRootedTree) :
    Function.Injective Address.suffix ∧
    ∃ g f, t.roleGraph = .ok g ∧ t.formula = .ok f ∧
      (∀ name, name ∈ f.entities ↔ ∃ place, t.Presents g place name) ∧
      (∀ place, (∃ name, t.Presents g place name) ↔
        ∃ e ∈ g.edges, e.argument = place ∧ e.predicate.isSome ∧ e.isNumbered = true) ∧
      (∀ a b name, a ≠ b → t.Presents g (some a) name → t.Presents g (some b) name →
        ∃ id n id' n', t.Stands a id n ∧ t.Stands b id' n' ∧ n.label ≠ n'.label ∧
          ('_' ∈ n.label.toList ∨ '_' ∈ n'.label.toList)) ∧
      (∀ a name, t.Presents g (some a) name →
        (∀ i : Nat, name ≠ "ARG" ++ i.repr) ∧ ¬ t.Presents g none name) ∧
      ((∀ id n, t.Reaches id → t.node id = .ok n → '_' ∉ n.label.toList) →
        ∀ a b name, t.Presents g (some a) name → t.Presents g (some b) name → a = b) := by
  obtain ⟨g, hg⟩ := ht.exists_roleGraph
  obtain ⟨f, hf, _, hentities⟩ := ht.exists_formula hg
  have hshared : ∀ a b name, a ≠ b → t.Presents g (some a) name → t.Presents g (some b) name →
      ∃ id n id' n', t.Stands a id n ∧ t.Stands b id' n' ∧ n.label ≠ n'.label ∧
        ('_' ∈ n.label.toList ∨ '_' ∈ n'.label.toList) := by
    intro a b name hne ha hb
    obtain ⟨id, n, hn, rfl⟩ := ha.exists_stands
    obtain ⟨id', n', hn', hname⟩ := hb.exists_stands
    exact ⟨id, n, id', n', hn, hn', Tree.label_ne_of_entityName_eq hne hname⟩
  refine ⟨Address.suffix_injective, g, f, hg, hf, ?_, fun _ => ht.exists_presents_iff hg,
    hshared, ?_, ?_⟩
  · intro name
    rw [hentities]
    constructor
    · intro hname
      obtain ⟨p, hp, es, args, hargues, hname⟩ := hname
      obtain ⟨i, e, noun, he, harg⟩ := hargues.mem_names_iff.1 hname
      exact ⟨e.argument, p, hp, es, args, hargues, i, e, noun, he, harg, rfl⟩
    · intro hpresents
      obtain ⟨_, p, hp, es, args, hargues, i, e, noun, he, harg, _⟩ := hpresents
      exact ⟨p, hp, es, args, hargues, hargues.mem_names_iff.2 ⟨i, e, noun, he, harg⟩⟩
  · intro a name ha
    obtain ⟨id, n, _, rfl⟩ := ha.exists_stands
    refine ⟨Tree.entityName_ne_placeholder n.label a, ?_⟩
    intro hawaited
    obtain ⟨i, hi⟩ := hawaited.exists_placeholder
    exact Tree.entityName_ne_placeholder n.label a i hi
  · intro hfree a b name ha hb
    by_contra hne
    obtain ⟨id, n, id', n', hn, hn', _, hunderscore⟩ := hshared a b name hne ha hb
    rcases hunderscore with hlabel | hlabel
    · exact hfree id n hn.reaches hn.node hlabel
    · exact hfree id' n' hn'.reaches hn'.node hlabel

/-- A clause with a subject and an object, which waits for one more argument. The object is the
    first child of the second child of the root. -/
def Tree.chaseClause (subject : String) : Tree where
  nodes := #[{ Node.plain "S" [] [.node 1, .node 2] with predicate := some "chase" },
    { Node.plain subject [] [.leaf "cats"] with role := some "ARG0" },
    .plain "VP" [{ nounRule [] .right with role := some "ARG2" }] [.node 3],
    { Node.plain "NP" [] [.leaf "mice"] with role := some "ARG1" }]
  root := 0

/-- With the label `NP_1` the subject has the name of the object. With the label `NP` no two
    arguments share a name. -/
theorem entities_identify_arguments_chaseClause :
    ((Tree.chaseClause "NP_1").IsRootedTree ∧
      ∃ g, (Tree.chaseClause "NP_1").roleGraph = .ok g ∧
        (Tree.chaseClause "NP_1").Presents g (some [0]) "NP_1_0" ∧
        (Tree.chaseClause "NP_1").Presents g (some [1, 0]) "NP_1_0" ∧
        ¬ (Tree.chaseClause "NP_1").Presents g none "NP_1_0" ∧
        ∃ id n id' n', (Tree.chaseClause "NP_1").Stands [0] id n ∧
          (Tree.chaseClause "NP_1").Stands [1, 0] id' n' ∧ n.label ≠ n'.label ∧
          ('_' ∈ n.label.toList ∨ '_' ∈ n'.label.toList)) ∧
    (Tree.chaseClause "NP").IsRootedTree ∧
      (∀ n ∈ (Tree.chaseClause "NP").nodes, '_' ∉ n.label.toList) ∧
      ∃ g, (Tree.chaseClause "NP").roleGraph = .ok g ∧
        ∀ a b name, (Tree.chaseClause "NP").Presents g (some a) name →
          (Tree.chaseClause "NP").Presents g (some b) name → a = b := by
  have htree : ∀ subject ∈ ["NP_1", "NP"], (Tree.chaseClause subject).IsRootedTree := by
    decide +kernel
  have hfree : ∀ n ∈ (Tree.chaseClause "NP").nodes, '_' ∉ n.label.toList := by decide +kernel
  have hformula : ∃ f, (Tree.chaseClause "NP_1").formula = .ok f ∧
      f.entities.elems = ["ARG2", "NP_1_0"] := by
    decide +kernel
  have hgraph : ∃ g, (Tree.chaseClause "NP_1").roleGraph = .ok g ∧ g.edges.elems =
      [⟨"ARG0", some [0], some "chase"⟩, ⟨"ARG1", some [1, 0], some "chase"⟩,
        ⟨"ARG2", none, some "chase"⟩] := by
    decide +kernel
  refine ⟨?_, htree "NP" (by simp), hfree, ?_⟩
  · obtain ⟨_, g, f, hg, hf, hentities, hplaces, hshared, hnames, _⟩ :=
      entities_identify_arguments (htree "NP_1" (by simp))
    obtain ⟨f', hf', helems⟩ := hformula
    obtain ⟨g', hg', hedges⟩ := hgraph
    obtain rfl := Except.ok.inj (hf.symm.trans hf')
    obtain rfl := Except.ok.inj (hg.symm.trans hg')
    -- Of the two entities one is a placeholder, so a filled argument has the other one.
    have hpresents : ∀ e ∈ g.edges.elems, ∀ a, e.argument = some a → e.predicate.isSome →
        e.isNumbered = true → (Tree.chaseClause "NP_1").Presents g (some a) "NP_1_0" := by
      intro e he a ha hpredicate hnumbered
      obtain ⟨name, hname⟩ := (hplaces (some a)).2 ⟨e, he, ha, hpredicate, hnumbered⟩
      have hmem : name ∈ f.entities.elems := (hentities name).2 ⟨some a, hname⟩
      rw [helems, List.mem_pair] at hmem
      rcases hmem with rfl | rfl
      · exact absurd rfl ((hnames a "ARG2" hname).1 2)
      · exact hname
    have hsubject := hpresents ⟨"ARG0", some [0], some "chase"⟩ (by simp [hedges]) [0] rfl rfl
      (by decide +kernel)
    have hobject := hpresents ⟨"ARG1", some [1, 0], some "chase"⟩ (by simp [hedges]) [1, 0] rfl rfl
      (by decide +kernel)
    exact ⟨htree "NP_1" (by simp), g, hg, hsubject, hobject, (hnames [0] "NP_1_0" hsubject).2,
      hshared [0] [1, 0] "NP_1_0" (by decide) hsubject hobject⟩
  · obtain ⟨_, g, f, hg, _, _, _, _, _, hdistinct⟩ :=
      entities_identify_arguments (htree "NP" (by simp))
    exact ⟨g, hg, hdistinct fun id n _ hn => hfree n (Tree.mem_of_node_eq_ok hn)⟩

end SpineGrammar
