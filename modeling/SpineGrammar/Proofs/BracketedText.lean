import SpineGrammar.Proofs.Delimiters
import SpineGrammar.Proofs.Unfolding

/-!
# Bracketed text tells the tree

Where labels and words are tokens, which means that they have no blank and no bracket and are not
empty, the bracketed text of a tree tells its structure, its labels and its words. A forest is read
from the left: a word starts with a token character and a group with a bracket, the token ends at
the first character of another kind, and a group ends at the bracket that closes it. That bracket is
found by induction, so the statement is about texts that go on behind it.
-/

namespace SpineGrammar

/-! ## Trees that are alike -/

/-- The same structure with the same words, and nodes that correspond are related. -/
inductive Forest.Alike (R : Node → Node → Prop) : Forest → Forest → Prop where
  | nil : Forest.Alike R .nil .nil
  | leaf {word : String} {rest rest' : Forest} :
      Forest.Alike R rest rest' → Forest.Alike R (.leaf word rest) (.leaf word rest')
  | node {id id' : Nat} {n n' : Node} {below below' rest rest' : Forest} :
      R n n' → Forest.Alike R below below' → Forest.Alike R rest rest' →
      Forest.Alike R (.node id n below rest) (.node id' n' below' rest')

/-- The same structure with the same words, and nodes that correspond are related, the root too. -/
structure Branch.Alike (R : Node → Node → Prop) (b c : Branch) : Prop where
  data : R b.data c.data
  below : b.below.Alike R c.below

/-- What two tables denote is alike. Ids play no part in it. -/
def Tree.Alike (R : Node → Node → Prop) (t u : Tree) : Prop :=
  ∃ b, t.unfold = .ok b ∧ ∃ c, u.unfold = .ok c ∧ b.Alike R c

section Deciding

variable {R : Node → Node → Prop} [DecidableRel R]

instance Forest.decidableAlike : (f g : Forest) → Decidable (f.Alike R g)
  | .nil, .nil => isTrue .nil
  | .leaf word f, .leaf word' g =>
    have := decidableAlike f g
    decidable_of_iff (word = word' ∧ f.Alike R g)
      ⟨fun ⟨hword, h⟩ => hword ▸ .leaf h, fun | .leaf h => ⟨rfl, h⟩⟩
  | .node _ n below f, .node _ n' below' g =>
    have := decidableAlike below below'
    have := decidableAlike f g
    decidable_of_iff (R n n' ∧ below.Alike R below' ∧ f.Alike R g)
      ⟨fun ⟨hn, hbelow, h⟩ => .node hn hbelow h, fun | .node hn hbelow h => ⟨hn, hbelow, h⟩⟩
  | .nil, .leaf _ _ => isFalse nofun
  | .nil, .node _ _ _ _ => isFalse nofun
  | .leaf _ _, .nil => isFalse nofun
  | .leaf _ _, .node _ _ _ _ => isFalse nofun
  | .node _ _ _ _, .nil => isFalse nofun
  | .node _ _ _ _, .leaf _ _ => isFalse nofun

instance (b c : Branch) : Decidable (b.Alike R c) :=
  decidable_of_iff (R b.data c.data ∧ b.below.Alike R c.below)
    ⟨fun ⟨hdata, hbelow⟩ => ⟨hdata, hbelow⟩, fun h => ⟨h.data, h.below⟩⟩

instance (t u : Tree) : Decidable (t.Alike R u) :=
  inferInstanceAs (Decidable (∃ b, t.unfold = .ok b ∧ ∃ c, u.unfold = .ok c ∧ b.Alike R c))

end Deciding

/-- Nodes with one label. -/
def Node.SameLabel (n n' : Node) : Prop := n.label = n'.label

instance : DecidableRel Node.SameLabel := fun n n' =>
  inferInstanceAs (Decidable (n.label = n'.label))

/-! ## Tokens -/

/-- The characters that do not end a token. -/
def isTokenChar (c : Char) : Bool := c ≠ ' ' ∧ c ≠ '(' ∧ c ≠ ')'

/-- A label or a word without blanks and brackets. -/
def IsToken (s : String) : Prop := s.toList ≠ [] ∧ ∀ c ∈ s.toList, isTokenChar c = true

instance (s : String) : Decidable (IsToken s) :=
  decidable_of_iff (s.toList ≠ [] ∧ s.toList.all isTokenChar = true)
    (and_congr_right fun _ => List.all_eq_true)

/-- A token does not start with a bracket. -/
theorem IsToken.ne_bracket {word : String} (hword : IsToken word) {rest rest' : List Char} :
    word.toList ++ rest ≠ '(' :: rest' := by
  obtain ⟨c, tail, htail⟩ := List.exists_cons_of_ne_nil hword.1
  have hc : isTokenChar c = true := hword.2 c (htail ▸ List.mem_cons_self)
  intro h
  rw [htail, List.cons_append, List.cons.injEq] at h
  rw [h.1] at hc
  cases hc

namespace Forest

/-- All labels and words are tokens. -/
def Tokens : Forest → Prop
  | nil => True
  | leaf word rest => IsToken word ∧ rest.Tokens
  | node _ n below rest => IsToken n.label ∧ below.Tokens ∧ rest.Tokens

/-! ## The text of a forest -/

/-- The bracketed text, with a blank before each item. -/
def spaced : Forest → List Char
  | nil => []
  | leaf word rest => ' ' :: word.toList ++ rest.spaced
  | node _ n below rest => ' ' :: '(' :: n.label.toList ++ below.spaced ++ ')' :: rest.spaced

/-- A bracketed group: the label, then each text behind a blank. -/
theorem toList_group (label : String) (texts : List String) :
    ("(" ++ " ".intercalate (label :: texts) ++ ")").toList =
      '(' :: label.toList ++ (texts.flatMap fun text => ' ' :: text.toList) ++ [')'] := by
  have hlist : (" ".intercalate (label :: texts)).toList =
      label.toList ++ texts.flatMap fun text => ' ' :: text.toList := by
    rw [String.toList_intercalate, List.map_cons, intercalate_cons, List.flatMap_map]
    rfl
  rw [String.toList_append, String.toList_append, hlist]
  rfl

theorem flatMap_texts (f : Forest) :
    (f.texts.flatMap fun text => ' ' :: text.toList) = f.spaced := by
  induction f with
  | nil => rfl
  | leaf word rest ih => rw [texts, List.flatMap_cons, ih, spaced]
  | node id n below rest ihbelow ihrest =>
    rw [texts, List.flatMap_cons, ihrest, toList_group, ihbelow, spaced]
    simp only [List.cons_append, List.append_assoc, List.nil_append]

variable {f g : Forest} {R : Node → Node → Prop} {rest rest' : List Char}

/-- No token goes on where a forest starts or where it has ended. -/
theorem head?_spaced (f : Forest) :
    ∀ c ∈ (f.spaced ++ ')' :: rest).head?, isTokenChar c = false := by
  intro c hc
  cases f with
  | nil =>
    obtain rfl : ')' = c := Option.some.inj hc
    rfl
  | leaf word f =>
    obtain rfl : ' ' = c := Option.some.inj hc
    rfl
  | node id n below f =>
    obtain rfl : ' ' = c := Option.some.inj hc
    rfl

/-- Two texts of forests that go on with a closing bracket tell the forests, and how they go on. -/
theorem spaced_inj (hf : f.Tokens) (hg : g.Tokens)
    (h : f.spaced ++ ')' :: rest = g.spaced ++ ')' :: rest') :
    f.Alike Node.SameLabel g ∧ rest = rest' := by
  induction f generalizing g rest rest' with
  | nil =>
    cases g with
    | nil => exact ⟨.nil, List.tail_eq_of_cons_eq h⟩
    | leaf _ _ => exact absurd (List.head_eq_of_cons_eq h) (by decide)
    | node _ _ _ _ => exact absurd (List.head_eq_of_cons_eq h) (by decide)
  | leaf word f ih =>
    cases g with
    | nil => exact absurd (List.head_eq_of_cons_eq h) (by decide)
    | leaf word' g =>
      simp only [spaced, List.cons_append, List.append_assoc, List.cons.injEq, true_and] at h
      obtain ⟨hword, hforests⟩ := stretch_inj hf.1.2 hg.1.2 (head?_spaced f) (head?_spaced g) h
      obtain rfl : word = word' := String.toList_inj.1 hword
      obtain ⟨halike, hrest⟩ := ih hf.2 hg.2 hforests
      exact ⟨.leaf halike, hrest⟩
    | node id n below g =>
      simp only [spaced, List.cons_append, List.append_assoc, List.cons.injEq, true_and] at h
      exact absurd h hf.1.ne_bracket
  | node id n below f ihbelow ihrest =>
    cases g with
    | nil => exact absurd (List.head_eq_of_cons_eq h) (by decide)
    | leaf word g =>
      simp only [spaced, List.cons_append, List.append_assoc, List.cons.injEq, true_and] at h
      exact absurd h.symm hg.1.ne_bracket
    | node id' n' below' g =>
      simp only [spaced, List.cons_append, List.append_assoc, List.cons.injEq, true_and] at h
      obtain ⟨hlabel, h⟩ :=
        stretch_inj hf.1.2 hg.1.2 (head?_spaced below) (head?_spaced below') h
      -- What is below goes on with the bracket that closes the group, and so do both forests.
      obtain ⟨hbelow, h⟩ := ihbelow hf.2.1 hg.2.1 h
      obtain ⟨hrest, hrests⟩ := ihrest hf.2.2 hg.2.2 h
      exact ⟨.node (String.toList_inj.1 hlabel) hbelow hrest, hrests⟩

theorem Alike.spaced_eq (h : f.Alike Node.SameLabel g) : f.spaced = g.spaced := by
  induction h with
  | nil => rfl
  | leaf _ ih => rw [spaced, spaced, ih]
  | node hlabel _ _ ihbelow ihrest => rw [spaced, spaced, hlabel, ihbelow, ihrest]

end Forest

/-! ## The text of a tree -/

namespace Branch

variable {b c : Branch} {rest rest' : List Char}

/-- All labels and words are tokens. -/
def Tokens (b : Branch) : Prop := IsToken b.data.label ∧ b.below.Tokens

theorem toList_text (b : Branch) :
    b.text.toList = '(' :: b.data.label.toList ++ b.below.spaced ++ [')'] := by
  rw [text, Forest.toList_group, Forest.flatMap_texts]

/-- The bracketed text of a tree tells the tree, and how the text goes on. -/
theorem text_append_inj_iff (hb : b.Tokens) (hc : c.Tokens) :
    b.text.toList ++ rest = c.text.toList ++ rest' ↔
      b.Alike Node.SameLabel c ∧ rest = rest' := by
  simp only [toList_text, List.cons_append, List.append_assoc, List.cons.injEq, true_and,
    List.nil_append]
  constructor
  · intro h
    obtain ⟨hlabel, h⟩ :=
      stretch_inj hb.1.2 hc.1.2 (Forest.head?_spaced b.below) (Forest.head?_spaced c.below) h
    obtain ⟨hbelow, hrest⟩ := Forest.spaced_inj hb.2 hc.2 h
    exact ⟨⟨String.toList_inj.1 hlabel, hbelow⟩, hrest⟩
  · intro h
    obtain ⟨halike, rfl⟩ := h
    rw [halike.data, halike.below.spaced_eq]

end Branch

/-! ## Tables whose labels and words are tokens -/

/-- A child that is a word is a token. -/
def Child.Tokens : Child → Prop
  | .leaf word => IsToken word
  | .node _ => True

instance : DecidablePred Child.Tokens
  | .leaf word => inferInstanceAs (Decidable (IsToken word))
  | .node _ => inferInstanceAs (Decidable True)

/-- The label of a node and the words right below it are tokens. -/
def Node.Tokens (n : Node) : Prop := IsToken n.label ∧ ∀ c ∈ n.children, c.Tokens

instance (n : Node) : Decidable n.Tokens :=
  inferInstanceAs (Decidable (IsToken n.label ∧ ∀ c ∈ n.children, c.Tokens))

namespace Tree

variable {t : Tree} {b : Branch}

theorem Unfolds.tokens {cs : List Child} {f : Forest} (h : t.Unfolds cs f)
    (hcs : ∀ c ∈ cs, c.Tokens) (hnodes : ∀ id ∈ f.ids, ∀ n, t.node id = .ok n → n.Tokens) :
    f.Tokens := by
  induction h with
  | nil => trivial
  | leaf _ ih =>
    obtain ⟨hword, hcs⟩ := List.forall_mem_cons.1 hcs
    exact ⟨hword, ih hcs hnodes⟩
  | node hn _ _ ihbelow ihrest =>
    obtain ⟨_, hcs⟩ := List.forall_mem_cons.1 hcs
    obtain ⟨hnode, hnodes⟩ := List.forall_mem_cons.1 hnodes
    obtain ⟨hbelow, hrest⟩ := List.forall_mem_append.1 hnodes
    have htokens := hnode _ hn
    exact ⟨htokens.1, ihbelow htokens.2 hbelow, ihrest hcs hrest⟩

/-- A branch has tokens if the nodes of the table have that it holds. -/
theorem Holds.tokens (h : t.Holds b) (hnodes : ∀ id ∈ b.ids, ∀ n, t.node id = .ok n → n.Tokens) :
    b.Tokens := by
  obtain ⟨hroot, hbelow⟩ := List.forall_mem_cons.1 hnodes
  have htokens := hroot _ h.node
  exact ⟨htokens.1, h.below.tokens htokens.2 hbelow⟩

end Tree

end SpineGrammar
