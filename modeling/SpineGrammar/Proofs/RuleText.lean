import SpineGrammar.Proofs.Delimiters
import SpineGrammar.Rule

/-!
# The text of a rule tells the rule

The text of a rule shows all of it but the description of its role and its counts. The label that
it accepts ends at a blank and the role at a semicolon. So if the label has no blank, and neither
has a semicolon, the text of a list of rules tells what is shown of each.
-/

namespace SpineGrammar

/-- What the text of a rule shows. -/
def Rule.shown (r : Rule) : RuleKind × String × Location × Option String :=
  (r.kind, r.pos, r.location, r.role)

/-- A rule whose label and role have no semicolon, and whose label has no blank either. -/
def Rule.Plain (r : Rule) : Prop :=
  (∀ c ∈ r.pos.toList, c ≠ ' ' ∧ c ≠ ';') ∧ ∀ role ∈ r.role, ∀ c ∈ role.toList, c ≠ ';'

instance (r : Rule) : Decidable r.Plain :=
  decidable_of_iff (r.pos.toList.all (fun c => c ≠ ' ' ∧ c ≠ ';') = true ∧
      ∀ role ∈ r.role, role.toList.all (· ≠ ';') = true) (by simp [Rule.Plain])

/-! ## The parts of the text -/

section Parts

variable {rest rest' : List Char}

theorem RuleKind.code_append_inj {k k' : RuleKind}
    (h : k.code.toList ++ rest = k'.code.toList ++ rest') : k = k' ∧ rest = rest' := by
  have hlength : ∀ k : RuleKind, k.code.toList.length = 3 := by
    intro k
    cases k <;> rfl
  obtain ⟨hcode, hrest⟩ := List.append_inj h ((hlength k).trans (hlength k').symm)
  have hread := ofCode?_code k
  rw [String.toList_inj.1 hcode, ofCode?_code] at hread
  exact ⟨(Option.some.inj hread).symm, hrest⟩

theorem Slot.text_append_inj {s s' : Slot}
    (h : s.text.toList ++ rest = s'.text.toList ++ rest') : s = s' ∧ rest = rest' := by
  cases s with
  | left => cases s' with
    | left => exact ⟨rfl, List.append_cancel_left h⟩
    | right => exact absurd (List.head_eq_of_cons_eq h) (by decide)
  | right => cases s' with
    | left => exact absurd (List.head_eq_of_cons_eq h) (by decide)
    | right => exact ⟨rfl, List.append_cancel_left h⟩

theorem Address.toList_text (a : Address) :
    a.text.toList = '(' :: [',', ' '].intercalate (a.map fun i => i.repr.toList) ++ [')'] := by
  rw [text, joined, String.toList_append, String.toList_append, String.toList_intercalate,
    List.map_map]
  rfl

theorem Address.text_append_inj {a a' : Address}
    (h : a.text.toList ++ rest = a'.text.toList ++ rest') : a = a' ∧ rest = rest' := by
  -- An index is a stretch of digits, which ends at a comma or at the bracket.
  have hbracket : ∀ rest : List Char, ∀ c ∈ (')' :: rest).head?, c.isDigit = false ∧ c ≠ ',' := by
    intro rest c hc
    obtain rfl : ')' = c := Option.some.inj hc
    decide
  simp only [toList_text, List.cons_append, List.append_assoc, List.nil_append, List.cons.injEq,
    true_and] at h
  obtain ⟨hmap, hrests⟩ :=
    intercalate_inj (by decide) (stretches_repr a) (stretches_repr a') (hbracket rest)
      (hbracket rest') h
  refine ⟨?_, List.tail_eq_of_cons_eq hrests⟩
  exact (List.map_inj_right fun _ _ => repr_inj).1 hmap

theorem ne_semicolon_of_mem_repr (k : Nat) : ∀ c ∈ k.repr.toList, c ≠ ';' := by
  intro c hc heq
  have hdigit : c.isDigit = true := isDigit_of_mem_repr hc
  rw [heq] at hdigit
  cases hdigit

theorem Address.ne_semicolon (a : Address) : ∀ c ∈ a.text.toList, c ≠ ';' := by
  have hindices : ∀ c ∈ [',', ' '].intercalate (a.map fun i => i.repr.toList), c ≠ ';' := by
    cases a with
    | nil => simp
    | cons i a =>
      rw [List.map_cons, intercalate_cons]
      refine List.forall_mem_append.2 ⟨ne_semicolon_of_mem_repr i, ?_⟩
      simp only [List.mem_flatMap, List.mem_map]
      intro c hc
      obtain ⟨_, ⟨j, _, rfl⟩, hc⟩ := hc
      exact List.forall_mem_append.2 ⟨by simp, ne_semicolon_of_mem_repr j⟩ c hc
  rw [toList_text]
  refine List.forall_mem_append.2 ⟨?_, by simp⟩
  exact List.forall_mem_cons.2 ⟨by decide, hindices⟩

/-- The place of a rule in its text, behind the label. -/
def Location.spelled (l : Location) : List Char :=
  ' ' :: ("on ".toList ++ l.target.text.toList ++ ", slot ".toList ++ l.slot.text.toList
    ++ ", order ".toList ++ l.order.repr.toList)

theorem Location.spelled_append_inj {l l' : Location} (hrest : ∀ c ∈ rest.head?, c.isDigit = false)
    (hrest' : ∀ c ∈ rest'.head?, c.isDigit = false)
    (h : l.spelled ++ rest = l'.spelled ++ rest') : l = l' ∧ rest = rest' := by
  obtain ⟨target, slot, order⟩ := l
  obtain ⟨target', slot', order'⟩ := l'
  simp only [spelled, List.cons_append, List.append_assoc, List.cons.injEq, true_and,
    List.append_cancel_left_eq] at h
  obtain ⟨htarget, hslots⟩ := Address.text_append_inj h
  obtain ⟨hslot, horders⟩ := Slot.text_append_inj (List.append_cancel_left hslots)
  have hdigits : ∀ k : Nat, ∀ c ∈ k.repr.toList, c.isDigit = true :=
    fun _ _ hc => isDigit_of_mem_repr hc
  obtain ⟨horder, hrests⟩ :=
    stretch_inj (hdigits order) (hdigits order') hrest hrest' (List.append_cancel_left horders)
  rw [htarget, hslot, repr_inj horder]
  exact ⟨rfl, hrests⟩

end Parts

/-! ## The whole text -/

namespace Rule

variable {r r' : Rule} {rs rs' : List Rule}

/-- The role of a rule in its text, behind the place. -/
def spelledRole : Option String → List Char
  | some role => ',' :: " role ".toList ++ role.toList
  | none => []

theorem toList_text (r : Rule) : r.text.toList =
    r.kind.code.toList ++ ' ' :: (r.pos.toList ++ (r.location.spelled ++ spelledRole r.role)) := by
  have hplace : ∀ more : List Char,
      r.kind.code.toList ++ " ".toList ++ r.pos.toList ++ " on ".toList ++ r.target.text.toList
        ++ ", slot ".toList ++ r.slot.text.toList ++ ", order ".toList ++ r.order.repr.toList
        ++ more =
      r.kind.code.toList ++ ' ' :: (r.pos.toList ++ (r.location.spelled ++ more)) := by
    intro more
    simp only [Location.spelled, List.append_assoc, List.cons_append]
    rfl
  unfold text
  cases hrole : r.role with
  | none =>
    simp only [String.toList_append]
    refine Eq.trans ?_ (hplace _)
    rw [spelledRole, List.append_nil]
  | some role =>
    simp only [String.toList_append]
    refine Eq.trans ?_ (hplace _)
    rw [spelledRole, ← List.append_assoc]
    rfl

theorem head?_spelledRole (role : Option String) :
    ∀ c ∈ (spelledRole role).head?, c.isDigit = false := by
  intro c hc
  cases role with
  | none => cases hc
  | some role =>
    obtain rfl : ',' = c := Option.some.inj hc
    rfl

theorem spelledRole_inj {role role' : Option String} (h : spelledRole role = spelledRole role') :
    role = role' := by
  cases role with
  | none => cases role' with
    | none => rfl
    | some role' => cases h
  | some role => cases role' with
    | none => cases h
    | some role' => rw [String.toList_inj.1 (List.append_cancel_left h)]

/-- The text of a rule tells what it shows. -/
theorem Plain.text_eq_iff (hr : r.Plain) (hr' : r'.Plain) :
    r.text = r'.text ↔ r.shown = r'.shown := by
  rw [← String.toList_inj, toList_text, toList_text]
  constructor
  · intro h
    obtain ⟨hkind, h⟩ := RuleKind.code_append_inj h
    -- The label ends at the blank in front of the place.
    have hblank : ∀ {r : Rule}, r.Plain → ∀ c ∈ r.pos.toList, (c ≠ ' ' : Bool) = true :=
      fun hplain c hc => decide_eq_true (hplain.1 c hc).1
    have hplace : ∀ (l : Location) (more : List Char), ∀ c ∈ (l.spelled ++ more).head?,
        (c ≠ ' ' : Bool) = false := by
      intro l more c hc
      obtain rfl : ' ' = c := Option.some.inj hc
      rfl
    obtain ⟨hpos, h⟩ := stretch_inj (p := fun c => c ≠ ' ') (hblank hr) (hblank hr')
      (hplace _ _) (hplace _ _) (List.tail_eq_of_cons_eq h)
    obtain ⟨hlocation, h⟩ :=
      Location.spelled_append_inj (head?_spelledRole _) (head?_spelledRole _) h
    rw [shown, shown, hkind, String.toList_inj.1 hpos, hlocation, spelledRole_inj h]
  · intro h
    simp only [shown, Prod.mk.injEq] at h
    obtain ⟨hkind, hpos, hlocation, hrole⟩ := h
    rw [hkind, hpos, hlocation, hrole]

/-- A rule without semicolons has none in its text. -/
theorem Plain.ne_semicolon (hr : r.Plain) : ∀ c ∈ r.text.toList, c ≠ ';' := by
  have hkind : ∀ c ∈ r.kind.code.toList, c ≠ ';' := by
    cases r.kind <;> simp [RuleKind.code]
  have hslot : ∀ c ∈ r.location.slot.text.toList, c ≠ ';' := by
    cases r.location.slot <;> simp [Slot.text]
  have hplace : ∀ c ∈ r.location.spelled, c ≠ ';' := by
    simp only [Location.spelled, List.forall_mem_cons, List.forall_mem_append]
    exact ⟨by simp, ⟨⟨⟨⟨by simp, r.target.ne_semicolon⟩, by simp⟩, hslot⟩, by simp⟩,
      ne_semicolon_of_mem_repr r.order⟩
  have hrole : ∀ c ∈ spelledRole r.role, c ≠ ';' := by
    cases hr' : r.role with
    | none => simp [spelledRole]
    | some role => exact List.forall_mem_append.2 ⟨by simp, hr.2 role hr'⟩
  rw [toList_text]
  refine List.forall_mem_append.2 ⟨hkind, List.forall_mem_cons.2 ⟨by decide, ?_⟩⟩
  simp only [List.forall_mem_append]
  exact ⟨fun c hc => (hr.1 c hc).2, hplace, hrole⟩

/-! ## Lists of rules -/

theorem map_text_eq_iff (hrs : ∀ r ∈ rs, r.Plain) (hrs' : ∀ r ∈ rs', r.Plain) :
    rs.map text = rs'.map text ↔ rs.map shown = rs'.map shown := by
  induction rs generalizing rs' with
  | nil => simp
  | cons r rs ih =>
    cases rs' with
    | nil => simp
    | cons r' rs' =>
      obtain ⟨hr, hrs⟩ := List.forall_mem_cons.1 hrs
      obtain ⟨hr', hrs'⟩ := List.forall_mem_cons.1 hrs'
      rw [List.map_cons, List.map_cons, List.cons.injEq, hr.text_eq_iff hr', ih hrs hrs',
        List.map_cons, List.map_cons, List.cons.injEq]

/-- The text of a list of rules tells what is shown of each. -/
theorem intercalate_text_eq_iff (hrs : ∀ r ∈ rs, r.Plain) (hrs' : ∀ r ∈ rs', r.Plain) :
    "; ".intercalate (rs.map text) = "; ".intercalate (rs'.map text) ↔
      rs.map shown = rs'.map shown := by
  rw [← map_text_eq_iff hrs hrs']
  constructor
  · intro h
    have hitems : ∀ {rs : List Rule}, (∀ r ∈ rs, r.Plain) →
        ∀ x ∈ (rs.map text).map String.toList, x ≠ [] ∧ ∀ c ∈ x, (c ≠ ';' : Bool) = true := by
      intro rs hrs x hx
      rw [List.map_map] at hx
      obtain ⟨r, hr, rfl⟩ := List.mem_map.1 hx
      refine ⟨?_, fun c hc => decide_eq_true ((hrs r hr).ne_semicolon c hc)⟩
      show r.text.toList ≠ []
      simp [toList_text]
    have hlists := congrArg String.toList h
    rw [String.toList_intercalate, String.toList_intercalate] at hlists
    have hends : ∀ c ∈ ([] : List Char).head?, (c ≠ ';' : Bool) = false ∧ c ≠ ';' := by simp
    -- Nothing follows the last text, and none of them has a semicolon.
    obtain ⟨hmap, _⟩ := intercalate_inj (p := fun c => c ≠ ';') (by decide) (hitems hrs)
      (hitems hrs') hends hends (congrArg (· ++ []) hlists)
    exact (List.map_inj_right fun _ _ => String.toList_inj.1).1 hmap
  · intro h
    rw [h]

end Rule

end SpineGrammar
