import SpineGrammar.Sorted.Set

/-!
# Sorted maps

A finite map kept as a list of entries whose keys strictly ascend. A key that is written again takes
the new value. The entries of a map write the same map again (`ofList_entries`).
-/

namespace SpineGrammar

section Entries

variable {κ ν : Type} [Ord κ]

/-- The keys of the entries strictly ascend. -/
def AscendingKeys (es : List (κ × ν)) : Prop :=
  es.Pairwise fun a b => compare a.1 b.1 = .lt

/-- Writes a value under a key, at the key's place. -/
def putEntry (k : κ) (v : ν) : List (κ × ν) → List (κ × ν)
  | [] => [(k, v)]
  | e :: es =>
    match compare k e.1 with
    | .lt => (k, v) :: e :: es
    | .eq => (k, v) :: es
    | .gt => e :: putEntry k v es

theorem fst_mem_putEntry {k : κ} {v : ν} {es : List (κ × ν)} {e : κ × ν}
    (h : e ∈ putEntry k v es) : e = (k, v) ∨ e ∈ es := by
  induction es with
  | nil => simpa [putEntry] using h
  | cons d ds ih =>
    unfold putEntry at h
    split at h <;> grind

theorem ascendingKeys_putEntry [Std.LawfulEqOrd κ] [Std.TransOrd κ] (k : κ) (v : ν)
    {es : List (κ × ν)} (h : AscendingKeys es) : AscendingKeys (putEntry k v es) := by
  induction es with
  | nil => simp [putEntry, AscendingKeys]
  | cons d ds ih =>
    have hds : AscendingKeys ds := List.Pairwise.of_cons h
    have hd : ∀ e ∈ ds, compare d.1 e.1 = .lt := (List.pairwise_cons.1 h).1
    unfold putEntry
    split
    · rename_i hk
      refine List.pairwise_cons.2 ⟨?_, h⟩
      intro e he
      rcases List.mem_cons.1 he with rfl | he
      · exact hk
      · exact Std.TransCmp.lt_trans hk (hd e he)
    · rename_i hk
      have hkd : k = d.1 := Std.LawfulEqOrd.eq_of_compare hk
      refine List.pairwise_cons.2 ⟨?_, hds⟩
      intro e he
      rw [hkd]
      exact hd e he
    · rename_i hk
      refine List.pairwise_cons.2 ⟨?_, ih hds⟩
      intro e he
      rcases fst_mem_putEntry he with rfl | he
      · exact Std.OrientedCmp.lt_of_gt hk
      · exact hd e he

theorem putEntry_eq_append [Std.TransOrd κ] {k : κ} {v : ν} {es : List (κ × ν)}
    (h : ∀ e ∈ es, compare e.1 k = .lt) : putEntry k v es = es ++ [(k, v)] := by
  induction es with
  | nil => rfl
  | cons e es ih =>
    have hgt : compare k e.1 = .gt := Std.OrientedCmp.gt_of_lt (h e List.mem_cons_self)
    rw [putEntry, hgt, ih fun d hd => h d (List.mem_cons_of_mem e hd)]
    rfl

end Entries

/-- A finite map, listed in ascending order of its keys. -/
structure SortedMap (κ ν : Type) [Ord κ] where
  entries : List (κ × ν)
  ascending : AscendingKeys entries
  deriving DecidableEq

namespace SortedMap

variable {κ ν : Type} [Ord κ]

/-- The map without entries. -/
def empty : SortedMap κ ν := ⟨[], List.Pairwise.nil⟩

instance : Inhabited (SortedMap κ ν) := ⟨empty⟩

/-- Keys in ascending order. -/
def keys (m : SortedMap κ ν) : List κ := m.entries.map (·.1)

/-- Values in ascending order of their keys. -/
def values (m : SortedMap κ ν) : List ν := m.entries.map (·.2)

/-- The value under a key. -/
def get? [BEq κ] (m : SortedMap κ ν) (k : κ) : Option ν := m.entries.lookup k

variable [Std.LawfulEqOrd κ] [Std.TransOrd κ]

/-- Writes a value under a key. -/
def insert (m : SortedMap κ ν) (k : κ) (v : ν) : SortedMap κ ν :=
  ⟨putEntry k v m.entries, ascendingKeys_putEntry k v m.ascending⟩

/-- The map that a list of entries writes, a later entry replacing an earlier one of its key. -/
def ofList (es : List (κ × ν)) : SortedMap κ ν :=
  es.foldl (fun m e => m.insert e.1 e.2) empty

theorem entries_foldl_insert (es : List (κ × ν)) (m : SortedMap κ ν)
    (h : AscendingKeys (m.entries ++ es)) :
    (es.foldl (fun m e => m.insert e.1 e.2) m).entries = m.entries ++ es := by
  induction es generalizing m with
  | nil => simp
  | cons e es ih =>
    have hbelow : ∀ d ∈ m.entries, compare d.1 e.1 = .lt := fun d hd =>
      (List.pairwise_append.1 h).2.2 d hd e List.mem_cons_self
    have hinsert : (m.insert e.1 e.2).entries = m.entries ++ [e] := putEntry_eq_append hbelow
    rw [List.foldl_cons, ih _ (by rw [hinsert]; simpa using h), hinsert]
    simp

theorem ofList_entries (m : SortedMap κ ν) : ofList m.entries = m := by
  have h : (ofList m.entries).entries = m.entries := by
    unfold ofList
    rw [entries_foldl_insert _ _ (by simpa [empty] using m.ascending)]
    rfl
  cases hm : ofList m.entries
  cases m
  simp_all

end SortedMap

end SpineGrammar
