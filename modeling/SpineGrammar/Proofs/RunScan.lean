import SpineGrammar.Proofs.Outcome
import SpineGrammar.Semantics.Formula

/-!
# The scan finds the first longest run

The scan for runs of nouns goes over the positions of the words and one more behind the last. What
it keeps is exact at each of them: the open run reaches back as far as nouns do, and the best run is
the first of the longest ones that end before the open one. The position behind the words closes the
last run, so in the end no run is left out.
-/

namespace SpineGrammar

variable {ws : List (String × Bool)} {i j l m stop : Nat}

/-- `AllNouns ws i l`: each of the `l` positions from `i` on has a word, and it is a noun. -/
def AllNouns (ws : List (String × Bool)) (i l : Nat) : Prop :=
  ∀ k, i ≤ k → k < i + l → isNounAt ws k = true

theorem isNounAt_iff {k : Nat} : isNounAt ws k = true ↔ ∃ w ∈ ws[k]?, w.2 = true := by
  unfold isNounAt
  rw [Option.any_eq_true]
  rfl

theorem lt_length_of_isNounAt {k : Nat} (h : isNounAt ws k = true) : k < ws.length := by
  obtain ⟨w, hw, _⟩ := isNounAt_iff.1 h
  exact (List.getElem?_eq_some_iff.1 hw).1

theorem AllNouns.le_length (h : AllNouns ws i l) (hl : 0 < l) : i + l ≤ ws.length := by
  have hlast := lt_length_of_isNounAt (h (i + l - 1) (by omega) (by omega))
  omega

/-- A run that ends before or at a position with no noun behind it ends before that position. -/
theorem AllNouns.end_le (h : AllNouns ws j m) (hm : 0 < m) (hend : j + m ≤ stop + 1)
    (hstop : isNounAt ws stop = false) : j + m ≤ stop := by
  by_contra hcross
  have hnoun := h stop (by omega) (by omega)
  rw [hstop] at hnoun
  cases hnoun

namespace RunScan

variable {s s' : RunScan}

/-- What a scan keeps before it takes in the position `stop`. -/
structure Holds (ws : List (String × Bool)) (stop : Nat) (s : RunScan) : Prop where
  start_le : s.start ≤ stop
  /-- The open run has nouns only. -/
  nouns : AllNouns ws s.start (stop - s.start)
  /-- Nothing could be put before the open run. -/
  fresh : s.start = 0 ∨ isNounAt ws (s.start - 1) = false
  /-- Of the runs that end before the open one, the best is the first of the longest. -/
  best : ∃ i, i + s.best.length ≤ s.start ∧ s.best = (ws.drop i).take s.best.length ∧
    AllNouns ws i s.best.length ∧
    ∀ j m, 0 < m → j + m ≤ s.start → AllNouns ws j m →
      m < s.best.length ∨ m = s.best.length ∧ i ≤ j

theorem holds_zero (ws : List (String × Bool)) : Holds ws 0 ⟨[], 0⟩ where
  start_le := Nat.le_refl 0
  nouns := fun k _ hk => absurd hk (Nat.not_lt_zero k)
  fresh := .inl rfl
  best := by
    refine ⟨0, Nat.le_refl 0, rfl, fun k _ hk => absurd hk (Nat.not_lt_zero k), ?_⟩
    intro j m hm hend
    change j + m ≤ 0 at hend
    omega

namespace Holds

/-- A run that does not end before the open one lies within it. -/
theorem start_le_of_lt (h : Holds ws stop s) (hnouns : AllNouns ws j m) (hend : s.start < j + m) :
    s.start ≤ j := by
  by_contra hbefore
  rcases h.fresh with hzero | hgap
  · omega
  · have hnoun := hnouns (s.start - 1) (by omega) (by omega)
    rw [hgap] at hnoun
    cases hnoun

/-- A noun prolongs the open run. -/
theorem of_noun (h : Holds ws stop s) (hstop : isNounAt ws stop = true) :
    Holds ws (stop + 1) s where
  start_le := by
    have hle := h.start_le
    omega
  nouns := by
    intro k hk hlt
    have hle := h.start_le
    by_cases hkstop : k = stop
    · rw [hkstop]
      exact hstop
    · exact h.nouns k hk (by omega)
  fresh := h.fresh
  best := h.best

/-- The words of the open run are there. -/
theorem open_stretch (h : Holds ws stop s) (hlt : s.start < stop) :
    stretch s.start stop ws = .ok ((ws.drop s.start).take (stop - s.start)) ∧
      ((ws.drop s.start).take (stop - s.start)).length = stop - s.start := by
  have hlength := h.nouns.le_length (by omega)
  refine ⟨stretch_eq_ok h.start_le (by omega), ?_⟩
  rw [List.length_take, List.length_drop]
  omega

/-- With the open run closed at a position without a noun, the best run is at least as long. What
    was the best run before stays so unless the closed run is longer. -/
theorem of_closed (h : Holds ws stop s) (hstop : isNounAt ws stop = false)
    (hbest : s'.best = s.best ∧ stop - s.start ≤ s.best.length ∨
      s'.best = (ws.drop s.start).take (stop - s.start) ∧
        s'.best.length = stop - s.start ∧ s.best.length < stop - s.start)
    (hstart : s'.start = stop + 1) : Holds ws (stop + 1) s' where
  start_le := by omega
  nouns := by
    intro k hk hlt
    omega
  fresh := by
    right
    rw [hstart]
    exact hstop
  best := by
    have hle := h.start_le
    obtain ⟨i, hi, heq, hnouns, hfirst⟩ := h.best
    -- A run up to here was known before, or it lies within the run that is closed now.
    have hsplit : ∀ j m, 0 < m → j + m ≤ s'.start → AllNouns ws j m →
        (m < s.best.length ∨ m = s.best.length ∧ i ≤ j) ∨ s.start ≤ j ∧ j + m ≤ stop := by
      intro j m hm hend hrun
      have hjm : j + m ≤ stop := hrun.end_le hm (by omega) hstop
      by_cases hearly : j + m ≤ s.start
      · exact .inl (hfirst j m hm hearly hrun)
      · exact .inr ⟨h.start_le_of_lt hrun (by omega), hjm⟩
    rcases hbest with ⟨hsame, hshort⟩ | ⟨hnew, hlength, hlong⟩
    · rw [hsame]
      refine ⟨i, by omega, heq, hnouns, ?_⟩
      intro j m hm hend hrun
      rcases hsplit j m hm hend hrun with hold | hinner
      · exact hold
      · omega
    · refine ⟨s.start, by omega, by rw [hlength]; exact hnew, ?_, ?_⟩
      · rw [hlength]
        exact h.nouns
      · intro j m hm hend hrun
        -- Older runs are shorter; one within the closed run is shorter or starts with it.
        rcases hsplit j m hm hend hrun with hold | hinner
        · omega
        · omega

/-- **Step**: at no position is the scan stopped, and it keeps what it should. -/
theorem step (h : Holds ws stop s) :
    ∃ s', s.step ws stop = .ok s' ∧ Holds ws (stop + 1) s' := by
  unfold RunScan.step
  by_cases hstop : isNounAt ws stop = true
  · exact ⟨s, if_pos hstop, h.of_noun hstop⟩
  · -- The start is not past the position, so the length of the open run can be taken.
    rw [if_neg hstop, difference_eq_ok h.start_le, ok_bind]
    by_cases hlonger : s.best.length < stop - s.start
    · -- A run that is longer than another one is not empty, so its words are there.
      obtain ⟨hstretch, hlength⟩ := h.open_stretch (by omega)
      rw [if_pos hlonger, hstretch]
      exact ⟨_, rfl, h.of_closed (by simpa using hstop) (.inr ⟨rfl, hlength, hlonger⟩) rfl⟩
    · rw [if_neg hlonger]
      exact ⟨_, rfl, h.of_closed (by simpa using hstop) (.inl ⟨rfl, by omega⟩) rfl⟩

end Holds

/-- **Run**: the scan over any number of positions has a result, which keeps what it should. -/
theorem exists_foldlM_range (ws : List (String × Bool)) (stop : Nat) :
    ∃ s, (List.range stop).foldlM (RunScan.step ws) ⟨[], 0⟩ = .ok s ∧ Holds ws stop s := by
  induction stop with
  | zero => exact ⟨⟨[], 0⟩, rfl, holds_zero ws⟩
  | succ stop ih =>
    obtain ⟨s, hs, hholds⟩ := ih
    obtain ⟨s', hs', hholds'⟩ := hholds.step
    refine ⟨s', ?_, hholds'⟩
    rw [List.range_succ, List.foldlM_append, hs, ok_bind, List.foldlM_cons, hs']
    rfl

end RunScan

/-- `FirstLongest ws i l`: the `l` positions from `i` on are a run of nouns, no run is longer, and
    none that is as long starts earlier. -/
structure FirstLongest (ws : List (String × Bool)) (i l : Nat) : Prop where
  nouns : AllNouns ws i l
  longest : ∀ j m, 0 < m → AllNouns ws j m → m < l ∨ m = l ∧ i ≤ j

theorem FirstLongest.isEmpty_iff (h : FirstLongest ws i l) :
    ((ws.drop i).take l).isEmpty = true ↔ l = 0 := by
  have hlength : ((ws.drop i).take l).length = min l (ws.length - i) := by simp
  rw [List.isEmpty_iff_length_eq_zero, hlength]
  constructor
  · intro hzero
    by_contra hl
    have hle := h.nouns.le_length (by omega)
    omega
  · intro hl
    omega

/-- The scan finds the first of the longest runs. -/
theorem exists_longestRun_eq_ok (ws : List (String × Bool)) : ∃ i l,
    longestRun ws = .ok (((ws.drop i).take l).map (·.1)) ∧ FirstLongest ws i l := by
  obtain ⟨s, hs, h⟩ := RunScan.exists_foldlM_range ws (ws.length + 1)
  obtain ⟨i, hi, heq, hnouns, hfirst⟩ := h.best
  -- No word is behind the last one, so the run that is open in the end is empty.
  have hstart : s.start = ws.length + 1 := by
    by_contra hopen
    have hle := h.start_le
    have hlast := lt_length_of_isNounAt (h.nouns ws.length (by omega) (by omega))
    omega
  refine ⟨i, s.best.length, ?_, hnouns, ?_⟩
  · unfold longestRun RunScan.over
    rw [hs, ok_bind, ← heq]
    rfl
  · intro j m hm hrun
    have hend := hrun.le_length hm
    exact hfirst j m hm (by omega) hrun

end SpineGrammar
