import Mathlib.Logic.Equiv.Basic
import SourceStyle.Proofs.Reports
import SourceStyle.Proofs.Spelling

/-!
# Spaces and tabs side by side

Two rules look for a run of one character and right behind it a run of another. A repetition is
greedy, so it ends only where its character does (`getElem?_ne_of_head?_ends`), and the preferred
match at a place in the first run goes on to the end of the second run. A search meets the start of
the first run first. So it reports the two runs as a whole, wherever they stand
(`mem_findAll_twoRuns_iff`), and the two rules report the same in texts that differ by an exchange
of their characters.
-/

namespace SourceStyle

namespace Pattern

variable {t : Text}

/-! ## Greedy repetition -/

/-- The preferred match of a sequence ends with a preferred match of its second part. -/
theorem exists_head?_ends_seq {p q : Pattern} {i e : Nat} (h : (ends t (seq p q) i).head? = some e) :
    ∃ m, (q.ends t m).head? = some e := by
  rw [ends, List.head?_flatMap] at h
  obtain ⟨m, -, hm⟩ := List.exists_of_findSome?_eq_some h
  exact ⟨m, hm⟩

theorem upToEnds_ne_nil (E : Nat → List Nat) (n i : Nat) : upToEnds E n i ≠ [] := by
  cases n <;> simp [upToEnds]

/-- Rounds that may go on to the end of the text stop only where the next character does not fit. -/
theorem not_any_of_head?_upToEnds {k : CharClass} : ∀ {n i e : Nat}, t.length ≤ i + n →
    (upToEnds (ends t (one k)) n i).head? = some e → ¬t[e]?.any k.accepts
  | 0, i, e, hn, h => by
    simp only [upToEnds, List.head?_cons, Option.some.injEq] at h
    rw [← h, List.getElem?_eq_none (show t.length ≤ i from hn)]
    simp
  | n + 1, i, e, hn, h => by
    rw [upToEnds, ends] at h
    split_ifs at h with hx
    · rw [List.flatMap_singleton, if_pos (Nat.lt_succ_self i),
        List.head?_append_of_ne_nil _ (upToEnds_ne_nil _ n (i + 1))] at h
      exact not_any_of_head?_upToEnds (by omega) h
    · simp only [List.flatMap_nil, List.nil_append, List.head?_cons, Option.some.injEq] at h
      rwa [← h]

theorem getElem?_ne_of_head?_ends {c : Char} {least i e : Nat}
    (h : (ends t (atLeast least (char c)) i).head? = some e) : t[e]? ≠ some c := by
  rw [atLeast, ends, List.head?_flatMap] at h
  obtain ⟨j, -, hj⟩ := List.exists_of_findSome?_eq_some h
  have hstop := not_any_of_head?_upToEnds (by simp only [roundsLeft]; omega) hj
  intro hc
  rw [hc] at hstop
  exact hstop (accepts_char_iff.2 rfl)

/-! ## Two runs -/

/-- From `s` up to `m` there are only `a`, and from there up to `e` only `b`, at least one of each. -/
structure TwoRuns (t : Text) (a b : Char) (s m e : Nat) : Prop where
  start_lt : s < m
  lt_stop : m < e
  first : ∀ i, s ≤ i → i < m → t[i]? = some a
  second : ∀ i, m ≤ i → i < e → t[i]? = some b

/-- A run of `a` and right behind it a run of `b`. -/
def twoRuns (a b : Char) : Pattern := seq (plus (char a)) (plus (char b))

theorem steps_char_iff {c : Char} : ∀ {n i j : Nat},
    Steps ((char c).Matches t) n i j ↔ j = i + n ∧ ∀ k, i ≤ k → k < j → t[k]? = some c
  | 0, i, j => by
    simp only [Steps, Nat.add_zero]
    refine ⟨fun h => ⟨h.symm, fun k hi hj => ?_⟩, fun h => h.1.symm⟩
    omega
  | n + 1, i, j => by
    simp only [Steps, matches_char_iff, steps_char_iff]
    constructor
    · rintro ⟨m, ⟨hi, rfl⟩, rfl, hall⟩
      refine ⟨by omega, fun k hk hkj => ?_⟩
      rcases Nat.eq_or_lt_of_le hk with rfl | hlt
      · exact hi
      · exact hall k hlt hkj
    · rintro ⟨rfl, hall⟩
      exact ⟨i + 1, ⟨hall i (Nat.le_refl i) (by omega), rfl⟩, by omega,
        fun k hk hkj => hall k (by omega) hkj⟩

theorem matches_plus_char_iff {c : Char} {i j : Nat} :
    (plus (char c)).Matches t i j ↔ i < j ∧ ∀ k, i ≤ k → k < j → t[k]? = some c := by
  simp only [plus, Matches, steps_char_iff]
  constructor
  · rintro ⟨n, hn, -, rfl, hall⟩
    exact ⟨by omega, hall⟩
  · rintro ⟨hij, hall⟩
    exact ⟨j - i, by omega, by simp, by omega, hall⟩

variable {a b : Char} {s m e : Nat}

theorem matches_twoRuns_iff : (twoRuns a b).Matches t s e ↔ ∃ m, TwoRuns t a b s m e := by
  simp only [twoRuns, Matches, matches_plus_char_iff]
  constructor
  · rintro ⟨m, ⟨hsm, hfirst⟩, hme, hsecond⟩
    exact ⟨m, hsm, hme, hfirst, hsecond⟩
  · rintro ⟨m, hsm, hme, hfirst, hsecond⟩
    exact ⟨m, ⟨hsm, hfirst⟩, hme, hsecond⟩

theorem spells_plus_char (c : Char) :
    (plus (char c)).Spells (words fun w => ∃ n, 0 < n ∧ w = List.replicate n c) := by
  refine (spells_many_one _ 1 none).congr fun w => ?_
  simp only [mem_words, accepts_char_iff]
  constructor
  · rintro ⟨hn, -, hall⟩
    exact ⟨w.length, hn, List.eq_replicate_iff.2 ⟨rfl, hall⟩⟩
  · rintro ⟨n, hn, rfl⟩
    simpa using Nat.succ_le_of_lt hn

/-- The two runs as a word. -/
theorem spells_twoRuns (a b : Char) : (twoRuns a b).Spells (words fun w =>
    ∃ m n, 0 < m ∧ 0 < n ∧ w = List.replicate m a ++ List.replicate n b) := by
  refine ((spells_plus_char a).seq (spells_plus_char b)).congr fun w => ?_
  rw [Language.mem_mul]
  constructor
  · rintro ⟨_, ⟨m, hm, rfl⟩, _, ⟨n, hn, rfl⟩, rfl⟩
    exact ⟨m, n, hm, hn, rfl⟩
  · rintro ⟨m, n, hm, hn, rfl⟩
    exact ⟨_, ⟨m, hm, rfl⟩, _, ⟨n, hn, rfl⟩, rfl⟩

theorem exists_twoRuns_iff : (∃ m, TwoRuns t a b s m e) ↔ e ≤ t.length
    ∧ ∃ m n, 0 < m ∧ 0 < n ∧ t.slice s e = List.replicate m a ++ List.replicate n b := by
  rw [← matches_twoRuns_iff]
  constructor
  · intro h
    obtain ⟨m, hm⟩ := matches_twoRuns_iff.1 h
    have hs := (List.getElem?_eq_some_iff.1 (hm.first s (Nat.le_refl s) hm.start_lt)).1
    exact ((spells_twoRuns a b t s e (Nat.le_of_lt hs)).1 h).2
  · rintro ⟨he, m, n, hm, hn, hslice⟩
    have hlength := Text.length_slice (i := s) he
    rw [hslice, List.length_append, List.length_replicate, List.length_replicate] at hlength
    exact (spells_twoRuns a b t s e (by omega)).2 ⟨by omega, he, m, n, hm, hn, hslice⟩

/-! ## The matches of a search -/

theorem minWidth_twoRuns (a b : Char) : 0 < (twoRuns a b).minWidth := by
  simp [twoRuns, plus, char, minWidth]

namespace TwoRuns

theorem ne_second (h : TwoRuns t a b s m e) (hab : a ≠ b) {i : Nat} (hi : s ≤ i) (him : i < m) :
    t[i]? ≠ some b := by
  rw [h.first i hi him]
  simpa using hab

/-- Two runs that start inside others start in the first run of these. -/
theorem start_lt_mid {s' m' e' : Nat} (hab : a ≠ b) (h : TwoRuns t a b s m e)
    (h' : TwoRuns t a b s' m' e') (hlt : s' < e) : s' < m := by
  by_contra hge
  exact h'.ne_second hab (Nat.le_refl s') h'.start_lt (h.second s' (by omega) hlt)

/-- Two runs that start inside others have the second run in common with these. If both go as far as
they can, they end alike. -/
theorem stop_unique {s' m' e' : Nat} (hab : a ≠ b) (h : TwoRuns t a b s m e)
    (h' : TwoRuns t a b s' m' e') (hstop : t[e]? ≠ some b) (hstop' : t[e']? ≠ some b)
    (hle : s ≤ s') (hlt : s' < e) : e = e' := by
  have hinside := h.start_lt_mid hab h' hlt
  obtain rfl : m = m' := by
    rcases Nat.lt_trichotomy m m' with hm | hm | hm
    · exact absurd (h.second m (Nat.le_refl m) h.lt_stop) (h'.ne_second hab (by omega) hm)
    · exact hm
    · have hs' := h'.start_lt
      exact absurd (h'.second m' (Nat.le_refl m') h'.lt_stop) (h.ne_second hab (by omega) hm)
  rcases Nat.lt_trichotomy e e' with he | he | he
  · exact absurd (h'.second e (Nat.le_of_lt h.lt_stop) he) hstop
  · exact he
  · exact absurd (h.second e' (Nat.le_of_lt h'.lt_stop) he) hstop'

end TwoRuns

/-- The preferred match is the one that goes to the end of the second run. -/
theorem preferred_twoRuns_iff (hab : a ≠ b) (hs : s ≤ t.length) :
    (twoRuns a b).Preferred t s e ↔ (∃ m, TwoRuns t a b s m e) ∧ t[e]? ≠ some b := by
  have hpref : ∀ {d}, (twoRuns a b).Preferred t s d →
      (∃ m, TwoRuns t a b s m d) ∧ t[d]? ≠ some b := by
    intro d hd
    obtain ⟨m, hm⟩ := exists_head?_ends_seq (hd.head?_eq (minWidth_twoRuns a b) hs)
    exact ⟨matches_twoRuns_iff.1 (hd.matches hs), getElem?_ne_of_head?_ends hm⟩
  refine ⟨hpref, fun ⟨⟨m, h⟩, hstop⟩ => ?_⟩
  obtain ⟨d, hd⟩ := (matches_twoRuns_iff.2 ⟨m, h⟩).exists_preferred hs
  obtain ⟨⟨m', h'⟩, hstop'⟩ := hpref hd
  have hlt := Nat.lt_trans h'.start_lt h'.lt_stop
  rwa [← h'.stop_unique hab h hstop' hstop (Nat.le_refl s) hlt]

theorem prefersAlike_twoRuns (hab : a ≠ b) (t : Text) : (twoRuns a b).PrefersAlike t := by
  intro s s' e e' hs' hse hse' hle hlt
  obtain ⟨⟨m, h⟩, hstop⟩ := (preferred_twoRuns_iff hab (Nat.le_trans hle hs')).1 hse
  obtain ⟨⟨m', h'⟩, hstop'⟩ := (preferred_twoRuns_iff hab hs').1 hse'
  exact h.stop_unique hab h' hstop hstop' hle hlt

/-- A search reports two runs from the start of the first to the end of the second. -/
theorem mem_findAll_twoRuns_iff (hab : a ≠ b) : (s, e) ∈ (twoRuns a b).findAll t
    ↔ (∃ m, TwoRuns t a b s m e) ∧ (0 < s → t[s - 1]? ≠ some a) ∧ t[e]? ≠ some b := by
  rw [mem_findAll_iff_preferred (minWidth_twoRuns a b) (prefersAlike_twoRuns hab t)]
  constructor
  · rintro ⟨hs, hpref, hfirst⟩
    obtain ⟨⟨m, h⟩, hstop⟩ := (preferred_twoRuns_iff hab hs).1 hpref
    refine ⟨⟨m, h⟩, fun hpos hbefore => ?_, hstop⟩
    have hlonger : TwoRuns t a b (s - 1) m e := by
      refine ⟨by have := h.start_lt; omega, h.lt_stop, fun i hi him => ?_, h.second⟩
      rcases Nat.eq_or_lt_of_le hi with rfl | hlt
      · exact hbefore
      · exact h.first i (by omega) him
    exact hfirst (s - 1) (by omega)
      ((preferred_twoRuns_iff hab (by omega)).2 ⟨⟨m, hlonger⟩, hstop⟩)
  · rintro ⟨⟨m, h⟩, hbefore, hstop⟩
    have hs : s < t.length := (List.getElem?_eq_some_iff.1 (h.first s (Nat.le_refl s) h.start_lt)).1
    refine ⟨Nat.le_of_lt hs, (preferred_twoRuns_iff hab (Nat.le_of_lt hs)).2 ⟨⟨m, h⟩, hstop⟩, ?_⟩
    intro s' hlt hpref
    obtain ⟨⟨m', h'⟩, -⟩ := (preferred_twoRuns_iff hab (by omega)).1 hpref
    -- what stands before `s` is in the first run of `h'`, since `s` is not in the second
    have hinside := h'.start_lt_mid hab h (Nat.lt_trans h.start_lt h.lt_stop)
    exact hbefore (by omega) (h'.first (s - 1) (by omega) (by omega))

/-! ## An exchange of the two characters -/

theorem getElem?_map_swap_left_iff {i : Nat} :
    (t.map (Equiv.swap a b))[i]? = some a ↔ t[i]? = some b := by
  rw [List.getElem?_map, Option.map_eq_some_iff]
  simp [Equiv.swap_apply_eq_iff]

theorem getElem?_map_swap_right_iff {i : Nat} :
    (t.map (Equiv.swap a b))[i]? = some b ↔ t[i]? = some a := by
  rw [Equiv.swap_comm]
  exact getElem?_map_swap_left_iff

theorem twoRuns_map_swap_iff :
    TwoRuns (t.map (Equiv.swap a b)) a b s m e ↔ TwoRuns t b a s m e := by
  constructor
  · rintro ⟨hsm, hme, hfirst, hsecond⟩
    exact ⟨hsm, hme, fun i hi him => getElem?_map_swap_left_iff.1 (hfirst i hi him),
      fun i hi hie => getElem?_map_swap_right_iff.1 (hsecond i hi hie)⟩
  · rintro ⟨hsm, hme, hfirst, hsecond⟩
    exact ⟨hsm, hme, fun i hi him => getElem?_map_swap_left_iff.2 (hfirst i hi him),
      fun i hi hie => getElem?_map_swap_right_iff.2 (hsecond i hi hie)⟩

theorem pairwise_findAll_twoRuns (a b : Char) (t : Text) :
    ((twoRuns a b).findAll t).Pairwise (fun m m' => m.1 < m'.1) :=
  (foundFrom_findAll _ t).pairwise_start_lt (minWidth_twoRuns a b)

theorem findAll_twoRuns_swap (hab : a ≠ b) (t : Text) :
    (twoRuns b a).findAll t = (twoRuns a b).findAll (t.map (Equiv.swap a b)) := by
  refine eq_of_pairwise_lt (fun m => (m.1 : Int)) ?_ ?_ fun m => ?_
  · exact (pairwise_findAll_twoRuns b a t).imp Int.ofNat_lt.2
  · exact (pairwise_findAll_twoRuns a b _).imp Int.ofNat_lt.2
  · obtain ⟨s, e⟩ := m
    rw [mem_findAll_twoRuns_iff hab.symm, mem_findAll_twoRuns_iff hab]
    simp only [twoRuns_map_swap_iff, ne_eq, getElem?_map_swap_left_iff, getElem?_map_swap_right_iff]

end Pattern

namespace Rule

open Pattern

/-- The matches are the stretches of spaces with tabs right behind them, each from the first space to
the last tab, from left to right. The rule for tabs before spaces matches where this one does in the
text with spaces and tabs exchanged. -/
theorem findAll_spaceBeforeTab_exact (t : Text) :
    (∀ s e, (s, e) ∈ spaceBeforeTab.pattern.findAll t
      ↔ (e ≤ t.length
          ∧ ∃ m n, 0 < m ∧ 0 < n ∧ t.slice s e = List.replicate m ' ' ++ List.replicate n '\t')
        ∧ (0 < s → t[s - 1]? ≠ some ' ') ∧ t[e]? ≠ some '\t')
    ∧ (spaceBeforeTab.pattern.findAll t).Pairwise (fun m m' => m.1 < m'.1)
    ∧ tabBeforeSpace.pattern.findAll t
      = spaceBeforeTab.pattern.findAll (t.map (Equiv.swap ' ' '\t')) := by
  have hne : ' ' ≠ '\t' := by decide
  refine ⟨fun s e => ?_, pairwise_findAll_twoRuns ' ' '\t' t, findAll_twoRuns_swap hne t⟩
  rw [← exists_twoRuns_iff]
  exact mem_findAll_twoRuns_iff hne

end Rule

end SourceStyle
