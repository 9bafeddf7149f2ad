import Mathlib.Data.List.Basic
import SourceStyle.Proofs.Lines
import SourceStyle.Proofs.Search

/-!
# Patterns at the seam of two texts

Put a text `t` behind whole lines `w`. A pattern that does not look back (`Forward`) ends behind the
seam where it ends in `t` alone. A pattern that reads no newline (`StaysInLine`) ends before the seam
where it ends in `w` alone, and so does one that has to start with a character that is not in `w`. In
both cases no match lies across the seam, and the matches in `w ++ t` are those in `w` followed by
those in `t` (`findAll_append`).
-/

namespace SourceStyle

namespace Pattern

open Text

/-! ## Ends at corresponding offsets -/

section Ends

variable {E E' : Nat → List Nat} {n : Nat} {P : Nat → Prop}

theorem flatMap_shift {f f' : Nat → List Nat} {l : List Nat}
    (hf : ∀ j ∈ l, f' (n + j) = (f j).map (n + ·)) :
    (l.map (n + ·)).flatMap f' = (l.flatMap f).map (n + ·) := by
  rw [List.flatMap_map, List.map_flatMap]
  exact List.flatMap_congr hf

theorem timesEnds_shift (hE : ∀ i, P i → E' (n + i) = (E i).map (n + ·) ∧ ∀ j ∈ E i, P j) :
    ∀ {k i : Nat}, P i → timesEnds E' k (n + i) = (timesEnds E k i).map (n + ·)
      ∧ ∀ j ∈ timesEnds E k i, P j
  | 0, i, hi => by simp [timesEnds, hi]
  | k + 1, i, hi => by
    obtain ⟨hends, hP⟩ := hE i hi
    constructor
    · rw [timesEnds, timesEnds, hends]
      exact flatMap_shift fun j hj => (timesEnds_shift hE (hP j hj)).1
    · intro j hj
      obtain ⟨m, hm, hj⟩ := List.mem_flatMap.1 hj
      exact (timesEnds_shift hE (hP m hm)).2 j hj

/-- The bounds on the rounds may differ where both are at least the number of offsets left. -/
theorem upToEnds_shift (hE : ∀ i, P i → E' (n + i) = (E i).map (n + ·) ∧ ∀ j ∈ E i, P j)
    (length : Nat) : ∀ {k k' i : Nat}, P i →
      (k = k' ∨ (∀ i, P i → i < length) ∧ length - i ≤ k ∧ length - i ≤ k') →
      upToEnds E' k (n + i) = (upToEnds E k' i).map (n + ·) ∧ ∀ j ∈ upToEnds E k' i, P j
  | 0, 0, i, hi, _ => by simp [upToEnds, hi]
  | 0, k' + 1, i, hi, h => by
    rcases h with h | ⟨hlt, h, -⟩
    · omega
    · have := hlt i hi
      omega
  | k + 1, 0, i, hi, h => by
    rcases h with h | ⟨hlt, -, h⟩
    · omega
    · have := hlt i hi
      omega
  | k + 1, k' + 1, i, hi, h => by
    obtain ⟨hends, hP⟩ := hE i hi
    have hround : ∀ j ∈ E i, i < j → upToEnds E' k (n + j) = (upToEnds E k' j).map (n + ·)
        ∧ ∀ m ∈ upToEnds E k' j, P m := by
      intro j hj hij
      refine upToEnds_shift hE length (hP j hj) ?_
      rcases h with h | ⟨hlt, h1, h2⟩
      · exact .inl (by omega)
      · exact .inr ⟨hlt, by omega, by omega⟩
    constructor
    · rw [upToEnds, upToEnds, hends, List.map_append]
      congr 1
      refine flatMap_shift fun j hj => ?_
      by_cases hij : i < j
      · rw [if_pos (by omega), if_pos hij, (hround j hj hij).1]
      · rw [if_neg (by omega), if_neg hij, List.map_singleton]
    · intro m hm
      simp only [upToEnds, List.mem_append, List.mem_flatMap, List.mem_singleton] at hm
      rcases hm with ⟨j, hj, hm⟩ | rfl
      · split at hm
        · exact (hround j hj ‹_›).2 m hm
        · rw [List.mem_singleton.1 hm]
          exact hP j hj
      · exact hi

end Ends

/-- From the offsets of `t` in `P`, the pattern ends where it ends `n` offsets further right in `t'`,
and at offsets in `P` again. -/
def EndsShifted (t t' : Text) (n : Nat) (P : Nat → Prop) (p : Pattern) : Prop :=
  ∀ i, P i → p.ends t' (n + i) = (p.ends t i).map (n + ·) ∧ ∀ j ∈ p.ends t i, P j

section Closure

variable {t t' : Text} {n : Nat} {P : Nat → Prop} {p q : Pattern}

theorem endsShifted_empty : EndsShifted t t' n P empty := fun i hi => by simp [ends, hi]

theorem EndsShifted.seq (hp : EndsShifted t t' n P p) (hq : EndsShifted t t' n P q) :
    EndsShifted t t' n P (seq p q) := by
  intro i hi
  obtain ⟨hends, hP⟩ := hp i hi
  constructor
  · rw [ends, ends, hends]
    exact flatMap_shift fun j hj => (hq j (hP j hj)).1
  · intro j hj
    obtain ⟨m, hm, hj⟩ := List.mem_flatMap.1 hj
    exact (hq m (hP m hm)).2 j hj

theorem EndsShifted.either (hp : EndsShifted t t' n P p) (hq : EndsShifted t t' n P q) :
    EndsShifted t t' n P (either p q) := by
  intro i hi
  obtain ⟨hends, hP⟩ := hp i hi
  obtain ⟨hends', hP'⟩ := hq i hi
  constructor
  · rw [ends, ends, hends, hends', List.map_append]
  · intro j hj
    rcases List.mem_append.1 hj with hj | hj
    · exact hP j hj
    · exact hP' j hj

theorem EndsShifted.many (hp : EndsShifted t t' n P p) (least : Nat) (most : Option Nat)
    (hlen : (∀ i, P i → t'.length - (n + i) = t.length - i)
      ∨ (∀ i, P i → i < t.length) ∧ n + t.length ≤ t'.length) :
    EndsShifted t t' n P (many p least most) := by
  have hround : ∀ j, P j → (roundsLeft least most (t'.length - (n + j))
        = roundsLeft least most (t.length - j)
      ∨ (∀ i, P i → i < t.length) ∧ t.length - j ≤ roundsLeft least most (t'.length - (n + j))
        ∧ t.length - j ≤ roundsLeft least most (t.length - j)) := by
    intro j hj
    rcases hlen with hlen | ⟨hlt, hlen⟩
    · rw [hlen j hj]
      exact .inl rfl
    · -- More rounds may be left in `t'`, but in `t` there are enough to reach its end.
      rcases most with _ | m
      · exact .inr ⟨hlt, by simp only [roundsLeft]; omega, Nat.le_refl _⟩
      · simp only [roundsLeft]
        rcases Nat.le_total (m - least) (t.length - j) with hm | hm
        · left
          omega
        · exact .inr ⟨hlt, by omega, by omega⟩
  intro i hi
  obtain ⟨hends, hP⟩ := timesEnds_shift (k := least) hp hi
  constructor
  · rw [ends, ends, hends]
    exact flatMap_shift fun j hj => (upToEnds_shift hp _ (hP j hj) (hround j (hP j hj))).1
  · intro j hj
    obtain ⟨m, hm, hj⟩ := List.mem_flatMap.1 hj
    exact (upToEnds_shift hp _ (hP m hm) (hround m (hP m hm))).2 j hj

/-- A test that comes out the same keeps the offset or gives nothing. -/
theorem test_shift {i : Nat} {b b' : Prop} [Decidable b] [Decidable b'] (h : b' ↔ b) (hi : P i) :
    (if b' then [n + i] else []) = (if b then [i] else []).map (n + ·)
      ∧ ∀ j ∈ (if b then [i] else []), P j := by
  by_cases hb : b
  · simp [h, hb, hi]
  · simp [h, hb]

theorem EndsShifted.ahead (hp : EndsShifted t t' n P p) : EndsShifted t t' n P (ahead p) := by
  intro i hi
  refine test_shift ?_ hi
  rw [(hp i hi).1, ne_eq, List.map_eq_nil_iff]

theorem EndsShifted.notAhead (hp : EndsShifted t t' n P p) :
    EndsShifted t t' n P (notAhead p) := by
  intro i hi
  refine test_shift ?_ hi
  rw [(hp i hi).1, List.map_eq_nil_iff]

end Closure

/-! ## Behind the seam -/

/-- Whether the pattern never looks back. -/
def Forward : Pattern → Bool
  | textStart | lineStart => false
  | seq p q | either p q => p.Forward && q.Forward
  | many p _ _ | ahead p | notAhead p => p.Forward
  | empty | one _ | textEnd | lineEnd => true

variable {w t : Text} {p : Pattern}

theorem rest_cursor_append (w t : Text) (i : Nat) :
    ((w ++ t).cursor (w.length + i)).rest = (t.cursor i).rest := by
  simp [Text.cursor, List.drop_append]

theorem endsShifted_behind (w t : Text) : ∀ {p : Pattern}, p.Forward = true →
    EndsShifted t (w ++ t) w.length (fun _ => True) p
  | empty, _ => endsShifted_empty
  | one k, _ => fun i _ => by
    refine test_shift (i := i + 1) ?_ trivial
    rw [List.getElem?_append_right (Nat.le_add_right _ _), Nat.add_sub_cancel_left]
  | seq p q, h => by
    rw [Forward, Bool.and_eq_true] at h
    exact (endsShifted_behind w t h.1).seq (endsShifted_behind w t h.2)
  | either p q, h => by
    rw [Forward, Bool.and_eq_true] at h
    exact (endsShifted_behind w t h.1).either (endsShifted_behind w t h.2)
  | many p least most, h => by
    refine (endsShifted_behind w t (p := p) h).many least most (.inl fun i _ => ?_)
    rw [List.length_append]
    omega
  | ahead p, h => EndsShifted.ahead (endsShifted_behind w t h)
  | notAhead p, h => EndsShifted.notAhead (endsShifted_behind w t h)
  | textEnd, _ => fun i _ => by
    refine test_shift ?_ trivial
    rw [Cursor.atTextEnd, rest_cursor_append, Cursor.atTextEnd]
  | lineEnd, _ => fun i _ => by
    refine test_shift ?_ trivial
    rw [Cursor.atLineEnd, rest_cursor_append, Cursor.atLineEnd]

/-! ## Before the seam -/

/-- Whether the pattern reads no newline and does not ask for the end of the text. -/
def StaysInLine : Pattern → Bool
  | one k => !k.accepts '\n'
  | textEnd => false
  | seq p q | either p q => p.StaysInLine && q.StaysInLine
  | many p _ _ | ahead p | notAhead p => p.StaysInLine
  | empty | textStart | lineStart | lineEnd => true

theorem getElem?_append_before {i : Nat} (hi : i < w.length) (t : Text) :
    (w ++ t)[0 + i]? = some w[i] := by
  rw [Nat.zero_add, List.getElem?_append_left hi, List.getElem?_eq_getElem hi]

theorem succ_lt_length_of_closed (hw : Closed w) {i : Nat} {x : Char} (hx : w[i]? = some x)
    (hne : x ≠ '\n') : i + 1 < w.length := by
  obtain ⟨hi, -⟩ := List.getElem?_eq_some_iff.1 hx
  rcases Nat.eq_or_lt_of_le hi with hlast | hlt
  · refine absurd (hw x ?_) hne
    rw [List.getLast?_eq_getElem?, ← hlast, Nat.succ_eq_add_one, Nat.add_sub_cancel, hx]
    rfl
  · exact hlt

theorem prev_cursor_append {i : Nat} (hi : i ≤ w.length) (t : Text) :
    ((w ++ t).cursor i).prev = (w.cursor i).prev := by
  rw [Text.cursor, Text.cursor, List.take_append_of_le_length hi]

theorem endsShifted_before (hw : Closed w) (t : Text) : ∀ {p : Pattern}, p.StaysInLine = true →
    EndsShifted w (w ++ t) 0 (· < w.length) p
  | empty, _ => endsShifted_empty
  | one k, h => fun i hi => by
    have hx := List.getElem?_eq_getElem hi
    have hx' := getElem?_append_before hi t
    rw [ends, ends, hx, hx', Option.any_some]
    by_cases hk : k.accepts w[i]
    · have hne : w[i] ≠ '\n' := by
        intro heq
        rw [heq] at hk
        simp [StaysInLine, hk] at h
      simp [hk, succ_lt_length_of_closed hw hx hne]
    · simp [hk]
  | seq p q, h => by
    rw [StaysInLine, Bool.and_eq_true] at h
    exact (endsShifted_before hw t h.1).seq (endsShifted_before hw t h.2)
  | either p q, h => by
    rw [StaysInLine, Bool.and_eq_true] at h
    exact (endsShifted_before hw t h.1).either (endsShifted_before hw t h.2)
  | many p least most, h => by
    refine (endsShifted_before hw t (p := p) h).many least most (.inr ⟨fun _ hi => hi, ?_⟩)
    rw [List.length_append]
    omega
  | ahead p, h => EndsShifted.ahead (endsShifted_before hw t h)
  | notAhead p, h => EndsShifted.notAhead (endsShifted_before hw t h)
  | textStart, _ => fun i hi => by
    refine test_shift ?_ hi
    rw [Nat.zero_add, Cursor.atTextStart, prev_cursor_append (Nat.le_of_lt hi), Cursor.atTextStart]
  | lineStart, _ => fun i hi => by
    refine test_shift ?_ hi
    rw [Nat.zero_add, Cursor.atLineStart, prev_cursor_append (Nat.le_of_lt hi), Cursor.atLineStart]
  | lineEnd, _ => fun i hi => by
    have hx := List.getElem?_eq_getElem hi
    have hx' := getElem?_append_before hi t
    refine test_shift ?_ hi
    simp only [Cursor.atLineEnd, Text.cursor, drop_of_getElem? hx, drop_of_getElem? hx']
    rfl

/-! ## Across the seam -/

/-- Whatever is put behind `w`, the pattern ends in `w` where it ends in `w` alone. -/
def Splits (p : Pattern) (w : Text) : Prop :=
  ∀ (t : Text) (i : Nat), i < w.length → p.ends (w ++ t) i = p.ends w i

theorem splits_of_staysInLine (hp : p.StaysInLine = true) (hw : Closed w) : p.Splits w := by
  intro t i hi
  simpa using (endsShifted_before hw t hp i hi).1

theorem splits_of_start {c : Char} (hp : ∀ t i j, p.Matches t i j → t[i]? = some c) (hc : c ∉ w) :
    p.Splits w := by
  have hnone : ∀ (t : Text) (i : Nat), i < w.length → p.ends (w ++ t) i = [] := by
    intro t i hi
    refine List.eq_nil_iff_forall_not_mem.2 fun j hj => hc ?_
    have hle : i ≤ (w ++ t).length := by
      rw [List.length_append]
      omega
    have hstart := hp _ i j ((mem_ends_iff hle).1 hj)
    rw [List.getElem?_append_left hi] at hstart
    exact List.mem_of_getElem? hstart
  intro t i hi
  have hleft := hnone [] i hi
  rw [List.append_nil] at hleft
  rw [hnone t i hi, hleft]

theorem foundFrom_behind (hp : 0 < p.minWidth) (hforward : p.Forward = true) (w t : Text) :
    FoundFrom p (w ++ t) w.length
      ((p.findAll t).map (Prod.map (w.length + ·) (w.length + ·))) := by
  have h := foundFrom_findAll p t
  have hends : ∀ i, p.ends (w ++ t) (w.length + i) = (p.ends t i).map (w.length + ·) :=
    fun i => (endsShifted_behind w t hforward i trivial).1
  have hlen : (w ++ t).length = w.length + t.length := List.length_append
  constructor
  · intro m hm
    obtain ⟨m, hm', rfl⟩ := List.mem_map.1 hm
    have := (h.starts m hm').2
    simp only [Prod.map_fst]
    omega
  · intro m hm
    obtain ⟨m, hm', rfl⟩ := List.mem_map.1 hm
    left
    rw [Prod.map_fst, hends, List.head?_map, (h.preferred m hm').head?_eq hp (h.starts m hm').2]
    rfl
  · refine List.pairwise_map.2 (h.ordered.imp fun hab => ?_)
    unfold Follows at hab ⊢
    simp only [Prod.map_fst, Prod.map_snd]
    omega
  · rintro q hwq hq ⟨j, hj⟩
    obtain ⟨i, rfl⟩ := Nat.exists_eq_add_of_le hwq
    have hi : i ≤ t.length := by omega
    rw [← mem_ends_iff hq, hends, List.mem_map] at hj
    obtain ⟨j, hj, -⟩ := hj
    obtain ⟨m, hm, hqm⟩ := h.covers i (Nat.zero_le i) hi ⟨j, (mem_ends_iff hi).1 hj⟩
    refine ⟨_, List.mem_map_of_mem hm, ?_⟩
    simp only [Prod.map_fst, Prod.map_snd]
    omega

/-- What is found in `w` stays found with `t` behind it, and the search goes on at the seam. -/
theorem FoundFrom.append {ms ms' : List (Nat × Nat)} (hp : 0 < p.minWidth) (hw : p.Splits w)
    (h : FoundFrom p w 0 ms) (h' : FoundFrom p (w ++ t) w.length ms') :
    FoundFrom p (w ++ t) 0 (ms ++ ms') := by
  have hbefore : ∀ m ∈ ms, m.1 < m.2 ∧ m.2 ≤ w.length :=
    fun m hm => ⟨h.lt_of_minWidth hp m hm, (h.bounds hm).2⟩
  have hlen : (w ++ t).length = w.length + t.length := List.length_append
  constructor
  · intro m hm
    rcases List.mem_append.1 hm with hm | hm
    · have := hbefore m hm
      omega
    · exact ⟨Nat.zero_le _, (h'.starts m hm).2⟩
  · intro m hm
    rcases List.mem_append.1 hm with hm | hm
    · have hlt : m.1 < w.length := by
        have := hbefore m hm
        omega
      left
      rw [hw t m.1 hlt, (h.preferred m hm).head?_eq hp (Nat.le_of_lt hlt)]
    · exact h'.preferred m hm
  · refine List.pairwise_append.2 ⟨h.ordered, h'.ordered, fun m hm m' hm' => ?_⟩
    have h1 := hbefore m hm
    have h2 := (h'.starts m' hm').1
    unfold Follows
    omega
  · -- A match that starts before the seam is one in `w`, since the pattern ends there as in `w`.
    rintro q hq0 hq hmatch
    rcases Nat.lt_or_ge q w.length with hlt | hge
    · obtain ⟨j, hj⟩ := hmatch
      rw [← mem_ends_iff hq, hw t q hlt, mem_ends_iff (Nat.le_of_lt hlt)] at hj
      obtain ⟨m, hm, hqm⟩ := h.covers q hq0 (Nat.le_of_lt hlt) ⟨j, hj⟩
      exact ⟨m, List.mem_append_left _ hm, hqm⟩
    · obtain ⟨m, hm, hqm⟩ := h'.covers q hge hq hmatch
      exact ⟨m, List.mem_append_right _ hm, hqm⟩

theorem findAll_append (hp : 0 < p.minWidth) (hforward : p.Forward = true) (hw : p.Splits w)
    (t : Text) : p.findAll (w ++ t)
      = p.findAll w ++ (p.findAll t).map (Prod.map (w.length + ·) (w.length + ·)) := by
  have hfound := (foundFrom_findAll p w).append hp hw (foundFrom_behind hp hforward w t)
  exact (foundFrom_findAll p (w ++ t)).unique hp hfound

end Pattern

end SourceStyle
