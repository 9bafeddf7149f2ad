import SourceStyle.Pattern

/-!
# What a pattern matches

`Pattern.Matches` says what it means for a pattern to match a stretch of a text, with no order among
the ways to match. `Pattern.ends` lists the ends of the matches that start at an offset in their
order of preference. Backtracking tries these ends one after another (`run_cursor`), and they are
the ends of all matches (`mem_ends_iff`). So a match is found wherever there is one, and the one that
is found is the first in the list (`firstEnd_cursor`).
-/

namespace SourceStyle

/-- The cursor at an offset of a text. -/
def Text.cursor (t : Text) (i : Nat) : Cursor := ⟨i, (t.take i).getLast?, t.drop i⟩

namespace Pattern

/-- Exactly `n` steps of a relation. -/
def Steps (R : Nat → Nat → Prop) : Nat → Nat → Nat → Prop
  | 0, i, j => i = j
  | n + 1, i, j => ∃ m, R i m ∧ Steps R n m j

/-- The pattern matches the text from offset `i` up to offset `j`. A bound on a repetition that is
below its least count stands for that count. -/
def Matches (t : Text) : Pattern → Nat → Nat → Prop
  | empty, i, j => i = j
  | one k, i, j => (∃ x, t[i]? = some x ∧ k.accepts x) ∧ j = i + 1
  | seq p q, i, j => ∃ m, p.Matches t i m ∧ q.Matches t m j
  | either p q, i, j => p.Matches t i j ∨ q.Matches t i j
  | many p least most, i, j =>
    ∃ n, least ≤ n ∧ (∀ m, most = some m → n ≤ max least m) ∧ Steps (p.Matches t) n i j
  | ahead p, i, j => i = j ∧ ∃ m, p.Matches t i m
  | notAhead p, i, j => i = j ∧ ¬ ∃ m, p.Matches t i m
  | textStart, i, j => i = j ∧ i = 0
  | lineStart, i, j => i = j ∧ (i = 0 ∨ t[i - 1]? = some '\n')
  | textEnd, i, j => i = j ∧ (i = t.length ∨ i + 1 = t.length ∧ t[i]? = some '\n')
  | lineEnd, i, j => i = j ∧ (i = t.length ∨ t[i]? = some '\n')

/-- The ends that exactly `n` steps reach, where `E` gives those of one step. -/
def timesEnds (E : Nat → List Nat) : Nat → Nat → List Nat
  | 0, i => [i]
  | n + 1, i => (E i).flatMap (timesEnds E n)

/-- The ends that at most `n` steps reach, more steps before fewer. -/
def upToEnds (E : Nat → List Nat) : Nat → Nat → List Nat
  | 0, i => [i]
  | n + 1, i => ((E i).flatMap fun j => if i < j then upToEnds E n j else [j]) ++ [i]

/-- The rounds that a repetition may add to its least count with `n` characters left. -/
def roundsLeft (least : Nat) (most : Option Nat) (n : Nat) : Nat :=
  match most with
  | none => n
  | some m => min (m - least) n

/-- The ends of the matches that start at offset `i`, the preferred one first. -/
def ends (t : Text) : Pattern → Nat → List Nat
  | empty, i => [i]
  | one k, i => if t[i]?.any k.accepts then [i + 1] else []
  | seq p q, i => (p.ends t i).flatMap (q.ends t)
  | either p q, i => p.ends t i ++ q.ends t i
  | many p least most, i =>
    (timesEnds (p.ends t) least i).flatMap fun j =>
      upToEnds (p.ends t) (roundsLeft least most (t.length - j)) j
  | ahead p, i => if p.ends t i ≠ [] then [i] else []
  | notAhead p, i => if p.ends t i = [] then [i] else []
  | textStart, i => if (t.cursor i).atTextStart then [i] else []
  | lineStart, i => if (t.cursor i).atLineStart then [i] else []
  | textEnd, i => if (t.cursor i).atTextEnd then [i] else []
  | lineEnd, i => if (t.cursor i).atLineEnd then [i] else []

/-! ## Cursors of a text -/

theorem cursor_succ {t : Text} {i : Nat} {x : Char} (h : t[i]? = some x) :
    t.cursor (i + 1) = ⟨i + 1, some x, t.drop (i + 1)⟩ := by
  simp [Text.cursor, List.take_add_one, h]

theorem drop_of_getElem? {t : Text} {i : Nat} {x : Char} (h : t[i]? = some x) :
    t.drop i = x :: t.drop (i + 1) := by
  obtain ⟨hi, rfl⟩ := List.getElem?_eq_some_iff.1 h
  exact List.drop_eq_getElem_cons hi

theorem length_rest_cursor (t : Text) (i : Nat) : (t.cursor i).rest.length = t.length - i :=
  List.length_drop

/-! ## Backtracking tries the ends in order -/

theorem findSome?_flatMap {α β γ : Type} (f : α → List β) (g : β → Option γ) (l : List α) :
    (l.flatMap f).findSome? g = l.findSome? fun a => (f a).findSome? g := by
  induction l with
  | nil => rfl
  | cons a l ih =>
    rw [List.flatMap_cons, List.findSome?_append, ih, List.findSome?_cons]
    cases (f a).findSome? g <;> rfl

section Order

variable {t : Text} {step : Cursor → Next → Option Cursor} {E : Nat → List Nat}

theorem times_cursor
    (hstep : ∀ i next, step (t.cursor i) next = (E i).findSome? fun j => next (t.cursor j)) :
    ∀ (n i : Nat) (next : Next), times step n (t.cursor i) next
      = (timesEnds E n i).findSome? fun j => next (t.cursor j)
  | 0, i, next => by simp [times, timesEnds]
  | n + 1, i, next => by
    simp only [times, timesEnds, hstep, times_cursor hstep n, findSome?_flatMap]

theorem upTo_cursor
    (hstep : ∀ i next, step (t.cursor i) next = (E i).findSome? fun j => next (t.cursor j)) :
    ∀ (n i : Nat) (next : Next), upTo step n (t.cursor i) next
      = (upToEnds E n i).findSome? fun j => next (t.cursor j)
  | 0, i, next => by simp [upTo, upToEnds]
  | n + 1, i, next => by
    simp only [upTo, upToEnds, hstep, upTo_cursor hstep n, List.findSome?_append,
      findSome?_flatMap, List.findSome?_singleton]
    congr 2
    funext j
    change (if i < j then _ else _) = _
    split
    · rfl
    · rw [List.findSome?_singleton]

theorem isSome_findSome?_cursor (l : List Nat) :
    (l.findSome? fun j => some (t.cursor j)).isSome = true ↔ l ≠ [] := by
  cases l <;> simp

/-- Running a pattern goes on from the first of its ends from which the rest succeeds. -/
theorem run_cursor (t : Text) : ∀ (p : Pattern) (i : Nat) (next : Next),
    p.run (t.cursor i) next = (p.ends t i).findSome? fun j => next (t.cursor j)
  | empty, i, next => by simp [run, ends]
  | one k, i, next => by
    rcases hx : t[i]? with _ | x
    · have hnil : (t.cursor i).rest = [] := by simpa [Text.cursor] using hx
      simp only [run, ends, hx, hnil]
      rfl
    · have hcons : (t.cursor i).rest = x :: t.drop (i + 1) := drop_of_getElem? hx
      simp only [run, ends, hx, hcons, Option.any_some]
      split
      · rw [List.findSome?_singleton, cursor_succ hx]
        rfl
      · rfl
  | seq p q, i, next => by
    simp only [run, ends, run_cursor t p, run_cursor t q, findSome?_flatMap]
  | either p q, i, next => by
    simp only [run, ends, run_cursor t p, run_cursor t q, List.findSome?_append]
  | many p least most, i, next => by
    rcases most with _ | m <;>
      simp only [run, ends, times_cursor (run_cursor t p), upTo_cursor (run_cursor t p),
        findSome?_flatMap, roundsLeft, length_rest_cursor]
  | ahead p, i, next => by
    simp only [run, ends, run_cursor t p, isSome_findSome?_cursor]
    split <;> simp_all
  | notAhead p, i, next => by
    simp only [run, ends, run_cursor t p, isSome_findSome?_cursor]
    split <;> simp_all
  | textStart, i, next => by
    simp only [run, ends]
    split <;> simp
  | lineStart, i, next => by
    simp only [run, ends]
    split <;> simp
  | textEnd, i, next => by
    simp only [run, ends]
    split <;> simp
  | lineEnd, i, next => by
    simp only [run, ends]
    split <;> simp

end Order

/-! ## The width of matches -/

/-- A number of characters that every match has at least. -/
def minWidth : Pattern → Nat
  | one _ => 1
  | seq p q => p.minWidth + q.minWidth
  | either p q => min p.minWidth q.minWidth
  | many p least _ => least * p.minWidth
  | _ => 0

section Steps

variable {R : Nat → Nat → Prop} {length : Nat}

theorem Steps.add_mul_le {w : Nat} (hR : ∀ i j, R i j → i + w ≤ j) :
    ∀ {n i j : Nat}, Steps R n i j → i + n * w ≤ j
  | 0, i, j, h => by
    obtain rfl : i = j := h
    simp
  | n + 1, i, j, ⟨m, hm, h⟩ => by
    have h1 := hR i m hm
    have h2 := Steps.add_mul_le hR h
    rw [Nat.add_mul]
    omega

theorem Steps.le_length (hR : ∀ i j, i ≤ length → R i j → j ≤ length) :
    ∀ {n i j : Nat}, i ≤ length → Steps R n i j → j ≤ length
  | 0, i, j, hi, h => by
    obtain rfl : i = j := h
    exact hi
  | n + 1, i, j, hi, ⟨m, hm, h⟩ => Steps.le_length hR (hR i m hi hm) h

theorem steps_add {a b i j : Nat} :
    Steps R (a + b) i j ↔ ∃ m, Steps R a i m ∧ Steps R b m j := by
  induction a generalizing i with
  | zero => simp [Steps]
  | succ a ih =>
    rw [Nat.add_right_comm]
    simp only [Steps, ih]
    constructor
    · rintro ⟨m, hm, k, h1, h2⟩
      exact ⟨k, ⟨m, hm, h1⟩, h2⟩
    · rintro ⟨k, ⟨m, hm, h1⟩, h2⟩
      exact ⟨m, hm, k, h1, h2⟩

end Steps

theorem Matches.add_minWidth_le {t : Text} : ∀ {p : Pattern} {i j : Nat}, p.Matches t i j →
    i + p.minWidth ≤ j
  | empty, i, j, h => Nat.le_of_eq h
  | one k, i, j, ⟨_, h⟩ => Nat.le_of_eq h.symm
  | seq p q, i, j, ⟨m, hp, hq⟩ => by
    have h1 := hp.add_minWidth_le
    have h2 := hq.add_minWidth_le
    simp only [minWidth]
    omega
  | either p q, i, j, h => by
    simp only [minWidth]
    rcases h with h | h
    · have := h.add_minWidth_le
      omega
    · have := h.add_minWidth_le
      omega
  | many p least most, i, j, ⟨n, hn, _, h⟩ => by
    have h1 := h.add_mul_le fun _ _ hm => hm.add_minWidth_le
    have h2 := Nat.mul_le_mul_right p.minWidth hn
    simp only [minWidth]
    omega
  | ahead p, i, j, h => Nat.le_of_eq h.1
  | notAhead p, i, j, h => Nat.le_of_eq h.1
  | textStart, i, j, h => Nat.le_of_eq h.1
  | lineStart, i, j, h => Nat.le_of_eq h.1
  | textEnd, i, j, h => Nat.le_of_eq h.1
  | lineEnd, i, j, h => Nat.le_of_eq h.1

theorem Matches.le {t : Text} {p : Pattern} {i j : Nat} (h : p.Matches t i j) : i ≤ j := by
  have := h.add_minWidth_le
  omega

theorem Matches.le_length {t : Text} : ∀ {p : Pattern} {i j : Nat}, i ≤ t.length →
    p.Matches t i j → j ≤ t.length
  | empty, i, j, hi, h => h ▸ hi
  | one k, i, j, hi, ⟨⟨x, hx, _⟩, h⟩ => by
    obtain ⟨hlt, -⟩ := List.getElem?_eq_some_iff.1 hx
    omega
  | seq p q, i, j, hi, ⟨m, hp, hq⟩ => hq.le_length (hp.le_length hi)
  | either p q, i, j, hi, h => by
    rcases h with h | h
    · exact h.le_length hi
    · exact h.le_length hi
  | many p least most, i, j, hi, ⟨n, _, _, h⟩ =>
    h.le_length (fun _ _ ha hab => hab.le_length ha) hi
  | ahead p, i, j, hi, h => h.1 ▸ hi
  | notAhead p, i, j, hi, h => h.1 ▸ hi
  | textStart, i, j, hi, h => h.1 ▸ hi
  | lineStart, i, j, hi, h => h.1 ▸ hi
  | textEnd, i, j, hi, h => h.1 ▸ hi
  | lineEnd, i, j, hi, h => h.1 ▸ hi

/-! ## The ends are those of the matches -/

section Ends

variable {R : Nat → Nat → Prop} {E : Nat → List Nat} {length : Nat}

theorem mem_timesEnds_iff (hE : ∀ i j, i ≤ length → (j ∈ E i ↔ R i j))
    (hR : ∀ i j, i ≤ length → R i j → j ≤ length) :
    ∀ {n i j : Nat}, i ≤ length → (j ∈ timesEnds E n i ↔ Steps R n i j)
  | 0, i, j, hi => by simp [timesEnds, Steps, eq_comm]
  | n + 1, i, j, hi => by
    simp only [timesEnds, Steps, List.mem_flatMap, hE i _ hi]
    constructor
    · rintro ⟨m, hm, h⟩
      exact ⟨m, hm, (mem_timesEnds_iff hE hR (hR i m hi hm)).1 h⟩
    · rintro ⟨m, hm, h⟩
      exact ⟨m, hm, (mem_timesEnds_iff hE hR (hR i m hi hm)).2 h⟩

theorem steps_of_mem_upToEnds (hE : ∀ i j, i ≤ length → (j ∈ E i ↔ R i j))
    (hR : ∀ i j, i ≤ length → R i j → j ≤ length) :
    ∀ {n i j : Nat}, i ≤ length → j ∈ upToEnds E n i → ∃ k ≤ n, Steps R k i j
  | 0, i, j, hi, h => by
    simp only [upToEnds, List.mem_singleton] at h
    exact ⟨0, Nat.le_refl 0, h.symm⟩
  | n + 1, i, j, hi, h => by
    simp only [upToEnds, List.mem_append, List.mem_flatMap, List.mem_singleton] at h
    rcases h with ⟨m, hm, h⟩ | rfl
    · have hm := (hE i m hi).1 hm
      split at h
      · obtain ⟨k, hk, hs⟩ := steps_of_mem_upToEnds hE hR (hR i m hi hm) h
        exact ⟨k + 1, by omega, m, hm, hs⟩
      · rw [List.mem_singleton] at h
        exact ⟨1, by omega, m, hm, h.symm⟩
    · exact ⟨0, by omega, rfl⟩

/-- Rounds that stay in place can be left out, so no more rounds than there are characters left are
needed. -/
theorem mem_upToEnds_of_steps (hE : ∀ i j, i ≤ length → (j ∈ E i ↔ R i j))
    (hle : ∀ i j, R i j → i ≤ j) (hR : ∀ i j, i ≤ length → R i j → j ≤ length) :
    ∀ {n k i j : Nat}, i ≤ length → (k ≤ n ∨ length - i ≤ n) → Steps R k i j →
      j ∈ upToEnds E n i
  | 0, 0, i, j, hi, _, h => by
    obtain rfl : i = j := h
    simp [upToEnds]
  | 0, k + 1, i, j, hi, hk, h => by
    have h1 := h.add_mul_le (w := 0) hle
    have h2 := h.le_length hR hi
    obtain rfl : i = j := by omega
    simp [upToEnds]
  | n + 1, 0, i, j, hi, _, h => by
    obtain rfl : i = j := h
    simp [upToEnds]
  | n + 1, k + 1, i, j, hi, hk, ⟨m, hm, h⟩ => by
    rcases Nat.eq_or_lt_of_le (hle i m hm) with rfl | hlt
    · exact mem_upToEnds_of_steps hE hle hR hi (by omega) h
    · have ih := mem_upToEnds_of_steps hE hle hR (n := n) (hR i m hi hm) (by omega) h
      simp only [upToEnds, List.mem_append, List.mem_flatMap]
      exact .inl ⟨m, (hE i m hi).2 hm, by rwa [if_pos hlt]⟩

end Ends

theorem add_le_of_le_roundsLeft {least n k : Nat} {most : Option Nat}
    (h : k ≤ roundsLeft least most n) : ∀ m, most = some m → least + k ≤ max least m := by
  rintro m rfl
  simp only [roundsLeft] at h
  omega

theorem le_roundsLeft_or {least k : Nat} {most : Option Nat} (n : Nat)
    (h : ∀ m, most = some m → least + k ≤ max least m) :
    k ≤ roundsLeft least most n ∨ n ≤ roundsLeft least most n := by
  rcases most with _ | m
  · exact .inr (Nat.le_refl n)
  · have := h m rfl
    simp only [roundsLeft]
    omega

section Anchors

variable {t : Text} {i : Nat}

theorem prev_cursor (hi : i ≤ t.length) :
    (t.cursor i).prev = if i = 0 then none else t[i - 1]? := by
  cases i with
  | zero => rfl
  | succ i =>
    rw [cursor_succ (List.getElem?_eq_getElem hi)]
    simp [List.getElem?_eq_getElem (show i < t.length by omega)]

theorem atTextStart_cursor_iff (hi : i ≤ t.length) : (t.cursor i).atTextStart = true ↔ i = 0 := by
  rw [Cursor.atTextStart, prev_cursor hi]
  split
  · simp_all
  · rename_i h
    rw [List.getElem?_eq_getElem (by omega)]
    simp [h]

theorem atLineStart_cursor_iff (hi : i ≤ t.length) :
    (t.cursor i).atLineStart = true ↔ i = 0 ∨ t[i - 1]? = some '\n' := by
  rw [Cursor.atLineStart, prev_cursor hi]
  split
  · simp_all
  · rename_i h
    rw [List.getElem?_eq_getElem (by omega)]
    simp [h]

theorem isEmpty_drop_iff (hi : i ≤ t.length) : (t.drop i).isEmpty = true ↔ i = t.length := by
  rw [List.isEmpty_iff, List.drop_eq_nil_iff]
  omega

theorem drop_eq_newline_iff : t.drop i = ['\n'] ↔ i + 1 = t.length ∧ t[i]? = some '\n' := by
  constructor
  · intro h
    have hlen := congrArg List.length h
    have hhead := congrArg List.head? h
    simp only [List.length_drop, List.length_singleton] at hlen
    rw [List.head?_drop] at hhead
    exact ⟨by omega, hhead⟩
  · rintro ⟨hlen, hx⟩
    rw [drop_of_getElem? hx, List.drop_eq_nil_of_le (by omega)]

theorem atTextEnd_cursor_iff (hi : i ≤ t.length) : (t.cursor i).atTextEnd = true
    ↔ i = t.length ∨ i + 1 = t.length ∧ t[i]? = some '\n' := by
  simp only [Cursor.atTextEnd, Text.cursor, Bool.or_eq_true, isEmpty_drop_iff hi, beq_iff_eq,
    drop_eq_newline_iff]

theorem atLineEnd_cursor_iff (hi : i ≤ t.length) :
    (t.cursor i).atLineEnd = true ↔ i = t.length ∨ t[i]? = some '\n' := by
  simp only [Cursor.atLineEnd, Text.cursor, Bool.or_eq_true, isEmpty_drop_iff hi, beq_iff_eq,
    List.head?_drop]

end Anchors

theorem mem_ite_singleton_iff {i j : Nat} {c : Prop} [Decidable c] :
    j ∈ (if c then [i] else []) ↔ i = j ∧ c := by
  split <;> simp_all [eq_comm]

/-- The ends listed at an offset are those of the matches that start there. -/
theorem mem_ends_iff {t : Text} : ∀ {p : Pattern} {i j : Nat}, i ≤ t.length →
    (j ∈ p.ends t i ↔ p.Matches t i j)
  | empty, i, j, hi => by simp [ends, Matches, eq_comm]
  | one k, i, j, hi => by
    simp only [ends, Matches]
    rcases t[i]? with _ | x
    · simp
    · by_cases hx : k.accepts x <;> simp [hx]
  | seq p q, i, j, hi => by
    simp only [ends, Matches, List.mem_flatMap, mem_ends_iff (p := p) hi]
    constructor
    · rintro ⟨m, hm, h⟩
      exact ⟨m, hm, (mem_ends_iff (hm.le_length hi)).1 h⟩
    · rintro ⟨m, hm, h⟩
      exact ⟨m, hm, (mem_ends_iff (hm.le_length hi)).2 h⟩
  | either p q, i, j, hi => by
    simp only [ends, Matches, List.mem_append, mem_ends_iff hi]
  | many p least most, i, j, hi => by
    have hE : ∀ i j, i ≤ t.length → (j ∈ p.ends t i ↔ p.Matches t i j) :=
      fun _ _ hi => mem_ends_iff hi
    have hR : ∀ i j, i ≤ t.length → p.Matches t i j → j ≤ t.length :=
      fun _ _ hi h => h.le_length hi
    simp only [ends, Matches, List.mem_flatMap, mem_timesEnds_iff hE hR hi]
    constructor
    · rintro ⟨m, hm, h⟩
      obtain ⟨k, hk, hs⟩ := steps_of_mem_upToEnds hE hR (hm.le_length hR hi) h
      exact ⟨least + k, by omega, add_le_of_le_roundsLeft hk, steps_add.2 ⟨m, hm, hs⟩⟩
    · rintro ⟨n, hn, hmost, h⟩
      obtain ⟨k, rfl⟩ := Nat.exists_eq_add_of_le hn
      obtain ⟨m, hm, hs⟩ := steps_add.1 h
      exact ⟨m, hm, mem_upToEnds_of_steps hE (fun _ _ h => h.le) hR (hm.le_length hR hi)
        (le_roundsLeft_or _ hmost) hs⟩
  | ahead p, i, j, hi => by
    simp only [ends, Matches, mem_ite_singleton_iff, ne_eq, List.eq_nil_iff_forall_not_mem,
      mem_ends_iff hi, Classical.not_forall, Classical.not_not]
  | notAhead p, i, j, hi => by
    simp only [ends, Matches, mem_ite_singleton_iff, List.eq_nil_iff_forall_not_mem,
      mem_ends_iff hi, not_exists]
  | textStart, i, j, hi => by
    simp only [ends, Matches, mem_ite_singleton_iff, atTextStart_cursor_iff hi]
  | lineStart, i, j, hi => by
    simp only [ends, Matches, mem_ite_singleton_iff, atLineStart_cursor_iff hi]
  | textEnd, i, j, hi => by
    simp only [ends, Matches, mem_ite_singleton_iff, atTextEnd_cursor_iff hi]
  | lineEnd, i, j, hi => by
    simp only [ends, Matches, mem_ite_singleton_iff, atLineEnd_cursor_iff hi]

/-! ## The preferred ends -/

theorem firstEnd_cursor (t : Text) (p : Pattern) (i : Nat) :
    p.firstEnd (t.cursor i) = (p.ends t i).head? := by
  rw [firstEnd, run_cursor]
  cases p.ends t i <;> rfl

theorem firstEndPast_cursor (t : Text) (p : Pattern) (i : Nat) :
    p.firstEndPast (t.cursor i) = (p.ends t i).find? (i < ·) := by
  rw [firstEndPast, run_cursor]
  induction p.ends t i with
  | nil => rfl
  | cons e l ih =>
    by_cases he : (t.cursor i).offset < (t.cursor e).offset
    · have hie : i < e := he
      simp [hie, Text.cursor]
    · have hie : ¬ i < e := he
      simpa [he, hie] using ih

theorem matchesStart_iff {t : Text} {p : Pattern} :
    p.matchesStart t = true ↔ ∃ e, p.Matches t 0 e := by
  have hstart : Cursor.start t = t.cursor 0 := rfl
  simp only [matchesStart, hstart, firstEnd_cursor, ← mem_ends_iff (Nat.zero_le _)]
  cases p.ends t 0 with
  | nil => simp
  | cons e l => simp

end Pattern

end SourceStyle
