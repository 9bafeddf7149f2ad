import SourceStyle.Position
import SourceStyle.Proofs.Lines

/-!
# Offsets and positions

A place in a text stands behind whole lines and a part of the line after them. `Text.Located` gives
the offset and the position of such a place, and both `Text.positionAt` and `Text.offsetAt` compute
it: the first from the offset (`positionAt_of_located`), the second from the position
(`offsetAt_eq_ok_iff`). So they undo each other, and a later place has a later position
(`Located.before`).
-/

namespace SourceStyle

/-- Strictly before, in reading order. -/
def Position.Before (a b : Position) : Prop :=
  a.line < b.line ∨ a.line = b.line ∧ a.column < b.column

theorem Position.not_before_iff {a b : Position} : ¬ b.Before a ↔ a ≤ b := by
  change _ ↔ a.line < b.line ∨ a.line = b.line ∧ a.column ≤ b.column
  unfold Position.Before
  omega

namespace Text

/-- The offset and the position of the place behind the whole lines `w` and a part of a line. -/
inductive Located (t : Text) : Nat → Position → Prop
  | intro {w part rest : Text} : t = w ++ (part ++ rest) → Closed w → '\n' ∉ part →
      Located t (w.length + part.length) ⟨w.count '\n', part.length⟩

/-- The positions of a text: those on one of its lines, up to the end of the line. -/
def Inside (t : Text) (p : Position) : Prop :=
  0 ≤ p.line ∧ 0 ≤ p.column ∧ ∃ line, t.lines[p.line.toNat]? = some line ∧ p.column ≤ line.length

variable {t : Text}

theorem Located.le_length {o : Nat} {p : Position} (h : t.Located o p) : o ≤ t.length := by
  obtain ⟨ht, -, -⟩ := h
  simp only [ht, List.length_append]
  omega

theorem exists_located {o : Nat} (h : o ≤ t.length) : ∃ p, t.Located o p := by
  obtain ⟨w, part, hs, hw, hp⟩ := exists_closed_append (t.take o)
  have ho : w.length + part.length = o := by
    rw [← List.length_append, ← hs, List.length_take, Nat.min_eq_left h]
  have ht : t = w ++ (part ++ t.drop o) := by
    rw [← List.append_assoc, ← hs, List.take_append_drop]
  have hloc := Located.intro ht hw hp
  rw [ho] at hloc
  exact ⟨_, hloc⟩

/-- A column up to the end of the line that stands behind whole lines. -/
theorem Located.of_line {w line rest : Text} {c : Nat} (ht : t = w ++ (line ++ rest))
    (hw : Closed w) (hfree : '\n' ∉ line) (hc : c ≤ line.length) :
    t.Located (w.length + c) ⟨w.count '\n', c⟩ := by
  have hlen : (line.take c).length = c := by
    rw [List.length_take, Nat.min_eq_left hc]
  have hsplit : t = w ++ (line.take c ++ (line.drop c ++ rest)) := by
    rw [← List.append_assoc (List.take _ _), List.take_append_drop, ht]
  have hloc := Located.intro hsplit hw fun hm => hfree (List.mem_of_mem_take hm)
  rwa [hlen] at hloc

/-! ## From an offset to its position -/

/-- Seen from its end, a text starts with the part after its whole lines. -/
theorem takeWhile_reverse_append {w part : Text} (hw : Closed w) (hp : '\n' ∉ part) :
    (w ++ part).reverse.takeWhile (· ≠ '\n') = part.reverse := by
  have hback : w.reverse.takeWhile (· ≠ '\n') = [] := by
    rcases hr : w.reverse with _ | ⟨c, r⟩
    · rfl
    · have hc : c = '\n' := hw c (by rw [← List.head?_reverse, hr]; rfl)
      simp [hc]
  rw [List.reverse_append, List.takeWhile_append_of_pos, hback, List.append_nil]
  intro c hc
  have hne : c ≠ '\n' := fun h => hp (h ▸ List.mem_reverse.1 hc)
  simpa using hne

theorem positionAt_of_located {o : Nat} {p : Position} (h : t.Located o p) :
    t.positionAt o = .ok p := by
  have hle := h.le_length
  obtain ⟨ht, hw, hp⟩ := h
  rename_i w part rest
  have hin : ¬ (((w.length + part.length : Nat) : Int) < 0
      ∨ (t.length : Int) < ((w.length + part.length : Nat) : Int)) := by omega
  have htake : t.take (w.length + part.length) = w ++ part := by
    rw [ht, ← List.append_assoc, List.take_left' (by simp)]
  rw [positionAt, if_neg hin]
  simp only [Int.toNat_natCast, htake, takeWhile_reverse_append hw hp, List.count_append,
    List.count_eq_zero_of_not_mem hp, List.length_reverse, Nat.add_zero]

theorem positionAt_of_not_le {o : Int} (h : ¬ (0 ≤ o ∧ o ≤ t.length)) :
    t.positionAt o = .error (.offsetOutside o t.length) := by
  rw [positionAt, if_pos (by omega)]

/-! ## From a position to its offset -/

theorem offsetAt_of_located {o : Nat} {p : Position} (h : t.Located o p) :
    t.offsetAt p = .ok o := by
  obtain ⟨ht, hw, hp⟩ := h
  rename_i w part rest
  have hfrom : t.fromLine (w.count '\n') = some (part ++ rest) := by
    rw [ht, fromLine_append hw]
  have hlen : t.length - (part ++ rest).length = w.length := by
    rw [ht, List.length_append, Nat.add_sub_cancel]
  have hcol : ¬ (((part ++ rest).firstLine.length : Int) < (part.length : Int)) := by
    rw [firstLine_append rest hp, List.length_append]
    omega
  rw [offsetAt, if_neg (by simp only; omega)]
  simp only [Int.toNat_natCast, hfrom, if_neg hcol, hlen]

theorem located_of_offsetAt {o : Nat} {p : Position} (h : t.offsetAt p = .ok o) :
    t.Located o p := by
  rw [offsetAt] at h
  split at h
  · simp at h
  · rename_i hneg
    split at h
    · simp at h
    · rename_i tail hfrom
      split at h
      · simp at h
      · rename_i hcol
        obtain ⟨line, column⟩ := p
        obtain ⟨l, rfl⟩ := Int.eq_ofNat_of_zero_le (a := line) (by simp only at hneg; omega)
        obtain ⟨c, rfl⟩ := Int.eq_ofNat_of_zero_le (a := column) (by simp only at hneg; omega)
        obtain ⟨w, ht, hw, hl⟩ := exists_of_fromLine t hfrom
        obtain ⟨rest, htail, -⟩ := firstLine_append_rest tail
        simp only [Int.toNat_natCast] at h hl hcol
        have ho : w.length + c = o := by
          rw [ht, List.length_append, Nat.add_sub_cancel, Except.ok.injEq] at h
          exact h
        have hsplit : t = w ++ (tail.firstLine ++ rest) := by
          rw [← htail, ht]
        have hloc := Located.of_line hsplit hw (not_mem_firstLine tail) (c := c) (by omega)
        rwa [hl, ho] at hloc

theorem offsetAt_eq_ok_iff {o : Nat} {p : Position} : t.offsetAt p = .ok o ↔ t.Located o p :=
  ⟨located_of_offsetAt, offsetAt_of_located⟩

/-- The positions that have an offset are those of the text. -/
theorem exists_located_iff {p : Position} : (∃ o, t.Located o p) ↔ t.Inside p := by
  constructor
  · rintro ⟨o, ht, hw, hp⟩
    rename_i w part rest
    refine ⟨by simp, by simp, (part ++ rest).firstLine, ?_, ?_⟩
    · rw [← map_firstLine_fromLine, ht, Int.toNat_natCast, fromLine_append hw]
      rfl
    · rw [firstLine_append rest hp, List.length_append]
      simp only
      omega
  · rintro ⟨hl, hc, line, hline, hle⟩
    obtain ⟨w, rest, ht, hw, hn, hfree, -⟩ := exists_of_getElem?_lines hline
    obtain ⟨l, c⟩ := p
    obtain ⟨l, rfl⟩ := Int.eq_ofNat_of_zero_le hl
    obtain ⟨c, rfl⟩ := Int.eq_ofNat_of_zero_le hc
    have hloc := Located.of_line ht hw hfree (Int.ofNat_le.1 hle)
    rw [hn, Int.toNat_natCast] at hloc
    exact ⟨_, hloc⟩

/-! ## Order -/

/-- What stands further right in a text has the later position. -/
theorem Located.before {i j : Nat} {p q : Position} (hp : t.Located i p) (hq : t.Located j q)
    (hij : i < j) : p.Before q := by
  obtain ⟨ht, hw, hfree⟩ := hp
  rename_i w part rest
  obtain ⟨ht', hw', hfree'⟩ := hq
  rename_i w' part' rest'
  obtain ⟨mid, hmid⟩ : w ++ part <+: w' ++ part' := by
    have hpre : w ++ part <+: t := ⟨rest, by rw [ht, List.append_assoc]⟩
    have hpre' : w' ++ part' <+: t := ⟨rest', by rw [ht', List.append_assoc]⟩
    refine List.prefix_of_prefix_length_le hpre hpre' ?_
    simp only [List.length_append]
    omega
  have hcount := congrArg (List.count '\n') hmid
  have hlength := congrArg List.length hmid
  simp only [List.count_append, List.count_eq_zero_of_not_mem hfree,
    List.count_eq_zero_of_not_mem hfree', List.length_append] at hcount hlength
  by_cases hm : '\n' ∈ mid
  · have hpos := List.count_pos_iff.2 hm
    left
    simp only
    omega
  · have hback : (part ++ mid).reverse = part'.reverse := by
      rw [← takeWhile_reverse_append hw' hfree', ← hmid, List.append_assoc,
        takeWhile_reverse_append hw (by simp [hfree, hm])]
    have hcols := congrArg List.length hback
    simp only [List.length_reverse, List.length_append] at hcols
    rw [List.count_eq_zero_of_not_mem hm] at hcount
    right
    simp only
    omega

theorem Located.unique {o : Nat} {p q : Position} (hp : t.Located o p) (hq : t.Located o q) :
    p = q := by
  have h := positionAt_of_located hp
  rw [positionAt_of_located hq, Except.ok.injEq] at h
  exact h.symm

theorem Located.le_iff {i j : Nat} {p q : Position} (hp : t.Located i p) (hq : t.Located j q) :
    p ≤ q ↔ i ≤ j := by
  rw [← Position.not_before_iff]
  rcases Nat.lt_trichotomy i j with h | rfl | h
  · have := hp.before hq h
    unfold Position.Before at this ⊢
    omega
  · obtain rfl := hp.unique hq
    simp [Position.Before]
  · have := hq.before hp h
    simp only [this, not_true, false_iff]
    omega

/-! ## Spans -/

theorem spanAt_of_located {i j : Nat} {p q : Position} (hp : t.Located i p)
    (hq : t.Located j q) : t.spanAt i j = Span.between p q := by
  simp only [spanAt, positionAt_of_located hp, positionAt_of_located hq]
  rfl

/-- The span between two offsets in order runs from the position of one to that of the other. -/
theorem spanAt_of_le {i j : Nat} (hij : i ≤ j) (hj : j ≤ t.length) :
    ∃ s, t.spanAt i j = .ok s ∧ t.Located i s.start ∧ t.Located j s.stop := by
  obtain ⟨p, hp⟩ := exists_located (t := t) (o := i) (by omega)
  obtain ⟨q, hq⟩ := exists_located hj
  have hle := (hp.le_iff hq).2 hij
  exact ⟨⟨p, q, hle⟩, by rw [spanAt_of_located hp hq, Span.between, dif_pos hle], hp, hq⟩

theorem spanAt_of_lt {i j : Nat} (hij : j < i) (hi : i ≤ t.length) :
    ∃ p q, t.spanAt i j = .error (.reversed p q) := by
  obtain ⟨p, hp⟩ := exists_located hi
  obtain ⟨q, hq⟩ := exists_located (t := t) (o := j) (by omega)
  have hle : ¬ p ≤ q := by
    rw [hp.le_iff hq]
    omega
  exact ⟨p, q, by rw [spanAt_of_located hp hq, Span.between, dif_neg hle]⟩

theorem spanAt_outside {start stop : Int}
    (h : ¬ ((0 ≤ start ∧ start ≤ t.length) ∧ 0 ≤ stop ∧ stop ≤ t.length)) :
    ∃ o, t.spanAt start stop = .error (.offsetOutside o t.length) := by
  by_cases hs : 0 ≤ start ∧ start ≤ t.length
  · obtain ⟨n, rfl⟩ := Int.eq_ofNat_of_zero_le hs.1
    obtain ⟨p, hp⟩ := exists_located (t := t) (o := n) (by omega)
    refine ⟨stop, ?_⟩
    rw [spanAt, positionAt_of_located hp, positionAt_of_not_le fun he => h ⟨hs, he⟩]
    rfl
  · refine ⟨start, ?_⟩
    rw [spanAt, positionAt_of_not_le hs]
    rfl

/-- Two offsets of the text give a span or are reversed, by their order, and any others are
refused. -/
theorem spanAt_cases (t : Text) (start stop : Int) :
    ((0 ≤ start ∧ start ≤ stop ∧ stop ≤ t.length) ∧ ∃ s, t.spanAt start stop = .ok s)
      ∨ ((0 ≤ stop ∧ stop < start ∧ start ≤ t.length)
        ∧ ∃ p q, t.spanAt start stop = .error (.reversed p q))
      ∨ (¬ ((0 ≤ start ∧ start ≤ t.length) ∧ 0 ≤ stop ∧ stop ≤ t.length)
        ∧ ∃ o, t.spanAt start stop = .error (.offsetOutside o t.length)) := by
  by_cases hin : (0 ≤ start ∧ start ≤ t.length) ∧ 0 ≤ stop ∧ stop ≤ t.length
  · obtain ⟨i, rfl⟩ := Int.eq_ofNat_of_zero_le hin.1.1
    obtain ⟨j, rfl⟩ := Int.eq_ofNat_of_zero_le hin.2.1
    rcases Nat.lt_or_ge j i with hij | hij
    · exact .inr (.inl ⟨by omega, spanAt_of_lt hij (by omega)⟩)
    · obtain ⟨s, hs, -⟩ := spanAt_of_le (t := t) hij (by omega)
      exact .inl ⟨by omega, s, hs⟩
  · exact .inr (.inr ⟨hin, spanAt_outside hin⟩)

theorem exists_spanAt_iff {start stop : Int} :
    (∃ s, t.spanAt start stop = .ok s) ↔ 0 ≤ start ∧ start ≤ stop ∧ stop ≤ t.length := by
  rcases spanAt_cases t start stop with ⟨h, s, hs⟩ | ⟨h, p, q, hs⟩ | ⟨h, o, hs⟩ <;>
    simp only [hs, reduceCtorEq, exists_false, Except.ok.injEq, exists_eq', true_iff,
      false_iff] <;>
    omega

theorem spanAt_reversed_iff {start stop : Int} :
    (∃ p q, t.spanAt start stop = .error (.reversed p q))
      ↔ 0 ≤ stop ∧ stop < start ∧ start ≤ t.length := by
  rcases spanAt_cases t start stop with ⟨h, s, hs⟩ | ⟨h, p, q, hs⟩ | ⟨h, o, hs⟩
  · simp only [hs, reduceCtorEq, exists_false, false_iff]
    omega
  · exact ⟨fun _ => h, fun _ => ⟨p, q, hs⟩⟩
  · simp only [hs, Except.error.injEq, reduceCtorEq, exists_false, false_iff]
    omega

/-! ## Round trips -/

/-- Offsets up to the length of a text and the positions on its lines stand for one another, and
nothing else has a place in the text. -/
theorem positionAt_offsetAt_inverse (t : Text) :
    (∀ o : Nat, o ≤ t.length → ∃ p, t.positionAt o = .ok p ∧ t.Inside p ∧ t.offsetAt p = .ok o)
      ∧ (∀ p, (∃ o, t.offsetAt p = .ok o) ↔ t.Inside p)
      ∧ (∀ p, ¬ t.Inside p → ∃ e, t.offsetAt p = .error e)
      ∧ ∀ p o, t.offsetAt p = .ok o → o ≤ t.length ∧ t.positionAt o = .ok p := by
  have hdomain : ∀ p, (∃ o, t.offsetAt p = .ok o) ↔ t.Inside p := by
    intro p
    simp only [offsetAt_eq_ok_iff, exists_located_iff]
  refine ⟨fun o ho => ?_, hdomain, fun p hp => ?_, fun p o h => ?_⟩
  · obtain ⟨p, hp⟩ := exists_located ho
    exact ⟨p, positionAt_of_located hp, exists_located_iff.1 ⟨o, hp⟩, offsetAt_of_located hp⟩
  · rcases h : t.offsetAt p with e | o
    · exact ⟨e, rfl⟩
    · exact absurd ((hdomain p).1 ⟨o, h⟩) hp
  · have hloc := located_of_offsetAt h
    exact ⟨hloc.le_length, positionAt_of_located hloc⟩

end Text

end SourceStyle
