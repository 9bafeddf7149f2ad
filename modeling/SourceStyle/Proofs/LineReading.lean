import SourceStyle.Proofs.Position
import SourceStyle.Proofs.Spelling

/-!
# Patterns that read lines

Some patterns match from a place on a line up to the start of the next line. What such a pattern asks
of the text is then a condition on the rest of the line, and where its match ends is known from the
number of the line (`Pattern.ReadsLine`). Several of them in a row, or one of them repeated, read
lines one after another (`ReadsLine.seq_iff`, `ReadsLine.steps`).
-/

namespace SourceStyle

namespace Text

/-! ## Lines and columns as numbers -/

/-- The offset `o` is that of column `c` of line `k`. -/
def At (t : Text) (o k c : Nat) : Prop := t.Located o ⟨k, c⟩

variable {t l : Text} {o k c : Nat}

theorem at_iff : t.At o k c ↔ ∃ w part rest, t = w ++ (part ++ rest) ∧ Closed w ∧ '\n' ∉ part
    ∧ w.length + part.length = o ∧ w.count '\n' = k ∧ part.length = c := by
  constructor
  · intro h
    unfold At at h
    generalize hp : (⟨k, c⟩ : Position) = p at h
    obtain ⟨ht, hw, hpart⟩ := h
    rw [Position.mk.injEq, Int.natCast_inj, Int.natCast_inj] at hp
    exact ⟨_, _, _, ht, hw, hpart, rfl, hp.1.symm, hp.2.symm⟩
  · rintro ⟨w, part, rest, ht, hw, hpart, rfl, rfl, rfl⟩
    exact .intro ht hw hpart

theorem at_zero (t : Text) : t.At 0 0 0 :=
  at_iff.2 ⟨[], [], t, rfl, closed_nil, by simp, rfl, rfl, rfl⟩

theorem exists_at (h : o ≤ t.length) : ∃ k c, t.At o k c := by
  obtain ⟨p, ⟨⟩⟩ := exists_located h
  rename_i w part rest ht hw hp
  exact ⟨_, _, .intro ht hw hp⟩

theorem exists_at_iff : (∃ o, t.At o k c) ↔ ∃ l, t.lines[k]? = some l ∧ c ≤ l.length := by
  unfold At
  rw [exists_located_iff]
  simp [Inside]

theorem At.lt_length_lines (h : t.At o k c) : k < t.lines.length := by
  obtain ⟨l, hl, -⟩ := exists_at_iff.1 ⟨o, h⟩
  exact (List.getElem?_eq_some_iff.1 hl).1

theorem exists_at_lineStart (h : k < t.lines.length) : ∃ o, t.At o k 0 :=
  exists_at_iff.2 ⟨_, List.getElem?_eq_getElem h, Nat.zero_le _⟩

theorem At.le_length (h : t.At o k c) : o ≤ t.length := Located.le_length h

theorem At.lt_iff {o' k' c' : Nat} (h : t.At o k c) (h' : t.At o' k' c') :
    o < o' ↔ k < k' ∨ k = k' ∧ c < c' := by
  have hle := Located.le_iff h' h
  change ((k' : Int) < k ∨ (k' : Int) = k ∧ (c' : Int) ≤ c) ↔ o' ≤ o at hle
  omega

theorem At.position_unique {k' c' : Nat} (h : t.At o k c) (h' : t.At o k' c') :
    k = k' ∧ c = c' := by
  have h1 := h.lt_iff h'
  have h2 := h'.lt_iff h
  omega

theorem At.offset_unique {o' : Nat} (h : t.At o k c) (h' : t.At o' k c) : o = o' := by
  have h1 := h.lt_iff h'
  have h2 := h'.lt_iff h
  omega

theorem not_mem_of_getElem?_lines (h : t.lines[k]? = some l) : '\n' ∉ l := by
  obtain ⟨-, -, -, -, -, hfree, -⟩ := exists_of_getElem?_lines h
  exact hfree

/-- What stands behind a place: the rest of its line, and then the end of the text or the newline
before the next line. -/
theorem At.drop_eq (h : t.At o k c) : ∃ l rest, t.lines[k]? = some l ∧ c ≤ l.length
    ∧ t.drop o = l.drop c ++ rest ∧ (rest = [] ∧ t.lines.length = k + 1
      ∨ (∃ b, rest = '\n' :: b) ∧ t.At (o + (l.length - c) + 1) (k + 1) 0) := by
  obtain ⟨l, hl, hc⟩ := exists_at_iff.1 ⟨o, h⟩
  obtain ⟨w, rest, ht, hw, hk, hfree, hrest⟩ := exists_of_getElem?_lines hl
  have hat : t.At (w.length + c) k c := by
    rw [← hk]
    exact .of_line ht hw hfree hc
  obtain rfl := h.offset_unique hat
  refine ⟨l, rest, hl, hc, ?_, ?_⟩
  · rw [ht, List.drop_append, List.drop_append]
    simp [List.drop_eq_nil_of_le, Nat.sub_eq_zero_of_le hc]
  · rcases rest with _ | ⟨x, b⟩
    · refine .inl ⟨rfl, ?_⟩
      rw [length_lines, ht]
      simp [hk, List.count_eq_zero_of_not_mem hfree]
    · obtain rfl : x = '\n' := by simpa [firstLine, List.takeWhile_cons] using hrest
      have hclosed : Closed ((w ++ l) ++ ['\n']) :=
        (closed_append_newline_iff (w ++ l) []).2 closed_nil
      refine .inr ⟨⟨b, rfl⟩, at_iff.2 ⟨_, [], b, by simp [ht], hclosed, by simp, ?_, ?_, rfl⟩⟩
      · simp only [List.length_append, List.length_singleton, List.length_nil]
        omega
      · simp [hk, List.count_eq_zero_of_not_mem hfree]

/-- A character of a line, found from its offset. -/
theorem At.getElem?_eq_some_iff (h : t.At o k c) {x : Char} (hx : x ≠ '\n') :
    t[o]? = some x ↔ charAt? t.lines k c = some x := by
  obtain ⟨l, rest, hl, hc, hdrop, hrest⟩ := h.drop_eq
  have hhead : t[o]? = (l.drop c ++ rest).head? := by rw [← hdrop, List.head?_drop]
  rw [charAt?_of_getElem? hl, hhead, List.head?_append, List.head?_drop]
  rcases l[c]? with _ | y
  · rcases hrest with ⟨rfl, -⟩ | ⟨⟨b, rfl⟩, -⟩
    · simp
    · simp [Ne.symm hx]
  · simp

theorem exists_at_of_charAt? {x : Char} (h : charAt? t.lines k c = some x) : ∃ o, t.At o k c := by
  obtain ⟨l, hl, hc⟩ := Option.bind_eq_some_iff.1 h
  obtain ⟨hlt, -⟩ := List.getElem?_eq_some_iff.1 hc
  exact exists_at_iff.2 ⟨l, hl, Nat.le_of_lt hlt⟩

/-- Offsets on a line lie as far apart as their columns. -/
theorem At.add (h : t.At o k c) (hl : t.lines[k]? = some l) {n : Nat} (hn : c + n ≤ l.length) :
    t.At (o + n) k (c + n) := by
  obtain ⟨w, rest, ht, hw, rfl, hfree, -⟩ := exists_of_getElem?_lines hl
  have hat : t.At (w.length + c) (w.count '\n') c := .of_line ht hw hfree (by omega)
  obtain rfl := h.offset_unique hat
  rw [Nat.add_assoc]
  exact .of_line ht hw hfree hn

/-- Behind a character of a line stands the next column. -/
theorem At.succ (h : t.At o k c) {x : Char} (hx : charAt? t.lines k c = some x) :
    t.At (o + 1) k (c + 1) := by
  obtain ⟨l, hl, hc⟩ := Option.bind_eq_some_iff.1 hx
  obtain ⟨hlt, -⟩ := List.getElem?_eq_some_iff.1 hc
  exact h.add hl hlt

end Text

namespace Pattern

open Text

variable {t : Text} {o m k c : Nat} {p q : Pattern} {L : Language Char}

/-- From every place of a text, the pattern matches up to the start of the next line, provided that
the rest of the line is a word of `L`. -/
def ReadsLine (p : Pattern) (L : Language Char) : Prop :=
  ∀ (t : Text) (o m k c : Nat), t.At o k c →
    (p.Matches t o m ↔ (∃ l, t.lines[k]? = some l ∧ l.drop c ∈ L) ∧ t.At m (k + 1) 0)

/-- A pattern that spells words without a newline and a newline behind them reads a line. -/
theorem Spells.readsLine (hp : p.Spells (L * {['\n']})) (hL : ∀ w ∈ L, '\n' ∉ w) :
    p.ReadsLine L := by
  intro t o m k c h
  obtain ⟨l, rest, hl, hc, hdrop, hrest⟩ := h.drop_eq
  have hfree : '\n' ∉ l.drop c := fun hm => not_mem_of_getElem?_lines hl (List.mem_of_mem_drop hm)
  rw [hp t o m h.le_length, Language.mem_mul]
  constructor
  · rintro ⟨hom, hm, w, hw, _, rfl, hslice⟩
    have hsplit : l.drop c ++ rest = w ++ '\n' :: t.drop m := by
      rw [← hdrop, ← slice_append_drop hom, ← hslice]
      simp
    have hlen := length_slice (i := o) hm
    rw [← hslice, List.length_append, List.length_singleton] at hlen
    rcases hrest with ⟨rfl, -⟩ | ⟨⟨b, rfl⟩, hnext⟩
    · rw [List.append_nil] at hsplit
      exact absurd (by simp [hsplit]) hfree
    · have hline := congrArg firstLine hsplit
      rw [firstLine_append_newline _ hfree, firstLine_append_newline _ (hL w hw)] at hline
      have hw' := congrArg List.length hline
      rw [List.length_drop] at hw'
      have hm' : o + (l.length - c) + 1 = m := by omega
      rw [hm'] at hnext
      exact ⟨⟨l, hl, hline ▸ hw⟩, hnext⟩
  · rintro ⟨⟨l', hl', hw⟩, hm⟩
    obtain rfl : l = l' := Option.some.inj (hl.symm.trans hl')
    rcases hrest with ⟨-, hlast⟩ | ⟨⟨b, rfl⟩, hnext⟩
    · have := hm.lt_length_lines
      omega
    · obtain rfl := hm.offset_unique hnext
      refine ⟨by omega, hm.le_length, _, hw, _, rfl, ?_⟩
      have hlen : (l.drop c ++ ['\n']).length = o + (l.length - c) + 1 - o := by
        rw [List.length_append, List.length_drop, List.length_singleton]
        omega
      rw [List.append_cons] at hdrop
      rw [slice, List.drop_take, hdrop, List.take_left' hlen]

/-- A pattern that spells words without a newline and is anchored behind them reads the rest of a
line. -/
theorem Spells.seq_lineEnd_iff (hp : p.Spells L) (hL : ∀ w ∈ L, '\n' ∉ w) (h : t.At o k c) :
    (Pattern.seq p lineEnd).Matches t o m
      ↔ ∃ l, t.lines[k]? = some l ∧ l.drop c ∈ L ∧ t.At m k l.length := by
  obtain ⟨l, rest, hl, hc, hdrop, hrest⟩ := h.drop_eq
  have hfree : '\n' ∉ l.drop c := fun hm => not_mem_of_getElem?_lines hl (List.mem_of_mem_drop hm)
  have hnext := h.add hl (n := l.length - c) (by omega)
  rw [Nat.add_sub_cancel' hc] at hnext
  change (∃ n, p.Matches t o n ∧ n = m ∧ (n = t.length ∨ t[n]? = some '\n')) ↔ _
  constructor
  · rintro ⟨m, hpm, rfl, hlast⟩
    obtain ⟨hom, hm, hw⟩ := (hp t o m h.le_length).1 hpm
    have hsplit := slice_append_drop (t := t) hom
    rw [hdrop] at hsplit
    -- Both parts of the text behind `o` are a line and what starts with a newline, if anything.
    have hline := congrArg firstLine hsplit
    rw [firstLine_append _ (hL _ hw), firstLine_append _ hfree] at hline
    have hafter : firstLine (t.drop m) = [] := by
      rcases hlast with rfl | hx
      · rw [List.drop_length]
        rfl
      · rw [drop_of_getElem? hx]
        rfl
    have hrest' : firstLine rest = [] := by
      rcases hrest with ⟨rfl, -⟩ | ⟨⟨b, rfl⟩, -⟩ <;> rfl
    rw [hafter, hrest', List.append_nil, List.append_nil] at hline
    have hlen := length_slice (i := o) hm
    rw [hline, List.length_drop] at hlen
    obtain rfl : o + (l.length - c) = m := by omega
    exact ⟨l, hl, hline ▸ hw, hnext⟩
  · rintro ⟨l', hl', hw, hm⟩
    obtain rfl : l = l' := Option.some.inj (hl.symm.trans hl')
    obtain rfl := hm.offset_unique hnext
    have hdrop' : t.drop (o + (l.length - c)) = rest := by
      rw [← List.drop_drop, hdrop, List.drop_left' List.length_drop]
    refine ⟨_, (hp t o _ h.le_length).2 ⟨by omega, hm.le_length, ?_⟩, rfl, ?_⟩
    · rwa [slice, List.drop_take, Nat.add_sub_cancel_left, hdrop, List.take_left' List.length_drop]
    · rcases hrest with ⟨rfl, -⟩ | ⟨⟨b, rfl⟩, -⟩
      · have hlen := List.drop_eq_nil_iff.1 hdrop'
        exact .inl (Nat.le_antisymm hm.le_length hlen)
      · rw [← List.head?_drop, hdrop']
        exact .inr rfl

/-- The rest of a line and its newline. -/
theorem readsLine_rest : (seq (star dot) (char '\n')).ReadsLine (words fun w => '\n' ∉ w) :=
  (spells_star_dot.seq (spells_char '\n')).readsLine fun _ hw => hw

theorem matches_rest_iff (h : t.At o k c) :
    (seq (star dot) (char '\n')).Matches t o m ↔ t.At m (k + 1) 0 := by
  rw [readsLine_rest t o m k c h, and_iff_right_iff_imp]
  intro _
  obtain ⟨l, hl, -⟩ := exists_at_iff.1 ⟨o, h⟩
  exact ⟨l, hl, fun hm => not_mem_of_getElem?_lines hl (List.mem_of_mem_drop hm)⟩

/-- Asking that a line does not go on with a character. -/
theorem ReadsLine.notAhead (hp : p.ReadsLine L) {x : Char} (hx : x ≠ '\n') :
    (seq (notAhead (char x)) p).ReadsLine (words fun w => w ∈ L ∧ w.head? ≠ some x) := by
  intro t o m k c h
  have hhead : (∃ j, (char x).Matches t o j) ↔ charAt? t.lines k c = some x := by
    simp only [← h.getElem?_eq_some_iff hx, matches_char_iff, exists_and_left, exists_eq, and_true]
  change (∃ n, (o = n ∧ ¬ ∃ j, (char x).Matches t o j) ∧ p.Matches t n m) ↔ _
  constructor
  · rintro ⟨_, ⟨rfl, hno⟩, hpm⟩
    obtain ⟨⟨l, hl, hw⟩, hm⟩ := (hp t o m k c h).1 hpm
    rw [hhead, charAt?_of_getElem? hl, ← List.head?_drop] at hno
    exact ⟨⟨l, hl, hw, hno⟩, hm⟩
  · rintro ⟨⟨l, hl, hw, hne⟩, hm⟩
    rw [List.head?_drop, ← charAt?_of_getElem? hl] at hne
    exact ⟨o, ⟨rfl, mt hhead.1 hne⟩, (hp t o m k c h).2 ⟨⟨l, hl, hw⟩, hm⟩⟩

/-- What follows a pattern that reads a line is matched from the start of the next line. -/
theorem ReadsLine.seq_iff (hp : p.ReadsLine L) (h : t.At o k 0) :
    (seq p q).Matches t o m ↔ (∃ l, t.lines[k]? = some l ∧ l ∈ L)
      ∧ ∃ n, t.At n (k + 1) 0 ∧ q.Matches t n m := by
  change (∃ n, p.Matches t o n ∧ q.Matches t n m) ↔ _
  simp only [hp t o _ k 0 h, List.drop_zero]
  constructor
  · rintro ⟨n, ⟨hl, hn⟩, hq⟩
    exact ⟨hl, n, hn, hq⟩
  · rintro ⟨hl, n, hn, hq⟩
    exact ⟨n, ⟨hl, hn⟩, hq⟩

/-- Repeated `n` times, it reads `n` lines. -/
theorem ReadsLine.steps (hp : p.ReadsLine L) : ∀ {n o k : Nat}, t.At o k 0 →
    (Steps (p.Matches t) n o m
      ↔ (∀ i, k ≤ i → i < k + n → ∃ l, t.lines[i]? = some l ∧ l ∈ L) ∧ t.At m (k + n) 0)
  | 0, o, k, h => by
    constructor
    · rintro rfl
      exact ⟨fun i hi hi' => by omega, h⟩
    · rintro ⟨-, h'⟩
      exact h.offset_unique h'
  | n + 1, o, k, h => by
    constructor
    · rintro ⟨m', h1, h2⟩
      obtain ⟨hl, hm'⟩ := (hp t o m' k 0 h).1 h1
      obtain ⟨hall, hm⟩ := (hp.steps hm').1 h2
      rw [Nat.add_right_comm] at hm
      refine ⟨fun i hi hi' => ?_, hm⟩
      rcases Nat.eq_or_lt_of_le hi with rfl | hlt
      · exact hl
      · exact hall i hlt (by omega)
    · rintro ⟨hall, hm⟩
      have hlt := hm.lt_length_lines
      obtain ⟨m', hm'⟩ := exists_at_lineStart (t := t) (k := k + 1) (by omega)
      refine ⟨m', (hp t o m' k 0 h).2 ⟨hall k (Nat.le_refl k) (by omega), hm'⟩,
        (hp.steps hm').2 ⟨fun i hi hi' => hall i (by omega) (by omega), ?_⟩⟩
      rwa [Nat.add_right_comm]

end Pattern

end SourceStyle
