import Mathlib.Data.List.DropRight
import SourceStyle.Proofs.LineReading
import SourceStyle.Proofs.Reports

/-!
# Blanks at the end of a line

The rule's pattern reads blanks up to the end of a line, so a match starts at or behind the end of the
trimmed line (`trimmed`) and ends with the line itself. Matches that overlap are on one line and end
alike, and the one that is reported starts right behind the trimmed line.
-/

namespace SourceStyle

namespace TrailingBlanks

open Text Pattern Rule

def isBlank (c : Char) : Bool := c = ' ' ∨ c = '\t'

/-- A line without the blanks at its end. -/
def trimmed (line : Text) : Text := line.rdropWhile isBlank

theorem length_trimmed_le (line : Text) : (trimmed line).length ≤ line.length :=
  (List.rdropWhile_prefix isBlank line).length_le

/-- The blanks at the end of line `i`. -/
def span (i : Nat) (line : Text) : Span :=
  ⟨⟨i, (trimmed line).length⟩, ⟨i, line.length⟩, .inr ⟨rfl, Int.ofNat_le.2 (length_trimmed_le line)⟩⟩

/-- The blanks at the end of every line whose last character is a space or a tab. -/
def spans (lines : List Text) : List Span :=
  (lines.zipIdx.filter fun x => x.1.getLast? = some ' ' ∨ x.1.getLast? = some '\t').map
    fun x => span x.2 x.1

/-! ## Trimmed lines -/

theorem forall_drop_isBlank_iff {l : Text} {c : Nat} :
    (∀ x ∈ l.drop c, isBlank x) ↔ (trimmed l).length ≤ c := by
  unfold trimmed
  induction l using List.reverseRecOn with
  | nil => simp
  | append_singleton l x ih =>
    by_cases hx : isBlank x
    · rw [List.rdropWhile_concat_pos _ _ _ hx, ← ih, List.drop_append]
      simp only [List.mem_append, or_imp, forall_and, and_iff_left_iff_imp]
      intro _ y hy
      rw [List.mem_singleton.1 (List.mem_of_mem_drop hy)]
      exact hx
    · rw [List.rdropWhile_concat_neg _ _ _ hx, List.length_append, List.length_singleton]
      constructor
      · intro h
        by_contra hc
        refine hx (h x ?_)
        rw [List.drop_append_of_le_length (by omega)]
        simp
      · intro h
        simp [List.drop_eq_nil_of_le, h]

theorem length_trimmed_lt_iff {l : Text} : (trimmed l).length < l.length
    ↔ l.getLast? = some ' ' ∨ l.getLast? = some '\t' := by
  unfold trimmed
  induction l using List.reverseRecOn with
  | nil => simp
  | append_singleton l x _ =>
    have hle := length_trimmed_le l
    by_cases hx : isBlank x
    · rw [List.rdropWhile_concat_pos _ _ _ hx, List.getLast?_concat]
      simp only [trimmed, isBlank, decide_eq_true_eq] at hle hx
      simp only [List.length_append, List.length_singleton, Option.some.injEq, hx, iff_true]
      exact Nat.lt_succ_of_le hle
    · rw [List.rdropWhile_concat_neg _ _ _ hx, List.getLast?_concat]
      simp only [isBlank, decide_eq_true_eq] at hx
      simp [hx]

/-! ## Matches -/

variable {t : Text} {s e : Nat}

theorem spells_blanks : (plus (either (char '\t') (char ' '))).Spells
    (words fun w => w ≠ [] ∧ ∀ x ∈ w, isBlank x) := by
  have hletters : (either (char '\t') (char ' ')).Spells
      (CharClass.letters ⟨['\t', ' '].map fun c => .range c c, false, false⟩) := by
    refine ((spells_char '\t').either (spells_char ' ')).congr fun w => ?_
    simp only [CharClass.letters, mem_words, CharClass.accepts_iff]
    simp [Language.mem_add, mem_singleton]
  refine (hletters.many_letters 1 none).congr fun w => ?_
  simp only [mem_words, CharClass.accepts_iff, isBlank]
  simp [Nat.succ_le_iff, List.length_pos_iff, or_comm]

theorem matches_trailingWhitespace_iff : trailingWhitespace.pattern.Matches t s e
    ↔ ∃ i c l, t.lines[i]? = some l ∧ t.At s i c ∧ t.At e i l.length
      ∧ (trimmed l).length ≤ c ∧ c < l.length := by
  have hfree : ∀ w ∈ words fun w => w ≠ [] ∧ ∀ x ∈ w, isBlank x, '\n' ∉ w := by
    intro w hw hm
    exact absurd (hw.2 _ hm) (by decide)
  have hwords : ∀ (l : Text) (c : Nat), (l.drop c ∈ words fun w => w ≠ [] ∧ ∀ x ∈ w, isBlank x)
      ↔ (trimmed l).length ≤ c ∧ c < l.length := by
    intro l c
    rw [mem_words, forall_drop_isBlank_iff, ne_eq, List.drop_eq_nil_iff, Nat.not_le, and_comm]
  constructor
  · intro h
    have hs : s ≤ t.length := by
      obtain ⟨m, hm, rfl, hlast⟩ := h
      have hle := hm.le
      rcases hlast with rfl | hx
      · exact hle
      · exact Nat.le_trans hle (Nat.le_of_lt (List.getElem?_eq_some_iff.1 hx).1)
    obtain ⟨i, c, hat⟩ := exists_at hs
    obtain ⟨l, hl, hw, he⟩ := (spells_blanks.seq_lineEnd_iff hfree hat).1 h
    exact ⟨i, c, l, hl, hat, he, (hwords l c).1 hw⟩
  · rintro ⟨i, c, l, hl, hs, he, hc⟩
    exact (spells_blanks.seq_lineEnd_iff hfree hs).2 ⟨l, hl, (hwords l c).2 hc, he⟩

theorem endsAlike_trailingWhitespace (t : Text) : trailingWhitespace.pattern.EndsAlike t := by
  intro a b d e had hbe hab hbd
  obtain ⟨i, c, l, hl, ha, hd, hc⟩ := matches_trailingWhitespace_iff.1 had
  obtain ⟨i', c', l', hl', hb, he, hc'⟩ := matches_trailingWhitespace_iff.1 hbe
  have h1 := hb.lt_iff ha
  have h2 := (hb.lt_iff hd).1 hbd
  obtain rfl : i = i' := by omega
  obtain rfl : l = l' := Option.some.inj (hl.symm.trans hl')
  exact hd.offset_unique he

/-- The reported match starts right behind the trimmed line. -/
theorem mem_findAll_trailingWhitespace_iff : (s, e) ∈ trailingWhitespace.pattern.findAll t
    ↔ ∃ i l, t.lines[i]? = some l ∧ t.At s i (trimmed l).length ∧ t.At e i l.length
      ∧ (trimmed l).length < l.length := by
  rw [mem_findAll_iff (by decide) (endsAlike_trailingWhitespace t)]
  simp only [matches_trailingWhitespace_iff]
  constructor
  · rintro ⟨-, ⟨i, c, l, hl, hs, he, hle, hlt⟩, hfirst⟩
    obtain ⟨a, ha⟩ := exists_at_iff.2 ⟨l, hl, length_trimmed_le l⟩
    have hnot : ¬ a < s := fun hlt' =>
      hfirst a hlt' ⟨i, _, l, hl, ha, he, Nat.le_refl _, by omega⟩
    rw [ha.lt_iff hs] at hnot
    obtain rfl : c = (trimmed l).length := by omega
    exact ⟨i, l, hl, hs, he, hlt⟩
  · rintro ⟨i, l, hl, hs, he, hlt⟩
    refine ⟨hs.le_length, ⟨i, _, l, hl, hs, he, Nat.le_refl _, hlt⟩, ?_⟩
    rintro a ha ⟨i', c, l', hl', ha', he', hle, -⟩
    obtain ⟨rfl, -⟩ := he.position_unique he'
    obtain rfl : l = l' := Option.some.inj (hl.symm.trans hl')
    have := (ha'.lt_iff hs).1 ha
    omega

theorem mem_spans_iff {σ : Span} : σ ∈ spans t.lines
    ↔ ∃ m ∈ trailingWhitespace.pattern.findAll t, t.Located m.1 σ.start ∧ t.Located m.2 σ.stop := by
  simp only [spans, List.mem_map, List.mem_filter, List.mem_zipIdx_iff_getElem?, decide_eq_true_eq,
    ← length_trimmed_lt_iff]
  constructor
  · rintro ⟨⟨l, i⟩, ⟨hl, hlt⟩, rfl⟩
    obtain ⟨a, ha⟩ := exists_at_iff.2 ⟨l, hl, length_trimmed_le l⟩
    obtain ⟨b, hb⟩ := exists_at_iff.2 ⟨l, hl, Nat.le_refl _⟩
    exact ⟨(a, b), mem_findAll_trailingWhitespace_iff.2 ⟨i, l, hl, ha, hb, hlt⟩, ha, hb⟩
  · rintro ⟨⟨a, b⟩, hm, hstart, hstop⟩
    obtain ⟨i, l, hl, ha, hb, hlt⟩ := mem_findAll_trailingWhitespace_iff.1 hm
    exact ⟨(l, i), ⟨hl, hlt⟩, Span.eq_of_ends (ha.unique hstart) (hb.unique hstop)⟩

theorem pairwise_spans (lines : List Text) :
    (spans lines).Pairwise fun σ τ => σ.start.Before τ.start := by
  rw [spans, List.pairwise_map]
  refine ((pairwise_zipIdx lines 0).filter _).imp fun hlt => ?_
  exact .inl (Int.ofNat_lt.2 hlt)

end TrailingBlanks

namespace Rule

/-- The rule reports the lines that end in a blank and no others, each once and in order, from the end
of the trimmed line to the end of the line. -/
theorem check_trailingWhitespace_exact (t : Text) : trailingWhitespace.check t
    = .ok ((TrailingBlanks.spans t.lines).map trailingWhitespace.violation) :=
  check_eq_ok_of_spans (by decide) (fun _ => TrailingBlanks.mem_spans_iff)
    (TrailingBlanks.pairwise_spans t.lines)

/-- Blanks inside a line do not count, and the last line is like the others. -/
example : TrailingBlanks.spans [[' ', 'a', ' ', '\t'], ['b'], [' ']]
    = [TrailingBlanks.span 0 [' ', 'a', ' ', '\t'], TrailingBlanks.span 2 [' ']] := by decide

end Rule

end SourceStyle
