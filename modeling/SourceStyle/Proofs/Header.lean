import SourceStyle.Header
import SourceStyle.Proofs.LineReading

/-!
# Headers line by line

Every part of the header pattern reads a line, so whether a text starts with a header is decided by
its lines alone. `Header.WellFormed` says what these lines are: four of a fixed form, at least one
line of description, and the line that closes the comment, which is not the last line of the text.
-/

namespace SourceStyle

namespace Header

open Pattern Text

/-- The lines of a text that starts with a header. -/
structure WellFormed (lines : List Text) : Prop where
  opening : lines[0]? = some "/*".toList
  project : ∃ year : Text, lines[1]? = some ("** EPITECH PROJECT, ".toList ++ year)
    ∧ year.length = 4 ∧ ∀ x ∈ year, x.isDigit
  name : ∃ l, lines[2]? = some l ∧ "** ".toList <+: l
  caption : lines[3]? = some "** File description:".toList
  /-- The description ends at line `k`, and there is a line behind it. -/
  closing : ∃ k, 5 ≤ k ∧ k + 1 < lines.length
    ∧ (∀ i, 4 ≤ i → i < k → ∃ l, lines[i]? = some l ∧ "** ".toList <+: l)
    ∧ lines[k]? = some "*/".toList

/-! ## The parts of the pattern -/

theorem readsLine_starred :
    starred.ReadsLine (words fun w => "** ".toList <+: w ∧ '\n' ∉ w) := by
  have hspells := (spells_literal "** ").seq (spells_star_dot.seq (spells_char '\n'))
  rw [← mul_assoc] at hspells
  have hwords : ({"** ".toList} * words fun w => '\n' ∉ w : Language Char)
      = words fun w => "** ".toList <+: w ∧ '\n' ∉ w := by
    ext w
    rw [Language.mem_mul]
    constructor
    · rintro ⟨_, rfl, v, hv, rfl⟩
      exact ⟨List.prefix_append _ _, by simpa using hv⟩
    · rintro ⟨⟨v, rfl⟩, hw⟩
      exact ⟨_, rfl, v, by simpa using hw, rfl⟩
  rw [hwords] at hspells
  exact hspells.readsLine fun w hw => hw.2

theorem readsLine_literal {s : String} {w : Text} (hs : s.toList = w ++ ['\n']) (hw : '\n' ∉ w) :
    (literal s).ReadsLine {w} := by
  refine Spells.readsLine ?_ ?_
  · rw [singleton_mul_singleton, ← hs]
    exact spells_literal s
  · rintro _ rfl
    exact hw

theorem readsLine_opening : (literal "/*\n").ReadsLine {"/*".toList} :=
  readsLine_literal rfl (by decide)

theorem readsLine_caption :
    (literal "** File description:\n").ReadsLine {"** File description:".toList} :=
  readsLine_literal rfl (by decide)

theorem readsLine_closing : (literal "*/\n").ReadsLine {"*/".toList} :=
  readsLine_literal rfl (by decide)

/-- Four digits. -/
def year : Pattern := many (one { items := [.range '0' '9'] }) 4 (some 4)

theorem spells_year : year.Spells (words fun w => w.length = 4 ∧ ∀ x ∈ w, x.isDigit) := by
  refine (spells_many_one _ 4 (some 4)).congr fun w => ?_
  have hdigit : ∀ x : Char, CharClass.accepts { items := [.range '0' '9'] } x ↔ x.isDigit := by
    intro x
    simp [CharClass.accepts, CharItem.holds, Char.isDigit, UInt32.le_iff_toNat_le]
  simp only [mem_words, hdigit, Option.some.injEq, forall_eq']
  rw [← and_assoc, Nat.max_self, ← Nat.le_antisymm_iff, eq_comm]

/-- The line that names the project. -/
def projectLine : Pattern := seq (literal "** EPITECH PROJECT, ") (seq year (char '\n'))

theorem readsLine_projectLine : projectLine.ReadsLine ({"** EPITECH PROJECT, ".toList}
    * words fun w => w.length = 4 ∧ ∀ x ∈ w, x.isDigit) := by
  have hspells := (spells_literal "** EPITECH PROJECT, ").seq (spells_year.seq (spells_char '\n'))
  rw [← mul_assoc] at hspells
  refine hspells.readsLine ?_
  rintro _ ⟨_, rfl, w, ⟨-, hdigits⟩, rfl⟩ hmem
  rcases List.mem_append.1 hmem with h | h
  · exact absurd h (by decide)
  · exact absurd (hdigits _ h) (by decide)

/-- The pattern with its first literal cut behind the first line. -/
theorem matches_pattern_iff {t : Text} {i j : Nat} (hi : i ≤ t.length) :
    pattern.Matches t i j ↔ (sequence [literal "/*\n", projectLine, starred,
      literal "** File description:\n", plus starred, literal "*/\n", star dot]).Matches t i j := by
  have hcut : (literal "/*\n** EPITECH PROJECT, ").Spells
      ({"/*\n".toList} * {"** EPITECH PROJECT, ".toList}) := by
    rw [singleton_mul_singleton]
    exact spells_literal _
  have hpair := (spells_literal "/*\n").seq (spells_literal "** EPITECH PROJECT, ")
  change (∃ a, _ ∧ ∃ b, year.Matches t a b ∧ ∃ c, (char '\n').Matches t b c ∧ _)
    ↔ ∃ a, _ ∧ ∃ c, (∃ b, _ ∧ ∃ d, year.Matches t b d ∧ (char '\n').Matches t d c) ∧ _
  simp only [hcut.matches_iff hpair hi]
  constructor
  · rintro ⟨a, ⟨m, hm, hma⟩, b, hab, c, hbc, hrest⟩
    exact ⟨m, hm, c, ⟨a, hma, b, hab, hbc⟩, hrest⟩
  · rintro ⟨m, hm, c, ⟨a, hma, b, hab, hbc⟩, hrest⟩
    exact ⟨a, ⟨m, hm, hma⟩, b, hab, c, hbc, hrest⟩

/-! ## What the pattern asks of the lines -/

theorem wellFormed_of_matches {t : Text} {e : Nat} (h : pattern.Matches t 0 e) :
    WellFormed t.lines := by
  rw [matches_pattern_iff (Nat.zero_le _)] at h
  obtain ⟨⟨_, h0, rfl⟩, a, ha, h⟩ := (readsLine_opening.seq_iff (at_zero t)).1 h
  obtain ⟨⟨_, h1, _, rfl, year, hyear, rfl⟩, b, hb, h⟩ := (readsLine_projectLine.seq_iff ha).1 h
  obtain ⟨⟨name, h2, hname, -⟩, c, hc, h⟩ := (readsLine_starred.seq_iff hb).1 h
  obtain ⟨⟨_, h3, rfl⟩, d, hd, h⟩ := (readsLine_caption.seq_iff hc).1 h
  obtain ⟨m, ⟨n, hn, -, hsteps⟩, h⟩ := h
  obtain ⟨hall, hm⟩ := (readsLine_starred.steps hd).1 hsteps
  obtain ⟨⟨_, hk, rfl⟩, f, hf, -⟩ := (readsLine_closing.seq_iff hm).1 h
  refine ⟨h0, ⟨year, h1, hyear⟩, ⟨name, h2, hname⟩, h3, 4 + n, by omega, hf.lt_length_lines,
    fun i hi hi' => ?_, hk⟩
  obtain ⟨l, hl, hstar, -⟩ := hall i hi hi'
  exact ⟨l, hl, hstar⟩

theorem exists_matches_of_wellFormed {t : Text} (h : WellFormed t.lines) :
    ∃ e, pattern.Matches t 0 e := by
  obtain ⟨h0, ⟨year, h1, hyear⟩, ⟨name, h2, hname⟩, h3, k, hk, hlen, hall, hclose⟩ := h
  have hstart : ∀ i, i ≤ k + 1 → ∃ o, t.At o i 0 := fun i hi => exists_at_lineStart (by omega)
  obtain ⟨a, ha⟩ := hstart 1 (by omega)
  obtain ⟨b, hb⟩ := hstart 2 (by omega)
  obtain ⟨c, hc⟩ := hstart 3 (by omega)
  obtain ⟨d, hd⟩ := hstart 4 (by omega)
  obtain ⟨m, hm⟩ := hstart k (by omega)
  obtain ⟨f, hf⟩ := hstart (k + 1) (by omega)
  obtain ⟨n, rfl⟩ := Nat.exists_eq_add_of_le (show 4 ≤ k by omega)
  have hlines : (plus starred).Matches t d m := by
    refine ⟨n, by omega, by simp, (readsLine_starred.steps hd).2 ⟨fun i hi hi' => ?_, hm⟩⟩
    obtain ⟨l, hl, hstar⟩ := hall i hi hi'
    exact ⟨l, hl, hstar, not_mem_of_getElem?_lines hl⟩
  refine ⟨f, (matches_pattern_iff (Nat.zero_le _)).2 ?_⟩
  refine (readsLine_opening.seq_iff (at_zero t)).2 ⟨⟨_, h0, rfl⟩, a, ha, ?_⟩
  refine (readsLine_projectLine.seq_iff ha).2 ⟨⟨_, h1, _, rfl, year, hyear, rfl⟩, b, hb, ?_⟩
  refine (readsLine_starred.seq_iff hb).2
    ⟨⟨name, h2, hname, not_mem_of_getElem?_lines h2⟩, c, hc, ?_⟩
  refine (readsLine_caption.seq_iff hc).2 ⟨⟨_, h3, rfl⟩, d, hd, m, hlines, ?_⟩
  refine (readsLine_closing.seq_iff hm).2 ⟨⟨_, hclose, rfl⟩, f, hf, ?_⟩
  exact ⟨0, by omega, by simp, rfl⟩

/-- A text passes the check if and only if its first lines are those of a header. Any other text is
reported once, at the six lines that a header takes. -/
theorem check_eq_nil_iff_wellFormed (t : Text) :
    (check t = [] ↔ WellFormed t.lines)
      ∧ ((∃ v, check t = [v] ∧ v.span.start = ⟨0, 0⟩ ∧ v.span.stop = ⟨5, 9223372036854775807⟩)
        ↔ ¬ WellFormed t.lines) := by
  have hmatch : pattern.matchesStart t = true ↔ WellFormed t.lines := by
    rw [matchesStart_iff]
    exact ⟨fun ⟨e, h⟩ => wellFormed_of_matches h, exists_matches_of_wellFormed⟩
  unfold check
  by_cases h : pattern.matchesStart t = true
  · simp [h, hmatch.1 h]
  · simp [h, mt hmatch.2 h, span, endOfLine]

end Header

end SourceStyle
