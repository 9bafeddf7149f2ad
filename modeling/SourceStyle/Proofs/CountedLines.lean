import SourceStyle.Proofs.Additions
import SourceStyle.Proofs.FileText

/-!
# Counted lines

The lines of a text end at newlines, and an empty one follows the last newline. Lines are counted with
more breaks, a carriage return and line feed being one, and without an empty line at the end. Still every
newline is a break or the end of one, so a character stands behind fewer newlines than there are counted
lines (`count_take_lt`).

Every violation of the standard checks starts at a character of the text (`scan_starts_at_character`), so
on a line below the counted lines. A file with violations therefore has lines, and its score in the
ranking takes their density into account (`add_scanned_line_lt`).
-/

namespace SourceStyle

namespace LineBreak

theorem countFrom_pos (t : Text) : 0 < countFrom true t := by
  generalize hp : true = pending
  fun_induction countFrom pending t with
  | case1 => simp
  | case2 pending h => exact absurd hp.symm h
  | case3 => omega
  | case4 => omega
  | case5 _ _ _ _ _ ih => exact ih rfl

/-- A break is counted when it is met, and a character that is none makes its line count. -/
theorem count_take_lt_countFrom (pending : Bool) (t : Text) :
    ∀ o < t.length, (t.take o).count '\n' < countFrom pending t := by
  fun_induction countFrom pending t with
  | case1 => simp
  | case2 => simp
  | case3 pending t ih =>
    intro o ho
    rcases o with - | - | o
    · simp
    · simp
    · have := ih o (by simpa using ho)
      simpa using this
  | case4 pending c t hboth hbreak ih =>
    intro o ho
    rcases o with - | o
    · simp
    · have := ih o (by simpa using ho)
      rw [List.take_succ_cons, List.count_cons]
      split <;> omega
  | case5 pending c t hboth hbreak ih =>
    intro o ho
    rcases o with - | o
    · simpa using countFrom_pos t
    · have hc : c ≠ '\n' := by
        rintro rfl
        exact hbreak (by decide)
      have := ih o (by simpa using ho)
      simpa [hc] using this

theorem count_take_lt {t : Text} {o : Nat} (ho : o < t.length) :
    (t.take o).count '\n' < count t :=
  count_take_lt_countFrom false t o ho

end LineBreak

namespace Text

variable {t : Text}

/-- The line of a character is below the number of counted lines. -/
theorem Located.line_lt_count {o : Nat} {p : Position} (h : t.Located o p) (ho : o < t.length) :
    0 ≤ p.line ∧ p.line < LineBreak.count t := by
  have hlt := LineBreak.count_take_lt ho
  obtain ⟨ht, hw, hp⟩ := h
  rename_i w part rest
  have htake : t.take (w.length + part.length) = w ++ part := by
    rw [ht, ← List.append_assoc, List.take_left' (by simp)]
  rw [htake, List.count_append, List.count_eq_zero_of_not_mem hp] at hlt
  simp only
  omega

/-- A line that is not empty starts at a character. -/
theorem exists_located_of_line {line : Text} {i : Nat} (hline : t.lines[i]? = some line)
    (hne : line ≠ []) : ∃ o < t.length, t.Located o ⟨i, 0⟩ := by
  obtain ⟨w, rest, ht, hw, rfl, hfree, -⟩ := exists_of_getElem?_lines hline
  refine ⟨w.length, ?_, .of_line ht hw hfree (Nat.zero_le _)⟩
  have := List.length_pos_iff.2 hne
  simp only [ht, List.length_append]
  omega

end Text

/-! ## Where violations start -/

theorem LineLength.IsLong.ne_nil {limits : LineLength} {line : Text} (h : limits.IsLong line)
    (hcolumns : 0 ≤ limits.maxColumns) : line ≠ [] := by
  rintro rfl
  rw [IsLong, ← measure_eq_columns, measure, sumBy] at h
  omega

theorem BodyComment.Commented.ne_nil {line : Text} (h : Commented line) : line ≠ [] := by
  rintro rfl
  simp [Commented] at h

namespace Checks

/-- The checks of lines and rules whose matches are not empty report what starts at a character. -/
theorem scan_starts_at_character {checks : Checks} {t : Text} {vs : List Violation}
    (hcolumns : 0 ≤ checks.limits.maxColumns)
    (hrules : ∀ r ∈ checks.rules, 0 < r.pattern.minWidth) (hlines : ¬checks.Refuses t)
    (h : checks.scan t = .ok vs) :
    ∀ v ∈ vs, ∃ o < t.length, t.Located o v.span.start := by
  by_cases ht : t = []
  · subst ht
    obtain rfl : [] = vs := Except.ok.inj h
    simp
  obtain ⟨found, hfound, hreports⟩ := scanRules_reports checks.rules t
  rw [scan_of_ne_nil ht hlines hfound, Except.ok.injEq] at h
  subst h
  intro v hv
  simp only [lineReports, List.mem_append] at hv
  rcases hv with ((hv | hv) | hv) | hv
  · rw [Header.eq_of_mem_check hv]
    have hsplit : t = [] ++ ([] ++ t) := rfl
    exact ⟨0, List.length_pos_iff.2 ht, .intro hsplit Text.closed_nil (by simp)⟩
  · obtain ⟨i, line, hline, hlong, rfl⟩ := LineLength.mem_longLines_iff.1 hv
    exact Text.exists_located_of_line hline (hlong.ne_nil hcolumns)
  · rw [BodyComment.check_eq_filter] at hv
    obtain ⟨⟨line, i⟩, hx, rfl⟩ := List.mem_map.1 hv
    obtain ⟨hmem, hkeep⟩ := List.mem_filter.1 hx
    exact Text.exists_located_of_line (List.mem_zipIdx_iff_getElem?.1 hmem)
      (of_decide_eq_true hkeep).1.ne_nil
  · obtain ⟨r, hr, m, hm, hreport⟩ := hreports v hv
    have hfrom := Pattern.foundFrom_findAll r.pattern t
    have hwide := hfrom.lt_of_minWidth (hrules r hr) m hm
    have hend := (hfrom.bounds hm).2
    exact ⟨m.1, by omega, hreport.start⟩

end Checks

/-! ## The lines of a scanned text -/

namespace Project

/-- The result of a text that is scanned and added with its content. Its violations start on counted
lines, so a file that has any has lines, and its score has the density of violations in it. -/
theorem add_scanned_line_lt (p : Project) (tree : FileTree) (path : String) (t : Text) :
    ∃ r p' f, Scanner.standard.resultOfText path t = .ok r
      ∧ Checks.standard.scan t = .ok r.violations
      ∧ p.add tree r (some t) = (p', .ok ())
      ∧ p'.entries.find? path = some f
      ∧ f.violationCount = r.violations.length
      ∧ f.lines = LineBreak.count t
      ∧ (∀ v ∈ r.violations, 0 ≤ v.span.start.line ∧ v.span.start.line < f.lines)
      ∧ (0 < f.violationCount → 0 < f.lines
        ∧ score f = (f.majors * 5 + f.minors * 2 + f.infos).toFloat
          + f.violationCount.toFloat / f.lines.toFloat * 50) := by
  have hchecked := Checks.not_refuses_standard t
  obtain ⟨vs, hvs, -⟩ := Checks.scan_eq_ok hchecked
  have hscan : Scanner.standard.scanText t = .ok vs := Scanner.scanText_eq_ok hvs
  have hstarts := Checks.scan_starts_at_character (by decide) Rule.minWidth_standard hchecked hvs
  have hlines : ∀ v ∈ vs, 0 ≤ v.span.start.line ∧ v.span.start.line < LineBreak.count t := by
    intro v hv
    obtain ⟨o, ho, hloc⟩ := hstarts v hv
    exact hloc.line_lt_count ho
  have hpos : 0 < vs.length → 0 < LineBreak.count t := by
    intro hlen
    obtain ⟨v, hv⟩ := List.exists_mem_of_length_pos hlen
    have := hlines v hv
    omega
  refine ⟨⟨path, if vs.isEmpty then .ok else .violations, vs, none⟩, _,
    .ofResult _ (LineBreak.count t), Scanner.resultOfText_eq_ok path hscan, hvs, add_of_counted rfl,
    ?_, rfl, rfl, hlines, fun h => ⟨hpos h, if_pos (hpos h)⟩⟩
  rw [Keyed.insert, Keyed.find?_alter, if_pos rfl]

end Project

end SourceStyle
