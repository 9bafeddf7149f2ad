import Mathlib.Algebra.Group.Nat.Defs
import Mathlib.Algebra.Order.Group.Unbundled.Int
import Mathlib.Tactic.Tauto
import SourceStyle.Checks

/-!
# Lines that are too long

A line is measured as if each of its tabs were written out in blanks (`length_expand`), so it has as
many columns as characters, with the tab size in place of one for each tab (`measure_eq_columns`). That
is never negative, not even when tabs vanish, so every line has a span up to its last column.

The check goes from line to line and stops at the first one that it cannot report: at any line, if the
tab size is no number of characters, and at a line that passes the limit, if the limit has too many
digits to be written (`Refuses`). Else it reports the long lines (`check_eq_ok_iff`). The columns grow
with the tab size (`columns_mono`) and do not depend on the limit, which settles how the reported lines
change with either.
-/

namespace SourceStyle

namespace Decimal

theorem isWritable_iff {n : Int} : IsWritable n ↔ n.natAbs < 10 ^ mostDigits :=
  Nat.length_toDigits_le_iff (by decide) (by decide)

theorem isIndex_iff {n : Int} : IsIndex n ↔ -2 ^ 63 ≤ n ∧ n < 2 ^ 63 := Iff.rfl

end Decimal

open Decimal

namespace LineLength

/-- A line with its tabs written out in blanks. -/
def expand (limits : LineLength) (line : Text) : Text :=
  line.flatMap fun c => if c = '\t' then List.replicate limits.tabSize.toNat ' ' else [c]

/-- The columns of a line. A negative tab size counts like zero. -/
def columns (limits : LineLength) (line : Text) : Int :=
  line.length + (max limits.tabSize 0 - 1) * line.count '\t'

/-! ## Columns -/

theorem columns_mono {limits limits' : LineLength} (h : limits.tabSize ≤ limits'.tabSize)
    (line : Text) : limits.columns line ≤ limits'.columns line := by
  have hwidth : max limits.tabSize 0 - 1 ≤ max limits'.tabSize 0 - 1 := by omega
  exact Int.add_le_add_left
    (Int.mul_le_mul_of_nonneg_right hwidth (Int.natCast_nonneg (line.count '\t'))) _

section Measure

variable (limits : LineLength)

theorem length_expand : ∀ line : Text, (limits.expand line).length = limits.measure line
  | [] => rfl
  | c :: line => by
    have ih := length_expand line
    simp only [expand, measure, sumBy, List.flatMap_cons, List.length_append] at ih ⊢
    rw [ih, width]
    split
    · rw [List.length_replicate]
    · rw [List.length_singleton]

theorem measure_eq_columns : ∀ line : Text, (limits.measure line : Int) = limits.columns line
  | [] => by simp [columns, measure, sumBy]
  | c :: line => by
    have ih := measure_eq_columns line
    simp only [columns, measure, sumBy, width, List.length_cons, Int.natCast_add] at ih ⊢
    rw [ih]
    by_cases hc : c = '\t'
    · -- One more tab: the blanks it stands for, less the one that its character counts for.
      rw [if_pos hc, hc, List.count_cons_self, Int.toNat_eq_max, Int.natCast_add, Int.mul_add]
      omega
    · rw [if_neg hc, List.count_cons_of_ne hc]
      omega

end Measure

/-! ## One line after the other -/

/-- The line passes the limit. -/
def IsLong (limits : LineLength) (line : Text) : Prop := limits.maxColumns < limits.columns line

instance (limits : LineLength) (line : Text) : Decidable (limits.IsLong line) :=
  inferInstanceAs (Decidable (_ < _))

/-- What is reported of the long ones among lines of which the first has number `i`. -/
def longLinesFrom (limits : LineLength) (i : Nat) (lines : List Text) : List Violation :=
  ((lines.zipIdx i).filter fun x => limits.IsLong x.1).map
    fun x => limits.violation x.2 (limits.measure x.1)

def longLines (limits : LineLength) (lines : List Text) : List Violation :=
  limits.longLinesFrom 0 lines

/-- There is a line that cannot be measured, or one that cannot be reported. -/
def Refuses (limits : LineLength) (lines : List Text) : Prop :=
  ¬IsIndex limits.tabSize ∧ lines ≠ []
    ∨ ¬IsWritable limits.maxColumns ∧ ∃ line ∈ lines, limits.IsLong line

/-- The settings with which all lines can be reported. -/
structure InRange (limits : LineLength) : Prop where
  tabSize : IsIndex limits.tabSize
  maxColumns : IsWritable limits.maxColumns

theorem InRange.not_refuses {limits : LineLength} (h : limits.InRange) (lines : List Text) :
    ¬limits.Refuses lines := by
  rintro (⟨htab, -⟩ | ⟨hmax, -⟩)
  · exact htab h.tabSize
  · exact hmax h.maxColumns

theorem InRange.default : InRange {} := ⟨by decide, by decide⟩

section CheckFrom

variable {limits : LineLength}

theorem longLinesFrom_cons (i : Nat) (line : Text) (lines : List Text) :
    limits.longLinesFrom i (line :: lines)
      = (if limits.IsLong line then [limits.violation i (limits.measure line)] else [])
        ++ limits.longLinesFrom (i + 1) lines := by
  simp only [longLinesFrom, List.zipIdx_cons, List.filter_cons, decide_eq_true_eq]
  split_ifs <;> rfl

theorem checkLine_of_isIndex (htab : IsIndex limits.tabSize) (i : Nat) (line : Text) :
    limits.checkLine i line
      = if ¬limits.IsLong line then .ok none
        else if ¬IsWritable limits.maxColumns then .error .maxColumns
        else .ok (some (limits.violation i (limits.measure line))) := by
  unfold checkLine IsLong
  rw [if_neg (not_not.2 htab), measure_eq_columns]
  simp only [Int.not_lt]

/-- The tab size is looked at first, whatever the line holds. -/
theorem checkFrom_of_not_isIndex (htab : ¬IsIndex limits.tabSize) (i : Nat) (line : Text)
    (lines : List Text) : limits.checkFrom i (line :: lines) = .error .tabSize := by
  rw [checkFrom, checkLine, if_pos htab]
  rfl

/-- The check stops at the first long line whose limit cannot be written. -/
theorem checkFrom_of_isLong (htab : IsIndex limits.tabSize) (hmax : ¬IsWritable limits.maxColumns) :
    ∀ (lines : List Text) (i : Nat), (∃ line ∈ lines, limits.IsLong line) →
      limits.checkFrom i lines = .error .maxColumns
  | [], i, h => by simp at h
  | line :: lines, i, h => by
    rw [checkFrom, checkLine_of_isIndex htab]
    by_cases hlong : limits.IsLong line
    · rw [if_neg (not_not.2 hlong), if_pos hmax]
      rfl
    · have hrest : ∃ line ∈ lines, limits.IsLong line := by simpa [hlong] using h
      rw [if_pos hlong, checkFrom_of_isLong htab hmax lines (i + 1) hrest]
      rfl

theorem checkFrom_of_not_refuses : ∀ (lines : List Text) (i : Nat), ¬limits.Refuses lines →
    limits.checkFrom i lines = .ok (limits.longLinesFrom i lines)
  | [], i, _ => rfl
  | line :: lines, i, h => by
    have htab : IsIndex limits.tabSize := by
      by_contra htab
      exact h (.inl ⟨htab, by simp⟩)
    have hrest : ¬limits.Refuses lines := by
      rintro (⟨htab', -⟩ | ⟨hmax, l, hl, hlong⟩)
      · exact htab' htab
      · exact h (.inr ⟨hmax, l, List.mem_cons_of_mem _ hl, hlong⟩)
    rw [checkFrom, checkLine_of_isIndex htab, checkFrom_of_not_refuses lines (i + 1) hrest,
      longLinesFrom_cons]
    by_cases hlong : limits.IsLong line
    · have hmax : IsWritable limits.maxColumns := by
        by_contra hmax
        exact h (.inr ⟨hmax, line, List.mem_cons_self, hlong⟩)
      rw [if_neg (not_not.2 hlong), if_neg (not_not.2 hmax), if_pos hlong]
      rfl
    · rw [if_pos hlong, if_neg hlong]
      rfl

end CheckFrom

/-! ## The whole check -/

section Check

variable {limits : LineLength} {lines : List Text}

theorem check_of_not_refuses (h : ¬limits.Refuses lines) :
    limits.check lines = .ok (limits.longLines lines) :=
  checkFrom_of_not_refuses lines 0 h

theorem check_of_inRange (h : limits.InRange) (lines : List Text) :
    limits.check lines = .ok (limits.longLines lines) :=
  check_of_not_refuses (h.not_refuses lines)

theorem check_eq_tabSize_iff :
    limits.check lines = .error .tabSize ↔ ¬IsIndex limits.tabSize ∧ lines ≠ [] := by
  constructor
  · intro h
    by_contra hno
    by_cases hrefuses : limits.Refuses lines
    · obtain ⟨hmax, hlong⟩ := hrefuses.resolve_left hno
      have htab : IsIndex limits.tabSize := by
        by_contra htab
        obtain ⟨line, hline, -⟩ := hlong
        exact hno ⟨htab, List.ne_nil_of_mem hline⟩
      rw [check, checkFrom_of_isLong htab hmax lines 0 hlong] at h
      cases h
    · rw [check_of_not_refuses hrefuses] at h
      cases h
  · rintro ⟨htab, hne⟩
    obtain ⟨line, rest, rfl⟩ := List.exists_cons_of_ne_nil hne
    exact checkFrom_of_not_isIndex htab 0 line rest

theorem check_eq_maxColumns_iff :
    limits.check lines = .error .maxColumns ↔ IsIndex limits.tabSize
      ∧ ¬IsWritable limits.maxColumns ∧ ∃ line ∈ lines, limits.IsLong line := by
  constructor
  · intro h
    have htab : IsIndex limits.tabSize := by
      by_contra htab
      cases lines with
      | nil => cases h
      | cons line rest =>
        rw [check, checkFrom_of_not_isIndex htab] at h
        cases h
    by_contra hno
    have hrefuses : ¬limits.Refuses lines := by
      rintro (⟨htab', -⟩ | hlong)
      · exact htab' htab
      · exact hno ⟨htab, hlong⟩
    rw [check_of_not_refuses hrefuses] at h
    cases h
  · rintro ⟨htab, hmax, hlong⟩
    exact checkFrom_of_isLong htab hmax lines 0 hlong

theorem exists_error_of_refuses (h : limits.Refuses lines) : ∃ e, limits.check lines = .error e := by
  by_cases htab : ¬IsIndex limits.tabSize ∧ lines ≠ []
  · exact ⟨_, check_eq_tabSize_iff.2 htab⟩
  · obtain ⟨hmax, line, hline, hlong⟩ := h.resolve_left htab
    have hindex : IsIndex limits.tabSize := by
      by_contra hindex
      exact htab ⟨hindex, List.ne_nil_of_mem hline⟩
    exact ⟨_, check_eq_maxColumns_iff.2 ⟨hindex, hmax, line, hline, hlong⟩⟩

theorem check_eq_ok_iff {vs : List Violation} :
    limits.check lines = .ok vs ↔ ¬limits.Refuses lines ∧ limits.longLines lines = vs := by
  by_cases h : limits.Refuses lines
  · obtain ⟨e, he⟩ := exists_error_of_refuses h
    simp [he, h]
  · simp [check_of_not_refuses h, h]

theorem mem_longLines_iff {v : Violation} :
    v ∈ limits.longLines lines ↔ ∃ (i : Nat) (line : Text), lines[i]? = some line
      ∧ limits.IsLong line ∧ v = limits.violation i (limits.measure line) := by
  simp only [longLines, longLinesFrom, List.mem_map, List.mem_filter, decide_eq_true_eq,
    List.mem_zipIdx_iff_getElem?]
  constructor
  · rintro ⟨⟨line, i⟩, ⟨hline, hlong⟩, rfl⟩
    exact ⟨i, line, hline, hlong, rfl⟩
  · rintro ⟨i, line, hline, hlong, rfl⟩
    exact ⟨(line, i), ⟨hline, hlong⟩, rfl⟩

theorem ends_longLines :
    (limits.longLines lines).map (fun v => (v.span.start, v.span.stop))
      = (lines.zipIdx.filter fun x => limits.maxColumns < limits.columns x.1).map
        fun x => (⟨x.2, 0⟩, ⟨x.2, limits.columns x.1⟩) := by
  rw [longLines, longLinesFrom, List.map_map]
  refine List.map_congr_left fun x _ => ?_
  simp only [Function.comp_apply, violation, Span.ofLine, measure_eq_columns]

/-- Settings with which no line is long unless it is with others report no line that those do not. -/
theorem numbers_subset {limits' : LineLength} {vs vs' : List Violation}
    (h : ∀ line, limits.IsLong line → limits'.IsLong line) (hvs : limits.check lines = .ok vs)
    (hvs' : limits'.check lines = .ok vs') :
    vs.map (fun v => v.span.start.line) ⊆ vs'.map fun v => v.span.start.line := by
  obtain ⟨-, rfl⟩ := check_eq_ok_iff.1 hvs
  obtain ⟨-, rfl⟩ := check_eq_ok_iff.1 hvs'
  intro n hn
  obtain ⟨v, hv, rfl⟩ := List.mem_map.1 hn
  obtain ⟨i, line, hline, hlong, rfl⟩ := mem_longLines_iff.1 hv
  exact List.mem_map.2 ⟨_, mem_longLines_iff.2 ⟨i, line, hline, h line hlong, rfl⟩, rfl⟩

theorem not_refuses_iff : ¬limits.Refuses lines ↔ lines = []
    ∨ IsIndex limits.tabSize
      ∧ (IsWritable limits.maxColumns ∨ ∀ line ∈ lines, ¬limits.IsLong line) := by
  unfold Refuses
  rcases eq_or_ne lines [] with rfl | hne
  · simp
  · simp only [hne, ne_eq, not_false_eq_true, and_true, false_or, not_or, not_not, not_and,
      not_exists]
    tauto

end Check

/-- The check fails at the first line if the tab size does not fit into 64 bits, and at the first long
line if the limit has too many digits. Else the lines with more columns than the limit are reported and
no others, each once and in order, from its start to its last column. A higher limit reports no further
line, and a larger tab size still reports all of them. -/
theorem check_long_lines_exact (limits : LineLength) (lines : List Text) :
    (∀ line, limits.measure line = (limits.expand line).length
      ∧ (limits.measure line : Int) = limits.columns line)
    ∧ (limits.check lines = .error .tabSize
      ↔ ¬(-2 ^ 63 ≤ limits.tabSize ∧ limits.tabSize < 2 ^ 63) ∧ lines ≠ [])
    ∧ (limits.check lines = .error .maxColumns
      ↔ (-2 ^ 63 ≤ limits.tabSize ∧ limits.tabSize < 2 ^ 63)
        ∧ 10 ^ mostDigits ≤ limits.maxColumns.natAbs
        ∧ ∃ line ∈ lines, limits.maxColumns < limits.columns line)
    ∧ ((∃ vs, limits.check lines = .ok vs)
      ↔ lines = [] ∨ (-2 ^ 63 ≤ limits.tabSize ∧ limits.tabSize < 2 ^ 63)
        ∧ (limits.maxColumns.natAbs < 10 ^ mostDigits
          ∨ ∀ line ∈ lines, limits.columns line ≤ limits.maxColumns))
    ∧ ∀ vs, limits.check lines = .ok vs →
      vs.map (fun v => (v.span.start, v.span.stop))
        = (lines.zipIdx.filter fun x => limits.maxColumns < limits.columns x.1).map
          (fun x => (⟨x.2, 0⟩, ⟨x.2, limits.columns x.1⟩))
      ∧ (∀ maxColumns vs', limits.maxColumns ≤ maxColumns →
        check { limits with maxColumns } lines = .ok vs' →
        vs'.map (fun v => v.span.start.line) ⊆ vs.map fun v => v.span.start.line)
      ∧ ∀ tabSize vs', limits.tabSize ≤ tabSize →
        check { limits with tabSize } lines = .ok vs' →
        vs.map (fun v => v.span.start.line) ⊆ vs'.map fun v => v.span.start.line := by
  refine ⟨fun line => ⟨(limits.length_expand line).symm, limits.measure_eq_columns line⟩,
    check_eq_tabSize_iff, ?_, ?_, fun vs hvs => ⟨?_, ?_, ?_⟩⟩
  · rw [check_eq_maxColumns_iff, isWritable_iff, not_lt]
    rfl
  · simp only [check_eq_ok_iff, exists_and_left, exists_eq', and_true, not_refuses_iff,
      isWritable_iff, IsLong, not_lt]
    rfl
  · obtain ⟨-, rfl⟩ := check_eq_ok_iff.1 hvs
    exact ends_longLines
  · intro maxColumns vs' hle hvs'
    refine numbers_subset (fun line hlong => ?_) hvs' hvs
    exact Int.lt_of_le_of_lt hle hlong
  · intro tabSize vs' hle hvs'
    refine numbers_subset (fun line hlong => ?_) hvs hvs'
    exact Int.lt_of_lt_of_le hlong (columns_mono hle line)

/-- When tabs vanish one of three lines is too long. No other is with a limit of two, and it still is
with tabs of eight. -/
theorem check_long_lines_exact_vanishing_tabs :
    let limits : LineLength := { tabSize := -1, maxColumns := 1 }
    let lines : List Text := [['\t', 'a', 'b'], ['c'], ['\t', 'd']]
    ∃ vs vs₂ vs₈, limits.check lines = .ok vs
      ∧ check { limits with maxColumns := 2 } lines = .ok vs₂
      ∧ check { limits with tabSize := 8 } lines = .ok vs₈
      ∧ vs.map (fun v => (v.span.start, v.span.stop)) = [(⟨0, 0⟩, ⟨0, 2⟩)]
      ∧ vs₂.map (fun v => v.span.start.line) ⊆ vs.map (fun v => v.span.start.line)
      ∧ vs.map (fun v => v.span.start.line) ⊆ vs₈.map fun v => v.span.start.line := by
  intro limits lines
  have hvs : limits.check lines = .ok _ := check_of_inRange ⟨by decide, by decide⟩ lines
  have hvs₂ : check { limits with maxColumns := 2 } lines = .ok _ :=
    check_of_inRange ⟨by decide, by decide⟩ lines
  have hvs₈ : check { limits with tabSize := 8 } lines = .ok _ :=
    check_of_inRange ⟨by decide, by decide⟩ lines
  obtain ⟨-, -, -, -, hreports⟩ := check_long_lines_exact limits lines
  obtain ⟨hends, hlimit, htab⟩ := hreports _ hvs
  exact ⟨_, _, _, hvs, hvs₂, hvs₈, hends, hlimit 2 _ (by decide) hvs₂, htab 8 _ (by decide) hvs₈⟩

/-- A tab size of `2 ^ 63` cannot be used, not even for a line without tabs that is short. -/
theorem check_tab_size_too_large :
    let limits : LineLength := { tabSize := 2 ^ 63 }
    limits.check [['a']] = .error .tabSize ∧ limits.columns ['a'] ≤ limits.maxColumns :=
  ⟨rfl, by decide⟩

end LineLength

end SourceStyle
