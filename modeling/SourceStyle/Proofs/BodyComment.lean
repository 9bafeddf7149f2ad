import SourceStyle.Proofs.Reports
import SourceStyle.Proofs.Spelling

/-!
# The comments that a scan reports

A line is in a body when the last brace that starts a line up to it is an opening one
(`BodyComment.InBody`). The check carries this along from line to line (`inBody_iff`), so it reports
just the lines of bodies that hold a comment. The rule of the same name asks for a brace and a slash
at the same place and has no match, so these reports are all that a scan gives under that name.
-/

namespace SourceStyle

theorem Text.contains_iff_infix {s : Text} : ∀ {t : Text}, Text.contains t s = true ↔ s <:+: t
  | [] => by simp [Text.contains]
  | c :: t => by
    rw [Text.contains, Bool.or_eq_true, List.isPrefixOf_iff_prefix, contains_iff_infix,
      List.infix_cons_iff]

namespace BodyComment

open Text

/-- The last line up to line `i` that starts with a brace starts with an opening one. -/
def InBody (lines : List Text) (i : Nat) : Prop :=
  ∃ j ≤ i, charAt? lines j 0 = some '\x7b'
    ∧ ∀ k, j < k → k ≤ i → charAt? lines k 0 ≠ some '\x7b' ∧ charAt? lines k 0 ≠ some '\x7d'

/-- The line holds the start of a comment. -/
def Commented (line : Text) : Prop := ['/', '/'] <:+: line ∨ ['/', '*'] <:+: line

theorem hasComment_iff {line : Text} : hasComment line = true ↔ Commented line := by
  rw [hasComment, Bool.or_eq_true, contains_iff_infix, contains_iff_infix]
  rfl

instance (line : Text) : Decidable (Commented line) := decidable_of_iff _ hasComment_iff

/-! ## From line to line -/

theorem opened_iff {inside : Bool} {line : Text} : opened inside line = true
    ↔ line.head? = some '\x7b' ∨ line.head? ≠ some '\x7d' ∧ inside = true := by
  unfold opened
  split
  · simp_all
  · simp_all
  · simp_all

theorem inBody_zero {lines : List Text} :
    InBody lines 0 ↔ charAt? lines 0 0 = some '\x7b' := by
  constructor
  · rintro ⟨j, hj, h, -⟩
    rwa [Nat.le_zero.1 hj] at h
  · exact fun h => ⟨0, Nat.le_refl 0, h, fun k hk hk' => by omega⟩

theorem inBody_succ {lines : List Text} {i : Nat} : InBody lines (i + 1)
    ↔ charAt? lines (i + 1) 0 = some '\x7b'
      ∨ charAt? lines (i + 1) 0 ≠ some '\x7d' ∧ InBody lines i := by
  constructor
  · rintro ⟨j, hj, h, hlast⟩
    rcases Nat.eq_or_lt_of_le hj with rfl | hlt
    · exact .inl h
    · exact .inr ⟨(hlast (i + 1) hlt (Nat.le_refl _)).2, j, Nat.le_of_lt_succ hlt, h,
        fun k hk hk' => hlast k hk (by omega)⟩
  · rintro (h | ⟨hne, j, hj, h, hlast⟩)
    · exact ⟨i + 1, Nat.le_refl _, h, fun k hk hk' => by omega⟩
    · by_cases hopen : charAt? lines (i + 1) 0 = some '\x7b'
      · exact ⟨i + 1, Nat.le_refl _, hopen, fun k hk hk' => by omega⟩
      · refine ⟨j, by omega, h, fun k hk hk' => ?_⟩
        rcases Nat.eq_or_lt_of_le hk' with rfl | hlt
        · exact ⟨hopen, hne⟩
        · exact hlast k hk (by omega)

/-- Whether a body is open after some lines. -/
def openAfter (lines : List Text) : Bool := lines.foldl opened false

theorem openAfter_concat (lines : List Text) (line : Text) :
    openAfter (lines ++ [line]) = opened (openAfter lines) line := by
  rw [openAfter, List.foldl_append]
  rfl

theorem openAfter_take_succ {lines : List Text} {i : Nat} : openAfter (lines.take (i + 1)) = true
    ↔ charAt? lines i 0 = some '\x7b'
      ∨ charAt? lines i 0 ≠ some '\x7d' ∧ openAfter (lines.take i) = true := by
  rw [List.take_add_one]
  rcases h : lines[i]? with _ | line
  · simp [charAt?, h]
  · rw [Option.toList_some, openAfter_concat, opened_iff, charAt?_of_getElem? h, List.head?_eq_getElem?]

theorem inBody_iff {lines : List Text} : ∀ {i : Nat},
    InBody lines i ↔ openAfter (lines.take (i + 1)) = true
  | 0 => by
    rw [inBody_zero, openAfter_take_succ]
    simp [openAfter]
  | i + 1 => by
    rw [inBody_succ, openAfter_take_succ, inBody_iff]

instance (lines : List Text) (i : Nat) : Decidable (InBody lines i) :=
  decidable_of_iff _ inBody_iff.symm

/-- What is reported for lines that stand behind others. -/
theorem checkFrom_openAfter : ∀ lines before : List Text,
    checkFrom (openAfter before) before.length lines
      = ((lines.zipIdx before.length).filter fun x =>
          Commented x.1 ∧ InBody (before ++ lines) x.2).map fun x => violation x.2 x.1
  | [], before => rfl
  | line :: lines, before => by
    have ih := checkFrom_openAfter lines (before ++ [line])
    have hopen : InBody (before ++ line :: lines) before.length
        ↔ opened (openAfter before) line = true := by
      rw [inBody_iff, List.append_cons, List.take_left' (by simp), openAfter_concat]
    rw [openAfter_concat, List.length_append, List.length_singleton, List.append_assoc,
      List.singleton_append] at ih
    rw [checkFrom, List.zipIdx_cons, List.filter_cons, ih]
    simp only [Bool.and_eq_true, hasComment_iff, ← hopen, decide_eq_true_eq, and_comm]
    split <;> rfl

/-- The check reports the lines of bodies that hold a comment, in order. -/
theorem check_eq_filter (lines : List Text) :
    check lines = (lines.zipIdx.filter fun x => Commented x.1 ∧ InBody lines x.2).map
      fun x => violation x.2 x.1 :=
  checkFrom_openAfter lines []

end BodyComment

/-! ## The rule of the same name -/

namespace Rule

open Pattern

theorem findAll_commentInFunction (t : Text) : commentInFunction.pattern.findAll t = [] := by
  refine List.eq_nil_iff_forall_not_mem.2 fun m hm => ?_
  obtain ⟨_, ⟨rfl, _, _, hbrace, -⟩, _, hslash, -⟩ := (foundFrom_findAll _ t).matches hm
  have hbrace := (matches_char_iff.1 hbrace).1
  -- Both kinds of comment start with a slash.
  have hslash : t[m.1]? = some '/' := by
    rcases hslash with ⟨_, h, -⟩ | ⟨_, h, -⟩
    · exact (matches_char_iff.1 h).1
    · exact (matches_char_iff.1 h).1
  rw [hbrace] at hslash
  simp at hslash

theorem commentInFunction_of_name : ∀ r ∈ standard, r.name = "COMMENT_IN_FUNCTION" →
    r.pattern = commentInFunction.pattern := by
  simp [standard, trailingWhitespace, spaceBeforeTab, commentInFunction, tabBeforeSpace,
    functionTooLong, spaceAfterKeyword, tooManyParams]

end Rule

/-! ## Violations by their name -/

namespace Checks

open BodyComment

theorem filter_lineReports (limits : LineLength) (t : Text) :
    ((lineReports limits t).filter fun v => v.rule = "COMMENT_IN_FUNCTION")
      = BodyComment.check t.lines := by
  have hheader : ∀ v ∈ Header.check t, ¬ v.rule = "COMMENT_IN_FUNCTION" := by
    intro v hv
    rw [Header.eq_of_mem_check hv]
    simp
  have hlength : ∀ v ∈ limits.longLines t.lines, ¬ v.rule = "COMMENT_IN_FUNCTION" := by
    intro v hv
    obtain ⟨n, line, -, -, rfl⟩ := LineLength.mem_longLines_iff.1 hv
    simp [LineLength.violation]
  have hcomment : ∀ v ∈ BodyComment.check t.lines, v.rule = "COMMENT_IN_FUNCTION" := by
    intro v hv
    obtain ⟨n, line, -, rfl⟩ := BodyComment.mem_checkFrom hv
    rfl
  rw [lineReports, List.filter_append, List.filter_append,
    List.filter_eq_nil_iff.2 (by simpa using hheader),
    List.filter_eq_nil_iff.2 (by simpa using hlength),
    List.filter_eq_self.2 (by simpa using hcomment), List.nil_append, List.nil_append]

/-- The comments that a scan reports are the commented lines of bodies, each once and in order, from its
start to its end. The rule that has the same name finds nothing. -/
theorem scan_comments_exact (t : Text) :
    Rule.commentInFunction.pattern.findAll t = []
      ∧ ∃ vs, standard.scan t = .ok vs
        ∧ ((vs.filter fun v => v.rule = "COMMENT_IN_FUNCTION").map
            fun v => (v.span.start, v.span.stop, v.message, v.severity))
          = (t.lines.zipIdx.filter fun x => Commented x.1 ∧ InBody t.lines x.2).map
            fun x => (⟨x.2, 0⟩, ⟨x.2, x.1.length⟩, "Can't have comment inside function.", .minor) := by
  refine ⟨Rule.findAll_commentInFunction t, ?_⟩
  by_cases ht : t = []
  · subst ht
    exact ⟨[], rfl, by decide⟩
  · obtain ⟨vs, hvs, hrules⟩ := scanRules_reports standard.rules t
    refine ⟨_, scan_of_ne_nil ht (not_refuses_standard t) hvs, ?_⟩
    have hnone : ∀ v ∈ vs, ¬ v.rule = "COMMENT_IN_FUNCTION" := by
      intro v hv hname
      obtain ⟨r, hr, m, hm, hreports⟩ := hrules v hv
      rw [hreports.rule] at hname
      rw [Rule.commentInFunction_of_name r hr hname, Rule.findAll_commentInFunction] at hm
      simp at hm
    rw [List.filter_append, filter_lineReports, List.filter_eq_nil_iff.2 (by simpa using hnone),
      List.append_nil, check_eq_filter, List.map_map]
    rfl

end Checks

end SourceStyle
