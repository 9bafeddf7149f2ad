import SourceStyle.Proofs.BodyComment
import SourceStyle.Proofs.LineReading

/-!
# The order of the violations of a scan

A scan reports check by check, so its violations come in groups of one name (`Group`). In a group they
lie one behind another and none is empty, and the names follow one another in a fixed order
(`reportOrder`). Hence every violation is before all later ones by its name or by its place
(`Precedes`), and none occurs twice.
-/

namespace SourceStyle

namespace Checks

open Text

/-- The names under which a scan reports, in the order in which it does. -/
def reportOrder : List String :=
  ["HEADER_MISSING", "TOO_LONG_LINE", "COMMENT_IN_FUNCTION", "TRAILING_WHITESPACE",
    "SPACE_BEFORE_TAB", "TAB_BEFORE_SPACE", "FUNCTION_TOO_LONG", "SPACE_AFTER_KEYWORD",
    "TOO_MANY_PARAMS"]

def rank (v : Violation) : Nat := reportOrder.idxOf v.rule

/-- The first violation has an earlier name, or the same name and ends before the second starts. -/
def Precedes (v v' : Violation) : Prop :=
  rank v < rank v' ∨ v.rule = v'.rule ∧ v.span.stop ≤ v'.span.start

/-- What a scan reports under one name. The end of a missing header and of a long line may lie outside
the text. -/
structure Group (t : Text) (name : String) (vs : List Violation) : Prop where
  named : ∀ v ∈ vs, v.rule = name
  ordered : vs.Pairwise fun v v' => v.span.stop ≤ v'.span.start
  wide : ∀ v ∈ vs, v.span.start.Before v.span.stop
  start : ∀ v ∈ vs, ∃ o, t.Located o v.span.start
  stop : ∀ v ∈ vs, name = "HEADER_MISSING" ∨ name = "TOO_LONG_LINE" ∨ ∃ o, t.Located o v.span.stop

/-! ## The groups of a scan -/

variable {t : Text}

theorem group_header (t : Text) : Group t "HEADER_MISSING" (Header.check t) := by
  unfold Header.check
  split
  · constructor <;> simp
  · have hstart := at_zero t
    constructor
    · simp
    · simp
    · simp [Header.span, Position.Before]
    · simpa [Header.span] using ⟨0, hstart⟩
    · simp

/-- Lines that are reported whole, or up to some width. -/
theorem group_lines {name : String} {keep : Text × Nat → Bool} {report : Text × Nat → Violation}
    {width : Text → Nat} (hrule : ∀ x, (report x).rule = name)
    (hspan : ∀ x, (report x).span = Span.ofLine x.2 (width x.1))
    (hwide : ∀ x, keep x = true → 0 < width x.1)
    (hstop : name = "TOO_LONG_LINE" ∨ ∀ l, width l ≤ l.length) :
    Group t name ((t.lines.zipIdx.filter keep).map report) where
  named := by
    intro v hv
    obtain ⟨x, -, rfl⟩ := List.mem_map.1 hv
    exact hrule x
  ordered := by
    rw [List.pairwise_map]
    refine ((pairwise_zipIdx t.lines 0).filter keep).imp fun hlt => ?_
    rw [hspan, hspan]
    exact .inl (Int.ofNat_lt.2 hlt)
  wide := by
    intro v hv
    obtain ⟨x, hx, rfl⟩ := List.mem_map.1 hv
    rw [hspan]
    exact .inr ⟨rfl, Int.ofNat_lt.2 (hwide x (List.mem_filter.1 hx).2)⟩
  start := by
    intro v hv
    obtain ⟨x, hx, rfl⟩ := List.mem_map.1 hv
    have hl := List.mem_zipIdx_iff_getElem?.1 (List.mem_filter.1 hx).1
    rw [hspan]
    exact exists_at_iff.2 ⟨x.1, hl, Nat.zero_le _⟩
  stop := by
    intro v hv
    rcases hstop with hname | hle
    · exact .inr (.inl hname)
    · obtain ⟨x, hx, rfl⟩ := List.mem_map.1 hv
      have hl := List.mem_zipIdx_iff_getElem?.1 (List.mem_filter.1 hx).1
      rw [hspan]
      exact .inr (.inr (exists_at_iff.2 ⟨x.1, hl, hle x.1⟩))

theorem group_length (t : Text) : Group t "TOO_LONG_LINE" (LineLength.longLines {} t.lines) := by
  refine group_lines (fun _ => rfl) (fun _ => rfl) (fun x hx => ?_) (.inl rfl)
  rw [decide_eq_true_eq, LineLength.IsLong, ← LineLength.measure_eq_columns] at hx
  have hmax : (0 : Int) ≤ LineLength.maxColumns {} := by decide
  omega

theorem group_comments (t : Text) : Group t "COMMENT_IN_FUNCTION" (BodyComment.check t.lines) := by
  rw [BodyComment.check_eq_filter]
  refine group_lines (fun _ => rfl) (fun _ => rfl) (fun x hx => ?_) (.inr fun _ => Nat.le_refl _)
  rw [decide_eq_true_eq] at hx
  rcases hx.1 with h | h <;> exact Nat.lt_of_lt_of_le (by decide) h.length_le

theorem group_rule {r : Rule} {vs : List Violation} (hwide : 0 < r.pattern.minWidth)
    (hvs : List.Forall₂ (r.Reports t) (r.pattern.findAll t) vs) : Group t r.name vs where
  named := by
    intro v hv
    obtain ⟨m, -, hr⟩ := exists_left_of_mem hvs hv
    exact hr.rule
  ordered := by
    refine pairwise_of_forall₂ hvs (Pattern.foundFrom_findAll r.pattern t).ordered ?_
    intro m m' v v' hr hr' hfollows
    exact (hr.stop.le_iff hr'.start).2 hfollows.1
  wide := by
    intro v hv
    obtain ⟨m, hm, hr⟩ := exists_left_of_mem hvs hv
    exact hr.start.before hr.stop ((Pattern.foundFrom_findAll r.pattern t).lt_of_minWidth hwide m hm)
  start := by
    intro v hv
    obtain ⟨m, -, hr⟩ := exists_left_of_mem hvs hv
    exact ⟨m.1, hr.start⟩
  stop := by
    intro v hv
    obtain ⟨m, -, hr⟩ := exists_left_of_mem hvs hv
    exact .inr (.inr ⟨m.2, hr.stop⟩)

/-- Every rule gives a group, the one without matches apart. -/
theorem groups_of_rules : ∀ {rules : List Rule} {vss : List (List Violation)},
    (∀ r ∈ rules, r ∈ Rule.standard) →
    List.Forall₂ (fun r vs => List.Forall₂ (Rule.Reports r t) (r.pattern.findAll t) vs) rules vss →
    ∃ groups, groups.flatten = vss.flatten ∧ List.Forall₂ (Group t)
      ((rules.filter fun r => r.name ≠ "COMMENT_IN_FUNCTION").map Rule.name) groups
  | [], [], _, .nil => ⟨[], rfl, .nil⟩
  | r :: rules, vs :: vss, hrules, .cons hvs hall => by
    rw [List.forall_mem_cons] at hrules
    obtain ⟨groups, hflat, hgroups⟩ := groups_of_rules hrules.2 hall
    by_cases hname : r.name = "COMMENT_IN_FUNCTION"
    · rw [Rule.commentInFunction_of_name r hrules.1 hname, Rule.findAll_commentInFunction,
        List.forall₂_nil_left_iff] at hvs
      refine ⟨groups, by simp [hvs, hflat], ?_⟩
      rwa [List.filter_cons_of_neg (by simpa using hname)]
    · refine ⟨vs :: groups, by simp [hflat], ?_⟩
      rw [List.filter_cons_of_pos (by simpa using hname), List.map_cons]
      exact .cons (group_rule (Rule.minWidth_standard r hrules.1) hvs) hgroups

/-- The scan of a text is a group for each name, that of the missing header first. -/
theorem scan_eq_groups (ht : t ≠ []) : ∃ groups,
    standard.scan t = .ok (Header.check t ++ groups.flatten)
      ∧ List.Forall₂ (Group t) reportOrder (Header.check t :: groups) := by
  obtain ⟨vss, hvss, hall⟩ := scanRules_eq_ok Rule.standard t
  obtain ⟨groups, hflat, hgroups⟩ := groups_of_rules (fun _ hr => hr) hall
  refine ⟨LineLength.longLines {} t.lines :: BodyComment.check t.lines :: groups, ?_,
    .cons (group_header t) (.cons (group_length t) (.cons (group_comments t) hgroups))⟩
  rw [scan_of_ne_nil ht (not_refuses_standard t) hvss]
  simp [lineReports, standard, hflat]

/-! ## From groups to the whole -/

theorem Precedes.rank_le {v v' : Violation} (h : Precedes v v') : rank v ≤ rank v' := by
  rcases h with h | ⟨h, -⟩
  · exact Nat.le_of_lt h
  · rw [rank, rank, h]

theorem Precedes.stop_le {v v' : Violation} (h : Precedes v v') (hrule : v.rule = v'.rule) :
    v.span.stop ≤ v'.span.start := by
  rcases h with h | ⟨-, h⟩
  · rw [rank, rank, hrule] at h
    exact absurd h (Nat.lt_irrefl _)
  · exact h

theorem Precedes.ne {v v' : Violation} (h : Precedes v v') (hv : v.span.start.Before v.span.stop) :
    v ≠ v' := by
  rintro rfl
  exact Position.not_before_iff.2 (h.stop_le rfl) hv

variable {groups : List (List Violation)}

theorem exists_group (h : List.Forall₂ (Group t) reportOrder groups) {v : Violation}
    (hv : v ∈ groups.flatten) : ∃ name ∈ reportOrder, ∃ vs, v ∈ vs ∧ Group t name vs := by
  obtain ⟨vs, hvs, hv⟩ := List.mem_flatten.1 hv
  obtain ⟨name, hname, hgroup⟩ := exists_left_of_mem h hvs
  exact ⟨name, hname, vs, hv, hgroup⟩

theorem pairwise_precedes (h : List.Forall₂ (Group t) reportOrder groups) :
    groups.flatten.Pairwise Precedes := by
  have hrank : reportOrder.Pairwise fun a b => reportOrder.idxOf a < reportOrder.idxOf b := by
    decide
  rw [List.pairwise_flatten]
  constructor
  · intro vs hvs
    obtain ⟨name, -, hgroup⟩ := exists_left_of_mem h hvs
    refine hgroup.ordered.imp_of_mem fun {v v'} hv hv' hle => .inr ⟨?_, hle⟩
    rw [hgroup.named v hv, hgroup.named v' hv']
  · refine pairwise_of_forall₂ h hrank fun a b vs vs' hvs hvs' hlt v hv v' hv' => .inl ?_
    rwa [rank, rank, hvs.named v hv, hvs'.named v' hv']

theorem length_filter_header_le (h : List.Forall₂ (Group t) reportOrder (Header.check t :: groups)) :
    ((Header.check t ++ groups.flatten).filter fun v => v.rule = "HEADER_MISSING").length ≤ 1 := by
  have hlater : ∀ v ∈ groups.flatten, v.rule ≠ "HEADER_MISSING" := by
    intro v hv
    obtain ⟨vs, hvs, hv⟩ := List.mem_flatten.1 hv
    obtain ⟨-, htail⟩ := List.forall₂_cons.1 h
    obtain ⟨name, hname, hgroup⟩ := exists_left_of_mem htail hvs
    rw [hgroup.named v hv]
    rintro rfl
    exact absurd hname (by decide)
  have hfirst : (Header.check t).length ≤ 1 := by
    unfold Header.check
    split <;> simp
  have hnone : (groups.flatten.filter fun v => v.rule = "HEADER_MISSING") = [] :=
    List.filter_eq_nil_iff.2 fun v hv => by simpa using hlater v hv
  rw [List.filter_append, hnone, List.append_nil]
  exact Nat.le_trans (List.length_filter_le _ _) hfirst

/-- The violations of a scan are pairwise different and come name by name in a fixed order, with at
most one for the header. Of two with the same name the first ends before the second starts. All of
them start at a position of the text, and end at one unless they are about the header or the length of
a line. -/
theorem scan_ordered_by_name (t : Text) : ∃ vs, standard.scan t = .ok vs
    ∧ vs.Nodup
    ∧ (∀ v ∈ vs, v.rule ∈ reportOrder)
    ∧ vs.Pairwise (fun v v' => reportOrder.idxOf v.rule ≤ reportOrder.idxOf v'.rule)
    ∧ (vs.filter fun v => v.rule = "HEADER_MISSING").length ≤ 1
    ∧ vs.Pairwise (fun v v' => v.rule = v'.rule → v.span.stop ≤ v'.span.start)
    ∧ ∀ v ∈ vs, (∃ o, t.offsetAt v.span.start = .ok o)
      ∧ (v.rule = "HEADER_MISSING" ∨ v.rule = "TOO_LONG_LINE"
        ∨ ∃ o, t.offsetAt v.span.stop = .ok o) := by
  rcases eq_or_ne t [] with rfl | ht
  · exact ⟨[], rfl, by simp⟩
  obtain ⟨groups, hscan, hgroups⟩ := scan_eq_groups ht
  have hprec := pairwise_precedes hgroups
  refine ⟨_, hscan, hprec.imp_of_mem fun {v v'} hv _ h => ?_, fun v hv => ?_,
    hprec.imp Precedes.rank_le, length_filter_header_le hgroups, hprec.imp Precedes.stop_le,
    fun v hv => ?_⟩
  · obtain ⟨name, -, vs, hv, hgroup⟩ := exists_group hgroups hv
    exact h.ne (hgroup.wide v hv)
  · obtain ⟨name, hname, vs, hv, hgroup⟩ := exists_group hgroups hv
    rwa [hgroup.named v hv]
  · obtain ⟨name, -, vs, hv, hgroup⟩ := exists_group hgroups hv
    simp only [offsetAt_eq_ok_iff, hgroup.named v hv]
    exact ⟨hgroup.start v hv, hgroup.stop v hv⟩

end Checks

end SourceStyle
