import Mathlib.Data.List.Sort
import SourceStyle.Proofs.Excerpt

/-!
# The violations of rules and scans

A rule reports one violation for each match, so its spans are those of the matches and lie one behind
another (`Rule.check_spans`), and the matches settle what it reports (`Rule.check_eq_ok_iff`). What the
rules of a scan report stands for the matches of these rules (`Checks.scanRules_reports`) and comes
behind what the checks of lines report (`scan_of_ne_nil`), unless these refuse the text.
-/

namespace SourceStyle

/-! ## Lists that correspond -/

section Forall₂

variable {α β : Type} {R : α → β → Prop}

theorem exists_left_of_mem {l : List α} {l' : List β} (h : List.Forall₂ R l l') {b : β}
    (hb : b ∈ l') : ∃ a ∈ l, R a b := by
  induction h with
  | nil => simp at hb
  | cons hab hl ih =>
    rcases List.mem_cons.1 hb with rfl | hb
    · exact ⟨_, List.mem_cons_self, hab⟩
    · obtain ⟨a, ha, hR⟩ := ih hb
      exact ⟨a, List.mem_cons_of_mem _ ha, hR⟩

theorem exists_right_of_mem {l : List α} {l' : List β} (h : List.Forall₂ R l l') {a : α}
    (ha : a ∈ l) : ∃ b ∈ l', R a b :=
  exists_left_of_mem h.flip ha

theorem pairwise_of_forall₂ {S : α → α → Prop} {T : β → β → Prop} {l : List α} {l' : List β}
    (h : List.Forall₂ R l l') (hl : l.Pairwise S)
    (hST : ∀ a b a' b', R a a' → R b b' → S a b → T a' b') : l'.Pairwise T := by
  induction h with
  | nil => exact .nil
  | cons hab htail ih =>
    rw [List.pairwise_cons] at hl ⊢
    refine ⟨fun b' hb' => ?_, ih hl.2⟩
    obtain ⟨b, hb, hR⟩ := exists_left_of_mem htail hb'
    exact hST _ _ _ _ hab hR (hl.1 b hb)

end Forall₂

/-- Lists with the same members, both in increasing order, are the same. -/
theorem eq_of_pairwise_lt {α : Type} (f : α → Int) {l l' : List α} (hl : l.Pairwise (f · < f ·))
    (hl' : l'.Pairwise (f · < f ·)) (h : ∀ a, a ∈ l ↔ a ∈ l') : l = l' := by
  have hanti : Std.Antisymm fun a b : α => f a < f b := ⟨fun a b hab hba => by omega⟩
  have hirrefl : Std.Irrefl fun a b : α => f a < f b := ⟨fun a => Int.lt_irrefl (f a)⟩
  exact hl.eq_of_mem_iff hl' h

theorem pairwise_zipIdx {α : Type} (l : List α) (n : Nat) :
    (l.zipIdx n).Pairwise (fun x y => x.2 < y.2) := by
  rw [← List.pairwise_map (f := Prod.snd), List.zipIdx_map_snd]
  exact List.pairwise_lt_range'

theorem Span.eq_of_ends : ∀ {s s' : Span}, s.start = s'.start → s.stop = s'.stop → s = s'
  | ⟨_, _, _⟩, ⟨_, _, _⟩, rfl, rfl => rfl

namespace Rule

/-- The spans that a rule reports are those of its matches, each behind the one before. -/
theorem check_spans (r : Rule) (t : Text) : ∃ vs, r.check t = .ok vs
    ∧ (∀ s, s ∈ vs.map Violation.span
      ↔ ∃ m ∈ r.pattern.findAll t, t.Located m.1 s.start ∧ t.Located m.2 s.stop)
    ∧ (vs.map Violation.span).Pairwise fun s s' => s.stop ≤ s'.start := by
  obtain ⟨vs, hvs, hall⟩ := r.check_eq_ok t
  refine ⟨vs, hvs, fun s => ?_, ?_⟩
  · rw [List.mem_map]
    constructor
    · rintro ⟨v, hv, rfl⟩
      obtain ⟨m, hm, hr⟩ := exists_left_of_mem hall hv
      exact ⟨m, hm, hr.start, hr.stop⟩
    · rintro ⟨m, hm, hstart, hstop⟩
      obtain ⟨v, hv, hr⟩ := exists_right_of_mem hall hm
      exact ⟨v, hv, Span.eq_of_ends (hr.start.unique hstart) (hr.stop.unique hstop)⟩
  · rw [List.pairwise_map]
    refine pairwise_of_forall₂ hall (Pattern.foundFrom_findAll r.pattern t).ordered ?_
    intro m m' v v' hr hr' hfollows
    exact (hr.stop.le_iff hr'.start).2 hfollows.1

variable {r : Rule} {t : Text}

/-- What a rule reports at a span. -/
def violation (r : Rule) (s : Span) : Violation := ⟨s, r.message, r.name, r.severity⟩

theorem Reports.eq_violation {m : Nat × Nat} {v : Violation} (h : r.Reports t m v) :
    r.violation v.span = v := by
  obtain ⟨span, message, rule, severity⟩ := v
  obtain ⟨-, -, rfl, rfl, rfl⟩ := h
  rfl

theorem Reports.unique {m : Nat × Nat} {v v' : Violation} (h : r.Reports t m v)
    (h' : r.Reports t m v') : v = v' := by
  rw [← h.eq_violation, ← h'.eq_violation,
    Span.eq_of_ends (h.start.unique h'.start) (h.stop.unique h'.stop)]

theorem check_eq_ok_iff {vs : List Violation} :
    r.check t = .ok vs ↔ List.Forall₂ (r.Reports t) (r.pattern.findAll t) vs := by
  obtain ⟨us, hus, hall⟩ := r.check_eq_ok t
  rw [hus, Except.ok.injEq]
  constructor
  · rintro rfl
    exact hall
  · exact List.right_unique_forall₂' (fun _ _ _ h h' => h.unique h') hall

/-- To list the violations of a rule it is enough to list the spans of its matches in order. -/
theorem check_eq_ok_of_spans {spans : List Span} (hwide : 0 < r.pattern.minWidth)
    (hmem : ∀ s, s ∈ spans
      ↔ ∃ m ∈ r.pattern.findAll t, t.Located m.1 s.start ∧ t.Located m.2 s.stop)
    (hordered : spans.Pairwise fun s s' => s.start.Before s'.start) :
    r.check t = .ok (spans.map r.violation) := by
  obtain ⟨vs, hvs, hsame, -⟩ := r.check_spans t
  have hall := check_eq_ok_iff.1 hvs
  have hbefore : (vs.map Violation.span).Pairwise fun s s' => s.start.Before s'.start := by
    rw [List.pairwise_map]
    refine pairwise_of_forall₂ hall
      ((Pattern.foundFrom_findAll r.pattern t).pairwise_start_lt hwide) ?_
    intro m m' v v' hr hr' hlt
    exact hr.start.before hr'.start hlt
  have hanti : Std.Antisymm fun s s' : Span => s.start.Before s'.start :=
    ⟨fun s s' h h' => by unfold Position.Before at h h'; omega⟩
  have hirrefl : Std.Irrefl fun s s' : Span => s.start.Before s'.start :=
    ⟨fun s h => by unfold Position.Before at h; omega⟩
  have hspans : vs.map Violation.span = spans :=
    hbefore.eq_of_mem_iff hordered fun s => (hsame s).trans (hmem s).symm
  have hvs' : (vs.map Violation.span).map r.violation = vs := by
    rw [List.map_map]
    refine (List.map_congr_left fun v hv => ?_).trans (List.map_id vs)
    obtain ⟨m, -, hr⟩ := exists_left_of_mem hall hv
    exact hr.eq_violation
  rw [hvs, ← hspans, hvs']

end Rule

namespace Checks

variable {checks : Checks} {t : Text} {vs : List Violation}

/-- There is a text, and a line of it that cannot be measured or reported. -/
def Refuses (checks : Checks) (t : Text) : Prop := t ≠ [] ∧ checks.limits.Refuses t.lines

theorem not_refuses_of_inRange (h : checks.limits.InRange) (t : Text) : ¬checks.Refuses t :=
  fun hrefuses => h.not_refuses _ hrefuses.2

theorem not_refuses_standard (t : Text) : ¬standard.Refuses t :=
  not_refuses_of_inRange .default t

theorem scan_of_ne_nil (ht : t ≠ []) (hlines : ¬checks.Refuses t)
    (h : scanRules checks.rules t = .ok vs) :
    checks.scan t = .ok (lineReports checks.limits t ++ vs) :=
  scanWith_of_not_refuses ht (fun hrefuses => hlines ⟨ht, hrefuses⟩) h

theorem scan_of_refuses (h : checks.Refuses t) : ∃ e, checks.scan t = .error (.length e) :=
  scanWith_of_refuses _ h.1 h.2

/-- The rules give a result, in which every violation stands for a match of a rule. -/
theorem scanRules_reports (rules : List Rule) (t : Text) : ∃ vs, scanRules rules t = .ok vs
    ∧ ∀ v ∈ vs, ∃ r ∈ rules, ∃ m ∈ r.pattern.findAll t, r.Reports t m v := by
  obtain ⟨vss, hvss, hall⟩ := scanRules_eq_ok rules t
  refine ⟨_, hvss, fun v hv => ?_⟩
  obtain ⟨vs, hvs, hv⟩ := List.mem_flatten.1 hv
  obtain ⟨r, hr, hreports⟩ := exists_left_of_mem hall hvs
  obtain ⟨m, hm, hv⟩ := exists_left_of_mem hreports hv
  exact ⟨r, hr, m, hm, hv⟩

end Checks

end SourceStyle
