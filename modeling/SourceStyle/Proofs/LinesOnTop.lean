import SourceStyle.Proofs.BodyComment
import SourceStyle.Proofs.Seams

/-!
# Lines on top of a text

Whole lines on top of a text move its places down by their number and add nothing to its lines. So a
check that works line by line gives its reports for the lines on top and then those for the text,
further down, once no body is open between the two. A rule does the same when its matches split at the
seam, which for the standard rules needs no more than that the lines on top hold no opening brace and
no opening parenthesis.
-/

namespace SourceStyle

/-- The position `k` lines further down. -/
def Position.down (k : Nat) (p : Position) : Position := ⟨p.line + k, p.column⟩

theorem Position.down_le_down {p q : Position} (k : Nat) (h : p ≤ q) : p.down k ≤ q.down k := by
  change p.line + k < q.line + k ∨ p.line + k = q.line + k ∧ p.column ≤ q.column
  change p.line < q.line ∨ p.line = q.line ∧ p.column ≤ q.column at h
  omega

def Span.down (k : Nat) (s : Span) : Span :=
  ⟨s.start.down k, s.stop.down k, Position.down_le_down k s.ordered⟩

theorem Span.down_ofLine (k i length : Nat) : (ofLine i length).down k = ofLine (i + k) length := by
  simp [Span.down, Position.down, ofLine]

def Violation.down (k : Nat) (v : Violation) : Violation := { v with span := v.span.down k }

/-! ## Lines -/

namespace Text

variable {w t : Text}

theorem Closed.append {a b : Text} (ha : Closed a) (hb : Closed b) : Closed (a ++ b) := by
  intro c hc
  rw [List.getLast?_append, Option.mem_def, Option.or_eq_some_iff] at hc
  rcases hc with hc | ⟨-, hc⟩
  · exact hb c hc
  · exact ha c hc

/-- Whole lines are followed by an empty line, or by the lines of what stands behind them. -/
theorem exists_lines_of_closed (hw : Closed w) : ∃ ls : List Text, ls.length = w.count '\n'
    ∧ w.lines = ls ++ [[]] ∧ ∀ t, (w ++ t).lines = ls ++ t.lines := by
  induction w using byLines with
  | last a ha =>
    obtain rfl := hw.eq_nil ha
    exact ⟨[], rfl, rfl, fun t => rfl⟩
  | more a b ha ih =>
    obtain ⟨ls, hlen, hlines, happend⟩ := ih ((closed_append_newline_iff a b).1 hw)
    refine ⟨a :: ls, ?_, ?_, fun t => ?_⟩
    · simp [hlen, List.count_eq_zero_of_not_mem ha]
    · rw [lines_append_newline b ha, hlines]
      rfl
    · rw [List.append_assoc, List.cons_append, lines_append_newline _ ha, happend]
      rfl

theorem mem_of_mem_lines {l : Text} (hl : l ∈ t.lines) {x : Char} (hx : x ∈ l) : x ∈ t := by
  obtain ⟨n, hn⟩ := List.mem_iff_getElem?.1 hl
  obtain ⟨w, rest, rfl, -⟩ := exists_of_getElem?_lines hn
  simp [hx]

theorem Located.append_before {o : Nat} {p : Position} (h : w.Located o p) (t : Text) :
    (w ++ t).Located o p := by
  obtain ⟨hw, hclosed, hpart⟩ := h
  exact .intro (by rw [hw, List.append_assoc, List.append_assoc]) hclosed hpart

theorem Located.append_behind {o : Nat} {p : Position} (hw : Closed w) (h : t.Located o p) :
    (w ++ t).Located (w.length + o) (p.down (w.count '\n')) := by
  obtain ⟨ht, hclosed, hpart⟩ := h
  rename_i v part rest
  have hloc := Located.intro (t := w ++ t) (by rw [ht, List.append_assoc]) (hw.append hclosed) hpart
  rw [List.length_append, List.count_append, Nat.add_assoc] at hloc
  have hline : ((w.count '\n' + v.count '\n' : Nat) : Int) = v.count '\n' + w.count '\n' := by
    omega
  rwa [hline] at hloc

end Text

/-! ## Checks by lines -/

namespace LineLength

variable (limits : LineLength)

theorem longLinesFrom_append (i : Nat) (a b : List Text) :
    limits.longLinesFrom i (a ++ b)
      = limits.longLinesFrom i a ++ limits.longLinesFrom (i + a.length) b := by
  simp only [longLinesFrom, List.zipIdx_append, List.filter_append, List.map_append]

theorem violation_down (k i length : Nat) :
    (limits.violation i length).down k = limits.violation (i + k) length := by
  simp only [Violation.down, violation, Span.down_ofLine]

theorem longLinesFrom_down (k : Nat) : ∀ (i : Nat) (lines : List Text),
    limits.longLinesFrom (i + k) lines = (limits.longLinesFrom i lines).map (Violation.down k)
  | i, [] => rfl
  | i, line :: lines => by
    have ih := longLinesFrom_down k (i + 1) lines
    rw [Nat.add_right_comm] at ih
    rw [longLinesFrom_cons, longLinesFrom_cons, ih, List.map_append]
    split_ifs
    · rw [List.map_singleton, violation_down]
    · rfl

theorem longLines_append {w : Text} (hw : w.Closed) (hmax : 0 ≤ limits.maxColumns) (t : Text) :
    limits.longLines (w ++ t).lines = limits.longLines w.lines
      ++ (limits.longLines t.lines).map (Violation.down (w.count '\n')) := by
  obtain ⟨ls, hlen, hlines, happend⟩ := Text.exists_lines_of_closed hw
  have hempty : limits.longLinesFrom (0 + ls.length) [[]] = [] := by
    simp [longLinesFrom, IsLong, columns, hmax]
  rw [longLines, longLines, longLines, happend, hlines, longLinesFrom_append, longLinesFrom_append,
    hempty, hlen, longLinesFrom_down, List.append_nil]

end LineLength

namespace BodyComment

theorem checkFrom_append : ∀ (inside : Bool) (i : Nat) (a b : List Text),
    checkFrom inside i (a ++ b)
      = checkFrom inside i a ++ checkFrom (a.foldl opened inside) (i + a.length) b
  | inside, i, [], b => rfl
  | inside, i, line :: a, b => by
    have ih := checkFrom_append (opened inside line) (i + 1) a b
    rw [Nat.add_assoc, Nat.add_comm 1] at ih
    simp only [List.cons_append, checkFrom, ih, List.length_cons, List.foldl_cons]
    split <;> rfl

theorem violation_down (k i : Nat) (line : Text) :
    (violation i line).down k = violation (i + k) line := by
  simp only [Violation.down, violation, Span.down_ofLine]

theorem checkFrom_down (k : Nat) : ∀ (inside : Bool) (i : Nat) (lines : List Text),
    checkFrom inside (i + k) lines = (checkFrom inside i lines).map (Violation.down k)
  | inside, i, [] => rfl
  | inside, i, line :: lines => by
    have ih := checkFrom_down k (opened inside line) (i + 1) lines
    rw [Nat.add_right_comm] at ih
    simp only [checkFrom, ih]
    split
    · rw [List.map_cons, violation_down]
    · rfl

theorem foldl_opened_of_not_mem : ∀ {lines : List Text}, (∀ l ∈ lines, '\x7b' ∉ l) →
    lines.foldl opened false = false
  | [], _ => rfl
  | line :: lines, h => by
    rw [List.forall_mem_cons] at h
    have hopened : opened false line = false := by
      rw [Bool.eq_false_iff, ne_eq, opened_iff]
      simpa using fun hhead => h.1 (List.mem_of_head? hhead)
    rw [List.foldl_cons, hopened]
    exact foldl_opened_of_not_mem h.2

theorem check_append {w : Text} (hw : w.Closed) (hbrace : '\x7b' ∉ w) (t : Text) :
    check (w ++ t).lines = check w.lines ++ (check t.lines).map (Violation.down (w.count '\n')) := by
  obtain ⟨ls, hlen, hlines, happend⟩ := Text.exists_lines_of_closed hw
  have hclosed : ls.foldl opened false = false := by
    refine foldl_opened_of_not_mem fun l hl hmem => hbrace ?_
    exact Text.mem_of_mem_lines (by simp [hlines, hl]) hmem
  have hempty : checkFrom false (0 + ls.length) [[]] = [] := rfl
  rw [check, check, check, happend, hlines, checkFrom_append, checkFrom_append, hclosed, hempty, hlen,
    checkFrom_down, List.append_nil]

end BodyComment

/-! ## Rules -/

namespace Rule

open Pattern

variable {w : Text}

theorem check_append {r : Rule} (hwide : 0 < r.pattern.minWidth)
    (hforward : r.pattern.Forward = true) (hsplits : r.pattern.Splits w) (hw : w.Closed) (t : Text) :
    ∃ vs us, r.check w = .ok vs ∧ r.check t = .ok us
      ∧ r.check (w ++ t) = .ok (vs ++ us.map (Violation.down (w.count '\n'))) := by
  obtain ⟨vs, hvs, hall⟩ := r.check_eq_ok w
  obtain ⟨us, hus, hall'⟩ := r.check_eq_ok t
  refine ⟨vs, us, hvs, hus, check_eq_ok_iff.2 ?_⟩
  rw [findAll_append hwide hforward hsplits]
  refine List.rel_append (hall.imp fun m v h => ?_)
    (List.forall₂_map_left_iff.2 (List.forall₂_map_right_iff.2 (hall'.imp fun m v h => ?_)))
  · exact ⟨h.start.append_before t, h.stop.append_before t, h.rule, h.message, h.severity⟩
  · exact ⟨h.start.append_behind hw, h.stop.append_behind hw, h.rule, h.message, h.severity⟩

theorem forward_standard : ∀ r ∈ standard, r.pattern.Forward = true := by decide

/-- A rule reads no newline, or its matches start with an opening brace or parenthesis. -/
theorem splits_standard (hw : w.Closed) (hbrace : '\x7b' ∉ w) (hparen : '(' ∉ w) :
    ∀ r ∈ standard, r.pattern.Splits w := by
  simp only [standard, List.forall_mem_cons]
  refine ⟨splits_of_staysInLine (by decide) hw, splits_of_staysInLine (by decide) hw,
    splits_of_start (fun t i j h => ?_) hbrace, splits_of_staysInLine (by decide) hw,
    splits_of_start (fun t i j h => ?_) hbrace, splits_of_staysInLine (by decide) hw,
    splits_of_start (fun t i j h => ?_) hparen, by simp⟩
  · obtain ⟨_, ⟨rfl, _, _, h, -⟩, -⟩ := h
    exact (matches_char_iff.1 h).1
  · obtain ⟨_, h, -⟩ := h
    exact (matches_char_iff.1 h).1
  · obtain ⟨_, h, -⟩ := h
    exact (matches_char_iff.1 h).1

end Rule

namespace Checks

/-- Whole lines on top of a text that hold no opening brace and no opening parenthesis only move its
reports down, behind the reports on the lines themselves. -/
theorem checks_append_of_closed (w t : Text) (hw : w.Closed) (hbrace : '\x7b' ∉ w)
    (hparen : '(' ∉ w) :
    (∃ vs us, LineLength.check {} w.lines = .ok vs ∧ LineLength.check {} t.lines = .ok us
        ∧ LineLength.check {} (w ++ t).lines = .ok (vs ++ us.map (Violation.down (w.count '\n'))))
      ∧ BodyComment.check (w ++ t).lines = BodyComment.check w.lines
        ++ (BodyComment.check t.lines).map (Violation.down (w.count '\n'))
      ∧ ∀ r ∈ Rule.standard, ∃ vs us, r.check w = .ok vs ∧ r.check t = .ok us
        ∧ r.check (w ++ t) = .ok (vs ++ us.map (Violation.down (w.count '\n'))) := by
  refine ⟨⟨_, _, LineLength.check_of_inRange .default _, LineLength.check_of_inRange .default _, ?_⟩,
    BodyComment.check_append hw hbrace t, fun r hr => ?_⟩
  · rw [← LineLength.longLines_append {} hw (by decide) t]
    exact LineLength.check_of_inRange .default _
  · exact Rule.check_append (Rule.minWidth_standard r hr) (Rule.forward_standard r hr)
      (Rule.splits_standard hw hbrace hparen r hr) hw t

/-- A comment in a body, reported on its second line, is reported on the fourth one below two lines. -/
theorem checks_below_two_lines :
    let w : Text := ['/', '*', ' ', '\n', '*', '/', '\n']
    let t : Text := ['\x7b', '\n', '/', '/', ' ']
    w.Closed ∧ '\x7b' ∉ w ∧ '(' ∉ w
      ∧ BodyComment.check t.lines = [BodyComment.violation 1 ['/', '/', ' ']]
      ∧ BodyComment.check (w ++ t).lines = [BodyComment.violation 3 ['/', '/', ' ']]
      ∧ Rule.commentInFunction ∈ Rule.standard
      ∧ ∃ vs us, Rule.commentInFunction.check w = .ok vs ∧ Rule.commentInFunction.check t = .ok us
        ∧ Rule.commentInFunction.check (w ++ t) = .ok (vs ++ us.map (Violation.down 2)) := by
  intro w t
  have hw : w.Closed := by simp [w, Text.Closed]
  have hbrace : '\x7b' ∉ w := by decide
  have hparen : '(' ∉ w := by decide
  have hmem : Rule.commentInFunction ∈ Rule.standard := by simp [Rule.standard]
  have hbody : BodyComment.check t.lines = [BodyComment.violation 1 ['/', '/', ' ']] := rfl
  obtain ⟨-, hcomments, hrules⟩ := checks_append_of_closed w t hw hbrace hparen
  refine ⟨hw, hbrace, hparen, hbody, ?_, hmem, hrules _ hmem⟩
  rw [hcomments, hbody]
  rfl

end Checks

end SourceStyle
