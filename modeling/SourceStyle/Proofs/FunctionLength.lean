import SourceStyle.Proofs.LineReading
import SourceStyle.Proofs.Reports

/-!
# Functions that are too long

A match of the rule runs from an opening brace to the first line behind it that starts with a closing
one, with at least 21 lines in between (`LongFrom`). So overlapping matches end at the same line, and
the rule reports for each closing line the first brace since the closing line before it, if that is
far enough away (`longBody`).
-/

namespace SourceStyle

namespace FunctionLength

open Text

/-- The last line before line `j` that starts with a closing brace, or the first line if there is
none. -/
def lastClosing (lines : List Text) : Nat → Nat
  | 0 => 0
  | j + 1 => if charAt? lines j 0 = some '\x7d' then j else lastClosing lines j

/-- The line and the column of the first opening brace on the lines from `p` up to the one before
`j`. -/
def firstOpening (lines : List Text) (p j : Nat) : Option (Nat × Nat) :=
  ((List.range' p (j - p)).find? fun i => '\x7b' ∈ lines.getD i []).map fun i =>
    (i, (lines.getD i []).idxOf '\x7b')

/-- From a column of line `i` to the column behind the brace that starts line `j`. -/
def bodySpan {i j : Nat} (c : Nat) (h : i < j) : Span :=
  ⟨⟨i, c⟩, ⟨j, 1⟩, .inl (Int.ofNat_lt.2 h)⟩

/-- What is reported for line `j`: nothing unless it starts with a closing brace, and then the span
from the first brace since the closing line before it, if at least 21 lines lie in between. -/
def longBody (lines : List Text) (j : Nat) : Option Span :=
  if charAt? lines j 0 = some '\x7d' then
    match firstOpening lines (lastClosing lines j) j with
    | some (i, c) =>
      if h : 21 ≤ j - i - 1 then some (bodySpan c (show i < j by omega)) else none
    | none => none
  else none

/-! ## Braces by lines -/

variable {lines : List Text} {i c j : Nat}

/-- A brace at column `c` of line `i`, and the first closing line behind it, line `j`, with at least
21 lines in between. -/
structure LongFrom (lines : List Text) (i c j : Nat) : Prop where
  opens : charAt? lines i c = some '\x7b'
  closes : charAt? lines j 0 = some '\x7d'
  long : i + 22 ≤ j
  inner : ∀ k, i < k → k < j → charAt? lines k 0 ≠ some '\x7d'

theorem lastClosing_le (lines : List Text) : ∀ j, lastClosing lines j ≤ j
  | 0 => Nat.le_refl 0
  | j + 1 => by
    have ih := lastClosing_le lines j
    unfold lastClosing
    split <;> omega

theorem not_closes_of_lastClosing_lt : ∀ {j k : Nat}, lastClosing lines j < k → k < j →
    charAt? lines k 0 ≠ some '\x7d'
  | 0, k, _, hk => by omega
  | j + 1, k, h, hk => by
    unfold lastClosing at h
    split at h
    · omega
    · rename_i hj
      rcases Nat.eq_or_lt_of_le (Nat.le_of_lt_succ hk) with rfl | hlt
      · exact hj
      · exact not_closes_of_lastClosing_lt h hlt

theorem lastClosing_le_of_inner : ∀ {j : Nat}, i < j →
    (∀ k, i < k → k < j → charAt? lines k 0 ≠ some '\x7d') → lastClosing lines j ≤ i
  | 0, hj, _ => by omega
  | j + 1, hj, h => by
    unfold lastClosing
    rcases Nat.eq_or_lt_of_le (Nat.le_of_lt_succ hj) with rfl | hlt
    · split
      · exact Nat.le_refl _
      · exact lastClosing_le lines _
    · rw [if_neg (h j hlt (Nat.lt_succ_self j))]
      exact lastClosing_le_of_inner hlt fun k hk hk' => h k hk (by omega)

theorem charAt?_eq_getD : charAt? lines i c = (lines.getD i [])[c]? := by
  rw [charAt?, List.getD_eq_getElem?_getD]
  cases lines[i]? <;> simp

theorem idxOf_le {l : Text} {x : Char} (h : l[c]? = some x) : l.idxOf x ≤ c := by
  obtain ⟨hc, rfl⟩ := List.getElem?_eq_some_iff.1 h
  by_contra hlt
  have := List.not_of_lt_findIdx (Nat.lt_of_not_le hlt)
  simp at this

theorem firstOpening_eq_some_iff {p : Nat} : firstOpening lines p j = some (i, c)
    ↔ p ≤ i ∧ i < j ∧ charAt? lines i c = some '\x7b'
      ∧ ∀ i' c', p ≤ i' → charAt? lines i' c' = some '\x7b' → i < i' ∨ i = i' ∧ c ≤ c' := by
  simp only [firstOpening, Option.map_eq_some_iff, List.find?_range'_eq_some, Prod.mk.injEq,
    decide_eq_true_eq, List.mem_range'_1, charAt?_eq_getD]
  constructor
  · rintro ⟨i, ⟨hmem, hi, hfirst⟩, rfl, rfl⟩
    refine ⟨by omega, by omega, List.getElem?_idxOf hmem, fun i' c' hp hc' => ?_⟩
    rcases Nat.lt_trichotomy i' i with hlt | rfl | hlt
    · have := hfirst i' hp hlt
      simp only [decide_eq_false_iff_not, Bool.not_eq_true'] at this
      exact absurd (List.mem_of_getElem? hc') this
    · exact .inr ⟨rfl, idxOf_le hc'⟩
    · exact .inl hlt
  · rintro ⟨hp, hj, hc, hfirst⟩
    have hmem := List.mem_of_getElem? hc
    refine ⟨i, ⟨hmem, by omega, fun i' hp' hlt => ?_⟩, rfl, ?_⟩
    · simp only [decide_eq_false_iff_not, Bool.not_eq_true']
      intro hmem'
      have := hfirst i' _ hp' (List.getElem?_idxOf hmem')
      omega
    · have h1 := idxOf_le hc
      have h2 := hfirst i _ hp (List.getElem?_idxOf hmem)
      omega

theorem longBody_eq_some_iff {s : Span} : longBody lines j = some s
    ↔ ∃ i c : Nat, s.start = ⟨i, c⟩ ∧ s.stop = ⟨j, 1⟩ ∧ LongFrom lines i c j
      ∧ ∀ i' c', LongFrom lines i' c' j → i < i' ∨ i = i' ∧ c ≤ c' := by
  have hstart := lastClosing_le lines j
  constructor
  · intro h
    unfold longBody at h
    split at h
    · rename_i hclose
      split at h
      · rename_i i c hfirst
        obtain ⟨hp, hij, hopen, hmin⟩ := firstOpening_eq_some_iff.1 hfirst
        split at h
        · obtain rfl := Option.some.inj h
          refine ⟨i, c, rfl, rfl, ⟨hopen, hclose, by omega, fun k hk => ?_⟩, fun i' c' h' => ?_⟩
          · exact not_closes_of_lastClosing_lt (by omega)
          · have hlen := h'.long
            exact hmin i' c' (lastClosing_le_of_inner (by omega) h'.inner) h'.opens
        · simp at h
      · simp at h
    · simp at h
  · rintro ⟨i, c, h1, h2, hlong, hmin⟩
    have hlen := hlong.long
    have hp := lastClosing_le_of_inner (by omega) hlong.inner
    have hfirst : firstOpening lines (lastClosing lines j) j = some (i, c) := by
      refine firstOpening_eq_some_iff.2 ⟨hp, by omega, hlong.opens, fun i' c' hp' hopen => ?_⟩
      by_contra hbefore
      refine hbefore (hmin i' c' ⟨hopen, hlong.closes, by omega, fun k hk => ?_⟩)
      exact not_closes_of_lastClosing_lt (by omega)
    simp only [longBody, if_pos hlong.closes, hfirst]
    rw [dif_pos (by omega), Option.some.injEq]
    exact Span.eq_of_ends h1.symm h2.symm

/-! ## The matches of the rule -/

open Pattern Rule

variable {t : Text} {s e : Nat}

/-- A line that does not start with a closing brace. -/
theorem readsLine_inner : (sequence [notAhead (char '\x7d'), star (noneOf ['\n']),
    char '\n']).ReadsLine (words fun w => '\n' ∉ w ∧ w.head? ≠ some '\x7d') :=
  readsLine_rest.notAhead (by decide)

theorem matches_functionTooLong_iff : functionTooLong.pattern.Matches t s e
    ↔ ∃ i c j, t.At s i c ∧ t.At e j 1 ∧ LongFrom t.lines i c j := by
  constructor
  · rintro ⟨_, ha, b, hb, d, hd, f, ⟨n, hn, -, hsteps⟩, hf⟩
    obtain ⟨hs, rfl⟩ := matches_char_iff.1 ha
    obtain ⟨he, rfl⟩ := matches_char_iff.1 hf
    obtain ⟨hslen, -⟩ := List.getElem?_eq_some_iff.1 hs
    obtain ⟨i, c, hat⟩ := exists_at (Nat.le_of_lt hslen)
    have hopen := (hat.getElem?_eq_some_iff (by decide)).1 hs
    have hnext := (matches_rest_iff (hat.succ hopen)).1 ⟨b, hb, hd⟩
    obtain ⟨hall, hlast⟩ := (readsLine_inner.steps hnext).1 hsteps
    have hclose := (hlast.getElem?_eq_some_iff (by decide)).1 he
    refine ⟨i, c, i + 1 + n, hat, hlast.succ hclose, hopen, hclose, by omega, fun k hk hk' => ?_⟩
    obtain ⟨l, hl, -, hhead⟩ := hall k hk hk'
    rwa [charAt?_of_getElem? hl, ← List.head?_eq_getElem?]
  · rintro ⟨i, c, j, hs, he, h⟩
    have hlen := he.lt_length_lines
    obtain ⟨n, rfl⟩ := Nat.exists_eq_add_of_le (show i + 1 ≤ j by have := h.long; omega)
    obtain ⟨d, hd⟩ := exists_at_lineStart (t := t) (k := i + 1) (by omega)
    obtain ⟨f, hf⟩ := exists_at_lineStart hlen
    obtain rfl := he.offset_unique (hf.succ h.closes)
    obtain ⟨b, hb, hbd⟩ := (matches_rest_iff (hs.succ h.opens)).2 hd
    have hsteps := (readsLine_inner.steps hd).2 ⟨fun k hk hk' => ?_, hf⟩
    · exact ⟨_, matches_char_iff.2 ⟨(hs.getElem?_eq_some_iff (by decide)).2 h.opens, rfl⟩, b, hb, d,
        hbd, f, ⟨n, by have := h.long; omega, by simp, hsteps⟩,
        matches_char_iff.2 ⟨(hf.getElem?_eq_some_iff (by decide)).2 h.closes, rfl⟩⟩
    · have hl := List.getElem?_eq_getElem (show k < t.lines.length by omega)
      have hhead := h.inner k hk hk'
      rw [charAt?_of_getElem? hl, ← List.head?_eq_getElem?] at hhead
      exact ⟨_, hl, not_mem_of_getElem?_lines hl, hhead⟩

theorem endsAlike_functionTooLong (t : Text) : functionTooLong.pattern.EndsAlike t := by
  intro a b d e had hbe hab hbd
  obtain ⟨i, c, j, ha, hd, h⟩ := matches_functionTooLong_iff.1 had
  obtain ⟨i', c', j', hb, he, h'⟩ := matches_functionTooLong_iff.1 hbe
  have hi : i ≤ i' := by
    have := hb.lt_iff ha
    omega
  have hi' : i' < j := by
    rcases (hb.lt_iff hd).1 hbd with hlt | ⟨rfl, hc⟩
    · exact hlt
    · obtain rfl : c' = 0 := by omega
      have := h'.opens.symm.trans h.closes
      simp at this
  -- Both closing lines come first behind `i'`.
  have hle : j ≤ j' := by
    by_contra hlt
    exact h.inner j' (by have := h'.long; omega) (by omega) h'.closes
  have hge : j' ≤ j := by
    by_contra hlt
    exact h'.inner j hi' (by omega) h.closes
  obtain rfl := Nat.le_antisymm hle hge
  exact hd.offset_unique he

/-- The matches that are reported are those from the first brace to its closing line. -/
theorem mem_findAll_functionTooLong_iff : (s, e) ∈ functionTooLong.pattern.findAll t
    ↔ ∃ i c j, t.At s i c ∧ t.At e j 1 ∧ LongFrom t.lines i c j
      ∧ ∀ i' c', LongFrom t.lines i' c' j → i < i' ∨ i = i' ∧ c ≤ c' := by
  rw [mem_findAll_iff (by decide) (endsAlike_functionTooLong t)]
  constructor
  · rintro ⟨-, hmatch, hfirst⟩
    obtain ⟨i, c, j, hs, he, h⟩ := matches_functionTooLong_iff.1 hmatch
    refine ⟨i, c, j, hs, he, h, fun i' c' h' => ?_⟩
    obtain ⟨a, ha⟩ := exists_at_of_charAt? h'.opens
    have hle := hfirst a
    rw [matches_functionTooLong_iff] at hle
    have hnot : ¬ a < s := fun hlt => hle hlt ⟨i', c', j, ha, he, h'⟩
    rw [ha.lt_iff hs] at hnot
    omega
  · rintro ⟨i, c, j, hs, he, h, hfirst⟩
    refine ⟨hs.le_length, matches_functionTooLong_iff.2 ⟨i, c, j, hs, he, h⟩, fun a ha hmatch => ?_⟩
    obtain ⟨i', c', j', ha', he', h'⟩ := matches_functionTooLong_iff.1 hmatch
    obtain ⟨rfl, -⟩ := he.position_unique he'
    have hbefore := (ha'.lt_iff hs).1 ha
    have := hfirst i' c' h'
    omega

/-- A span is that of a reported match if and only if its last line is one for which it is to be
reported. -/
theorem exists_mem_findAll_iff {s : Span} :
    (∃ m ∈ functionTooLong.pattern.findAll t, t.Located m.1 s.start ∧ t.Located m.2 s.stop)
      ↔ ∃ j < t.lines.length, longBody t.lines j = some s := by
  constructor
  · rintro ⟨⟨a, b⟩, hm, hstart, hstop⟩
    obtain ⟨i, c, j, ha, hb, h⟩ := mem_findAll_functionTooLong_iff.1 hm
    exact ⟨j, hb.lt_length_lines,
      longBody_eq_some_iff.2 ⟨i, c, hstart.unique ha, hstop.unique hb, h⟩⟩
  · rintro ⟨j, hj, h⟩
    obtain ⟨i, c, hstart, hstop, hlong, hfirst⟩ := longBody_eq_some_iff.1 h
    obtain ⟨a, ha⟩ := exists_at_of_charAt? hlong.opens
    obtain ⟨f, hf⟩ := exists_at_lineStart hj
    have hb := hf.succ hlong.closes
    refine ⟨(a, f + 1), mem_findAll_functionTooLong_iff.2 ⟨i, c, j, ha, hb, hlong, hfirst⟩, ?_⟩
    rw [hstart, hstop]
    exact ⟨ha, hb⟩

/-- A body starts on an earlier line than the one that it is reported for. -/
theorem line_of_longBody {s : Span} (h : longBody lines j = some s) :
    s.start.line < s.stop.line ∧ s.stop.line = j := by
  obtain ⟨i, c, hstart, hstop, hlong, -⟩ := longBody_eq_some_iff.1 h
  have hlen := hlong.long
  rw [hstart, hstop]
  exact ⟨Int.ofNat_lt.2 (by omega), rfl⟩

end FunctionLength

namespace Rule

open FunctionLength

/-- The spans that are reported are those of the bodies that are too long, one for each closing line
that ends one, in order. -/
theorem check_functionTooLong_exact (t : Text) : ∃ vs, functionTooLong.check t = .ok vs
    ∧ vs.map Violation.span = (List.range t.lines.length).filterMap (longBody t.lines) := by
  obtain ⟨vs, hvs, hmem, hordered⟩ := functionTooLong.check_spans t
  have hsame : ∀ s, s ∈ vs.map Violation.span
      ↔ s ∈ (List.range t.lines.length).filterMap (longBody t.lines) := by
    intro s
    simp only [hmem, exists_mem_findAll_iff, List.mem_filterMap, List.mem_range]
  refine ⟨vs, hvs, eq_of_pairwise_lt (fun s => s.stop.line) ?_ ?_ hsame⟩
  · refine hordered.imp_of_mem fun {s s'} _ hs' hle => ?_
    obtain ⟨j, -, hj⟩ := List.mem_filterMap.1 ((hsame s').1 hs')
    have hline := (line_of_longBody hj).1
    change s.stop.line < s'.start.line ∨ s.stop.line = s'.start.line ∧ _ at hle
    omega
  · refine List.pairwise_lt_range.filterMap _ fun j j' hlt s hs s' hs' => ?_
    rw [(line_of_longBody hs).2, (line_of_longBody hs').2]
    exact Int.ofNat_lt.2 hlt

/-- A closing line can open the next block. -/
example : longBody (['\x7b'] :: ['\x7d', '\x7b'] :: List.replicate 21 [] ++ [['\x7d']]) 23
    = some (bodySpan 1 (show 1 < 23 by decide)) := by decide

end Rule

end SourceStyle
