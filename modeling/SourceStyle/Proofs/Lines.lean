import SourceStyle.Text

/-!
# The lines of a text

A text is a line, or a line, a newline and a text. `Text.byLines` is the induction that follows, and
the facts on `lines`, `fromLine` and `firstLine` are read off its two cases.

A text is closed when it is empty or ends in a newline, that is, when it consists of whole lines.
What stands before a line is closed (`exists_of_getElem?_lines`), and the number of the line is the
number of newlines in it (`fromLine_append`).
-/

namespace SourceStyle

namespace Text

/-- Induction on the lines of a text, the first one first. -/
@[elab_as_elim]
theorem byLines {motive : Text → Prop} (last : ∀ a, '\n' ∉ a → motive a)
    (more : ∀ a b, '\n' ∉ a → motive b → motive (a ++ '\n' :: b)) (t : Text) : motive t := by
  suffices h : ∀ a : Text, '\n' ∉ a → motive (a ++ t) by simpa using h [] (by simp)
  induction t with
  | nil =>
    intro a ha
    simpa using last a ha
  | cons c t ih =>
    intro a ha
    by_cases hc : c = '\n'
    · subst hc
      exact more a t ha (by simpa using ih [] (by simp))
    · rw [List.append_cons]
      exact ih (a ++ [c]) (by simp [ha, Ne.symm hc])

theorem lines_of_not_mem : ∀ {a : Text}, '\n' ∉ a → a.lines = [a]
  | [], _ => rfl
  | c :: a, h => by
    simp only [List.mem_cons, not_or] at h
    have ih := lines_of_not_mem h.2
    simp only [lines] at ih
    simp [lines, pieces, Ne.symm h.1, ih, onFirst]

theorem lines_append_newline : ∀ {a : Text} (b : Text), '\n' ∉ a →
    (a ++ '\n' :: b).lines = a :: b.lines
  | [], b, _ => by simp [lines, pieces]
  | c :: a, b, h => by
    simp only [List.mem_cons, not_or] at h
    have ih := lines_append_newline b h.2
    simp only [lines] at ih
    simp [lines, pieces, Ne.symm h.1, ih, onFirst]

theorem length_lines (t : Text) : t.lines.length = t.count '\n' + 1 := by
  induction t using byLines with
  | last a ha => simp [lines_of_not_mem ha, List.count_eq_zero_of_not_mem ha]
  | more a b ha ih =>
    simp [lines_append_newline b ha, List.count_eq_zero_of_not_mem ha, ih]

theorem lines_ne_nil (t : Text) : t.lines ≠ [] := by
  intro h
  have := length_lines t
  simp [h] at this

/-! ## The text from a line on -/

theorem afterNewline_of_not_mem : ∀ {a : Text}, '\n' ∉ a → a.afterNewline = none
  | [], _ => rfl
  | c :: a, h => by
    simp only [List.mem_cons, not_or] at h
    simp [afterNewline, Ne.symm h.1, afterNewline_of_not_mem h.2]

theorem afterNewline_append_newline : ∀ {a : Text} (b : Text), '\n' ∉ a →
    afterNewline (a ++ '\n' :: b) = some b
  | [], b, _ => by simp [afterNewline]
  | c :: a, b, h => by
    simp only [List.mem_cons, not_or] at h
    simp [afterNewline, Ne.symm h.1, afterNewline_append_newline b h.2]

theorem firstLine_append {a : Text} (b : Text) (h : '\n' ∉ a) :
    firstLine (a ++ b) = a ++ firstLine b := by
  refine List.takeWhile_append_of_pos fun c hc => ?_
  have hne : c ≠ '\n' := fun hc' => h (hc' ▸ hc)
  simpa using hne

theorem firstLine_of_not_mem {a : Text} (h : '\n' ∉ a) : a.firstLine = a := by
  simpa [firstLine] using firstLine_append [] h

theorem firstLine_append_newline {a : Text} (b : Text) (h : '\n' ∉ a) :
    firstLine (a ++ '\n' :: b) = a := by
  rw [firstLine_append _ h]
  simp [firstLine]

theorem not_mem_firstLine (t : Text) : '\n' ∉ t.firstLine := by
  intro h
  simpa using List.all_eq_true.1 List.all_takeWhile _ h

/-- A text is its first line and nothing, or a rest that starts with the newline. -/
theorem firstLine_append_rest (t : Text) :
    ∃ rest, t = t.firstLine ++ rest ∧ firstLine rest = [] := by
  refine ⟨t.dropWhile (· ≠ '\n'), (List.takeWhile_append_dropWhile).symm, ?_⟩
  have h := List.head?_dropWhile_not (· ≠ '\n') t
  rcases hr : t.dropWhile (· ≠ '\n') with _ | ⟨c, r⟩
  · rfl
  · rw [hr] at h
    simpa [firstLine, List.takeWhile_cons] using h

/-- The first line of what stands from a line on is that line. -/
theorem map_firstLine_fromLine (t : Text) : ∀ n, (t.fromLine n).map firstLine = t.lines[n]? := by
  induction t using byLines with
  | last a ha =>
    intro n
    rw [lines_of_not_mem ha]
    cases n with
    | zero => simp [fromLine, firstLine_of_not_mem ha]
    | succ n => simp [fromLine, afterNewline_of_not_mem ha]
  | more a b ha ih =>
    intro n
    rw [lines_append_newline b ha]
    cases n with
    | zero => simp [fromLine, firstLine_append_newline b ha]
    | succ n => simpa [fromLine, afterNewline_append_newline b ha] using ih n

/-! ## Whole lines -/

/-- A text of whole lines: empty, or ending in a newline. -/
def Closed (s : Text) : Prop := ∀ c ∈ s.getLast?, c = '\n'

theorem closed_nil : Closed [] := by simp [Closed]

theorem closed_append_newline_iff (a w : Text) : Closed (a ++ '\n' :: w) ↔ Closed w := by
  rcases w with _ | ⟨c, w⟩
  · simp [Closed]
  · simp [Closed, List.getLast?_append, List.getLast?_cons]

theorem Closed.eq_nil {w : Text} (h : Closed w) (hw : '\n' ∉ w) : w = [] := by
  rcases hl : w.getLast? with _ | c
  · simpa using hl
  · exact absurd (h c hl ▸ List.mem_of_getLast? hl) hw

/-- Every text is whole lines and a part of one more. -/
theorem exists_closed_append (t : Text) : ∃ w part, t = w ++ part ∧ Closed w ∧ '\n' ∉ part := by
  induction t using byLines with
  | last a ha => exact ⟨[], a, rfl, closed_nil, ha⟩
  | more a b ha ih =>
    obtain ⟨w, part, rfl, hw, hp⟩ := ih
    exact ⟨a ++ '\n' :: w, part, by simp, (closed_append_newline_iff a w).2 hw, hp⟩

/-- Behind whole lines stands the line whose number is their number. -/
theorem fromLine_append {w : Text} (hw : Closed w) (t : Text) :
    fromLine (w.count '\n') (w ++ t) = some t := by
  induction w using byLines with
  | last a ha => simp [hw.eq_nil ha, fromLine]
  | more a b ha ih =>
    have hb := (closed_append_newline_iff a b).1 hw
    simp [List.count_eq_zero_of_not_mem ha, fromLine, afterNewline_append_newline _ ha, ih hb]

theorem exists_of_fromLine (t : Text) : ∀ {n : Nat} {rest : Text}, t.fromLine n = some rest →
    ∃ w, t = w ++ rest ∧ Closed w ∧ w.count '\n' = n := by
  induction t using byLines with
  | last a ha =>
    intro n rest h
    cases n with
    | zero => exact ⟨[], by simpa [fromLine] using h, closed_nil, rfl⟩
    | succ n => simp [fromLine, afterNewline_of_not_mem ha] at h
  | more a b ha ih =>
    intro n rest h
    cases n with
    | zero => exact ⟨[], by simpa [fromLine] using h, closed_nil, rfl⟩
    | succ n =>
      simp only [fromLine, afterNewline_append_newline b ha, Option.bind_some] at h
      obtain ⟨w, rfl, hw, hn⟩ := ih h
      refine ⟨a ++ '\n' :: w, by simp, (closed_append_newline_iff a w).2 hw, ?_⟩
      simp [List.count_eq_zero_of_not_mem ha, hn]

/-- A line of a text stands behind as many whole lines as its number says. -/
theorem exists_of_getElem?_lines {t line : Text} {n : Nat} (h : t.lines[n]? = some line) :
    ∃ w rest, t = w ++ (line ++ rest) ∧ Closed w ∧ w.count '\n' = n ∧ '\n' ∉ line ∧
      firstLine rest = [] := by
  rw [← map_firstLine_fromLine] at h
  obtain ⟨tail, ht, rfl⟩ := Option.map_eq_some_iff.1 h
  obtain ⟨w, hw, hc, hn⟩ := exists_of_fromLine t ht
  obtain ⟨rest, hr, hf⟩ := firstLine_append_rest tail
  exact ⟨w, rest, by rw [← hr, hw], hc, hn, not_mem_firstLine tail, hf⟩

theorem slice_append (w line rest : Text) :
    slice (w ++ (line ++ rest)) w.length (w.length + line.length) = line := by
  simp [slice, List.take_append]

/-- The lines up to the one that a place is on, put together again. -/
theorem intercalate_take_lines {w line rest : Text} (hw : Closed w) (hl : '\n' ∉ line)
    (hr : firstLine rest = []) :
    ['\n'].intercalate ((w ++ (line ++ rest)).lines.take (w.count '\n' + 1)) = w ++ line := by
  induction w using byLines with
  | last a ha =>
    obtain rfl := hw.eq_nil ha
    rcases rest with _ | ⟨c, rest⟩
    · simp [lines_of_not_mem hl]
    · obtain rfl : c = '\n' := by simpa [firstLine, List.takeWhile_cons] using hr
      simp [lines_append_newline rest hl]
  | more a b ha ih =>
    have ih := ih ((closed_append_newline_iff a b).1 hw)
    rw [List.append_assoc, List.cons_append, lines_append_newline _ ha]
    have hc : List.count '\n' (a ++ '\n' :: b) = b.count '\n' + 1 := by
      simp [List.count_eq_zero_of_not_mem ha]
    rw [hc, List.take_succ_cons]
    rcases hb : (b ++ (line ++ rest)).lines with _ | ⟨x, xs⟩
    · exact absurd hb (lines_ne_nil _)
    · rw [hb, List.take_succ_cons] at ih
      rw [List.take_succ_cons, List.intercalate_cons_cons, ih]
      simp

/-- The character at column `c` of line `i`. -/
def charAt? (lines : List Text) (i c : Nat) : Option Char := lines[i]?.bind fun l => l[c]?

theorem charAt?_of_getElem? {lines : List Text} {i : Nat} {l : Text} (h : lines[i]? = some l)
    (c : Nat) : charAt? lines i c = l[c]? := by
  rw [charAt?, h, Option.bind_some]

end Text

end SourceStyle
