import SourceStyle.Proofs.Excerpt

/-!
# Excerpts by lines

What stands before a line is the lines before it, each with its newline (`flatMap_take_lines`). So the
text between two places is cut out of the lines: the rest of the line that it starts on, the whole lines
between, and the beginning of the line that it ends on (`slice_lines`). An excerpt is such a cut, for
every span whose lines and columns are not negative: a column past the end of its line stands for that
end, and a line past the last one for the last (`excerpt_eq_cut`).
-/

namespace SourceStyle

namespace Text

/-- What some lines hold from column `a` of line `i` up to column `b` of line `j`, where a line past the
last stands for the last. Nothing stands on a line that there is not, or from a column up to an earlier
one. -/
def cut (lines : List Text) (i a j b : Nat) : Text :=
  let last := min j (lines.length - 1)
  if lines.length ≤ i then []
  else if i < last then
    (lines.getD i []).drop a ++ '\n' :: (((lines.take last).drop (i + 1)).flatMap (· ++ ['\n'])
      ++ (lines.getD last []).take b)
  else (lines.getD i []).slice a b

/-- Whole lines are the lines before the one that follows, each with its newline. -/
theorem flatMap_take_lines {w : Text} (hw : Closed w) (rest : Text) :
    ((w ++ rest).lines.take (w.count '\n')).flatMap (· ++ ['\n']) = w := by
  induction w using byLines with
  | last a ha =>
    obtain rfl := hw.eq_nil ha
    rfl
  | more a b ha ih =>
    have hcount : List.count '\n' (a ++ '\n' :: b) = b.count '\n' + 1 := by
      simp [List.count_eq_zero_of_not_mem ha]
    rw [List.append_assoc, List.cons_append, lines_append_newline _ ha, hcount, List.take_succ_cons,
      List.flatMap_cons, ih ((closed_append_newline_iff a b).1 hw), List.append_assoc,
      List.singleton_append]

/-- As many whole lines at the start of a text are the same lines. -/
theorem Closed.eq_of_count_eq {w w' rest rest' : Text} (hw : Closed w) (hw' : Closed w')
    (h : w ++ rest = w' ++ rest') (hcount : w.count '\n' = w'.count '\n') : w = w' := by
  rw [← flatMap_take_lines hw rest, h, hcount, flatMap_take_lines hw']

/-! ## Columns past the end of a line -/

theorem take_line (w line rest : Text) (b : Nat) :
    (w ++ (line ++ rest)).take (w.length + min b line.length) = w ++ line.take b := by
  rw [List.take_length_add_append, List.take_append_of_le_length (Nat.min_le_right _ _),
    ← List.take_eq_take_min]

theorem drop_line (w line rest : Text) (a : Nat) :
    (w ++ (line ++ rest)).drop (w.length + min a line.length) = line.drop a ++ rest := by
  rw [List.drop_length_add_append, List.drop_append_of_le_length (Nat.min_le_right _ _),
    ← List.drop_eq_drop_min]

theorem slice_line (w line rest : Text) (a b : Nat) :
    (w ++ (line ++ rest)).slice (w.length + min a line.length) (w.length + min b line.length)
      = line.slice a b := by
  rw [slice, take_line, List.drop_length_add_append, slice, List.drop_eq_drop_iff, List.length_take]
  omega

/-! ## From line to line -/

variable {t : Text}

/-- The lines before a later line are those before a first one, the first one, and those between. -/
theorem flatMap_take_split {lines : List Text} {i j : Nat} {first : Text} (hij : i < j)
    (hfirst : lines[i]? = some first) (f : Text → Text) :
    (lines.take j).flatMap f
      = (lines.take i).flatMap f ++ (f first ++ ((lines.take j).drop (i + 1)).flatMap f) := by
  obtain ⟨hi, hget⟩ := List.getElem?_eq_some_iff.1 hfirst
  have hlt : i < (lines.take j).length := by
    rw [List.length_take]
    omega
  have hdrop : (lines.take j).drop i = first :: (lines.take j).drop (i + 1) := by
    rw [List.drop_eq_getElem_cons hlt, List.getElem_take, hget]
  have htake : (lines.take j).take i = lines.take i := by
    rw [List.take_take, Nat.min_eq_left (Nat.le_of_lt hij)]
  rw [← List.flatMap_cons, ← hdrop, ← htake, ← List.flatMap_append, List.take_append_drop]

/-- What stands between a place on one line and a place on a later one. -/
theorem slice_lines {w first rest w' last rest' : Text} (ht : t = w ++ (first ++ rest))
    (hw : Closed w) (hfirst : t.lines[w.count '\n']? = some first) (ht' : t = w' ++ (last ++ rest'))
    (hw' : Closed w') (hlt : w.count '\n' < w'.count '\n') (a b : Nat) :
    t.slice (w.length + min a first.length) (w'.length + min b last.length)
      = first.drop a ++ '\n' :: (((t.lines.take (w'.count '\n')).drop (w.count '\n' + 1)).flatMap
        (· ++ ['\n']) ++ last.take b) := by
  have hbefore : (t.lines.take (w.count '\n')).flatMap (· ++ ['\n']) = w := by
    rw [ht, flatMap_take_lines hw]
  have hbefore' : (t.lines.take (w'.count '\n')).flatMap (· ++ ['\n']) = w' := by
    rw [ht', flatMap_take_lines hw']
  rw [flatMap_take_split hlt hfirst, hbefore] at hbefore'
  generalize ((t.lines.take (w'.count '\n')).drop (w.count '\n' + 1)).flatMap (· ++ ['\n'])
    = between at hbefore' ⊢
  have htake : t.take (w'.length + min b last.length) = w' ++ last.take b := by
    rw [ht', take_line]
  have hfront : w' ++ last.take b = w ++ (first ++ '\n' :: (between ++ last.take b)) := by
    rw [← hbefore']
    simp
  rw [slice, htake, hfront, drop_line]

end Text

/-! ## Excerpts -/

namespace Violation

variable {t : Text} {v : Violation}

/-- A line stands behind whole lines, and a column of it is at most its length away from them. -/
theorem exists_line (t : Text) {i : Nat} (hi : i < t.lines.length) :
    ∃ w line rest, t = w ++ (line ++ rest) ∧ w.Closed ∧ w.count '\n' = i
      ∧ t.lines[i]? = some line
      ∧ ∀ c : Nat, clampedOffset t ⟨i, c⟩ = .ok (w.length + min c line.length) := by
  obtain ⟨line, hline⟩ : ∃ line, t.lines[i]? = some line := ⟨_, List.getElem?_eq_getElem hi⟩
  obtain ⟨w, rest, ht, hw, rfl, hfree, -⟩ := Text.exists_of_getElem?_lines hline
  refine ⟨w, line, rest, ht, hw, rfl, hline, fun c => ?_⟩
  have hat : t.lineAt? (w.count '\n') = some line := by
    rw [Text.lineAt?_natCast, hline]
  have hmin : min (c : Int) line.length = (min c line.length : Nat) := by omega
  refine clampedOffset_eq hat ?_
  rw [hmin]
  exact .of_line ht hw hfree (Nat.min_le_right _ _)

theorem excerpt_of_start_outside (h : t.lines.length ≤ v.span.start.line) :
    v.excerpt t = .ok [] := by
  simp only [excerpt, if_pos h]
  rfl

/-- An excerpt is cut out of the lines of the text, for every span without negative numbers. -/
theorem excerpt_eq_cut (t : Text) (v : Violation) (i a j b : Nat)
    (hstart : v.span.start = ⟨i, a⟩) (hstop : v.span.stop = ⟨j, b⟩) :
    v.excerpt t = .ok (Text.cut t.lines i a j b) := by
  by_cases hi : t.lines.length ≤ i
  · rw [Text.cut, if_pos hi]
    exact excerpt_of_start_outside (by rw [hstart]; exact Int.ofNat_le.2 hi)
  have hij : i ≤ j := by
    have hordered : v.span.start.line < v.span.stop.line
        ∨ v.span.start.line = v.span.stop.line ∧ v.span.start.column ≤ v.span.stop.column :=
      v.span.ordered
    rw [hstart, hstop] at hordered
    simp only at hordered
    omega
  obtain ⟨k, hk⟩ : ∃ k, k = min j (t.lines.length - 1) := ⟨_, rfl⟩
  obtain ⟨w, first, rest, ht, hw, rfl, hfirst, hoffset⟩ := exists_line t (Nat.lt_of_not_le hi)
  obtain ⟨w', last, rest', ht', hw', rfl, hlast, hoffset'⟩ := exists_line t (i := k) (by omega)
  have hslice : v.excerpt t
      = .ok (t.slice (w.length + min a first.length) (w'.length + min b last.length)) := by
    have hmin : min (j : Int) (t.lines.length - 1) = w'.count '\n' := by omega
    refine excerpt_eq ?_ ?_ ?_ <;> simp only [hstart, hstop]
    · omega
    · exact hoffset a
    · rw [hmin, hoffset']
  simp only [Text.cut, if_neg hi, ← hk, List.getD_eq_getElem?_getD, hfirst, hlast,
    Option.getD_some, hslice]
  split_ifs with hlt
  · rw [Text.slice_lines ht hw hfirst ht' hw' hlt]
  · -- both ends are on one line, so the same whole lines stand before them
    have hcount : w'.count '\n' = w.count '\n' := by omega
    obtain rfl := hw'.eq_of_count_eq hw (ht'.symm.trans ht) hcount
    obtain rfl := Option.some.inj (hfirst.symm.trans hlast)
    rw [ht, Text.slice_line]

/-- A span from a column inside the first line to a column far past the end of the last. -/
theorem excerpt_past_last_line :
    let t : Text := ['a', 'b', '\n', '\n', 'c']
    let v : Violation := ⟨⟨⟨0, 1⟩, ⟨7, 9⟩, by decide⟩, "message", "RULE", .minor⟩
    v.span.start = ⟨(0 : Nat), (1 : Nat)⟩ ∧ v.span.stop = ⟨(7 : Nat), (9 : Nat)⟩
      ∧ v.excerpt t = .ok ['b', '\n', '\n', 'c'] := by
  intro t v
  exact ⟨rfl, rfl, excerpt_eq_cut t v 0 1 7 9 rfl rfl⟩

end Violation

end SourceStyle
