import SourceStyle.LineTable
import SourceStyle.Proofs.Position

/-!
# Line tables and positions

The starts that a table holds for whole lines end with the length of those lines, and every start
behind them is larger than any offset on the line that follows. So the binary search stops at the
number of newlines before the offset, and the table gives the position that the text gives
(`positionAt_ofText`).

The spans agree with the positions, so that a table has a span exactly between offsets in order.

The lines that a table numbers are the lines of the text, each from its start on (`numbers_ofText`), so
what is found on a line by its number and what is found at an offset are on the same lines.
-/

namespace SourceStyle

namespace LineTable

/-! ## Starts -/

theorem startsFrom_append (o : Nat) : ∀ a b : Text,
    startsFrom o (a ++ b) = startsFrom o a ++ startsFrom (o + a.length) b
  | [], b => by simp [startsFrom]
  | c :: a, b => by
    have ih := startsFrom_append (o + 1) a b
    rw [Nat.add_right_comm, Nat.add_assoc] at ih
    simp only [List.cons_append, startsFrom, ih, List.length_cons]
    split <;> simp

theorem startsFrom_of_not_mem (o : Nat) : ∀ {a : Text}, '\n' ∉ a → startsFrom o a = []
  | [], _ => rfl
  | c :: a, h => by
    simp only [List.mem_cons, not_or] at h
    simp [startsFrom, Ne.symm h.1, startsFrom_of_not_mem (o + 1) h.2]

theorem mem_startsFrom_bounds : ∀ (o : Nat) (t : Text) {x : Nat}, x ∈ startsFrom o t →
    o < x ∧ x ≤ o + t.length
  | _, [], x, h => by simp [startsFrom] at h
  | o, c :: t, x, h => by
    simp only [startsFrom] at h
    rw [List.length_cons]
    split at h
    · rcases List.mem_cons.1 h with rfl | h
      · omega
      · have := mem_startsFrom_bounds (o + 1) t h
        omega
    · have := mem_startsFrom_bounds (o + 1) t h
      omega

theorem length_startsFrom : ∀ (o : Nat) (t : Text), (startsFrom o t).length = t.count '\n'
  | _, [] => rfl
  | o, c :: t => by
    by_cases hc : c = '\n'
    · simp [startsFrom, hc, length_startsFrom (o + 1) t]
    · simp [startsFrom, hc, length_startsFrom (o + 1) t]

/-- The last start that whole lines give is the one behind them. -/
theorem getLast?_startsFrom {w : Text} (hw : w.Closed) (o : Nat) :
    (o :: startsFrom o w).getLast? = some (o + w.length) := by
  induction w using Text.byLines generalizing o with
  | last a ha => simp [hw.eq_nil ha, startsFrom]
  | more a b ha ih =>
    have ih := ih ((Text.closed_append_newline_iff a b).1 hw) (o + a.length + 1)
    rw [startsFrom_append, startsFrom_of_not_mem o ha, List.nil_append, startsFrom, if_pos rfl,
      List.getLast?_cons_cons, ih]
    simp only [List.length_append, List.length_cons]
    congr 1
    omega

theorem pairwise_startsFrom : ∀ (o : Nat) (t : Text), (startsFrom o t).Pairwise (· < ·)
  | _, [] => .nil
  | o, c :: t => by
    have ih := pairwise_startsFrom (o + 1) t
    simp only [startsFrom]
    split
    · exact List.pairwise_cons.2 ⟨fun x hx => (mem_startsFrom_bounds _ _ hx).1, ih⟩
    · exact ih

/-- What stands behind whole lines starts where they end. -/
theorem getElem?_starts {t w rest : Text} (ht : t = w ++ rest) (hw : w.Closed) :
    (ofText t).starts[w.count '\n']? = some w.length := by
  have hsize : (0 :: startsFrom 0 w).length = w.count '\n' + 1 := by
    simp [length_startsFrom]
  have hlast := getLast?_startsFrom hw 0
  rw [List.getLast?_eq_getElem?, hsize, Nat.add_sub_cancel, Nat.zero_add] at hlast
  rw [ofText, List.getElem?_toArray, ht, startsFrom_append, ← List.cons_append,
    List.getElem?_append_left (by omega), hlast]

/-! ## The search -/

/-- If the entries up to index `k` are at most `x` and those from there on above it, the search
stops at `k`. -/
theorem upperBound_eq {a : Array Nat} {x k : Nat} (hlow : ∀ i < k, a.getD i 0 ≤ x)
    (hhigh : ∀ i, k ≤ i → i < a.size → x < a.getD i 0) (lo hi : Nat) (hlo : lo ≤ k)
    (hhi : k ≤ hi) (hsize : hi ≤ a.size) : upperBound a x lo hi = k := by
  fun_induction upperBound a x lo hi with
  | case1 lo hi hlt mid hmid ih =>
    rcases Nat.lt_or_ge mid k with hk | hk
    · have := hlow mid hk
      omega
    · exact ih hlo hk (by omega)
  | case2 lo hi hlt mid hmid ih =>
    rcases Nat.lt_or_ge mid k with hk | hk
    · exact ih hk hhi hsize
    · have := hhigh mid hk (by omega)
      omega
  | case3 lo hi hlt => omega

theorem upperBound_append {l r : List Nat} {x : Nat} (hl : ∀ y ∈ l, y ≤ x) (hr : ∀ y ∈ r, x < y) :
    upperBound (l ++ r).toArray x 0 (l ++ r).toArray.size = l.length := by
  have hget : ∀ i, (l ++ r).toArray.getD i 0 = ((l ++ r)[i]?).getD 0 := by
    intro i
    simp [Array.getD_eq_getD_getElem?]
  refine upperBound_eq (fun i hi => ?_) (fun i hi hsize => ?_) _ _ (by omega) (by simp) (Nat.le_refl _)
  · rw [hget, List.getElem?_append_left hi, List.getElem?_eq_getElem hi]
    exact hl _ (List.getElem_mem hi)
  · have hi' : i - l.length < r.length := by
      simp only [List.size_toArray, List.length_append] at hsize
      omega
    rw [hget, List.getElem?_append_right hi, List.getElem?_eq_getElem hi']
    exact hr _ (List.getElem_mem hi')

/-! ## Positions -/

/-- The starts of a text around a place on one of its lines. -/
theorem starts_eq {t w part rest : Text} (ht : t = w ++ (part ++ rest)) (hp : '\n' ∉ part) :
    0 :: startsFrom 0 t
      = (0 :: startsFrom 0 w) ++ startsFrom (w.length + part.length) rest := by
  rw [ht, startsFrom_append, startsFrom_append, startsFrom_of_not_mem _ hp]
  simp

theorem positionAt_of_located {t : Text} {o : Nat} {p : Position} (h : t.Located o p) :
    (ofText t).positionAt o = .ok p := by
  have hle := h.le_length
  obtain ⟨ht, hw, hp⟩ := h
  rename_i w part rest
  have hstarts : (ofText t).starts
      = ((0 :: startsFrom 0 w) ++ startsFrom (w.length + part.length) rest).toArray := by
    rw [ofText, starts_eq ht hp]
  have hsize : (0 :: startsFrom 0 w).length = w.count '\n' + 1 := by
    simp [length_startsFrom]
  have hline : upperBound (ofText t).starts (w.length + part.length) 0 (ofText t).starts.size
      = w.count '\n' + 1 := by
    rw [hstarts, ← hsize]
    refine upperBound_append (fun y hy => ?_) (fun y hy => (mem_startsFrom_bounds _ _ hy).1)
    rcases List.mem_cons.1 hy with rfl | hy
    · omega
    · have := mem_startsFrom_bounds _ _ hy
      omega
  have hstart : (ofText t).starts.getD (w.count '\n') 0 = w.length := by
    rw [Array.getD_eq_getD_getElem?, getElem?_starts ht hw]
    rfl
  have hin : ¬ (((w.length + part.length : Nat) : Int) < 0
      ∨ ((ofText t).length : Int) < ((w.length + part.length : Nat) : Int)) := by
    simp only [ofText]
    omega
  rw [positionAt, if_neg hin]
  simp only [Int.toNat_natCast, hline, Nat.add_sub_cancel, hstart, Except.ok.injEq,
    Position.mk.injEq, true_and]
  omega

/-- A table finds the positions that the text has, and refuses the same offsets in the same way. -/
theorem positionAt_ofText (t : Text) (o : Int) : (ofText t).positionAt o = t.positionAt o := by
  by_cases hin : 0 ≤ o ∧ o ≤ t.length
  · obtain ⟨n, rfl⟩ := Int.eq_ofNat_of_zero_le hin.1
    obtain ⟨p, hp⟩ := Text.exists_located (t := t) (o := n) (by omega)
    rw [positionAt_of_located hp, Text.positionAt_of_located hp]
  · rw [Text.positionAt_of_not_le hin, positionAt, if_pos]
    · rfl
    · simp only [ofText]
      omega

theorem spanAt_ofText (t : Text) (start stop : Int) :
    (ofText t).spanAt start stop = t.spanAt start stop := by
  simp only [spanAt, Text.spanAt, positionAt_ofText]

/-- A table and its text give the same positions, the same spans and the same errors. There is a span
exactly between offsets of the text that are in order: those in the text that are not are refused
as reversed, because positions strictly increase with offsets. -/
theorem spanAt_ofText_iff_ordered (t : Text) (start stop : Int) :
    (ofText t).positionAt start = t.positionAt start
      ∧ (ofText t).positionAt stop = t.positionAt stop
      ∧ (ofText t).spanAt start stop = t.spanAt start stop
      ∧ ((∃ s, t.spanAt start stop = .ok s) ↔ 0 ≤ start ∧ start ≤ stop ∧ stop ≤ t.length)
      ∧ ((∃ p q, t.spanAt start stop = .error (.reversed p q))
          ↔ 0 ≤ stop ∧ stop < start ∧ start ≤ t.length)
      ∧ ∀ i j : Nat, i < j → j ≤ t.length →
          ∃ p q, t.positionAt i = .ok p ∧ t.positionAt j = .ok q ∧ p.Before q := by
  refine ⟨positionAt_ofText t start, positionAt_ofText t stop, spanAt_ofText t start stop,
    Text.exists_spanAt_iff, Text.spanAt_reversed_iff, fun i j hij hj => ?_⟩
  obtain ⟨p, hp⟩ := Text.exists_located (t := t) (o := i) (by omega)
  obtain ⟨q, hq⟩ := Text.exists_located hj
  exact ⟨p, q, Text.positionAt_of_located hp, Text.positionAt_of_located hq, hp.before hq hij⟩

/-! ## Starts and lines -/

/-- The entries of a table are the starts of the lines of a text, in order: each line stands between its
start and the newline before the next one, and the table puts an offset on the line that it is on. -/
structure Numbers (table : LineTable) (t : Text) : Prop where
  size : table.starts.size = t.lines.length
  newlines : t.lines.length = t.count '\n' + 1
  first : table.starts[0]? = some 0
  increasing : table.starts.toList.Pairwise (· < ·)
  inside : ∀ s ∈ table.starts, s ≤ t.length
  next : ∀ (i s s' : Nat) (line : Text), table.starts[i]? = some s →
    table.starts[i + 1]? = some s' → t.lines[i]? = some line → s' = s + line.length + 1
  line : ∀ (i s : Nat) (line : Text), table.starts[i]? = some s → t.lines[i]? = some line →
    t.slice s (s + line.length) = line
  position : ∀ o i c : Nat, table.positionAt o = .ok ⟨i, c⟩
    ↔ ∃ s line, table.starts[i]? = some s ∧ t.lines[i]? = some line ∧ c ≤ line.length ∧ o = s + c

theorem size_starts (t : Text) : (ofText t).starts.size = t.count '\n' + 1 := by
  simp [ofText, length_startsFrom]

/-- A line stands behind whole lines that end at its start, and what follows it is nothing or the newline
before the next line. -/
theorem exists_of_start {t line : Text} {i s : Nat} (hs : (ofText t).starts[i]? = some s)
    (hline : t.lines[i]? = some line) :
    ∃ w rest, t = w ++ (line ++ rest) ∧ w.Closed ∧ '\n' ∉ line ∧ w.count '\n' = i ∧ w.length = s
      ∧ (rest = [] ∨ ∃ b, rest = '\n' :: b) := by
  obtain ⟨w, rest, ht, hw, hi, hfree, hrest⟩ := Text.exists_of_getElem?_lines hline
  have hstart := getElem?_starts ht hw
  rw [hi, hs, Option.some.injEq] at hstart
  refine ⟨w, rest, ht, hw, hfree, hi, hstart.symm, ?_⟩
  rcases rest with - | ⟨c, b⟩
  · exact .inl rfl
  · obtain rfl : c = '\n' := by simpa [Text.firstLine, List.takeWhile_cons] using hrest
    exact .inr ⟨b, rfl⟩

theorem next_start {t line : Text} {i s s' : Nat} (hs : (ofText t).starts[i]? = some s)
    (hs' : (ofText t).starts[i + 1]? = some s') (hline : t.lines[i]? = some line) :
    s' = s + line.length + 1 := by
  obtain ⟨w, rest, ht, hw, hfree, rfl, rfl, rfl | ⟨b, rfl⟩⟩ := exists_of_start hs hline
  · -- the last line has no start behind it
    obtain ⟨hlt, -⟩ := Array.getElem?_eq_some_iff.1 hs'
    rw [size_starts, ht] at hlt
    simp [List.count_eq_zero_of_not_mem hfree] at hlt
  · have hclosed : Text.Closed ((w ++ line) ++ ['\n']) :=
      (Text.closed_append_newline_iff (w ++ line) []).2 Text.closed_nil
    have hsplit : t = ((w ++ line) ++ ['\n']) ++ b := by
      rw [ht]
      simp
    have hnext := getElem?_starts hsplit hclosed
    have hcount : List.count '\n' ((w ++ line) ++ ['\n']) = w.count '\n' + 1 := by
      simp [List.count_eq_zero_of_not_mem hfree]
    rw [hcount, hs', Option.some.injEq] at hnext
    simpa [Nat.add_assoc] using hnext

/-- The table puts an offset on line `i` exactly when it is no further from the start of that line than
the line is long. -/
theorem positionAt_eq_ok_iff (t : Text) (o i c : Nat) :
    (ofText t).positionAt o = .ok ⟨i, c⟩
      ↔ ∃ s line, (ofText t).starts[i]? = some s ∧ t.lines[i]? = some line ∧ c ≤ line.length
        ∧ o = s + c := by
  constructor
  · intro h
    have ho : o ≤ t.length := by
      refine Nat.le_of_not_lt fun hlong => ?_
      rw [positionAt_ofText, Text.positionAt_of_not_le (by omega)] at h
      simp at h
    obtain ⟨p, hp⟩ := Text.exists_located ho
    rw [positionAt_of_located hp, Except.ok.injEq] at h
    obtain ⟨ht, hw, hfree⟩ := hp
    rename_i w part rest
    rw [Position.mk.injEq, Int.natCast_inj, Int.natCast_inj] at h
    obtain ⟨rfl, rfl⟩ := h
    have hline : t.lines[w.count '\n']? = some (Text.firstLine (part ++ rest)) := by
      rw [← Text.map_firstLine_fromLine, ht, Text.fromLine_append hw]
      rfl
    refine ⟨w.length, _, getElem?_starts ht hw, hline, ?_, rfl⟩
    rw [Text.firstLine_append rest hfree, List.length_append]
    omega
  · rintro ⟨s, line, hs, hline, hc, rfl⟩
    obtain ⟨w, rest, ht, hw, hfree, rfl, rfl, -⟩ := exists_of_start hs hline
    exact positionAt_of_located (.of_line ht hw hfree hc)

/-- A table numbers the lines of its text. -/
theorem numbers_ofText (t : Text) : (ofText t).Numbers t where
  size := by rw [size_starts, Text.length_lines]
  newlines := Text.length_lines t
  first := rfl
  increasing := List.pairwise_cons.2
    ⟨fun x hx => (mem_startsFrom_bounds 0 t hx).1, pairwise_startsFrom 0 t⟩
  inside := by
    intro s hs
    rw [ofText, List.mem_toArray, List.mem_cons] at hs
    rcases hs with rfl | hs
    · exact Nat.zero_le _
    · have := mem_startsFrom_bounds 0 t hs
      omega
  next := fun _ _ _ _ hs hs' hline => next_start hs hs' hline
  line := by
    intro i s line hs hline
    obtain ⟨w, rest, ht, -, -, -, rfl, -⟩ := exists_of_start hs hline
    rw [ht, Text.slice_append]
  position := positionAt_eq_ok_iff t

end LineTable

end SourceStyle
