import Mathlib.Data.List.Forall2
import SourceStyle.Proofs.LineTable
import SourceStyle.Proofs.LongLines
import SourceStyle.Proofs.Search

/-!
# The text that a violation covers

Every violation of a scan covers a stretch of the text that its excerpt gives back: a missing header
the first six lines, a line that is too long or holds a comment the whole of that line, and a match
of a rule the text of the match (`scan_excerpts`). This holds for whatever finds the matches, as long
as they lie in the text and so have a span (`Finder.InText`). The check of line lengths alone can fail,
for settings out of range (`LineLength.not_refuses_lines_iff`).
-/

namespace SourceStyle

theorem Text.lineAt?_natCast (t : Text) (n : Nat) : t.lineAt? n = t.lines[n]? := by
  simp [Text.lineAt?]

namespace Violation

/-! ## Offsets of positions past the end of a line -/

variable {t : Text}

theorem clampedOffset_eq {p : Position} {line : Text} {o : Nat}
    (hline : t.lineAt? p.line = some line)
    (ho : t.Located o ⟨p.line, min p.column line.length⟩) : clampedOffset t p = .ok o := by
  simp only [clampedOffset, hline, Text.offsetAt_of_located ho]
  rfl

theorem clampedOffset_of_located {p : Position} {o : Nat} (h : t.Located o p) :
    clampedOffset t p = .ok o := by
  obtain ⟨hl, hc, line, hline, hle⟩ := Text.exists_located_iff.1 ⟨o, h⟩
  have hat : t.lineAt? p.line = some line := by
    rw [← hline, ← Text.lineAt?_natCast, Int.toNat_of_nonneg hl]
  refine clampedOffset_eq hat ?_
  rwa [Int.min_eq_left hle]

/-- A column at or past the end of a line stands for its end. -/
theorem clampedOffset_of_length_le {w line rest : Text} {c : Int}
    (ht : t = w ++ (line ++ rest)) (hw : w.Closed) (hfree : '\n' ∉ line)
    (hline : t.lines[w.count '\n']? = some line) (hc : line.length ≤ c) :
    clampedOffset t ⟨w.count '\n', c⟩ = .ok (w.length + line.length) := by
  have hat : t.lineAt? (w.count '\n') = some line := by
    rw [Text.lineAt?_natCast, hline]
  refine clampedOffset_eq hat ?_
  rw [Int.min_eq_right hc]
  exact .of_line ht hw hfree (Nat.le_refl _)

theorem excerpt_eq {v : Violation} {i j : Nat} (hline : v.span.start.line < t.lines.length)
    (hi : clampedOffset t v.span.start = .ok i)
    (hj : clampedOffset t ⟨min v.span.stop.line (t.lines.length - 1), v.span.stop.column⟩ = .ok j) :
    v.excerpt t = .ok (t.slice i j) := by
  simp only [excerpt, if_neg (Int.not_le.2 hline), hi]
  simp only [bind, Except.bind, hj]
  rfl

/-! ## Three kinds of spans -/

/-- The excerpt between two places of the text is what stands between them. -/
theorem excerpt_of_located {v : Violation} {i j : Nat} (hi : t.Located i v.span.start)
    (hj : t.Located j v.span.stop) : v.excerpt t = .ok (t.slice i j) := by
  have hinside : ∀ {o : Nat} {p : Position}, t.Located o p → p.line < t.lines.length := by
    intro o p h
    obtain ⟨hl, -, line, hline, -⟩ := Text.exists_located_iff.1 ⟨o, h⟩
    obtain ⟨hlt, -⟩ := List.getElem?_eq_some_iff.1 hline
    omega
  have hlast : min v.span.stop.line (t.lines.length - 1) = v.span.stop.line := by
    have := hinside hj
    omega
  refine excerpt_eq (hinside hi) (clampedOffset_of_located hi) ?_
  rw [hlast]
  exact clampedOffset_of_located hj

/-- The excerpt of a line is the line, whatever the columns past its end. -/
theorem excerpt_of_line {v : Violation} {n length : Nat} {line : Text}
    (hspan : v.span = Span.ofLine n length) (hline : t.lines[n]? = some line)
    (hle : line.length ≤ length) : v.excerpt t = .ok line := by
  obtain ⟨w, rest, ht, hw, rfl, hfree, -⟩ := Text.exists_of_getElem?_lines hline
  obtain ⟨hlt, -⟩ := List.getElem?_eq_some_iff.1 hline
  have hstart : t.Located w.length ⟨w.count '\n', 0⟩ := .of_line ht hw hfree (Nat.zero_le _)
  have hlast : min (w.count '\n' : Int) (t.lines.length - 1) = w.count '\n' := by omega
  have hslice : t.slice w.length (w.length + line.length) = line := by
    rw [ht, Text.slice_append]
  rw [← hslice]
  refine excerpt_eq ?_ ?_ ?_ <;> rw [hspan] <;> simp only [Span.ofLine]
  · omega
  · exact clampedOffset_of_located hstart
  · rw [hlast]
    exact clampedOffset_of_length_le ht hw hfree hline (by omega)

/-- The excerpt of a missing header is made of the first six lines, or of all when there are
fewer. -/
theorem excerpt_of_header {v : Violation} (hspan : v.span = Header.span)
    (hlen : t.length ≤ Header.endOfLine) :
    v.excerpt t = .ok (['\n'].intercalate (t.lines.take 6)) := by
  have hpos : 0 < t.lines.length := List.length_pos_iff.2 (Text.lines_ne_nil t)
  have hk : min 5 (t.lines.length - 1) < t.lines.length := by omega
  have hline := List.getElem?_eq_getElem hk
  generalize t.lines[min 5 (t.lines.length - 1)] = line at hline
  obtain ⟨w, rest, ht, hw, hn, hfree, hrest⟩ := Text.exists_of_getElem?_lines hline
  rw [← hn] at hline
  have hlast : min (5 : Int) (t.lines.length - 1) = w.count '\n' := by omega
  have hlines : t.lines.take 6 = t.lines.take (w.count '\n' + 1) := by
    rw [hn, List.take_eq_take_iff]
    omega
  have hslice : t.slice 0 (w.length + line.length) = ['\n'].intercalate (t.lines.take 6) := by
    rw [hlines, ht, Text.intercalate_take_lines hw hfree hrest, ← List.append_assoc, Text.slice,
      List.drop_zero, List.take_left' (by simp)]
  have hbefore : t = [] ++ ([] ++ t) := rfl
  have hstart : t.Located 0 ⟨0, 0⟩ := .intro hbefore Text.closed_nil (by simp)
  rw [← hslice]
  refine excerpt_eq ?_ ?_ ?_ <;> rw [hspan] <;> simp only [Header.span]
  · omega
  · exact clampedOffset_of_located hstart
  · rw [hlast]
    refine clampedOffset_of_length_le ht hw hfree hline ?_
    have := congrArg List.length ht
    simp only [List.length_append] at this
    omega

end Violation

/-! ## The checks of a text -/

/-- What is found on a line of a list stands one line further down with a line put in front. -/
theorem exists_getElem?_cons {P : Nat → Text → Prop} {line : Text} {lines : List Text} {i : Nat}
    (h : ∃ n l, lines[n]? = some l ∧ P (i + 1 + n) l) :
    ∃ n l, (line :: lines)[n]? = some l ∧ P (i + n) l := by
  obtain ⟨n, l, hl, hP⟩ := h
  rw [Nat.add_right_comm, Nat.add_assoc] at hP
  exact ⟨n + 1, l, hl, hP⟩

theorem Header.eq_of_mem_check {t : Text} {v : Violation} (h : v ∈ check t) :
    v = ⟨span, "File must start with the Epitech header.", "HEADER_MISSING", .major⟩ := by
  unfold check at h
  split at h
  · simp at h
  · exact List.mem_singleton.1 h

namespace LineLength

theorem length_le_measure {limits : LineLength} (htab : 1 ≤ limits.tabSize) :
    ∀ line : Text, line.length ≤ limits.measure line
  | [] => Nat.le_refl 0
  | c :: line => by
    have ih := length_le_measure htab line
    have hc : 1 ≤ limits.width c := by
      unfold width
      split
      · omega
      · exact Nat.le_refl 1
    simp only [measure, sumBy, List.length_cons] at ih ⊢
    omega

/-- A line has at most as many columns as tabs have in a line of the same length. -/
theorem columns_le {limits : LineLength} (htab : 1 ≤ limits.tabSize) (line : Text) :
    limits.columns line ≤ limits.tabSize * line.length := by
  have hcount : (line.count '\t' : Int) ≤ line.length := Int.ofNat_le.2 List.count_le_length
  have htabs : (limits.tabSize - 1) * line.count '\t' ≤ (limits.tabSize - 1) * line.length :=
    Int.mul_le_mul_of_nonneg_left hcount (by omega)
  rw [Int.sub_mul, Int.sub_mul] at htabs
  rw [columns, max_eq_left (by omega), Int.sub_mul]
  omega

theorem two_pow_le : (2 : Int) ^ 126 ≤ 10 ^ Decimal.mostDigits := by
  have hdigits : 10 ^ 38 ≤ 10 ^ Decimal.mostDigits :=
    Nat.pow_le_pow_right (by decide) (by decide)
  have hcast := Int.ofNat_le.2 hdigits
  rw [Int.natCast_pow, Int.natCast_pow] at hcast
  exact Int.le_trans (by decide) hcast

/-- A text is too short for a line that passes a positive limit with too many digits. -/
theorem columns_lt {limits : LineLength} {t : Text} (htab : 1 ≤ limits.tabSize)
    (hindex : limits.tabSize < 2 ^ 63) (hlen : t.length ≤ Header.endOfLine) {line : Text}
    (hline : line ∈ t.lines) : limits.columns line < 10 ^ Decimal.mostDigits := by
  obtain ⟨n, hn⟩ := List.mem_iff_getElem?.1 hline
  obtain ⟨w, rest, ht, -⟩ := Text.exists_of_getElem?_lines hn
  have hlength : (line.length : Int) ≤ 2 ^ 63 - 1 := by
    rw [ht, List.length_append, List.length_append, Header.endOfLine] at hlen
    omega
  calc limits.columns line
    _ ≤ limits.tabSize * line.length := columns_le htab line
    _ ≤ 2 ^ 63 * (2 ^ 63 - 1) := Int.mul_le_mul (by omega) hlength (by omega) (by decide)
    _ < 2 ^ 126 := by decide
    _ ≤ 10 ^ Decimal.mostDigits := two_pow_le

/-- With a tab size that is positive, a text can be checked exactly if the tab size fits into 64 bits
and the limit is not below all that can be written. No line passes a limit above. -/
theorem not_refuses_lines_iff {limits : LineLength} {t : Text} (htab : 1 ≤ limits.tabSize)
    (hlen : t.length ≤ Header.endOfLine) : ¬limits.Refuses t.lines
      ↔ limits.tabSize < 2 ^ 63 ∧ -10 ^ Decimal.mostDigits < limits.maxColumns := by
  have hindex : Decimal.IsIndex limits.tabSize ↔ limits.tabSize < 2 ^ 63 := by
    rw [Decimal.isIndex_iff]
    omega
  have hwritable : Decimal.IsWritable limits.maxColumns
      ↔ -10 ^ Decimal.mostDigits < limits.maxColumns
        ∧ limits.maxColumns < 10 ^ Decimal.mostDigits := by
    rw [Decimal.isWritable_iff, ← Int.ofNat_lt, Int.natCast_pow]
    generalize ((10 : Nat) : Int) ^ Decimal.mostDigits = most
    omega
  rw [not_refuses_iff, hindex, hwritable, or_iff_right (Text.lines_ne_nil t)]
  refine and_congr_right fun hfits => ⟨?_, fun hmax => ?_⟩
  · rintro (h | h)
    · exact h.1
    · -- The first line has columns, and the limit is at least their number.
      obtain ⟨line, hline⟩ := List.exists_mem_of_ne_nil _ (Text.lines_ne_nil t)
      have hle := Int.not_lt.1 (h line hline)
      rw [← measure_eq_columns] at hle
      have hpow := two_pow_le
      omega
  · by_cases hbelow : limits.maxColumns < 10 ^ Decimal.mostDigits
    · exact .inl ⟨hmax, hbelow⟩
    · refine .inr fun line hline hlong => hbelow ?_
      exact Int.lt_trans hlong (columns_lt htab hfits hlen hline)

end LineLength

namespace BodyComment

theorem mem_checkFrom {v : Violation} : ∀ {lines : List Text} {inside : Bool} {i : Nat},
    v ∈ checkFrom inside i lines → ∃ n line, lines[n]? = some line ∧ v = violation (i + n) line
  | [], inside, i, h => by simp [checkFrom] at h
  | line :: lines, inside, i, h => by
    simp only [checkFrom] at h
    split at h
    · rcases List.mem_cons.1 h with rfl | h
      · exact ⟨0, line, rfl, rfl⟩
      · exact exists_getElem?_cons (P := fun k l => v = violation k l) (mem_checkFrom h)
    · exact exists_getElem?_cons (P := fun k l => v = violation k l) (mem_checkFrom h)

end BodyComment

/-- A list on which every step of a map gives a result is mapped as a whole. -/
theorem mapM_eq_ok {α β ε : Type} {f : α → Except ε β} {R : α → β → Prop} :
    ∀ {l : List α}, (∀ a ∈ l, ∃ b, f a = .ok b ∧ R a b) →
      ∃ bs, l.mapM f = .ok bs ∧ List.Forall₂ R l bs
  | [], _ => ⟨[], rfl, .nil⟩
  | a :: l, h => by
    obtain ⟨b, hb, hab⟩ := h a List.mem_cons_self
    obtain ⟨bs, hbs, hall⟩ := mapM_eq_ok fun x hx => h x (List.mem_cons_of_mem _ hx)
    refine ⟨b :: bs, ?_, .cons hab hall⟩
    rw [List.mapM_cons, hb, hbs]
    rfl

namespace Finder

/-- A violation that is reported for what is found at a place. -/
structure Reports (f : Finder) (t : Text) (m : Nat × Nat) (v : Violation) : Prop where
  start : t.Located m.1 v.span.start
  stop : t.Located m.2 v.span.stop
  rule : v.rule = f.name
  message : v.message = f.message
  severity : v.severity = f.severity

/-- What is found in a text lies in it. -/
def InText (f : Finder) (t : Text) : Prop := ∀ m ∈ f.find t, m.1 ≤ m.2 ∧ m.2 ≤ t.length

/-- One violation is reported for each stretch that is found, in order. -/
theorem check_eq_ok {f : Finder} {t : Text} (h : f.InText t) :
    ∃ vs, f.check t = .ok vs ∧ List.Forall₂ (f.Reports t) (f.find t) vs := by
  refine mapM_eq_ok fun m hm => ?_
  obtain ⟨hle, hlen⟩ := h m hm
  obtain ⟨s, hs, hstart, hstop⟩ := Text.spanAt_of_le hle hlen
  refine ⟨⟨s, f.message, f.name, f.severity⟩, ?_, hstart, hstop, rfl, rfl, rfl⟩
  simp only [LineTable.spanAt_ofText, hs]
  rfl

end Finder

namespace Rule

/-- A violation that a rule reports for a match. -/
abbrev Reports (r : Rule) : Text → Nat × Nat → Violation → Prop := r.finder.Reports

theorem inText_finder (r : Rule) (t : Text) : r.finder.InText t :=
  fun _ hm => (Pattern.foundFrom_findAll r.pattern t).bounds hm

/-- A rule reports one violation for each match, in order. -/
theorem check_eq_ok (r : Rule) (t : Text) :
    ∃ vs, r.check t = .ok vs ∧ List.Forall₂ (r.Reports t) (r.pattern.findAll t) vs :=
  Finder.check_eq_ok (r.inText_finder t)

end Rule

namespace Checks

theorem scanFinders_eq_ok {finders : List Finder} {t : Text} (h : ∀ f ∈ finders, f.InText t) :
    ∃ vss, scanFinders finders t = .ok vss.flatten
      ∧ List.Forall₂ (fun f vs => List.Forall₂ (Finder.Reports f t) (f.find t) vs) finders vss := by
  obtain ⟨vss, hvss, hall⟩ := mapM_eq_ok fun f hf => Finder.check_eq_ok (h f hf)
  refine ⟨vss, ?_, hall⟩
  simp only [scanFinders, hvss]
  rfl

theorem scanRules_eq_ok (rules : List Rule) (t : Text) :
    ∃ vss, scanRules rules t = .ok vss.flatten
      ∧ List.Forall₂ (fun r vs => List.Forall₂ (Rule.Reports r t) (r.pattern.findAll t) vs)
        rules vss := by
  have hinside : ∀ f ∈ rules.map Rule.finder, f.InText t := by
    intro f hf
    obtain ⟨r, -, rfl⟩ := List.mem_map.1 hf
    exact r.inText_finder t
  obtain ⟨vss, hvss, hall⟩ := scanFinders_eq_ok hinside
  exact ⟨vss, hvss, List.forall₂_map_left_iff.1 hall⟩

/-- The violations that are found line by line in a text whose lines can be reported. -/
def lineReports (limits : LineLength) (t : Text) : List Violation :=
  Header.check t ++ limits.longLines t.lines ++ BodyComment.check t.lines

theorem scanWith_of_not_refuses {limits : LineLength} {finders : List Finder} {t : Text}
    {vs : List Violation} (ht : t ≠ []) (hlines : ¬limits.Refuses t.lines)
    (h : scanFinders finders t = .ok vs) :
    scanWith limits finders t = .ok (lineReports limits t ++ vs) := by
  have hne : t.isEmpty = false := by simpa using ht
  simp only [scanWith, hne, scanLines, LineLength.check_of_not_refuses hlines, h]
  rfl

theorem scanWith_of_refuses {limits : LineLength} {t : Text} (finders : List Finder) (ht : t ≠ [])
    (hlines : limits.Refuses t.lines) : ∃ e, scanWith limits finders t = .error (.length e) := by
  obtain ⟨e, he⟩ := LineLength.exists_error_of_refuses hlines
  have hne : t.isEmpty = false := by simpa using ht
  refine ⟨e, ?_⟩
  simp only [scanWith, hne, scanLines, he]
  rfl

/-- A scan gives a result if the tab size fits into 64 bits and the limit is not negative with too many
digits, and else it fails. The excerpt of each of its violations is the text that the violation is about:
the first six lines for a missing header, the line for a line that is too long or holds a comment, and
what was found for anything else. -/
theorem scan_excerpts (limits : LineLength) (finders : List Finder) (t : Text) (ht : t ≠ [])
    (hlen : t.length ≤ Header.endOfLine) (htab : 1 ≤ limits.tabSize)
    (hfinders : ∀ f ∈ finders, ∀ m ∈ f.find t, m.1 ≤ m.2 ∧ m.2 ≤ t.length) :
    (¬(limits.tabSize < 2 ^ 63 ∧ -10 ^ Decimal.mostDigits < limits.maxColumns) →
      ∃ e, scanWith limits finders t = .error (.length e))
    ∧ (limits.tabSize < 2 ^ 63 ∧ -10 ^ Decimal.mostDigits < limits.maxColumns →
      ∃ long vss, limits.check t.lines = .ok long
        ∧ scanWith limits finders t
          = .ok (Header.check t ++ long ++ BodyComment.check t.lines ++ vss.flatten)
        ∧ (∀ v ∈ Header.check t, v.excerpt t = .ok (['\n'].intercalate (t.lines.take 6)))
        ∧ (∀ v ∈ long ++ BodyComment.check t.lines,
          ∃ (i : Nat) (line : Text), t.lines[i]? = some line ∧ v.span.start.line = i
            ∧ v.span.stop.line = i ∧ v.excerpt t = .ok line)
        ∧ List.Forall₂ (fun f vs => List.Forall₂
          (fun m v => f.Reports t m v ∧ v.excerpt t = .ok (t.slice m.1 m.2)) (f.find t) vs)
          finders vss) := by
  rw [← LineLength.not_refuses_lines_iff htab hlen, not_not]
  refine ⟨scanWith_of_refuses finders ht, fun hlines => ?_⟩
  obtain ⟨vss, hvss, hall⟩ := scanFinders_eq_ok hfinders
  refine ⟨_, vss, LineLength.check_of_not_refuses hlines, scanWith_of_not_refuses ht hlines hvss,
    fun v hv => ?_, fun v hv => ?_, ?_⟩
  · exact Violation.excerpt_of_header (by rw [Header.eq_of_mem_check hv]) hlen
  · rcases List.mem_append.1 hv with hv | hv
    · obtain ⟨n, line, hline, -, rfl⟩ := LineLength.mem_longLines_iff.1 hv
      exact ⟨n, line, hline, rfl, rfl,
        Violation.excerpt_of_line rfl hline (LineLength.length_le_measure htab line)⟩
    · obtain ⟨n, line, hline, rfl⟩ := BodyComment.mem_checkFrom hv
      rw [Nat.zero_add]
      exact ⟨n, line, hline, rfl, rfl, Violation.excerpt_of_line rfl hline (Nat.le_refl _)⟩
  · refine hall.imp fun f vs hvs => hvs.imp fun m v hv => ?_
    exact ⟨hv, Violation.excerpt_of_located hv.start hv.stop⟩

/-- A text with no header, a long line with a comment in a body, and a blank at its end. -/
theorem scan_excerpts_commented_body :
    let t : Text := ['\x7b', '\n', '/', '/', ' ']
    let checks : Checks := { limits := { maxColumns := 2 } }
    ∃ long vss, checks.scan t
        = .ok (Header.check t ++ long ++ BodyComment.check t.lines ++ vss.flatten)
      ∧ long = [checks.limits.violation 1 3]
      ∧ (∀ v ∈ Header.check t, v.excerpt t = .ok t)
      ∧ (∀ v ∈ long ++ BodyComment.check t.lines, v.excerpt t = .ok ['/', '/', ' '])
      ∧ List.Forall₂ (fun f vs => List.Forall₂
          (fun m v => f.Reports t m v ∧ v.excerpt t = .ok (t.slice m.1 m.2)) (f.find t) vs)
        (Rule.standard.map Rule.finder) vss := by
  intro t checks
  have hfinders : ∀ f ∈ Rule.standard.map Rule.finder, f.InText t := by
    intro f hf
    obtain ⟨r, -, rfl⟩ := List.mem_map.1 hf
    exact r.inText_finder t
  have hlimit : -10 ^ Decimal.mostDigits < (2 : Int) := by
    have hpow := LineLength.two_pow_le
    omega
  obtain ⟨-, hscans⟩ := scan_excerpts { maxColumns := 2 } (Rule.standard.map Rule.finder) t
    (by decide) (by decide) (by decide) hfinders
  obtain ⟨long, vss, hlong, hscan, hheader, hlines, hrules⟩ := hscans ⟨by decide, hlimit⟩
  obtain ⟨-, rfl⟩ := LineLength.check_eq_ok_iff.1 hlong
  refine ⟨_, vss, hscan, rfl, hheader, fun v hv => ?_, hrules⟩
  obtain ⟨i, line, hline, hi, -, hv'⟩ := hlines v hv
  have hsecond : ∀ v ∈ checks.limits.longLines t.lines ++ BodyComment.check t.lines,
      v.span.start.line = 1 := by decide
  obtain rfl : i = 1 := by
    have := hsecond v hv
    omega
  obtain rfl : ['/', '/', ' '] = line := Option.some.inj hline
  exact hv'

/-- A tab size of `2 ^ 63` leaves a text without a result. -/
theorem scan_tab_size_too_large :
    let checks : Checks := { limits := { tabSize := 2 ^ 63 } }
    1 ≤ checks.limits.tabSize ∧ checks.scan ['a'] = .error (.length .tabSize) :=
  ⟨by decide, rfl⟩

end Checks

end SourceStyle
