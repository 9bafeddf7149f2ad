import SourceStyle.Proofs.Reports
import SourceStyle.Service

/-!
# The text of a file

What is encoded is decoded again, character by character (`decode_encode`), and the newlines of a text
come back from whatever line ends they were written with (`unify_write`). So a file gives the text
that was written to it, and its violations are those of that text, which are also those that the
service reports when the text is sent to it (`scanFile_eq_scanText`).
-/

namespace SourceStyle

/-! ## UTF-8 -/

namespace Utf8

theorem toNat_ofNat_of_lt {n : Nat} (h : n < 256) : (UInt8.ofNat n).toNat = n := by
  rw [UInt8.toNat_ofNat']
  exact Nat.mod_eq_of_lt h

theorem decodeFrom_first {p : Pending} {b offset : Nat} (bytes : List UInt8) (hb : b < 256)
    (hlow : 0x80 ≤ b) (hp : Pending.ofFirst? b offset = some p) :
    decodeFrom offset none (UInt8.ofNat b :: bytes) = decodeFrom (offset + 1) (some p) bytes := by
  rw [decodeFrom]
  simp only [toNat_ofNat_of_lt hb, Nat.not_lt.2 hlow, if_false, hp]

/-- A continuation byte that leaves others owed adds its six bits to the value. -/
theorem decodeFrom_more {p : Pending} (n offset : Nat) (bytes : List UInt8)
    (hlow : p.low ≤ 0x80 + n % 64) (hhigh : 0x80 + n % 64 ≤ p.high) (howed : p.owed ≠ 1) :
    decodeFrom offset (some p) (UInt8.ofNat (0x80 + n % 64) :: bytes)
      = decodeFrom (offset + 1)
        (some ⟨p.byte, p.first, p.owed - 1, 0x80, 0xbf, p.value * 64 + n % 64⟩) bytes := by
  have hb : 0x80 + n % 64 < 256 := by omega
  rw [decodeFrom]
  simp only [toNat_ofNat_of_lt hb, hlow, hhigh, howed, and_self, if_true, if_false,
    Nat.add_sub_cancel_left]

theorem decodeFrom_last {p : Pending} (n offset : Nat) (bytes : List UInt8)
    (hlow : p.low ≤ 0x80 + n % 64) (hhigh : 0x80 + n % 64 ≤ p.high) (howed : p.owed = 1) :
    decodeFrom offset (some p) (UInt8.ofNat (0x80 + n % 64) :: bytes)
      = (decodeFrom (offset + 1) none bytes).map (Char.ofNat (p.value * 64 + n % 64) :: ·) := by
  have hb : 0x80 + n % 64 < 256 := by omega
  rw [decodeFrom]
  simp only [toNat_ofNat_of_lt hb, hlow, hhigh, howed, and_self, if_true, Nat.add_sub_cancel_left]

theorem decodeFrom_two {n : Nat} (hlow : 0x80 ≤ n) (hhigh : n < 0x800) (offset : Nat)
    (bytes : List UInt8) :
    decodeFrom offset none
        (UInt8.ofNat (0xc0 + n / 0x40) :: UInt8.ofNat (0x80 + n % 64) :: bytes)
      = (decodeFrom (offset + 2) none bytes).map (Char.ofNat n :: ·) := by
  have hfirst : Pending.ofFirst? (0xc0 + n / 0x40) offset
      = some ⟨0xc0 + n / 0x40, offset, 1, 0x80, 0xbf, 0xc0 + n / 0x40 - 0xc0⟩ :=
    if_pos (by omega)
  have hvalue : (0xc0 + n / 0x40 - 0xc0) * 64 + n % 64 = n := by omega
  rw [decodeFrom_first _ (by omega) (by omega) hfirst,
    decodeFrom_last n _ _ (Nat.le_add_right _ _) (by dsimp only; omega) rfl, hvalue]

theorem decodeFrom_three {n : Nat} (hlow : 0x800 ≤ n) (hhigh : n < 0x10000)
    (hvalid : n < 0xd800 ∨ 0xdfff < n) (offset : Nat) (bytes : List UInt8) :
    decodeFrom offset none (UInt8.ofNat (0xe0 + n / 0x1000)
        :: UInt8.ofNat (0x80 + n / 0x40 % 64) :: UInt8.ofNat (0x80 + n % 64) :: bytes)
      = (decodeFrom (offset + 3) none bytes).map (Char.ofNat n :: ·) := by
  obtain ⟨p, hfirst, howed, hvalue, hsecond, hsecond'⟩ : ∃ p,
      Pending.ofFirst? (0xe0 + n / 0x1000) offset = some p ∧ p.owed = 2 ∧ p.value = n / 0x1000
      ∧ p.low ≤ 0x80 + n / 0x40 % 64 ∧ 0x80 + n / 0x40 % 64 ≤ p.high := by
    -- the range of the second byte keeps out the values below `0x800` and the surrogates
    refine ⟨_, (if_neg (by omega)).trans (if_pos (by omega)), rfl, Nat.add_sub_cancel_left _ _,
      ?_, ?_⟩
    · dsimp only
      split_ifs <;> omega
    · dsimp only
      split_ifs <;> omega
  have hsum : (n / 0x1000 * 64 + n / 0x40 % 64) * 64 + n % 64 = n := by omega
  rw [decodeFrom_first _ (by omega) (by omega) hfirst,
    decodeFrom_more (n / 0x40) _ _ hsecond hsecond' (by omega),
    decodeFrom_last n _ _ (Nat.le_add_right _ _) (by dsimp only; omega) (by rw [howed]), hvalue, hsum]

theorem decodeFrom_four {n : Nat} (hlow : 0x10000 ≤ n) (hhigh : n < 0x110000) (offset : Nat)
    (bytes : List UInt8) :
    decodeFrom offset none (UInt8.ofNat (0xf0 + n / 0x40000)
        :: UInt8.ofNat (0x80 + n / 0x1000 % 64) :: UInt8.ofNat (0x80 + n / 0x40 % 64)
        :: UInt8.ofNat (0x80 + n % 64) :: bytes)
      = (decodeFrom (offset + 4) none bytes).map (Char.ofNat n :: ·) := by
  obtain ⟨p, hfirst, howed, hvalue, hsecond, hsecond'⟩ : ∃ p,
      Pending.ofFirst? (0xf0 + n / 0x40000) offset = some p ∧ p.owed = 3 ∧ p.value = n / 0x40000
      ∧ p.low ≤ 0x80 + n / 0x1000 % 64 ∧ 0x80 + n / 0x1000 % 64 ≤ p.high := by
    refine ⟨_, (if_neg (by omega)).trans ((if_neg (by omega)).trans (if_pos (by omega))), rfl,
      Nat.add_sub_cancel_left _ _, ?_, ?_⟩
    · dsimp only
      split_ifs <;> omega
    · dsimp only
      split_ifs <;> omega
  have hsum : ((n / 0x40000 * 64 + n / 0x1000 % 64) * 64 + n / 0x40 % 64) * 64 + n % 64 = n := by
    omega
  rw [decodeFrom_first _ (by omega) (by omega) hfirst,
    decodeFrom_more (n / 0x1000) _ _ hsecond hsecond' (by omega),
    decodeFrom_more (n / 0x40) _ _ (Nat.le_add_right _ _) (by dsimp only; omega)
      (by dsimp only; omega),
    decodeFrom_last n _ _ (Nat.le_add_right _ _) (by dsimp only; omega) (by dsimp only; omega),
    hvalue, hsum]

theorem decodeFrom_encodeChar (offset : Nat) (c : Char) (bytes : List UInt8) :
    ∃ next, decodeFrom offset none (encodeChar c ++ bytes)
      = (decodeFrom next none bytes).map (c :: ·) := by
  have hvalid : c.toNat < 0xd800 ∨ 0xdfff < c.toNat ∧ c.toNat < 0x110000 := c.valid
  have hc : Char.ofNat c.toNat = c := Char.ofNat_toNat c
  unfold encodeChar
  generalize c.toNat = n at hvalid hc
  subst hc
  simp only []
  split_ifs with h1 h2 h3
  · refine ⟨offset + 1, ?_⟩
    rw [List.singleton_append, decodeFrom]
    simp only [toNat_ofNat_of_lt (show n < 256 by omega), h1, if_true]
  · exact ⟨offset + 2, decodeFrom_two (by omega) h2 offset bytes⟩
  · exact ⟨offset + 3, decodeFrom_three (by omega) h3 (by omega) offset bytes⟩
  · exact ⟨offset + 4, decodeFrom_four (by omega) (by omega) offset bytes⟩

theorem decodeFrom_encode : ∀ (t : Text) (offset : Nat), decodeFrom offset none (encode t) = .ok t
  | [], offset => rfl
  | c :: t, offset => by
    obtain ⟨next, hnext⟩ := decodeFrom_encodeChar offset c (encode t)
    have hcons : encode (c :: t) = encodeChar c ++ encode t := List.flatMap_cons
    rw [hcons, hnext, decodeFrom_encode t next]
    rfl

theorem decode_encode (t : Text) : decode (encode t) = .ok t := decodeFrom_encode t 0

end Utf8

/-! ## Line ends -/

namespace LineBreak

/-- How the lines of a file end. -/
inductive Style where
  | lineFeed
  | carriageReturn
  | both
  deriving DecidableEq

def Style.text : Style → Text
  | lineFeed => ['\n']
  | carriageReturn => ['\r']
  | both => ['\r', '\n']

/-- The text with each newline written in one style. -/
def write (s : Style) (t : Text) : Text := t.flatMap fun c => if c = '\n' then s.text else [c]

theorem unify_cons_of_ne {c : Char} (h : c ≠ '\r') (t : Text) : unify (c :: t) = c :: unify t := by
  rw [unify, if_neg h]
  exact fun _ hc _ => h hc

theorem unify_return {t : Text} (h : t.head? ≠ some '\n') :
    unify ('\r' :: t) = '\n' :: unify t := by
  rw [unify, if_pos rfl]
  rintro t' - rfl
  exact h rfl

theorem write_cons_of_ne {c : Char} (h : c ≠ '\n') (s : Style) (t : Text) :
    write s (c :: t) = c :: write s t := by
  simp [write, h]

theorem write_newline (s : Style) (t : Text) : write s ('\n' :: t) = s.text ++ write s t := by
  simp [write]

theorem head?_write_carriageReturn (t : Text) : (write .carriageReturn t).head? ≠ some '\n' := by
  rcases t with - | ⟨c, t⟩
  · simp [write]
  · by_cases h : c = '\n'
    · simp [h, write_newline, Style.text]
    · simp [write_cons_of_ne h, h]

/-- The newlines of a text come back from any style, if no other character is a line end. -/
theorem unify_write (s : Style) : ∀ {t : Text}, '\r' ∉ t → unify (write s t) = t
  | [], _ => rfl
  | c :: t, h => by
    simp only [List.mem_cons, not_or] at h
    have ih := unify_write s h.2
    by_cases hc : c = '\n'
    · subst hc
      rw [write_newline]
      cases s with
      | lineFeed => rw [Style.text, List.singleton_append, unify_cons_of_ne (by decide), ih]
      | carriageReturn =>
        rw [Style.text, List.singleton_append, unify_return (head?_write_carriageReturn t), ih]
      | both => exact congrArg ('\n' :: ·) ih
    · rw [write_cons_of_ne hc, unify_cons_of_ne (Ne.symm h.1), ih]

end LineBreak

namespace FileTree

variable {tree : FileTree} {path : String} {place : List Text} {t : Text}

theorem readText_of_written {s : LineBreak.Style} (ht : '\r' ∉ t)
    (hplace : tree.resolve path = .ok place)
    (hfile : tree.entry? place = some (.file (Utf8.encode (LineBreak.write s t)))) :
    tree.readText path = .ok t := by
  simp only [readText, readBytes, hplace, hfile, Utf8.decode_encode, LineBreak.unify_write s ht]

end FileTree

/-! ## Excerpts -/

namespace Violation

variable {t : Text}

theorem exists_clampedOffset {p : Position} (hline : 0 ≤ p.line) (hlast : p.line < t.lines.length)
    (hcolumn : 0 ≤ p.column) : ∃ o, clampedOffset t p = .ok o := by
  have hlt : p.line.toNat < t.lines.length := by omega
  obtain ⟨line, hget⟩ : ∃ line, t.lines[p.line.toNat]? = some line :=
    ⟨_, List.getElem?_eq_getElem hlt⟩
  have hat : t.lineAt? p.line = some line := by
    rw [← hget, ← Text.lineAt?_natCast, Int.toNat_of_nonneg hline]
  obtain ⟨o, ho⟩ : ∃ o, t.Located o ⟨p.line, min p.column line.length⟩ := by
    rw [Text.exists_located_iff]
    exact ⟨hline, by simp only; omega, line, hget, by simp only; omega⟩
  exact ⟨o, clampedOffset_eq hat ho⟩

/-- A span whose lines and columns are not negative has an excerpt in every text. -/
theorem exists_excerpt (t : Text) {v : Violation} (hline : 0 ≤ v.span.start.line)
    (hcolumn : 0 ≤ v.span.start.column) (hstop : 0 ≤ v.span.stop.line)
    (hstop' : 0 ≤ v.span.stop.column) : ∃ x, v.excerpt t = .ok x := by
  have hpos : 0 < t.lines.length := List.length_pos_iff.2 (Text.lines_ne_nil t)
  by_cases h : v.span.start.line < t.lines.length
  · obtain ⟨i, hi⟩ := exists_clampedOffset hline h hcolumn
    obtain ⟨j, hj⟩ : ∃ j, clampedOffset t
        ⟨min v.span.stop.line (t.lines.length - 1), v.span.stop.column⟩ = .ok j :=
      exists_clampedOffset (by simp only; omega) (by simp only; omega) hstop'
    exact ⟨_, excerpt_eq h hi hj⟩
  · refine ⟨[], ?_⟩
    simp only [excerpt, if_pos (Int.not_lt.1 h)]
    rfl

theorem exists_excerpt_of_line (t : Text) {v : Violation} {n length : Nat}
    (h : v.span = Span.ofLine n length) : ∃ x, v.excerpt t = .ok x := by
  apply exists_excerpt t <;> rw [h] <;> simp [Span.ofLine]

end Violation

namespace Checks

/-- A scan gives a result, unless the text is refused, and each of its violations covers a stretch of
the text. -/
theorem scan_eq_ok {checks : Checks} {t : Text} (h : ¬checks.Refuses t) :
    ∃ vs, checks.scan t = .ok vs ∧ ∀ v ∈ vs, ∃ x, v.excerpt t = .ok x := by
  by_cases ht : t = []
  · subst ht
    exact ⟨[], rfl, by simp⟩
  obtain ⟨vs, hvs, hreports⟩ := scanRules_reports checks.rules t
  refine ⟨_, scan_of_ne_nil ht h hvs, fun v hv => ?_⟩
  simp only [lineReports, List.mem_append] at hv
  rcases hv with ((hv | hv) | hv) | hv
  · obtain rfl := Header.eq_of_mem_check hv
    exact Violation.exists_excerpt t (by decide) (by decide) (by decide) (by decide)
  · obtain ⟨n, line, -, -, rfl⟩ := LineLength.mem_longLines_iff.1 hv
    exact Violation.exists_excerpt_of_line t rfl
  · obtain ⟨n, line, -, rfl⟩ := BodyComment.mem_checkFrom hv
    exact Violation.exists_excerpt_of_line t rfl
  · obtain ⟨r, -, m, -, hr⟩ := hreports v hv
    exact ⟨_, Violation.excerpt_of_located hr.start hr.stop⟩

end Checks

/-! ## Files and texts have the same violations -/

namespace Scanner

variable {s : Scanner} {tree : FileTree} {path : String} {t : Text}

theorem scanText_eq_ok {vs : List Violation} (h : s.checks.scan t = .ok vs) :
    s.scanText t = .ok vs := by
  rw [scanText, h]
  rfl

/-- What the scan of a text gives: its violations, or the reason why its lines are refused. -/
theorem scanText_cases (s : Scanner) (t : Text) :
    (s.checks.Refuses t ∧ ∃ e, s.scanText t = .error (.checks (.length e)))
      ∨ ¬s.checks.Refuses t
        ∧ ∃ vs, s.scanText t = .ok vs ∧ ∀ v ∈ vs, ∃ x, v.excerpt t = .ok x := by
  by_cases h : s.checks.Refuses t
  · obtain ⟨e, he⟩ := Checks.scan_of_refuses h
    refine .inl ⟨h, e, ?_⟩
    rw [scanText, he]
    rfl
  · obtain ⟨vs, hvs, hexcerpt⟩ := Checks.scan_eq_ok h
    exact .inr ⟨h, vs, scanText_eq_ok hvs, hexcerpt⟩

theorem resultOfText_eq_ok {vs : List Violation} (path : String) (h : s.scanText t = .ok vs) :
    s.resultOfText path t
      = .ok { path, violations := vs, status := if vs.isEmpty then .ok else .violations } := by
  simp only [resultOfText, h]
  rfl

theorem resultOfText_eq_error {e : Error} (path : String) (h : s.scanText t = .error e) :
    s.resultOfText path t = .error e := by
  simp only [resultOfText, h]
  rfl

theorem scanFile_of_readText (heligible : s.isEligible path = true)
    (h : tree.readText path = .ok t) : s.scanFile tree path = s.resultOfText path t := by
  simp only [scanFile, heligible, h, Bool.not_true, Bool.false_eq_true, if_false]

end Scanner

namespace Service

/-- The object that shows a violation, with the text that it covers. -/
def Shows (t : Text) (v : Violation) (j : Json) : Prop :=
  ∃ x, v.excerpt t = .ok x
    ∧ j = .obj [("rule", .str v.rule), ("message", .str v.message),
      ("severity", .str (match v.severity with
        | .major => "major"
        | .minor => "minor"
        | .info => "info")),
      ("start_line", .int v.span.start.line), ("start_col", .int v.span.start.column),
      ("end_line", .int v.span.stop.line), ("end_col", .int v.span.stop.column),
      ("text", .str (String.ofList x))]

theorem shows_of_excerpt {t x : Text} {v : Violation} (h : v.excerpt t = .ok x) :
    Shows t v (.obj (v.members ++ [("text", .str (String.ofList x))])) := by
  refine ⟨x, h, ?_⟩
  rcases hv : v.severity <;> simp [Violation.members, Severity.name, hv]

theorem checkText_of_eligible {s : Service} {name : String} (t : Text)
    (h : s.scanner.isEligible name = true) : s.checkText t (some name) = s.checkText t none := by
  simp [checkText, h]

theorem checkText_eq_error {s : Service} {t : Text} {e : Scanner.Error}
    (h : s.scanner.scanText t = .error e) : s.checkText t none = .error e.message := by
  simp only [checkText, Option.any_none, Bool.false_eq_true, if_false, h]
  rfl

theorem checkText_eq_ok {s : Service} {t : Text} {vs : List Violation}
    (h : s.scanner.scanText t = .ok vs) (hexcerpt : ∀ v ∈ vs, ∃ x, v.excerpt t = .ok x) :
    ∃ found, s.checkText t none = .ok (.obj [("success", .bool true), ("skipped", .bool false),
        ("violations", .arr found)])
      ∧ List.Forall₂ (Shows t) vs found := by
  obtain ⟨found, hfound, hshows⟩ := mapM_eq_ok (R := Shows t)
    (f := fun v => do
      let covered ← (v.excerpt t).mapError Violation.ExcerptError.message
      return Json.obj (v.members ++ [("text", .str (String.ofList covered))]))
    (l := vs) fun v hv => by
      obtain ⟨x, hx⟩ := hexcerpt v hv
      refine ⟨_, ?_, shows_of_excerpt hx⟩
      rw [hx]
      rfl
  refine ⟨found, ?_, hshows⟩
  simp only [checkText, Option.any_none, Bool.false_eq_true, if_false, h]
  simp only [bind, Except.bind, Except.mapError] at hfound ⊢
  rw [hfound]
  rfl

/-- A file has the violations of the text that was written to it, whatever its line ends, and they are
what the service shows for that text. Where the text cannot be checked, for settings out of range, all
three fail for the same reason. -/
theorem scanFile_eq_scanText (s : Service) (tree : FileTree) (path : String) (place : List Text)
    (style : LineBreak.Style) (t : Text) (ht : '\r' ∉ t)
    (heligible : s.scanner.isEligible path = true) (hplace : tree.resolve path = .ok place)
    (hfile : tree.entry? place = some (.file (Utf8.encode (LineBreak.write style t)))) :
    (s.scanner.checks.limits.InRange → ∃ vs, s.scanner.scanText t = .ok vs)
      ∧ (∀ e, s.scanner.scanText t = .error e →
        s.scanner.scanFile tree path = .error e ∧ s.checkText t none = .error e.message)
      ∧ (∀ vs, s.scanner.scanText t = .ok vs → ∃ result found,
        s.scanner.scanFile tree path = .ok result
        ∧ result.path = path ∧ result.violations = vs ∧ result.error = none
        ∧ (result.status.label = "Violations" ↔ vs ≠ [])
        ∧ (result.status.label = "OK" ↔ vs = [])
        ∧ s.checkText t none = .ok (.obj [("success", .bool true), ("skipped", .bool false),
          ("violations", .arr found)])
        ∧ List.Forall₂ (Shows t) vs found)
      ∧ s.checkText t (some path) = s.checkText t none := by
  have hread := FileTree.readText_of_written ht hplace hfile
  refine ⟨fun hrange => ?_, fun e he => ?_, fun vs hvs => ?_, checkText_of_eligible t heligible⟩
  · rcases s.scanner.scanText_cases t with ⟨hrefuses, -⟩ | ⟨-, vs, hvs, -⟩
    · exact absurd hrefuses (Checks.not_refuses_of_inRange hrange t)
    · exact ⟨vs, hvs⟩
  · refine ⟨?_, checkText_eq_error he⟩
    rw [Scanner.scanFile_of_readText heligible hread, Scanner.resultOfText_eq_error path he]
  · have hexcerpt : ∀ v ∈ vs, ∃ x, v.excerpt t = .ok x := by
      rcases s.scanner.scanText_cases t with ⟨-, e, he⟩ | ⟨-, us, hus, hexcerpt⟩
      · simp [he] at hvs
      · obtain rfl : us = vs := by simpa [hus] using hvs
        exact hexcerpt
    obtain ⟨found, hfound, hshows⟩ := checkText_eq_ok hvs hexcerpt
    refine ⟨⟨path, if vs.isEmpty then .ok else .violations, vs, none⟩, found, ?_, rfl, rfl, rfl,
      ?_, ?_, hfound, hshows⟩
    · rw [Scanner.scanFile_of_readText heligible hread, Scanner.resultOfText_eq_ok path hvs]
    · rcases vs with - | ⟨v, vs⟩ <;> simp [Status.ok, Status.violations]
    · rcases vs with - | ⟨v, vs⟩ <;> simp [Status.ok, Status.violations]

/-- A file found from the root, with two bytes in a character, two in a line end and two violations. -/
theorem scanFile_eq_scanText_two_bytes :
    let s : Service :=
      { scanner := .ofExtensions [['c']] { limits := { maxColumns := 1 }, rules := [] } }
    let t : Text := ['é', ' ', '\n', '\n']
    let bytes : List UInt8 := [0xc3, 0xa9, 0x20, 0x0d, 0x0a, 0x0d, 0x0a]
    let tree : FileTree := ({} : FileTree).addFile [['d'], ['a', '.', 'c']] bytes
    let header : Violation :=
      ⟨Header.span, "File must start with the Epitech header.", "HEADER_MISSING", .major⟩
    let long : Violation :=
      ⟨Span.ofLine 0 2, "Line can't exceed 1 columns (2).", "TOO_LONG_LINE", .major⟩
    ∃ result, s.scanner.scanText t = .ok [header, long]
      ∧ s.scanner.scanFile tree "/d/a.c" = .ok result ∧ result.violations = [header, long]
      ∧ result.status.label = "Violations"
      ∧ s.checkText t (some "/d/a.c") = .ok (.obj [("success", .bool true),
        ("skipped", .bool false), ("violations", .arr [
          .obj [("rule", .str "HEADER_MISSING"),
            ("message", .str "File must start with the Epitech header."),
            ("severity", .str "major"), ("start_line", .int 0), ("start_col", .int 0),
            ("end_line", .int 5), ("end_col", .int 9223372036854775807),
            ("text", .str "é \n\n")],
          .obj [("rule", .str "TOO_LONG_LINE"),
            ("message", .str "Line can't exceed 1 columns (2)."),
            ("severity", .str "major"), ("start_line", .int 0), ("start_col", .int 0),
            ("end_line", .int 0), ("end_col", .int 2), ("text", .str "é ")]])]) := by
  intro s t bytes tree header long
  have ht : '\r' ∉ t := by decide
  have heligible : s.scanner.isEligible "/d/a.c" = true := by decide
  have hplace : tree.resolve "/d/a.c" = .ok [['d'], ['a', '.', 'c']] := by decide
  have hfile : tree.entry? [['d'], ['a', '.', 'c']]
      = some (.file (Utf8.encode (LineBreak.write .both t))) := by decide
  have hscan : s.scanner.scanText t = .ok [header, long] := by decide +kernel
  obtain ⟨-, -, hsame, hname⟩ :=
    scanFile_eq_scanText s tree "/d/a.c" _ .both t ht heligible hplace hfile
  obtain ⟨result, found, hresult, -, hviolations, -, hstatus, -, hcheck, hshows⟩ := hsame _ hscan
  refine ⟨result, hscan, hresult, hviolations, hstatus.2 (by simp), ?_⟩
  rw [hname, hcheck]
  obtain ⟨j, js, ⟨x, hx, rfl⟩, hrest, rfl⟩ := List.forall₂_cons_left_iff.1 hshows
  obtain ⟨k, ks, ⟨y, hy, rfl⟩, hnone, rfl⟩ := List.forall₂_cons_left_iff.1 hrest
  obtain rfl := List.forall₂_nil_left_iff.1 hnone
  obtain rfl : ['é', ' ', '\n', '\n'] = x := by
    have : header.excerpt t = .ok ['é', ' ', '\n', '\n'] := by rfl
    simpa [this] using hx
  obtain rfl : ['é', ' '] = y := by
    have : long.excerpt t = .ok ['é', ' '] := by rfl
    simpa [this] using hy
  rfl

end Service

end SourceStyle
