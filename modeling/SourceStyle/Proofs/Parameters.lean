import SourceStyle.Proofs.Search
import SourceStyle.Proofs.Spelling

/-!
# Parameter lists that are too long

The commas of a parameter list can be shared out in many ways between the repeated part of the
pattern and what follows it, but all of them read the same texts: those without parentheses and with
at least four commas. A match then has only one form, `Rule.LongParameters`, in which no other match
can start, so a search reports them all.
-/

namespace SourceStyle

namespace Rule

open Pattern

/-- A parenthesis at `s` that closes at `q`, with at least four commas and no parenthesis in between,
and blanks from there up to an opening brace at `e`. -/
structure LongParameters (t : Text) (s q e : Nat) : Prop where
  opens : t[s]? = some '('
  closes : t[q]? = some ')'
  lt : s < q
  flat : '(' ∉ t.slice (s + 1) q ∧ ')' ∉ t.slice (s + 1) q
  commas : 4 ≤ (t.slice (s + 1) q).count ','
  spaced : t.slice (q + 1) e ≠ []
  blank : ∀ c ∈ t.slice (q + 1) e, c = ' ' ∨ c = '\t' ∨ c = '\n'
  body : t[e]? = some '\x7b'

theorem LongParameters.lt_body {t : Text} {s q e : Nat} (h : LongParameters t s q e) :
    q + 1 < e := by
  obtain ⟨hlen, -⟩ := List.getElem?_eq_some_iff.1 h.body
  have hpos := List.length_pos_iff.2 h.spaced
  rw [Text.length_slice (Nat.le_of_lt hlen)] at hpos
  omega

/-! ## The words between the parentheses -/

/-- A parameter and the comma behind it. -/
def parameter : Pattern := seq (star (noneOf ['(', ')', ','])) (char ',')

/-- What `parameter` spells. -/
def parameterWords : Language Char :=
  (words fun w => '(' ∉ w ∧ ')' ∉ w ∧ ',' ∉ w) * {[',']}

theorem spells_parameter : parameter.Spells parameterWords :=
  ((spells_star_noneOf _).congr fun w => by simp).seq (spells_char ',')

theorem of_mem_parameterWords_pow {n : Nat} {w : Text} (h : w ∈ parameterWords ^ n) :
    ('(' ∉ w ∧ ')' ∉ w) ∧ w.count ',' = n := by
  induction n generalizing w with
  | zero =>
    rw [pow_zero, Language.mem_one] at h
    simp [h]
  | succ n ih =>
    rw [pow_succ'] at h
    obtain ⟨_, ⟨a, ⟨ha, ha', hcomma⟩, _, rfl, rfl⟩, b, hb, rfl⟩ := h
    obtain ⟨⟨hb1, hb2⟩, hcount⟩ := ih hb
    refine ⟨by simp [ha, ha', hb1, hb2], ?_⟩
    simp [List.count_eq_zero_of_not_mem hcomma, hcount]

theorem mem_parameterWords_pow_mul {n : Nat} {w : Text} (hopen : '(' ∉ w) (hclose : ')' ∉ w)
    (hn : n ≤ w.count ',') : w ∈ parameterWords ^ n * words fun v => '(' ∉ v ∧ ')' ∉ v := by
  induction n generalizing w with
  | zero =>
    rw [pow_zero, one_mul]
    exact ⟨hopen, hclose⟩
  | succ n ih =>
    -- The first comma ends the first parameter.
    have hmem : ',' ∈ w := List.count_pos_iff.1 (by omega)
    obtain ⟨a, b, rfl, ha⟩ := List.eq_append_cons_of_mem hmem
    simp only [List.mem_append, List.mem_cons, not_or] at hopen hclose
    rw [List.count_append, List.count_cons_self, List.count_eq_zero_of_not_mem ha] at hn
    rw [pow_succ', mul_assoc, List.append_cons]
    refine Language.append_mem_mul ?_ (ih hopen.2.2 hclose.2.2 (by omega))
    exact Language.append_mem_mul ⟨hopen.1, hclose.1, ha⟩ rfl

/-- The repeated part and what follows it read the texts without parentheses and with at least four
commas. -/
theorem spells_parameters : (seq (atLeast 4 parameter) (star (noneOf ['(', ')']))).Spells
    (words fun w => ('(' ∉ w ∧ ')' ∉ w) ∧ 4 ≤ w.count ',') := by
  have hrest : (star (noneOf ['(', ')'])).Spells (words fun w => '(' ∉ w ∧ ')' ∉ w) :=
    (spells_star_noneOf _).congr fun w => by simp
  refine ((spells_parameter.many 4 none).seq hrest).congr fun w => ?_
  constructor
  · rintro ⟨a, ⟨n, hn, -, ha⟩, b, ⟨hb, hb'⟩, rfl⟩
    obtain ⟨⟨ha1, ha2⟩, hcount⟩ := of_mem_parameterWords_pow ha
    refine ⟨by simp [ha1, ha2, hb, hb'], ?_⟩
    rw [List.count_append]
    omega
  · rintro ⟨⟨hopen, hclose⟩, hcount⟩
    obtain ⟨a, ha, b, hb, rfl⟩ := mem_parameterWords_pow_mul hopen hclose hcount
    exact ⟨a, ⟨4, Nat.le_refl 4, by simp, ha⟩, b, hb, rfl⟩

/-! ## Matches -/

variable {t : Text} {s q e : Nat}

theorem matches_tooManyParams_iff :
    tooManyParams.pattern.Matches t s e ↔ ∃ q, LongParameters t s q e := by
  constructor
  · rintro ⟨a, ha, b, hab, q, hbq, c, hc, d, hcd, rfl, j, hj⟩
    obtain ⟨hs, rfl⟩ := matches_char_iff.1 ha
    obtain ⟨hq, rfl⟩ := matches_char_iff.1 hc
    obtain ⟨he, -⟩ := matches_char_iff.1 hj
    obtain ⟨hslen, -⟩ := List.getElem?_eq_some_iff.1 hs
    obtain ⟨hqlen, -⟩ := List.getElem?_eq_some_iff.1 hq
    obtain ⟨hsq, -, hflat, hcommas⟩ := (spells_parameters t (s + 1) q hslen).1 ⟨b, hab, hbq⟩
    obtain ⟨-, -, hspaced, hblank⟩ := (spells_plus_oneOf _ t (q + 1) d hqlen).1 hcd
    exact ⟨q, hs, hq, hsq, hflat, hcommas, hspaced, fun c hc => by simpa using hblank c hc, he⟩
  · rintro ⟨q, h⟩
    obtain ⟨hslen, -⟩ := List.getElem?_eq_some_iff.1 h.opens
    obtain ⟨hqlen, -⟩ := List.getElem?_eq_some_iff.1 h.closes
    obtain ⟨helen, -⟩ := List.getElem?_eq_some_iff.1 h.body
    obtain ⟨b, hab, hbq⟩ := (spells_parameters t (s + 1) q hslen).2
      ⟨h.lt, Nat.le_of_lt hqlen, h.flat, h.commas⟩
    have hqe := h.lt_body
    have hblanks := (spells_plus_oneOf [' ', '\t', '\n'] t (q + 1) e hqlen).2
      ⟨Nat.le_of_lt hqe, Nat.le_of_lt helen, h.spaced, fun c hc => by simpa using h.blank c hc⟩
    exact ⟨s + 1, matches_char_iff.2 ⟨h.opens, rfl⟩, b, hab, q, hbq, q + 1,
      matches_char_iff.2 ⟨h.closes, rfl⟩, e, hblanks, rfl, e + 1, matches_char_iff.2 ⟨h.body, rfl⟩⟩

namespace LongParameters

/-- No parenthesis opens inside a match. -/
theorem le_of_opens (h : LongParameters t s q e) {b : Nat} (hb : t[b]? = some '(') (hsb : s < b) :
    e ≤ b := by
  by_contra hbe
  rcases Nat.lt_trichotomy b q with hlt | rfl | hlt
  · exact h.flat.1 (Text.mem_slice hb hsb hlt)
  · have := hb.symm.trans h.closes
    simp at this
  · have := h.blank _ (Text.mem_slice hb hlt (Nat.lt_of_not_le hbe))
    simp at this

theorem close_le {q' e' : Nat} (h : LongParameters t s q e) (h' : LongParameters t s q' e') :
    q ≤ q' := by
  by_contra hlt
  exact h.flat.2 (Text.mem_slice h'.closes h'.lt (Nat.lt_of_not_le hlt))

theorem body_le {e' : Nat} (h : LongParameters t s q e) (h' : LongParameters t s q e') :
    e ≤ e' := by
  by_contra hlt
  have := h.blank _ (Text.mem_slice h'.body (Nat.le_of_lt h'.lt_body) (Nat.lt_of_not_le hlt))
  simp at this

theorem body_unique {q' e' : Nat} (h : LongParameters t s q e) (h' : LongParameters t s q' e') :
    e = e' := by
  obtain rfl := Nat.le_antisymm (h.close_le h') (h'.close_le h)
  exact Nat.le_antisymm (h.body_le h') (h'.body_le h)

end LongParameters

theorem endsAlike_tooManyParams (t : Text) : tooManyParams.pattern.EndsAlike t := by
  intro a b d e had hbe hab hbd
  obtain ⟨q, h⟩ := matches_tooManyParams_iff.1 had
  obtain ⟨q', h'⟩ := matches_tooManyParams_iff.1 hbe
  rcases Nat.eq_or_lt_of_le hab with rfl | hlt
  · exact h.body_unique h'
  · exact absurd (h.le_of_opens h'.opens hlt) (Nat.not_le.2 hbd)

/-- The matches are the parameter lists that are too long, from left to right, and none of them stands
in the way of another. -/
theorem findAll_tooManyParams_exact (t : Text) :
    (∀ s e, (s, e) ∈ tooManyParams.pattern.findAll t ↔ ∃ q, LongParameters t s q e)
      ∧ (tooManyParams.pattern.findAll t).Pairwise (fun m m' => m.1 < m'.1)
      ∧ ∀ s q e s' q' e', LongParameters t s q e → LongParameters t s' q' e' → s < s' → e ≤ s' := by
  have hwide : 0 < tooManyParams.pattern.minWidth := by decide
  have hfound := foundFrom_findAll tooManyParams.pattern t
  refine ⟨fun s e => ?_, ?_, fun s q e s' q' e' h h' hlt => h.le_of_opens h'.opens hlt⟩
  · rw [mem_findAll_iff hwide (endsAlike_tooManyParams t)]
    constructor
    · rintro ⟨-, hmatch, -⟩
      exact matches_tooManyParams_iff.1 hmatch
    · rintro ⟨q, h⟩
      obtain ⟨hslen, -⟩ := List.getElem?_eq_some_iff.1 h.opens
      refine ⟨Nat.le_of_lt hslen, matches_tooManyParams_iff.2 ⟨q, h⟩, fun a ha hmatch => ?_⟩
      obtain ⟨q', h'⟩ := matches_tooManyParams_iff.1 hmatch
      have hes := h'.le_of_opens h.opens ha
      have hse := h.lt
      have hqe := h.lt_body
      omega
  · refine hfound.ordered.imp_of_mem fun {m m'} hm _ hfollow => ?_
    exact Nat.lt_of_lt_of_le (hfound.lt_of_minWidth hwide m hm) hfollow.1

end Rule

end SourceStyle
