import SourceStyle.Proofs.Search
import SourceStyle.Proofs.Spelling

/-!
# Keywords that are badly spaced

A keyword holds no parenthesis, no tab and no two spaces in a row, and one of these stands behind a
badly spaced keyword. So such a keyword cannot end inside another, and two of them that overlap end at
the same place. The only keyword that another one ends with is the `if` of an `else if`: that one is
covered by the longer match, and all others are reported.
-/

namespace SourceStyle

namespace Rule

open Pattern

def keywords : List Text := ["return", "if", "else if", "else", "while", "for"].map String.toList

/-- What must not stand behind a keyword: a parenthesis, a tab or two spaces. -/
def Crowds (t : Text) (e : Nat) : Prop :=
  t[e]? = some '(' ∨ t[e]? = some '\t' ∨ t[e]? = some ' ' ∧ t[e + 1]? = some ' '

/-- A keyword from `s` up to `e` with the wrong spacing behind it. -/
structure BadlySpaced (t : Text) (s e : Nat) : Prop where
  keyword : t.slice s e ∈ keywords
  crowded : Crowds t e

/-- The `if` of an `else if`. -/
def AfterElse (t : Text) (s e : Nat) : Prop :=
  t.slice s e = "if".toList ∧ 5 ≤ s ∧ t.slice (s - 5) s = "else ".toList

/-! ## Words -/

theorem ne_nil_of_mem_keywords : ∀ w ∈ keywords, w ≠ [] := by decide

theorem getElem?_of_mem_keywords : ∀ w ∈ keywords, ∀ k < w.length,
    w[k]? ≠ some '(' ∧ w[k]? ≠ some '\t'
      ∧ (w[k]? = some ' ' → k + 1 < w.length ∧ w[k + 1]? ≠ some ' ') := by decide

theorem suffix_of_mem_keywords : ∀ v ∈ keywords, ∀ w ∈ keywords, v <:+ w →
    v = w ∨ v = "if".toList ∧ w = "else if".toList := by decide

/-! ## Occurrences -/

variable {t : Text} {s e : Nat}

theorem Crowds.lt_length (h : Crowds t e) : e < t.length := by
  rcases h with h | h | ⟨h, -⟩ <;> exact (List.getElem?_eq_some_iff.1 h).1

theorem BadlySpaced.lt (h : BadlySpaced t s e) : s < e := by
  have hpos := List.length_pos_iff.2 (ne_nil_of_mem_keywords _ h.keyword)
  rw [Text.length_slice (Nat.le_of_lt h.crowded.lt_length)] at hpos
  omega

/-- What crowds a keyword does not stand inside a keyword. -/
theorem BadlySpaced.le_of_crowds (h : BadlySpaced t s e) {m : Nat} (hm : Crowds t m)
    (hsm : s ≤ m) : e ≤ m := by
  by_contra hlt
  have hlen := Text.length_slice (i := s) (Nat.le_of_lt h.crowded.lt_length)
  obtain ⟨hparen, htab, hspace⟩ := getElem?_of_mem_keywords _ h.keyword (m - s) (by omega)
  rw [Text.getElem?_slice hsm (by omega)] at hparen htab hspace
  rcases hm with hm | hm | ⟨hm, hm'⟩
  · exact hparen hm
  · exact htab hm
  · obtain ⟨hnext, hne⟩ := hspace hm
    rw [← Nat.sub_add_comm hsm, Text.getElem?_slice (by omega) (by omega)] at hne
    exact hne hm'

theorem BadlySpaced.end_unique {a b d : Nat} (h : BadlySpaced t a d) (h' : BadlySpaced t b e)
    (hab : a ≤ b) (hbd : b < d) : d = e := by
  have hle := h.le_of_crowds h'.crowded (Nat.le_trans hab (Nat.le_of_lt h'.lt))
  have hge := h'.le_of_crowds h.crowded (Nat.le_of_lt hbd)
  omega

/-- A keyword that ends where one ends that starts before it is the `if` of an `else if`. -/
theorem BadlySpaced.afterElse {a : Nat} (h : BadlySpaced t s e) (h' : BadlySpaced t a e)
    (ha : a < s) : AfterElse t s e ∧ a = s - 5 := by
  have hsplit := Text.slice_append_slice (t := t) (Nat.le_of_lt ha) (Nat.le_of_lt h.lt)
  have hlen := Text.length_slice (t := t) (i := a) (j := s)
    (by have := h.lt; have := h.crowded.lt_length; omega)
  rcases suffix_of_mem_keywords _ h.keyword _ h'.keyword ⟨_, hsplit⟩ with heq | ⟨hif, helse⟩
  · rw [heq, List.append_left_eq_self] at hsplit
    rw [hsplit, List.length_nil] at hlen
    omega
  · have hwords : "else if".toList = "else ".toList ++ "if".toList := by decide
    rw [hif, helse, hwords] at hsplit
    have hbefore := List.append_cancel_right hsplit
    rw [hbefore] at hlen
    have hfive : "else ".toList.length = 5 := by decide
    obtain rfl : a = s - 5 := by omega
    exact ⟨⟨hif, by omega, hbefore⟩, rfl⟩

theorem AfterElse.slice_eq (h : AfterElse t s e) (hse : s ≤ e) :
    t.slice (s - 5) e = "else if".toList := by
  obtain ⟨hif, -, helse⟩ := h
  rw [← Text.slice_append_slice (Nat.sub_le s 5) hse, hif, helse]
  decide

theorem AfterElse.badlySpaced (helse : AfterElse t s e) (h : BadlySpaced t s e) :
    BadlySpaced t (s - 5) e := by
  refine ⟨?_, h.crowded⟩
  rw [helse.slice_eq (Nat.le_of_lt h.lt)]
  decide

/-! ## Matches -/

theorem exists_matches_crowding_iff :
    (∃ j, (choice [char '(', seq (char ' ') (plus (char ' ')), char '\t']).Matches t e j)
      ↔ Crowds t e := by
  constructor
  · rintro ⟨j, h | ⟨m, hm, n, hn, -, hsteps⟩ | h⟩
    · exact .inl (matches_char_iff.1 h).1
    · obtain ⟨he, rfl⟩ := matches_char_iff.1 hm
      obtain ⟨n, rfl⟩ := Nat.exists_eq_add_of_le' hn
      obtain ⟨m, hm, -⟩ := hsteps
      exact .inr (.inr ⟨he, (matches_char_iff.1 hm).1⟩)
    · exact .inr (.inl (matches_char_iff.1 h).1)
  · rintro (h | h | ⟨h, h'⟩)
    · exact ⟨e + 1, .inl (matches_char_iff.2 ⟨h, rfl⟩)⟩
    · exact ⟨e + 1, .inr (.inr (matches_char_iff.2 ⟨h, rfl⟩))⟩
    · exact ⟨e + 2, .inr (.inl ⟨e + 1, matches_char_iff.2 ⟨h, rfl⟩, 1, Nat.le_refl 1, by simp,
        e + 2, matches_char_iff.2 ⟨h', rfl⟩, rfl⟩)⟩

theorem matches_spaceAfterKeyword_iff :
    spaceAfterKeyword.pattern.Matches t s e ↔ BadlySpaced t s e := by
  have hspells := spells_choice_literal "return" ["if", "else if", "else", "while", "for"]
  constructor
  · rintro ⟨_, hword, rfl, hahead⟩
    have hcrowds := exists_matches_crowding_iff.1 hahead
    have hlen := hcrowds.lt_length
    have hle := hword.le
    exact ⟨((hspells t s _ (by omega)).1 hword).2.2, hcrowds⟩
  · intro h
    have hlen := h.crowded.lt_length
    have hlt := h.lt
    exact ⟨e, (hspells t s e (by omega)).2 ⟨by omega, by omega, h.keyword⟩, rfl,
      exists_matches_crowding_iff.2 h.crowded⟩

theorem endsAlike_spaceAfterKeyword (t : Text) : spaceAfterKeyword.pattern.EndsAlike t := by
  intro a b d e had hbe hab hbd
  rw [matches_spaceAfterKeyword_iff] at had hbe
  exact had.end_unique hbe hab hbd

theorem mem_findAll_spaceAfterKeyword_iff : (s, e) ∈ spaceAfterKeyword.pattern.findAll t
    ↔ BadlySpaced t s e ∧ ¬ AfterElse t s e := by
  rw [mem_findAll_iff (by decide) (endsAlike_spaceAfterKeyword t)]
  simp only [matches_spaceAfterKeyword_iff]
  constructor
  · rintro ⟨-, h, hfirst⟩
    refine ⟨h, fun helse => ?_⟩
    have hs := helse.2.1
    exact hfirst (s - 5) (by omega) (helse.badlySpaced h)
  · rintro ⟨h, hnot⟩
    have hlen := h.crowded.lt_length
    have hlt := h.lt
    exact ⟨by omega, h, fun a ha h' => hnot (h.afterElse h' ha).1⟩

/-- The matches are the badly spaced keywords, from left to right. Only the `if` of an `else if` is not
reported on its own, and then the `else if` is. -/
theorem findAll_spaceAfterKeyword_exact (t : Text) :
    (∀ s e, (s, e) ∈ spaceAfterKeyword.pattern.findAll t
        ↔ BadlySpaced t s e ∧ ¬ (t.slice s e = "if".toList ∧ 5 ≤ s
          ∧ t.slice (s - 5) s = "else ".toList))
      ∧ (spaceAfterKeyword.pattern.findAll t).Pairwise (fun m m' => m.1 < m'.1)
      ∧ ∀ s e, BadlySpaced t s e → (s, e) ∉ spaceAfterKeyword.pattern.findAll t →
        t.slice s e = "if".toList ∧ (s - 5, e) ∈ spaceAfterKeyword.pattern.findAll t
          ∧ t.slice (s - 5) e = "else if".toList := by
  refine ⟨fun s e => mem_findAll_spaceAfterKeyword_iff,
    (foundFrom_findAll _ t).pairwise_start_lt (by decide), fun s e h hnot => ?_⟩
  have helse : AfterElse t s e := by
    by_contra hne
    exact hnot (mem_findAll_spaceAfterKeyword_iff.2 ⟨h, hne⟩)
  have hlong := helse.slice_eq (Nat.le_of_lt h.lt)
  refine ⟨helse.1, mem_findAll_spaceAfterKeyword_iff.2 ⟨helse.badlySpaced h, fun hif => ?_⟩, hlong⟩
  rw [AfterElse, hlong] at hif
  exact absurd hif.1 (by decide)

end Rule

end SourceStyle
