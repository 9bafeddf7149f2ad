import SourceStyle.Rule
import SourceStyle.Proofs.Matching

/-!
# Searching a text

A search looks at the offsets of a text from left to right and reports at each at most an empty match
and one that is not, leaving out those that would start inside the match before
(`endsAt_cases`). `FoundFrom` is what the matches reported from an offset on have in common, kept by
every step of the search: they match, they follow one another, and no match is lost. Where no match is
empty, only one list is like this (`FoundFrom.unique`). For a pattern whose overlapping matches, or at
least the preferred ones, end at the same place, the search reports just those that none with the same
end starts before (`mem_findAll_iff`, `mem_findAll_iff_preferred`).
-/

namespace SourceStyle

namespace Pattern

/-- A reported match and one that comes later. -/
def Follows (a b : Nat × Nat) : Prop := a.2 ≤ b.1 ∧ (a.1 = a.2 → a.2 < b.2)

/-- The match from `i` to `e` is the preferred one, or the preferred one of those that are not empty
where the preferred one is empty. -/
def Preferred (p : Pattern) (t : Text) (i e : Nat) : Prop :=
  (p.ends t i).head? = some e
    ∨ (p.ends t i).head? = some i ∧ (p.ends t i).find? (i < ·) = some e

/-- The matches that a search reports from the offset `k` on. -/
structure FoundFrom (p : Pattern) (t : Text) (k : Nat) (ms : List (Nat × Nat)) : Prop where
  starts : ∀ m ∈ ms, k ≤ m.1 ∧ m.1 ≤ t.length
  preferred : ∀ m ∈ ms, p.Preferred t m.1 m.2
  ordered : ms.Pairwise Follows
  covers : ∀ q, k ≤ q → q ≤ t.length → (∃ j, p.Matches t q j) →
    ∃ m ∈ ms, m.1 = q ∨ m.1 < q ∧ q < m.2

variable {p : Pattern} {t : Text}

theorem Preferred.matches {i e : Nat} (h : p.Preferred t i e) (hi : i ≤ t.length) :
    p.Matches t i e := by
  rw [← mem_ends_iff hi]
  rcases h with h | ⟨-, h⟩
  · exact List.mem_of_head? h
  · exact List.mem_of_find?_eq_some h

/-- A pattern that matches no empty text has only one preferred match at an offset. -/
theorem Preferred.head?_eq {i e : Nat} (h : p.Preferred t i e) (hp : 0 < p.minWidth)
    (hi : i ≤ t.length) : (p.ends t i).head? = some e := by
  rcases h with h | ⟨h, -⟩
  · exact h
  · have := ((mem_ends_iff hi).1 (List.mem_of_head? h)).add_minWidth_le
    omega

theorem FoundFrom.matches {k : Nat} {ms : List (Nat × Nat)} (h : FoundFrom p t k ms)
    {m : Nat × Nat} (hm : m ∈ ms) : p.Matches t m.1 m.2 :=
  (h.preferred m hm).matches (h.starts m hm).2

/-! ## One offset -/

/-- What is reported at an offset: nothing where nothing matches, the preferred match, or an empty
match and then one that is not. -/
theorem endsAt_cases {i : Nat} (hi : i ≤ t.length) :
    (p.endsAt (t.cursor i) = [] ∧ ¬ ∃ j, p.Matches t i j)
      ∨ (∃ e, i < e ∧ p.Preferred t i e ∧ p.endsAt (t.cursor i) = [e])
      ∨ (p.Preferred t i i ∧ p.endsAt (t.cursor i) = [i])
      ∨ (∃ e, i < e ∧ p.Preferred t i i ∧ p.Preferred t i e
        ∧ p.endsAt (t.cursor i) = [i, e]) := by
  have hmem : ∀ e, e ∈ p.ends t i ↔ p.Matches t i e := fun e => mem_ends_iff hi
  have hoffset : (t.cursor i).offset = i := rfl
  rw [endsAt, firstEnd_cursor, firstEndPast_cursor, hoffset]
  rcases hl : (p.ends t i).head? with _ | e
  · refine .inl ⟨rfl, ?_⟩
    rintro ⟨j, hj⟩
    have := (hmem j).2 hj
    rw [List.head?_eq_none_iff.1 hl] at this
    simp at this
  · have he : p.Preferred t i e := .inl hl
    rcases Nat.eq_or_lt_of_le (he.matches hi).le with rfl | hlt
    · simp only [if_neg (Nat.lt_irrefl i)]
      rcases hf : (p.ends t i).find? (i < ·) with _ | e
      · exact .inr (.inr (.inl ⟨he, rfl⟩))
      · have hie : i < e := by simpa using List.find?_some hf
        exact .inr (.inr (.inr ⟨e, hie, he, .inr ⟨hl, hf⟩, rfl⟩))
    · exact .inr (.inl ⟨e, hlt, he, if_pos hlt⟩)

/-! ## One step of the search -/

theorem FoundFrom.nil {k : Nat} (hk : t.length < k) : FoundFrom p t k [] where
  starts := by simp
  preferred := by simp
  ordered := .nil
  covers := by
    intro q hq hq'
    omega

/-- Nothing is found at an offset where nothing matches. -/
theorem FoundFrom.skip {i : Nat} {ms : List (Nat × Nat)} (h : FoundFrom p t (i + 1) ms)
    (hno : ¬ ∃ j, p.Matches t i j) : FoundFrom p t i ms where
  starts := fun m hm => ⟨Nat.le_of_succ_le (h.starts m hm).1, (h.starts m hm).2⟩
  preferred := h.preferred
  ordered := h.ordered
  covers := by
    intro q hq hql hmatch
    rcases Nat.eq_or_lt_of_le hq with rfl | hlt
    · exact absurd hmatch hno
    · exact h.covers q hlt hql hmatch

/-- A match is followed by those found from its end on, or from the next offset on when it is
empty. -/
theorem FoundFrom.cons {i e : Nat} {ms : List (Nat × Nat)}
    (h : FoundFrom p t (max e (i + 1)) ms) (hi : i ≤ t.length) (he : p.Preferred t i e) :
    FoundFrom p t i ((i, e) :: ms) where
  starts := by
    intro m hm
    rcases List.mem_cons.1 hm with rfl | hm
    · exact ⟨Nat.le_refl i, hi⟩
    · have := h.starts m hm
      omega
  preferred := by
    intro m hm
    rcases List.mem_cons.1 hm with rfl | hm
    · exact he
    · exact h.preferred m hm
  ordered := by
    refine List.pairwise_cons.2 ⟨fun m hm => ?_, h.ordered⟩
    have h1 := h.starts m hm
    have h2 := (h.matches hm).le
    constructor
    · simp only
      omega
    · simp only
      omega
  covers := by
    intro q hq hql hmatch
    by_cases hlt : q < max e (i + 1)
    · refine ⟨(i, e), List.mem_cons_self, ?_⟩
      simp only
      omega
    · obtain ⟨m, hm, hqm⟩ := h.covers q (by omega) hql hmatch
      exact ⟨m, List.mem_cons_of_mem _ hm, hqm⟩

/-- An empty match may stand before one from the same offset on. -/
theorem FoundFrom.cons_empty {i e : Nat} {ms : List (Nat × Nat)}
    (h : FoundFrom p t i ((i, e) :: ms)) (hi : i ≤ t.length) (hie : i < e)
    (he : p.Preferred t i i) : FoundFrom p t i ((i, i) :: (i, e) :: ms) where
  starts := by
    intro m hm
    rcases List.mem_cons.1 hm with rfl | hm
    · exact ⟨Nat.le_refl i, hi⟩
    · exact h.starts m hm
  preferred := by
    intro m hm
    rcases List.mem_cons.1 hm with rfl | hm
    · exact he
    · exact h.preferred m hm
  ordered := by
    refine List.pairwise_cons.2 ⟨fun m hm => ?_, h.ordered⟩
    have hfirst : i < m.2 := by
      rcases List.mem_cons.1 hm with rfl | hm
      · exact hie
      · have h1 := ((List.pairwise_cons.1 h.ordered).1 m hm).1
        have h2 := (h.matches (List.mem_cons_of_mem _ hm)).le
        simp only at h1
        omega
    exact ⟨(h.starts m hm).1, fun _ => hfirst⟩
  covers := by
    intro q hq hql hmatch
    obtain ⟨m, hm, hqm⟩ := h.covers q hq hql hmatch
    exact ⟨m, List.mem_cons_of_mem _ hm, hqm⟩

/-- What is reported at an offset goes in front of what is found from where the search goes on. -/
theorem FoundFrom.step (resume : Nat) {i : Nat} {ms : List (Nat × Nat)} (hi : i ≤ t.length)
    (hr : resume ≤ i)
    (h : FoundFrom p t (max ((p.endsAt (t.cursor i)).getLast?.getD resume) (i + 1)) ms) :
    FoundFrom p t i ((p.endsAt (t.cursor i)).map (i, ·) ++ ms) := by
  rcases endsAt_cases hi with ⟨he, hno⟩ | ⟨e, -, hm, he⟩ | ⟨hm, he⟩ | ⟨e, hie, hm, hm', he⟩ <;>
    rw [he] at h ⊢
  · rw [List.getLast?_nil, Option.getD_none, Nat.max_eq_right (by omega)] at h
    exact h.skip hno
  · exact h.cons hi hm
  · exact h.cons hi hm
  · exact (h.cons hi hm').cons_empty hi hie hm

/-! ## The whole search -/

/-- The matches found from an offset of a text on, those before `resume` left out. -/
def found (p : Pattern) (t : Text) (resume i : Nat) : List (Nat × Nat) :=
  p.findFrom resume i (t.cursor i).prev (t.cursor i).rest

theorem found_of_lt {resume i : Nat} (hi : i < t.length) (hr : i < resume) :
    p.found t resume i = p.found t resume (i + 1) := by
  have hx := List.getElem?_eq_getElem hi
  have hrest : (t.cursor i).rest = t[i] :: t.drop (i + 1) := drop_of_getElem? hx
  rw [found, hrest, findFrom, found, cursor_succ hx]
  simp [hr]

theorem found_of_le {resume i : Nat} (hi : i < t.length) (hr : resume ≤ i) :
    p.found t resume i = (p.endsAt (t.cursor i)).map (i, ·)
      ++ p.found t ((p.endsAt (t.cursor i)).getLast?.getD resume) (i + 1) := by
  have hx := List.getElem?_eq_getElem hi
  have hrest : (t.cursor i).rest = t[i] :: t.drop (i + 1) := drop_of_getElem? hx
  have hcursor : (⟨i, (t.cursor i).prev, t[i] :: t.drop (i + 1)⟩ : Cursor) = t.cursor i := by
    rw [← hrest]
    rfl
  rw [found, hrest, findFrom, found, cursor_succ hx, hcursor]
  simp [Nat.not_lt.2 hr]

theorem found_length {resume : Nat} : p.found t resume t.length
    = if t.length < resume then [] else (p.endsAt (t.cursor t.length)).map (t.length, ·) := by
  have hrest : (t.cursor t.length).rest = [] := by simp [Text.cursor]
  have hcursor : (⟨t.length, (t.cursor t.length).prev, []⟩ : Cursor) = t.cursor t.length := by
    rw [← hrest]
    rfl
  rw [found, hrest, findFrom, hcursor]
  split <;> simp

theorem foundFrom_found : ∀ (n resume i : Nat), i + n = t.length →
    FoundFrom p t (max resume i) (p.found t resume i)
  | 0, resume, i, hn => by
    obtain rfl : i = t.length := by omega
    rw [found_length]
    split
    · exact .nil (by omega)
    · rename_i hr
      rw [Nat.max_eq_right (by omega), ← List.append_nil (List.map _ _)]
      exact .step resume (Nat.le_refl _) (by omega) (.nil (by omega))
  | n + 1, resume, i, hn => by
    rcases Nat.lt_or_ge i resume with hr | hr
    · have ih := foundFrom_found n resume (i + 1) (by omega)
      rw [found_of_lt (by omega) hr, Nat.max_eq_left (by omega)]
      rwa [Nat.max_eq_left (by omega)] at ih
    · rw [found_of_le (by omega) hr, Nat.max_eq_right hr]
      exact .step resume (by omega) hr (foundFrom_found n _ _ (by omega))

theorem foundFrom_findAll (p : Pattern) (t : Text) : FoundFrom p t 0 (p.findAll t) :=
  foundFrom_found t.length 0 0 (Nat.zero_add _)

/-! ## How many matches there are -/

theorem length_le_of_pairwise_lt (f : Nat × Nat → Nat) (hi : Nat) :
    ∀ (lo : Nat) {ms : List (Nat × Nat)}, ms.Pairwise (f · < f ·) →
      (∀ m ∈ ms, lo ≤ f m ∧ f m < hi) → ms.length ≤ hi - lo
  | lo, [], _, _ => by simp
  | lo, m :: ms, h, hb => by
    rw [List.pairwise_cons] at h
    have hm := hb m List.mem_cons_self
    have ih := length_le_of_pairwise_lt f hi (f m + 1) h.2 fun x hx =>
      ⟨h.1 x hx, (hb x (List.mem_cons_of_mem _ hx)).2⟩
    rw [List.length_cons]
    omega

namespace FoundFrom

variable {k : Nat} {ms : List (Nat × Nat)}

theorem bounds (h : FoundFrom p t k ms) {m : Nat × Nat} (hm : m ∈ ms) :
    m.1 ≤ m.2 ∧ m.2 ≤ t.length :=
  ⟨(h.matches hm).le, (h.matches hm).le_length (h.starts m hm).2⟩

/-- From one match to a later one the sum of the two ends grows. -/
theorem pairwise_sum_lt (h : FoundFrom p t k ms) :
    ms.Pairwise fun a b => a.1 + a.2 < b.1 + b.2 := by
  refine h.ordered.imp_of_mem fun {a b} ha hb hab => ?_
  have h1 := h.bounds ha
  have h2 := h.bounds hb
  unfold Follows at hab
  omega

theorem nodup (h : FoundFrom p t k ms) : ms.Nodup :=
  h.pairwise_sum_lt.imp fun hab he => by
    rw [he] at hab
    omega

theorem length_le (h : FoundFrom p t k ms) : ms.length ≤ 2 * t.length + 1 := by
  refine length_le_of_pairwise_lt (fun m => m.1 + m.2) (2 * t.length + 1) 0 h.pairwise_sum_lt
    fun m hm => ?_
  have := h.bounds hm
  omega

theorem lt_of_minWidth (h : FoundFrom p t k ms) (hp : 0 < p.minWidth) :
    ∀ m ∈ ms, m.1 < m.2 := by
  intro m hm
  have := (h.matches hm).add_minWidth_le
  omega

theorem pairwise_start_lt (h : FoundFrom p t k ms) (hp : 0 < p.minWidth) :
    ms.Pairwise (fun m m' => m.1 < m'.1) :=
  h.ordered.imp_of_mem fun {m _} hm _ hfollow =>
    Nat.lt_of_lt_of_le (h.lt_of_minWidth hp m hm) hfollow.1

theorem length_le_of_minWidth (h : FoundFrom p t k ms) (hp : 0 < p.minWidth) :
    ms.length ≤ t.length := by
  refine length_le_of_pairwise_lt Prod.fst t.length 0 (h.pairwise_start_lt hp) fun m hm => ?_
  have h1 := h.lt_of_minWidth hp m hm
  have h2 := h.bounds hm
  omega

theorem tail {m : Nat × Nat} (h : FoundFrom p t k (m :: ms)) (hp : 0 < p.minWidth) :
    FoundFrom p t m.2 ms where
  starts := fun m' hm' => ⟨((List.pairwise_cons.1 h.ordered).1 m' hm').1,
    (h.starts m' (List.mem_cons_of_mem _ hm')).2⟩
  preferred := fun m' hm' => h.preferred m' (List.mem_cons_of_mem _ hm')
  ordered := (List.pairwise_cons.1 h.ordered).2
  covers := by
    intro q hq hql hmatch
    have hlt := h.lt_of_minWidth hp m List.mem_cons_self
    have hk := (h.starts m List.mem_cons_self).1
    obtain ⟨m', hm', hqm⟩ := h.covers q (by omega) hql hmatch
    rcases List.mem_cons.1 hm' with rfl | hm'
    · omega
    · exact ⟨m', hm', hqm⟩

/-- The first match starts no later than any place where the pattern matches. -/
theorem head_le {m : Nat × Nat} (h : FoundFrom p t k (m :: ms)) {q : Nat} (hq : k ≤ q)
    (hql : q ≤ t.length) (hmatch : ∃ j, p.Matches t q j) : m.1 ≤ q := by
  obtain ⟨m', hm', hqm⟩ := h.covers q hq hql hmatch
  rcases List.mem_cons.1 hm' with rfl | hm'
  · omega
  · have h1 := ((List.pairwise_cons.1 h.ordered).1 m' hm').1
    have h2 := h.bounds List.mem_cons_self
    omega

/-- What the matches found from an offset on have in common leaves no choice in them. -/
theorem unique (hp : 0 < p.minWidth) : ∀ {k : Nat} {ms ms' : List (Nat × Nat)},
    FoundFrom p t k ms → FoundFrom p t k ms' → ms = ms'
  | _, [], [], _, _ => rfl
  | _, [], m :: ms, h, h' => by
    have hm := h'.starts m List.mem_cons_self
    obtain ⟨m', hm', -⟩ := h.covers m.1 hm.1 hm.2 ⟨m.2, h'.matches List.mem_cons_self⟩
    simp at hm'
  | _, m :: ms, [], h, h' => by
    have hm := h.starts m List.mem_cons_self
    obtain ⟨m', hm', -⟩ := h'.covers m.1 hm.1 hm.2 ⟨m.2, h.matches List.mem_cons_self⟩
    simp at hm'
  | _, m :: ms, m' :: ms', h, h' => by
    have hm := h.starts m List.mem_cons_self
    have hm' := h'.starts m' List.mem_cons_self
    have hle := h.head_le hm'.1 hm'.2 ⟨m'.2, h'.matches List.mem_cons_self⟩
    have hge := h'.head_le hm.1 hm.2 ⟨m.2, h.matches List.mem_cons_self⟩
    have hstart : m.1 = m'.1 := Nat.le_antisymm hle hge
    have hpref := (h.preferred m List.mem_cons_self).head?_eq hp hm.2
    have hpref' := (h'.preferred m' List.mem_cons_self).head?_eq hp hm'.2
    rw [hstart, hpref', Option.some.injEq] at hpref
    obtain rfl : m = m' := Prod.ext hstart hpref.symm
    rw [unique hp (h.tail hp) (h'.tail hp)]

end FoundFrom

/-! ## Matches that end alike -/

/-- Of two matches that are found, the one that starts first ends before the other starts. -/
theorem FoundFrom.le_of_lt {k : Nat} {ms : List (Nat × Nat)} (h : FoundFrom p t k ms)
    {m m' : Nat × Nat} (hm : m ∈ ms) (hm' : m' ∈ ms) (hlt : m.1 < m'.1) : m.2 ≤ m'.1 := by
  have hforward : ms.Pairwise fun a b => a.1 < b.1 → a.2 ≤ b.1 :=
    h.ordered.imp fun hab _ => hab.1
  have hbackward : ms.Pairwise (flip fun a b => a.1 < b.1 → a.2 ≤ b.1) := by
    refine h.ordered.imp_of_mem fun {a b} ha hb hab hba => ?_
    have h1 := h.bounds ha
    have h2 := hab.1
    omega
  exact hforward.forall_of_forall_of_flip (fun a _ ha => absurd ha (Nat.lt_irrefl _)) hbackward
    hm hm' hlt

/-- Preferred matches that overlap have the same end. -/
def PrefersAlike (p : Pattern) (t : Text) : Prop :=
  ∀ a b d e, b ≤ t.length → p.Preferred t a d → p.Preferred t b e → a ≤ b → b < d → d = e

/-- Where preferred matches that overlap end alike, a search reports for each end the one that starts
first. -/
theorem mem_findAll_iff_preferred (hp : 0 < p.minWidth) (ht : p.PrefersAlike t) {s e : Nat} :
    (s, e) ∈ p.findAll t ↔ s ≤ t.length ∧ p.Preferred t s e ∧ ∀ a < s, ¬ p.Preferred t a e := by
  have h := foundFrom_findAll p t
  -- No match is lost, and the reported one that covers its start has its end.
  have hcover : ∀ a, a ≤ t.length → p.Preferred t a e → ∃ s' ≤ a, (s', e) ∈ p.findAll t := by
    intro a ha hae
    obtain ⟨⟨s', e'⟩, hm, hs'⟩ := h.covers a a.zero_le ha ⟨e, hae.matches ha⟩
    have hlt := h.lt_of_minWidth hp _ hm
    simp only at hs' hlt
    have hle : s' ≤ a := by omega
    obtain rfl := ht s' a e' e ha (h.preferred _ hm) hae hle (by omega)
    exact ⟨s', hle, hm⟩
  constructor
  · intro hm
    have hs := (h.starts _ hm).2
    have hlt := h.lt_of_minWidth hp _ hm
    refine ⟨hs, h.preferred _ hm, fun a ha hae => ?_⟩
    simp only at hs hlt
    obtain ⟨s', hle, hm'⟩ := hcover a (by omega) hae
    have := h.le_of_lt hm' hm (show s' < s by omega)
    simp only at this
    omega
  · rintro ⟨hs, hse, hfirst⟩
    obtain ⟨s', hle, hm⟩ := hcover s hs hse
    rcases Nat.eq_or_lt_of_le hle with rfl | hlt
    · exact hm
    · exact absurd (h.preferred _ hm) (hfirst s' hlt)

theorem Matches.exists_preferred {i e : Nat} (h : p.Matches t i e) (hi : i ≤ t.length) :
    ∃ d, p.Preferred t i d := by
  rcases hl : (p.ends t i).head? with - | d
  · have hmem := (mem_ends_iff hi).2 h
    rw [List.head?_eq_none_iff.1 hl] at hmem
    simp at hmem
  · exact ⟨d, .inl hl⟩

/-- Matches that overlap have the same end. -/
def EndsAlike (p : Pattern) (t : Text) : Prop :=
  ∀ a b d e, p.Matches t a d → p.Matches t b e → a ≤ b → b < d → d = e

/-- Where overlapping matches end alike there is no choice between those that start at one place. -/
theorem EndsAlike.preferred_iff (ht : p.EndsAlike t) (hp : 0 < p.minWidth) {i e : Nat}
    (hi : i ≤ t.length) : p.Preferred t i e ↔ p.Matches t i e := by
  refine ⟨fun h => h.matches hi, fun h => ?_⟩
  obtain ⟨d, hd⟩ := h.exists_preferred hi
  have hwide := (hd.matches hi).add_minWidth_le
  obtain rfl := ht i i d e (hd.matches hi) h (Nat.le_refl i) (by omega)
  exact hd

/-- Where overlapping matches end alike, a search reports for each end the match that starts
first. -/
theorem mem_findAll_iff (hp : 0 < p.minWidth) (ht : p.EndsAlike t) {s e : Nat} :
    (s, e) ∈ p.findAll t ↔ s ≤ t.length ∧ p.Matches t s e ∧ ∀ a < s, ¬ p.Matches t a e := by
  have halike : p.PrefersAlike t := by
    intro a b d e hb had hbe hab hbd
    exact ht a b d e (had.matches (Nat.le_trans hab hb)) (hbe.matches hb) hab hbd
  rw [mem_findAll_iff_preferred hp halike]
  refine and_congr_right fun hs => and_congr (ht.preferred_iff hp hs) ?_
  refine forall₂_congr fun a ha => not_congr (ht.preferred_iff hp ?_)
  exact Nat.le_trans (Nat.le_of_lt ha) hs

end Pattern

namespace Rule

theorem minWidth_standard : ∀ r ∈ standard, 0 < r.pattern.minWidth := by
  decide

/-- The matches that a rule reports lie in the text, each preferred among those that start where it
does. They follow one another without overlap or repetition, and leave out no place where the pattern
matches but those inside another match. The matches of the standard rules are not empty. -/
theorem findAll_disjoint_complete (r : Rule) (t : Text) :
    (∀ m ∈ r.pattern.findAll t, m.1 ≤ m.2 ∧ m.2 ≤ t.length
        ∧ r.pattern.Matches t m.1 m.2 ∧ r.pattern.Preferred t m.1 m.2)
      ∧ (r.pattern.findAll t).Pairwise Pattern.Follows
      ∧ (r.pattern.findAll t).Nodup
      ∧ (r.pattern.findAll t).length ≤ 2 * t.length + 1
      ∧ (∀ q ≤ t.length, (∃ j, r.pattern.Matches t q j) →
          ∃ m ∈ r.pattern.findAll t, m.1 = q ∨ m.1 < q ∧ q < m.2)
      ∧ (r ∈ standard → (∀ m ∈ r.pattern.findAll t, m.1 < m.2)
          ∧ (r.pattern.findAll t).length ≤ t.length) := by
  have h := Pattern.foundFrom_findAll r.pattern t
  refine ⟨fun m hm => ?_, h.ordered, h.nodup, h.length_le, fun q hq => h.covers q q.zero_le hq,
    fun hr => ?_⟩
  · obtain ⟨hle, hlen⟩ := h.bounds hm
    exact ⟨hle, hlen, h.matches hm, h.preferred m hm⟩
  · have hwide := minWidth_standard r hr
    exact ⟨h.lt_of_minWidth hwide, h.length_le_of_minWidth hwide⟩

end Rule

end SourceStyle
