import Mathlib.Computability.Language
import SourceStyle.Proofs.Matching

/-!
# The words of a pattern

A pattern without look-ahead and anchors matches by what stands between the two offsets alone.
`Pattern.Spells` gives the language of the texts that it matches: a sequence spells the product of
languages, a repetition their powers, a literal a single word. What a pattern of the coding style
matches is then a question about words and no longer about offsets.
-/

namespace SourceStyle

namespace Text

/-! ## Slices -/

variable {t : Text} {i j : Nat}

theorem slice_self (t : Text) (i : Nat) : t.slice i i = [] := by
  rw [slice, List.drop_eq_nil_iff, List.length_take]
  omega

theorem length_slice (hj : j ≤ t.length) : (t.slice i j).length = j - i := by
  rw [slice, List.length_drop, List.length_take, Nat.min_eq_left hj]

theorem drop_drop_sub (hij : i ≤ j) : (t.drop i).drop (j - i) = t.drop j := by
  rw [List.drop_drop, Nat.add_sub_cancel' hij]

theorem slice_append_drop (hij : i ≤ j) : t.slice i j ++ t.drop j = t.drop i := by
  rw [slice, List.drop_take, ← drop_drop_sub hij, List.take_append_drop]

theorem slice_append_slice {k : Nat} (hij : i ≤ j) (hjk : j ≤ k) :
    t.slice i j ++ t.slice j k = t.slice i k := by
  have hlen : k - i = (j - i) + (k - j) := by omega
  simp only [slice, List.drop_take]
  rw [← drop_drop_sub hij, hlen, List.take_add]

theorem getElem?_slice {m : Nat} (him : i ≤ m) (hmj : m < j) : (t.slice i j)[m - i]? = t[m]? := by
  rw [slice, List.getElem?_drop, Nat.add_sub_cancel' him, List.getElem?_take_of_lt hmj]

theorem mem_slice {m : Nat} {x : Char} (hm : t[m]? = some x) (him : i ≤ m) (hmj : m < j) :
    x ∈ t.slice i j :=
  List.mem_of_getElem? ((getElem?_slice him hmj).trans hm)

/-- A slice that is made of two parts is cut between them. -/
theorem exists_slice_of_append {a b : Text} (hij : i ≤ j) (hj : j ≤ t.length)
    (h : t.slice i j = a ++ b) :
    ∃ m, i ≤ m ∧ m ≤ j ∧ t.slice i m = a ∧ t.slice m j = b := by
  have hlen := length_slice (i := i) hj
  rw [h, List.length_append] at hlen
  have hsplit := slice_append_slice (t := t) (Nat.le_add_right i a.length) (k := j) (by omega)
  rw [h] at hsplit
  have hfirst : (t.slice i (i + a.length)).length = a.length := by
    rw [length_slice (by omega), Nat.add_sub_cancel_left]
  obtain ⟨ha, hb⟩ := List.append_inj hsplit hfirst
  exact ⟨i + a.length, by omega, by omega, ha, hb⟩

theorem slice_succ_eq_iff {x : Char} : t.slice i (i + 1) = [x] ↔ t[i]? = some x := by
  rw [slice, List.drop_take, Nat.add_sub_cancel_left]
  rcases h : t[i]? with _ | y
  · rw [List.drop_eq_nil_of_le (by simpa using h)]
    simp
  · rw [Pattern.drop_of_getElem? h]
    simp

end Text

/-! ## Sets of characters -/

theorem CharItem.holds_range_iff {c x : Char} : (range c c).holds x = true ↔ x = c := by
  simp only [holds, Bool.and_eq_true, decide_eq_true_eq]
  rw [← Char.toNat_inj]
  omega

theorem CharClass.accepts_iff (cs : List Char) (negated : Bool) (x : Char) :
    CharClass.accepts ⟨cs.map fun c => .range c c, negated, false⟩ x = true
      ↔ (x ∈ cs ↔ negated = false) := by
  have hany : ((cs.map fun c => CharItem.range c c).any fun i => i.holds x) = true ↔ x ∈ cs := by
    simp [List.any_map, CharItem.holds_range_iff]
  simp only [accepts, Bool.false_and, Bool.or_false, bne_iff_ne, ne_eq, ← hany]
  cases negated <;> simp

/-- The texts with a property. -/
def words (P : Text → Prop) : Language Char := {w | P w}

@[simp]
theorem mem_words {P : Text → Prop} {w : Text} : w ∈ words P ↔ P w := Iff.rfl

theorem mem_singleton {v w : Text} : w ∈ ({v} : Language Char) ↔ w = v := Iff.rfl

/-- The words of one character of a set. -/
def CharClass.letters (k : CharClass) : Language Char := words fun w => ∃ x, k.accepts x ∧ w = [x]

theorem CharClass.mem_letters_pow {k : CharClass} {w : Text} {n : Nat} :
    w ∈ k.letters ^ n ↔ w.length = n ∧ ∀ x ∈ w, k.accepts x := by
  induction n generalizing w with
  | zero =>
    rw [pow_zero, Language.mem_one, List.length_eq_zero_iff]
    constructor
    · rintro rfl
      simp
    · exact And.left
  | succ n ih =>
    rw [pow_succ', Language.mem_mul]
    constructor
    · rintro ⟨_, ⟨x, hx, rfl⟩, b, hb, rfl⟩
      obtain ⟨rfl, hb'⟩ := ih.1 hb
      simpa using ⟨hx, hb'⟩
    · rintro ⟨hlen, hw⟩
      obtain ⟨x, b, rfl⟩ := List.exists_cons_of_length_eq_add_one hlen
      simp only [List.length_cons, Nat.add_right_cancel_iff, List.forall_mem_cons] at hlen hw
      exact ⟨[x], ⟨x, hw.1, rfl⟩, b, ih.2 ⟨hlen, hw.2⟩, rfl⟩

/-! ## Spelling -/

/-- The relation holds between two offsets if and only if a word of `L` stands between them. -/
def Text.Delimits (t : Text) (R : Nat → Nat → Prop) (L : Language Char) : Prop :=
  ∀ i j, i ≤ t.length → (R i j ↔ i ≤ j ∧ j ≤ t.length ∧ t.slice i j ∈ L)

theorem Text.delimits_eq (t : Text) : t.Delimits Eq 1 := by
  intro i j hi
  rw [Language.mem_one]
  constructor
  · rintro rfl
    exact ⟨Nat.le_refl i, hi, t.slice_self i⟩
  · rintro ⟨hij, hj, h⟩
    have hlen := Text.length_slice (i := i) hj
    rw [h, List.length_nil] at hlen
    omega

theorem Text.Delimits.comp {t : Text} {R S : Nat → Nat → Prop} {L M : Language Char}
    (hR : t.Delimits R L) (hS : t.Delimits S M) :
    t.Delimits (fun i j => ∃ m, R i m ∧ S m j) (L * M) := by
  intro i j hi
  rw [Language.mem_mul]
  constructor
  · rintro ⟨m, h, h'⟩
    obtain ⟨him, hm, ha⟩ := (hR i m hi).1 h
    obtain ⟨hmj, hj, hb⟩ := (hS m j hm).1 h'
    exact ⟨by omega, hj, _, ha, _, hb, slice_append_slice him hmj⟩
  · rintro ⟨hij, hj, a, ha, b, hb, hab⟩
    obtain ⟨m, him, hmj, rfl, rfl⟩ := exists_slice_of_append hij hj hab.symm
    exact ⟨m, (hR i m hi).2 ⟨him, by omega, ha⟩, (hS m j (by omega)).2 ⟨hmj, hj, hb⟩⟩

namespace Pattern

/-- The pattern matches a stretch of a text if and only if the stretch is a word of `L`. -/
def Spells (p : Pattern) (L : Language Char) : Prop := ∀ t : Text, t.Delimits (p.Matches t) L

theorem Spells.congr {p : Pattern} {L M : Language Char} (hp : p.Spells L)
    (h : ∀ w, w ∈ L ↔ w ∈ M) : p.Spells M := by
  rwa [← Language.ext h]

theorem Spells.matches_iff {p q : Pattern} {L : Language Char} (hp : p.Spells L)
    (hq : q.Spells L) {t : Text} {i j : Nat} (hi : i ≤ t.length) :
    p.Matches t i j ↔ q.Matches t i j := by
  rw [hp t i j hi, hq t i j hi]

theorem spells_empty : Spells empty 1 := Text.delimits_eq

theorem spells_one (k : CharClass) : (one k).Spells k.letters := by
  intro t i j hi
  change (∃ x, t[i]? = some x ∧ k.accepts x) ∧ j = i + 1
    ↔ i ≤ j ∧ j ≤ t.length ∧ ∃ x, k.accepts x ∧ t.slice i j = [x]
  constructor
  · rintro ⟨⟨x, hx, hk⟩, rfl⟩
    obtain ⟨hlt, -⟩ := List.getElem?_eq_some_iff.1 hx
    exact ⟨by omega, by omega, x, hk, Text.slice_succ_eq_iff.2 hx⟩
  · rintro ⟨hij, hj, x, hk, h⟩
    have hlen := Text.length_slice (i := i) hj
    rw [h, List.length_singleton] at hlen
    obtain rfl : j = i + 1 := by omega
    exact ⟨⟨x, Text.slice_succ_eq_iff.1 h, hk⟩, rfl⟩

theorem Spells.seq {p q : Pattern} {L M : Language Char} (hp : p.Spells L) (hq : q.Spells M) :
    (seq p q).Spells (L * M) := fun t => (hp t).comp (hq t)

theorem Spells.either {p q : Pattern} {L M : Language Char} (hp : p.Spells L) (hq : q.Spells M) :
    (either p q).Spells (L + M) := by
  intro t i j hi
  change p.Matches t i j ∨ q.Matches t i j ↔ _
  rw [hp t i j hi, hq t i j hi, Language.mem_add, ← and_or_left, ← and_or_left]

theorem Spells.steps {p : Pattern} {L : Language Char} (hp : p.Spells L) (t : Text) :
    ∀ n, t.Delimits (Steps (p.Matches t) n) (L ^ n)
  | 0 => by
    rw [pow_zero]
    exact t.delimits_eq
  | n + 1 => by
    rw [pow_succ']
    exact (hp t).comp (hp.steps t n)

theorem Spells.many {p : Pattern} {L : Language Char} (hp : p.Spells L) (least : Nat)
    (most : Option Nat) : (many p least most).Spells (words fun w =>
      ∃ n, least ≤ n ∧ (∀ m, most = some m → n ≤ max least m) ∧ w ∈ L ^ n) := by
  intro t i j hi
  change (∃ n, _) ↔ i ≤ j ∧ j ≤ t.length ∧ ∃ n, _
  constructor
  · rintro ⟨n, hn, hmost, h⟩
    obtain ⟨hij, hj, hw⟩ := (hp.steps t n i j hi).1 h
    exact ⟨hij, hj, n, hn, hmost, hw⟩
  · rintro ⟨hij, hj, n, hn, hmost, hw⟩
    exact ⟨n, hn, hmost, (hp.steps t n i j hi).2 ⟨hij, hj, hw⟩⟩

/-- A repetition of a pattern that reads one character of a set. -/
theorem Spells.many_letters {p : Pattern} {k : CharClass} (hp : p.Spells k.letters) (least : Nat)
    (most : Option Nat) : (Pattern.many p least most).Spells (words fun w => least ≤ w.length
      ∧ (∀ m, most = some m → w.length ≤ max least m) ∧ ∀ x ∈ w, k.accepts x) := by
  refine (hp.many least most).congr fun w => ?_
  constructor
  · rintro ⟨n, hn, hmost, hw⟩
    obtain ⟨rfl, hall⟩ := CharClass.mem_letters_pow.1 hw
    exact ⟨hn, hmost, hall⟩
  · rintro ⟨hn, hmost, hw⟩
    exact ⟨w.length, hn, hmost, CharClass.mem_letters_pow.2 ⟨rfl, hw⟩⟩

theorem spells_many_one (k : CharClass) (least : Nat) (most : Option Nat) :
    (many (one k) least most).Spells (words fun w => least ≤ w.length
      ∧ (∀ m, most = some m → w.length ≤ max least m) ∧ ∀ x ∈ w, k.accepts x) :=
  (spells_one k).many_letters least most

/-! ## The patterns that the rules are built from -/

theorem accepts_char_iff {c x : Char} :
    CharClass.accepts ⟨[.range c c], false, false⟩ x = true ↔ x = c := by
  simpa using CharClass.accepts_iff [c] false x

theorem matches_char_iff {t : Text} {c : Char} {i j : Nat} :
    (char c).Matches t i j ↔ t[i]? = some c ∧ j = i + 1 := by
  change (∃ x, t[i]? = some x ∧ CharClass.accepts _ x) ∧ j = i + 1 ↔ _
  simp only [accepts_char_iff, exists_eq_right]

theorem spells_char (c : Char) : (char c).Spells {[c]} := by
  refine (spells_one _).congr fun w => ?_
  change (∃ x, CharClass.accepts _ x ∧ w = [x]) ↔ w = [c]
  simp only [accepts_char_iff, exists_eq_left]

theorem singleton_mul_singleton (v w : Text) : ({v} * {w} : Language Char) = {v ++ w} := by
  ext x
  rw [Language.mem_mul]
  constructor
  · rintro ⟨_, rfl, _, rfl, rfl⟩
    rfl
  · rintro rfl
    exact ⟨_, rfl, _, rfl, rfl⟩

theorem spells_sequence_char : ∀ w : Text, (sequence (w.map char)).Spells {w}
  | [] => spells_empty
  | [c] => spells_char c
  | c :: d :: w => by
    refine ((spells_char c).seq (spells_sequence_char (d :: w))).congr fun v => ?_
    rw [singleton_mul_singleton]
    rfl

theorem spells_literal (s : String) : (literal s).Spells {s.toList} :=
  spells_sequence_char s.toList

theorem spells_choice_literal : ∀ (s : String) (ss : List String),
    (choice ((s :: ss).map literal)).Spells (words (· ∈ (s :: ss).map String.toList))
  | s, [] => (spells_literal s).congr fun w => by simp [mem_singleton]
  | s, s' :: ss => by
    refine ((spells_literal s).either (spells_choice_literal s' ss)).congr fun w => ?_
    simp [Language.mem_add, mem_singleton]

theorem spells_star_noneOf (cs : List Char) :
    (star (noneOf cs)).Spells (words fun w => ∀ c ∈ cs, c ∉ w) := by
  refine (spells_many_one _ 0 none).congr fun w => ?_
  have hdisjoint : (∀ x ∈ w, x ∉ cs) ↔ ∀ c ∈ cs, c ∉ w := List.disjoint_comm
  simp [CharClass.accepts_iff, hdisjoint]

theorem spells_star_dot : (star dot).Spells (words fun w => '\n' ∉ w) :=
  (spells_star_noneOf ['\n']).congr fun w => by simp

theorem spells_plus_oneOf (cs : List Char) :
    (plus (oneOf cs)).Spells (words fun w => w ≠ [] ∧ ∀ x ∈ w, x ∈ cs) := by
  refine (spells_many_one _ 1 none).congr fun w => ?_
  simp [CharClass.accepts_iff, List.length_pos_iff, Nat.succ_le_iff]

end Pattern

end SourceStyle
