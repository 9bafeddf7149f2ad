import Mathlib.Data.Char
import Mathlib.Data.List.Lex
import Mathlib.Data.List.Sort
import SourceStyle.Path
import SourceStyle.Proofs.Keyed
import SourceStyle.Text.Utf8

/-!
# Paths and their texts

Names without slashes come back when they are joined and cut again (`pieces_join`), so a path in normal
form is read back from its text (`ofString_toString`). A text in normal form is never longer than the
text that it was made from (`length_encode_toText_le`). The order of paths is the
lexicographic order of their names, and sorting names that differ puts them in strictly rising order
(`pairwise_mergeSort`).
-/

namespace SourceStyle

namespace Text

theorem pieces_eq_splitOn (c : Char) : ∀ t : Text, t.pieces c = t.splitOn c
  | [] => rfl
  | a :: t => by
    rw [List.splitOn_eq_splitOnP, List.splitOnP_cons_eq_if_modifyHead, ← List.splitOn_eq_splitOnP]
    rcases ht : t.splitOn c with - | ⟨l, ls⟩
    · exact absurd ht (List.splitOn_ne_nil c t)
    · by_cases h : a = c <;> simp [pieces, h, pieces_eq_splitOn c t, ht, onFirst]

theorem not_mem_of_mem_pieces {c : Char} : ∀ {t p : Text}, p ∈ t.pieces c → c ∉ p
  | [], p, h => by
    rw [pieces, List.mem_singleton] at h
    simp [h]
  | a :: t, p, h => by
    have ih : ∀ q ∈ pieces t c, c ∉ q := fun q hq => not_mem_of_mem_pieces hq
    by_cases ha : a = c
    · simp only [pieces, if_pos ha, List.mem_cons] at h
      rcases h with rfl | h
      · simp
      · exact ih p h
    · rcases ht : pieces t c with - | ⟨l, ls⟩
      · rw [pieces_eq_splitOn] at ht
        exact absurd ht (List.splitOn_ne_nil c t)
      · simp only [pieces, if_neg ha, ht, onFirst, List.mem_cons] at h ih
        rcases h with rfl | h
        · simp [Ne.symm ha, ih l (.inl rfl)]
        · exact ih p (.inr h)

theorem le_iff : ∀ s t : Text, s.le t = true ↔ s ≤ t
  | [], t => by simp [le, ← not_lt]
  | a :: s, [] => by simp [le]
  | a :: s, b :: t => by
    rw [le_iff_lt_or_eq, List.cons_lt_cons_iff, List.cons.injEq, le]
    by_cases h : a = b
    · simp [h, le_iff s t, le_iff_lt_or_eq]
    · simp only [h, if_false, decide_eq_true_eq, false_and, or_false]
      rfl

end Text

/-! ## The length in bytes -/

namespace Utf8

theorem length_encode_append (s t : Text) :
    (encode (s ++ t)).length = (encode s).length + (encode t).length := by
  simp [encode]

theorem length_encode_cons_pos (c : Char) (t : Text) : 0 < (encode (c :: t)).length := by
  have hone : 0 < (encodeChar c).length := by
    unfold encodeChar
    simp only []
    split_ifs <;> simp
  have hcons : encode (c :: t) = encodeChar c ++ encode t := List.flatMap_cons
  rw [hcons, List.length_append]
  omega

end Utf8

namespace Path

theorem join_eq_intercalate : ∀ names : List Text, join names = ['/'].intercalate names
  | [] => rfl
  | [n] => by simp [join]
  | n :: m :: names => by
    rw [join, join_eq_intercalate (m :: names), List.intercalate_cons_cons]
    · simp
    · simp

theorem pieces_join {names : List Text} (hne : names ≠ []) (h : ∀ n ∈ names, '/' ∉ n) :
    Text.pieces (join names) '/' = names := by
  rw [Text.pieces_eq_splitOn, join_eq_intercalate]
  exact List.splitOn_intercalate '/' h hne

theorem join_pieces (t : Text) : join (t.pieces '/') = t := by
  rw [Text.pieces_eq_splitOn, join_eq_intercalate]
  exact List.intercalate_splitOn '/'

theorem mem_join {c : Char} : ∀ {names : List Text}, c ∈ join names →
    c = '/' ∨ ∃ n ∈ names, c ∈ n
  | [], h => by simp [join] at h
  | [n], h => .inr ⟨n, by simp, h⟩
  | n :: m :: names, h => by
    rw [join, List.mem_append, List.mem_cons] at h
    · rcases h with h | rfl | h
      · exact .inr ⟨n, by simp, h⟩
      · exact .inl rfl
      · rcases mem_join h with h | ⟨k, hk, h⟩
        · exact .inl h
        · exact .inr ⟨k, List.mem_cons_of_mem n hk, h⟩
    · simp

theorem mem_join_of_mem {c : Char} : ∀ {names : List Text} {n : Text}, n ∈ names → c ∈ n →
    c ∈ join names
  | [m], n, hn, hc => by
    obtain rfl : n = m := by simpa using hn
    exact hc
  | m :: k :: names, n, hn, hc => by
    rw [join, List.mem_append, List.mem_cons]
    · rcases List.mem_cons.1 hn with rfl | hn
      · exact .inl hc
      · exact .inr (.inr (mem_join_of_mem hn hc))
    · simp

/-- Every name but the last is followed by a slash, which is one byte. -/
theorem length_encode_join : ∀ {names : List Text}, names ≠ [] →
    (Utf8.encode (join names)).length + 1 = sumBy (fun n => (Utf8.encode n).length + 1) names
  | [], h => absurd rfl h
  | [n], _ => rfl
  | n :: m :: names, _ => by
    have ih := length_encode_join (List.cons_ne_nil m names)
    have hslash : (Utf8.encode ('/' :: join (m :: names))).length
        = 1 + (Utf8.encode (join (m :: names))).length :=
      Utf8.length_encode_append ['/'] _
    rw [join, Utf8.length_encode_append, hslash, sumBy, ← ih]
    · omega
    · simp

/-! ## Paths in normal form -/

/-- A path without names that a path leaves out. -/
structure Normal (p : Path) : Prop where
  root : p.root = [] ∨ p.root = ['/'] ∨ p.root = ['/', '/']
  names : ∀ n ∈ p.names, n ≠ [] ∧ n ≠ ['.'] ∧ '/' ∉ n

theorem rootOf_cases (t : Text) :
    rootOf t = [] ∧ t.head? ≠ some '/'
      ∨ (rootOf t = ['/'] ∨ rootOf t = ['/', '/']) ∧ t.head? = some '/' := by
  unfold rootOf
  split
  · simp
  · simp
  · simp
  · rename_i h
    refine .inl ⟨rfl, fun hhead => ?_⟩
    rcases t with - | ⟨c, t⟩
    · simp at hhead
    · obtain rfl : c = '/' := by simpa using hhead
      exact h t rfl

theorem normal_ofString (s : String) : (ofString s).Normal := by
  refine ⟨?_, fun n hn => ?_⟩
  · rcases rootOf_cases s.toList with ⟨h, -⟩ | ⟨h, -⟩
    · exact .inl h
    · exact .inr h
  · simp only [ofString, List.mem_filter] at hn
    refine ⟨?_, ?_, Text.not_mem_of_mem_pieces hn.1⟩
    · rintro rfl
      simp at hn
    · rintro rfl
      simp at hn

variable {p : Path}

theorem toText_of_names (hne : p.names ≠ []) : p.toText = p.root ++ join p.names := by
  simp [toText, hne]

theorem head?_join {names : List Text} (h : ∀ n ∈ names, n ≠ [] ∧ n ≠ ['.'] ∧ '/' ∉ n) :
    (join names).head? ≠ some '/' := by
  rcases names with - | ⟨n, names⟩
  · simp [join]
  · obtain ⟨hn, -, hslash⟩ := h n List.mem_cons_self
    rcases n with - | ⟨c, n⟩
    · exact absurd rfl hn
    · rcases names with - | ⟨m, names⟩ <;> simp_all [join, eq_comm]

theorem Normal.eq_slash (h : p.Normal) {c : Char} (hc : c ∈ p.root) : c = '/' := by
  rcases h.root with hroot | hroot | hroot <;> simp_all

theorem mem_toText {c : Char} (h : p.Normal) (hc : c ≠ '/') (hc' : c ≠ '.') :
    c ∈ p.toText ↔ ∃ n ∈ p.names, c ∈ n := by
  have hroot : c ∉ p.root := fun hmem => hc (h.eq_slash hmem)
  by_cases hne : p.names = []
  · unfold toText
    split_ifs <;> simp [hne, hc', hroot, join]
  · rw [toText_of_names hne, List.mem_append, or_iff_right hroot]
    refine ⟨fun hmem => (mem_join hmem).resolve_left hc, fun ⟨n, hn, hmem⟩ => ?_⟩
    exact mem_join_of_mem hn hmem

/-- The text of a path starts with its root, and no slash follows. -/
theorem Normal.toText_eq (h : p.Normal) :
    ∃ t : Text, p.toText = p.root ++ t ∧ t.head? ≠ some '/' := by
  unfold toText
  split_ifs with hempty
  · refine ⟨['.'], ?_, by simp⟩
    simp_all
  · exact ⟨join p.names, rfl, head?_join h.names⟩

theorem toText_ne_nil (h : p.Normal) : p.toText ≠ [] := by
  by_cases hne : p.names = []
  · unfold toText
    split_ifs <;> simp_all
  · rw [toText_of_names hne]
    intro hnil
    have hpieces := pieces_join hne fun n hn => (h.names n hn).2.2
    rw [(List.append_eq_nil_iff.1 hnil).2] at hpieces
    exact (h.names [] (by rw [← hpieces]; exact List.mem_singleton_self _)).1 rfl

theorem head?_toText_iff (h : p.Normal) : p.toText.head? = some '/' ↔ p.root ≠ [] := by
  obtain ⟨t, ht, hhead⟩ := h.toText_eq
  rw [ht]
  rcases h.root with hroot | hroot | hroot <;> simp [hroot, hhead]

theorem rootOf_toText (h : p.Normal) : rootOf p.toText = p.root := by
  obtain ⟨t, ht, hhead⟩ := h.toText_eq
  rw [ht]
  rcases t with - | ⟨c, t⟩
  · rcases h.root with hroot | hroot | hroot <;> rw [hroot] <;> rfl
  · have hc : c ≠ '/' := by simpa using hhead
    rcases h.root with hroot | hroot | hroot <;> rw [hroot] <;> simp [rootOf, hc]

/-- Slashes at the start cut off empty pieces. -/
theorem pieces_slashes_append (t : Text) : ∀ {r : Text}, (∀ c ∈ r, c = '/') →
    Text.pieces (r ++ t) '/' = r.map (fun _ => []) ++ Text.pieces t '/'
  | [], _ => rfl
  | c :: r, h => by
    rw [List.forall_mem_cons] at h
    rw [List.cons_append, Text.pieces, if_pos h.1, pieces_slashes_append t h.2]
    rfl

/-- In the text of a path, only pieces that a path leaves out stand before its names. -/
theorem pieces_toText (h : p.Normal) :
    ∃ blanks : List Text, (∀ n ∈ blanks, n = [] ∨ n = ['.'])
      ∧ Text.pieces p.toText '/' = blanks ++ p.names := by
  by_cases hne : p.names = []
  · unfold toText
    split_ifs with hempty
    · exact ⟨[['.']], by simp, by simp [hne, Text.pieces, Text.onFirst]⟩
    · rw [hne, join, pieces_slashes_append [] fun c hc => h.eq_slash hc]
      refine ⟨p.root.map (fun _ => []) ++ [[]], fun n hn => .inl ?_, by simp [Text.pieces]⟩
      simp only [List.mem_append, List.mem_map, List.mem_singleton] at hn
      rcases hn with ⟨-, -, hn⟩ | hn
      · exact hn.symm
      · exact hn
  · rw [toText_of_names hne, pieces_slashes_append _ fun c hc => h.eq_slash hc,
      pieces_join hne fun n hn => (h.names n hn).2.2]
    refine ⟨p.root.map fun _ => [], fun n hn => .inl ?_, rfl⟩
    obtain ⟨-, -, rfl⟩ := List.mem_map.1 hn
    rfl

theorem ofString_toString (h : p.Normal) : ofString p.toString = p := by
  obtain ⟨blanks, hblanks, hpieces⟩ := pieces_toText h
  have hkept : p.names.filter (fun n => !(n.isEmpty || n == ['.'])) = p.names := by
    rw [List.filter_eq_self]
    intro n hn
    simp [h.names n hn]
  have hdropped : blanks.filter (fun n => !(n.isEmpty || n == ['.'])) = [] := by
    rw [List.filter_eq_nil_iff]
    intro n hn
    rcases hblanks n hn with rfl | rfl <;> simp
  rw [ofString, toString, String.toList_ofList, rootOf_toText h, hpieces, List.filter_append,
    hkept, hdropped, List.nil_append]

theorem Normal.below (h : p.Normal) {names : List Text}
    (hnames : ∀ n ∈ names, n ≠ [] ∧ n ≠ ['.'] ∧ '/' ∉ n) : (p.below names).Normal := by
  refine ⟨h.root, fun n hn => ?_⟩
  rcases List.mem_append.1 hn with hn | hn
  · exact h.names n hn
  · exact hnames n hn

/-- The root of a text stands at its start. -/
theorem exists_eq_rootOf_append (t : Text) : ∃ rest, t = rootOf t ++ rest := by
  unfold rootOf
  split
  · exact ⟨_, rfl⟩
  · exact ⟨_, rfl⟩
  · exact ⟨_, rfl⟩
  · exact ⟨t, rfl⟩

/-- The slashes of the root give no names. -/
theorem names_ofString {s : String} {rest : Text} (h : s.toList = rootOf s.toList ++ rest) :
    (ofString s).names = (Text.pieces rest '/').filter fun n => !(n.isEmpty || n == ['.']) := by
  have hslash : ∀ c ∈ rootOf s.toList, c = '/' := fun c hc => (normal_ofString s).eq_slash hc
  rw [ofString, h, pieces_slashes_append rest hslash,
    List.filter_append, List.filter_eq_nil_iff.2, List.nil_append]
  intro n hn
  obtain ⟨-, -, rfl⟩ := List.mem_map.1 hn
  simp

theorem length_encode_toText_le {s : String} (hne : s.toList ≠ []) :
    (Utf8.encode (ofString s).toText).length ≤ (Utf8.encode s.toList).length := by
  obtain ⟨rest, hrest⟩ := exists_eq_rootOf_append s.toList
  have hroot : (ofString s).root = rootOf s.toList := rfl
  have hsplit : (Utf8.encode s.toList).length
      = (Utf8.encode (rootOf s.toList)).length + (Utf8.encode rest).length := by
    rw [← Utf8.length_encode_append, ← hrest]
  by_cases hnames : (ofString s).names = []
  · by_cases hnil : rootOf s.toList = []
    · rcases hs : s.toList with - | ⟨c, t⟩
      · exact absurd hs hne
      · have hdot : (Utf8.encode (ofString s).toText).length = 1 := by
          simp only [toText, hroot, hnil, hnames]
          rfl
        have := Utf8.length_encode_cons_pos c t
        omega
    · have htext : (ofString s).toText = rootOf s.toList := by
        simp [toText, hroot, hnil, hnames, join]
      rw [htext]
      omega
  · -- leaving out names leaves out summands
    have hsub : sumBy (fun n => (Utf8.encode n).length + 1) (ofString s).names
        ≤ sumBy (fun n => (Utf8.encode n).length + 1) (Text.pieces rest '/') := by
      rw [names_ofString hrest]
      exact sumBy_filter_le _ _ _
    have hpieces : Text.pieces rest '/' ≠ [] := by
      rw [Text.pieces_eq_splitOn]
      exact List.splitOn_ne_nil _ _
    have hlong := length_encode_join hpieces
    have hshort := length_encode_join hnames
    rw [join_pieces] at hlong
    rw [toText_of_names hnames, Utf8.length_encode_append, hroot]
    omega

/-! ## The order of paths -/

theorem namesLE_iff : ∀ a b : List Text, namesLE a b = true ↔ a ≤ b
  | [], b => by simp [namesLE, ← not_lt]
  | m :: a, [] => by simp [namesLE]
  | m :: a, n :: b => by
    rw [le_iff_lt_or_eq, List.cons_lt_cons_iff, List.cons.injEq, namesLE]
    by_cases h : m = n
    · simp [h, namesLE_iff a b, le_iff_lt_or_eq]
    · simp only [h, if_false, Text.le_iff, false_and, or_false]
      rw [le_iff_lt_or_eq, or_iff_left h]

theorem pairwise_mergeSort {l : List (List Text)} (h : l.Nodup) :
    (l.mergeSort namesLE).Pairwise (· < ·) := by
  have hsorted : (l.mergeSort namesLE).Pairwise fun a b => namesLE a b = true := by
    refine List.pairwise_mergeSort (fun a b c => ?_) (fun a b => ?_) l
    · simp only [namesLE_iff]
      exact le_trans
    · rw [Bool.or_eq_true, namesLE_iff, namesLE_iff]
      exact le_total a b
  have hnodup : (l.mergeSort namesLE).Nodup := (List.mergeSort_perm l namesLE).nodup_iff.2 h
  refine hsorted.imp₂ (fun a b hle hne => ?_) hnodup
  exact lt_of_le_of_ne ((namesLE_iff a b).1 hle) hne

end Path

end SourceStyle
