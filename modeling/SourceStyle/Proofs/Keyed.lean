import Mathlib.Algebra.GroupWithZero.Nat
import Mathlib.Algebra.Order.BigOperators.Group.List
import Mathlib.Algebra.Order.Group.Nat
import Mathlib.Data.List.Induction
import Mathlib.Data.List.Nodup
import SourceStyle.SumBy
import SourceStyle.Tally

/-!
# Keyed lists and tallies

A key that is new goes to the end and any other keeps its place (`keys_alter`), so values put one
after the other stand under their keys in the order in which these first came (`keys_ofList`), each
key with the value put last (`find?_ofList`). Every count added to a tally adds to its total, so a
tally of names has as many in total as there are names (`total_ofNames`), and tallies that are merged in
another order have the same counts (`perm_foldl_merge`), which for each name are the sum of its counts
(`countOf_foldl_merge`).
-/

namespace SourceStyle

/-! ## Lists without their repetitions -/

section EraseDups

variable {α : Type} [DecidableEq α]

theorem eraseDups_concat (l : List α) (a : α) :
    (l ++ [a]).eraseDups = if a ∈ l then l.eraseDups else l.eraseDups ++ [a] := by
  have hone : [a].eraseDups = [a] := List.eraseDups_cons
  by_cases h : a ∈ l <;> simp [List.eraseDups_append, List.removeAll, h, hone]

theorem nodup_eraseDups (l : List α) : l.eraseDups.Nodup := by
  induction l using List.reverseRecOn with
  | nil => exact List.nodup_nil
  | append_singleton l a ih =>
    rw [eraseDups_concat]
    by_cases h : a ∈ l
    · rwa [if_pos h]
    · rw [if_neg h, ← List.concat_eq_append, List.nodup_concat, List.mem_eraseDups]
      exact ⟨h, ih⟩

end EraseDups

/-! ## Sums -/

section SumBy

variable {α β : Type}

theorem sumBy_eq_sum (f : α → Nat) : ∀ l : List α, sumBy f l = (l.map f).sum
  | [] => rfl
  | a :: l => by rw [sumBy, sumBy_eq_sum f l, List.map_cons, List.sum_cons]

theorem sumBy_map (f : β → Nat) (g : α → β) (l : List α) :
    sumBy f (l.map g) = sumBy (f ∘ g) l := by
  rw [sumBy_eq_sum, sumBy_eq_sum, List.map_map]

theorem sumBy_add (f g : α → Nat) (l : List α) :
    sumBy (fun a => f a + g a) l = sumBy f l + sumBy g l := by
  simp only [sumBy_eq_sum, List.sum_map_add]

theorem sumBy_const (n : Nat) (l : List α) : sumBy (fun _ => n) l = n * l.length := by
  rw [sumBy_eq_sum, List.map_const', List.sum_replicate_nat, Nat.mul_comm]

theorem sumBy_congr {f g : α → Nat} {l : List α} (h : ∀ a ∈ l, f a = g a) :
    sumBy f l = sumBy g l := by
  rw [sumBy_eq_sum, sumBy_eq_sum, List.map_congr_left h]

theorem sumBy_perm (f : α → Nat) {l l' : List α} (h : l.Perm l') : sumBy f l = sumBy f l' := by
  rw [sumBy_eq_sum, sumBy_eq_sum, (h.map f).sum_eq]

theorem sumBy_append (f : α → Nat) (l l' : List α) :
    sumBy f (l ++ l') = sumBy f l + sumBy f l' := by
  simp only [sumBy_eq_sum, List.map_append, List.sum_append]

theorem sumBy_eq_zero_iff {f : α → Nat} {l : List α} (h : ∀ a ∈ l, 0 < f a) :
    sumBy f l = 0 ↔ l = [] := by
  rw [sumBy_eq_sum, List.sum_eq_zero_iff]
  refine ⟨fun hzero => List.eq_nil_iff_forall_not_mem.2 fun a ha => ?_, fun hl => by simp [hl]⟩
  have hpos := h a ha
  have hnone := hzero (f a) (List.mem_map_of_mem ha)
  omega

theorem sumBy_filter_le (f : α → Nat) (p : α → Bool) (l : List α) :
    sumBy f (l.filter p) ≤ sumBy f l := by
  rw [sumBy_eq_sum, sumBy_eq_sum]
  exact ((List.filter_sublist (p := p)).map f).sum_le_sum fun _ _ => Nat.zero_le _

theorem sumBy_filter {f : α → Nat} {p : α → Bool} : ∀ {l : List α},
    (∀ a ∈ l, p a = false → f a = 0) → sumBy f (l.filter p) = sumBy f l
  | [], _ => rfl
  | a :: l, h => by
    have ih := sumBy_filter fun b hb => h b (List.mem_cons_of_mem a hb)
    rcases hp : p a
    · rw [List.filter_cons_of_neg (by simp [hp]), ih, sumBy, h a List.mem_cons_self hp,
        Nat.zero_add]
    · rw [List.filter_cons_of_pos hp, sumBy, sumBy, ih]

end SumBy

namespace Keyed

variable {κ υ ω : Type}

theorem keys_nil : keys ([] : Keyed κ υ) = [] := rfl

theorem keys_cons (x : κ × υ) (m : Keyed κ υ) : keys (x :: m) = x.1 :: keys m := rfl

theorem keys_map (g : υ → ω) (m : Keyed κ υ) : keys (m.map (Prod.map id g)) = m.keys := by
  simp [keys]

theorem values_map (g : υ → ω) (m : Keyed κ υ) :
    values (m.map (Prod.map id g)) = m.values.map g := by
  simp [values]

variable [DecidableEq κ]

/-! ## Look-ups -/

theorem find?_nil (k : κ) : find? ([] : Keyed κ υ) k = none := rfl

theorem find?_cons (x : κ × υ) (m : Keyed κ υ) (k : κ) :
    find? (x :: m) k = if x.1 = k then some x.2 else find? m k := by
  by_cases h : x.1 = k <;> simp [find?, h]

theorem find?_map (g : υ → ω) (k : κ) : ∀ m : Keyed κ υ,
    find? (m.map (Prod.map id g)) k = (m.find? k).map g
  | [] => rfl
  | x :: m => by
    rw [List.map_cons, find?_cons, find?_cons, find?_map g k m, Prod.map_fst, Prod.map_snd, id]
    by_cases h : x.1 = k <;> simp [h]

theorem find?_eq_some_iff_mem {k : κ} {v : υ} : ∀ {m : Keyed κ υ}, m.keys.Nodup →
    (m.find? k = some v ↔ (k, v) ∈ m)
  | [], _ => by simp [find?_nil]
  | x :: m, hm => by
    rw [keys_cons, List.nodup_cons] at hm
    rw [find?_cons, List.mem_cons]
    by_cases h : x.1 = k
    · subst h
      have hout : (x.1, v) ∉ m := fun hv => hm.1 (List.mem_map.2 ⟨_, hv, rfl⟩)
      simp [hout, Prod.ext_iff, eq_comm]
    · simp [find?_eq_some_iff_mem hm.2, Prod.ext_iff, h, Ne.symm h]

/-- Keyed lists with the same look-ups differ in their order only. -/
theorem perm_of_find? {m m' : Keyed κ υ} (hm : m.keys.Nodup) (hm' : m'.keys.Nodup)
    (h : ∀ k, m.find? k = m'.find? k) : m.Perm m' := by
  refine (List.perm_ext_iff_of_nodup (.of_map Prod.fst hm) (.of_map Prod.fst hm')).2 fun x => ?_
  rw [← find?_eq_some_iff_mem hm, ← find?_eq_some_iff_mem hm', h]

theorem find?_alter (k : κ) (f : Option υ → υ) (k' : κ) : ∀ m : Keyed κ υ,
    (m.alter k f).find? k' = if k' = k then some (f (m.find? k)) else m.find? k'
  | [] => by simp [alter, find?_cons, find?_nil, eq_comm]
  | x :: m => by
    by_cases h : x.1 = k
    · subst h
      by_cases hk : k' = x.1
      · simp [alter, find?_cons, hk]
      · simp [alter, find?_cons, hk, Ne.symm hk]
    · simp only [alter, if_neg h, find?_cons, find?_alter k f k' m]
      by_cases hk : k' = k
      · subst hk
        simp [h]
      · simp [hk]

/-- To put a value changes nothing only where a look-up already gives it. -/
theorem insert_eq_self_iff (k : κ) (v : υ) : ∀ m : Keyed κ υ,
    m.insert k v = m ↔ m.find? k = some v
  | [] => by simp [insert, alter, find?_nil]
  | x :: m => by
    have ih := insert_eq_self_iff k v m
    by_cases h : x.1 = k
    · simp only [insert, alter, find?_cons, if_pos h, List.cons.injEq, and_true, Option.some.injEq]
      exact ⟨fun hx => by rw [← hx], fun hx => by rw [← hx]⟩
    · simp only [insert, alter, find?_cons, if_neg h, List.cons.injEq, true_and] at ih ⊢
      exact ih

/-! ## Keys -/

theorem keys_alter (k : κ) (f : Option υ → υ) : ∀ m : Keyed κ υ,
    (m.alter k f).keys = if k ∈ m.keys then m.keys else m.keys ++ [k]
  | [] => by simp [alter, keys_cons, keys_nil]
  | x :: m => by
    by_cases h : x.1 = k
    · simp [alter, keys_cons, h]
    · simp only [alter, if_neg h, keys_cons, keys_alter k f m, List.mem_cons]
      by_cases hk : k ∈ keys m
      · simp [hk]
      · simp [hk, Ne.symm h]

theorem isSome_find?_iff (k : κ) : ∀ m : Keyed κ υ, (m.find? k).isSome ↔ k ∈ m.keys
  | [] => by simp [find?_nil, keys_nil]
  | x :: m => by
    rw [find?_cons, keys_cons, List.mem_cons, ← isSome_find?_iff k m]
    by_cases h : x.1 = k
    · simp [h]
    · simp [h, Ne.symm h]

/-- Keys that are used one after the other stand in the order in which they first came. -/
theorem keys_foldl_alter {α : Type} (key : α → κ) (f : α → Option υ → υ) (l : List α) :
    keys (l.foldl (fun m a => alter (key a) (f a) m) []) = (l.map key).eraseDups := by
  induction l using List.reverseRecOn with
  | nil => rfl
  | append_singleton l a ih =>
    simp only [List.foldl_append, List.foldl_cons, List.foldl_nil, List.map_append, List.map_cons,
      List.map_nil, keys_alter, ih, eraseDups_concat, List.mem_eraseDups]

/-! ## Values put one after the other -/

def ofList (l : List (κ × υ)) : Keyed κ υ := l.foldl (fun m x => m.insert x.1 x.2) []

theorem ofList_concat (l : List (κ × υ)) (x : κ × υ) :
    ofList (l ++ [x]) = (ofList l).insert x.1 x.2 := by
  simp only [ofList, List.foldl_append, List.foldl_cons, List.foldl_nil]

theorem keys_ofList (l : List (κ × υ)) : (ofList l).keys = (l.map Prod.fst).eraseDups :=
  keys_foldl_alter Prod.fst (fun x _ => x.2) l

/-- A key has the value that was put last under it. -/
theorem find?_ofList (l : List (κ × υ)) (k : κ) :
    (ofList l).find? k = (l.reverse.find? (·.1 = k)).map Prod.snd := by
  induction l using List.reverseRecOn with
  | nil => rfl
  | append_singleton l x ih =>
    rw [ofList_concat, insert, find?_alter, ih, List.reverse_append, List.reverse_singleton,
      List.singleton_append, List.find?_cons]
    by_cases h : x.1 = k
    · simp [h]
    · simp [h, Ne.symm h]

theorem mem_insert {k : κ} {v : υ} {x : κ × υ} : ∀ {m : Keyed κ υ}, x ∈ m.insert k v →
    x = (k, v) ∨ x ∈ m
  | [], h => by simpa [insert, alter] using h
  | y :: m, h => by
    simp only [insert, alter] at h
    split_ifs at h with hy
    · rcases List.mem_cons.1 h with h | h
      · exact .inl (by rw [h, hy])
      · exact .inr (List.mem_cons_of_mem y h)
    · rcases List.mem_cons.1 h with rfl | h
      · exact .inr List.mem_cons_self
      · exact (mem_insert h).imp_right (List.mem_cons_of_mem y)

theorem mem_of_mem_ofList {l : List (κ × υ)} {x : κ × υ} (h : x ∈ ofList l) : x ∈ l := by
  induction l using List.reverseRecOn with
  | nil => exact h
  | append_singleton l y ih =>
    rw [ofList_concat] at h
    rcases mem_insert h with rfl | h
    · simp
    · exact List.mem_append_left _ (ih h)

theorem insert_of_not_mem {k : κ} {v : υ} : ∀ {m : Keyed κ υ}, k ∉ m.keys →
    m.insert k v = m ++ [(k, v)]
  | [], _ => rfl
  | x :: m, h => by
    rw [keys_cons, List.mem_cons, not_or] at h
    have ih : alter k (fun _ => v) m = m ++ [(k, v)] := insert_of_not_mem h.2
    simp only [insert, alter, if_neg (Ne.symm h.1), ih, List.cons_append]

theorem ofList_of_nodup {l : List (κ × υ)} (h : (l.map Prod.fst).Nodup) : ofList l = l := by
  induction l using List.reverseRecOn with
  | nil => rfl
  | append_singleton l x ih =>
    rw [List.map_append, List.nodup_append] at h
    have hnew : x.1 ∉ keys l := fun hx => h.2.2 x.1 hx x.1 (by simp) rfl
    rw [ofList_concat, ih h.1, insert_of_not_mem hnew]

theorem insert_map (g : υ → ω) (k : κ) (v : υ) : ∀ m : Keyed κ υ,
    insert k (g v) (m.map (Prod.map id g)) = (m.insert k v).map (Prod.map id g)
  | [] => rfl
  | (a, w) :: m => by
    have ih := insert_map g k v m
    by_cases h : a = k
    · simp only [insert, List.map_cons, Prod.map_apply, id, alter, if_pos h]
    · simp only [insert, List.map_cons, Prod.map_apply, id, alter, if_neg h] at ih ⊢
      rw [ih]

/-! ## Groups -/

/-- The values of each key, in their order. -/
def group (l : List (κ × υ)) : Keyed κ (List υ) :=
  l.foldl (fun m x => m.alter x.1 fun vs => vs.getD [] ++ [x.2]) []

theorem keys_group (l : List (κ × υ)) : (group l).keys = (l.map Prod.fst).eraseDups :=
  keys_foldl_alter Prod.fst (fun x vs => vs.getD [] ++ [x.2]) l

theorem find?_group (l : List (κ × υ)) (k : κ) :
    ((group l).find? k).getD [] = (l.filter (·.1 = k)).map Prod.snd := by
  induction l using List.reverseRecOn with
  | nil => rfl
  | append_singleton l x ih =>
    have hconcat : group (l ++ [x])
        = (group l).alter x.1 fun vs => vs.getD [] ++ [x.2] := by
      simp only [group, List.foldl_append, List.foldl_cons, List.foldl_nil]
    rw [hconcat, find?_alter, List.filter_append, List.map_append, ← ih]
    by_cases h : x.1 = k
    · simp [h]
    · simp [h, Ne.symm h]

end Keyed

namespace Tally

/-- All that a tally counts. -/
def total (t : Tally) : Nat := sumBy Prod.snd t

theorem total_add (name : String) (n : Nat) : ∀ t : Tally, (t.add name n).total = t.total + n
  | [] => by simp [add, Keyed.alter, total, sumBy]
  | x :: t => by
    have ih := total_add name n t
    by_cases h : x.1 = name
    · simp only [add, Keyed.alter, if_pos h, total, sumBy, Option.getD_some]
      omega
    · simp only [add, Keyed.alter, if_neg h, total, sumBy] at ih ⊢
      omega

theorem total_foldl_add {α : Type} (name : α → String) (n : α → Nat) : ∀ (l : List α) (t : Tally),
    (l.foldl (fun t a => t.add (name a) (n a)) t).total = t.total + sumBy n l
  | [], t => rfl
  | a :: l, t => by
    rw [List.foldl_cons, total_foldl_add name n l, total_add, sumBy, Nat.add_assoc]

theorem total_ofNames (names : List String) : (ofNames names).total = names.length := by
  rw [ofNames, total_foldl_add (fun name => name) (fun _ => 1), sumBy_const, Nat.one_mul]
  exact Nat.zero_add _

theorem total_merge (t u : Tally) : (t.merge u).total = t.total + u.total :=
  total_foldl_add Prod.fst Prod.snd u t

theorem total_foldl_merge : ∀ (us : List Tally) (t : Tally),
    (us.foldl merge t).total = t.total + sumBy total us
  | [], t => rfl
  | u :: us, t => by
    rw [List.foldl_cons, total_foldl_merge us, total_merge, sumBy, Nat.add_assoc]

/-- Every name that is counted is counted at least once. -/
def Positive (t : Tally) : Prop := ∀ x ∈ t, 0 < x.2

theorem Positive.add {name : String} {n : Nat} (hn : 0 < n) : ∀ {t : Tally}, t.Positive →
    (t.add name n).Positive
  | [], _ => by simpa [Tally.add, Keyed.alter, Positive] using hn
  | x :: t, h => by
    simp only [Positive, List.forall_mem_cons] at h
    have ih : (Tally.add name n t).Positive := Positive.add hn h.2
    by_cases hx : x.1 = name
    · simp only [Tally.add, Keyed.alter, if_pos hx, Positive, List.forall_mem_cons]
      exact ⟨Nat.lt_of_lt_of_le hn (Nat.le_add_left _ _), h.2⟩
    · simp only [Tally.add, Keyed.alter, if_neg hx, Positive, List.forall_mem_cons] at ih ⊢
      exact ⟨h.1, ih⟩

theorem positive_foldl_add {α : Type} (name : α → String) {n : α → Nat} : ∀ {l : List α} {t : Tally},
    (∀ a ∈ l, 0 < n a) → t.Positive → (l.foldl (fun t a => t.add (name a) (n a)) t).Positive
  | [], _, _, ht => ht
  | a :: l, t, hl, ht => by
    rw [List.forall_mem_cons] at hl
    rw [List.foldl_cons]
    exact positive_foldl_add name hl.2 (ht.add hl.1)

theorem positive_ofNames (names : List String) : (ofNames names).Positive :=
  positive_foldl_add (fun name => name) (n := fun _ => 1) (fun _ _ => Nat.one_pos) (by simp [Positive])

theorem foldl_merge (us : List Tally) (t : Tally) :
    us.foldl merge t = us.flatten.foldl (fun t x => t.add x.1 x.2) t :=
  List.foldl_flatten.symm

theorem positive_foldl_merge {us : List Tally} (h : ∀ u ∈ us, u.Positive) :
    (us.foldl merge []).Positive := by
  rw [foldl_merge]
  refine positive_foldl_add Prod.fst (fun x hx => ?_) (by simp [Positive])
  obtain ⟨u, hu, hx⟩ := List.mem_flatten.1 hx
  exact h u hu x hx

theorem keys_foldl_merge (us : List Tally) :
    (us.foldl merge []).keys = (us.flatten.map Prod.fst).eraseDups := by
  rw [foldl_merge]
  exact Keyed.keys_foldl_alter Prod.fst (fun x old => old.getD 0 + x.2) us.flatten

theorem mem_keys_foldl_merge {us : List Tally} {name : String} :
    name ∈ (us.foldl merge []).keys ↔ ∃ u ∈ us, name ∈ u.keys := by
  rw [keys_foldl_merge, List.mem_eraseDups]
  simp only [Keyed.keys, List.mem_map, List.mem_flatten]
  constructor
  · rintro ⟨x, ⟨u, hu, hx⟩, rfl⟩
    exact ⟨u, hu, x, hx, rfl⟩
  · rintro ⟨u, hu, x, hx, rfl⟩
    exact ⟨x, ⟨u, hu, hx⟩, rfl⟩

theorem nodup_keys_foldl_merge (us : List Tally) : (us.foldl merge []).keys.Nodup := by
  rw [keys_foldl_merge]
  exact nodup_eraseDups _

/-- Of counts that are added one after the other, a name sees only its own. -/
theorem find?_foldl_add (name : String) : ∀ (l : List (String × Nat)) (t : Tally),
    (l.foldl (fun t x => t.add x.1 x.2) t).find? name
      = l.foldl (fun n x => if name = x.1 then some (n.getD 0 + x.2) else n) (t.find? name)
  | [], t => rfl
  | x :: l, t => by
    rw [List.foldl_cons, List.foldl_cons, find?_foldl_add name l, add, Keyed.find?_alter]
    by_cases h : name = x.1 <;> simp [h]

/-- The order in which tallies are merged does not change a count. -/
theorem find?_foldl_merge_perm {us us' : List Tally} (h : us.Perm us') (name : String) :
    (us.foldl merge []).find? name = (us'.foldl merge []).find? name := by
  rw [foldl_merge, foldl_merge, find?_foldl_add, find?_foldl_add]
  refine h.flatten.foldl_eq' (fun x _ y _ n => ?_) _
  by_cases hx : name = x.1
  · by_cases hy : name = y.1
    · simp only [if_pos hx, if_pos hy, Option.getD_some, Nat.add_right_comm]
    · simp only [if_pos hx, if_neg hy]
  · simp only [if_neg hx]

theorem perm_foldl_merge {us us' : List Tally} (h : us.Perm us') :
    (us.foldl merge []).Perm (us'.foldl merge []) :=
  Keyed.perm_of_find? (nodup_keys_foldl_merge us) (nodup_keys_foldl_merge us')
    (find?_foldl_merge_perm h)

/-- How often a tally counts a name. -/
def countOf (t : Tally) (name : String) : Nat := (t.find? name).getD 0

theorem countOf_of_not_mem {t : Tally} {name : String} (h : name ∉ t.keys) :
    t.countOf name = 0 := by
  rw [← Keyed.isSome_find?_iff, Option.not_isSome_iff_eq_none] at h
  rw [countOf, h, Option.getD_none]

theorem countOf_add (t : Tally) (name : String) (n : Nat) (name' : String) :
    (t.add name n).countOf name' = t.countOf name' + if name = name' then n else 0 := by
  rw [countOf, countOf, add, Keyed.find?_alter]
  by_cases h : name = name'
  · simp [h]
  · simp [h, Ne.symm h]

theorem countOf_merge (name : String) : ∀ {u : Tally}, u.keys.Nodup → ∀ t : Tally,
    (t.merge u).countOf name = t.countOf name + u.countOf name
  | [], _, t => rfl
  | x :: u, h, t => by
    rw [Keyed.keys_cons, List.nodup_cons] at h
    have hstep : t.merge (x :: u) = (t.add x.1 x.2).merge u := rfl
    have hcons : countOf (x :: u) name = if x.1 = name then x.2 else countOf u name := by
      rw [countOf, Keyed.find?_cons]
      split_ifs <;> rfl
    rw [hstep, countOf_merge name h.2, countOf_add, hcons]
    split_ifs with hx
    · have hout : countOf u name = 0 := countOf_of_not_mem (hx ▸ h.1)
      rw [hout, Nat.add_zero]
    · rw [Nat.add_zero]

theorem countOf_foldl_merge (name : String) : ∀ (us : List Tally) (t : Tally),
    (∀ u ∈ us, u.keys.Nodup) →
      (us.foldl merge t).countOf name = t.countOf name + sumBy (countOf · name) us
  | [], _, _ => rfl
  | u :: us, t, h => by
    rw [List.forall_mem_cons] at h
    rw [List.foldl_cons, countOf_foldl_merge name us _ h.2, countOf_merge name h.1, sumBy,
      Nat.add_assoc]

theorem keys_ofNames (names : List String) : (ofNames names).keys = names.eraseDups := by
  have := Keyed.keys_foldl_alter (fun name => name) (fun _ old => old.getD 0 + 1) names
  rwa [List.map_id'] at this

end Tally

end SourceStyle
