import SourceStyle.Proofs.Summary

/-!
# The most common violations

The counts of a tally are ranked by falling count, and those that are equal stand in the order of the
tally (`pairwise_ahead_ranked`). The most common rules are the first ten of this ranking, so each of them
is ahead of every rule that is left out (`leads_mostCommon`). Every rule that is counted is broken at
least once. So the most common rules account for all violations just when no rule is left out, that is,
when at most ten rules are broken (`total_mostCommon_iff`).
-/

namespace SourceStyle

/-! ## Two items of a list in their order -/

section Pairs

variable {α : Type} {a b : α}

theorem pair_sublist_or {l : List α} (ha : a ∈ l) (hb : b ∈ l) (hne : a ≠ b) :
    [a, b].Sublist l ∨ [b, a].Sublist l := by
  obtain ⟨l₁, l₂, rfl⟩ := List.append_of_mem ha
  rcases List.mem_append.1 hb with hb | hb
  · exact .inr ((List.singleton_sublist.2 hb).append (List.singleton_sublist.2 List.mem_cons_self))
  · have hb : b ∈ l₂ := (List.mem_cons.1 hb).resolve_left (Ne.symm hne)
    exact .inl (((List.singleton_sublist.2 hb).cons_cons a).trans (List.sublist_append_right l₁ _))

theorem not_pair_sublist : ∀ {l : List α}, l.Nodup → [a, b].Sublist l → ¬ [b, a].Sublist l
  | [], _, h, _ => by simp at h
  | c :: l, hl, h, h' => by
    rw [List.nodup_cons] at hl
    rcases List.cons_sublist_cons'.1 h with hab | ⟨rfl, hb⟩
    · rcases List.cons_sublist_cons'.1 h' with hba | ⟨rfl, -⟩
      · exact not_pair_sublist hl.2 hab hba
      · exact hl.1 (hab.subset (by simp))
    · rcases List.cons_sublist_cons'.1 h' with hba | ⟨rfl, ha⟩
      · exact hl.1 (hba.subset (by simp))
      · exact hl.1 (ha.subset (by simp))

end Pairs

section Falling

variable {α : Type} (f : α → Nat)

theorem falling_trans (a b c : α) (hab : decide (f b ≤ f a) = true) (hbc : decide (f c ≤ f b) = true) :
    decide (f c ≤ f a) = true := by
  rw [decide_eq_true_eq] at hab hbc ⊢
  exact hbc.trans hab

theorem falling_total (a b : α) : (decide (f b ≤ f a) || decide (f a ≤ f b)) = true := by
  simp [Nat.le_total]

theorem pairwise_mergeSort_falling (l : List α) :
    (l.mergeSort fun a b => f b ≤ f a).Pairwise fun a b => f b ≤ f a := by
  simpa using List.pairwise_mergeSort (falling_trans f) (falling_total f) l

end Falling

/-! ## The ranking of a tally -/

namespace Tally

/-- A count comes before another one in a ranking: it is greater, or it is equal and stands first in the
tally. -/
def Ahead (t : Tally) (x y : String × Nat) : Prop :=
  y.2 < x.2 ∨ x.2 = y.2 ∧ [x, y].Sublist t

def ranked (t : Tally) : List (String × Nat) := t.mergeSort fun a b => b.2 ≤ a.2

theorem perm_ranked (t : Tally) : t.ranked.Perm t := List.mergeSort_perm t _

/-- Equal counts keep their order, because a pair of them that stands in the tally stands in the ranking
too, and no pair stands in it both ways. -/
theorem pairwise_ahead_ranked {t : Tally} (h : t.Nodup) : t.ranked.Pairwise t.Ahead := by
  have hnodup : t.ranked.Nodup := t.perm_ranked.nodup_iff.2 h
  rw [List.pairwise_iff_forall_sublist]
  intro x y hxy
  have hle : y.2 ≤ x.2 := List.pairwise_iff_forall_sublist.1 (pairwise_mergeSort_falling Prod.snd t) hxy
  rcases Nat.lt_or_eq_of_le hle with hlt | heq
  · exact .inl hlt
  · have hx : x ∈ t := t.perm_ranked.mem_iff.1 (hxy.subset (by simp))
    have hy : y ∈ t := t.perm_ranked.mem_iff.1 (hxy.subset (by simp))
    have hne : x ≠ y := List.pairwise_iff_forall_sublist.1 hnodup hxy
    rcases pair_sublist_or hx hy hne with hfirst | hfirst
    · exact .inr ⟨heq.symm, hfirst⟩
    · have hback := List.pair_sublist_mergeSort (falling_trans Prod.snd) (falling_total Prod.snd)
        (decide_eq_true heq.ge) hfirst
      exact absurd hback (not_pair_sublist hnodup hxy)

/-- The first ten counts of the ranking of a tally. -/
structure Leads (top : List (String × Nat)) (t : Tally) : Prop where
  length : top.length = min 10 t.length
  listed : ∀ x ∈ top, x ∈ t
  distinct : (top.map Prod.fst).Nodup
  ranked : top.Pairwise t.Ahead
  ahead : ∀ x ∈ top, ∀ y ∈ t, y ∉ top → t.Ahead x y

theorem leads_mostCommon {t : Tally} (h : t.keys.Nodup) : Leads (Project.mostCommon t) t := by
  have htop : Project.mostCommon t = t.ranked.take 10 := rfl
  have hpairs := pairwise_ahead_ranked (.of_map Prod.fst h)
  have hnames : (t.ranked.map Prod.fst).Nodup := (t.perm_ranked.map Prod.fst).nodup_iff.2 h
  rw [htop]
  refine ⟨?_, fun x hx => ?_, ?_, hpairs.sublist (List.take_sublist 10 _), fun x hx y hy hout => ?_⟩
  · rw [List.length_take, t.perm_ranked.length_eq]
  · exact t.perm_ranked.mem_iff.1 (List.mem_of_mem_take hx)
  · exact hnames.sublist ((List.take_sublist 10 _).map Prod.fst)
  · rw [← List.take_append_drop 10 t.ranked, List.pairwise_append] at hpairs
    have hy : y ∈ t.ranked.take 10 ++ t.ranked.drop 10 := by
      rw [List.take_append_drop]
      exact t.perm_ranked.mem_iff.2 hy
    exact hpairs.2.2 x hx y ((List.mem_append.1 hy).resolve_left hout)

/-- The ten greatest counts make up the total exactly when there are no others. -/
theorem total_mostCommon_iff {t : Tally} (h : t.Positive) :
    total (Project.mostCommon t) = t.total ↔ t.length ≤ 10 := by
  have htop : Project.mostCommon t = t.ranked.take 10 := rfl
  have hsplit : t.total = sumBy Prod.snd (t.ranked.take 10) + sumBy Prod.snd (t.ranked.drop 10) := by
    rw [total, ← sumBy_perm Prod.snd t.perm_ranked, ← sumBy_append, List.take_append_drop]
  have hpos : ∀ x ∈ t.ranked.drop 10, 0 < x.2 := fun x hx =>
    h x (t.perm_ranked.mem_iff.1 (List.mem_of_mem_drop hx))
  calc total (Project.mostCommon t) = t.total
      ↔ sumBy Prod.snd (t.ranked.drop 10) = 0 := by
        rw [htop, hsplit, total]
        omega
    _ ↔ t.ranked.drop 10 = [] := sumBy_eq_zero_iff hpos
    _ ↔ t.length ≤ 10 := by rw [List.drop_eq_nil_iff, t.perm_ranked.length_eq]

end Tally

/-- The count that a value shows. -/
def Json.count : Json → Nat
  | .int n => n.toNat
  | _ => 0

theorem Tally.sumBy_count (t : Tally) :
    sumBy (fun m => m.2.count) (t.map fun x => (x.1, Json.int x.2)) = t.total :=
  sumBy_map _ _ t

/-! ## The rules of a project -/

namespace Project

/-- The rule of each violation in the results. -/
def brokenRules (p : Project) : List String :=
  p.results.values.flatMap fun r => r.violations.map Violation.rule

theorem nodup_keys_ruleDistribution (p : Project) : p.ruleDistribution.keys.Nodup :=
  Tally.nodup_keys_foldl_merge _

theorem positive_ruleDistribution (as : List Addition) :
    (ofStanding (standing as)).ruleDistribution.Positive := by
  refine Tally.positive_foldl_merge fun u hu => ?_
  obtain ⟨f, hf, rfl⟩ := List.mem_map.1 hu
  rw [files_ofStanding] at hf
  obtain ⟨a, -, rfl⟩ := List.mem_map.1 hf
  exact Tally.positive_ofNames _

theorem mem_keys_ruleDistribution (as : List Addition) (rule : String) :
    rule ∈ (ofStanding (standing as)).ruleDistribution.keys
      ↔ rule ∈ (ofStanding (standing as)).brokenRules := by
  have hresults : (ofStanding (standing as)).results.values
      = (standing as).values.map Addition.result := Keyed.values_map _ _
  have hcounted : ∀ a : Addition, rule ∈ a.entry.ruleCounts.keys
      ↔ rule ∈ a.result.violations.map Violation.rule := by
    intro a
    rw [show a.entry.ruleCounts.keys = _ from Tally.keys_ofNames _, List.mem_eraseDups]
  rw [ruleDistribution, Tally.mem_keys_foldl_merge, files_ofStanding, brokenRules, hresults]
  simp only [List.mem_map, exists_exists_and_eq_and, List.mem_flatMap, hcounted]

/-- There are as many counts as rules that are broken. -/
theorem length_ruleDistribution (as : List Addition) :
    (ofStanding (standing as)).ruleDistribution.length
      = (ofStanding (standing as)).brokenRules.eraseDups.length := by
  rw [← List.length_map (f := Prod.fst)]
  refine List.Perm.length_eq ((List.perm_ext_iff_of_nodup (nodup_keys_ruleDistribution _)
    (nodup_eraseDups _)).2 fun rule => ?_)
  rw [List.mem_eraseDups, mem_keys_ruleDistribution]

theorem totalViolations_eq_total (as : List Addition) :
    (ofStanding (standing as)).summary.totalViolations
      = (ofStanding (standing as)).ruleDistribution.total := by
  obtain ⟨-, -, -, -, -, hviolations, -⟩ := summary_counts (ofStanding (standing as))
  rw [hviolations, total_ruleDistribution]
  refine sumBy_congr fun f hf => ?_
  rw [files_ofStanding] at hf
  obtain ⟨a, -, rfl⟩ := List.mem_map.1 hf
  exact (FileEntry.accounts_ofResult a.result a.lines).ruleCounts

theorem mostCommon_summary (p : Project) : p.summary.mostCommon = mostCommon p.summary.rules := by
  unfold summary
  split
  · simp [mostCommon]
  · rfl

/-- After additions without error, the most common violations of the summary are the first ten of its
counts by rule in the order of the ranking. The statistics show these alone, one member for each, and
the counts that they show add up to all violations exactly when no more than ten rules are broken. -/
theorem addEach_ranks_rules (as : List Addition) (p : Project)
    (h : ({} : Project).addEach as = (p, .ok ())) :
    Tally.Leads p.summary.mostCommon p.summary.rules
    ∧ p.summary.rules.length = p.brokenRules.eraseDups.length
    ∧ ∃ members, p.statistics.toJson.get? "rule_distribution" = some (.obj members)
      ∧ members = p.summary.mostCommon.map (fun x => (x.1, .int x.2))
      ∧ (sumBy (fun m => m.2.count) members = p.summary.totalViolations
        ↔ p.brokenRules.eraseDups.length ≤ 10) := by
  obtain ⟨-, rfl⟩ := (addEach_iff [] as).1 h
  rw [List.nil_append]
  obtain ⟨-, -, -, -, -, -, hrules, -⟩ := summary_counts (ofStanding (standing as))
  have htop := mostCommon_summary (ofStanding (standing as))
  rw [hrules] at htop ⊢
  refine ⟨?_, length_ruleDistribution as,
    (ofStanding (standing as)).summary.mostCommon.map fun x => (x.1, .int x.2), rfl, rfl, ?_⟩
  · rw [htop]
    exact Tally.leads_mostCommon (nodup_keys_ruleDistribution _)
  · rw [Tally.sumBy_count, htop, totalViolations_eq_total, ← length_ruleDistribution]
    exact Tally.total_mostCommon_iff (positive_ruleDistribution as)

/-- Eleven rules, one of them broken in two files. One of the others is left out, so the violations that
the statistics show are not all. -/
theorem addEach_ranks_eleven_rules :
    let v : String → Violation := fun rule => ⟨Span.ofLine 0 1, "message", rule, .minor⟩
    let names := ["A", "B", "C", "D", "E", "F", "G", "H", "I", "J", "K"]
    let as : List Addition := [
      ⟨{}, { path := "a.c", status := .violations, violations := names.map v }, some ['a']⟩,
      ⟨{}, { path := "b.c", status := .violations, violations := [v "K"] }, some ['b']⟩]
    let p := (({} : Project).addEach as).1
    ({} : Project).addEach as = (p, .ok ())
      ∧ p.brokenRules.eraseDups.length = 11
      ∧ p.summary.mostCommon.length = 10
      ∧ Tally.Leads p.summary.mostCommon p.summary.rules
      ∧ ∃ members, p.statistics.toJson.get? "rule_distribution" = some (.obj members)
        ∧ sumBy (fun m => m.2.count) members ≠ p.summary.totalViolations := by
  intro v names as p
  have hok : (({} : Project).addEach as).2 = .ok () := by decide
  have hrun : ({} : Project).addEach as = (p, .ok ()) := Prod.ext rfl hok
  have hbroken : p.brokenRules.eraseDups.length = 11 := by decide
  obtain ⟨hleads, hlength, members, hmembers, -, htotal⟩ := addEach_ranks_rules as p hrun
  refine ⟨hrun, hbroken, ?_, hleads, members, hmembers, fun heq => ?_⟩
  · rw [hleads.length, hlength, hbroken]
    rfl
  · have := htotal.1 heq
    omega

end Project

end SourceStyle
