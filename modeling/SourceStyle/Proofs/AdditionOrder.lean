import SourceStyle.Proofs.MostCommon

/-!
# The order of additions

Results with paths of their own can be added to a project in any order. The files of the project
then stand in another order, and so do the rules, of which those that are equally frequent may come
or go at the end of the ten most common. All counts of the summary are the same (`summary_of_perm`),
and so are the counts of the most common rules, one after the other (`map_snd_mostCommon`).
-/

namespace SourceStyle

/-- Two summaries with the same counts, in which rules may stand in another order and the ten most
common rules may be others of the same counts. -/
structure Summary.SameCounts (a b : Summary) : Prop where
  totalFiles : a.totalFiles = b.totalFiles
  okFiles : a.okFiles = b.okFiles
  minorFiles : a.minorFiles = b.minorFiles
  majorFiles : a.majorFiles = b.majorFiles
  errorFiles : a.errorFiles = b.errorFiles
  totalViolations : a.totalViolations = b.totalViolations
  totalLines : a.totalLines = b.totalLines
  successRate : a.successRate = b.successRate
  severities : a.severities = b.severities
  rules : a.rules.Perm b.rules
  ruleCount : ∀ rule, a.rules.find? rule = b.rules.find? rule
  mostCommon : a.mostCommon.map Prod.snd = b.mostCommon.map Prod.snd

namespace Project

/-- The counts of the most common rules are the ten greatest counts. -/
theorem map_snd_mostCommon (rules : Tally) :
    (mostCommon rules).map Prod.snd
      = ((rules.map Prod.snd).mergeSort fun a b => b ≤ a).take 10 := by
  rw [mostCommon, List.map_take, List.map_mergeSort]
  intro a _ b _
  rfl

theorem mergeSort_falling_of_perm {l l' : List Nat} (h : l.Perm l') :
    (l.mergeSort fun a b => b ≤ a) = l'.mergeSort fun a b => b ≤ a := by
  have hfalls : ∀ l : List Nat, (l.mergeSort fun a b => b ≤ a).Pairwise fun a b => b ≤ a :=
    pairwise_mergeSort_falling id
  refine List.Perm.eq_of_pairwise (fun a b _ _ hab hba => Nat.le_antisymm hba hab) (hfalls l)
    (hfalls l') ?_
  exact (List.mergeSort_perm l _).trans (h.trans (List.mergeSort_perm l' _).symm)

section Perm

variable {p q : Project}

theorem gradeCount_of_perm (h : p.files.Perm q.files) (g : Grade) :
    p.gradeCount g = q.gradeCount g :=
  h.countP_eq _

theorem ruleDistribution_of_perm (h : p.files.Perm q.files) :
    p.ruleDistribution.Perm q.ruleDistribution :=
  Tally.perm_foldl_merge (h.map FileEntry.ruleCounts)

theorem summary_of_perm (h : p.files.Perm q.files) : p.summary.SameCounts q.summary := by
  have hrules := ruleDistribution_of_perm h
  by_cases hp : p.files = []
  · have hq : q.files = [] := by
      rw [hp] at h
      exact h.nil_eq.symm
    have hsame : p.summary = q.summary := by
      simp [summary, hp, hq]
    rw [hsame]
    exact ⟨rfl, rfl, rfl, rfl, rfl, rfl, rfl, rfl, rfl, .refl _, fun _ => rfl, rfl⟩
  · have hq : q.files ≠ [] := fun hq => hp (by rw [hq] at h; exact h.eq_nil)
    have hpe : p.files.isEmpty = false := by simpa using hp
    have hqe : q.files.isEmpty = false := by simpa using hq
    simp only [summary, hpe, hqe]
    refine ⟨h.length_eq, gradeCount_of_perm h .ok, gradeCount_of_perm h .minor,
      gradeCount_of_perm h .major, gradeCount_of_perm h .error, sumBy_perm _ h, sumBy_perm _ h,
      ?_, ?_, hrules, Tally.find?_foldl_merge_perm (h.map FileEntry.ruleCounts), ?_⟩
    · show Session.percentage _ _ = Session.percentage _ _
      rw [gradeCount_of_perm h, h.length_eq]
    · show [_, _, _] = [_, _, _]
      rw [sumBy_perm FileEntry.majors h, sumBy_perm FileEntry.minors h, sumBy_perm FileEntry.infos h]
    · show (mostCommon _).map Prod.snd = (mostCommon _).map Prod.snd
      rw [map_snd_mostCommon, map_snd_mostCommon, mergeSort_falling_of_perm (hrules.map Prod.snd)]

end Perm

/-! ## Additions with contents -/

theorem exists_addEach {as : List Addition} (hdistinct : (as.map Addition.path).Nodup)
    (hcontent : ∀ a ∈ as, a.content ≠ none) :
    ∃ p, ({} : Project).addEach as = (p, .ok ()) ∧ p.files = as.map Addition.entry := by
  refine ⟨ofStanding (standing as), (addEach_iff [] as).2 ⟨fun a ha => ?_, rfl⟩, ?_⟩
  · rcases hcount : a.lineCount with e | n
    · exact absurd ((countLines_eq_error_iff _ _ _).1 hcount).1 (hcontent a ha)
    · exact ⟨n, rfl⟩
  · rw [files_ofStanding, values_standing_of_nodup hdistinct]

/-- Results with paths of their own and with their contents give the same counts in any order. -/
theorem addEach_counts_of_perm (as bs : List Addition) (hperm : as.Perm bs)
    (hdistinct : (as.map Addition.path).Nodup) (hcontent : ∀ a ∈ as, a.content ≠ none) :
    ∃ p q, ({} : Project).addEach as = (p, .ok ()) ∧ ({} : Project).addEach bs = (q, .ok ())
      ∧ p.summary.SameCounts q.summary := by
  obtain ⟨p, hp, hpfiles⟩ := exists_addEach hdistinct hcontent
  obtain ⟨q, hq, hqfiles⟩ := exists_addEach ((hperm.map Addition.path).nodup hdistinct)
    fun a ha => hcontent a (hperm.mem_iff.2 ha)
  refine ⟨p, q, hp, hq, summary_of_perm ?_⟩
  rw [hpfiles, hqfiles]
  exact hperm.map Addition.entry

theorem addEach_counts_of_swap :
    let v : String → Violation := fun rule => ⟨Span.ofLine 0 1, "message", rule, .major⟩
    let a : Addition :=
      ⟨{}, { path := "a.c", status := .violations, violations := [v "R", v "S"] }, some ['a']⟩
    let b : Addition :=
      ⟨{}, { path := "b.h", status := .violations, violations := [v "S", v "R"] }, some ['b']⟩
    ∃ p q, ({} : Project).addEach [a, b] = (p, .ok ()) ∧ ({} : Project).addEach [b, a] = (q, .ok ())
      ∧ p.summary.SameCounts q.summary ∧ p.summary.rules ≠ q.summary.rules := by
  intro v a b
  obtain ⟨p, q, hp, hq, hsame⟩ :=
    addEach_counts_of_perm [a, b] [b, a] (.swap b a []) (by decide) (by decide)
  have hfirst : (({} : Project).addEach [a, b]).1.summary.rules.keys = ["R", "S"] := by decide
  have hsecond : (({} : Project).addEach [b, a]).1.summary.rules.keys = ["S", "R"] := by decide
  rw [hp] at hfirst
  rw [hq] at hsecond
  refine ⟨p, q, hp, hq, hsame, fun heq => ?_⟩
  have hkeys := hfirst.symm.trans ((congrArg Keyed.keys heq).trans hsecond)
  exact absurd hkeys (by decide)

end Project

end SourceStyle
