import SourceStyle.Service
import SourceStyle.Service.Frontend
import SourceStyle.Proofs.Summary

/-!
# Groups, filters and the listing of files

The files of a project are gone through in several ways: they are put in groups by grade and by rule,
filtered, searched, and counted for the summary. A group of files is what the filter for it keeps
(`byGrade_eq`, `find?_byRule`), and the summary counts what is in the groups (`gradeCount_eq_length`,
`sum_filter_rule`). A request for files lists those that each of its parts keeps, in the order of the
project (`mem_select`).
-/

namespace SourceStyle

namespace Grade

theorem ofLabel_label (g : Grade) : ofLabel g.label = .ok g := by
  cases g <;> rfl

theorem label_inj {g g' : Grade} (h : g.label = g'.label) : g = g' := by
  have hsame := ofLabel_label g
  rw [h, ofLabel_label] at hsame
  exact (Except.ok.inj hsame).symm

end Grade

/-- The number of files of a grade. -/
def Summary.filesOf (s : Summary) : Grade → Nat
  | .ok => s.okFiles
  | .minor => s.minorFiles
  | .major => s.majorFiles
  | .error => s.errorFiles

namespace Project

variable {p : Project} {rule : String}

/-! ## Filters by grade and by rule -/

theorem Filter.keeps_eq (grade : Option Grade) (rule : String) (f : FileEntry) :
    ({ grade, rule } : Filter).keeps f
      = (grade.all (f.grade = ·) && (rule.isEmpty || f.hasRule rule)) := by
  simp [keeps]

theorem filter_grade (p : Project) (g : Grade) :
    p.filter { grade := some g } = p.files.filter (·.grade = g) :=
  List.filter_congr fun f _ => by simp [Filter.keeps_eq]

theorem filter_rule (p : Project) (h : rule ≠ "") :
    p.filter { rule := rule } = p.files.filter (·.hasRule rule) :=
  List.filter_congr fun f _ => by simp [Filter.keeps_eq, h]

theorem mem_filter_grade {g : Grade} {f : FileEntry} :
    f ∈ p.filter { grade := some g } ↔ f ∈ p.files ∧ f.grade = g := by
  rw [filter_grade, List.mem_filter, decide_eq_true_iff]

theorem mem_filter_rule (h : rule ≠ "") {f : FileEntry} :
    f ∈ p.filter { rule := rule } ↔ f ∈ p.files ∧ rule ∈ f.ruleCounts.keys := by
  rw [filter_rule p h, List.mem_filter, FileEntry.hasRule, decide_eq_true_iff]

/-- A filter by grade and rule keeps what both parts keep. -/
theorem mem_filter {grade : Option Grade} {f : FileEntry} :
    f ∈ p.filter { grade, rule }
      ↔ f ∈ p.files ∧ (∀ g, grade = some g → f ∈ p.filter { grade := some g })
        ∧ (rule ≠ "" → f ∈ p.filter { rule := rule }) := by
  simp only [mem_filter_grade]
  rw [filter, List.mem_filter, Filter.keeps_eq]
  by_cases h : rule = ""
  · rcases grade with - | g <;> simp [h]
  · rcases grade with - | g <;> simp [h, mem_filter_rule h, FileEntry.hasRule]
    tauto

/-! ## Groups by grade -/

theorem byGrade_eq (p : Project) :
    p.byGrade = Grade.all.map fun g => (g, p.filter { grade := some g }) := by
  simp only [byGrade, filter_grade]
  induction p.files using List.reverseRecOn with
  | nil => rfl
  | append_singleton fs f ih =>
    rw [List.foldl_append, List.foldl_cons, List.foldl_nil, ih]
    rcases hf : f.grade <;> simp [Grade.all, Keyed.alter, List.filter_append, hf]

theorem find?_byGrade (p : Project) (g : Grade) :
    p.byGrade.find? g = some (p.filter { grade := some g }) := by
  rw [byGrade_eq]
  cases g <;> rfl

/-- Every file is in one of the groups, so together they are all files. -/
theorem perm_byGrade (p : Project) : p.byGrade.values.flatten.Perm p.files := by
  have hvalues : p.byGrade.values = Grade.all.map fun g => p.files.filter (·.grade = g) := by
    simp only [byGrade_eq, Keyed.values, List.map_map, Function.comp_def, filter_grade]
  rw [hvalues]
  induction p.files with
  | nil => exact .refl []
  | cons f fs ih =>
    refine .trans ?_ (ih.cons f)
    -- `f` stands behind the files of the grades before its own
    cases hf : f.grade with
    | ok => simp [Grade.all, hf]
    | minor => simp [Grade.all, hf, List.perm_middle]
    | major =>
      simpa [Grade.all, hf] using (List.perm_middle.append_left _).trans List.perm_middle
    | error =>
      simpa [Grade.all, hf] using
        ((List.perm_middle.append_left _).trans List.perm_middle).append_left _ |>.trans
          List.perm_middle

theorem gradeCount_eq_length (p : Project) (g : Grade) :
    (p.filter { grade := some g }).length = p.summary.filesOf g := by
  obtain ⟨-, hok, hminor, hmajor, herror, -⟩ := summary_counts p
  rw [filter_grade, ← List.countP_eq_length_filter]
  cases g with
  | ok => exact hok.symm
  | minor => exact hminor.symm
  | major => exact hmajor.symm
  | error => exact herror.symm

/-! ## Groups by rule -/

theorem byRule_eq_group (p : Project) :
    p.byRule = Keyed.group (p.files.flatMap fun f => f.rules.map (·, f)) := by
  simp only [byRule, Keyed.group, List.foldl_flatMap, List.foldl_map]

/-- A file is put in the group of each of its rules once. -/
theorem filter_map_rules {f : FileEntry} (h : f.rules.Nodup) (rule : String) :
    ((f.rules.map (·, f)).filter (·.1 = rule)).map Prod.snd
      = if f.hasRule rule then [f] else [] := by
  have hmem : rule ∈ f.rules ↔ f.hasRule rule = true := by
    simp [FileEntry.rules, FileEntry.hasRule]
  have honce : f.rules.filter (· = rule) = if f.hasRule rule then [rule] else [] := by
    rw [List.filter_eq, h.count]
    simp only [hmem]
    split_ifs <;> rfl
  rw [List.filter_map, List.map_map]
  simp only [Function.comp_def, honce]
  split_ifs <;> rfl

theorem find?_byRule (hd : ∀ f ∈ p.files, f.rules.Nodup) (h : rule ≠ "") :
    (p.byRule.find? rule).getD [] = p.filter { rule := rule } := by
  rw [byRule_eq_group, Keyed.find?_group, filter_rule p h]
  revert hd
  induction p.files with
  | nil => exact fun _ => rfl
  | cons f fs ih =>
    intro hd
    rw [List.forall_mem_cons] at hd
    rw [List.flatMap_cons, List.filter_append, List.map_append, filter_map_rules hd.1, ih hd.2,
      List.filter_cons]
    split_ifs <;> rfl

theorem mem_keys_byRule (h : rule ≠ "") :
    rule ∈ p.byRule.keys ↔ p.filter { rule := rule } ≠ [] := by
  rw [byRule_eq_group, Keyed.keys_group, List.mem_eraseDups, filter_rule p h, Ne,
    List.filter_eq_nil_iff]
  simp [FileEntry.rules, FileEntry.hasRule]

theorem sum_filter_rule (hd : ∀ f ∈ p.files, f.ruleCounts.keys.Nodup) (h : rule ≠ "") :
    sumBy (·.ruleCounts.countOf rule) (p.filter { rule := rule })
      = p.summary.rules.countOf rule := by
  obtain ⟨-, -, -, -, -, -, hrules, -⟩ := summary_counts p
  have hout : ∀ f ∈ p.files, f.hasRule rule = false → f.ruleCounts.countOf rule = 0 :=
    fun f _ hf => Tally.countOf_of_not_mem (of_decide_eq_false hf)
  have hall : ∀ u ∈ p.files.map FileEntry.ruleCounts, u.keys.Nodup := by
    rintro _ hu
    obtain ⟨f, hf, rfl⟩ := List.mem_map.1 hu
    exact hd f hf
  rw [filter_rule p h, sumBy_filter hout, hrules, ruleDistribution,
    Tally.countOf_foldl_merge rule _ [] hall, sumBy_map]
  exact (Nat.zero_add _).symm

/-! ## The project that additions lead to -/

/-- The groups of a project are what its filters keep, and its summary counts what is in them. -/
structure GroupsAgree (p : Project) : Prop where
  grades : p.byGrade.keys = Grade.all
  byGrade : ∀ g, p.byGrade.find? g = some (p.filter { grade := some g })
  gradeCount : ∀ g, (p.filter { grade := some g }).length = p.summary.filesOf g
  together : p.byGrade.values.flatten.Perm p.files
  byRule : ∀ rule ≠ "", (p.byRule.find? rule).getD [] = p.filter { rule := rule }
  rules : ∀ rule ≠ "", rule ∈ p.byRule.keys ↔ p.filter { rule := rule } ≠ []
  broken : ∀ rule ≠ "", ∀ f ∈ p.filter { rule := rule }, rule ∈ f.ruleCounts.keys
  ruleCount : ∀ rule ≠ "", sumBy (·.ruleCounts.countOf rule) (p.filter { rule := rule })
    = p.summary.rules.countOf rule

theorem groupsAgree_of_nodup (hd : ∀ f ∈ p.files, f.rules.Nodup) : p.GroupsAgree where
  grades := by rw [byGrade_eq]; rfl
  byGrade := p.find?_byGrade
  gradeCount := p.gradeCount_eq_length
  together := p.perm_byGrade
  byRule _ h := find?_byRule hd h
  rules _ h := mem_keys_byRule h
  broken _ h _ hf := ((mem_filter_rule h).1 hf).2
  ruleCount _ h := by
    refine sum_filter_rule (fun f hf => ?_) h
    exact (List.mergeSort_perm f.ruleCounts.keys _).nodup_iff.1 (hd f hf)

theorem nodup_rules_ofStanding (as : List Addition) :
    ∀ f ∈ (ofStanding (standing as)).files, f.rules.Nodup := by
  intro f hf
  rw [files_ofStanding] at hf
  obtain ⟨a, -, rfl⟩ := List.mem_map.1 hf
  exact (FileEntry.accounts_ofResult a.result a.lines).distinct

theorem nodup_files_ofStanding (as : List Addition) : (ofStanding (standing as)).files.Nodup := by
  refine .of_map FileEntry.path ?_
  rw [paths_ofStanding]
  exact nodup_eraseDups _

end Project

namespace Service

variable {p : Project} {query : Keyed String String}

/-! ## The listing -/

theorem chosen_eq_some_iff {key v : String} :
    chosen query key = some v ↔ query.find? key = some v ∧ v ≠ "" ∧ v ≠ "all" := by
  unfold chosen
  rcases query.find? key with - | w
  · simp
  · simp only [Option.some.injEq]
    split_ifs with hw
    · simp only [Bool.or_eq_true, String.isEmpty_iff, beq_iff_eq] at hw
      constructor
      · rintro ⟨⟩
      · rintro ⟨rfl, hne, hall⟩
        exact absurd hw (not_or.2 ⟨hne, hall⟩)
    · simp only [Bool.or_eq_true, String.isEmpty_iff, beq_iff_eq, not_or] at hw
      constructor
      · rintro ⟨⟩
        exact ⟨rfl, hw⟩
      · rintro ⟨rfl, -⟩
        rfl

theorem select_sublist (p : Project) (grade : Option Grade) (rule search : String) :
    (select p grade rule search).Sublist p.files := by
  unfold select
  split_ifs
  · exact List.filter_sublist
  · exact List.filter_sublist.trans List.filter_sublist

theorem mem_select {grade : Option Grade} {rule search : String} {f : FileEntry} :
    f ∈ select p grade rule search
      ↔ f ∈ p.files ∧ (∀ g, grade = some g → f ∈ p.filter { grade := some g })
        ∧ (rule ≠ "" → f ∈ p.filter { rule := rule }) ∧ (search ≠ "" → f ∈ p.search search) := by
  unfold select
  split_ifs with hsearch
  · rw [String.isEmpty_iff] at hsearch
    rw [Project.mem_filter]
    simp [hsearch]
  · rw [String.isEmpty_iff] at hsearch
    rw [List.mem_filter, List.contains_iff_mem, Project.mem_filter]
    simp [hsearch, and_assoc]

theorem handle_of_files {front : Frontend} (s : Service) (tree : FileTree) {r : Request}
    (hserves : front.Serves) (hmethod : r.method = .get) (hpath : r.path = "/api/files") :
    s.handle front tree r = (s.handleFiles r.query, s) := by
  unfold handle
  simp only [hmethod, hpath, hserves.files]

/-- A query that asks for no grade or for one that there is. -/
def KnownGrade (query : Keyed String String) : Prop :=
  ∀ label, query.find? "status" = some label →
    label = "" ∨ label = "all" ∨ ∃ g : Grade, label = g.label

/-- With a grade that is known, or none, a request for files is answered with a selection. -/
theorem handleFiles_eq (s : Service) (h : KnownGrade query) :
    ∃ grade, (∀ g : Grade, grade = some g ↔ query.find? "status" = some g.label)
      ∧ s.handleFiles query = listing (select s.project grade ((chosen query "rule").getD "")
        ((query.find? "search").getD "")) := by
  have hlabel : ∀ g : Grade, g.label ≠ "" ∧ g.label ≠ "all" := by
    intro g
    cases g <;> decide
  unfold handleFiles
  rcases hstatus : chosen query "status" with - | label
  · refine ⟨none, fun g => ⟨by simp, fun hg => ?_⟩, rfl⟩
    rw [chosen_eq_some_iff.2 ⟨hg, hlabel g⟩] at hstatus
    cases hstatus
  · obtain ⟨hfind, hne, hall⟩ := chosen_eq_some_iff.1 hstatus
    obtain rfl | rfl | ⟨g, rfl⟩ := h label hfind
    · exact absurd rfl hne
    · exact absurd rfl hall
    · refine ⟨some g, fun g' => ?_, by simp only [Grade.ofLabel_label]⟩
      rw [hfind, Option.some.injEq, Option.some.injEq]
      exact ⟨fun hg => by rw [hg], Grade.label_inj⟩

/-- The files that a query asks for, each once and in their order. A grade, a rule or a text to search
for that is left out or empty asks for all, and so does "all" for a grade or a rule. -/
structure Selects (p : Project) (query : Keyed String String) (files : List FileEntry) : Prop where
  order : files.Sublist p.files
  once : files.Nodup
  mem : ∀ f, f ∈ files ↔ f ∈ p.files
    ∧ (∀ g : Grade, query.find? "status" = some g.label → f ∈ p.filter { grade := some g })
    ∧ (∀ rule, query.find? "rule" = some rule → rule ≠ "" → rule ≠ "all" →
      f ∈ p.filter { rule := rule })
    ∧ ∀ text, query.find? "search" = some text → text ≠ "" → f ∈ p.search text

theorem selects_select {grade : Option Grade} (hd : p.files.Nodup)
    (hgrade : ∀ g : Grade, grade = some g ↔ query.find? "status" = some g.label) :
    Selects p query
      (select p grade ((chosen query "rule").getD "") ((query.find? "search").getD "")) where
  order := select_sublist ..
  once := hd.sublist (select_sublist ..)
  mem f := by
    rw [mem_select]
    refine and_congr_right fun _ => and_congr ?_ (and_congr ?_ ?_)
    · exact forall_congr' fun g => imp_congr_left (hgrade g)
    · rcases hrule : chosen query "rule" with - | rule
      · refine iff_of_true (fun h => absurd rfl h) fun rule hfind hne hall => ?_
        rw [chosen_eq_some_iff.2 ⟨hfind, hne, hall⟩] at hrule
        cases hrule
      · obtain ⟨hfind, hne, hall⟩ := chosen_eq_some_iff.1 hrule
        simp [hfind, hne, hall]
    · rcases query.find? "search" with - | text <;> simp

/-- In a project that results were added to, the groups of files are what the filters keep and what
the summary counts. Behind any front end that finds the routes, a request for files is answered with the
objects of those that all the filters it names keep, and with their number. -/
theorem groups_and_listing_agree (as : List Project.Addition) (s : Service)
    (h : ({} : Project).addEach as = (s.project, .ok ())) :
    s.project.GroupsAgree
    ∧ ∀ (front : Frontend) (tree : FileTree) (r : Request), front.Serves →
      r.method = .get → r.path = "/api/files" → KnownGrade r.query →
      ∃ files, Selects s.project r.query files
        ∧ s.handle front tree r = (⟨200, some (.obj [("success", .bool true),
          ("files", .arr (files.map FileEntry.toJson)), ("total_count", .int files.length)])⟩, s) := by
  obtain ⟨-, hproject⟩ := (Project.addEach_iff [] as).1 h
  rw [List.nil_append] at hproject
  constructor
  · rw [hproject]
    exact Project.groupsAgree_of_nodup (Project.nodup_rules_ofStanding as)
  · intro front tree r hserves hmethod hpath hknown
    obtain ⟨grade, hgrade, hanswer⟩ := s.handleFiles_eq hknown
    rw [handle_of_files s tree hserves hmethod hpath, hanswer]
    exact ⟨_, selects_select (hproject ▸ Project.nodup_files_ofStanding as) hgrade, rfl⟩

/-- Of two files, the one that is asked for by its grade, its rule and its name is listed. -/
theorem groups_and_listing_agree_major :
    let v : Violation := ⟨Span.ofLine 0 1, "message", "RULE", .major⟩
    let as : List Project.Addition := [
      ⟨{}, { path := "a.c", status := .violations, violations := [v, v] }, some ['a']⟩,
      ⟨{}, { path := "b.h", status := .ok }, some ['b']⟩]
    let s : Service := { project := (({} : Project).addEach as).1 }
    let r : Request := {
      method := .get, path := "/api/files"
      query := [("status", "Major"), ("rule", "RULE"), ("search", "A.C")] }
    ({} : Project).addEach as = (s.project, .ok ())
      ∧ KnownGrade r.query
      ∧ s.project.GroupsAgree
      ∧ s.handle .standard {} r = (⟨200, some (.obj [("success", .bool true),
        ("files", .arr [.obj [("filepath", .str "a.c"), ("filename", .str "a.c"),
          ("status", .str "Major"), ("violation_count", .int 2), ("major_violations", .int 2),
          ("minor_violations", .int 0), ("info_violations", .int 0),
          ("rules", .arr [.str "RULE"]), ("lines", .int 1), ("error", .null)]]),
        ("total_count", .int 1)])⟩, s) := by
  intro v as s r
  have hok : (({} : Project).addEach as).2 = .ok () := by decide
  have hrun : ({} : Project).addEach as = (s.project, .ok ()) := Prod.ext rfl hok
  have hknown : KnownGrade r.query := by
    intro label hlabel
    obtain rfl : "Major" = label := Option.some.inj hlabel
    exact .inr (.inr ⟨.major, rfl⟩)
  obtain ⟨hgroups, hlisting⟩ := groups_and_listing_agree as s hrun
  obtain ⟨files, hselects, hanswer⟩ :=
    hlisting .standard {} r Frontend.serves_standard rfl rfl hknown
  refine ⟨hrun, hknown, hgroups, hanswer.trans ?_⟩
  let bad : FileEntry := .ofResult { path := "a.c", status := .violations, violations := [v, v] } 1
  let good : FileEntry := .ofResult { path := "b.h", status := .ok } 1
  have hall : s.project.files = [bad, good] := by rfl
  have hbad : bad ∈ files := by
    rw [hselects.mem, hall]
    refine ⟨by simp, fun g hg => ?_, fun rule hrule _ _ => ?_, fun text htext _ => ?_⟩
    · obtain rfl : Grade.major = g := Grade.label_inj (Option.some.inj hg)
      rw [Project.mem_filter_grade, hall]
      exact ⟨by simp, rfl⟩
    · obtain rfl : "RULE" = rule := Option.some.inj hrule
      rw [Project.mem_filter_rule (by decide), hall]
      exact ⟨by simp, by decide⟩
    · obtain rfl : "A.C" = text := Option.some.inj htext
      rw [Project.search, List.mem_filter, hall]
      exact ⟨by simp, by decide⟩
  have hgood : good ∉ files := by
    intro h
    have hgrade := ((hselects.mem good).1 h).2.1 .major rfl
    exact absurd (Project.mem_filter_grade.1 hgrade).2 (by decide)
  have hfiles : files = [bad] := by
    have horder := hselects.order
    rw [hall, ← List.singleton_append, List.sublist_append_iff] at horder
    obtain ⟨l, l', rfl, hl, hl'⟩ := horder
    rcases List.sublist_singleton.1 hl with rfl | rfl <;>
      rcases List.sublist_singleton.1 hl' with rfl | rfl <;> simp_all
  have hname : bad.name = "a.c" := by decide
  have hgrade : bad.grade = .major := by decide
  have hrules : bad.rules = ["RULE"] := List.mergeSort_singleton _
  rw [hfiles, List.map_singleton, FileEntry.toJson, FileEntry.members, hname, hgrade, hrules]
  rfl

end Service

end SourceStyle
