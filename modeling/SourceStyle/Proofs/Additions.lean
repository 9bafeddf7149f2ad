import SourceStyle.Project
import SourceStyle.Proofs.BodyComment
import SourceStyle.Proofs.Keyed

/-!
# Results added to a project

After additions that all succeed a project holds, for each path in the order in which the paths first
came, the last result of that path and the entry made from it (`addEach_iff`), and every entry
accounts for the violations of its result in three ways that agree (`addEach_keeps_last`).

An addition fails only if the content of the file is not given and its path has a NUL character. It
then leaves the entries alone, but the result is kept already (`add_atomic_iff`).
-/

namespace SourceStyle

/-! ## Paths that are no paths -/

namespace FileTree

variable (tree : FileTree) (path : String)

theorem walk_ne_notAPath : ∀ names place : List Text, tree.walk place names ≠ .error .notAPath
  | [], place => by simp [walk]
  | n :: names, place => by
    unfold walk
    split
    · simp
    · simp
    · simp
    · split_ifs
      · exact walk_ne_notAPath names _
      · simp
    · split_ifs
      · exact walk_ne_notAPath names _
      · exact walk_ne_notAPath names _
      · simp
      · simp
      · exact walk_ne_notAPath names _

theorem resolve_eq_notAPath_iff :
    tree.resolve path = .error .notAPath ↔ '\x00' ∈ path.toList := by
  have hmem : Text.contains path.toList ['\x00'] = true ↔ '\x00' ∈ path.toList := by
    rw [Text.contains_iff_infix, List.singleton_infix_iff]
  unfold resolve namesToFollow
  by_cases h : '\x00' ∈ path.toList
  · simp [hmem.2 h, h]
  · simp only [hmem, if_neg h]
    split_ifs <;> simp [h, walk_ne_notAPath]

theorem readText_eq_notAPath_iff :
    tree.readText path = .error (.access .notAPath) ↔ '\x00' ∈ path.toList := by
  rw [← resolve_eq_notAPath_iff tree]
  unfold readText readBytes
  rcases hplace : tree.resolve path with e | place
  · simp
  · rcases hentry : tree.entry? place with - | - | bytes | - | -
    · simp [hentry]
    · simp [hentry]
    · rcases hdecode : Utf8.decode bytes with f | t <;> simp [hentry, hdecode]
    · simp [hentry]
    · simp [hentry]

end FileTree

namespace Project

/-! ## One addition -/

section Add

variable {tree : FileTree} {r : FileResult} {content : Option Text} {p : Project}

theorem countLines_eq_error_iff (tree : FileTree) (path : String) (content : Option Text)
    {e : FileTree.Error} :
    countLines tree path content = .error e
      ↔ content = none ∧ '\x00' ∈ path.toList ∧ e = .notAPath := by
  rw [← FileTree.readText_eq_notAPath_iff tree]
  unfold countLines
  rcases content with - | t
  · rcases tree.readText path with ((- | - | - | - | -) | f) | t <;> simp [eq_comm]
  · simp

theorem add_of_counted {n : Nat} (h : countLines tree r.path content = .ok n) :
    p.add tree r content
      = (⟨p.entries.insert r.path (.ofResult r n), p.results.insert r.path r⟩, .ok ()) := by
  simp only [add, h]

theorem add_of_not_counted {e : FileTree.Error} (h : countLines tree r.path content = .error e) :
    p.add tree r content = ({ p with results := p.results.insert r.path r }, .error e) := by
  simp only [add, h]

/-- A call to add is all or nothing unless the lines of the file cannot be counted and the project
holds another result of the path, or none: then the result is kept and the entry is not. -/
theorem add_atomic_iff (p : Project) (tree : FileTree) (r : FileResult) (content : Option Text) :
    ((p.add tree r content).2 = .ok () ∨ (p.add tree r content).1 = p
      ↔ content ≠ none ∨ '\x00' ∉ r.path.toList ∨ p.results.find? r.path = some r)
    ∧ ((p.add tree r content).2 ≠ .ok () →
      p.add tree r content
        = ({ p with results := p.results.insert r.path r }, .error .notAPath)) := by
  rcases hcount : countLines tree r.path content with e | n
  · obtain ⟨hnone, hnul, rfl⟩ := (countLines_eq_error_iff tree r.path content).1 hcount
    rw [add_of_not_counted hcount]
    refine ⟨?_, fun _ => rfl⟩
    have hsame : { p with results := p.results.insert r.path r } = p
        ↔ p.results.find? r.path = some r := by
      rw [← Keyed.insert_eq_self_iff]
      exact ⟨fun h => congrArg results h, fun h => by rw [h]⟩
    simp [hnone, hnul, hsame]
  · rw [add_of_counted hcount]
    have hgiven : content ≠ none ∨ '\x00' ∉ r.path.toList := by
      by_contra hno
      push Not at hno
      have herror := (countLines_eq_error_iff tree r.path content).2 ⟨hno.1, hno.2, rfl⟩
      rw [hcount] at herror
      cases herror
    simp only [true_or, true_iff, ne_eq, not_true_eq_false, false_imp_iff, and_true]
    tauto

theorem add_nul_path_keeps_result :
    let r : FileResult := { path := "a\x00.c", status := .ok }
    let after := ({} : Project).add {} r none
    after.2 = .error .notAPath ∧ after.1.files = [] ∧ after.1.results = [("a\x00.c", r)] := by
  decide

end Add

/-! ## Additions one after the other -/

/-- What a project is given at one time: a result, and the content of its file or else the tree to
read it from. -/
structure Addition where
  tree : FileTree
  result : FileResult
  content : Option Text

namespace Addition

def path (a : Addition) : String := a.result.path

def lineCount (a : Addition) : Except FileTree.Error Nat := countLines a.tree a.path a.content

def lines (a : Addition) : Nat := a.lineCount.toOption.getD 0

def entry (a : Addition) : FileEntry := .ofResult a.result a.lines

theorem entry_eq {a : Addition} {n : Nat} (h : a.lineCount = .ok n) :
    a.entry = .ofResult a.result n := by
  rw [entry, lines, h]
  rfl

end Addition

/-- Add one after the other, up to the first one that fails. -/
def addEach (p : Project) : List Addition → Project × Except FileTree.Error Unit
  | [] => (p, .ok ())
  | a :: as =>
    match p.add a.tree a.result a.content with
    | (p, .ok ()) => p.addEach as
    | (p, .error e) => (p, .error e)

/-- The last addition of each path, in the order in which the paths first came. -/
def standing (as : List Addition) : Keyed String Addition :=
  .ofList (as.map fun a => (a.path, a))

def ofStanding (m : Keyed String Addition) : Project where
  entries := m.map (Prod.map id Addition.entry)
  results := m.map (Prod.map id Addition.result)

theorem add_ofStanding (as : List Addition) {a : Addition} {n : Nat} (h : a.lineCount = .ok n) :
    (ofStanding (standing as)).add a.tree a.result a.content
      = (ofStanding (standing (as ++ [a])), .ok ()) := by
  rw [add_of_counted h, ← Addition.entry_eq h]
  simp only [ofStanding, standing, List.map_append, List.map_cons, List.map_nil,
    Keyed.ofList_concat, ← Keyed.insert_map]
  rfl

/-- What is added to a project made of the additions `as` leads to the project made of all of them. -/
theorem addEach_iff {p : Project} : ∀ as bs : List Addition,
    (ofStanding (standing as)).addEach bs = (p, .ok ())
      ↔ (∀ b ∈ bs, ∃ n, b.lineCount = .ok n) ∧ p = ofStanding (standing (as ++ bs))
  | as, [] => by simp [addEach, eq_comm]
  | as, b :: bs => by
    rcases hcount : b.lineCount with e | n
    · rw [addEach, add_of_not_counted hcount]
      simp [hcount]
    · -- `b` goes over to the additions that were made, so the recursion is at `as ++ [b]`
      rw [addEach, add_ofStanding as hcount]
      simp only [List.forall_mem_cons]
      rw [addEach_iff]
      simp [hcount]

/-- The additions of the results of files in one tree. -/
def additions (tree : FileTree) (results : List FileResult) : List Addition :=
  results.map (⟨tree, ·, none⟩)

theorem addAll_eq_addEach (tree : FileTree) : ∀ (results : List FileResult) (p : Project),
    p.addAll tree results = p.addEach (additions tree results)
  | [], _ => rfl
  | r :: results, p => by
    have hcons : additions tree (r :: results) = ⟨tree, r, none⟩ :: additions tree results := rfl
    rw [addAll, hcons, addEach]
    rcases p.add tree r none with ⟨p', e | -⟩
    · rfl
    · exact addAll_eq_addEach tree results p'

theorem addAll_of_noNul {tree : FileTree} {results : List FileResult}
    (h : ∀ r ∈ results, '\x00' ∉ r.path.toList) :
    ({} : Project).addAll tree results
      = (ofStanding (standing (additions tree results)), .ok ()) := by
  rw [addAll_eq_addEach]
  refine (addEach_iff [] _).2 ⟨fun b hb => ?_, rfl⟩
  obtain ⟨r, hr, rfl⟩ := List.mem_map.1 hb
  rcases hcount : countLines tree r.path none with e | n
  · exact absurd ((countLines_eq_error_iff tree r.path none).1 hcount).2.1 (h r hr)
  · exact ⟨n, hcount⟩

theorem keys_standing (as : List Addition) :
    (standing as).keys = (as.map Addition.path).eraseDups := by
  rw [standing, Keyed.keys_ofList, List.map_map]
  rfl

theorem values_standing_of_nodup {as : List Addition} (h : (as.map Addition.path).Nodup) :
    (standing as).values = as := by
  have hkeys : ((as.map fun a => (a.path, a)).map Prod.fst).Nodup := by
    rwa [List.map_map]
  rw [standing, Keyed.ofList_of_nodup hkeys, Keyed.values, List.map_map]
  exact List.map_id as

theorem map_path_values_standing (as : List Addition) :
    (standing as).values.map Addition.path = (standing as).keys := by
  rw [Keyed.values, Keyed.keys, List.map_map]
  refine List.map_congr_left fun x hx => ?_
  obtain ⟨a, -, rfl⟩ := List.mem_map.1 (Keyed.mem_of_mem_ofList hx)
  rfl

theorem find?_standing (as : List Addition) (path : String) :
    (standing as).find? path = as.reverse.find? (·.path = path) := by
  rw [standing, Keyed.find?_ofList, ← List.map_reverse, List.find?_map, Option.map_map]
  exact Option.map_id'

theorem find?_standing_of_mem {as : List Addition} {a : Addition} (h : a ∈ (standing as).values) :
    (standing as).find? a.path = some a := by
  obtain ⟨x, hx, rfl⟩ := List.mem_map.1 h
  obtain ⟨a, -, rfl⟩ := List.mem_map.1 (Keyed.mem_of_mem_ofList hx)
  refine (Keyed.find?_eq_some_iff_mem ?_).2 hx
  rw [keys_standing]
  exact nodup_eraseDups _

theorem files_ofStanding (m : Keyed String Addition) :
    (ofStanding m).files = m.values.map Addition.entry :=
  Keyed.values_map Addition.entry m

theorem paths_ofStanding (as : List Addition) :
    (ofStanding (standing as)).files.map FileEntry.path = (as.map Addition.path).eraseDups := by
  rw [files_ofStanding, List.map_map, ← keys_standing]
  exact map_path_values_standing as

theorem find?_results_ofStanding {as : List Addition} {a : Addition}
    (h : a ∈ (standing as).values) :
    (ofStanding (standing as)).results.find? a.path = some a.result := by
  rw [ofStanding, Keyed.find?_map, find?_standing_of_mem h]
  rfl

end Project

/-! ## What an entry says about its result -/

theorem FileResult.length_violations (r : FileResult) :
    r.violations.length = r.countOf .major + r.countOf .minor + r.countOf .info := by
  unfold countOf
  induction r.violations with
  | nil => rfl
  | cons v vs ih =>
    rcases hv : v.severity <;> simp [hv] <;> omega

theorem Grade.ofResult_iff (r : FileResult) :
    (ofResult r = .error ↔ r.status.label = "Error")
    ∧ (ofResult r = .ok ↔ r.status.label ≠ "Error" ∧ r.violations = [])
    ∧ (ofResult r = .major ↔ r.status.label ≠ "Error" ∧ ∃ v ∈ r.violations, v.severity = .major)
    ∧ (ofResult r = .minor ↔ r.status.label ≠ "Error" ∧ r.violations ≠ []
      ∧ ∀ v ∈ r.violations, v.severity ≠ .major) := by
  have hstatus : r.status = .error ↔ r.status.label = "Error" := by
    rcases r.status with ⟨label⟩
    simp [Status.error]
  have hmajor : 0 < r.countOf .major ↔ ∃ v ∈ r.violations, v.severity = .major := by
    simp [FileResult.countOf, List.countP_pos_iff]
  simp only [ofResult, hstatus, List.isEmpty_iff, hmajor]
  split_ifs with herror hnone hsome
  · simp [herror]
  · simp [herror, hnone]
  · have hne : r.violations ≠ [] := by
      obtain ⟨v, hv, -⟩ := hsome
      exact List.ne_nil_of_mem hv
    simpa [herror, hne] using hsome
  · simpa [herror, hnone] using hsome

namespace FileEntry

/-- An entry accounts for the violations of a result. -/
structure Accounts (f : FileEntry) (r : FileResult) : Prop where
  count : f.violationCount = r.violations.length
  severities : f.violationCount = f.majors + f.minors + f.infos
  ruleCounts : f.violationCount = f.ruleCounts.total
  rules : ∀ rule, rule ∈ f.rules ↔ rule ∈ f.ruleCounts.keys
  distinct : f.rules.Nodup
  broken : ∀ rule, rule ∈ f.rules ↔ ∃ v ∈ r.violations, v.rule = rule
  error : f.grade = .error ↔ r.status.label = "Error"
  ok : f.grade = .ok ↔ r.status.label ≠ "Error" ∧ r.violations = []
  major : f.grade = .major ↔ r.status.label ≠ "Error" ∧ ∃ v ∈ r.violations, v.severity = .major
  minor : f.grade = .minor ↔ r.status.label ≠ "Error" ∧ r.violations ≠ []
    ∧ ∀ v ∈ r.violations, v.severity ≠ .major

theorem accounts_ofResult (r : FileResult) (n : Nat) : (ofResult r n).Accounts r := by
  have hkeys : (ofResult r n).ruleCounts.keys = (r.violations.map Violation.rule).eraseDups :=
    Tally.keys_ofNames _
  obtain ⟨herror, hok, hmajor, hminor⟩ := Grade.ofResult_iff r
  refine ⟨rfl, r.length_violations, ?_, fun rule => List.mem_mergeSort, ?_, fun rule => ?_,
    herror, hok, hmajor, hminor⟩
  · rw [ofResult, FileResult.ruleCounts, Tally.total_ofNames, List.length_map]
  · rw [rules, (List.mergeSort_perm _ _).nodup_iff, hkeys]
    exact nodup_eraseDups _
  · rw [rules, List.mem_mergeSort, hkeys, List.mem_eraseDups, List.mem_map]

end FileEntry

namespace Project

/-- Additions without error leave the last result of each path and the entry made from it, the paths
in the order in which they first came. -/
theorem addEach_keeps_last (as : List Addition) (p : Project)
    (h : ({} : Project).addEach as = (p, .ok ())) :
    p.files.map FileEntry.path = (as.map Addition.path).eraseDups
    ∧ (p.files.map FileEntry.path).Nodup
    ∧ p.results.keys = p.files.map FileEntry.path
    ∧ ∀ f ∈ p.files, ∃ a n, as.reverse.find? (·.path = f.path) = some a
      ∧ p.results.find? f.path = some a.result
      ∧ countLines a.tree f.path a.content = .ok n
      ∧ f = .ofResult a.result n
      ∧ f.Accounts a.result := by
  obtain ⟨hcounted, rfl⟩ := (addEach_iff [] as).1 h
  rw [List.nil_append, paths_ofStanding]
  refine ⟨rfl, nodup_eraseDups _, ?_, fun f hf => ?_⟩
  · rw [← keys_standing]
    exact Keyed.keys_map Addition.result _
  · rw [files_ofStanding] at hf
    obtain ⟨a, ha, rfl⟩ := List.mem_map.1 hf
    have hlast : as.reverse.find? (·.path = a.path) = some a := by
      rw [← find?_standing]
      exact find?_standing_of_mem ha
    obtain ⟨n, hn⟩ := hcounted a (List.mem_reverse.1 (List.mem_of_find?_eq_some hlast))
    exact ⟨a, n, hlast, find?_results_ofStanding ha, hn, Addition.entry_eq hn,
      FileEntry.accounts_ofResult _ _⟩

theorem addEach_keeps_last_rescan :
    let v : Violation := ⟨Span.ofLine 0 1, "message", "RULE", .major⟩
    let first : Addition :=
      ⟨{}, { path := "a.c", status := .violations, violations := [v] }, some ['a']⟩
    let other : Addition := ⟨{}, { path := "b.h", status := .error, error := some "why" }, none⟩
    let again : Addition := ⟨{}, { path := "a.c", status := .ok }, some ['a', '\n', 'b']⟩
    let p := (({} : Project).addEach [first, other, again]).1
    ({} : Project).addEach [first, other, again] = (p, .ok ())
      ∧ p.files.map FileEntry.path = ["a.c", "b.h"]
      ∧ p.results.keys = ["a.c", "b.h"]
      ∧ ∀ f ∈ p.files, f.path = "a.c" →
        p.results.find? "a.c" = some again.result ∧ f.Accounts again.result := by
  intro v first other again p
  have hok : (({} : Project).addEach [first, other, again]).2 = .ok () := by decide
  have hrun : ({} : Project).addEach [first, other, again] = (p, .ok ()) := Prod.ext rfl hok
  obtain ⟨hpaths, -, hkeys, hlast⟩ := addEach_keeps_last [first, other, again] p hrun
  have hdistinct : ([first, other, again].map Addition.path).eraseDups = ["a.c", "b.h"] := by decide
  rw [hpaths, hdistinct] at hkeys
  refine ⟨hrun, hpaths.trans hdistinct, hkeys, fun f hf hpath => ?_⟩
  obtain ⟨a, n, ha, hfind, -, -, hacc⟩ := hlast f hf
  rw [hpath] at ha hfind
  obtain rfl : again = a := Option.some.inj ha
  exact ⟨hfind, hacc⟩

end Project

end SourceStyle
