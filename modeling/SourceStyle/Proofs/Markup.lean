import SourceStyle.Document
import SourceStyle.Proofs.Excerpt
import SourceStyle.Proofs.Summary

/-!
# Markup in web pages

A page is written around the texts of a report, and they go into it as they are. So the opening brackets
of a page are those of its own tags, which the numbers of files and of recommendations settle, those of
the figures, and those of the texts (`marks_html`). Pages of two reports that differ in their texts alone
have as many brackets exactly if the texts have (`marks_html_eq_iff`): a file can bring tags of its own
into a page by its name (`path_brings_tag`).
-/

namespace SourceStyle

namespace Document

/-- The number of opening brackets, each of which can start a tag. -/
def marks (s : String) : Nat := s.toList.count '<'

theorem marks_append (s t : String) : marks (s ++ t) = marks s + marks t := by
  unfold marks
  rw [String.toList_append, List.count_append]

theorem marks_join : ∀ l : List String, marks (String.join l) = sumBy marks l
  | [] => rfl
  | s :: l => by rw [String.join_cons, marks_append, sumBy, marks_join l]

theorem marks_unlines : ∀ l : List String, marks (unlines l) = sumBy marks l
  | [] => rfl
  | [s] => by
    unfold unlines
    rw [String.intercalate_singleton]
    rfl
  | s :: t :: l => by
    have ih := marks_unlines (t :: l)
    have hnewline : marks "\n" = 0 := rfl
    unfold unlines at ih ⊢
    rw [String.intercalate_cons_cons, marks_append, marks_append, ih, hnewline]
    rfl

theorem marks_natRepr (n : Nat) : marks n.repr = 0 := by
  unfold marks
  rw [Nat.toList_repr, List.count_eq_zero]
  intro hmem
  have hdigit := Nat.isDigit_of_mem_toDigits (by decide) (by decide) hmem
  exact absurd hdigit (by decide)

/-- A number is written without brackets. -/
theorem marks_int : ∀ n : Int, marks (toString n) = 0
  | .ofNat n => marks_natRepr n
  | .negSucc n => by
    show marks ("-" ++ n.succ.repr) = 0
    rw [marks_append, marks_natRepr]
    rfl

/-! ## Reports that give a page -/

/-- A value that can be written as a rate. -/
def IsRate : Json → Prop
  | .bool _ | .float _ => True
  | .int n => n.natAbs < tooLargeFrom
  | _ => False

/-- A summary with the members that the figures are written from. -/
structure HasFigures (summary : Json) : Prop where
  counts : ∀ key ∈ ["total_files", "ok_files", "major_files", "minor_files"],
    ∃ v, summary.get? key = some v
  rate : ∃ v, summary.get? "success_rate" = some v ∧ IsRate v

/-- A file with the members that its row is written from. -/
structure HasRow (file : Json) : Prop where
  path : ∃ v, file.get? "filepath" = some v
  status : ∃ v, file.get? "status" = some v
  count : ∃ n, file.get? "violation_count" = some (.int n)

/-- The values that a member lists. -/
def items (report : Json) (key : String) : List Json :=
  match report.get? key with
  | some (.arr vs) => vs
  | _ => []

/-- A member that is a list, or is not there. -/
def HasList (report : Json) (key : String) : Prop :=
  ∀ v, report.get? key = some v → ∃ vs, v = .arr vs

/-- A report with all members that a page is written from, whatever stands in its texts. -/
structure Complete (report : Json) : Prop where
  summary : ∃ summary, report.get? "summary" = some summary ∧ HasFigures summary
  files : HasList report "files"
  rows : ∀ file ∈ items report "files", HasRow file
  recommendations : HasList report "recommendations"

/-- Every exported report gives a page. -/
theorem complete_toJson (r : Report) (tally : Tally → Json) : Complete (r.toJson tally) where
  summary := by
    refine ⟨_, rfl, ?_, _, rfl, trivial⟩
    simp only [List.forall_mem_cons]
    exact ⟨⟨_, rfl⟩, ⟨_, rfl⟩, ⟨_, rfl⟩, ⟨_, rfl⟩, fun _ h => nomatch h⟩
  files := fun _ h => ⟨_, (Option.some.inj h).symm⟩
  rows := by
    intro file hfile
    obtain ⟨x, -, rfl⟩ := List.mem_map.1 hfile
    exact ⟨⟨_, rfl⟩, ⟨_, rfl⟩, ⟨_, rfl⟩⟩
  recommendations := fun _ h => ⟨_, (Option.some.inj h).symm⟩

/-- The brackets of a member in running text. -/
def memberMarks (j : Json) (key : String) : Nat := ((j.get? key).map fun v => marks (plain v)).getD 0

/-- The brackets of the paths, the statuses and the recommendations of a report. -/
def textMarks (report : Json) : Nat :=
  sumBy (fun file => memberMarks file "filepath" + memberMarks file "status") (items report "files")
    + sumBy (fun r => marks (plain r)) (items report "recommendations")

theorem require_eq_ok {j v : Json} {key : String} (h : j.get? key = some v) :
    require j key = .ok v := by
  cases j with
  | obj members =>
    have hfind : Keyed.find? members key = some v := h
    simp only [require, hfind]
  | _ => cases h

theorem member_eq_ok {j v : Json} {key : String} (h : j.get? key = some v) :
    member j key = .ok (plain v) := by
  unfold member
  rw [require_eq_ok h]
  rfl

theorem IsRate.exists_percent : ∀ {v : Json}, IsRate v → ∃ s, percent v = .ok s
  | .bool _, _ => ⟨_, rfl⟩
  | .int _, h => ⟨_, if_pos h⟩
  | .float _, _ => ⟨_, rfl⟩

theorem HasFigures.exists_figures {summary : Json} (h : HasFigures summary) :
    ∃ fs, figures summary = .ok fs := by
  have hcounts := h.counts
  simp only [List.forall_mem_cons] at hcounts
  obtain ⟨⟨total, htotal⟩, ⟨ok, hok⟩, ⟨major, hmajor⟩, ⟨minor, hminor⟩, -⟩ := hcounts
  obtain ⟨rate, hrate, hnumber⟩ := h.rate
  obtain ⟨written, hwritten⟩ := hnumber.exists_percent
  unfold figures
  rw [member_eq_ok htotal, member_eq_ok hok, member_eq_ok hmajor, member_eq_ok hminor,
    require_eq_ok hrate]
  simp only [bind, Except.bind, hwritten]
  exact ⟨_, rfl⟩

theorem HasList.listed_eq_ok {report : Json} {key : String} (h : HasList report key) :
    listed report key = .ok (items report key) := by
  unfold listed items
  rcases hget : report.get? key with - | v
  · rfl
  · obtain ⟨vs, rfl⟩ := h v hget
    rfl

/-! ## The brackets of a page -/

theorem sumBy_tagged {α : Type} (tags : Nat) (f : α → Nat) (l : List α) :
    sumBy (fun a => tags + f a) l = tags * l.length + sumBy f l := by
  rw [sumBy_add, sumBy_const]

theorem sumBy_marks_map {wrap : String → String} {tags : Nat}
    (h : ∀ s, marks (wrap s) = tags + marks s) (l : List String) :
    sumBy marks (l.map wrap) = tags * l.length + sumBy marks l := by
  rw [sumBy_map, ← sumBy_tagged]
  exact sumBy_congr fun s _ => h s

theorem marks_figure (figure : String) :
    marks s!"            <p>{figure}</p>" = 2 + marks figure := by
  have hopen : marks "            <p>" = 1 := rfl
  have hclose : marks "</p>" = 1 := rfl
  simp only [marks_append, toString, hopen, hclose]
  omega

theorem marks_recommendation (text : String) : marks s!"<li>{text}</li>" = 2 + marks text := by
  have hopen : marks "<li>" = 1 := rfl
  have hclose : marks "</li>" = 1 := rfl
  simp only [marks_append, toString, hopen, hclose]
  omega

theorem marks_row (path status count : String) :
    marks s!"<tr><td>{path}</td><td>{status}</td><td>{count}</td></tr>"
      = 8 + (marks path + marks status + marks count) := by
  have hopen : marks "<tr><td>" = 2 := rfl
  have hnext : marks "</td><td>" = 2 := rfl
  have hclose : marks "</td></tr>" = 2 := rfl
  simp only [marks_append, toString, hopen, hnext, hclose]
  omega

/-- The row of a file has four pairs of tags, and the brackets of the path and of the status. -/
theorem HasRow.exists_row {file : Json} (h : HasRow file) :
    ∃ row, fileRow file = .ok row
      ∧ marks row = 8 + (memberMarks file "filepath" + memberMarks file "status") := by
  obtain ⟨⟨path, hpath⟩, ⟨status, hstatus⟩, n, hcount⟩ := h
  refine ⟨s!"<tr><td>{plain path}</td><td>{plain status}</td><td>{plain (.int n)}</td></tr>", ?_, ?_⟩
  · unfold fileRow
    rw [member_eq_ok hpath, member_eq_ok hstatus, member_eq_ok hcount]
    rfl
  · have hnumber : marks (plain (.int n)) = 0 := marks_int n
    unfold memberMarks
    rw [marks_row, hnumber, hpath, hstatus]
    rfl

theorem sumBy_eq_of_forall₂ {α β : Type} {f : α → Nat} {g : β → Nat} {l : List α} {l' : List β}
    (h : List.Forall₂ (fun a b => g b = f a) l l') : sumBy g l' = sumBy f l := by
  induction h with
  | nil => rfl
  | cons hab _ ih => rw [sumBy, sumBy, hab, ih]

/-- A page around figures, rows and recommendations. -/
def page (figures rows recommendations : List String) : String :=
  unlines (pageHead ++ figures.map (fun f => s!"            <p>{f}</p>") ++ tableHead) ++
    String.join rows ++ unlines listHead ++
    String.join (recommendations.map fun r => s!"<li>{r}</li>") ++ unlines pageEnd

theorem html_eq_page {report summary : Json} {fs rows : List String}
    (hsummary : report.get? "summary" = some summary) (hfigures : figures summary = .ok fs)
    (hfiles : HasList report "files") (hrows : (items report "files").mapM fileRow = .ok rows)
    (hrecommendations : HasList report "recommendations") :
    html report = .ok (page fs rows ((items report "recommendations").map plain)) := by
  unfold html page
  rw [require_eq_ok hsummary, hfiles.listed_eq_ok, hrecommendations.listed_eq_ok, List.map_map]
  show (figures summary >>= _) = _
  rw [hfigures]
  show (List.mapM fileRow _ >>= _) = _
  rw [hrows]
  rfl

/-- The lines that every page has. -/
def fixedLines : List String := pageHead ++ tableHead ++ listHead ++ pageEnd

/-- A page has the tags of its fixed lines, two for each figure and each recommendation, and the brackets
of what stands in it. -/
theorem marks_page (figures rows recommendations : List String) :
    marks (page figures rows recommendations)
      = sumBy marks fixedLines + (2 * figures.length + sumBy marks figures) + sumBy marks rows
        + (2 * recommendations.length + sumBy marks recommendations) := by
  have hfigures := sumBy_marks_map marks_figure figures
  have hrecommendations := sumBy_marks_map marks_recommendation recommendations
  simp only [page, fixedLines, marks_append, marks_unlines, marks_join, sumBy_append, hfigures,
    hrecommendations]
  omega

/-- A report gives a page, which has the tags for its figures, files and recommendations, and the brackets
of the figures and of the texts. -/
theorem marks_html {report : Json} (h : Complete report) :
    ∃ summary fs result, report.get? "summary" = some summary ∧ figures summary = .ok fs
      ∧ html report = .ok result
      ∧ marks result = sumBy marks fixedLines + (2 * fs.length + sumBy marks fs)
        + 8 * (items report "files").length + 2 * (items report "recommendations").length
        + textMarks report := by
  obtain ⟨summary, hsummary, hkeys⟩ := h.summary
  obtain ⟨fs, hfigures⟩ := hkeys.exists_figures
  obtain ⟨rows, hrows, hmarks⟩ := mapM_eq_ok fun file hfile => (h.rows file hfile).exists_row
  have hpage := html_eq_page hsummary hfigures h.files hrows h.recommendations
  refine ⟨summary, fs, _, hsummary, hfigures, hpage, ?_⟩
  have hfiles := sumBy_eq_of_forall₂ hmarks
  rw [sumBy_tagged] at hfiles
  have hplain : sumBy marks ((items report "recommendations").map plain)
      = sumBy (fun r => marks (plain r)) (items report "recommendations") := sumBy_map _ _ _
  unfold textMarks
  rw [marks_page, hfiles, hplain, List.length_map]
  omega

/-- The pages of two reports that differ in their texts alone differ by the brackets of the texts. -/
theorem marks_html_add {a b : Json} (ha : Complete a) (hb : Complete b)
    (hsummary : a.get? "summary" = b.get? "summary")
    (hfiles : (items a "files").length = (items b "files").length)
    (hrecommendations : (items a "recommendations").length = (items b "recommendations").length) :
    ∃ pageA pageB, html a = .ok pageA ∧ html b = .ok pageB
      ∧ marks pageA + textMarks b = marks pageB + textMarks a := by
  obtain ⟨summary, fs, pageA, hsome, hfigures, hpageA, hmarksA⟩ := marks_html ha
  obtain ⟨summaryB, fsB, pageB, hsomeB, hfiguresB, hpageB, hmarksB⟩ := marks_html hb
  obtain rfl : summary = summaryB := Option.some.inj (hsome.symm.trans (hsummary.trans hsomeB))
  obtain rfl : fs = fsB := Except.ok.inj (hfigures.symm.trans hfiguresB)
  refine ⟨pageA, pageB, hpageA, hpageB, ?_⟩
  omega

/-- Two reports with the same summary and as many files and recommendations give pages with as many
brackets exactly if there are as many in their texts. -/
theorem marks_html_eq_iff (a b : Json) (ha : Complete a) (hb : Complete b)
    (hsummary : a.get? "summary" = b.get? "summary")
    (hfiles : (items a "files").length = (items b "files").length)
    (hrecommendations : (items a "recommendations").length = (items b "recommendations").length) :
    ∃ pageA pageB, html a = .ok pageA ∧ html b = .ok pageB
      ∧ marks pageA + textMarks b = marks pageB + textMarks a
      ∧ (marks pageA = marks pageB ↔ textMarks a = textMarks b) := by
  obtain ⟨pageA, pageB, hpageA, hpageB, hadd⟩ := marks_html_add ha hb hsummary hfiles hrecommendations
  refine ⟨pageA, pageB, hpageA, hpageB, hadd, ?_⟩
  omega

/-- The report of a project of one file, in which nothing is wrong. -/
def goodFileReport (path : String) : Json :=
  ((({} : Project).addEach [⟨{}, { path, status := .ok }, some []⟩]).1.report false).toJson

theorem marks_html_same_brackets :
    let a := goodFileReport "a<b.c"
    let b := goodFileReport "<.h"
    Complete a ∧ Complete b ∧ a.get? "summary" = b.get? "summary"
      ∧ ∃ pageA pageB, html a = .ok pageA ∧ html b = .ok pageB ∧ marks pageA = marks pageB := by
  intro a b
  have ha : Complete a := complete_toJson _ _
  have hb : Complete b := complete_toJson _ _
  obtain ⟨pageA, pageB, hpageA, hpageB, -, hiff⟩ := marks_html_eq_iff a b ha hb rfl rfl rfl
  exact ⟨ha, hb, rfl, pageA, pageB, hpageA, hpageB, hiff.2 rfl⟩

/-- A file whose name holds a tag brings it into the page. -/
theorem path_brings_tag :
    let a := goodFileReport "p/a.c"
    let b := goodFileReport "q/<b>.c"
    a.get? "summary" = b.get? "summary"
      ∧ (items a "files").length = (items b "files").length
      ∧ items a "recommendations" = items b "recommendations"
      ∧ ∃ pageA pageB, html a = .ok pageA ∧ html b = .ok pageB ∧ marks pageA ≠ marks pageB := by
  intro a b
  have hrowsA : sumBy (fun file => memberMarks file "filepath" + memberMarks file "status")
      (items a "files") = 0 := by decide
  have hrowsB : sumBy (fun file => memberMarks file "filepath" + memberMarks file "status")
      (items b "files") = 1 := by decide
  have hsame : items a "recommendations" = items b "recommendations" := rfl
  have htexts : textMarks b = textMarks a + 1 := by
    unfold textMarks
    rw [hrowsA, hrowsB, hsame]
    omega
  have ha : Complete a := complete_toJson _ _
  have hb : Complete b := complete_toJson _ _
  obtain ⟨pageA, pageB, hpageA, hpageB, hadd⟩ := marks_html_add ha hb rfl rfl rfl
  refine ⟨rfl, rfl, hsame, pageA, pageB, hpageA, hpageB, ?_⟩
  omega

end Document

end SourceStyle
