import Mathlib.Data.List.Induction
import SourceStyle.Proofs.ProjectScan
import SourceStyle.Service.Frontend

/-!
# Requests one after the other

A request that is no scan leaves the service as it is. A scan leaves at least the project, unless it
is answered with success, and then the service after it does not depend on the one before
(`handle_cases`). No answer depends on the current path, the one thing that a scan without success
changes (`handle_current`). So after any requests a service answers as a fresh one does after the
last scan that was answered with success (`answer_after_last_scan`).
-/

namespace SourceStyle

/-- The front end takes the request as one for the scan of a project. -/
def Request.isScan (front : Frontend) (r : Request) : Bool :=
  front.route r.method r.path = .route .scan

theorem Request.isScan_iff {front : Frontend} {r : Request} :
    r.isScan front = true ↔ front.route r.method r.path = .route .scan := by
  rw [isScan, decide_eq_true_eq]

/-- Whether the answer says that the request succeeded. -/
def Answer.succeeds (a : Answer) : Bool :=
  match a.body.bind (Json.get? "success") with
  | some (.bool b) => b
  | _ => false

/-! ## The route of a scan -/

namespace Route

theorem ofPath?_eq_scan_iff {t : Text} : ofPath? t = some .scan ↔ t = "/api/scan".toList := by
  constructor
  · intro h
    unfold ofPath? at h
    simp only at h
    split at h
    · rename_i k route hfind
      obtain rfl : route = .scan := Option.some.inj h
      have hk := List.find?_some hfind
      have hmem := List.mem_of_find?_eq_some hfind
      simp only [List.mem_cons, Prod.mk.injEq, reduceCtorEq, and_false, and_true, List.not_mem_nil,
        or_false, false_or] at hmem
      rw [← eq_of_beq hk, hmem]
    · obtain ⟨_, -, h⟩ := Option.map_eq_some_iff.1 h
      cases h
  · rintro rfl
    decide

theorem find_eq_scan_iff {m : Method} {t : Text} :
    find m t = .route .scan ↔ m = .post ∧ t = "/api/scan".toList := by
  rw [← ofPath?_eq_scan_iff]
  unfold find target?
  rcases ofPath? t with - | route
  · -- a file of a page is unknown, and any other path is merged into one or unknown too
    simp only [Option.map_none, Option.none_or, reduceCtorEq, and_false, iff_false]
    rcases (after? "/static/".toList t).bind fileOf? with - | file
    · simp only [Option.map_none]
      split
      · split_ifs <;> simp
      · simp
    · simp only [Option.map_some]
      split_ifs <;> simp
  · simp only [Option.map_some, Option.some_or]
    cases route <;> cases m <;> simp [method]

end Route

namespace Request

theorem isScan_standard_iff {r : Request} :
    r.isScan .standard = true ↔ r.method = .post ∧ r.path = "/api/scan" := by
  rw [isScan_iff, ← String.toList_inj]
  exact Route.find_eq_scan_iff

/-- A request that posts a JSON text. -/
def posting (path text : String) : Request where
  method := .post
  path := path
  content := some ⟨"application/json", Utf8.encode text.toList⟩

theorem body_posting (path : String) {text : String} {v : Json}
    (h : Json.parse Frontend.levels (Content.withoutMark text.toList) = .ok v) :
    Frontend.standard.body (posting path text) = .value v := by
  have hjson : (⟨"application/json", Utf8.encode text.toList⟩ : Content).isJson = true := by
    simp only [Content.isJson, Content.essence]
    decide +kernel
  rw [Frontend.body_standard rfl, Content.body, hjson, Utf8.decode_encode]
  simp only [h]
  rfl

end Request

namespace Service

variable {s : Service} {front : Frontend} {tree : FileTree} {r : Request}

/-! ## One request -/

theorem succeeds_done (d : String) (report : Report) (statistics : Project.Statistics) :
    (answer 200 (ProjectScan.done d report statistics).toJson).succeeds = true := rfl

theorem handle_of_not_isScan (h : r.isScan front = false) : (s.handle front tree r).2 = s := by
  unfold handle
  rcases hroute : front.route r.method r.path with route | - | - | -
  · cases route with
    | scan => simp [Request.isScan_iff.2 hroute] at h
    | _ => rfl
  · rfl
  · rfl
  · rfl

theorem handle_of_isScan (h : r.isScan front = true) :
    s.handle front tree r = ((front.body r).members?.map (s.handleScan tree)).getD (internalError, s) := by
  unfold handle
  simp only [Request.isScan_iff.1 h]
  rcases (front.body r).members? with - | members <;> rfl

section HandleScan

variable {members : List (String × Json)}

theorem handleScan_of_directory {d : String} {place : List Text}
    (hpath : Keyed.find? members "project_path" = some (.str d))
    (hd : tree.directory? d = .ok (some place)) :
    s.handleScan tree members
      = (answer 200 (s.scanProject tree (some d)).1.toJson, (s.scanProject tree (some d)).2) := by
  unfold handleScan
  simp only [hpath, Option.getD_some]
  split
  · rename_i h
    obtain rfl : d = "" := Json.str.inj h
    cases hd
  · rename_i path _ h
    obtain rfl : d = path := Json.str.inj h
    simp only [hd]
  · rename_i h
    cases h
  · rename_i h
    cases h
  · rename_i hother _ _
    exact absurd rfl (hother d)

/-- A scan of what is no directory is refused. -/
theorem handleScan_of_no_directory
    (h : ∀ d place, Keyed.find? members "project_path" = some (.str d) →
      tree.directory? d ≠ .ok (some place)) :
    (s.handleScan tree members).2 = s ∧ (s.handleScan tree members).1.succeeds = false := by
  unfold handleScan
  rcases hpath : Keyed.find? members "project_path" with - | v
  · exact ⟨rfl, rfl⟩
  · simp only [Option.getD_some]
    split
    · exact ⟨rfl, rfl⟩
    · rename_i path _
      split
      · rename_i place hd
        exact absurd hd (h path place hpath)
      · exact ⟨rfl, rfl⟩
    · exact ⟨rfl, rfl⟩
    · split_ifs <;> exact ⟨rfl, rfl⟩
    · split_ifs <;> exact ⟨rfl, rfl⟩

end HandleScan

theorem handle_current (s : Service) (current : Option String) (front : Frontend) (tree : FileTree)
    (r : Request) :
    (({ s with current } : Service).handle front tree r).1 = (s.handle front tree r).1 := by
  unfold handle
  split
  · rfl
  · rfl
  · rfl
  · rename_i route h
    cases route with
    | scan =>
      simp only
      rcases (front.body r).members? with - | members
      · rfl
      · simp only [handleScan]
        split
        · rfl
        · split
          · rfl
          · rfl
        · rfl
        · split_ifs <;> rfl
        · rfl
    | _ => rfl

/-- A scan either succeeds, and then what it leaves depends on the scanner and the tree alone, or it
leaves all but the current path. -/
theorem handleScan_cases (scanner : Scanner) (members : List (String × Json))
    (htree : tree.WellFormed) :
    (∃ a project d, a.succeeds = true ∧ ∀ s : Service, s.scanner = scanner →
      s.handleScan tree members = (a, ⟨scanner, project, some d⟩))
    ∨ ∀ s : Service, s.scanner = scanner → (s.handleScan tree members).1.succeeds = false
      ∧ ∃ current, (s.handleScan tree members).2 = { s with current } := by
  by_cases hd : ∃ d place, Keyed.find? members "project_path" = some (.str d)
      ∧ tree.directory? d = .ok (some place)
  · obtain ⟨d, place, hpath, hd⟩ := hd
    rcases hresults : scanner.scanDirectory tree d true with e | results
    · right
      rintro s rfl
      rw [handleScan_of_directory hpath hd, scanProject_of_error hresults]
      exact ⟨rfl, some d, rfl⟩
    · left
      obtain ⟨project, hproject⟩ := addAll_of_scanDirectory (s := { scanner }) htree hresults
      refine ⟨answer 200 (ProjectScan.done d (project.report false) project.statistics).toJson,
        project, d, succeeds_done _ _ _, ?_⟩
      rintro s rfl
      rw [handleScan_of_directory hpath hd, scanProject_of_ok hresults hproject]
  · right
    intro s _
    have hno : ∀ d place, Keyed.find? members "project_path" = some (.str d) →
        tree.directory? d ≠ .ok (some place) :=
      fun d place hpath hdir => hd ⟨d, place, hpath, hdir⟩
    obtain ⟨hsame, hfails⟩ := handleScan_of_no_directory (s := s) hno
    exact ⟨hfails, s.current, hsame⟩

/-- All that a request can do. It depends on the scanner and the tree which of the two it is, and not on
the project that a service holds. -/
theorem handle_cases (front : Frontend) (scanner : Scanner) (r : Request) (htree : tree.WellFormed) :
    (∃ a project d, (r.isScan front && a.succeeds) = true ∧ ∀ s : Service, s.scanner = scanner →
      s.handle front tree r = (a, ⟨scanner, project, some d⟩))
    ∨ ∀ s : Service, s.scanner = scanner → (r.isScan front && (s.handle front tree r).1.succeeds) = false
      ∧ ∃ current, (s.handle front tree r).2 = { s with current } := by
  by_cases hscan : r.isScan front = true
  · simp only [hscan, handle_of_isScan hscan, Bool.true_and]
    rcases (front.body r).members? with - | members
    · right
      intro s _
      exact ⟨rfl, s.current, rfl⟩
    · exact handleScan_cases scanner members htree
  · right
    intro s _
    have hno : r.isScan front = false := by simpa using hscan
    rw [handle_of_not_isScan hno, hno]
    exact ⟨rfl, s.current, rfl⟩

/-! ## Requests one after the other -/

/-- The service after some requests. -/
def after (s : Service) (front : Frontend) (tree : FileTree) (rs : List Request) : Service :=
  rs.foldl (fun s r => (s.handle front tree r).2) s

/-- Some requests, each with the answer to it. -/
def exchanges (s : Service) (front : Frontend) (tree : FileTree) : List Request → List (Request × Answer)
  | [] => []
  | r :: rs => (r, (s.handle front tree r).1) :: (s.handle front tree r).2.exchanges front tree rs

/-- The last of some requests that is a scan answered with success. -/
def lastScan? (s : Service) (front : Frontend) (tree : FileTree) (rs : List Request) : Option Request :=
  ((s.exchanges front tree rs).filter fun x => x.1.isScan front && x.2.succeeds).getLast?.map Prod.fst

theorem after_concat (s : Service) (rs : List Request) (r : Request) :
    s.after front tree (rs ++ [r]) = ((s.after front tree rs).handle front tree r).2 := by
  rw [after, List.foldl_append]
  rfl

theorem exchanges_concat (r : Request) : ∀ (rs : List Request) (s : Service),
    s.exchanges front tree (rs ++ [r])
      = s.exchanges front tree rs ++ [(r, ((s.after front tree rs).handle front tree r).1)]
  | [], s => rfl
  | q :: rs, s => by
    rw [List.cons_append, exchanges, exchanges_concat r rs]
    rfl

theorem lastScan?_concat (s : Service) (rs : List Request) (r : Request) :
    s.lastScan? front tree (rs ++ [r])
      = if r.isScan front && ((s.after front tree rs).handle front tree r).1.succeeds then some r
        else s.lastScan? front tree rs := by
  rw [lastScan?, exchanges_concat, List.filter_append, List.filter_cons]
  split_ifs with h
  · simp
  · simp [lastScan?]

theorem scanner_after (s : Service) (front : Frontend) (rs : List Request) (htree : tree.WellFormed) :
    (s.after front tree rs).scanner = s.scanner := by
  induction rs using List.reverseRecOn with
  | nil => rfl
  | append_singleton rs r ih =>
    rw [after_concat]
    rcases handle_cases front s.scanner r htree with ⟨a, project, d, -, hall⟩ | hall
    · rw [hall _ ih]
    · obtain ⟨-, current, hafter⟩ := hall _ ih
      rw [hafter]
      exact ih

/-- What a service holds comes from the last scan that was answered with success, the current path
apart. -/
theorem after_eq_after_lastScan? (s : Service) (rs : List Request) (htree : tree.WellFormed) :
    ∃ current, s.after front tree rs = { s.after front tree (s.lastScan? front tree rs).toList with current } := by
  induction rs using List.reverseRecOn with
  | nil => exact ⟨s.current, rfl⟩
  | append_singleton rs r ih =>
    have hscanner := scanner_after s front rs htree
    rw [after_concat, lastScan?_concat]
    rcases handle_cases front s.scanner r htree with ⟨a, project, d, hsucceeds, hall⟩ | hall
    · have hfresh : s.after front tree [r] = ⟨s.scanner, project, some d⟩ :=
        congrArg Prod.snd (hall s rfl)
      rw [hall _ hscanner, if_pos hsucceeds, Option.toList_some, hfresh]
      exact ⟨some d, rfl⟩
    · obtain ⟨hfails, current, hafter⟩ := hall _ hscanner
      obtain ⟨earlier, hearlier⟩ := ih
      rw [hafter, if_neg (by simp [hfails]), hearlier]
      exact ⟨current, rfl⟩

/-- The answer to a scan that succeeds does not depend on what came before. -/
theorem succeeds_of_lastScan? {s : Service} {rs : List Request} {q : Request}
    (htree : tree.WellFormed) (h : s.lastScan? front tree rs = some q) :
    (s.handle front tree q).1.succeeds = true := by
  induction rs using List.reverseRecOn with
  | nil => cases h
  | append_singleton rs r ih =>
    have hscanner := scanner_after s front rs htree
    rw [lastScan?_concat] at h
    rcases handle_cases front s.scanner r htree with ⟨a, project, d, hsucceeds, hall⟩ | hall
    · rw [hall _ hscanner, if_pos hsucceeds] at h
      obtain rfl := Option.some.inj h
      rw [hall s rfl]
      exact (Bool.and_eq_true_iff.1 hsucceeds).2
    · rw [if_neg (by simp [(hall _ hscanner).1])] at h
      exact ih h

/-- After any requests a service answers as a fresh one does that was only sent the last scan that was
answered with success, if there was one. The fresh one answers that scan with success too. Behind the
standard front end the scans are the requests that are posted to `/api/scan`. -/
theorem answer_after_last_scan (front : Frontend) (tree : FileTree) (rs : List Request) (r : Request)
    (htree : tree.WellFormed) :
    ((({} : Service).after front tree rs).handle front tree r).1
        = ((({} : Service).after front tree (({} : Service).lastScan? front tree rs).toList).handle front tree r).1
    ∧ (∀ q, ({} : Service).lastScan? front tree rs = some q →
      (({} : Service).handle front tree q).1.succeeds = true)
    ∧ ∀ q : Request, q.isScan .standard = true ↔ q.method = .post ∧ q.path = "/api/scan" := by
  refine ⟨?_, fun q hq => succeeds_of_lastScan? htree hq, fun q => Request.isScan_standard_iff⟩
  obtain ⟨current, hafter⟩ := after_eq_after_lastScan? {} rs htree
  rw [hafter, handle_current]

theorem answer_after_refused_scan :
    let tree := ({} : FileTree).addFile [['a'], ['x', '.', 'c']] []
    let scan := Request.posting "/api/scan" "\x7b\"project_path\":\"a\"\x7d"
    let refused : Request := { method := .post, path := "/api/scan" }
    let statistics : Request := { method := .get, path := "/api/statistics" }
    tree.WellFormed
      ∧ ({} : Service).lastScan? .standard tree [scan, statistics, refused] = some scan
      ∧ (({} : Service).handle .standard tree scan).1.succeeds = true
      ∧ ((({} : Service).after .standard tree [scan, statistics, refused]).handle
          .standard tree statistics).1
        = ((({} : Service).after .standard tree [scan]).handle .standard tree statistics).1 := by
  intro tree scan refused statistics
  have htree : tree.WellFormed := by decide
  have hd : tree.directory? "a" = .ok (some [['a']]) := by decide
  have hopen : ¬tree.Blocked "a" true := by
    have hd : tree.directory? (Path.ofString "a").toString = .ok (some [['a']]) := by decide
    have hnames : ¬tree.Overlong (Path.ofString "a") [['a']] true := by decide
    simpa [FileTree.Blocked, hd] using hnames
  have hvalue : Json.parse Frontend.levels
      (Content.withoutMark "\x7b\"project_path\":\"a\"\x7d".toList)
        = .ok (.obj [("project_path", .str "a")]) := by cbv
  have hbody := Request.body_posting "/api/scan" hvalue
  have hsucceeds : (({} : Service).handle .standard tree scan).1.succeeds = true := by
    rw [handle_of_isScan (by decide), hbody, Body.members?, Option.map_some, Option.getD_some,
      handleScan_of_directory rfl hd]
    rcases scanProject_cases {} (some "a") htree with ⟨hfails, -⟩ | ⟨d, _, project, -, -, -, -, hscan⟩
    · exact absurd ((Scanner.fails_iff_of_inRange .default).1 (hfails "a" rfl)) hopen
    · rw [hscan, succeeds_done]
  have hlast : ({} : Service).lastScan? .standard tree [scan, statistics, refused] = some scan := by
    have hscan : scan.isScan .standard = true := by decide
    have hget : statistics.isScan .standard = false := by decide
    have hrefused : ∀ s : Service, (s.handle .standard tree refused).1.succeeds = false := by
      intro s
      rw [handle_of_isScan (by decide)]
      rfl
    simp [lastScan?, exchanges, hscan, hsucceeds, hget, hrefused]
  obtain ⟨hanswer, -⟩ :=
    answer_after_last_scan .standard tree [scan, statistics, refused] statistics htree
  rw [hlast] at hanswer
  exact ⟨htree, hlast, hsucceeds, hanswer⟩

end Service

end SourceStyle
