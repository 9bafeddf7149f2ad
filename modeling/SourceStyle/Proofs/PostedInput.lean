import SourceStyle.Proofs.LastProject

/-!
# What is posted to the service

A text to check and a project to scan are sent as the members of an object. What the service asks of
them is checked before it is used, with exceptions: a value that is no object is asked for its members
all the same, and a file name or a path of another type is looked up as if it were one. Such a request
ends in an internal error, and so does one that the front end breaks off at (`Request.Breaks`). Every
other request is answered or refused, with a reason (`post_status_iff`).
-/

namespace SourceStyle

/-- A value that stands for something, and cannot be looked up in a file tree: it is no text and no truth
value, nor a whole number that an open file can have. -/
def Json.NoPath (v : Json) : Prop :=
  v.isBlank = false ∧ (∀ d, v ≠ .str d) ∧ (∀ b, v ≠ .bool b)
    ∧ ∀ n, v = .int n → n < -0x80000000 ∨ 0x80000000 ≤ n

/-- A value that can stand for the name of a file: a text, or nothing. -/
def Json.IsName (v : Json) : Prop := v.isBlank = true ∨ ∃ name, v = .str name

namespace Body

/-- The value of a member of the object that is sent, null if there is none. -/
def member (key : String) : Body → Json
  | value v => (v.get? key).getD .null
  | nothing | raised => .null

/-- A body that can be asked for members: it has no value, or a blank one, or an object. -/
def HasMembers : Body → Prop
  | nothing => True
  | value v => v.isBlank = true ∨ ∃ members, v = .obj members
  | raised => False

theorem members?_of_no_object {v : Json} (h : ∀ members, v ≠ .obj members) :
    (value v).members? = (if v.isBlank then some [] else none)
      ∧ ∀ key, (value v).member key = .null := by
  cases v with
  | obj members => exact absurd rfl (h members)
  | _ => exact ⟨rfl, fun _ => rfl⟩

theorem members?_cases (b : Body) :
    (¬b.HasMembers ∧ b.members? = none ∧ ∀ key, b.member key = .null)
    ∨ b.HasMembers ∧ ∃ members, b.members? = some members
      ∧ ∀ key, (Keyed.find? members key).getD .null = b.member key := by
  cases b with
  | nothing => exact .inr ⟨trivial, [], rfl, fun key => rfl⟩
  | raised => exact .inl ⟨id, rfl, fun key => rfl⟩
  | value v =>
    by_cases hobj : ∃ members, v = .obj members
    · obtain ⟨members, rfl⟩ := hobj
      exact .inr ⟨.inr ⟨members, rfl⟩, members, rfl, fun key => rfl⟩
    · have hno : ∀ members, v ≠ .obj members := fun members h => hobj ⟨members, h⟩
      obtain ⟨hmembers, hnull⟩ := members?_of_no_object hno
      rcases hblank : v.isBlank
      · left
        exact ⟨by simp [HasMembers, hblank, hno], by rw [hmembers, hblank]; rfl, hnull⟩
      · right
        refine ⟨.inl hblank, [], by rw [hmembers, hblank]; rfl, fun key => ?_⟩
        rw [hnull]
        rfl

end Body

namespace Request

/-- A request with what the service asks for: a text, with a file name or none, or the path of a
directory. -/
inductive Accepted (front : Frontend) (tree : FileTree) (r : Request) : Prop
  | check {t : String} (hpath : r.path = "/api/check") (htext : (front.body r).member "text" = .str t)
    (hname : ((front.body r).member "filename").IsName)
  | scan {d : String} {place : List Text} (hpath : r.path = "/api/scan")
    (hproject : (front.body r).member "project_path" = .str d)
    (hplace : tree.directory? d = .ok (some place))

/-- A request that the front end breaks off at, or one with a value of a type that is not looked at
before the value is used. -/
inductive Breaks (front : Frontend) (r : Request) : Prop
  | body (hbody : ¬(front.body r).HasMembers)
  | filename {t : String} (hpath : r.path = "/api/check")
    (htext : (front.body r).member "text" = .str t)
    (hname : ¬((front.body r).member "filename").IsName)
  | project (hpath : r.path = "/api/scan")
    (hproject : ((front.body r).member "project_path").NoPath)

variable {front : Frontend} {r : Request}

/-! ## The two kinds of requests -/

section Kinds

variable {tree : FileTree}

theorem accepted_check_iff (hpath : r.path = "/api/check") :
    r.Accepted front tree ↔ (∃ t, (front.body r).member "text" = .str t) ∧ ((front.body r).member "filename").IsName := by
  constructor
  · rintro (⟨-, htext, hname⟩ | ⟨hscan, -, -⟩)
    · exact ⟨⟨_, htext⟩, hname⟩
    · rw [hpath] at hscan
      exact absurd hscan (by decide)
  · rintro ⟨⟨t, htext⟩, hname⟩
    exact .check hpath htext hname

theorem accepted_scan_iff (hpath : r.path = "/api/scan") :
    r.Accepted front tree
      ↔ ∃ d place, (front.body r).member "project_path" = .str d ∧ tree.directory? d = .ok (some place) := by
  constructor
  · rintro (⟨hcheck, -, -⟩ | ⟨-, hproject, hplace⟩)
    · rw [hpath] at hcheck
      exact absurd hcheck (by decide)
    · exact ⟨_, _, hproject, hplace⟩
  · rintro ⟨d, place, hproject, hplace⟩
    exact .scan hpath hproject hplace

theorem breaks_check_iff (hbody : (front.body r).HasMembers) (hpath : r.path = "/api/check") :
    r.Breaks front ↔ (∃ t, (front.body r).member "text" = .str t) ∧ ¬((front.body r).member "filename").IsName := by
  constructor
  · rintro (hno | ⟨-, htext, hname⟩ | ⟨hscan, -⟩)
    · exact absurd hbody hno
    · exact ⟨⟨_, htext⟩, hname⟩
    · rw [hpath] at hscan
      exact absurd hscan (by decide)
  · rintro ⟨⟨t, htext⟩, hname⟩
    exact .filename hpath htext hname

theorem breaks_scan_iff (hbody : (front.body r).HasMembers) (hpath : r.path = "/api/scan") :
    r.Breaks front ↔ ((front.body r).member "project_path").NoPath := by
  constructor
  · rintro (hno | ⟨hcheck, -, -⟩ | ⟨-, hproject⟩)
    · exact absurd hbody hno
    · rw [hpath] at hcheck
      exact absurd hcheck (by decide)
    · exact hproject
  · exact .project hpath

end Kinds

end Request

namespace Service

variable {s : Service} {tree : FileTree} {members : List (String × Json)} {text name v : Json}

/-- A text that is sent is checked without error, whatever its name. -/
theorem exists_checkText (hrange : s.scanner.checks.limits.InRange) (t : Text)
    (name : Option String) : ∃ body, s.checkText t name = .ok body := by
  have hchecked := Checks.not_refuses_of_inRange hrange t
  obtain ⟨vs, hvs, hexcerpt⟩ := Checks.scan_eq_ok hchecked
  obtain ⟨found, hfound, -⟩ := checkText_eq_ok (Scanner.scanText_eq_ok hvs) hexcerpt
  by_cases hskip : (name.any fun n => !n.isEmpty && !s.scanner.isEligible n) = true
  · refine ⟨.obj [("success", .bool true), ("skipped", .bool true), ("violations", .arr [])], ?_⟩
    simp only [checkText, hskip, if_true]
    rfl
  · have hsame : s.checkText t name = s.checkText t none := by
      simp [checkText, hskip]
    exact ⟨_, hsame.trans hfound⟩

/-! ## The two handlers -/

theorem handleCheck_answers (hrange : s.scanner.checks.limits.InRange)
    (htext : (Keyed.find? members "text").getD .null = text)
    (hname : (Keyed.find? members "filename").getD .null = name) :
    ((∃ t, text = .str t) ∧ name.IsName ∧ ∃ body, s.handleCheck members = answer 200 body)
    ∨ ((∃ t, text = .str t) ∧ ¬name.IsName ∧ s.handleCheck members = internalError)
    ∨ (¬∃ t, text = .str t) ∧ ∃ reason, s.handleCheck members = refusal reason := by
  unfold handleCheck
  simp only [htext, hname]
  cases text with
  | str t =>
    cases name with
    | str n =>
      left
      obtain ⟨body, hbody⟩ := exists_checkText hrange t.toList (some n)
      exact ⟨⟨t, rfl⟩, .inr ⟨n, rfl⟩, body, by simp only [hbody]⟩
    | _ =>
      obtain ⟨body, hbody⟩ := exists_checkText hrange t.toList none
      simp only [hbody]
      split_ifs with hblank
      · left
        exact ⟨⟨t, rfl⟩, .inl hblank, body, rfl⟩
      · right
        left
        exact ⟨⟨t, rfl⟩, by simp [Json.IsName, hblank], rfl⟩
  | _ => exact .inr (.inr ⟨by simp, _, rfl⟩)

theorem handleScan_answers (s : Service) (tree : FileTree)
    (hproject : (Keyed.find? members "project_path").getD .null = v) :
    ((∃ d place, v = .str d ∧ tree.directory? d = .ok (some place))
      ∧ ∃ body, (s.handleScan tree members).1 = answer 200 body)
    ∨ (v.NoPath ∧ (s.handleScan tree members).1 = internalError)
    ∨ ¬v.NoPath ∧ (¬∃ d place, v = .str d ∧ tree.directory? d = .ok (some place))
      ∧ ∃ reason, (s.handleScan tree members).1 = refusal reason := by
  unfold handleScan
  simp only [hproject]
  cases v with
  | str d =>
    by_cases hd : ∃ place, tree.directory? d = .ok (some place)
    · left
      obtain ⟨place, hd⟩ := hd
      -- the empty path has a case of its own
      have hne : d ≠ "" := by
        rintro rfl
        cases hd
      exact ⟨⟨d, place, rfl, hd⟩, (s.scanProject tree (some d)).1.toJson, by simp only [hd]⟩
    · right
      right
      refine ⟨fun h => h.2.1 d rfl, ?_, ?_⟩
      · rintro ⟨_, place, ⟨⟩, hplace⟩
        exact hd ⟨place, hplace⟩
      · split
        · exact ⟨_, rfl⟩
        · rename_i path _ hpath
          obtain rfl : d = path := Json.str.inj hpath
          split
          · rename_i place hplace
            exact absurd ⟨place, hplace⟩ hd
          · exact ⟨_, rfl⟩
        · exact ⟨_, rfl⟩
        · rename_i hn
          cases hn
        · rename_i hother _ _
          exact absurd rfl (hother d)
  | int n =>
    simp only
    split_ifs with hzero hopen
    · right
      right
      exact ⟨by simp [Json.NoPath, Json.isBlank, hzero], by simp, _, rfl⟩
    · right
      right
      simp only [isDescriptor, Bool.and_eq_true, decide_eq_true_eq] at hopen
      refine ⟨fun h => ?_, by simp, _, rfl⟩
      have := h.2.2.2 n rfl
      omega
    · right
      left
      simp only [isDescriptor, Bool.and_eq_true, decide_eq_true_eq] at hopen
      refine ⟨⟨by simpa [Json.isBlank] using hzero, by simp, by simp, ?_⟩, rfl⟩
      rintro _ ⟨⟩
      omega
  | bool b =>
    have hpath : ¬Json.NoPath (.bool b) := fun h => h.2.2.1 b rfl
    cases b <;> exact .inr (.inr ⟨hpath, by simp, _, rfl⟩)
  | _ =>
    simp only
    split_ifs with hblank
    · right
      right
      exact ⟨by simp [Json.NoPath, hblank], by simp, _, rfl⟩
    · right
      left
      exact ⟨⟨by simpa using hblank, by simp⟩, rfl⟩

/-! ## The answers -/

variable {front : Frontend} {r : Request}

theorem handle_of_check (s : Service) (h : front.route r.method r.path = .route .check) :
    (s.handle front tree r).1 = ((front.body r).members?.map s.handleCheck).getD internalError := by
  unfold handle
  simp only [h]

/-- What is posted is accepted and answered, or it breaks the service, or it is refused. -/
theorem post_cases (tree : FileTree) (hserves : front.Serves)
    (hrange : s.scanner.checks.limits.InRange) (hmethod : r.method = .post)
    (hpath : r.path = "/api/check" ∨ r.path = "/api/scan") :
    (r.Accepted front tree ∧ ¬r.Breaks front
      ∧ ∃ body, (s.handle front tree r).1 = answer 200 body)
    ∨ (¬r.Accepted front tree ∧ r.Breaks front ∧ (s.handle front tree r).1 = internalError)
    ∨ ¬r.Accepted front tree ∧ ¬r.Breaks front
      ∧ ∃ reason, (s.handle front tree r).1 = refusal reason := by
  have hcheck : r.path = "/api/check" → front.route r.method r.path = .route .check :=
    fun h => by rw [hmethod, h, hserves.check]
  have hscan : r.path = "/api/scan" → r.isScan front = true :=
    fun h => by rw [Request.isScan_iff, hmethod, h, hserves.scan]
  rcases (front.body r).members?_cases with ⟨hbody, hnone, hnull⟩ | ⟨hbody, members, hsome, hmember⟩
  · right
    left
    refine ⟨?_, .body hbody, ?_⟩
    · rintro (⟨-, htext, -⟩ | ⟨-, hproject, -⟩)
      · rw [hnull] at htext
        cases htext
      · rw [hnull] at hproject
        cases hproject
    · rcases hpath with hpath | hpath
      · rw [handle_of_check s (hcheck hpath), hnone]
        rfl
      · rw [handle_of_isScan (hscan hpath), hnone]
        rfl
  · rcases hpath with hpath | hpath
    · rw [handle_of_check s (hcheck hpath), hsome, Option.map_some, Option.getD_some,
        Request.accepted_check_iff hpath, Request.breaks_check_iff hbody hpath]
      rcases handleCheck_answers hrange (hmember "text") (hmember "filename") with
        ⟨htext, hname, hanswer⟩ | ⟨htext, hname, hanswer⟩ | ⟨htext, hanswer⟩
      · exact .inl ⟨⟨htext, hname⟩, fun h => h.2 hname, hanswer⟩
      · exact .inr (.inl ⟨fun h => hname h.2, ⟨htext, hname⟩, hanswer⟩)
      · exact .inr (.inr ⟨fun h => htext h.1, fun h => htext h.1, hanswer⟩)
    · rw [handle_of_isScan (hscan hpath), hsome, Option.map_some, Option.getD_some,
        Request.accepted_scan_iff hpath, Request.breaks_scan_iff hbody hpath]
      have hexclude : (∃ d place, (front.body r).member "project_path" = .str d
          ∧ tree.directory? d = .ok (some place)) →
          ¬((front.body r).member "project_path").NoPath := by
        rintro ⟨d, -, hproject, -⟩ hno
        exact hno.2.1 d hproject
      rcases s.handleScan_answers tree (hmember "project_path") with
        ⟨hd, hanswer⟩ | ⟨hno, hanswer⟩ | ⟨hno, hd, hanswer⟩
      · exact .inl ⟨hd, hexclude hd, hanswer⟩
      · exact .inr (.inl ⟨fun h => hexclude h hno, hno, hanswer⟩)
      · exact .inr (.inr ⟨hd, hno, hanswer⟩)

theorem handle_of_breaks (tree : FileTree) (hserves : front.Serves)
    (hrange : s.scanner.checks.limits.InRange) (hmethod : r.method = .post)
    (hpath : r.path = "/api/check" ∨ r.path = "/api/scan") (h : r.Breaks front) :
    (s.handle front tree r).1 = internalError := by
  rcases post_cases tree hserves hrange hmethod hpath with
    ⟨-, hgood, -⟩ | ⟨-, -, hanswer⟩ | ⟨-, hgood, -⟩
  · exact absurd h hgood
  · exact hanswer
  · exact absurd h hgood

/-- Behind any front end that finds the routes, a text to check or a project to scan that is posted is
answered with 200 if it is accepted, and with 500 if the front end breaks off or a type is not looked at
before it is used. All else is refused with 400 and a reason. -/
theorem post_status_iff (s : Service) (front : Frontend) (tree : FileTree) (r : Request)
    (hserves : front.Serves) (hrange : s.scanner.checks.limits.InRange) (hmethod : r.method = .post)
    (hpath : r.path = "/api/check" ∨ r.path = "/api/scan") :
    ((s.handle front tree r).1.status = 200 ↔ r.Accepted front tree)
    ∧ ((s.handle front tree r).1.status = 500 ↔ r.Breaks front)
    ∧ ((s.handle front tree r).1.status = 400 ↔ ¬r.Accepted front tree ∧ ¬r.Breaks front)
    ∧ ((s.handle front tree r).1.status = 400 → ∃ reason, (s.handle front tree r).1.body
      = some (.obj [("success", .bool false), ("error", .str reason)])) := by
  rcases post_cases tree hserves hrange hmethod hpath with
    ⟨haccepted, hgood, body, hanswer⟩ | ⟨haccepted, hbreaks, hanswer⟩
      | ⟨haccepted, hgood, reason, hanswer⟩
  · simp [haccepted, hgood, hanswer, answer]
  · simp [haccepted, hbreaks, hanswer, internalError, answer]
  · simp [haccepted, hgood, hanswer, refusal, answer, fail]

theorem post_status_of_list_as_text :
    let r := Request.posting "/api/check" "\x7b\"text\":[]\x7d"
    Frontend.standard.Serves ∧ ({} : Service).scanner.checks.limits.InRange
      ∧ r.method = .post ∧ r.path = "/api/check"
      ∧ ¬r.Accepted .standard {} ∧ ¬r.Breaks .standard
      ∧ (({} : Service).handle .standard {} r).1.status = 400 := by
  intro r
  have hvalue : Json.parse Frontend.levels (Content.withoutMark "\x7b\"text\":[]\x7d".toList)
      = .ok (.obj [("text", .arr [])]) := by cbv
  have hbody := Request.body_posting "/api/check" hvalue
  have htext : (Frontend.standard.body r).member "text" = .arr [] := by
    rw [hbody]
    rfl
  have haccepted : ¬r.Accepted .standard {} := by
    rw [Request.accepted_check_iff rfl, htext]
    simp
  have hgood : ¬r.Breaks .standard := by
    rw [Request.breaks_check_iff (by rw [hbody]; exact .inr ⟨_, rfl⟩) rfl, htext]
    simp
  have hserves := Frontend.serves_standard
  have hrange : ({} : Service).scanner.checks.limits.InRange := .default
  obtain ⟨-, -, hrefused, -⟩ := post_status_iff {} .standard {} r hserves hrange rfl (.inl rfl)
  exact ⟨hserves, hrange, rfl, rfl, haccepted, hgood, hrefused.2 ⟨haccepted, hgood⟩⟩

/-- A list in the place of the object, of the file name and of the path. -/
theorem posted_lists_break_service :
    let object := Request.posting "/api/check" "[\"a\"]"
    let filename := Request.posting "/api/check" "\x7b\"text\":\"\",\"filename\":[\"a\"]\x7d"
    let project := Request.posting "/api/scan" "\x7b\"project_path\":[\"a\"]\x7d"
    (({} : Service).handle .standard {} object).1.status = 500
      ∧ (({} : Service).handle .standard {} filename).1.status = 500
      ∧ (({} : Service).handle .standard {} project).1.status = 500 := by
  intro object filename project
  have hobject : object.Breaks .standard := by
    have hvalue : Json.parse Frontend.levels (Content.withoutMark "[\"a\"]".toList)
        = .ok (.arr [.str "a"]) := by cbv
    refine .body ?_
    rw [Request.body_posting "/api/check" hvalue]
    simp [Body.HasMembers, Json.isBlank]
  have hfilename : filename.Breaks .standard := by
    have hvalue : Json.parse Frontend.levels (Content.withoutMark
        "\x7b\"text\":\"\",\"filename\":[\"a\"]\x7d".toList)
        = .ok (.obj [("text", .str ""), ("filename", .arr [.str "a"])]) := by cbv
    have hbody := Request.body_posting "/api/check" hvalue
    refine .filename (t := "") rfl ?_ ?_
    · rw [hbody]
      rfl
    · rw [hbody]
      simp [Body.member, Json.get?, Json.IsName, Keyed.find?, Json.isBlank]
  have hproject : project.Breaks .standard := by
    have hvalue : Json.parse Frontend.levels
        (Content.withoutMark "\x7b\"project_path\":[\"a\"]\x7d".toList)
        = .ok (.obj [("project_path", .arr [.str "a"])]) := by cbv
    refine .project rfl ?_
    rw [Request.body_posting "/api/scan" hvalue]
    simp [Body.member, Json.get?, Json.NoPath, Keyed.find?, Json.isBlank]
  have hstatus : ∀ r : Request, r.method = .post → r.path = "/api/check" ∨ r.path = "/api/scan" →
      r.Breaks .standard → (({} : Service).handle .standard {} r).1.status = 500 :=
    fun r hmethod hpath h => congrArg Answer.status
      (handle_of_breaks {} Frontend.serves_standard .default hmethod hpath h)
  exact ⟨hstatus object rfl (.inl rfl) hobject, hstatus filename rfl (.inl rfl) hfilename,
    hstatus project rfl (.inr rfl) hproject⟩

end Service

end SourceStyle
