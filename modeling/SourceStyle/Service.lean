import SourceStyle.Project.Report
import SourceStyle.Scanner
import SourceStyle.Service.Request
import SourceStyle.Text.LowerCase

/-!
# The service

The service answers requests about one text, sent with the request, and about the project that was
scanned last. `Service.handle` gives the answer to a request that comes through a front end, and the
service after it.
-/

namespace SourceStyle

structure Service where
  scanner : Scanner := .standard
  project : Project := {}
  /-- The path given to the last scan of a project, if it had one. -/
  current : Option String := none

namespace Service

def fail (message : String) : Json := .obj [("success", .bool false), ("error", .str message)]

/-! ## One text -/

/-- The violations of a text with what they cover, or nothing to check if the name of the text has
another extension. -/
def checkText (s : Service) (t : Text) (name : Option String) : Except String Json := do
  if name.any fun n => !n.isEmpty && !s.scanner.isEligible n then
    return .obj [("success", .bool true), ("skipped", .bool true), ("violations", .arr [])]
  let violations ← (s.scanner.scanText t).mapError Scanner.Error.message
  let found ← violations.mapM fun v => do
    let covered ← (v.excerpt t).mapError Violation.ExcerptError.message
    return Json.obj (v.members ++ [("text", .str (String.ofList covered))])
  return .obj [("success", .bool true), ("skipped", .bool false), ("violations", .arr found)]

/-! ## A project -/

/-- What the scan of a project gives. -/
inductive ProjectScan where
  | failed (message : String)
  | done (path : String) (report : Report) (statistics : Project.Statistics)

/-- The form in which a scan is answered. The answer tells when the scan was made as well; the time
is left out here. -/
def ProjectScan.toJson (tally : Tally → Json := Tally.toJson) : ProjectScan → Json
  | failed message => fail message
  | done path report statistics =>
    .obj [("success", .bool true), ("project_path", .str path),
      ("summary", .obj (report.summary.members tally)),
      ("recommendations", .arr (report.recommendations.map .str)),
      ("statistics", statistics.toJson tally)]

/-- Scan a directory and make it the current project. The path becomes the current one first, and
the project is replaced only when the directory could be scanned. -/
def scanProject (s : Service) (tree : FileTree) (path : Option String) : ProjectScan × Service :=
  let s := { s with current := path }
  match path with
  | none => (.failed "expected str, bytes or os.PathLike object, not NoneType", s)
  | some path =>
    match s.scanner.scanDirectory tree path true with
    | .error e => (.failed e.message, s)
    | .ok results =>
      match ({} : Project).addAll tree (results.getD []) with
      | (project, .error e) => (.failed (e.message path), { s with project })
      | (project, .ok ()) =>
        (.done path (project.report false) project.statistics, { s with project })

/-- The result of one file of the current project. -/
def fileDetails? (s : Service) (path : String) : Option Json :=
  (s.project.results.find? path).map fun r =>
    .obj [("success", .bool true), ("filepath", .str path),
      ("filename", .str (String.ofList (Path.ofString path).name)), ("status", .str r.status.label),
      ("violation_count", .int r.violations.length),
      ("violations", .arr (r.violations.map Violation.toJson)),
      ("error", (r.error.map Json.str).getD .null)]

def noDetails : Json := fail "File not found in scan results"

def fileDetails (s : Service) (path : String) : Json := (s.fileDetails? path).getD noDetails

/-! ## Routes -/

def answer (status : Nat) (body : Json) : Answer := ⟨status, some body⟩

def refusal (message : String) : Answer := answer 400 (fail message)

def internalError : Answer := answer 500 (fail "Internal server error")

/-- Check the text of a request. Its file name may be left out or blank. -/
def handleCheck (s : Service) (members : List (String × Json)) : Answer :=
  let reply (t : String) (name : Option String) : Answer :=
    match s.checkText t.toList name with
    | .ok body => answer 200 body
    | .error _ => internalError
  match (Keyed.find? members "text").getD .null with
  | .null => refusal "Text is required"
  | .str t =>
    match (Keyed.find? members "filename").getD .null with
    | .str name => reply t (some name)
    | v => if v.isBlank then reply t none else internalError
  | _ => refusal "Text must be a string"

/-- Whether a whole number can be the number of an open file. -/
def isDescriptor (n : Int) : Bool := -0x80000000 ≤ n && n < 0x80000000

/-- Scan the project that a request names. The number of an open file is no directory, since the
service holds none open; any other value that is no text cannot be looked up. -/
def handleScan (s : Service) (tree : FileTree) (members : List (String × Json)) :
    Answer × Service :=
  let noDirectory := refusal "Project path does not exist"
  match (Keyed.find? members "project_path").getD .null with
  | .str "" => (refusal "Project path is required", s)
  | .str path =>
    match tree.directory? path with
    | .ok (some _) =>
      let (scan, s) := s.scanProject tree (some path)
      (answer 200 scan.toJson, s)
    | _ => (noDirectory, s)
  | .bool true => (noDirectory, s)
  | .int n =>
    if n = 0 then (refusal "Project path is required", s)
    else (if isDescriptor n then noDirectory else internalError, s)
  | v => (if v.isBlank then refusal "Project path is required" else internalError, s)

/-- A filter that is given and does not ask for all. -/
def chosen (query : Keyed String String) (key : String) : Option String :=
  match query.find? key with
  | some v => if v.isEmpty || v == "all" then none else some v
  | none => none

/-- The files of a project with a grade and a rule, if these are given, and, if something is searched
for, those of them that are among the files that the search finds. -/
def select (p : Project) (grade : Option Grade) (rule search : String) : List FileEntry :=
  let files := p.filter { grade, rule }
  if search.isEmpty then files
  else
    let found := p.search search
    files.filter fun f => found.contains f

def listing (files : List FileEntry) : Answer :=
  answer 200 (.obj [("success", .bool true), ("files", .arr (files.map FileEntry.toJson)),
    ("total_count", .int files.length)])

def handleFiles (s : Service) (query : Keyed String String) : Answer :=
  let reply (grade : Option Grade) : Answer :=
    listing (select s.project grade ((chosen query "rule").getD "") ((query.find? "search").getD ""))
  match chosen query "status" with
  | none => reply none
  | some label =>
    match Grade.ofLabel label with
    | .ok grade => reply (some grade)
    | .error _ => refusal s!"Unknown status: {label}"

/-- The details of a file. A path from the root loses its slash on the way. -/
def handleDetails (s : Service) (path : String) : Answer :=
  match (s.fileDetails? path).or (s.fileDetails? ("/" ++ path)) with
  | some details => answer 200 details
  | none => answer 404 noDetails

def ruleJson (r : Rule) : Json :=
  .obj [("name", .str r.name), ("message", .str r.message), ("severity", .str r.severity.name),
    ("pattern", .str r.source)]

def success (key : String) (value : Json) : Answer :=
  answer 200 (.obj [("success", .bool true), (key, value)])

def notFound : Answer := answer 404 (fail "Endpoint not found")

/-- The answer to a request, and the service after it. -/
def handle (s : Service) (front : Frontend) (tree : FileTree) (r : Request) : Answer × Service :=
  match front.route r.method r.path with
  | .unknown => (notFound, s)
  | .wrongMethod => (⟨405, none⟩, s)
  | .redirect => (⟨308, none⟩, s)
  | .route route =>
    match route with
    | .check => (((front.body r).members?.map s.handleCheck).getD internalError, s)
    | .scan =>
      match (front.body r).members? with
      | some members => s.handleScan tree members
      | none => (internalError, s)
    | .files => (s.handleFiles r.query, s)
    | .details path => (s.handleDetails path, s)
    | .rules => (success "rules" (.arr (Rule.standard.map ruleJson)), s)
    | .statistics => (success "statistics" s.project.statistics.toJson, s)
    | .recommendations => (success "recommendations" (.arr (s.project.recommendations.map .str)), s)
    | .report =>
      let listed := (r.query.find? "violations").any fun v => Text.toLower v.toList == "true".toList
      (answer 200 (s.project.report listed).toJson, s)

end Service

end SourceStyle
