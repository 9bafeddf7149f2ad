import SourceStyle.Checks
import SourceStyle.FileResult
import SourceStyle.FileTree

/-!
# Scanning files

A scanner looks at the files with certain extensions and runs its checks on them. A file that cannot
be read has a result too, with the reason. A `Session` keeps the results of the last scan of a
directory or a path, for its summary and for filtering.
-/

namespace SourceStyle

structure Scanner where
  extensions : List Text
  checks : Checks := .standard

namespace Scanner

/-- An extension with its dot. -/
def withDot (extension : Text) : Text :=
  if extension.head? = some '.' then extension else '.' :: extension

def ofExtensions (extensions : List Text) (checks : Checks := .standard) : Scanner :=
  ⟨extensions.map withDot, checks⟩

def standardExtensions : List Text := [".c".toList, ".cpp".toList, ".h".toList]

def standard : Scanner := .ofExtensions standardExtensions

/-- Why a scan gives no result. -/
inductive Error where
  | access (path : String) (e : FileTree.Error)
  | checks (e : Checks.Error)
  deriving DecidableEq

def Error.message : Error → String
  | access path e => e.message path
  | checks e => e.message

def isEligible (s : Scanner) (path : String) : Bool := (Path.ofString path).suffix ∈ s.extensions

def scanText (s : Scanner) (t : Text) : Except Error (List Violation) :=
  (s.checks.scan t).mapError .checks

def resultOfText (s : Scanner) (path : String) (t : Text) : Except Error FileResult := do
  let violations ← s.scanText t
  return { path, violations, status := if violations.isEmpty then .ok else .violations }

def unreadable (path reason : String) : FileResult :=
  { path, status := .error, error := some reason }

/-- The result of one file. A file with another extension is not read and counts as good. -/
def scanFile (s : Scanner) (tree : FileTree) (path : String) : Except Error FileResult :=
  if !s.isEligible path then .ok { path, status := .ok }
  else match tree.readText path with
    | .ok t => s.resultOfText path t
    | .error (.access .notAPath) => .error (.access path .notAPath)
    | .error (.access .notFound) => .ok (unreadable path "File not found")
    | .error (.access e) => .ok (unreadable path (e.message path))
    | .error (.encoding f) => .ok (unreadable path f.message)

/-- The paths that lead to a file with one of the extensions. Each path is looked up, and the first
one that is too long for that is an error. -/
def keepFiles (s : Scanner) (tree : FileTree) : List Path → Except Error (List Path)
  | [] => .ok []
  | path :: paths =>
    match tree.isFile path.toString with
    | .error e => .error (.access path.toString e)
    | .ok isFile => (s.keepFiles tree paths).map fun kept =>
      if isFile && path.suffix ∈ s.extensions then path :: kept else kept

/-- The paths of the files of a directory that have one of the extensions, in order. -/
def filesToScan (s : Scanner) (tree : FileTree) (directory : Path) (place : List Text)
    (recursive : Bool) : Except Error (List Path) :=
  s.keepFiles tree
    (((tree.namesBelow place recursive).mergeSort Path.namesLE).map directory.below)

/-- The results of the files of a directory, in the order of their paths, if there is such a
directory. -/
def scanDirectory (s : Scanner) (tree : FileTree) (directory : String) (recursive : Bool) :
    Except Error (Option (List FileResult)) :=
  let path := Path.ofString directory
  match tree.directory? path.toString with
  | .error e => .error (.access path.toString e)
  | .ok none => .ok none
  | .ok (some place) => do
    let files ← s.filesToScan tree path place recursive
    return some (← files.mapM fun p => s.scanFile tree p.toString)

end Scanner

/-- A scanner with the results of its last scan. -/
structure Session where
  scanner : Scanner
  results : List FileResult := []

namespace Session

/-- Scan a directory. One that does not exist has no results and leaves those of the last scan. -/
def scanDirectory (s : Session) (tree : FileTree) (directory : String) (recursive : Bool) :
    Except Scanner.Error (List FileResult × Session) := do
  match ← s.scanner.scanDirectory tree directory recursive with
  | some results => return (results, { s with results })
  | none => return ([], s)

/-- Scan a directory or a single file. -/
def scanPath (s : Session) (tree : FileTree) (path : String) (recursive : Bool) :
    Except Scanner.Error (List FileResult × Session) := do
  match ← s.scanner.scanDirectory tree path recursive with
  | some results => return (results, { s with results })
  | none =>
    let result ← s.scanner.scanFile tree path
    return ([result], { s with results := [result] })

/-- The counts of a scan with results. -/
structure Summary where
  totalFiles : Nat
  okFiles : Nat
  totalViolations : Nat
  rules : Tally
  successRate : Float

def Summary.failedFiles (s : Summary) : Nat := s.totalFiles - s.okFiles

/-- The part of a whole in percent. -/
def percentage (part whole : Nat) : Float := part.toFloat / whole.toFloat * 100

def summary? (s : Session) : Option Summary :=
  if s.results.isEmpty then none
  else
    let total := s.results.length
    let ok := s.results.countP (·.status = .ok)
    some {
      totalFiles := total
      okFiles := ok
      totalViolations := sumBy (·.violations.length) s.results
      rules := (s.results.map FileResult.ruleCounts).foldl Tally.merge []
      successRate := percentage ok total }

/-- The results with a status and with a violation of a rule. An empty text does not filter. -/
def filter (s : Session) (status rule : String) : List FileResult :=
  s.results.filter fun r =>
    (status.isEmpty || r.status.label == status) &&
      (rule.isEmpty || r.violations.any (·.rule == rule))

end Session

end SourceStyle
