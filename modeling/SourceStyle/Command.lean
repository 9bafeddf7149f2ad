import SourceStyle.Command.Arguments
import SourceStyle.Decimal.Integer
import SourceStyle.FileTree
import SourceStyle.Project.Entry
import SourceStyle.Scanner

/-!
# Commands

The commands of the program and how arguments ask for them. A path to scan has to exist, so commands
are read in view of a file tree.
-/

namespace SourceStyle

inductive ReportFormat where
  | json
  | html
  | text
  deriving DecidableEq

def ReportFormat.ofName? : String → Option ReportFormat
  | "json" => some json
  | "html" => some html
  | "text" => some text
  | _ => none

structure ScanOptions where
  path : String
  recursive : Bool := true
  /-- The file to save a report in. Nothing is saved under the empty name. -/
  output : String := ""
  grade : Option Grade := none
  /-- The rule to show the files of. The empty name stands for all files. -/
  rule : String := ""
  /-- Whether every violation is shown. -/
  details : Bool := false
  extensions : List Text := Scanner.standardExtensions

structure CheckOptions where
  paths : List String
  recursive : Bool := true
  extensions : List Text := Scanner.standardExtensions

structure ReportOptions where
  path : String
  /-- The file to save the report in. Without one the report is shown. -/
  output : String := ""
  format : ReportFormat := .text
  /-- Whether recommendations are shown. -/
  advice : Bool := false
  extensions : List Text := Scanner.standardExtensions

structure ServerOptions where
  host : String := "127.0.0.1"
  port : Int := 8080
  debug : Bool := false

inductive Command where
  /-- Show the files of a path and their violations. -/
  | scan (o : ScanOptions)
  /-- Print the violations of paths, one a line. -/
  | check (o : CheckOptions)
  /-- Make a report of a path. -/
  | report (o : ReportOptions)
  /-- Show the rules. -/
  | rules
  /-- Answer requests. -/
  | dashboard (o : ServerOptions)

/-- What arguments ask for. -/
inductive Invocation where
  | version
  | command (verbose : Bool) (c : Command)

namespace Command

open Arguments

/-- What options are about. -/
inductive Key where
  | verbose
  | version
  | recursive
  | output
  | grade
  | rule
  | details
  | extension
  | format
  | advice
  | host
  | port
  | debug
  deriving DecidableEq

/-- Why arguments ask for nothing. -/
inductive Fault where
  /-- They break the rules. -/
  | misuse
  /-- A path has a NUL character. -/
  | notAPath
  deriving DecidableEq

def generalFlags : List (Flag Key) :=
  [⟨"--verbose", .verbose, some true⟩, ⟨"-v", .verbose, some true⟩,
    ⟨"--version", .version, some true⟩]

def recursiveFlags : List (Flag Key) :=
  [⟨"--recursive", .recursive, some true⟩, ⟨"--no-recursive", .recursive, some false⟩]

def outputFlags : List (Flag Key) := [⟨"--output", .output, none⟩, ⟨"-o", .output, none⟩]

def extensionFlags : List (Flag Key) := [⟨"--ext", .extension, none⟩]

def scanFlags : List (Flag Key) :=
  recursiveFlags ++ outputFlags ++ extensionFlags ++
    [⟨"--filter-status", .grade, none⟩, ⟨"--filter-rule", .rule, none⟩,
      ⟨"--show-details", .details, some true⟩]

def checkFlags : List (Flag Key) := recursiveFlags ++ extensionFlags

def reportFlags : List (Flag Key) :=
  outputFlags ++ extensionFlags ++
    [⟨"--format", .format, none⟩, ⟨"--include-recommendations", .advice, some true⟩]

def dashboardFlags : List (Flag Key) :=
  [⟨"--host", .host, none⟩, ⟨"--port", .port, none⟩, ⟨"--debug", .debug, some true⟩]

def grade? (label : String) : Option Grade := Grade.all.find? (·.label = label)

def port? (s : String) : Option Int := Decimal.integer? s.toList

/-- Whether what a path leads to can be opened. Where it leads to nothing there is nothing to open. -/
def checkRights (tree : FileTree) (path : String) : Except Fault Unit :=
  match tree.resolve path with
  | .ok place => if (tree.entry? place).all FileTree.Entry.isOpen then .ok () else .error .misuse
  | .error .notAPath => .error .notAPath
  | .error _ => .ok ()

/-- Whether an option takes a text. -/
def checkText (tree : FileTree) (key : Key) (s : String) : Except Fault Unit :=
  match key with
  | .grade => if (grade? s).isSome then .ok () else .error .misuse
  | .format => if (ReportFormat.ofName? s).isSome then .ok () else .error .misuse
  | .port => if (port? s).isSome then .ok () else .error .misuse
  | .output => checkRights tree s
  | _ => .ok ()

/-- Look at the texts that count, in the order in which their options are first given. -/
def checkTexts (tree : FileTree) (p : Parsed Key) : Except Fault Unit :=
  (p.values.map Prod.fst).eraseDups.forM fun key =>
    match p.text? key with
    | some s => checkText tree key s
    | none => .ok ()

def parseArguments (tree : FileTree) (flags : List (Flag Key)) (args : List String) :
    Except Fault (Parsed Key) := do
  let p ← (Arguments.parse flags true args).mapError fun _ => .misuse
  checkTexts tree p
  return p

/-- Whether a path to scan leads to something that can be opened. -/
def checkPath (tree : FileTree) (path : String) : Except Fault Unit :=
  match tree.resolve path with
  | .ok _ | .error .notAPath => checkRights tree path
  | .error _ => .error .misuse

/-- The path to scan, which has to be the only operand. -/
def onlyPath (tree : FileTree) (p : Parsed Key) : Except Fault String :=
  match p.operands with
  | [] => .error .misuse
  | path :: more => do
    checkPath tree path
    if more.isEmpty then return path else throw .misuse

def noOperands (p : Parsed Key) : Except Fault Unit :=
  if p.operands.isEmpty then .ok () else .error .misuse

def extensions (p : Parsed Key) : List Text :=
  match p.texts .extension with
  | [] => Scanner.standardExtensions
  | es => es.map String.toList

def parseScan (tree : FileTree) (args : List String) : Except Fault ScanOptions := do
  let p ← parseArguments tree scanFlags args
  return {
    path := ← onlyPath tree p
    recursive := p.isOn .recursive true
    output := (p.text? .output).getD ""
    grade := (p.text? .grade).bind grade?
    rule := (p.text? .rule).getD ""
    details := p.isOn .details
    extensions := extensions p }

def parseCheck (tree : FileTree) (args : List String) : Except Fault CheckOptions := do
  let p ← parseArguments tree checkFlags args
  if p.operands.isEmpty then
    throw .misuse
  p.operands.forM (checkPath tree)
  return { paths := p.operands, recursive := p.isOn .recursive true, extensions := extensions p }

def parseReport (tree : FileTree) (args : List String) : Except Fault ReportOptions := do
  let p ← parseArguments tree reportFlags args
  return {
    path := ← onlyPath tree p
    output := (p.text? .output).getD ""
    format := ((p.text? .format).bind ReportFormat.ofName?).getD .text
    advice := p.isOn .advice
    extensions := extensions p }

def parseDashboard (tree : FileTree) (args : List String) : Except Fault ServerOptions := do
  let p ← parseArguments tree dashboardFlags args
  noOperands p
  return {
    host := (p.text? .host).getD "127.0.0.1"
    port := ((p.text? .port).bind port?).getD 8080
    debug := p.isOn .debug }

/-- The command of a name with its arguments. -/
def parse (tree : FileTree) (name : String) (args : List String) : Except Fault Command :=
  match name with
  | "scan" => (parseScan tree args).map .scan
  | "check" => (parseCheck tree args).map .check
  | "report" => (parseReport tree args).map .report
  | "rules" => do noOperands (← parseArguments tree [] args); return .rules
  | "dashboard" => (parseDashboard tree args).map .dashboard
  | _ => .error .misuse

end Command

namespace Invocation

/-- Why arguments ask for nothing. The general options take effect before the command is read. -/
structure Fault where
  verbose : Bool
  fault : Command.Fault

/-- What arguments ask for: general options, then a command with its own. -/
def parse (tree : FileTree) (args : List String) : Except Fault Invocation :=
  match Arguments.parse Command.generalFlags false args with
  | .error _ => .error ⟨false, .misuse⟩
  | .ok p =>
    if p.isOn .version then .ok .version
    else
      match p.operands with
      | [] => .error ⟨false, .misuse⟩
      | name :: rest =>
        let verbose := p.isOn .verbose
        match Command.parse tree name rest with
        | .ok c => .ok (.command verbose c)
        | .error fault => .error ⟨verbose, fault⟩

end Invocation

end SourceStyle
