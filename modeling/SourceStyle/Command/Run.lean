import SourceStyle.Command
import SourceStyle.Console
import SourceStyle.Document
import SourceStyle.Json.Writer

/-!
# Running commands

A command prints lines, shows things on the console and may save a file. `Command.run` gives all of
it as an outcome, and `Invocation.run` the outcome of the whole program for its arguments. What a
command does with the results of a path does not depend on how they are found, so the commands take
the scan of a path as an argument; `scanPath` is the one that they are run with.
-/

namespace SourceStyle

/-- How a server ends. -/
inductive ServerEnd where
  | returned
  | interrupted
  | failed (message : String)

/-- What a command finds when it is run. -/
structure Surroundings where
  tree : FileTree
  server : ServerEnd := .returned

/-- Why a command breaks off without a word. -/
inductive Command.Error where
  | access (path : String) (e : FileTree.Error)
  | document (e : Document.Error)

def Command.Error.message : Command.Error → String
  | access path e => e.message path
  | document e => e.message

structure Outcome where
  exit : Nat := 0
  /-- The lines on standard output. -/
  out : List String := []
  /-- The lines on standard error. -/
  err : List String := []
  console : List ConsoleItem := []
  /-- The files afterwards. -/
  tree : FileTree
  error : Option Command.Error := none

namespace Command

open ConsoleItem (styled)

/-- What gives the results of a path, or what went wrong. It is told whether to go down into
directories, and which extensions count. -/
abbrev PathScan := String → Bool → List Text → Except String (List FileResult)

def scanPath (tree : FileTree) : PathScan := fun path recursive extensions =>
  let session : Session := { scanner := .ofExtensions extensions }
  ((session.scanPath tree path recursive).map Prod.fst).mapError Scanner.Error.message

/-- The project of the files of a path, or what went wrong. -/
def projectOf (scan : PathScan) (tree : FileTree) (path : String) (recursive : Bool)
    (extensions : List Text) : Except String Project := do
  let results ← scan path recursive extensions
  match ({} : Project).addAll tree results with
  | (p, .ok ()) => return p
  | (_, .error e) => throw (e.message path)

def scanProject (env : Surroundings) (path : String) (recursive : Bool) (extensions : List Text) :
    Except String Project :=
  projectOf (scanPath env.tree) env.tree path recursive extensions

def write (r : Report) : ReportFormat → Except Error String
  | .json => .ok (r.toJson.pretty 0)
  | .html => (Document.html r.toJson).mapError .document
  | .text => (Document.text r.toJson).mapError .document

/-- The tree with a report in a file. -/
def save (tree : FileTree) (r : Report) (format : ReportFormat) (output : String) :
    Except Error FileTree := do
  let content ← write r format
  let path := (Path.ofString output).toString
  (tree.write path (Utf8.encode content.toList)).mapError (.access path)

/-- The outcome of saving a report after some things are shown. -/
def saving (env : Surroundings) (shown : List ConsoleItem) (r : Report) (format : ReportFormat)
    (output name : String) : Outcome :=
  match save env.tree r format output with
  | .ok tree => { tree, console := shown ++ [.line (styled "green" s!"{name} saved to {output}")] }
  | .error e => { exit := 1, tree := env.tree, console := shown, error := some e }

/-- The outcome of a failure after some things are shown. -/
def failing (env : Surroundings) (shown : List ConsoleItem) (message : String) : Outcome :=
  { exit := 1, tree := env.tree, console := shown ++ [.line (styled "red" message)] }

def runScan (scan : PathScan) (env : Surroundings) (o : ScanOptions) : Outcome :=
  let head := ConsoleItem.line (styled "bold blue" "Scanning:" ++ " " ++ o.path)
  match projectOf scan env.tree o.path o.recursive o.extensions with
  | .error e => failing env [head] s!"Error during scan: {e}"
  | .ok p =>
    let shown := head :: ConsoleItem.ofScan p { grade := o.grade, rule := o.rule } o.details
    if o.output.isEmpty then { tree := env.tree, console := shown }
    else saving env shown (p.report true) .json o.output "Results"

def runReport (scan : PathScan) (env : Surroundings) (o : ReportOptions) : Outcome :=
  let head := ConsoleItem.line (styled "bold cyan" "Generating report for:" ++ " " ++ o.path)
  match projectOf scan env.tree o.path true o.extensions with
  | .error e => failing env [head] s!"Error generating report: {e}"
  | .ok p =>
    if o.output.isEmpty then
      { tree := env.tree, console := head :: ConsoleItem.ofReport p o.advice }
    else saving env [head] (p.report (o.format = .json)) o.format o.output "Report"

/-- The line for a file that could not be read. -/
def errorLines (r : FileResult) : List String :=
  match r.error with
  | some e => if e.isEmpty then [] else [s!"{r.path}: error: {e}"]
  | none => []

def violationLines (r : FileResult) : List String :=
  r.violations.map fun v => s!"{r.path}:{v.describe}"

/-- Print what is wrong in each path in turn, after what is printed already. -/
def checkFrom (scan : PathScan) (env : Surroundings) (recursive : Bool) (extensions : List Text)
    (out err : List String) : List String → Outcome
  | [] => { exit := if out.isEmpty && err.isEmpty then 0 else 1, out, err, tree := env.tree }
  | path :: paths =>
    match scan path recursive extensions with
    | .error e => { failing env [] s!"Error during check: {e}" with out, err }
    | .ok results =>
      checkFrom scan env recursive extensions (out ++ results.flatMap violationLines)
        (err ++ results.flatMap errorLines) paths

def runCheck (scan : PathScan) (env : Surroundings) (o : CheckOptions) : Outcome :=
  checkFrom scan env o.recursive o.extensions [] [] o.paths

def runDashboard (env : Surroundings) (o : ServerOptions) : Outcome :=
  let shown : List ConsoleItem := [
    .line (styled "bold green" s!"Starting API at http://{o.host}:{o.port}"),
    .line (styled "dim" "Press Ctrl+C to stop"),
    .serving o.host o.port o.debug]
  match env.server with
  | .returned => { tree := env.tree, console := shown }
  | .interrupted =>
    { tree := env.tree, console := shown ++ [.line ("\n" ++ styled "yellow" "API stopped")] }
  | .failed message => failing env shown s!"Failed to start API: {message}"

/-- The outcome of a command, with `scan` for the results of paths. -/
def runWith (scan : PathScan) (env : Surroundings) : Command → Outcome
  | .scan o => runScan scan env o
  | check o => runCheck scan env o
  | report o => runReport scan env o
  | rules => { tree := env.tree, console := [ConsoleItem.ruleTable Rule.standard] }
  | dashboard o => runDashboard env o

def run (env : Surroundings) (c : Command) : Outcome := runWith (scanPath env.tree) env c

end Command

namespace Invocation

def greeting (verbose : Bool) : List ConsoleItem :=
  if verbose then [.line (ConsoleItem.styled "dim" "Verbose mode enabled")] else []

/-- What the program does with its arguments, with `scan` for the results of paths. Arguments that
break the rules have exit code 2. -/
def runWith (scan : Command.PathScan) (env : Surroundings) (args : List String) : Outcome :=
  match Invocation.parse env.tree args with
  | .error ⟨_, .misuse⟩ => { exit := 2, tree := env.tree }
  | .error ⟨verbose, .notAPath⟩ =>
    { exit := 1, tree := env.tree, console := greeting verbose,
      error := some (.access "" .notAPath) }
  | .ok .version => { tree := env.tree, out := ["main, version 1.0.0"] }
  | .ok (.command verbose c) =>
    let o := c.runWith scan env
    { o with console := greeting verbose ++ o.console }

def run (env : Surroundings) (args : List String) : Outcome :=
  runWith (Command.scanPath env.tree) env args

end Invocation

end SourceStyle
