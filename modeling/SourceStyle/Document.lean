import SourceStyle.Json
import SourceStyle.Text.Quoted

/-!
# Report documents

A report in its JSON form, written out as plain text or as a web page. A member that has to be there
and is not, or that is of a kind that cannot be written where it stands, is an error, the first one in
the order of writing.
-/

namespace SourceStyle

namespace Document

/-- Why a report cannot be written. -/
inductive Error where
  | missing (key : String)
  /-- A value of a kind that has no members under names. -/
  | noMembers (kind : Json.Kind)
  /-- A value of a kind that has nothing to list. -/
  | noItems (kind : Json.Kind)
  | noNumber (kind : Json.Kind)
  | tooLarge
  deriving DecidableEq

def Error.message : Error → String
  | missing key => quoted key
  | noMembers .str => "string indices must be integers, not 'str'"
  | noMembers .arr => "list indices must be integers or slices, not str"
  | noMembers kind => s!"'{kind.name}' object is not subscriptable"
  | noItems kind => s!"'{kind.name}' object is not iterable"
  | noNumber .str => "Unknown format code 'f' for object of type 'str'"
  | noNumber kind => s!"unsupported format string passed to {kind.name}.__format__"
  | tooLarge => "int too large to convert to float"

def require (j : Json) (key : String) : Except Error Json :=
  match j with
  | .obj members =>
    match Keyed.find? members key with
    | some v => .ok v
    | none => .error (.missing key)
  | v => .error (.noMembers v.kind)

/-- The number format of documents. -/
def numberStyle : Decimal.Style := { Json.numberStyle with infinite := "inf", notANumber := "nan" }

mutual

/-- A value inside another one: texts are quoted. -/
def nested : Json → String
  | .null => "None"
  | .bool b => if b then "True" else "False"
  | .int n => toString n
  | .float x => numberStyle.number x
  | .str s => quoted s
  | .arr items => "[" ++ ", ".intercalate (nestedItems items) ++ "]"
  | .obj members => "\x7b" ++ ", ".intercalate (nestedMembers members) ++ "\x7d"

def nestedItems : List Json → List String
  | [] => []
  | v :: vs => nested v :: nestedItems vs

def nestedMembers : List (String × Json) → List String
  | [] => []
  | (k, v) :: ms => (quoted k ++ ": " ++ nested v) :: nestedMembers ms

end

/-- A value in running text. -/
def plain : Json → String
  | .str s => s
  | v => nested v

/-- Whole numbers from here on, on either side of zero, have no nearest double. -/
@[irreducible] def tooLargeFrom : Nat := Nat.pow 2 1024 - Nat.pow 2 970

/-- A rate in percent with one place. -/
def percent : Json → Except Error String
  | .bool b => .ok (if b then "1.0" else "0.0")
  | .int n =>
    if n.natAbs < tooLargeFrom then .ok (numberStyle.onePlace (Float.ofInt n)) else .error .tooLarge
  | .float x => .ok (numberStyle.onePlace x)
  | v => .error (.noNumber v.kind)

/-- What a member of an object lists, nothing if there is no such member. A text lists its
characters and an object its keys. -/
def listed (j : Json) (key : String) : Except Error (List Json) :=
  match j.get? key with
  | none => .ok []
  | some (.arr vs) => .ok vs
  | some (.str s) => .ok (s.toList.map fun c => .str (String.singleton c))
  | some (.obj members) => .ok (members.map fun (k, _) => .str k)
  | some v => .error (.noItems v.kind)

/-- A member of an object in running text. -/
def member (j : Json) (key : String) : Except Error String := (require j key).map plain

/-- The figures at the head of a document. -/
def figures (summary : Json) : Except Error (List String) := do
  let total ← member summary "total_files"
  let ok ← member summary "ok_files"
  let major ← member summary "major_files"
  let minor ← member summary "minor_files"
  let rate ← percent (← require summary "success_rate")
  return [s!"Total Files: {total}", s!"OK Files: {ok}", s!"Files with Major Violations: {major}",
    s!"Files with Minor Violations: {minor}", s!"Success Rate: {rate}%"]

/-! ## Plain text -/

def unlines (lines : List String) : String := "\n".intercalate lines

def fileLine (file : Json) : Except Error String := do
  let path ← member file "filepath"
  let status ← member file "status"
  let count ← member file "violation_count"
  return s!"{path}: {status} ({count})"

def text (report : Json) : Except Error String := do
  let summary ← require report "summary"
  let figures ← figures summary
  let total ← member summary "total_violations"
  let files ← (← listed report "files").mapM fileLine
  let recommendations ← listed report "recommendations"
  return unlines (
    ["CODING STYLE REPORT", String.ofList (List.replicate 50 '='), "", "SUMMARY:"] ++ figures ++
    [s!"Total Violations: {total}", "", "FILES:"] ++ files ++ ["", "RECOMMENDATIONS:"] ++
    recommendations.map fun r => "- " ++ plain r)

/-! ## Web page -/

def pageHead : List String := [
  "",
  "    <!DOCTYPE html>",
  "    <html>",
  "    <head>",
  "        <title>Coding Style Report</title>",
  "        <style>",
  "            body \x7b font-family: Arial, sans-serif; margin: 40px; \x7d",
  "            .summary \x7b background: #f5f5f5; padding: 20px; border-radius: 5px; \x7d",
  "            td, th \x7b padding: 4px 12px; text-align: left; \x7d",
  "        </style>",
  "    </head>",
  "    <body>",
  "        <h1>Coding Style Report</h1>",
  "        <div class=\"summary\">",
  "            <h2>Summary</h2>"]

def tableHead : List String := [
  "        </div>",
  "        <h2>Files</h2>",
  "        <table>",
  "            <tr><th>File</th><th>Status</th><th>Violations</th></tr>",
  "    "]

def listHead : List String := [
  "",
  "        </table>",
  "        <h2>Recommendations</h2>",
  "        <ul>",
  "    "]

def pageEnd : List String := [
  "",
  "        </ul>",
  "    </body>",
  "    </html>",
  "    "]

def fileRow (file : Json) : Except Error String := do
  let path ← member file "filepath"
  let status ← member file "status"
  let count ← member file "violation_count"
  return s!"<tr><td>{path}</td><td>{status}</td><td>{count}</td></tr>"

/-- The report as a web page. Texts go into the page as they are. -/
def html (report : Json) : Except Error String := do
  let summary ← require report "summary"
  let figures ← figures summary
  let rows ← (← listed report "files").mapM fileRow
  let recommendations ← listed report "recommendations"
  return unlines (pageHead ++ figures.map (fun f => s!"            <p>{f}</p>") ++ tableHead) ++
    String.join rows ++ unlines listHead ++
    String.join (recommendations.map fun r => s!"<li>{plain r}</li>") ++ unlines pageEnd

end Document

end SourceStyle
