import SourceStyle.FileTree
import SourceStyle.Project.Entry
import SourceStyle.Text.LowerCase
import SourceStyle.Wildcard

/-!
# Projects

A project gathers the results of files, one for each path. A later result of a path takes the place
of the earlier one. Files are filtered, grouped and searched in the order in which their paths first
came.
-/

namespace SourceStyle

structure Project where
  entries : Keyed String FileEntry := []
  results : Keyed String FileResult := []

namespace Project

def files (p : Project) : List FileEntry := p.entries.values

/-- The lines of a file, of its content if that is given and otherwise of the file in the tree. A
file that cannot be read has none; what is no path at all is an error. -/
def countLines (tree : FileTree) (path : String) (content : Option Text) :
    Except FileTree.Error Nat :=
  match content with
  | some t => .ok (LineBreak.count t)
  | none =>
    match tree.readText path with
    | .ok t => .ok (LineBreak.count t)
    | .error (.access .notAPath) => .error .notAPath
    | .error _ => .ok 0

/-- Add the result of a file. The result is kept even if the lines of the file cannot be counted. -/
def add (p : Project) (tree : FileTree) (r : FileResult) (content : Option Text) :
    Project × Except FileTree.Error Unit :=
  let p := { p with results := p.results.insert r.path r }
  match countLines tree r.path content with
  | .error e => (p, .error e)
  | .ok n => ({ p with entries := p.entries.insert r.path (.ofResult r n) }, .ok ())

/-- The project of some results, up to the first one whose lines cannot be counted. -/
def addAll (p : Project) (tree : FileTree) : List FileResult → Project × Except FileTree.Error Unit
  | [] => (p, .ok ())
  | r :: rs =>
    match p.add tree r none with
    | (p, .ok ()) => p.addAll tree rs
    | (p, .error e) => (p, .error e)

/-! ## Filters, groups and search -/

/-- What files to keep. An empty rule or pattern keeps all. -/
structure Filter where
  grade : Option Grade := none
  rule : String := ""
  least : Option Int := none
  most : Option Int := none
  /-- Wildcards for the name, letters counting the same in both cases. -/
  pattern : String := ""

def Filter.keeps (q : Filter) (f : FileEntry) : Bool :=
  q.grade.all (f.grade = ·) && (q.rule.isEmpty || f.hasRule q.rule) &&
    q.least.all (· ≤ (f.violationCount : Int)) && q.most.all ((f.violationCount : Int) ≤ ·) &&
    (q.pattern.isEmpty ||
      Wildcard.fits (Wildcard.parse (Text.toLower q.pattern.toList)) (Text.toLower f.name.toList))

def filter (p : Project) (q : Filter) : List FileEntry := p.files.filter q.keeps

/-- The files of each grade, in the order of the grades. -/
def byGrade (p : Project) : Keyed Grade (List FileEntry) :=
  p.files.foldl (fun groups f => groups.alter f.grade fun fs => fs.getD [] ++ [f])
    (Grade.all.map (·, []))

/-- The files that break each rule, in the order in which the rules come up. -/
def byRule (p : Project) : Keyed String (List FileEntry) :=
  p.files.foldl (fun groups f =>
    f.rules.foldl (fun groups rule => groups.alter rule fun fs => fs.getD [] ++ [f]) groups) []

/-- Whether the query is part of the path or of the name of a broken rule, in any case. -/
def found (query : String) (f : FileEntry) : Bool :=
  let query := Text.toLower query.toList
  (Text.toLower f.path.toList).contains query ||
    f.ruleCounts.keys.any fun rule => (Text.toLower rule.toList).contains query

def search (p : Project) (query : String) : List FileEntry := p.files.filter (found query)

end Project

end SourceStyle
