import SourceStyle.Keyed
import SourceStyle.Path
import SourceStyle.Text.LineBreak
import SourceStyle.Text.Quoted
import SourceStyle.Text.Utf8

/-!
# File trees

A file tree is what a program finds on its machine: directories and files, each under the names that
lead to it from the root. Paths are followed name by name, from the root or from the current
directory of the program. A file or a directory that the program has no right to open is there too,
but it cannot be read, and nothing can be seen below it.
-/

namespace SourceStyle

inductive FileTree.Entry where
  | directory
  | file (bytes : List UInt8)
  | lockedDirectory
  | lockedFile
  deriving DecidableEq

structure FileTree where
  entries : Keyed (List Text) FileTree.Entry := []
  /-- The names that lead from the root to the current directory. -/
  current : List Text := []

namespace FileTree

def Entry.isDirectory : Entry → Bool
  | directory | lockedDirectory => true
  | file _ | lockedFile => false

/-- Whether the program has the right to open what stands here. -/
def Entry.isOpen : Entry → Bool
  | directory | file _ => true
  | lockedDirectory | lockedFile => false

/-- Why a path leads to nothing that can be used. -/
inductive Error where
  | notFound
  | notADirectory
  | isADirectory
  | nameTooLong
  | denied
  /-- The path has a NUL character. -/
  | notAPath
  deriving DecidableEq

/-- The words of the operating system for an error at a path. -/
def Error.message (path : String) : Error → String
  | denied => s!"[Errno 13] Permission denied: {quoted path}"
  | notFound => s!"[Errno 2] No such file or directory: {quoted path}"
  | notADirectory => s!"[Errno 20] Not a directory: {quoted path}"
  | isADirectory => s!"[Errno 21] Is a directory: {quoted path}"
  | nameTooLong => s!"[Errno 36] File name too long: {quoted path}"
  | notAPath => "embedded null byte"

/-- What stands under some names. No names stand for the root. -/
def entry? (tree : FileTree) (names : List Text) : Option Entry :=
  if names.isEmpty then some .directory else tree.entries.find? names

/-- Follow names from a place in the tree. -/
def walk (tree : FileTree) (place : List Text) : List Text → Except Error (List Text)
  | [] => .ok place
  | n :: names =>
    match tree.entry? place with
    | none => .error .notFound
    | some (.file _) | some .lockedFile => .error .notADirectory
    | some .lockedDirectory => if n.isEmpty then tree.walk place names else .error .denied
    | some .directory =>
      if n.isEmpty || n == ['.'] then tree.walk place names
      else if n = ['.', '.'] then tree.walk place.dropLast names
      else if 255 < (Utf8.encode n).length then .error .nameTooLong
      else if (tree.entry? (place ++ [n])).isNone then .error .notFound
      else tree.walk (place ++ [n]) names

/-- The names of a path to follow, for a path that can be followed at all. -/
def namesToFollow (path : String) : Except Error (List Text) :=
  let t : Text := path.toList
  if t.contains ['\x00'] then .error .notAPath
  else if 4096 ≤ (Utf8.encode t).length then .error .nameTooLong
  else if t.isEmpty then .error .notFound
  else .ok (t.pieces '/')

/-- The place from which a path is followed: the root for one that starts with a slash, the current
directory for any other. -/
def startOf (tree : FileTree) (path : String) : List Text :=
  if path.toList.head? = some '/' then [] else tree.current

/-- The place that a path leads to. -/
def resolve (tree : FileTree) (path : String) : Except Error (List Text) :=
  match namesToFollow path with
  | .error e => .error e
  | .ok names => tree.walk (tree.startOf path) names

/-- The errors that do not mean that there is nothing at the path. -/
def Error.isRaised : Error → Bool
  | nameTooLong | denied => true
  | notFound | notADirectory | isADirectory | notAPath => false

/-- The place of a directory, if the path leads to one. -/
def directory? (tree : FileTree) (path : String) : Except Error (Option (List Text)) :=
  match tree.resolve path with
  | .ok place => .ok (if (tree.entry? place).any Entry.isDirectory then some place else none)
  | .error e => if e.isRaised then .error e else .ok none

/-- Whether a path leads to a file. -/
def isFile (tree : FileTree) (path : String) : Except Error Bool :=
  match tree.resolve path with
  | .ok place => .ok ((tree.entry? place).any fun entry => !entry.isDirectory)
  | .error e => if e.isRaised then .error e else .ok false

def readBytes (tree : FileTree) (path : String) : Except Error (List UInt8) :=
  match tree.resolve path with
  | .error e => .error e
  | .ok place =>
    match tree.entry? place with
    | some (.file bytes) => .ok bytes
    | some .directory => .error .isADirectory
    | some .lockedDirectory | some .lockedFile => .error .denied
    | none => .error .notFound

/-- Why a file gives no text. -/
inductive ReadError where
  | access (e : Error)
  | encoding (f : Utf8.Fault)

/-- The text of a file, with every line end as a newline. -/
def readText (tree : FileTree) (path : String) : Except ReadError Text :=
  match tree.readBytes path with
  | .error e => .error (.access e)
  | .ok bytes =>
    match Utf8.decode bytes with
    | .error f => .error (.encoding f)
    | .ok t => .ok (LineBreak.unify t)

/-- The names that lead from a place down to all that stands below it, or right in it. -/
def namesBelow (tree : FileTree) (place : List Text) (recursive : Bool) : List (List Text) :=
  tree.entries.keys.filterMap fun names =>
    let rest := names.drop place.length
    if place.isPrefixOf names && !rest.isEmpty && (recursive || rest.length == 1) then some rest
    else none

/-- The tree with a file written at a path. A directory is never replaced, and what leads to the
file has to be there. A path that ends in a slash stands for a directory, whether there is one or
not. -/
def write (tree : FileTree) (path : String) (bytes : List UInt8) : Except Error FileTree := do
  let names ← namesToFollow path
  let kept := (names.reverse.dropWhile List.isEmpty).reverse
  let place ← tree.walk (tree.startOf path) kept.dropLast
  match tree.entry? place with
  | some .directory => pure ()
  | some .lockedDirectory => throw .denied
  | _ => throw .notADirectory
  let last := kept.getLast?.getD []
  if kept.length < names.length || last == ['.'] || last == ['.', '.'] then
    throw .isADirectory
  if 255 < (Utf8.encode last).length then
    throw .nameTooLong
  match tree.entry? (place ++ [last]) with
  | some .directory | some .lockedDirectory => throw .isADirectory
  | some .lockedFile => throw .denied
  | _ => return { tree with entries := tree.entries.insert (place ++ [last]) (.file bytes) }

/-! ## Building trees -/

/-- The tree with a directory at each step from a place along some names. -/
def addDirectoriesFrom (tree : FileTree) (place : List Text) : List Text → FileTree
  | [] => tree
  | n :: names =>
    addDirectoriesFrom
      { tree with entries := tree.entries.alter (place ++ [n]) fun old => old.getD .directory }
      (place ++ [n]) names

def addDirectory (tree : FileTree) (names : List Text) : FileTree :=
  tree.addDirectoriesFrom [] names

/-- The tree with something under some names, and with the directories that lead to it. -/
def addEntry (tree : FileTree) (names : List Text) (entry : Entry) : FileTree :=
  { tree with entries := (tree.addDirectory names.dropLast).entries.insert names entry }

def addFile (tree : FileTree) (names : List Text) (bytes : List UInt8) : FileTree :=
  tree.addEntry names (.file bytes)

/-- The tree without what stands under some names or below. -/
def remove (tree : FileTree) (names : List Text) : FileTree :=
  { tree with entries := tree.entries.filter fun (other, _) => !names.isPrefixOf other }

end FileTree

end SourceStyle
