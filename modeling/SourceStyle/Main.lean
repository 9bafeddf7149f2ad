import SourceStyle.Command.Run

/-!
# The program

The files to look at are named on standard input, one path a line; a path that ends in a slash names
a directory. They are read before the command runs and those that the command changes are written
after it. There is no network, so the dashboard cannot be started.
-/

namespace SourceStyle

/-- The names that lead from the root to what a path names, if it does not go up on the way. -/
def FileTree.namesOf? (tree : FileTree) (p : Path) : Option (List Text) :=
  if p.names.elem ['.', '.'] then none
  else some (if p.root.isEmpty then tree.current ++ p.names else p.names)

/-- The tree with what a path names. A path that goes up and a file that is not there are left
out. -/
def addNamed (tree : FileTree) (path : String) : IO FileTree := do
  let some names := tree.namesOf? (Path.ofString path) | return tree
  if path.endsWith "/" then
    return tree.addDirectory names
  try
    let bytes ← IO.FS.readBinFile path
    return tree.addFile names bytes.toList
  catch
    | .permissionDenied .. => return tree.addEntry names .lockedFile
    | _ => return tree

/-- The tree of the paths on a stream. -/
partial def readTree (input : IO.FS.Stream) (tree : FileTree) : IO FileTree := do
  let line ← input.getLine
  if line.isEmpty then
    return tree
  let path := String.ofList (line.toList.filter (· ≠ '\n'))
  readTree input (← addNamed tree path)

/-- Write the files that are not the same in both trees. -/
def writeChanges (before after : FileTree) : IO Unit :=
  after.entries.forM fun (names, entry) => do
    match entry with
    | .file bytes =>
      unless before.entry? names = some entry do
        IO.FS.writeBinFile (Path.mk ['/'] names).toString (ByteArray.mk bytes.toArray)
    | _ => return

end SourceStyle

open SourceStyle in
def main (args : List String) : IO UInt32 := do
  let current := (Path.ofString (← IO.currentDir).toString).names
  let tree ← readTree (← IO.getStdin) (FileTree.addDirectory { current } current)
  let outcome := Invocation.run { tree, server := .failed "no network" } args
  writeChanges tree outcome.tree
  outcome.err.forM fun line => IO.eprintln line
  outcome.out.forM fun line => IO.println line
  (outcome.console.flatMap ConsoleItem.lines).forM fun line => IO.println line
  if let some e := outcome.error then
    IO.eprintln e.message
  return outcome.exit.toUInt32
