import SourceStyle.Scanner

/-!
# What a session holds

A scan that gives results also stores them, with one exception: the scan of a directory that does not
exist gives no results and stores nothing (`call_eq_ok_iff`). So after any operations, on whatever
trees, a session holds the results that were stored last (`run_eq`), and after the exception it still
holds those of an earlier scan, if there was one (`call_stores_iff`).
-/

namespace SourceStyle

namespace Scanner

variable {s : Scanner} {tree : FileTree} {d : String} {recursive : Bool}

theorem scanDirectory_eq_none_iff :
    s.scanDirectory tree d recursive = .ok none
      ↔ tree.directory? (Path.ofString d).toString = .ok none := by
  unfold scanDirectory
  rcases hd : tree.directory? (Path.ofString d).toString with e | - | place
  · simp only [hd, reduceCtorEq]
  · simp only [hd]
  · simp only [hd, Except.ok.injEq, reduceCtorEq, iff_false]
    rcases s.filesToScan tree (Path.ofString d) place recursive with e | files
    · simp [bind, Except.bind]
    · rcases hresults : files.mapM fun p => s.scanFile tree p.toString with e | results
      · simp [bind, Except.bind, hresults]
      · simp [bind, Except.bind, hresults, pure, Except.pure]

end Scanner

namespace Session

/-- A call that scans and stores what it finds. -/
inductive Scan where
  | directory (target : String) (recursive : Bool)
  | path (target : String) (recursive : Bool)

namespace Scan

/-- The results of a call and the session after it. -/
def call (s : Session) (tree : FileTree) : Scan → Except Scanner.Error (List FileResult × Session)
  | directory target recursive => s.scanDirectory tree target recursive
  | path target recursive => s.scanPath tree target recursive

/-- The scan of a directory that does not exist. -/
def Misses (tree : FileTree) : Scan → Prop
  | directory target _ => tree.directory? (Path.ofString target).toString = .ok none
  | path _ _ => False

/-- The results that a call stores, if it stores any. -/
def stored (s : Scanner) (tree : FileTree) : Scan → Option (List FileResult)
  | directory target recursive => (s.scanDirectory tree target recursive).toOption.join
  | path target recursive =>
    (s.scanDirectory tree target recursive).toOption.bind fun found =>
      found.or ((s.scanFile tree target).toOption.map ([·]))

theorem call_eq_ok_iff {s s' : Session} {tree : FileTree} {results : List FileResult} {c : Scan} :
    c.call s tree = .ok (results, s')
      ↔ c.stored s.scanner tree = some results ∧ s' = { s with results }
        ∨ c.Misses tree ∧ results = [] ∧ s' = s := by
  have hstore : ∀ found, (Except.ok (found, { s with results := found }) : Except Scanner.Error _)
      = .ok (results, s') ↔ some found = some results ∧ s' = { s with results } := by
    intro found
    rw [Except.ok.injEq, Prod.mk.injEq, Option.some.injEq]
    refine and_congr_right fun h => ?_
    rw [h, eq_comm]
  cases c with
  | directory target recursive =>
    have hmisses : (directory target recursive).Misses tree
        ↔ s.scanner.scanDirectory tree target recursive = .ok none :=
      Scanner.scanDirectory_eq_none_iff.symm
    rw [hmisses, call, stored, scanDirectory]
    rcases s.scanner.scanDirectory tree target recursive with e | - | found
    · simp [bind, Except.bind, Except.toOption]
    · simp [bind, Except.bind, Except.toOption, pure, Except.pure, eq_comm]
    · exact (hstore found).trans (by simp [Except.toOption])
  | path target recursive =>
    rw [call, stored, scanPath]
    simp only [Misses, false_and, or_false]
    rcases s.scanner.scanDirectory tree target recursive with e | - | found
    · simp [bind, Except.bind, Except.toOption]
    · rcases s.scanner.scanFile tree target with e | r
      · simp [bind, Except.bind, Except.toOption]
      · exact hstore [r]
    · exact hstore found

theorem stored_of_misses {tree : FileTree} {c : Scan} (s : Scanner) (h : c.Misses tree) :
    c.stored s tree = none := by
  cases c with
  | directory target recursive =>
    rw [stored, Scanner.scanDirectory_eq_none_iff.2 h]
    rfl
  | path target recursive => exact h.elim

end Scan

/-! ## Operations one after the other -/

/-- What can be asked of a session. -/
inductive Operation where
  | scan (c : Scan)
  | file (path : String)
  | text (t : Text)
  | summary
  | filter (status rule : String)

/-- The session after an operation. Only a scan that succeeds changes it. -/
def after (s : Session) (tree : FileTree) : Operation → Session
  | .scan c =>
    match c.call s tree with
    | .ok (_, s') => s'
    | .error _ => s
  | _ => s

/-- The session after operations, each with the tree that it finds. -/
def run (s : Session) (ops : List (FileTree × Operation)) : Session :=
  ops.foldl (fun s op => s.after op.1 op.2) s

def Operation.stored (s : Scanner) (tree : FileTree) : Operation → Option (List FileResult)
  | .scan c => c.stored s tree
  | _ => none

/-- The results that are stored last. -/
def lastStored (s : Scanner) (ops : List (FileTree × Operation)) : Option (List FileResult) :=
  (ops.filterMap fun op => op.2.stored s op.1).getLast?

theorem after_eq (s : Session) (tree : FileTree) (op : Operation) :
    s.after tree op = { s with results := (op.stored s.scanner tree).getD s.results } := by
  cases op with
  | scan c =>
    rw [after, Operation.stored]
    rcases hcall : c.call s tree with e | ⟨results, s'⟩
    · rcases hstored : c.stored s.scanner tree with - | results
      · rfl
      · rw [Scan.call_eq_ok_iff.2 (.inl ⟨hstored, rfl⟩)] at hcall
        cases hcall
    · rcases Scan.call_eq_ok_iff.1 hcall with ⟨hstored, rfl⟩ | ⟨hmisses, -, rfl⟩
      · rw [hstored, Option.getD_some]
      · rw [Scan.stored_of_misses _ hmisses, Option.getD_none]
  | file path => rfl
  | text t => rfl
  | summary => rfl
  | filter status rule => rfl

/-- A session holds what was stored last. -/
theorem run_eq (ops : List (FileTree × Operation)) (s : Session) :
    s.run ops = { s with results := (lastStored s.scanner ops).getD s.results } := by
  induction ops generalizing s with
  | nil => rfl
  | cons op ops ih =>
    have hrun : s.run (op :: ops) = (s.after op.1 op.2).run ops := rfl
    rw [hrun, ih, after_eq, lastStored, lastStored, List.filterMap_cons]
    rcases op.2.stored s.scanner op.1 with - | results
    · rfl
    · simp only [Option.getD_some, List.getLast?_cons]

/-- After a scan a session holds its results and nothing else, except that the scan of a directory
that does not exist leaves the results of the last scan that was stored. -/
theorem call_stores_iff (scanner : Scanner) (ops : List (FileTree × Operation)) (tree : FileTree)
    (c : Scan) (results : List FileResult) (s' : Session)
    (h : c.call (run { scanner } ops) tree = .ok (results, s')) :
    (s' = { scanner, results } ↔ ¬c.Misses tree ∨ (lastStored scanner ops).getD [] = [])
    ∧ (c.Misses tree →
      results = [] ∧ s' = { scanner, results := (lastStored scanner ops).getD [] }) := by
  rw [run_eq] at h
  rcases Scan.call_eq_ok_iff.1 h with ⟨hstored, rfl⟩ | ⟨hmisses, rfl, rfl⟩
  · have hno : ¬c.Misses tree := by
      intro hmisses
      rw [Scan.stored_of_misses _ hmisses] at hstored
      cases hstored
    simp [hno]
  · simp [hmisses]

theorem call_stores_second_file :
    let tree := (({} : FileTree).addFile [['x', '.', 'c']] []).addFile [['y', '.', 'h']] [0x0a]
    let ops := [(tree, .scan (.path "x.c" true)), (tree, .summary), ({}, .scan (.path "x.c" true))]
    ∃ results s', (Scan.path "y.h" true).call (run { scanner := .standard } ops) tree
        = .ok (results, s')
      ∧ results.map FileResult.path = ["y.h"] ∧ s' = { scanner := .standard, results } := by
  intro tree ops
  obtain ⟨results, hstored, hpaths⟩ : ∃ results,
      (Scan.path "y.h" true).stored .standard tree = some results
        ∧ results.map FileResult.path = ["y.h"] := ⟨_, rfl, rfl⟩
  have hcall : (Scan.path "y.h" true).call (run { scanner := .standard } ops) tree
      = .ok (results, { scanner := .standard, results }) := by
    rw [run_eq]
    exact Scan.call_eq_ok_iff.2 (.inl ⟨hstored, rfl⟩)
  obtain ⟨hstores, -⟩ := call_stores_iff .standard ops tree (.path "y.h" true) results _ hcall
  exact ⟨results, _, hcall, hpaths, hstores.2 (.inl id)⟩

/-- The scan of a directory that does not exist gives nothing, and the result of a file that was
scanned before it is still there. -/
theorem missing_directory_keeps_results :
    let tree := ({} : FileTree).addFile [['x', '.', 'c']] []
    let s := run { scanner := .standard } [(tree, .scan (.path "x.c" true))]
    (Scan.directory "b" true).call s tree = .ok ([], s)
      ∧ s.results = [{ path := "x.c", status := .ok }] := by
  intro tree s
  have hs : s = { scanner := .standard, results := [{ path := "x.c", status := .ok }] } := by
    have hlast : lastStored .standard [(tree, .scan (.path "x.c" true))]
        = some [{ path := "x.c", status := .ok }] := by decide
    rw [show s = _ from run_eq _ _, hlast]
    rfl
  have hmisses : (Scan.directory "b" true).Misses tree := rfl
  exact ⟨Scan.call_eq_ok_iff.2 (.inr ⟨hmisses, rfl, rfl⟩), by rw [hs]⟩

end Session

end SourceStyle
