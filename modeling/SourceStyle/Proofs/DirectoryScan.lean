import SourceStyle.Proofs.FileScan
import SourceStyle.Proofs.Trees

/-!
# The scan of a directory

All that stands below a directory is looked up, each under its own path, and then the files with one of
the extensions are scanned. If none of these paths is too long and no text is refused, the results are
those of exactly these files, in strictly rising order of their names, and those right in the directory
are the results of a scan that does not go deeper. A path that is too long breaks off the whole scan, and
so does a text that is refused, for settings out of range (`scanDirectory_covers_iff`).
-/

namespace SourceStyle

/-- A map that fails for an item fails for one of the reasons that the items have. -/
theorem mapM_eq_error {α β ε : Type} {f : α → Except ε β} {P : ε → Prop} : ∀ {l : List α},
    (∀ a ∈ l, ∀ e, f a = .error e → P e) → (∃ a ∈ l, ∃ e, f a = .error e) →
      ∃ e, P e ∧ l.mapM f = .error e
  | [], _, ⟨a, ha, _⟩ => by simp at ha
  | a :: l, hP, hfails => by
    rw [List.mapM_cons]
    rcases ha : f a with e | b
    · exact ⟨e, hP a List.mem_cons_self e ha, rfl⟩
    · have hrest : ∃ a ∈ l, ∃ e, f a = .error e := by simpa [ha] using hfails
      obtain ⟨e, he, hl⟩ := mapM_eq_error (fun x hx => hP x (List.mem_cons_of_mem a hx)) hrest
      refine ⟨e, he, ?_⟩
      rw [hl]
      rfl

namespace FileTree

variable {tree : FileTree}

theorem directory?_eq_error_iff {path : String} {e : Error} :
    tree.directory? path = .error e ↔ tree.resolve path = .error e ∧ e.isRaised = true := by
  unfold directory?
  rcases tree.resolve path with e' | place
  · cases e' <;> simp [Error.isRaised] <;> rintro rfl <;> rfl
  · simp

/-- Something below a directory, or right in it, whose own path is too long to be looked up. -/
def Overlong (tree : FileTree) (p : Path) (place : List Text) (recursive : Bool) : Prop :=
  ∃ names, tree.Stands place recursive names
    ∧ 4096 ≤ (Utf8.encode (p.below names).toText).length

/-- A path that cannot be looked up, too long itself or through a directory that is locked, or one of a
directory with something below whose path is too long. -/
def Blocked (tree : FileTree) (d : String) (recursive : Bool) : Prop :=
  (∃ e, tree.directory? (Path.ofString d).toString = .error e)
    ∨ ∃ place, tree.directory? (Path.ofString d).toString = .ok (some place)
      ∧ tree.Overlong (Path.ofString d) place recursive

instance (tree : FileTree) (p : Path) (place : List Text) (recursive : Bool) :
    Decidable (tree.Overlong p place recursive) :=
  decidable_of_iff (∃ names ∈ tree.namesBelow place recursive,
      4096 ≤ (Utf8.encode (p.below names).toText).length) <| by
    simp only [mem_namesBelow_iff, Overlong]

/-- The own path of what exists can be looked up. -/
theorem blocked_iff {path : String} {place : List Text} {recursive : Bool}
    (htree : tree.WellFormed) (h : tree.resolve path = .ok place) :
    tree.Blocked path recursive
      ↔ tree.entry? place = some .directory
        ∧ tree.Overlong (Path.ofString path) place recursive := by
  have hsome : tree.Blocked path recursive ↔ (tree.entry? place).any Entry.isDirectory = true
      ∧ tree.Overlong (Path.ofString path) place recursive := by
    unfold Blocked
    simp [directory?_eq_error_iff, directory?_eq_some_iff, resolve_ofString htree h, and_assoc]
  rw [hsome]
  refine and_congr_left fun ⟨names, ⟨hne, _, hs⟩, _⟩ => ?_
  have hplace := htree.directory_of_below hne hs
  simp [hplace, Entry.isDirectory]

end FileTree

namespace Scanner

variable {s : Scanner} {tree : FileTree}

/-! ## Looking up paths -/

theorem keepFiles_eq_ok {α : Type} (path : α → Path) {isFile : α → Bool} : ∀ {l : List α},
    (∀ a ∈ l, tree.isFile (path a).toString = .ok (isFile a)) →
    s.keepFiles tree (l.map path)
      = .ok ((l.filter fun a => isFile a && (path a).suffix ∈ s.extensions).map path)
  | [], _ => rfl
  | a :: l, h => by
    have ih := keepFiles_eq_ok path fun b hb => h b (List.mem_cons_of_mem a hb)
    simp only [List.map_cons, keepFiles, h a List.mem_cons_self, ih, Except.map, List.filter_cons]
    split_ifs <;> rfl

theorem keepFiles_eq_error : ∀ {paths : List Path} {p : Path},
    (∀ q ∈ paths, ∀ e, tree.isFile q.toString = .error e → e = .nameTooLong) → p ∈ paths →
    tree.isFile p.toString = .error .nameTooLong →
    ∃ path, s.keepFiles tree paths = .error (.access path .nameTooLong)
  | q :: paths, p, hall, hp, h => by
    rcases hq : tree.isFile q.toString with e | isFile
    · obtain rfl := hall q List.mem_cons_self e hq
      exact ⟨q.toString, by simp only [keepFiles, hq]⟩
    · rcases List.mem_cons.1 hp with rfl | hp
      · rw [hq] at h
        cases h
      · obtain ⟨path, hpath⟩ :=
          keepFiles_eq_error (fun r hr => hall r (List.mem_cons_of_mem q hr)) hp h
        exact ⟨path, by simp only [keepFiles, hq, hpath, Except.map]⟩

/-! ## All that stands below a directory -/

variable {p : Path} {place : List Text} {recursive : Bool}

theorem isFile_of_short (htree : tree.WellFormed) (hp : tree.Opens p place)
    (hshort : ¬tree.Overlong p place recursive) {names : List Text}
    (h : tree.Stands place recursive names) :
    tree.isFile (p.below names).toString
      = .ok ((tree.entry? (place ++ names)).any fun entry => !entry.isDirectory) := by
  rw [hp.isFile_below htree h.2.2, if_neg fun hlong => hshort ⟨names, h, hlong⟩]

/-- The names that lead from a place to each file that is wanted, in order. -/
def wanted (s : Scanner) (tree : FileTree) (place : List Text) (recursive : Bool) :
    List (List Text) :=
  ((tree.namesBelow place recursive).mergeSort Path.namesLE).filter fun names =>
    ((tree.entry? (place ++ names)).any fun entry => !entry.isDirectory)
      && s.extensions.contains (Path.suffixOf (names.getLast?.getD []))

theorem pairwise_wanted (htree : tree.WellFormed) :
    (s.wanted tree place recursive).Pairwise (· < ·) :=
  (Path.pairwise_mergeSort (htree.nodup_namesBelow recursive)).filter _

theorem mem_wanted_iff {names : List Text} :
    names ∈ s.wanted tree place recursive
      ↔ names ≠ [] ∧ (recursive = true ∨ names.length = 1)
        ∧ (∃ entry, tree.entry? (place ++ names) = some entry ∧ entry.isDirectory = false)
        ∧ Path.suffixOf (names.getLast?.getD []) ∈ s.extensions := by
  simp only [wanted, List.mem_filter, List.mem_mergeSort, FileTree.mem_namesBelow_iff,
    FileTree.Stands, Bool.and_eq_true, List.contains_iff_mem]
  rcases tree.entry? (place ++ names) with - | entry <;> simp [and_assoc]

theorem suffix_below {names : List Text} (hne : names ≠ []) :
    (p.below names).suffix = Path.suffixOf (names.getLast?.getD []) := by
  simp [Path.suffix, Path.name, Path.below, List.getLast?_append, List.getLast?_eq_some_getLast hne]

theorem filesToScan_eq_ok (htree : tree.WellFormed) (hp : tree.Opens p place)
    (hshort : ¬tree.Overlong p place recursive) :
    s.filesToScan tree p place recursive
      = .ok ((s.wanted tree place recursive).map p.below) := by
  have hstands : ∀ names ∈ (tree.namesBelow place recursive).mergeSort Path.namesLE,
      tree.Stands place recursive names := by
    intro names hnames
    rwa [List.mem_mergeSort, FileTree.mem_namesBelow_iff] at hnames
  unfold filesToScan wanted
  rw [keepFiles_eq_ok p.below fun names hnames =>
    isFile_of_short htree hp hshort (hstands names hnames)]
  refine congrArg (fun l => Except.ok (l.map p.below)) (List.filter_congr fun names hnames => ?_)
  rw [suffix_below (hstands names hnames).1, List.contains_eq_mem]

theorem filesToScan_eq_error (htree : tree.WellFormed) (hp : tree.Opens p place)
    (hlong : tree.Overlong p place recursive) :
    ∃ path, s.filesToScan tree p place recursive = .error (.access path .nameTooLong) := by
  obtain ⟨names, hstands, hnames⟩ := hlong
  refine keepFiles_eq_error (p := p.below names) (fun q hq e he => ?_) (List.mem_map_of_mem ?_) ?_
  · -- what stands below the directory is found, so only its length can stop the look-up
    obtain ⟨below, hbelow, rfl⟩ := List.mem_map.1 hq
    rw [List.mem_mergeSort, FileTree.mem_namesBelow_iff] at hbelow
    rw [hp.isFile_below htree hbelow.2.2] at he
    split_ifs at he
    exact (Except.error.inj he).symm
  · rwa [List.mem_mergeSort, FileTree.mem_namesBelow_iff]
  · rw [hp.isFile_below htree hstands.2.2, if_pos hnames]

/-! ## Results -/

/-- A result that is the own one of the path with some names below `p`. -/
structure ResultAt (s : Scanner) (tree : FileTree) (p : Path) (names : List Text) (r : FileResult) :
    Prop where
  path : r.path = (p.below names).toString
  noNul : '\x00' ∉ r.path.toList
  ofString : Path.ofString r.path = p.below names
  eligible : s.isEligible r.path = true
  scanFile : s.scanFile tree r.path = .ok r
  scanned : r.Scanned

theorem noNul_of_wanted (htree : tree.WellFormed) (hp : tree.Opens p place) {names : List Text}
    (h : names ∈ s.wanted tree place recursive) : '\x00' ∉ (p.below names).toString.toList := by
  obtain ⟨-, -, ⟨entry, hentry, -⟩, -⟩ := mem_wanted_iff.1 h
  exact hp.noNul_toString htree (by simp [hentry])

theorem exists_resultAt (htree : tree.WellFormed) (hp : tree.Opens p place) {names : List Text}
    (h : names ∈ s.wanted tree place recursive)
    (hchecked : ¬s.Refuses tree (p.below names).toString) :
    ∃ r, s.scanFile tree (p.below names).toString = .ok r ∧ s.ResultAt tree p names r := by
  obtain ⟨hne, -, ⟨entry, hentry, -⟩, hsuffix⟩ := mem_wanted_iff.1 h
  have hs : (tree.entry? (place ++ names)).isSome := by simp [hentry]
  have hnul := noNul_of_wanted htree hp h
  obtain ⟨r, hr, hpath, hscanned⟩ := exists_scanFile hnul hchecked
  have hof : Path.ofString r.path = p.below names := by
    rw [hpath, Path.ofString_toString (hp.normal_below htree hs)]
  have heligible : s.isEligible r.path = true := by
    rw [isEligible, hof, suffix_below hne]
    exact decide_eq_true hsuffix
  exact ⟨r, hr, hpath, by rwa [hpath], hof, heligible, by rw [hpath, hr], hscanned⟩

/-- The scan of a file below a directory fails only because its text is refused. -/
theorem exists_eq_length_of_wanted (htree : tree.WellFormed) (hp : tree.Opens p place)
    {names : List Text} (h : names ∈ s.wanted tree place recursive) {e : Error}
    (he : s.scanFile tree (p.below names).toString = .error e) :
    ∃ reason, e = .checks (.length reason) := by
  by_cases hrefuses : s.Refuses tree (p.below names).toString
  · obtain ⟨reason, hreason⟩ := scanFile_of_refuses hrefuses
    rw [hreason] at he
    exact ⟨reason, (Except.error.inj he).symm⟩
  · obtain ⟨r, hr, -⟩ := exists_resultAt htree hp h hrefuses
    rw [hr] at he
    cases he

theorem ResultAt.unique {names : List Text} {r r' : FileResult} (h : s.ResultAt tree p names r)
    (h' : s.ResultAt tree p names r') : r = r' := by
  have hr := h.scanFile
  rw [h.path, ← h'.path, h'.scanFile] at hr
  exact (Except.ok.inj hr).symm

/-- The text of a file below a directory, or right in it, is refused by the checks. -/
def RefusesBelow (s : Scanner) (tree : FileTree) (p : Path) (place : List Text) (recursive : Bool) :
    Prop :=
  ∃ names ∈ s.wanted tree place recursive, s.Refuses tree (p.below names).toString

theorem not_refusesBelow_of_inRange (h : s.checks.limits.InRange) :
    ¬s.RefusesBelow tree p place recursive :=
  fun ⟨_, _, hrefuses⟩ => not_refuses_of_inRange h _ _ hrefuses

/-- A scan that no path breaks off scans the files one after the other. -/
theorem scanDirectory_eq_mapM {d : String} (htree : tree.WellFormed)
    (hd : tree.directory? (Path.ofString d).toString = .ok (some place))
    (hshort : ¬tree.Overlong (Path.ofString d) place recursive) :
    s.scanDirectory tree d recursive = (List.mapM (fun names =>
      s.scanFile tree ((Path.ofString d).below names).toString)
        (s.wanted tree place recursive)).map some := by
  unfold scanDirectory
  simp only [hd, filesToScan_eq_ok htree (FileTree.opens_of_directory? htree hd) hshort]
  exact congrArg (Except.map some) List.mapM_map

/-- What the scan of a directory gives. -/
theorem scanDirectory_cases {d : String} (htree : tree.WellFormed)
    (hd : tree.directory? (Path.ofString d).toString = .ok (some place)) (recursive : Bool) :
    (tree.Overlong (Path.ofString d) place recursive
        ∧ ∃ path, s.scanDirectory tree d recursive = .error (.access path .nameTooLong))
      ∨ (¬tree.Overlong (Path.ofString d) place recursive
        ∧ s.RefusesBelow tree (Path.ofString d) place recursive
        ∧ ∃ e, s.scanDirectory tree d recursive = .error (.checks (.length e)))
      ∨ ¬tree.Overlong (Path.ofString d) place recursive
        ∧ ¬s.RefusesBelow tree (Path.ofString d) place recursive
        ∧ ∃ results, s.scanDirectory tree d recursive = .ok (some results)
          ∧ List.Forall₂ (s.ResultAt tree (Path.ofString d)) (s.wanted tree place recursive)
            results := by
  have hp := FileTree.opens_of_directory? htree hd
  by_cases hlong : tree.Overlong (Path.ofString d) place recursive
  · obtain ⟨path, hpath⟩ := filesToScan_eq_error (s := s) htree hp hlong
    refine .inl ⟨hlong, path, ?_⟩
    unfold scanDirectory
    simp only [hd, hpath]
    rfl
  refine .inr ?_
  by_cases hrefuses : s.RefusesBelow tree (Path.ofString d) place recursive
  · refine .inl ⟨hlong, hrefuses, ?_⟩
    obtain ⟨-, ⟨e, rfl⟩, hfails⟩ := mapM_eq_error
      (f := fun names => s.scanFile tree ((Path.ofString d).below names).toString)
      (l := s.wanted tree place recursive) (P := fun e => ∃ reason, e = .checks (.length reason))
      (fun _ hnames _ he => exists_eq_length_of_wanted htree hp hnames he)
      (by
        obtain ⟨names, hnames, h⟩ := hrefuses
        obtain ⟨reason, hreason⟩ := scanFile_of_refuses h
        exact ⟨names, hnames, _, hreason⟩)
    refine ⟨e, ?_⟩
    rw [scanDirectory_eq_mapM htree hd hlong, hfails]
    rfl
  · refine .inr ⟨hlong, hrefuses, ?_⟩
    obtain ⟨results, hresults, hall⟩ := mapM_eq_ok (l := s.wanted tree place recursive)
      fun _ hnames => exists_resultAt htree hp hnames fun h => hrefuses ⟨_, hnames, h⟩
    refine ⟨results, ?_, hall⟩
    rw [scanDirectory_eq_mapM htree hd hlong, hresults]
    rfl

/-- What a directory scan that gives results has found. -/
theorem forall₂_of_scanDirectory {d : String} {results : List FileResult} (htree : tree.WellFormed)
    (h : s.scanDirectory tree d recursive = .ok (some results)) :
    ∃ place, tree.directory? (Path.ofString d).toString = .ok (some place)
      ∧ ¬tree.Overlong (Path.ofString d) place recursive
      ∧ ¬s.RefusesBelow tree (Path.ofString d) place recursive
      ∧ List.Forall₂ (s.ResultAt tree (Path.ofString d)) (s.wanted tree place recursive) results := by
  rcases hd : tree.directory? (Path.ofString d).toString with e | - | place
  · unfold scanDirectory at h
    simp [hd] at h
  · unfold scanDirectory at h
    simp [hd] at h
  · refine ⟨place, rfl, ?_⟩
    rcases scanDirectory_cases (s := s) htree hd recursive with
      ⟨-, path, hpath⟩ | ⟨-, -, e, he⟩ | ⟨hshort, hchecked, results', hresults', hall⟩
    · simp [h] at hpath
    · simp [h] at he
    · obtain rfl : results = results' := by simpa [h] using hresults'
      exact ⟨hshort, hchecked, hall⟩

/-- A directory whose scan gives no results. -/
def Fails (s : Scanner) (tree : FileTree) (d : String) (recursive : Bool) : Prop :=
  tree.Blocked d recursive
    ∨ ∃ place, tree.directory? (Path.ofString d).toString = .ok (some place)
      ∧ s.RefusesBelow tree (Path.ofString d) place recursive

theorem fails_iff_of_inRange (h : s.checks.limits.InRange) {d : String} :
    s.Fails tree d recursive ↔ tree.Blocked d recursive := by
  simp [Fails, not_refusesBelow_of_inRange h]

/-- The scan of a directory is broken off by the directory's own path or by what stands below it. -/
theorem scanDirectory_eq_error_iff {d : String} (htree : tree.WellFormed) :
    (∃ e, s.scanDirectory tree d recursive = .error e) ↔ s.Fails tree d recursive := by
  unfold Fails FileTree.Blocked
  rcases hd : tree.directory? (Path.ofString d).toString with e | - | place
  · unfold scanDirectory
    simp [hd]
  · unfold scanDirectory
    simp [hd]
  · rcases scanDirectory_cases (s := s) htree hd recursive with
      ⟨hlong, path, hpath⟩ | ⟨-, hrefuses, e, he⟩ | ⟨hshort, hchecked, results, hresults, -⟩
    · simp [hpath, hlong]
    · simp [he, hrefuses]
    · simp [hresults, hshort, hchecked]

/-- The results of exactly the files below a place, or right in it, that have one of the extensions,
each the own one of its path, in strictly rising order of the names. -/
structure Covers (s : Scanner) (tree : FileTree) (p : Path) (place : List Text) (recursive : Bool)
    (results : List FileResult) : Prop where
  complete : ∀ path, path ∈ results.map FileResult.path ↔ ∃ names, path = (p.below names).toString
    ∧ names ≠ [] ∧ (recursive = true ∨ names.length = 1)
    ∧ (∃ entry, tree.entry? (place ++ names) = some entry ∧ entry.isDirectory = false)
    ∧ Path.suffixOf (names.getLast?.getD []) ∈ s.extensions
  rising : results.Pairwise fun r r' =>
    (Path.ofString r.path).names < (Path.ofString r'.path).names
  own : ∀ r ∈ results, s.isEligible r.path = true ∧ s.scanFile tree r.path = .ok r

theorem append_lt_append (l : List Text) {a b : List Text} (h : a < b) : l ++ a < l ++ b := by
  induction l with
  | nil => exact h
  | cons n l ih => exact List.cons_lt_cons_iff.2 (.inr ⟨rfl, ih⟩)

theorem covers_of_forall₂ (htree : tree.WellFormed) {results : List FileResult}
    (h : List.Forall₂ (s.ResultAt tree p) (s.wanted tree place recursive) results) :
    s.Covers tree p place recursive results := by
  refine ⟨fun path => ?_, ?_, fun r hr => ?_⟩
  · simp only [← mem_wanted_iff, List.mem_map]
    refine ⟨fun ⟨r, hr, hpath⟩ => ?_, fun ⟨names, hpath, hnames⟩ => ?_⟩
    · obtain ⟨names, hnames, hat⟩ := exists_left_of_mem h hr
      exact ⟨names, by rw [← hpath, hat.path], hnames⟩
    · obtain ⟨r, hr, hat⟩ := exists_right_of_mem h hnames
      exact ⟨r, hr, by rw [hpath, hat.path]⟩
  · refine pairwise_of_forall₂ h (pairwise_wanted htree) fun a b r r' hr hr' hlt => ?_
    rw [hr.ofString, hr'.ofString]
    exact append_lt_append p.names hlt
  · obtain ⟨names, -, hat⟩ := exists_left_of_mem h hr
    exact ⟨hat.eligible, hat.scanFile⟩

/-! ## Files right in the directory -/

theorem wanted_false (htree : tree.WellFormed) :
    s.wanted tree place false = (s.wanted tree place true).filter fun names => names.length = 1 := by
  refine (pairwise_wanted htree).eq_of_mem_iff ((pairwise_wanted htree).filter _) fun names => ?_
  simp only [List.mem_filter, mem_wanted_iff, decide_eq_true_eq, Bool.false_eq_true, false_or,
    true_or, true_and]
  tauto

theorem dropLast_below_iff {names : List Text} (hne : names ≠ []) :
    (p.below names).names.dropLast = p.names ↔ names.length = 1 := by
  rw [Path.below, List.dropLast_append_of_ne_nil hne]
  rcases names with - | ⟨n, - | ⟨m, names⟩⟩
  · exact absurd rfl hne
  · simp
  · simp

theorem forall₂_filter (htree : tree.WellFormed) {results : List FileResult}
    (h : List.Forall₂ (s.ResultAt tree p) (s.wanted tree place true) results) :
    List.Forall₂ (s.ResultAt tree p) (s.wanted tree place false)
      (results.filter fun r => (Path.ofString r.path).names.dropLast = p.names) := by
  rw [wanted_false htree]
  have hne : ∀ names ∈ s.wanted tree place true, names ≠ [] :=
    fun names hnames => (mem_wanted_iff.1 hnames).1
  generalize s.wanted tree place true = l at h hne
  induction h with
  | nil => exact .nil
  | @cons names r l results hr hall ih =>
    have ih := ih fun m hm => hne m (List.mem_cons_of_mem names hm)
    have hone : (Path.ofString r.path).names.dropLast = p.names ↔ names.length = 1 := by
      rw [hr.ofString, dropLast_below_iff (hne names List.mem_cons_self)]
    by_cases hlength : names.length = 1
    · rw [List.filter_cons_of_pos (by simpa using hlength),
        List.filter_cons_of_pos (by simpa using hone.2 hlength)]
      exact .cons hr ih
    · rw [List.filter_cons_of_neg (by simpa using hlength),
        List.filter_cons_of_neg (by simpa using mt hone.1 hlength)]
      exact ih

theorem eq_of_forall₂ {l : List (List Text)} {results results' : List FileResult}
    (h : List.Forall₂ (s.ResultAt tree p) l results)
    (h' : List.Forall₂ (s.ResultAt tree p) l results') : results = results' := by
  induction h generalizing results' with
  | nil =>
    cases h'
    rfl
  | cons hr hall ih =>
    cases h' with
    | cons hr' hall' => rw [hr.unique hr', ih hall']

/-- The scan of a directory gives the results of its files, all that there are and in order, as long
as no path that it has to look up is too long and no text is refused, which with settings in range none
is. A path that is too long breaks it off, and so does a text that is refused. -/
theorem scanDirectory_covers_iff (s : Scanner) (tree : FileTree) (d : String) (place : List Text)
    (htree : tree.WellFormed)
    (hd : tree.directory? (Path.ofString d).toString = .ok (some place)) :
    (∀ recursive, (∃ results, s.scanDirectory tree d recursive = .ok (some results)
        ∧ s.Covers tree (Path.ofString d) place recursive results)
      ↔ ¬tree.Overlong (Path.ofString d) place recursive
        ∧ ¬s.RefusesBelow tree (Path.ofString d) place recursive)
    ∧ (s.checks.limits.InRange → ∀ recursive,
      ¬s.RefusesBelow tree (Path.ofString d) place recursive)
    ∧ (∀ recursive, (∃ path, s.scanDirectory tree d recursive = .error (.access path .nameTooLong))
      ↔ tree.Overlong (Path.ofString d) place recursive)
    ∧ (∀ recursive, (∃ e, s.scanDirectory tree d recursive = .error (.checks (.length e)))
      ↔ ¬tree.Overlong (Path.ofString d) place recursive
        ∧ s.RefusesBelow tree (Path.ofString d) place recursive)
    ∧ ∀ results, s.scanDirectory tree d true = .ok (some results) →
      s.scanDirectory tree d false = .ok (some (results.filter fun r =>
        (Path.ofString r.path).names.dropLast = (Path.ofString d).names)) := by
  refine ⟨fun recursive => ?_, fun hrange recursive => not_refusesBelow_of_inRange hrange,
    fun recursive => ?_, fun recursive => ?_, fun results hresults => ?_⟩
  · rcases scanDirectory_cases (s := s) htree hd recursive with
      ⟨hlong, path, hpath⟩ | ⟨-, hrefuses, e, he⟩ | ⟨hshort, hchecked, results, hresults, hall⟩
    · simp [hpath, hlong]
    · simp [he, hrefuses]
    · exact ⟨fun _ => ⟨hshort, hchecked⟩,
        fun _ => ⟨results, hresults, covers_of_forall₂ htree hall⟩⟩
  · rcases scanDirectory_cases (s := s) htree hd recursive with
      ⟨hlong, path, hpath⟩ | ⟨hshort, -, e, he⟩ | ⟨hshort, -, results, hresults, -⟩
    · simp [hpath, hlong]
    · simp [he, hshort]
    · simp [hresults, hshort]
  · rcases scanDirectory_cases (s := s) htree hd recursive with
      ⟨hlong, path, hpath⟩ | ⟨hshort, hrefuses, e, he⟩ | ⟨-, hchecked, results, hresults, -⟩
    · simp [hpath, hlong]
    · simp [he, hshort, hrefuses]
    · simp [hresults, hchecked]
  · obtain ⟨place', hd', hshort, hchecked, hall⟩ := forall₂_of_scanDirectory htree hresults
    obtain rfl : place = place' := by simpa [hd] using hd'
    rcases scanDirectory_cases (s := s) htree hd false with
      ⟨⟨names, hstands, hlong⟩, -⟩ | ⟨-, ⟨names, hnames, hrefuses⟩, -⟩
      | ⟨-, -, direct, hdirect, hall'⟩
    · exact absurd ⟨names, ⟨hstands.1, .inl rfl, hstands.2.2⟩, hlong⟩ hshort
    · rw [wanted_false htree] at hnames
      exact absurd ⟨names, List.mem_of_mem_filter hnames, hrefuses⟩ hchecked
    · rw [hdirect, eq_of_forall₂ hall' (forall₂_filter htree hall)]

theorem scanDirectory_covers_hidden :
    let tree := ((((({} : FileTree).addFile [['a'], ['b', '.', 'c']] []).addFile [['a', '.', 'c']] []
      ).addDirectory [['d', '.', 'c']]).addFile [['.', 'g'], ['.', 'x', '.', 'h']] [0xff]
      ).addFile [['n', 'o']] []
    tree.WellFormed ∧ tree.directory? (Path.ofString ".").toString = .ok (some [])
      ∧ ¬tree.Overlong (Path.ofString ".") [] true
      ∧ ∃ results, standard.scanDirectory tree "." true = .ok (some results)
        ∧ standard.Covers tree (Path.ofString ".") [] true results
        ∧ standard.scanDirectory tree "." false = .ok (some (results.filter fun r =>
          (Path.ofString r.path).names.dropLast = (Path.ofString ".").names)) := by
  intro tree
  have htree : tree.WellFormed := by decide
  have hd : tree.directory? (Path.ofString ".").toString = .ok (some []) := by decide
  have hshort : ¬tree.Overlong (Path.ofString ".") [] true := by decide
  obtain ⟨hcovers, hrange, -, -, hfilter⟩ := scanDirectory_covers_iff standard tree "." [] htree hd
  obtain ⟨results, hresults, hall⟩ := (hcovers true).2 ⟨hshort, hrange .default true⟩
  exact ⟨htree, hd, hshort, results, hresults, hall, hfilter results hresults⟩

/-! ## A path that is too long -/

/-- The names of `a/../a/../…/a`, which goes into `a` and out of it `n` times first. -/
def roundTrips : Nat → List Text
  | 0 => [['a']]
  | n + 1 => ['a'] :: ['.', '.'] :: roundTrips n

theorem mem_roundTrips {m : Text} : ∀ {n : Nat}, m ∈ roundTrips n → m = ['a'] ∨ m = ['.', '.']
  | 0, h => by simp_all [roundTrips]
  | n + 1, h => by
    simp only [roundTrips, List.mem_cons] at h
    rcases h with h | h | h
    · exact .inl h
    · exact .inr h
    · exact mem_roundTrips h

theorem roundTrips_ne_nil (n : Nat) : roundTrips n ≠ [] := by
  cases n <;> simp [roundTrips]

theorem normal_roundTrips (n : Nat) : (⟨[], roundTrips n⟩ : Path).Normal := by
  refine ⟨.inl rfl, fun m hm => ?_⟩
  rcases mem_roundTrips hm with rfl | rfl <;> decide

theorem sum_roundTrips (names : List Text) : ∀ n : Nat,
    sumBy (fun m => (Utf8.encode m).length + 1) (roundTrips n ++ names)
      = 5 * n + 2 + sumBy (fun m => (Utf8.encode m).length + 1) names
  | 0 => by
    have ha : (Utf8.encode ['a']).length = 1 := by decide
    simp [roundTrips, sumBy, ha]
  | n + 1 => by
    have ih := sum_roundTrips names n
    have ha : (Utf8.encode ['a']).length = 1 := by decide
    have hup : (Utf8.encode ['.', '.']).length = 2 := by decide
    simp only [roundTrips, List.cons_append, sumBy, ih, ha, hup]
    omega

theorem length_encode_roundTrips (n : Nat) (names : List Text) :
    (Utf8.encode (Path.join (roundTrips n ++ names))).length
      = 5 * n + 1 + sumBy (fun m => (Utf8.encode m).length + 1) names := by
  have := Path.length_encode_join (List.append_ne_nil_of_left_ne_nil (roundTrips_ne_nil n) names)
  rw [sum_roundTrips] at this
  omega

/-- A path to `a` of 4091 bytes leads to `a`, but leaves no room for `xy.c`. -/
theorem scanDirectory_long_path_fails :
    let tree := ({} : FileTree).addFile [['a'], ['x', 'y', '.', 'c']] []
    let d := (⟨[], roundTrips 818⟩ : Path).toString
    tree.WellFormed ∧ tree.directory? (Path.ofString d).toString = .ok (some [['a']])
      ∧ tree.entry? [['a'], ['x', 'y', '.', 'c']] = some (.file [])
      ∧ ∃ path, standard.scanDirectory tree d true = .error (.access path .nameTooLong) := by
  intro tree d
  have htree : tree.WellFormed := by decide
  have hfile : tree.entry? [['a'], ['x', 'y', '.', 'c']] = some (.file []) := by decide
  have hnormal := normal_roundTrips 818
  have hof : Path.ofString d = ⟨[], roundTrips 818⟩ := Path.ofString_toString hnormal
  have hd : tree.directory? (Path.ofString d).toString = .ok (some [['a']]) := by
    have hwalk : ∀ n, tree.walk [] (roundTrips n) = .ok [['a']] := by
      intro n
      induction n with
      | zero => decide
      | succ n ih => exact ih
    have hnul : ∀ m ∈ roundTrips 818, '\x00' ∉ m := by
      intro m hm
      rcases mem_roundTrips hm with rfl | rfl <;> decide
    have htext : (⟨[], roundTrips 818⟩ : Path).toText = Path.join (roundTrips 818) :=
      Path.toText_of_names (roundTrips_ne_nil 818)
    have hlength := length_encode_roundTrips 818 []
    rw [List.append_nil, ← htext] at hlength
    rw [FileTree.directory?_eq_some_iff, hof, FileTree.resolve_toString htree hnormal hnul, hlength,
      if_neg (by decide)]
    exact ⟨hwalk 818, by decide⟩
  have hlong : tree.Overlong (Path.ofString d) [['a']] true := by
    refine ⟨[['x', 'y', '.', 'c']], ⟨by decide, .inl rfl, by decide⟩, ?_⟩
    have htext : ((⟨[], roundTrips 818⟩ : Path).below [['x', 'y', '.', 'c']]).toText
        = Path.join (roundTrips 818 ++ [['x', 'y', '.', 'c']]) :=
      Path.toText_of_names (List.append_ne_nil_of_left_ne_nil (roundTrips_ne_nil 818) _)
    rw [hof, htext, length_encode_roundTrips]
    decide
  refine ⟨htree, hd, hfile, ?_⟩
  rcases scanDirectory_cases (s := standard) htree hd true with ⟨-, hfails⟩ | h | h
  · exact hfails
  · exact absurd hlong h.1
  · exact absurd hlong h.1

end Scanner

end SourceStyle
