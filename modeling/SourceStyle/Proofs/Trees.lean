import SourceStyle.Proofs.Additions
import SourceStyle.Proofs.Paths

/-!
# Look-ups in well-formed trees

In a well-formed tree each entry has names of its own and stands in a directory that can be opened, and
so can the current directory. So names that lead to an entry are followed to it, one directory after the
other (`WellFormed.walk_below`).

A path that opens a directory opens all that stands below, except what has a path of 4096 bytes or
more: that cannot be looked up at all (`Opens.resolve_below`).
-/

namespace SourceStyle

namespace FileTree

/-! ## Well-formed trees -/

/-- A name that something in a directory can have. -/
structure IsName (n : Text) : Prop where
  plain : n ≠ [] ∧ n ≠ ['.'] ∧ '/' ∉ n
  notUp : n ≠ ['.', '.']
  noNul : '\x00' ∉ n
  short : (Utf8.encode n).length ≤ 255

structure WellFormed (tree : FileTree) : Prop where
  distinct : tree.entries.keys.Nodup
  named : ∀ names ∈ tree.entries.keys, names ≠ [] ∧ ∀ n ∈ names, IsName n
  inDirectory : ∀ names ∈ tree.entries.keys, tree.entry? names.dropLast = some .directory
  current : tree.entry? tree.current = some .directory

instance (n : Text) : Decidable (IsName n) :=
  decidable_of_iff ((n ≠ [] ∧ n ≠ ['.'] ∧ '/' ∉ n) ∧ n ≠ ['.', '.'] ∧ '\x00' ∉ n
      ∧ (Utf8.encode n).length ≤ 255)
    ⟨fun h => ⟨h.1, h.2.1, h.2.2.1, h.2.2.2⟩, fun h => ⟨h.plain, h.notUp, h.noNul, h.short⟩⟩

instance (tree : FileTree) : Decidable tree.WellFormed :=
  decidable_of_iff (tree.entries.keys.Nodup
      ∧ (∀ names ∈ tree.entries.keys, names ≠ [] ∧ ∀ n ∈ names, IsName n)
      ∧ (∀ names ∈ tree.entries.keys, tree.entry? names.dropLast = some .directory)
      ∧ tree.entry? tree.current = some .directory)
    ⟨fun h => ⟨h.1, h.2.1, h.2.2.1, h.2.2.2⟩,
      fun h => ⟨h.distinct, h.named, h.inDirectory, h.current⟩⟩

variable {tree : FileTree} {place : List Text}

theorem isSome_entry?_iff {names : List Text} (h : names ≠ []) :
    (tree.entry? names).isSome ↔ names ∈ tree.entries.keys := by
  rw [← Keyed.isSome_find?_iff]
  unfold entry?
  simp [h]

namespace WellFormed

theorem name_of_below (h : tree.WellFormed) {rest : List Text}
    (hs : (tree.entry? (place ++ rest)).isSome) {n : Text} (hn : n ∈ rest) : IsName n := by
  have hne : place ++ rest ≠ [] := List.append_ne_nil_of_right_ne_nil _ (List.ne_nil_of_mem hn)
  exact (h.named _ ((isSome_entry?_iff hne).1 hs)).2 n (List.mem_append_right _ hn)

/-- What stands below a place stands in a directory there. -/
theorem directory_of_below (h : tree.WellFormed) {rest : List Text} (hne : rest ≠ [])
    (hs : (tree.entry? (place ++ rest)).isSome) : tree.entry? place = some .directory := by
  induction rest using List.reverseRecOn with
  | nil => exact absurd rfl hne
  | append_singleton rest n ih =>
    have hmem : place ++ (rest ++ [n]) ∈ tree.entries.keys := by
      rwa [← isSome_entry?_iff]
      simp
    have hup := h.inDirectory _ hmem
    rw [← List.append_assoc, List.dropLast_concat] at hup
    by_cases hrest : rest = []
    · simpa [hrest] using hup
    · exact ih hrest (by rw [hup]; rfl)

theorem walk_below (h : tree.WellFormed) : ∀ {rest place : List Text},
    (tree.entry? (place ++ rest)).isSome → tree.walk place rest = .ok (place ++ rest)
  | [], place, _ => by simp [walk]
  | n :: rest, place, hs => by
    have hplace := h.directory_of_below (List.cons_ne_nil n rest) hs
    have hn := h.name_of_below hs List.mem_cons_self
    rw [List.append_cons] at hs ⊢
    have hnext : (tree.entry? (place ++ [n])).isSome := by
      by_cases hrest : rest = []
      · simpa [hrest] using hs
      · simp [h.directory_of_below hrest hs]
    rw [walk, hplace]
    simp [hn.plain.1, hn.plain.2.1, hn.notUp, Nat.not_lt.2 hn.short,
      Option.isSome_iff_ne_none.1 hnext, h.walk_below hs]

end WellFormed

/-! ## Names on the way -/

theorem walk_append (b : List Text) : ∀ (a place : List Text),
    tree.walk place (a ++ b) = (tree.walk place a).bind fun p => tree.walk p b
  | [], place => rfl
  | n :: a, place => by
    rw [List.cons_append, walk, walk]
    rcases tree.entry? place with - | - | bytes | - | -
    · rfl
    · simp only [walk_append b a]
      split_ifs <;> rfl
    · rfl
    · simp only [walk_append b a]
      split_ifs <;> rfl
    · rfl

/-- Names that a path leaves out lead nowhere else. -/
theorem walk_filter {q : List Text} : ∀ {names place : List Text}, tree.walk place names = .ok q →
    tree.walk place (names.filter fun n => !(n.isEmpty || n == ['.'])) = .ok q
  | [], place, h => h
  | n :: names, place, h => by
    rw [walk] at h
    rcases hplace : tree.entry? place with - | - | bytes | - | -
    · simp [hplace] at h
    · simp only [hplace] at h
      by_cases hn : (n.isEmpty || n == ['.']) = true
      · rw [if_pos hn] at h
        rw [List.filter_cons_of_neg (by simp [hn])]
        exact walk_filter h
      · rw [if_neg hn] at h
        rw [List.filter_cons_of_pos (by simp [hn]), walk, hplace]
        simp only [if_neg hn]
        split_ifs at h ⊢
        · exact walk_filter h
        · exact walk_filter h
    · simp [hplace] at h
    · -- of a locked directory no name is followed, so only empty ones are left out
      simp only [hplace] at h
      split_ifs at h with hn
      rw [List.filter_cons_of_neg (by simp [hn])]
      exact walk_filter h
    · simp [hplace] at h

theorem walk_blanks (hplace : tree.entry? place = some .directory) (names : List Text) :
    ∀ {blanks : List Text}, (∀ n ∈ blanks, n = [] ∨ n = ['.']) →
      tree.walk place (blanks ++ names) = tree.walk place names
  | [], _ => rfl
  | n :: blanks, h => by
    rw [List.forall_mem_cons] at h
    rw [List.cons_append, walk, hplace]
    simp only [walk_blanks hplace names h.2]
    rcases h.1 with rfl | rfl <;> simp

/-! ## Texts of paths -/

/-- The place from which the names of a path are followed. -/
def placeOf (tree : FileTree) (p : Path) : List Text :=
  if p.root = [] then tree.current else []

theorem WellFormed.directory_placeOf (h : tree.WellFormed) (p : Path) :
    tree.entry? (tree.placeOf p) = some .directory := by
  unfold placeOf
  split_ifs
  · exact h.current
  · rfl

/-- A path that leads to a directory, and where. -/
structure Opens (tree : FileTree) (p : Path) (place : List Text) : Prop where
  normal : p.Normal
  noNul : ∀ n ∈ p.names, '\x00' ∉ n
  walk : tree.walk (tree.placeOf p) p.names = .ok place
  directory : (tree.entry? place).any Entry.isDirectory = true

theorem namesToFollow_eq_ok_iff {path : String} {names : List Text} :
    namesToFollow path = .ok names
      ↔ '\x00' ∉ path.toList ∧ (Utf8.encode path.toList).length < 4096
        ∧ path.toList ≠ [] ∧ names = Text.pieces path.toList '/' := by
  have hnul : Text.contains path.toList ['\x00'] = true ↔ '\x00' ∈ path.toList := by
    rw [Text.contains_iff_infix, List.singleton_infix_iff]
  unfold namesToFollow
  simp only [hnul]
  split_ifs with h1 h2 h3
  · simp [h1]
  · simp [Nat.not_lt.2 h2]
  · simp only [false_iff]
    rintro ⟨-, -, hne, -⟩
    simp [hne] at h3
  · rw [List.isEmpty_iff] at h3
    simp [h1, Nat.not_le.1 h2, h3, eq_comm]

theorem startOf_toString {p : Path} (h : p.Normal) : tree.startOf p.toString = tree.placeOf p := by
  unfold startOf placeOf
  simp only [Path.toString, String.toList_ofList, Path.head?_toText_iff h, ite_not]

theorem placeOf_ofString (path : String) : tree.placeOf (Path.ofString path) = tree.startOf path := by
  unfold startOf placeOf
  rcases Path.rootOf_cases path.toList with ⟨hroot, hhead⟩ | ⟨hroot | hroot, hhead⟩ <;>
    simp [Path.ofString, hroot, hhead]

theorem resolve_toString {p : Path} (htree : tree.WellFormed) (h : p.Normal)
    (hnul : ∀ n ∈ p.names, '\x00' ∉ n) :
    tree.resolve p.toString
      = if 4096 ≤ (Utf8.encode p.toText).length then .error .nameTooLong
        else tree.walk (tree.placeOf p) p.names := by
  have hcontains : Text.contains p.toText ['\x00'] = false := by
    rw [Bool.eq_false_iff, ne_eq, Text.contains_iff_infix, List.singleton_infix_iff,
      Path.mem_toText h (by decide) (by decide)]
    rintro ⟨n, hn, hmem⟩
    exact hnul n hn hmem
  obtain ⟨blanks, hblanks, hpieces⟩ := Path.pieces_toText h
  unfold resolve namesToFollow
  rw [startOf_toString h]
  simp only [Path.toString, String.toList_ofList, hcontains, hpieces]
  by_cases hlong : 4096 ≤ (Utf8.encode p.toText).length
  · simp [hlong]
  · simp [hlong, Path.toText_ne_nil h, walk_blanks (htree.directory_placeOf p) p.names hblanks]

/-- A path in normal form leads to the same place. -/
theorem resolve_ofString {path : String} (htree : tree.WellFormed)
    (h : tree.resolve path = .ok place) :
    tree.resolve (Path.ofString path).toString = .ok place := by
  rcases hnames : namesToFollow path with e | names
  · simp [resolve, hnames] at h
  obtain ⟨hnul, hshort, hne, rfl⟩ := namesToFollow_eq_ok_iff.1 hnames
  have hnul' : ∀ n ∈ (Path.ofString path).names, '\x00' ∉ n := by
    intro n hn hmem
    apply hnul
    rw [← Path.join_pieces path.toList]
    exact Path.mem_join_of_mem (List.mem_of_mem_filter hn) hmem
  have hlength := Path.length_encode_toText_le hne
  rw [resolve_toString htree (Path.normal_ofString path) hnul', if_neg (by omega),
    placeOf_ofString]
  simp only [resolve, hnames] at h
  exact walk_filter h

theorem directory?_eq_some_iff {path : String} :
    tree.directory? path = .ok (some place)
      ↔ tree.resolve path = .ok place ∧ (tree.entry? place).any Entry.isDirectory = true := by
  unfold directory?
  rcases tree.resolve path with e | q
  · cases e <;> simp [Error.isRaised]
  · simp only [Except.ok.injEq, Option.ite_none_right_eq_some, Option.some.injEq]
    exact ⟨fun ⟨h, hq⟩ => ⟨hq, hq ▸ h⟩, fun ⟨hq, h⟩ => ⟨hq ▸ h, hq⟩⟩

theorem opens_of_directory? {d : String} (htree : tree.WellFormed)
    (h : tree.directory? (Path.ofString d).toString = .ok (some place)) :
    tree.Opens (Path.ofString d) place := by
  obtain ⟨hplace, hdir⟩ := directory?_eq_some_iff.1 h
  rcases hnames : namesToFollow (Path.ofString d).toString with e | names
  · simp [resolve, hnames] at hplace
  obtain ⟨hnul, -⟩ := namesToFollow_eq_ok_iff.1 hnames
  rw [Path.toString, String.toList_ofList] at hnul
  have hnormal := Path.normal_ofString d
  have hnul' : ∀ n ∈ (Path.ofString d).names, '\x00' ∉ n := by
    intro n hn hmem
    exact hnul ((Path.mem_toText hnormal (by decide) (by decide)).2 ⟨n, hn, hmem⟩)
  rw [resolve_toString htree hnormal hnul'] at hplace
  split_ifs at hplace
  exact ⟨hnormal, hnul', hplace, hdir⟩

namespace Opens

variable {p : Path} {names : List Text}

theorem normal_below (h : tree.Opens p place) (htree : tree.WellFormed)
    (hs : (tree.entry? (place ++ names)).isSome) : (p.below names).Normal :=
  h.normal.below fun _ hn => (htree.name_of_below hs hn).plain

theorem noNul_below (h : tree.Opens p place) (htree : tree.WellFormed)
    (hs : (tree.entry? (place ++ names)).isSome) : ∀ n ∈ (p.below names).names, '\x00' ∉ n := by
  intro n hn
  rcases List.mem_append.1 hn with hn | hn
  · exact h.noNul n hn
  · exact (htree.name_of_below hs hn).noNul

theorem noNul_toString (h : tree.Opens p place) (htree : tree.WellFormed)
    (hs : (tree.entry? (place ++ names)).isSome) : '\x00' ∉ (p.below names).toString.toList := by
  rw [Path.toString, String.toList_ofList,
    Path.mem_toText (h.normal_below htree hs) (by decide) (by decide)]
  rintro ⟨n, hn, hmem⟩
  exact h.noNul_below htree hs n hn hmem

theorem resolve_below (h : tree.Opens p place) (htree : tree.WellFormed)
    (hs : (tree.entry? (place ++ names)).isSome) :
    tree.resolve (p.below names).toString
      = if 4096 ≤ (Utf8.encode (p.below names).toText).length then .error .nameTooLong
        else .ok (place ++ names) := by
  have hplace : tree.placeOf (p.below names) = tree.placeOf p := rfl
  rw [resolve_toString htree (h.normal_below htree hs) (h.noNul_below htree hs), hplace, Path.below,
    walk_append, h.walk, ← htree.walk_below hs]
  rfl

theorem isFile_below (h : tree.Opens p place) (htree : tree.WellFormed)
    (hs : (tree.entry? (place ++ names)).isSome) :
    tree.isFile (p.below names).toString
      = if 4096 ≤ (Utf8.encode (p.below names).toText).length then .error .nameTooLong
        else .ok ((tree.entry? (place ++ names)).any fun entry => !entry.isDirectory) := by
  unfold isFile
  rw [h.resolve_below htree hs]
  split_ifs <;> rfl

end Opens

/-! ## What stands below a place -/

/-- What stands below a place, or right in it, under some names from there. -/
def Stands (tree : FileTree) (place : List Text) (recursive : Bool) (names : List Text) : Prop :=
  names ≠ [] ∧ (recursive = true ∨ names.length = 1) ∧ (tree.entry? (place ++ names)).isSome

theorem mem_namesBelow_iff {recursive : Bool} {names : List Text} :
    names ∈ tree.namesBelow place recursive ↔ tree.Stands place recursive names := by
  simp only [namesBelow, List.mem_filterMap, Option.ite_none_right_eq_some, Option.some.injEq,
    Bool.and_eq_true, Bool.or_eq_true, Bool.not_eq_true', List.isPrefixOf_iff_prefix,
    List.isEmpty_eq_false_iff, beq_iff_eq, Stands]
  refine ⟨?_, fun ⟨hne, hdepth, hs⟩ => ⟨place ++ names, ?_, ?_⟩⟩
  · rintro ⟨all, hall, ⟨⟨⟨rest, rfl⟩, hne⟩, hdepth⟩, rfl⟩
    rw [List.drop_left] at hne hdepth ⊢
    refine ⟨hne, hdepth, ?_⟩
    rwa [isSome_entry?_iff (by simp [hne])]
  · rwa [← isSome_entry?_iff (by simp [hne])]
  · simp [hne, hdepth]

theorem WellFormed.nodup_namesBelow (h : tree.WellFormed) (recursive : Bool) :
    (tree.namesBelow place recursive).Nodup := by
  refine h.distinct.filterMap fun a b rest ha hb => ?_
  simp only [Option.mem_def, Option.ite_none_right_eq_some, Option.some.injEq,
    Bool.and_eq_true, List.isPrefixOf_iff_prefix] at ha hb
  obtain ⟨⟨⟨⟨x, rfl⟩, -⟩, -⟩, hx⟩ := ha
  obtain ⟨⟨⟨⟨y, rfl⟩, -⟩, -⟩, hy⟩ := hb
  rw [List.drop_left] at hx hy
  rw [hx, hy]

end FileTree

end SourceStyle
