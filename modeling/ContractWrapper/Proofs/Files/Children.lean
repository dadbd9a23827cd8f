import ContractWrapper.Proofs.Files.Growth

/-! Directories and the names in them.

A path that leads somewhere first leads to a directory and goes on from there with its last part.
The path without that part leads to the same directory, however many slashes and dots are taken
off with it.
-/

set_option autoImplicit false

namespace ContractWrapper

open Failure (bind_eq_ok_iff)

namespace Path

theorem parts_append_slash (first second : List Char) :
    parts (first ++ '/' :: second) = parts first ++ parts second := by
  have filled (path : List Char) : parts path ≠ [] := by
    cases path with
    | nil => simp [parts]
    | cons c rest =>
      simp only [parts]
      split
      · simp
      · split <;> simp
  induction first with
  | nil =>
    cases found : parts second with
    | nil => exact absurd found (filled second)
    | cons part others => simp [parts, found]
  | cons c rest ih =>
    cases found : parts rest with
    | nil => exact absurd found (filled rest)
    | cons part others =>
      rw [found] at ih
      by_cases slash : c = '/'
      · simp [parts, found, ih, slash]
      · simp [parts, found, ih, slash]

theorem parts_eq_singleton {path : List Char} (whole : '/' ∉ path) : parts path = [path] := by
  induction path with
  | nil => rfl
  | cons c rest ih =>
    have other : c ≠ '/' := (List.ne_of_not_mem_cons whole).symm
    simp [parts, ih (List.not_mem_of_not_mem_cons whole), other]

theorem slash_not_mem_takeWhile (path : List Char) : '/' ∉ path.takeWhile (· != '/') := by
  intro member
  have passed := List.all_eq_true.mp List.all_takeWhile _ member
  cases passed

theorem slash_not_mem_of_dropWhile {path : List Char}
    (alone : path.dropWhile (· != '/') = []) : '/' ∉ path := by
  have parted := List.takeWhile_append_dropWhile (p := (· != '/')) (l := path)
  rw [alone, List.append_nil] at parted
  rw [← parted]
  exact slash_not_mem_takeWhile path

theorem trimReversed_suffix (path : List Char) : trimReversed path <:+ path := by
  fun_induction trimReversed path with
  | case1 => exact List.suffix_rfl
  | case2 => exact List.suffix_rfl
  | case3 rest _ ih => exact ih.trans (List.suffix_cons '/' rest)
  | case4 => exact List.suffix_cons '.' ['/']
  | case5 rest _ ih => exact ih.trans (List.suffix_cons '.' ('/' :: rest))
  | case6 => exact List.suffix_rfl

theorem trimReversed_ne_nil {path : List Char} (filled : path ≠ []) : trimReversed path ≠ [] := by
  fun_induction trimReversed path with
  | case3 rest more ih => exact ih more
  | case5 rest _ ih => exact ih (List.cons_ne_nil '/' rest)
  | _ => simp_all

/-- A slash is put in front of the name, unless one is there or no directory is written. -/
theorem join_cases (directory name : String) :
    directory = "" ∧ join directory name = name ∨
    (∃ before, directory.toList = before ++ ['/'] ∧
      (join directory name).toList = before ++ '/' :: name.toList) ∨
    directory ≠ "" ∧ (join directory name).toList = directory.toList ++ '/' :: name.toList := by
  unfold join
  split
  · next none =>
    obtain rfl : directory = "" := by simpa using none
    exact .inl ⟨rfl, String.empty_append⟩
  · next slash =>
    obtain ⟨before, parted⟩ := List.getLast?_eq_some_iff.mp slash
    exact .inr (.inl ⟨before, parted, by simp [parted]⟩)
  · next last _ other =>
    refine .inr (.inr ⟨?_, by simp⟩)
    rintro rfl
    cases other

end Path

namespace FileTree

variable {tree : FileTree} {path above name : String} {start location : Location}

def startAt (tree : FileTree) (path : List Char) : Location :=
  if Path.isAbsolute path then [] else tree.workingDirectory

/-- Where a written path leads from a location. -/
def leads (tree : FileTree) (start : Location) (path : List Char) : Except FileError Location :=
  tree.walk start ((Path.parts path).map String.ofList)

theorem startOf_eq_ok_iff {parts : List String} :
    tree.startOf path = .ok (start, parts) ↔
      ('\x00' ∉ path.toList ∧ path ≠ "" ∧ path.utf8ByteSize < pathLimit) ∧
        tree.startAt path.toList = start ∧ (Path.parts path.toList).map String.ofList = parts := by
  unfold startOf startAt
  by_cases nul : '\x00' ∈ path.toList
  · simp [nul]
  · by_cases empty : path = ""
    · simp [empty]
    · by_cases long : pathLimit ≤ path.utf8ByteSize
      · simp [nul, empty, long, Nat.not_lt.mpr long]
      · simp [nul, empty, long, Nat.lt_of_not_le long]

theorem locate_eq_ok_iff :
    tree.locate path = .ok location ↔
      ('\x00' ∉ path.toList ∧ path ≠ "" ∧ path.utf8ByteSize < pathLimit) ∧
        tree.leads (tree.startAt path.toList) path.toList = .ok location := by
  rw [locate, bind_eq_ok_iff]
  constructor
  · rintro ⟨⟨start, parts⟩, started, walked⟩
    obtain ⟨admitted, rfl, rfl⟩ := startOf_eq_ok_iff.mp started
    exact ⟨admitted, walked⟩
  · rintro ⟨admitted, walked⟩
    exact ⟨(_, _), startOf_eq_ok_iff.mpr ⟨admitted, rfl, rfl⟩, walked⟩

theorem leads_append_slash (start : Location) (first second : List Char) :
    tree.leads start (first ++ '/' :: second) =
      tree.leads start first >>= fun directory => tree.leads directory second := by
  rw [leads, Path.parts_append_slash, List.map_append, walk_append]
  rfl

theorem leads_eq_ok_iff {part : List Char} (whole : '/' ∉ part) :
    tree.leads start part = .ok location ↔
      tree.entryAt start = some .directory ∧ entered start (String.ofList part) = .ok location := by
  rw [leads, Path.parts_eq_singleton whole, List.map_singleton, walk_cons, bind_eq_ok_iff]
  simp only [bind_eq_ok_iff, walk, Except.ok.injEq]
  constructor
  · rintro ⟨⟨⟩, present, next, led, rfl⟩
    exact ⟨requireDirectory_eq_ok_iff.mp present, led⟩
  · rintro ⟨present, led⟩
    exact ⟨(), requireDirectory_eq_ok_iff.mpr present, location, led, rfl⟩

/-- A slash or a single dot at the end stays where the path has led. -/
theorem leads_append_slash_stay (before : List Char) {part : List Char}
    (stay : part = [] ∨ part = ['.']) :
    tree.leads start (before ++ '/' :: part) = .ok location ↔
      tree.leads start before = .ok location ∧ tree.entryAt location = some .directory := by
  have whole : '/' ∉ part := by
    rcases stay with rfl | rfl <;> decide
  have stays (directory : Location) :
      entered directory (String.ofList part) = .ok directory := by
    rcases stay with rfl | rfl <;> rfl
  rw [leads_append_slash, bind_eq_ok_iff]
  simp only [leads_eq_ok_iff whole, stays, Except.ok.injEq]
  constructor
  · rintro ⟨_, led, present, rfl⟩
    exact ⟨led, present⟩
  · rintro ⟨led, present⟩
    exact ⟨location, led, present, rfl⟩

theorem leads_trimReversed {path : List Char}
    (led : tree.leads start path.reverse = .ok location) :
    tree.leads start (Path.trimReversed path).reverse = .ok location := by
  fun_induction Path.trimReversed path with
  | case1 => exact led
  | case2 => exact led
  | case3 rest _ ih =>
    rw [List.reverse_cons] at led
    exact ih ((leads_append_slash_stay _ (.inl rfl)).mp led).1
  | case4 =>
    have stay := (leads_append_slash_stay [] (.inr rfl)).mp led
    exact (leads_append_slash_stay [] (.inl rfl)).mpr stay
  | case5 rest _ ih =>
    have split : ('.' :: '/' :: rest).reverse = rest.reverse ++ '/' :: ['.'] := by simp
    rw [split] at led
    apply ih
    rw [List.reverse_cons]
    exact (leads_append_slash_stay _ (.inl rfl)).mpr ((leads_append_slash_stay _ (.inr rfl)).mp led)
  | case6 => exact led

/-- Where a path leads, its last part led from a directory; what stands before that part led
there. -/
theorem exists_directory_of_leads {path : List Char}
    (led : tree.leads start path.reverse = .ok location) :
    ∃ directory part, tree.entryAt directory = some .directory ∧
      entered directory part = .ok location ∧
      (path.dropWhile (· != '/') = [] ∧ directory = start ∨
        path.dropWhile (· != '/') ≠ [] ∧
          tree.leads start (path.dropWhile (· != '/')).reverse = .ok directory) := by
  have whole : '/' ∉ (path.takeWhile (· != '/')).reverse :=
    fun member => Path.slash_not_mem_takeWhile path (List.mem_reverse.mp member)
  have parted := List.takeWhile_append_dropWhile (p := (· != '/')) (l := path)
  have stopped := List.head?_dropWhile_not (· != '/') path
  rw [← parted, List.reverse_append] at led
  generalize path.dropWhile (· != '/') = before at led stopped
  cases before with
  | nil =>
    obtain ⟨present, entered⟩ := (leads_eq_ok_iff whole).mp led
    exact ⟨start, _, present, entered, .inl ⟨rfl, rfl⟩⟩
  | cons slash rest =>
    obtain rfl : slash = '/' := by simpa using stopped
    rw [List.reverse_cons, List.append_assoc, List.singleton_append, leads_append_slash] at led
    obtain ⟨directory, around, last⟩ := bind_eq_ok_iff.mp led
    obtain ⟨present, entered⟩ := (leads_eq_ok_iff whole).mp last
    refine ⟨directory, _, present, entered, .inr ⟨List.cons_ne_nil _ _, ?_⟩⟩
    rw [List.reverse_cons]
    exact (leads_append_slash_stay _ (.inl rfl)).mpr ⟨around, present⟩

/-- Where a path leads as that of a directory; the empty one is that of the working directory. -/
def locateDirectory (tree : FileTree) (path : String) : Except FileError Location :=
  if path = "" then .ok tree.workingDirectory else tree.locate path

theorem startAt_of_begins {path above : List Char} (filled : above ≠ []) (start : above <+: path) :
    tree.startAt above = tree.startAt path := by
  obtain ⟨rest, rfl⟩ := start
  cases above with
  | nil => exact absurd rfl filled
  | cons c rest => rfl

theorem startAt_of_relative {path : List Char} (whole : '/' ∉ path) :
    tree.startAt path = tree.workingDirectory := by
  cases path with
  | nil => rfl
  | cons c rest => simp [startAt, Path.isAbsolute, (List.ne_of_not_mem_cons whole).symm]

/-- What is written at the start of a path can be followed where the path can. -/
theorem locate_of_begins (located : tree.locate path = .ok location)
    {directory : Location} (filled : above ≠ "") (before : above.toList <+: path.toList)
    (led : tree.leads (tree.startAt path.toList) above.toList = .ok directory) :
    tree.locate above = .ok directory := by
  obtain ⟨⟨nul, -, short⟩, -⟩ := locate_eq_ok_iff.mp located
  have smaller : above.utf8ByteSize ≤ path.utf8ByteSize := by
    obtain ⟨rest, whole⟩ := before
    have same : path = above ++ String.ofList rest := by
      rw [← String.toList_inj, String.toList_append, String.toList_ofList, whole]
    rw [same, String.utf8ByteSize_append]
    omega
  refine locate_eq_ok_iff.mpr ⟨⟨fun member => nul (before.subset member), filled,
    Nat.lt_of_le_of_lt smaller short⟩, ?_⟩
  rw [startAt_of_begins (by simpa using filled) before]
  exact led

/-- What is left of a path without slashes and dots at its end leads to the same place. -/
theorem trimmed_of_locate (located : tree.locate path = .ok location) :
    ∃ short, Path.trimReversed path.toList.reverse = short ∧ short ≠ [] ∧
      short.reverse <+: path.toList ∧
      tree.leads (tree.startAt path.toList) short.reverse = .ok location := by
  obtain ⟨⟨-, filled, -⟩, led⟩ := locate_eq_ok_iff.mp located
  refine ⟨_, rfl, Path.trimReversed_ne_nil (by simpa using filled), ?_, ?_⟩
  · have kept := List.reverse_prefix.mpr (Path.trimReversed_suffix path.toList.reverse)
    rwa [List.reverse_reverse] at kept
  · apply leads_trimReversed
    rw [List.reverse_reverse]
    exact led

/-- The last part of a path is looked for in the directory that the path above it leads to. -/
theorem locate_parent (located : tree.locate path = .ok location)
    (parent : Path.parent? path = some above) :
    ∃ directory part, tree.entryAt directory = some .directory ∧
      entered directory part = .ok location ∧ tree.locateDirectory above = .ok directory := by
  obtain ⟨short, cut, trimmed, kept, led⟩ := trimmed_of_locate located
  obtain ⟨directory, part, present, entered, around⟩ := exists_directory_of_leads led
  refine ⟨directory, part, present, entered, ?_⟩
  simp only [Path.parent?, cut] at parent
  split at parent
  · cases parent
  · cases parent
    rcases around with ⟨alone, rfl⟩ | ⟨further, led⟩
    · have whole := Path.slash_not_mem_of_dropWhile alone
      rw [alone, ← startAt_of_begins (by simpa using trimmed) kept,
        startAt_of_relative (by simpa using whole)]
      rfl
    · have before : (Path.trimReversed (short.dropWhile (· != '/'))).reverse <+: short.reverse :=
        List.reverse_prefix.mpr ((Path.trimReversed_suffix _).trans (List.dropWhile_suffix _))
      have filled :
          String.ofList (Path.trimReversed (short.dropWhile (· != '/'))).reverse ≠ "" := by
        simpa using Path.trimReversed_ne_nil further
      rw [locateDirectory, if_neg filled]
      apply locate_of_begins located filled
      · rw [String.toList_ofList]
        exact before.trans kept
      · rw [String.toList_ofList]
        exact leads_trimReversed led

/-- Nothing is above the root alone. -/
theorem eq_nil_of_parent?_eq_none (located : tree.locate path = .ok location)
    (parent : Path.parent? path = none) : location = [] := by
  obtain ⟨short, cut, trimmed, kept, led⟩ := trimmed_of_locate located
  obtain rfl : short = ['/'] := by simpa [Path.parent?, cut, trimmed] using parent
  have start : tree.startAt path.toList = [] :=
    (startAt_of_begins (List.cons_ne_nil '/' []) kept).symm
  have around := ((leads_append_slash_stay [] (.inl rfl)).mp led).1
  have stayed := ((leads_eq_ok_iff List.not_mem_nil).mp around).2
  rw [start] at stayed
  exact (Except.ok.inj stayed).symm

theorem entered_cases {part : String} (led : entered start part = .ok location) :
    location = start ∨ location = start.dropLast ∨ location = start ++ [part] := by
  unfold entered at led
  split at led
  · exact .inl (Except.ok.inj led).symm
  · split at led
    · exact .inr (.inl (Except.ok.inj led).symm)
    · split at led
      · cases led
      · exact .inr (.inr (Except.ok.inj led).symm)

theorem exists_file_of_read {content : ByteArray} (read : tree.read path = .ok content) :
    ∃ location, tree.locate path = .ok location ∧
      tree.entryAt location = some (.file content) := by
  obtain ⟨location, located, read⟩ := bind_eq_ok_iff.mp read
  refine ⟨location, located, ?_⟩
  split at read
  · cases read
  · cases read
  · next found =>
    cases read
    exact found

/-- A directory stands in a directory. -/
def Nested (tree : FileTree) : Prop :=
  ∀ location, tree.entryAt location = some .directory →
    tree.entryAt location.dropLast = some .directory

/-- Only the directories that are listed have to be looked at. -/
theorem nested_of_entries (every : ∀ entry ∈ tree.entries, entry.2 = .directory →
    tree.entryAt entry.1.dropLast = some .directory) : tree.Nested := by
  intro location present
  cases location with
  | nil => rfl
  | cons first rest =>
    obtain ⟨before, after, listed, -⟩ := List.lookup_eq_some_iff.mp present
    exact every (first :: rest, .directory) (by simp [listed]) rfl

/-- A file that can be read stands in the directory above its path. -/
theorem exists_name_of_read {content : ByteArray} (nested : tree.Nested)
    (read : tree.read path = .ok content) :
    ∃ above directory name, Path.parent? path = some above ∧
      tree.locateDirectory above = .ok directory ∧
      tree.locate path = .ok (directory ++ [name]) := by
  obtain ⟨location, located, file⟩ := exists_file_of_read read
  cases parent : Path.parent? path with
  | none =>
    cases eq_nil_of_parent?_eq_none located parent
    cases file
  | some above =>
    obtain ⟨directory, part, present, led, around⟩ := locate_parent located parent
    -- Slashes and dots at the end lead to directories.
    rcases entered_cases led with rfl | rfl | rfl
    · cases present.symm.trans file
    · cases (nested directory present).symm.trans file
    · exact ⟨above, directory, part, rfl, around, located⟩

/-- A name joined to the path of a directory is looked for in that directory. -/
theorem locate_join (located : tree.locate (Path.join above name) = .ok location)
    (proper : name ∉ ["", ".", ".."]) (whole : '/' ∉ name.toList) :
    ∃ directory, tree.locateDirectory above = .ok directory ∧ location = directory ++ [name] := by
  have last {start : Location} (led : tree.leads start name.toList = .ok location) :
      tree.entryAt start = some .directory ∧ location = start ++ [name] := by
    rw [leads_eq_ok_iff whole, String.ofList_toList] at led
    exact ⟨led.1, ((entered_of_proper proper).mp led.2).2.symm⟩
  have led := (locate_eq_ok_iff.mp located).2
  obtain ⟨rfl, joined⟩ | ⟨before, parted, joined⟩ | ⟨filled, joined⟩ := Path.join_cases above name
  · rw [joined, startAt_of_relative whole] at led
    exact ⟨_, rfl, (last led).2⟩
  · have filled : above ≠ "" := by
      rintro rfl
      simp at parted
    rw [joined, leads_append_slash, ← joined] at led
    obtain ⟨directory, around, led⟩ := bind_eq_ok_iff.mp led
    obtain ⟨present, same⟩ := last led
    refine ⟨directory, ?_, same⟩
    rw [locateDirectory, if_neg filled]
    apply locate_of_begins located filled
    · rw [parted, joined]
      exact ⟨name.toList, by simp⟩
    · rw [parted]
      exact (leads_append_slash_stay _ (.inl rfl)).mpr ⟨around, present⟩
  · rw [joined, leads_append_slash, ← joined] at led
    obtain ⟨directory, around, led⟩ := bind_eq_ok_iff.mp led
    refine ⟨directory, ?_, (last led).2⟩
    rw [locateDirectory, if_neg filled]
    apply locate_of_begins located filled _ around
    rw [joined]
    exact ⟨'/' :: name.toList, rfl⟩

theorem KeepsDirectories.locateDirectory {before after : FileTree}
    (keeps : KeepsDirectories before after) (located : before.locateDirectory path = .ok location) :
    after.locateDirectory path = .ok location := by
  unfold FileTree.locateDirectory at located ⊢
  split
  · next empty =>
    rw [if_pos empty] at located
    rw [keeps.workingDirectory, located]
  · next filled =>
    rw [if_neg filled] at located
    exact keeps.locate located

end FileTree

end ContractWrapper
