import ContractWrapper.Files.Tree
import ContractWrapper.Proofs.Failure

/-! Trees of files that grow.

Where a path leads depends only on which locations are directories. Directories are made and files
are written where no directory is, so that a path that leads somewhere goes on leading there.
-/

set_option autoImplicit false

namespace ContractWrapper

open Failure (bind_eq_ok_iff)

/-- The first path is reached from the second one by taking off last parts. -/
inductive Path.IsAbove : String → String → Prop where
  | parent {above path : String} (parent : Path.parent? path = some above) : IsAbove above path
  | further {above between path : String} (parent : Path.parent? path = some between)
      (rest : IsAbove above between) : IsAbove above path

theorem Path.mem_ancestorsWithin {count : Nat} {path above : String}
    (member : above ∈ ancestorsWithin count path) : above = path ∨ IsAbove above path := by
  induction count generalizing path with
  | zero => cases member
  | succ count ih =>
    unfold ancestorsWithin at member
    split at member
    · exact .inl (List.mem_singleton.mp member)
    · next between parent =>
      rcases List.mem_cons.mp member with same | later
      · exact .inl same
      · rcases ih later with rfl | further
        · exact .inr (.parent parent)
        · exact .inr (.further parent further)

/-- All paths around the directory of a file are above the file. -/
theorem Path.isAbove_of_mem_ancestors {path directory above : String}
    (parent : parent? path = some directory) (member : above ∈ ancestors directory) :
    IsAbove above path := by
  rcases mem_ancestorsWithin member with rfl | further
  · exact .parent parent
  · exact .further parent further

namespace FileTree

variable {tree before after : FileTree} {path : String}

section Paths

theorem requireDirectory_eq_ok_iff {location : Location} :
    tree.requireDirectory location = .ok () ↔ tree.entryAt location = some .directory := by
  unfold requireDirectory
  split <;> simp_all

/-- Where one part leads from a directory. -/
def entered (location : Location) (part : String) : Except FileError Location :=
  if part == "" || part == "." then .ok location
  else if part == ".." then .ok location.dropLast
  else if nameLimit < part.utf8ByteSize then .error .nameTooLong
  else .ok (location ++ [part])

theorem walk_cons (tree : FileTree) (location : Location) (part : String) (rest : List String) :
    tree.walk location (part :: rest) = (do
      tree.requireDirectory location
      let next ← entered location part
      tree.walk next rest) := by
  rw [walk]
  refine congrArg (_ >>= ·) (funext fun _ => ?_)
  unfold entered
  split
  · rfl
  · split
    · rfl
    · split <;> rfl

theorem walk_append (tree : FileTree) (start : Location) (parts others : List String) :
    tree.walk start (parts ++ others) =
      tree.walk start parts >>= fun location => tree.walk location others := by
  induction parts generalizing start with
  | nil => rfl
  | cons part rest ih => simp only [List.cons_append, walk_cons, bind_assoc, ih]

-- Slashes at the end of a path stay at a directory.
theorem walk_blanks {location : Location} (present : tree.entryAt location = some .directory)
    (count : Nat) : tree.walk location (List.replicate count "") = .ok location := by
  induction count with
  | zero => rfl
  | succ count ih =>
    rw [List.replicate_succ, walk_cons, requireDirectory_eq_ok_iff.mpr present]
    exact ih

theorem entered_of_proper {location next : Location} {name : String}
    (proper : name ∉ ["", ".", ".."]) :
    entered location name = .ok next ↔
      name.utf8ByteSize ≤ nameLimit ∧ location ++ [name] = next := by
  simp only [List.mem_cons, List.not_mem_nil, or_false, not_or] at proper
  by_cases long : nameLimit < name.utf8ByteSize
  · simp [entered, proper, long, Nat.not_le.mpr long]
  · simp [entered, proper, long, Nat.not_lt.mp long]

theorem walk_name {location : Location} {name : String} (proper : name ∉ ["", ".", ".."])
    (short : name.utf8ByteSize ≤ nameLimit)
    (present : tree.entryAt location = some .directory) (rest : List String) :
    tree.walk location (name :: rest) = tree.walk (location ++ [name]) rest := by
  have named := (@entered_of_proper location _ name proper).mpr ⟨short, rfl⟩
  rw [walk_cons, requireDirectory_eq_ok_iff.mpr present, named]
  rfl

-- Reading from behind, slashes are empty parts up to the first part that is none.
theorem eq_of_dropWhile_reverse {parts earlier : List String} {last : String}
    (dropped : parts.reverse.dropWhile (· == "") = last :: earlier) :
    last ≠ "" ∧ ∃ count, parts = earlier.reverse ++ last :: List.replicate count "" := by
  have stopped := List.head?_dropWhile_not (· == "") parts.reverse
  rw [dropped] at stopped
  have blank : ∀ part ∈ parts.reverse.takeWhile (· == ""), part = "" := fun part member =>
    eq_of_beq (List.all_eq_true.mp List.all_takeWhile part member)
  obtain ⟨count, blanks⟩ : ∃ count, parts.reverse.takeWhile (· == "") = List.replicate count "" :=
    ⟨_, List.eq_replicate_of_mem blank⟩
  have whole := List.takeWhile_append_dropWhile (p := (· == "")) (l := parts.reverse)
  rw [dropped, blanks] at whole
  refine ⟨by simpa using stopped, count, ?_⟩
  rw [List.reverse_eq_append_iff.mp whole.symm]
  simp

/-- The parts of a path that asks for a name in a directory; slashes may stand behind the name. -/
theorem parts_of_target {directory : Location} {name : String} {slashes : Bool}
    (found : tree.target path = .ok (directory, some name, slashes)) :
    ∃ start parts count, tree.startOf path = .ok (start, parts ++ name :: List.replicate count "") ∧
      tree.walk start parts = .ok directory ∧ tree.entryAt directory = some .directory ∧
      name ∉ ["", ".", ".."] ∧ (slashes = false → count = 0) := by
  rw [target] at found
  obtain ⟨⟨start, all⟩, started, found⟩ := bind_eq_ok_iff.mp found
  simp only at found
  split at found
  · cases found
  · next last earlier dropped =>
    obtain ⟨directory, walked, found⟩ := bind_eq_ok_iff.mp found
    obtain ⟨⟨⟩, present, found⟩ := bind_eq_ok_iff.mp found
    obtain ⟨nonempty, count, rfl⟩ := eq_of_dropWhile_reverse dropped
    split at found
    · cases found
    · next proper =>
      cases found
      refine ⟨start, earlier.reverse, count, started, walked,
        requireDirectory_eq_ok_iff.mp present, by simpa [nonempty] using proper, ?_⟩
      intro unslashed
      cases count with
      | zero => rfl
      | succ count =>
        have blank : (earlier.reverse ++ name :: List.replicate (count + 1) "").getLast? =
            some "" := by
          rw [List.replicate_succ', ← List.cons_append, ← List.append_assoc, List.getLast?_concat]
        simp [blank] at unslashed

end Paths

/-- Directories stay directories, and relative paths start where they did. -/
structure KeepsDirectories (before after : FileTree) : Prop where
  workingDirectory : after.workingDirectory = before.workingDirectory
  directory : ∀ location, before.entryAt location = some .directory →
    after.entryAt location = some .directory

namespace KeepsDirectories

theorem startOf (keeps : KeepsDirectories before after) (path : String) :
    after.startOf path = before.startOf path := by
  rw [FileTree.startOf, FileTree.startOf, keeps.workingDirectory]

theorem walk (keeps : KeepsDirectories before after) {start found : Location}
    {parts : List String} (walked : before.walk start parts = .ok found) :
    after.walk start parts = .ok found := by
  induction parts generalizing start with
  | nil => exact walked
  | cons part rest ih =>
    rw [walk_cons, bind_eq_ok_iff] at walked ⊢
    obtain ⟨⟨⟩, present, walked⟩ := walked
    obtain ⟨next, led, walked⟩ := bind_eq_ok_iff.mp walked
    have kept := keeps.directory _ (requireDirectory_eq_ok_iff.mp present)
    exact ⟨(), requireDirectory_eq_ok_iff.mpr kept, bind_eq_ok_iff.mpr ⟨next, led, ih walked⟩⟩

/-- A path that leads somewhere leads there for ever. -/
theorem locate (keeps : KeepsDirectories before after) {location : Location}
    (located : before.locate path = .ok location) : after.locate path = .ok location := by
  rw [FileTree.locate, bind_eq_ok_iff] at located ⊢
  obtain ⟨⟨start, parts⟩, started, walked⟩ := located
  exact ⟨_, (keeps.startOf path).trans started, keeps.walk walked⟩

theorem put {location : Location} (entry : Entry)
    (free : tree.entryAt location ≠ some .directory) :
    KeepsDirectories tree (tree.put location entry) where
  workingDirectory := rfl
  directory := by
    intro other present
    have different : other ≠ location := fun same => free (same ▸ present)
    rw [entryAt_put_of_ne tree entry different, present]

end KeepsDirectories

section Changes

variable {directory : Location} {name : String} {slashes : Bool} {entry : Entry}

/-- Where something is put at the target of a path, the path leads to it. -/
theorem locate_put (found : tree.target path = .ok (directory, some name, slashes))
    (short : name.utf8ByteSize ≤ nameLimit)
    (free : tree.entryAt (directory ++ [name]) ≠ some .directory)
    (fits : slashes = true → entry = .directory) :
    (tree.put (directory ++ [name]) entry).locate path = .ok (directory ++ [name]) := by
  obtain ⟨start, parts, count, started, walked, present, proper, unslashed⟩ :=
    parts_of_target found
  have keeps := KeepsDirectories.put entry free
  rw [locate, keeps.startOf, started]
  refine (walk_append _ start parts _).trans ?_
  rw [keeps.walk walked]
  refine (walk_name proper short (keeps.directory _ present) _).trans ?_
  cases slashes with
  | false =>
    rw [unslashed rfl]
    rfl
  | true =>
    cases fits rfl
    exact walk_blanks (entryAt_put_self tree _ (by simp)) count

theorem place_eq_ok_iff {location : Location} {present : Option Entry} :
    tree.place directory name = .ok (location, present) ↔
      name.utf8ByteSize ≤ nameLimit ∧ location = directory ++ [name] ∧
        present = tree.entryAt (directory ++ [name]) := by
  simp only [place]
  split
  · next long => simp [Nat.not_le.mpr long]
  · next short => simp [Nat.not_lt.mp short, eq_comm]

/-- A directory is made where nothing was, and the path leads to it. -/
theorem makeDirectoryAt_eq_ok (made : before.makeDirectoryAt path = .ok after) :
    ∃ location, before.entryAt location = none ∧ after = before.put location .directory ∧
      after.locate path = .ok location := by
  obtain ⟨⟨directory, name, slashes⟩, found, made⟩ := bind_eq_ok_iff.mp made
  cases name with
  | none => cases made
  | some name =>
    obtain ⟨⟨location, present⟩, placed, made⟩ := bind_eq_ok_iff.mp made
    obtain ⟨short, rfl, rfl⟩ := place_eq_ok_iff.mp placed
    cases free : before.entryAt (directory ++ [name]) with
    | some entry =>
      rw [free] at made
      cases made
    | none =>
      rw [free] at made
      cases made
      refine ⟨_, free, rfl, locate_put found short ?_ fun _ => rfl⟩
      rw [free]
      nofun

/-- A file is written where no directory is, and the path leads to it. -/
theorem write_eq_ok {content : ByteArray} (written : before.write path content = .ok after) :
    ∃ location, before.entryAt location ≠ some .directory ∧
      after = before.put location (.file content) ∧ after.locate path = .ok location := by
  obtain ⟨⟨directory, name, slashes⟩, found, written⟩ := bind_eq_ok_iff.mp written
  split at written
  · cases written
  · cases written
  · next directory name same =>
    cases same
    obtain ⟨⟨location, present⟩, placed, written⟩ := bind_eq_ok_iff.mp written
    obtain ⟨short, rfl, rfl⟩ := place_eq_ok_iff.mp placed
    split at written
    · cases written
    · next location present free same =>
      cases same
      cases written
      exact ⟨_, free, rfl, locate_put found short free nofun⟩

end Changes

section Runs

theorem run_bind {α β : Type} (first : StateM FileTree α) (next : α → StateM FileTree β)
    (tree : FileTree) :
    (first >>= next).run tree = (next (first.run tree).1).run (first.run tree).2 := rfl

theorem run_makeOrKeep (tree : FileTree) (path : String) :
    (Host.makeOrKeep path : StateM FileTree _).run tree =
      match tree.makeDirectoryAt path with
      | .ok made => (.ok (), made)
      | .error cause => (if tree.isDirectoryAt path then .ok () else .error cause, tree) := by
  have made : (Host.makeDirectory path : StateM FileTree _).run tree =
      attempt (·.makeDirectoryAt path) tree := rfl
  rw [Host.makeOrKeep, run_bind, made, attempt]
  cases tree.makeDirectoryAt path with
  | ok made => rfl
  | error cause =>
    have asked : (Host.isDirectory path : StateM FileTree _).run tree =
        (tree.isDirectoryAt path, tree) := rfl
    rw [run_bind, asked]
    cases tree.isDirectoryAt path <;> rfl

theorem run_makeEach_cons (tree : FileTree) {path : String} (around : List String)
    (nonempty : path ≠ "") :
    (Host.makeEach (path :: around) : StateM FileTree _).run tree =
      match (Host.makeOrKeep path : StateM FileTree _).run tree with
      | (.error .notFound, missing) =>
        match (Host.makeEach around : StateM FileTree _).run missing with
        | (.ok (), made) => (Host.makeOrKeep path : StateM FileTree _).run made
        | (.error cause, left) => (.error cause, left)
      | (answer, left) => (answer, left) := by
  rw [Host.makeEach, if_neg (by simpa using nonempty), run_bind]
  rcases (Host.makeOrKeep path : StateM FileTree _).run tree with ⟨cause | _, between⟩
  · cases cause with
    | notFound =>
      dsimp only
      rw [run_bind]
      rcases (Host.makeEach around : StateM FileTree _).run between with ⟨_ | _, left⟩ <;> rfl
    | _ => rfl
  · rfl

end Runs

/-- Nothing has been done but to make missing directories to which one of the paths leads. -/
structure MadeDirectories (paths : List String) (before after : FileTree) : Prop where
  workingDirectory : after.workingDirectory = before.workingDirectory
  made : ∀ location, after.entryAt location = before.entryAt location ∨
    before.entryAt location = none ∧ after.entryAt location = some .directory ∧
      ∃ path ∈ paths, after.locate path = .ok location

namespace MadeDirectories

variable {paths : List String}

theorem refl (paths : List String) (tree : FileTree) : MadeDirectories paths tree tree :=
  ⟨rfl, fun _ => .inl rfl⟩

theorem keeps (grown : MadeDirectories paths before after) : KeepsDirectories before after where
  workingDirectory := grown.workingDirectory
  directory := by
    intro location present
    rcases grown.made location with same | ⟨-, made, -⟩
    · rw [same, present]
    · exact made

theorem mono {others : List String} (grown : MadeDirectories paths before after)
    (listed : paths ⊆ others) : MadeDirectories others before after where
  workingDirectory := grown.workingDirectory
  made := by
    intro location
    rcases grown.made location with same | ⟨missing, made, path, member, located⟩
    · exact .inl same
    · exact .inr ⟨missing, made, path, listed member, located⟩

theorem trans {between : FileTree} (first : MadeDirectories paths before between)
    (next : MadeDirectories paths between after) : MadeDirectories paths before after where
  workingDirectory := next.workingDirectory.trans first.workingDirectory
  made := by
    intro location
    rcases first.made location with same | ⟨missing, made, path, member, located⟩
    · rw [← same]
      exact next.made location
    · exact .inr ⟨missing, next.keeps.directory location made, path, member,
        next.keeps.locate located⟩

theorem of_makeDirectoryAt (made : before.makeDirectoryAt path = .ok after) :
    MadeDirectories [path] before after := by
  obtain ⟨location, missing, rfl, located⟩ := makeDirectoryAt_eq_ok made
  refine ⟨rfl, fun other => ?_⟩
  by_cases here : other = location
  · subst here
    have inside : other ≠ [] := by
      rintro rfl
      cases missing
    exact .inr ⟨missing, entryAt_put_self before _ inside, path, List.mem_singleton_self path,
      located⟩
  · exact .inl (entryAt_put_of_ne before _ here)

theorem makeOrKeep (tree : FileTree) (path : String) :
    MadeDirectories [path] tree ((Host.makeOrKeep path : StateM FileTree _).run tree).2 := by
  rw [run_makeOrKeep]
  split
  · next changed made => exact of_makeDirectoryAt made
  · exact .refl _ _

/-- Whether it succeeds or not, only missing directories are made. -/
theorem makeEach (tree : FileTree) (paths : List String) :
    MadeDirectories paths tree ((Host.makeEach paths : StateM FileTree _).run tree).2 := by
  induction paths generalizing tree with
  | nil => exact .refl _ _
  | cons path around ih =>
    by_cases empty : path = ""
    · rw [Host.makeEach, if_pos (beq_iff_eq.mpr empty)]
      exact .refl _ _
    have own (start : FileTree) : MadeDirectories (path :: around) start
        ((Host.makeOrKeep path : StateM FileTree _).run start).2 :=
      (makeOrKeep start path).mono (List.cons_subset_cons path (List.nil_subset around))
    have first := own tree
    rw [run_makeEach_cons tree around empty]
    split
    · next missing refused =>
      rw [refused] at first
      have further := (ih missing).mono (List.subset_cons_self path around)
      split
      · next made reached =>
        rw [reached] at further
        exact (first.trans further).trans (own made)
      · next cause left reached =>
        rw [reached] at further
        exact first.trans further
    · next answer left _ reached =>
      rw [reached] at first
      exact first

end MadeDirectories

end FileTree

end ContractWrapper
