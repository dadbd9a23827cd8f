import ContractWrapper.Proofs.Files.Growth
import ContractWrapper.Proofs.Files.Reading

/-! What a generation leaves behind.

Everything before the last step only reads. The last step makes the directories around the output
that are missing and then writes the output, so that nothing else changes and a run without it gives
the same path and the same text.
-/

set_option autoImplicit false

namespace ContractWrapper

open Failure (bind_eq_ok_iff bind_eq_error_iff mapError_eq_ok_iff)

namespace FileTree

/-- A file with this content stands where the path leads. Nothing else has changed, except that
directories which were missing above the file have been made. -/
structure WroteFile (path : String) (content : ByteArray) (before after : FileTree) : Prop where
  workingDirectory : after.workingDirectory = before.workingDirectory
  read : after.read path = .ok content
  others : ∃ location, after.locate path = .ok location ∧
    before.entryAt location ≠ some .directory ∧
    ∀ other, other ≠ location → after.entryAt other = before.entryAt other ∨
      before.entryAt other = none ∧ after.entryAt other = some .directory ∧
        ∃ above, Path.IsAbove above path ∧ after.locate above = .ok other

/-- A file is written where no directory is. -/
theorem WroteFile.keeps {path : String} {content : ByteArray} {before after : FileTree}
    (wrote : WroteFile path content before after) : KeepsDirectories before after where
  workingDirectory := wrote.workingDirectory
  directory := by
    intro other present
    obtain ⟨location, -, free, others⟩ := wrote.others
    have different : other ≠ location := fun same => free (same ▸ present)
    rcases others other different with same | ⟨missing, -⟩
    · rw [same, present]
    · cases missing.symm.trans present

section Write

variable {before between after : FileTree} {path : String} {content : ByteArray}

theorem wroteFile_of_write {paths : List String}
    (around : ∀ above ∈ paths, Path.IsAbove above path)
    (made : MadeDirectories paths before between)
    (written : between.write path content = .ok after) :
    WroteFile path content before after := by
  obtain ⟨location, free, rfl, located⟩ := write_eq_ok written
  have keeps := KeepsDirectories.put (.file content) free
  have inside : location ≠ [] := by
    rintro rfl
    exact free rfl
  refine ⟨made.workingDirectory, ?read, location, located, ?unoccupied, ?others⟩
  case read =>
    rw [FileTree.read, located]
    simp only [bind, Except.bind, entryAt_put_self between (.file content) inside]
  case unoccupied =>
    exact fun occupied => free (made.keeps.directory location occupied)
  case others =>
    intro other different
    rw [entryAt_put_of_ne between (.file content) different]
    rcases made.made other with same | ⟨missing, made, above, member, led⟩
    · exact .inl same
    · exact .inr ⟨missing, made, above, around above member, keeps.locate led⟩

end Write

end FileTree

/-- The directory around the output is not made, or the output is not written. -/
def GenerationError.isOutputFailure : GenerationError → Bool
  | .file .createDirectory .. | .file .writeWrapper .. => true
  | _ => false

section Output

variable {m : Type → Type} [Monad m] [Host m]

/-- The directory around a file is made, where the path names one. -/
def makeParent (path : String) : Action m Unit :=
  match Path.parent? path with
  | none | some "" => pure ()
  | some directory => Host.orFail .createDirectory directory (Host.makeDirectories directory)

/-- What a generation does before it writes. -/
def GenerateRequest.prepare (request : GenerateRequest) : Action m (String × Wrapper) := do
  let settings ← request.settings
  prepareWrapper settings request.interfacePath request.out

/-- What a generation does with the wrapper that it has made. -/
def GenerateRequest.finish (request : GenerateRequest) (path : String) (wrapper : Wrapper) :
    Action m String :=
  if request.dryRun then return dryRunText path wrapper.source
  else do
    writeWrapper path wrapper.source
    return "Generated " ++ path ++ "\n"

end Output

namespace FileTree

section Writing

variable {tree : FileTree} {path source : String} {error : GenerationError}

theorem writeWrapper_eq_bind (path source : String) :
    (writeWrapper path source : Action (StateM FileTree) Unit) = makeParent path >>= fun _ =>
      Host.orFail .writeWrapper path (Host.writeBytes path source.toUTF8) := by
  unfold writeWrapper makeParent
  split <;> simp [*]

theorem madeDirectories_makeParent (tree : FileTree) (path : String) :
    ∃ paths, (∀ above ∈ paths, Path.IsAbove above path) ∧
      MadeDirectories paths tree (tree.after (makeParent path)) := by
  unfold makeParent
  split
  · exact ⟨[], nofun, .refl [] tree⟩
  · exact ⟨[], nofun, .refl [] tree⟩
  · next directory _ parent =>
    exact ⟨Path.ancestors directory,
      fun above member => Path.isAbove_of_mem_ancestors parent member, .makeEach tree _⟩

theorem isOutputFailure_of_makeParent (failed : tree.answer (makeParent path) = .error error) :
    error.isOutputFailure = true := by
  unfold makeParent at failed
  split at failed
  · cases failed
  · cases failed
  · obtain ⟨cause, rfl⟩ := file_of_orFail tree failed
    rfl

theorem isOutputFailure_of_writeWrapper
    (failed : tree.answer (writeWrapper path source) = .error error) :
    error.isOutputFailure = true := by
  rw [writeWrapper_eq_bind, answer_bind] at failed
  obtain failed | ⟨⟨⟩, -, failed⟩ := bind_eq_error_iff.mp failed
  · exact isOutputFailure_of_makeParent failed
  · obtain ⟨cause, rfl⟩ := file_of_orFail _ failed
    rfl

theorem wroteFile_of_writeWrapper (succeeded : tree.answer (writeWrapper path source) = .ok ()) :
    WroteFile path source.toUTF8 tree (tree.after (writeWrapper path source)) := by
  obtain ⟨paths, around, made⟩ := madeDirectories_makeParent tree path
  rw [writeWrapper_eq_bind, answer_bind] at succeeded
  obtain ⟨⟨⟩, parent, succeeded⟩ := bind_eq_ok_iff.mp succeeded
  rw [writeWrapper_eq_bind, after_bind, parent]
  generalize tree.after (makeParent path) = between at made succeeded
  have asked : (Host.writeBytes path source.toUTF8 : StateM FileTree _).run between =
      attempt (·.write path source.toUTF8) between := rfl
  rw [answer, perform_orFail, asked, attempt] at succeeded
  simp only [after, perform_orFail, asked, attempt]
  cases written : between.write path source.toUTF8 with
  | ok after => exact wroteFile_of_write around made written
  | error cause =>
    rw [written] at succeeded
    cases succeeded

end Writing

/-- What a request comes to on a tree before anything is written: the wrapper of the text that the
interface file holds, and where it belongs. -/
def Prepares (tree : FileTree) (request : GenerateRequest) (path : String) (wrapper : Wrapper) :
    Prop :=
  ∃ settings text, tree.answer request.settings = .ok settings ∧
    (tree.read request.interfacePath >>= Host.textOf) = .ok text ∧
    (Wrapper.generate settings (Path.fileStem? request.interfacePath) text).result = .ok wrapper ∧
    path = outputPath request.interfacePath request.out
      (request.out.any tree.isDirectoryAt) wrapper.fileName

section Generation

variable {tree : FileTree} {request : GenerateRequest} {path : String} {wrapper : Wrapper}

theorem readsOnly_prepare (request : GenerateRequest) : ReadsOnly request.prepare :=
  .bind (readsOnly_settings request) fun _ => readsOnly_prepareWrapper _ _ _

theorem prepares_of_answer (prepared : tree.answer request.prepare = .ok (path, wrapper)) :
    tree.Prepares request path wrapper := by
  rw [GenerateRequest.prepare, (readsOnly_settings request).answer_bind] at prepared
  obtain ⟨settings, settled, prepared⟩ := bind_eq_ok_iff.mp prepared
  rw [answer_prepareWrapper, answer_readInterface] at prepared
  obtain ⟨description, read, prepared⟩ := bind_eq_ok_iff.mp prepared
  obtain ⟨text, held, read⟩ := bind_eq_ok_iff.mp read
  obtain ⟨wrapper, generated, same⟩ := bind_eq_ok_iff.mp prepared
  cases same
  refine ⟨settings, text, settled, mapError_eq_ok_iff.mp held, ?_, rfl⟩
  rw [Wrapper.generate, Traced.result_bind, read]
  exact generated

theorem runGenerate_eq_bind (request : GenerateRequest) :
    (runGenerate request : Action (StateM FileTree) String) =
      request.prepare >>= fun made => request.finish made.1 made.2 := by
  rw [GenerateRequest.prepare, bind_assoc]
  rfl

theorem answer_runGenerate (tree : FileTree) (request : GenerateRequest) :
    tree.answer (runGenerate request) =
      tree.answer request.prepare >>= fun made =>
        tree.answer (request.finish made.1 made.2) := by
  rw [runGenerate_eq_bind, (readsOnly_prepare request).answer_bind]

theorem after_runGenerate (tree : FileTree) (request : GenerateRequest) :
    tree.after (runGenerate request) =
      match tree.answer request.prepare with
      | .ok made => tree.after (request.finish made.1 made.2)
      | .error _ => tree := by
  rw [runGenerate_eq_bind, after_bind, readsOnly_prepare request tree]
  cases tree.answer request.prepare <;> rfl

theorem finish_of_dryRun_eq_false (wet : request.dryRun = false) (path : String)
    (wrapper : Wrapper) :
    (request.finish path wrapper : Action (StateM FileTree) String) =
      writeWrapper path wrapper.source >>= fun _ => pure ("Generated " ++ path ++ "\n") := by
  rw [GenerateRequest.finish, wet, if_neg Bool.false_ne_true]

theorem after_of_dryRun (dry : request.dryRun = true) :
    tree.after (runGenerate request) = tree := by
  rw [after_runGenerate]
  split
  · rw [GenerateRequest.finish, if_pos dry]
    rfl
  · rfl

theorem after_of_failure {error : GenerationError}
    (failed : tree.answer (runGenerate request) = .error error)
    (earlier : error.isOutputFailure = false) : tree.after (runGenerate request) = tree := by
  cases dry : request.dryRun with
  | true => exact after_of_dryRun dry
  | false =>
    rw [answer_runGenerate] at failed
    rw [after_runGenerate]
    obtain failed | ⟨⟨path, wrapper⟩, -, failed⟩ := bind_eq_error_iff.mp failed
    · rw [failed]
    · -- Once a wrapper is made, all that is left to fail is writing it.
      rw [finish_of_dryRun_eq_false dry, answer_bind] at failed
      obtain failed | ⟨⟨⟩, -, failed⟩ := bind_eq_error_iff.mp failed
      · cases earlier.symm.trans (isOutputFailure_of_writeWrapper failed)
      · cases failed

/-- A run that succeeds and is no dry run has written what it has prepared. -/
theorem wroteFile_of_answer {output : String} (wet : request.dryRun = false)
    (succeeded : tree.answer (runGenerate request) = .ok output) :
    ∃ path wrapper, tree.answer request.prepare = .ok (path, wrapper) ∧
      output = "Generated " ++ path ++ "\n" ∧
      WroteFile path wrapper.source.toUTF8 tree (tree.after (runGenerate request)) := by
  rw [answer_runGenerate] at succeeded
  obtain ⟨⟨path, wrapper⟩, prepared, succeeded⟩ := bind_eq_ok_iff.mp succeeded
  rw [finish_of_dryRun_eq_false wet, answer_bind] at succeeded
  obtain ⟨⟨⟩, written, succeeded⟩ := bind_eq_ok_iff.mp succeeded
  have left : tree.after (runGenerate request) = tree.after (writeWrapper path wrapper.source) := by
    simp only [after_runGenerate, prepared, finish_of_dryRun_eq_false wet, after_bind, written]
    rfl
  refine ⟨path, wrapper, prepared, (Except.ok.inj succeeded).symm, ?_⟩
  rw [left]
  exact wroteFile_of_writeWrapper written

theorem perform_of_dryRun (prepared : tree.answer request.prepare = .ok (path, wrapper)) :
    tree.perform (runGenerate { request with dryRun := true }) =
      (.ok (dryRunText path wrapper.source), tree) := by
  -- What is prepared does not depend on whether it is written afterwards.
  have same : (({ request with dryRun := true } : GenerateRequest).prepare :
      Action (StateM FileTree) (String × Wrapper)) = request.prepare := rfl
  refine Prod.ext ?_ (after_of_dryRun rfl)
  refine (answer_runGenerate tree _).trans ?_
  rw [same, prepared]
  rfl

end Generation

end FileTree

/-- A generation that fails before it writes changes nothing, and neither does a dry run. A run
that succeeds has written the wrapper to the path that it names and has made the directories that
were missing above it; the rest is left as it was, and a dry run in its place shows that path and
that text. -/
theorem effects_of_generation (tree : FileTree) (request : GenerateRequest) :
    (∀ error, tree.answer (runGenerate request) = .error error → error.isOutputFailure = false →
      tree.after (runGenerate request) = tree) ∧
    (request.dryRun = true → tree.after (runGenerate request) = tree) ∧
    (request.dryRun = false → ∀ output, tree.answer (runGenerate request) = .ok output →
      ∃ path wrapper, tree.Prepares request path wrapper ∧
        output = "Generated " ++ path ++ "\n" ∧
        FileTree.WroteFile path wrapper.source.toUTF8 tree (tree.after (runGenerate request)) ∧
        tree.perform (runGenerate { request with dryRun := true }) =
          (.ok ("\n--- " ++ path ++ " ---\n" ++ wrapper.source ++ "\n"), tree)) := by
  refine ⟨fun _ => FileTree.after_of_failure, FileTree.after_of_dryRun, ?_⟩
  intro wet output succeeded
  obtain ⟨path, wrapper, prepared, shown, wrote⟩ := FileTree.wroteFile_of_answer wet succeeded
  exact ⟨path, wrapper, FileTree.prepares_of_answer prepared, shown, wrote,
    FileTree.perform_of_dryRun prepared⟩

/-- A home directory with an empty interface in it. -/
def tokenTree : FileTree :=
  ⟨["home"], [(["home"], .directory), (["home", "Token.json"], .file "[]".toUTF8)]⟩

def tokenRequest : GenerateRequest where
  interfacePath := "Token.json"
  dialect := none
  framework := none
  className := none
  out := some "build/js/Token.js"
  settingsPath := none
  overloads := none
  noDocs := false
  dryRun := false

/-- A wrapper is written into directories that were missing before, and a dry run shows it. Where
the interface cannot be read nothing is made. -/
theorem token_written :
    tokenTree.answer (runGenerate tokenRequest) = .ok "Generated build/js/Token.js\n" ∧
      (∃ wrapper : Wrapper, (tokenTree.after (runGenerate tokenRequest)).read "build/js/Token.js" =
          .ok wrapper.source.toUTF8 ∧
        tokenTree.perform (runGenerate { tokenRequest with dryRun := true }) =
          (.ok ("\n--- build/js/Token.js ---\n" ++ wrapper.source ++ "\n"), tokenTree)) ∧
      tokenTree.after (runGenerate { tokenRequest with interfacePath := "Coin.json" }) =
        tokenTree := by
  have succeeded : tokenTree.answer (runGenerate tokenRequest) =
      .ok "Generated build/js/Token.js\n" := by rfl
  have failed : tokenTree.answer (runGenerate { tokenRequest with interfacePath := "Coin.json" }) =
      .error (.file .readInterface "Coin.json" .notFound) := by rfl
  obtain ⟨-, -, writes⟩ := effects_of_generation tokenTree tokenRequest
  obtain ⟨path, wrapper, ⟨_, _, -, -, -, rfl⟩, -, wrote, dry⟩ := writes rfl _ succeeded
  exact ⟨succeeded, ⟨wrapper, wrote.read, dry⟩, (effects_of_generation tokenTree
    { tokenRequest with interfacePath := "Coin.json" }).1 _ failed rfl⟩

end ContractWrapper
