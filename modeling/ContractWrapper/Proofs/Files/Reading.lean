import ContractWrapper.CommandLine.Run
import ContractWrapper.Files.Tree
import ContractWrapper.Proofs.Failure

/-! Actions on a tree of files.

An action answers something and leaves a tree behind. Most of a command only reads: such an action
leaves the tree as it finds it, so that its answer is a function of this one tree.
-/

set_option autoImplicit false

namespace ContractWrapper.FileTree

variable {α β : Type}

def perform (tree : FileTree) (action : Action (StateM FileTree) α) :
    Except GenerationError α × FileTree :=
  action.run.run tree

/-- What an action answers on a tree. -/
def answer (tree : FileTree) (action : Action (StateM FileTree) α) : Except GenerationError α :=
  (tree.perform action).1

/-- The tree that an action leaves behind. -/
def after (tree : FileTree) (action : Action (StateM FileTree) α) : FileTree :=
  (tree.perform action).2

/-- The action changes no tree, whether it succeeds or fails. -/
def ReadsOnly (action : Action (StateM FileTree) α) : Prop :=
  ∀ tree : FileTree, tree.after action = tree

section Steps

variable (tree : FileTree)

theorem perform_orFail (use : FileUse) (path : String)
    (request : StateM FileTree (Except FileError α)) :
    tree.perform (Host.orFail use path request) =
      ((request.run tree).1.mapError (.file use path), (request.run tree).2) := rfl

/-- What a host refuses is reported with the use and the path. -/
theorem file_of_orFail {use : FileUse} {path : String}
    {request : StateM FileTree (Except FileError α)} {error : GenerationError}
    (failed : tree.answer (Host.orFail use path request) = .error error) :
    ∃ cause, .file use path cause = error := by
  obtain ⟨cause, -, same⟩ := Failure.mapError_eq_error_iff.mp failed
  exact ⟨cause, same⟩

@[simp] theorem answer_readText (use : FileUse) (path : String) :
    tree.answer (Host.orFail use path (Host.readText path)) =
      (tree.read path >>= Host.textOf).mapError (.file use path) := rfl

theorem perform_bind (first : Action (StateM FileTree) α)
    (next : α → Action (StateM FileTree) β) :
    tree.perform (first >>= next) =
      match tree.perform first with
      | (.ok value, rest) => rest.perform (next value)
      | (.error error, rest) => (.error error, rest) := by
  rw [perform, ExceptT.run_bind, StateT.run_bind, perform]
  rcases first.run.run tree with ⟨error | value, rest⟩ <;> rfl

theorem answer_bind (first : Action (StateM FileTree) α)
    (next : α → Action (StateM FileTree) β) :
    tree.answer (first >>= next) =
      tree.answer first >>= fun value => (tree.after first).answer (next value) := by
  rw [answer, answer, after, perform_bind]
  rcases tree.perform first with ⟨error | value, rest⟩ <;> rfl

theorem after_bind (first : Action (StateM FileTree) α)
    (next : α → Action (StateM FileTree) β) :
    tree.after (first >>= next) =
      match tree.answer first with
      | .ok value => (tree.after first).after (next value)
      | .error _ => tree.after first := by
  rw [answer, after, after, perform_bind]
  rcases tree.perform first with ⟨error | value, rest⟩ <;> rfl

theorem forM_report (events : List Event) :
    (events.forM Host.report : StateM FileTree PUnit).run tree = ((), tree) := by
  induction events with
  | nil => rfl
  | cons event rest ih => exact ih

theorem perform_follow (traced : Traced α) :
    tree.perform (Host.follow traced) = (traced.result, tree) := by
  have steps : tree.perform (Host.follow traced) =
      (traced.events.forM Host.report >>= fun _ =>
        (pure traced.result : StateM FileTree (Except GenerationError α))).run tree := rfl
  rw [steps, StateT.run_bind, forM_report]
  rfl

@[simp] theorem answer_follow (traced : Traced α) :
    tree.answer (Host.follow traced) = traced.result := by
  rw [answer, perform_follow]

end Steps

namespace ReadsOnly

protected theorem pure (value : α) : ReadsOnly (pure value) := fun _ => rfl

protected theorem of (result : Except GenerationError α) : ReadsOnly (Action.of result) :=
  fun _ => rfl

theorem readText (use : FileUse) (path : String) :
    ReadsOnly (Host.orFail use path (Host.readText path)) := fun _ => rfl

theorem isDirectory (path : String) :
    ReadsOnly (Host.isDirectory path : StateM FileTree Bool) := fun _ => rfl

theorem follow (traced : Traced α) : ReadsOnly (Host.follow traced) := by
  intro tree
  rw [after, perform_follow]

protected theorem bind {first : Action (StateM FileTree) α}
    {next : α → Action (StateM FileTree) β} (reads : ReadsOnly first)
    (then_reads : ∀ value, ReadsOnly (next value)) : ReadsOnly (first >>= next) := by
  intro tree
  rw [after_bind, reads tree]
  split
  · next value _ => exact then_reads value tree
  · rfl

/-- What follows an action that only reads starts on the same tree. -/
theorem answer_bind {first : Action (StateM FileTree) α} (reads : ReadsOnly first)
    (next : α → Action (StateM FileTree) β) (tree : FileTree) :
    tree.answer (first >>= next) = tree.answer first >>= fun value => tree.answer (next value) := by
  rw [FileTree.answer_bind, reads tree]

end ReadsOnly

section Commands

variable (tree : FileTree)

theorem readsOnly_baseSettings (path : Option String) : ReadsOnly (baseSettings path) := by
  cases path with
  | none => exact .pure _
  | some path => exact .bind (.readText _ _) fun _ => .of _

theorem readsOnly_settings (request : GenerateRequest) : ReadsOnly request.settings :=
  .bind (readsOnly_baseSettings _) fun _ => .of _

theorem answer_settings (request : GenerateRequest) :
    tree.answer request.settings = tree.answer (baseSettings request.settingsPath) >>=
      fun base => (request.adjust base).mapError .settings :=
  (readsOnly_baseSettings _).answer_bind _ tree

theorem readsOnly_inspectPolicy (request : InspectRequest) :
    ReadsOnly (inspectPolicy request) := by
  unfold inspectPolicy
  cases request.overloads with
  | none => exact .bind (readsOnly_baseSettings _) fun _ => .pure _
  | some policy => exact .of _

theorem readsOnly_readInterface (path : String) : ReadsOnly (readInterface path) :=
  .bind (.readText _ _) fun _ => .follow _

/-- A listing changes nothing. -/
theorem readsOnly_runInspect (request : InspectRequest) : ReadsOnly (runInspect request) :=
  .bind (readsOnly_inspectPolicy request) fun _ =>
    .bind (readsOnly_readInterface _) fun _ => .follow _

theorem answer_readInterface (path : String) :
    tree.answer (readInterface path) =
      (tree.read path >>= Host.textOf).mapError (.file .readInterface path) >>= fun text =>
        (Interface.ofText text).result := by
  rw [readInterface, (ReadsOnly.readText _ _).answer_bind]
  simp only [answer_readText, answer_follow]

theorem readsOnly_prepareWrapper (settings : Settings) (interfacePath : String)
    (out : Option String) : ReadsOnly (prepareWrapper settings interfacePath out) := by
  refine .bind (readsOnly_readInterface _) fun _ => .bind (.follow _) fun _ => ?_
  cases out with
  | none => exact .bind (.pure _) fun _ => .pure _
  | some path => exact .bind (.isDirectory path) fun _ => .pure _

theorem answer_prepareWrapper (settings : Settings) (interfacePath : String)
    (out : Option String) :
    tree.answer (prepareWrapper settings interfacePath out) = do
      let description ← tree.answer (readInterface interfacePath)
      let wrapper ← (Wrapper.ofInterface settings (Path.fileStem? interfacePath)
        description).result
      return (outputPath interfacePath out (out.any tree.isDirectoryAt) wrapper.fileName,
        wrapper) := by
  rw [prepareWrapper, (readsOnly_readInterface _).answer_bind]
  refine congrArg (_ >>= ·) (funext fun description => ?_)
  rw [(ReadsOnly.follow _).answer_bind, answer_follow]
  refine congrArg (_ >>= ·) (funext fun wrapper => ?_)
  cases out <;> rfl

end Commands

end ContractWrapper.FileTree
