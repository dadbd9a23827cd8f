import ContractWrapper.Proofs.Stage.Runs

/-! Methods that have been through all stages.

In their order the stages are never refused while bodies forward the call. Whether comments are
asked for decides only whether a method has one; all else about it stays the same.
-/

set_option autoImplicit false

namespace ContractWrapper

open Failure (bind_eq_ok_iff mapM_eq_ok_map)

/-- All stages, in an order in which none comes too early. -/
def Stage.inOrder : List Stage := [.inputs, .outputs, .body, .comment, .declaration]

namespace Method

/-- The method with all of its literals, its comment among them. -/
def complete (settings : Settings) (method : Method) : Method :=
  method.attemptAll settings callBody Stage.inOrder

/-- The method with those literals that the settings ask for. -/
def finished (settings : Settings) (method : Method) : Method :=
  if settings.emitDocs then method.complete settings
  else (method.complete settings).graft method .comment

/-- The methods differ in nothing but what stages write. -/
def SameFunction (method other : Method) : Prop :=
  ∃ inputs outputs body comment declaration,
    other = { method with inputs, outputs, body, comment, declaration }

variable (settings : Settings) (method : Method)

theorem isSome_written?_complete (stage : Stage) :
    ((method.complete settings).written? stage).isSome := by
  cases stage <;> rfl

theorem assemble_callBody : method.assemble settings callBody = .ok (method.finished settings) := by
  unfold assemble finished stagesOf
  cases settings.emitDocs <;> rfl

-- Comments apart, a finished method does not depend on whether they are asked for.
theorem written?_finished {stage : Stage} (textual : stage ≠ .comment) :
    (method.finished settings).written? stage = (method.complete settings).written? stage := by
  unfold finished
  split
  · rfl
  · rw [written?_graft, if_neg textual]

theorem inputs_finished :
    (method.finished settings).inputs = (method.complete settings).inputs := by
  unfold finished
  split <;> rfl

theorem outputs_finished :
    (method.finished settings).outputs = (method.complete settings).outputs := by
  unfold finished
  split <;> rfl

section SameFunction

variable {method : Method}

theorem SameFunction.trans {other last : Method} (same : method.SameFunction other)
    (next : other.SameFunction last) : method.SameFunction last := by
  obtain ⟨_, _, _, _, _, rfl⟩ := same
  exact next

/-- Two methods that are made from one are made from one another. -/
theorem SameFunction.between {first second : Method} (one : method.SameFunction first)
    (another : method.SameFunction second) : first.SameFunction second := by
  obtain ⟨_, _, _, _, _, rfl⟩ := one
  exact another

theorem sameFunction_graft (source : Method) (stage : Stage) :
    method.SameFunction (method.graft source stage) := by
  cases stage <;> exact ⟨_, _, _, _, _, rfl⟩

theorem sameFunction_attempt (composer : BodyComposer) (stage : Stage) :
    method.SameFunction (method.attempt settings composer stage) := by
  rcases attempt_cases settings composer method stage with same | reached
  · rw [same]
    exact ⟨_, _, _, _, _, rfl⟩
  · rw [eq_graft_of_advance reached]
    exact sameFunction_graft _ stage

theorem sameFunction_attemptAll (composer : BodyComposer) (stages : List Stage) :
    method.SameFunction (method.attemptAll settings composer stages) := by
  induction stages generalizing method with
  | nil => exact ⟨_, _, _, _, _, rfl⟩
  | cons stage rest ih => exact (sameFunction_attempt settings composer stage).trans ih

theorem sameFunction_finished : method.SameFunction (method.finished settings) := by
  have completed : method.SameFunction (method.complete settings) :=
    sameFunction_attemptAll settings callBody Stage.inOrder
  unfold finished
  split
  · exact completed
  · exact completed.trans (sameFunction_graft method .comment)

end SameFunction

end Method

section Build

variable {settings : Settings} {composer : BodyComposer} {functions : List FunctionEntry}

theorem result_assembleMethod (method : Method) :
    (assembleMethod settings composer method).result = method.assemble settings composer := by
  simp only [assembleMethod, Traced.result_bind, Traced.result_of, Traced.result_emit,
    Traced.pure_eq]
  cases method.assemble settings composer <;> rfl

theorem result_buildMethods :
    (buildMethods settings composer functions).result = (do
      let methods ← (group settings.overloadPolicy functions).result
      methods.mapM (Method.assemble settings composer)) := by
  simp only [buildMethods, Traced.result_bind, Traced.result_mapM, result_assembleMethod]

theorem buildMethods_of_group {methods : List Method}
    (grouped : (group settings.overloadPolicy functions).result = .ok methods) :
    (buildMethods settings callBody functions).result =
      .ok (methods.map (Method.finished settings)) := by
  rw [result_buildMethods, grouped]
  exact mapM_eq_ok_map fun method _ => method.assemble_callBody settings

end Build

end ContractWrapper
