import ContractWrapper.Proofs.Class
import ContractWrapper.Proofs.Overload.Numbering
import ContractWrapper.Proofs.Stage.Runs

/-! When the stages of a method may run.

A stage is refused exactly while a literal that it reads is absent, and a refusal changes
nothing. So no literal stands on a method without those that it is made from, and a class is
put together only after each of its methods has been through all that a declaration needs.
-/

set_option autoImplicit false

namespace ContractWrapper

open Failure (map_eq_error_iff)

/-- The stages whose literals a stage reads. -/
def Stage.needs : Stage → List Stage
  | .inputs | .outputs => []
  | .body => [.inputs]
  | .comment => [.inputs, .outputs]
  | .declaration => [.inputs, .outputs, .body]

namespace Method

/-- A literal that the stage reads is absent. -/
def Lacks (method : Method) (stage : Stage) : Prop :=
  ∃ needed ∈ stage.needs, method.written? needed = none

/-- Where a literal stands, all stand that its stage reads. -/
def Orderly (method : Method) : Prop :=
  ∀ stage, (method.written? stage).isSome → ¬ method.Lacks stage

section Step

variable {settings : Settings} {method : Method} {stage : Stage}

-- The composer that forwards the call has a guard of its own; the other stages have theirs here.
theorem advance_outcome (settings : Settings) (method : Method) (stage : Stage) :
    (method.Lacks stage ∧
      ∃ cause, method.advance settings callBody stage = .error (.precondition cause)) ∨
    (¬ method.Lacks stage ∧
      ∃ advanced, method.advance settings callBody stage = .ok advanced) := by
  cases stage with
  | inputs => exact .inr ⟨by simp [Lacks, Stage.needs], _, rfl⟩
  | outputs => exact .inr ⟨by simp [Lacks, Stage.needs], _, rfl⟩
  | body =>
    cases inputs : method.inputs.literal <;>
      simp [Lacks, Stage.needs, written?, advance, callBody, inputs, Except.map]
  | comment =>
    cases inputs : method.inputs.literal <;> cases outputs : method.outputs.literal <;>
      simp [Lacks, Stage.needs, written?, advance, composeComment, commentPieces, inputs, outputs,
        Except.map]
  | declaration =>
    cases inputs : method.inputs.literal <;> cases outputs : method.outputs.literal <;>
      cases body : method.body <;>
        simp [Lacks, Stage.needs, written?, advance, composeDeclaration, inputs, outputs, body,
          Except.map]

theorem exists_advance_eq_error_iff :
    (∃ error, method.advance settings callBody stage = .error error) ↔ method.Lacks stage := by
  rcases advance_outcome settings method stage with ⟨lacks, cause, refused⟩ | ⟨has, result, reached⟩
  · exact ⟨fun _ => lacks, fun _ => ⟨_, refused⟩⟩
  · constructor
    · rintro ⟨error, refused⟩
      cases reached.symm.trans refused
    · intro lacks
      exact absurd lacks has

theorem cause_of_advance_eq_error {error : GenerationError}
    (refused : method.advance settings callBody stage = .error error) :
    ∃ cause, error = .precondition cause := by
  rcases advance_outcome settings method stage with ⟨-, cause, same⟩ | ⟨-, result, reached⟩
  · exact ⟨cause, Except.error.inj (refused.symm.trans same)⟩
  · cases refused.symm.trans reached

end Step

-- No attempt takes away what a stage reads: a literal is overwritten but never erased.
theorem not_lacks_attempt {settings : Settings} {composer : BodyComposer} {method : Method}
    {stage other : Stage} (has : ¬ method.Lacks other) :
    ¬ (method.attempt settings composer stage).Lacks other := by
  rintro ⟨needed, member, absent⟩
  refine has ⟨needed, member, ?_⟩
  cases present : method.written? needed with
  | none => rfl
  | some text =>
    have kept : ((method.attempt settings composer stage).written? needed).isSome :=
      isSome_written?_attempt (Option.isSome_of_eq_some present)
    rw [absent] at kept
    cases kept

theorem Orderly.attempt {settings : Settings} {method : Method} (orderly : method.Orderly)
    (stage : Stage) : (method.attempt settings callBody stage).Orderly := by
  -- The literal either stood before the attempt or is the one that its guard let through.
  intro other present
  apply not_lacks_attempt
  by_cases own : other = stage
  · subst other
    rcases attempt_cases settings callBody method stage with same | reached
    · exact orderly stage (same ▸ present)
    · rcases advance_outcome settings method stage with ⟨-, cause, refused⟩ | ⟨has, -⟩
      · cases reached.symm.trans refused
      · exact has
  · exact orderly other (written?_attempt_of_ne own ▸ present)

theorem Orderly.attemptAll {settings : Settings} {method : Method} (orderly : method.Orderly)
    (stages : List Stage) : (method.attemptAll settings callBody stages).Orderly := by
  induction stages generalizing method with
  | nil => exact orderly
  | cons stage rest ih => exact ih (orderly.attempt stage)

end Method

section Reached

variable {settings : Settings} {policy : OverloadPolicy} {functions : List FunctionEntry}
  {methods reached : List Method} {run : List (Stage × Nat)}

theorem unwritten_of_group (grouped : (group policy functions).result = .ok methods)
    {method : Method} (member : method ∈ methods) (stage : Stage) :
    method.written? stage = none := by
  obtain ⟨inputs, outputs, body, comment, declaration⟩ := unbuilt_of_group grouped member
  cases stage <;> assumption

theorem orderly_of_unwritten {method : Method}
    (unwritten : ∀ stage, method.written? stage = none) : method.Orderly := by
  intro stage present
  rw [unwritten stage] at present
  cases present

/-- The guards of all stages and of the class, and what follows for every state of a run. -/
theorem stages_guarded (grouped : (group settings.overloadPolicy functions).result = .ok methods)
    (ran : runStages settings callBody methods run = reached) :
    (∀ position method stage, reached[position]? = some method →
      ((∃ error, advanceAt settings callBody reached stage position = .error error) ↔
        method.Lacks stage)) ∧
    (∀ position, ∀ stage ∈ [Stage.inputs, .outputs],
      ∃ advanced, advanceAt settings callBody reached stage position = .ok advanced) ∧
    (∀ position stage error, advanceAt settings callBody reached stage position = .error error →
      (∃ cause, error = .precondition cause) ∧
        runStages settings callBody reached [(stage, position)] = reached) ∧
    (∀ className error, composeClass settings className reached = .error error ↔
      ∃ before method after, reached = before ++ method :: after ∧
        (∀ earlier ∈ before, earlier.declaration.isSome) ∧ method.declaration = none ∧
        error = .precondition (.classBeforeDeclaration method.methodName)) ∧
    (∀ method ∈ reached, method.Orderly) ∧
    (∀ className source, composeClass settings className reached = .ok source →
      ∀ position method, reached[position]? = some method →
        ∀ stage ∈ [Stage.inputs, .outputs, .body, .declaration],
          (method.written? stage).isSome ∧ (stage, position) ∈ run) := by
  have orderly : ∀ method ∈ reached, method.Orderly := by
    intro method member
    obtain ⟨position, present⟩ := List.mem_iff_getElem?.mp member
    obtain ⟨start, found, rfl⟩ := start_of_reached ran present
    exact (orderly_of_unwritten (unwritten_of_group grouped
      (List.mem_of_getElem? found))).attemptAll _
  refine ⟨?guard, ?free, ?refusal, fun className error => composeClass_eq_error_iff, orderly,
    ?complete⟩
  case guard =>
    intro position method stage present
    rw [advanceAt_of_getElem? settings callBody reached stage present]
    simp only [map_eq_error_iff]
    exact Method.exists_advance_eq_error_iff
  case free =>
    intro position stage listed
    cases present : reached[position]? with
    | none => exact ⟨reached, by simp only [advanceAt, present]⟩
    | some method =>
      rw [advanceAt_of_getElem? settings callBody reached stage present]
      cases stage with
      | inputs | outputs => exact ⟨_, rfl⟩
      | body | comment | declaration => simp at listed
  case refusal =>
    intro position stage error refused
    refine ⟨?_, runStages_of_refused settings callBody reached refused⟩
    cases present : reached[position]? with
    | none => simp [advanceAt, present] at refused
    | some method =>
      rw [advanceAt_of_getElem? settings callBody reached stage present] at refused
      exact Method.cause_of_advance_eq_error (map_eq_error_iff.mp refused)
  case complete =>
    intro className source composed position method present stage listed
    have member := List.mem_of_getElem? present
    have declared : (method.written? .declaration).isSome :=
      declared_of_composeClass composed method member
    -- The declaration is orderly, so the literals that it is made from are there.
    have written : (method.written? stage).isSome := by
      by_cases last : stage = .declaration
      · exact last ▸ declared
      · refine Option.isSome_iff_ne_none.mpr fun absent => ?_
        have needed : stage ∈ Stage.declaration.needs := by simpa [Stage.needs, last] using listed
        exact orderly method member .declaration declared ⟨stage, needed, absent⟩
    obtain ⟨start, found, rfl⟩ := start_of_reached ran present
    have unwritten := unwritten_of_group grouped (List.mem_of_getElem? found) stage
    exact ⟨written, mem_stagesAt (Method.mem_of_isSome_written? unwritten written)⟩

/-- A read-only function with one unnamed input and one output. -/
def balanceEntry : FunctionEntry where
  name := "balanceOf"
  inputs := [⟨"", "address", none⟩]
  outputs := [⟨"", "uint256", none⟩]
  mutability := "view"
  constant := true
  signature := "balanceOf(address)"
  selector := "0x70a08231"

/-- A declaration that is tried without outputs is passed over, and the class is refused. -/
theorem class_refused_without_outputs :
    (group .mangle [balanceEntry]).result = .ok [.ofFunction .mangle 0 1 balanceEntry] ∧
      composeClass {} "Token" (runStages {} callBody [.ofFunction .mangle 0 1 balanceEntry]
        [(.body, 0), (.inputs, 0), (.body, 0), (.declaration, 0)]) =
        .error (.precondition (.classBeforeDeclaration "balanceOf")) := by
  have grouped : (group .mangle [balanceEntry]).result =
      .ok [.ofFunction .mangle 0 1 balanceEntry] := by rfl
  obtain ⟨-, -, -, refused, -⟩ := @stages_guarded {} [balanceEntry] _ _
    [(.body, 0), (.inputs, 0), (.body, 0), (.declaration, 0)] grouped rfl
  exact ⟨grouped, (refused "Token" _).mpr ⟨[], _, [], rfl, by simp, rfl, rfl⟩⟩

end Reached

end ContractWrapper
