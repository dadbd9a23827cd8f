import ContractWrapper.Proofs.Method.Completion
import ContractWrapper.Proofs.Method.Naming
import ContractWrapper.Proofs.Stage.Guards

/-! Stages in any order and any number.

Whatever stages have been tried on a method, it is decided by which of them went through: each
of their fields holds what the complete method has there. The stages overwrite fields that they
read themselves, and this holds because building a side once more gives the same side.
-/

set_option autoImplicit false

namespace ContractWrapper

/-- The stages of `done` and one more. -/
def Stage.mark (done : Stage → Bool) (stage : Stage) : Stage → Bool :=
  fun other => done other || other == stage

namespace Method

/-- The method after the stages of `done` have gone through. -/
def snapshot (settings : Settings) (start : Method) (done : Stage → Bool) : Method :=
  { start with
    inputs := if done .inputs then (start.complete settings).inputs else start.inputs
    outputs := if done .outputs then (start.complete settings).outputs else start.outputs
    body := if done .body then (start.complete settings).body else none
    comment := if done .comment then (start.complete settings).comment else none
    declaration := if done .declaration then (start.complete settings).declaration else none }

section Snapshot

variable {settings : Settings} {start : Method} {done : Stage → Bool} {stage : Stage}

theorem snapshot_mark :
    start.snapshot settings (stage.mark done) =
      (start.snapshot settings done).graft (start.complete settings) stage := by
  cases stage <;> simp [snapshot, Stage.mark, graft]

theorem written?_snapshot (unwritten : ∀ stage, start.written? stage = none) :
    (start.snapshot settings done).written? stage =
      if done stage then (start.complete settings).written? stage else none := by
  cases stage with
  | inputs =>
    simp only [written?, snapshot]
    split
    · rfl
    · exact unwritten .inputs
  | outputs =>
    simp only [written?, snapshot]
    split
    · rfl
    · exact unwritten .outputs
  | body | comment | declaration => rfl

theorem isSome_written?_snapshot (unwritten : ∀ stage, start.written? stage = none) :
    ((start.snapshot settings done).written? stage).isSome = done stage := by
  rw [written?_snapshot unwritten]
  cases done stage with
  | false => rfl
  | true => exact start.isSome_written?_complete settings stage

theorem snapshot_nothing (unwritten : ∀ stage, start.written? stage = none) :
    start.snapshot settings (fun _ => false) = start := by
  have body : start.body = none := unwritten .body
  have comment : start.comment = none := unwritten .comment
  have declaration : start.declaration = none := unwritten .declaration
  cases start
  simp only at body comment declaration
  subst body comment declaration
  rfl

-- A stage reads only literals that are there, and each of these is the complete one. The two
-- sides are built from what they have themselves, before or after they were built once.
theorem advance_snapshot (ready : ∀ needed ∈ stage.needs, done needed = true) :
    (start.snapshot settings done).advance settings callBody stage =
      .ok (start.snapshot settings (stage.mark done)) := by
  rw [snapshot_mark]
  cases stage with
  | inputs =>
    have again : buildInputs settings.dialect settings.placeholderStem
        (start.snapshot settings done).inputs.arguments = (start.complete settings).inputs := by
      simp only [snapshot]
      split
      · exact buildInputs_buildInputs _ _ _
      · rfl
    rw [advance, again]
    rfl
  | outputs =>
    have again : buildOutputs settings.dialect start.constant
        (start.snapshot settings done).outputs.arguments = (start.complete settings).outputs := by
      simp only [snapshot]
      split
      · exact buildOutputs_buildOutputs _ _ _
      · rfl
    exact congrArg (fun outputs => Except.ok { start.snapshot settings done with outputs }) again
  | body =>
    have inputs : (start.snapshot settings done).inputs = (start.complete settings).inputs :=
      if_pos (ready .inputs (by decide))
    have called : callBody settings (start.snapshot settings done) =
        callBody settings (start.snapshot settings fun _ => true) := by
      rw [callBody, callStatement, inputs]
      rfl
    rw [advance, called]
    rfl
  | comment =>
    have inputs : (start.snapshot settings done).inputs = (start.complete settings).inputs :=
      if_pos (ready .inputs (by decide))
    have outputs : (start.snapshot settings done).outputs = (start.complete settings).outputs :=
      if_pos (ready .outputs (by decide))
    have composed : composeComment settings (start.snapshot settings done) =
        composeComment settings (start.snapshot settings fun _ => true) := by
      rw [composeComment, commentPieces, inputs, outputs]
      rfl
    rw [advance, composed]
    rfl
  | declaration =>
    have inputs : (start.snapshot settings done).inputs = (start.complete settings).inputs :=
      if_pos (ready .inputs (by decide))
    have outputs : (start.snapshot settings done).outputs = (start.complete settings).outputs :=
      if_pos (ready .outputs (by decide))
    have body : (start.snapshot settings done).body = (start.complete settings).body :=
      if_pos (ready .body (by decide))
    have composed : composeDeclaration settings (start.snapshot settings done) =
        composeDeclaration settings (start.snapshot settings fun _ => true) := by
      rw [composeDeclaration, inputs, outputs, body]
      rfl
    rw [advance, composed]
    rfl

theorem ready_of_not_lacks (unwritten : ∀ stage, start.written? stage = none)
    (has : ¬ (start.snapshot settings done).Lacks stage) :
    ∀ needed ∈ stage.needs, done needed = true := by
  intro needed member
  have present : ((start.snapshot settings done).written? needed).isSome :=
    Option.isSome_iff_ne_none.mpr fun absent => has ⟨needed, member, absent⟩
  rwa [isSome_written?_snapshot unwritten] at present

-- The step of the invariant: a stage that goes through is marked, a refused one changes nothing.
theorem attempt_snapshot (unwritten : ∀ stage, start.written? stage = none) :
    ∃ later, (start.snapshot settings done).attempt settings callBody stage =
      start.snapshot settings later := by
  rcases attempt_cases settings callBody (start.snapshot settings done) stage with same | reached
  · exact ⟨done, same⟩
  · rcases advance_outcome settings (start.snapshot settings done) stage with
      ⟨-, cause, refused⟩ | ⟨has, -⟩
    · cases reached.symm.trans refused
    · rw [advance_snapshot (ready_of_not_lacks unwritten has)] at reached
      exact ⟨stage.mark done, (Except.ok.inj reached).symm⟩

theorem attemptAll_snapshot (unwritten : ∀ stage, start.written? stage = none)
    (stages : List Stage) :
    ∃ later, (start.snapshot settings done).attemptAll settings callBody stages =
      start.snapshot settings later := by
  -- Which stages have gone through changes with each attempt.
  induction stages generalizing done with
  | nil => exact ⟨done, rfl⟩
  | cons stage rest ih =>
    obtain ⟨later, reached⟩ := attempt_snapshot unwritten
    obtain ⟨last, finished⟩ : ∃ last, (start.snapshot settings later).attemptAll settings
        callBody rest = start.snapshot settings last := ih
    exact ⟨last, (congrArg (attemptAll settings callBody · rest) reached).trans finished⟩

/-- A stage that has gone through changes nothing when it is run again. -/
theorem advance_snapshot_again (unwritten : ∀ stage, start.written? stage = none)
    (orderly : (start.snapshot settings done).Orderly)
    (present : ((start.snapshot settings done).written? stage).isSome) :
    (start.snapshot settings done).advance settings callBody stage =
      .ok (start.snapshot settings done) := by
  have ready := ready_of_not_lacks unwritten (orderly stage present)
  have marked : stage.mark done = done := by
    funext other
    rw [isSome_written?_snapshot unwritten] at present
    by_cases own : other = stage
    · simp [Stage.mark, own, present]
    · simp [Stage.mark, own]
  rw [advance_snapshot ready, marked]

end Snapshot

/-- All stages may be run again on a complete method. -/
theorem advance_complete (settings : Settings) (start : Method) (stage : Stage) :
    (start.complete settings).advance settings callBody stage =
      .ok (start.complete settings) := by
  have whole : start.complete settings = start.snapshot settings fun _ => true := rfl
  have marked : stage.mark (fun _ => true) = fun _ => true := rfl
  rw [whole, advance_snapshot fun _ _ => rfl, marked]

/-- What stands on a method stands on the built one too, its comment on the documented one. -/
structure Agrees (method built documented : Method) : Prop where
  inputs : method.inputs.literal.isSome → method.inputs = built.inputs
  outputs : method.outputs.literal.isSome → method.outputs = built.outputs
  body : method.body.isSome → method.body = built.body
  comment : method.comment.isSome → method.comment = documented.comment
  declaration : method.declaration.isSome → method.declaration = built.declaration

theorem agrees_snapshot {settings : Settings} {start : Method} {done : Stage → Bool}
    (unwritten : ∀ stage, start.written? stage = none) :
    (start.snapshot settings done).Agrees (start.finished settings) (start.complete settings) := by
  have went (stage : Stage) (present : ((start.snapshot settings done).written? stage).isSome) :
      done stage = true := by
    rwa [isSome_written?_snapshot unwritten] at present
  have same (stage : Stage) (textual : stage ≠ .comment)
      (present : ((start.snapshot settings done).written? stage).isSome) :
      (start.snapshot settings done).written? stage = (start.finished settings).written? stage := by
    rw [written?_snapshot unwritten, if_pos (went stage present), written?_finished _ _ textual]
  exact {
    inputs := fun present => (if_pos (went .inputs present)).trans (inputs_finished _ _).symm
    outputs := fun present => (if_pos (went .outputs present)).trans (outputs_finished _ _).symm
    body := same .body (by decide)
    comment := fun present => if_pos (went .comment present)
    declaration := same .declaration (by decide) }

end Method

section Reached

variable {settings : Settings} {functions : List FunctionEntry} {methods reached : List Method}
  {run : List (Stage × Nat)}

theorem length_runStages (settings : Settings) (composer : BodyComposer) (methods : List Method)
    (run : List (Stage × Nat)) :
    (runStages settings composer methods run).length = methods.length := by
  induction run generalizing methods with
  | nil => rfl
  | cons step rest ih =>
    obtain ⟨stage, position⟩ := step
    rw [runStages_cons, ih, List.length_modify]

/-- Every state of a run agrees with the methods that are built in order, and a stage that has
gone through may be run again. -/
theorem runStages_agrees
    (grouped : (group settings.overloadPolicy functions).result = .ok methods)
    (ran : runStages settings callBody methods run = reached) :
    ∃ built documented,
      (buildMethods settings callBody functions).result = .ok built ∧
      (buildMethods { settings with emitDocs := true } callBody functions).result =
        .ok documented ∧
      reached.length = built.length ∧
      (∀ (position : Nat) (method : Method), reached[position]? = some method →
        ∃ plain full, built[position]? = some plain ∧ documented[position]? = some full ∧
          method.Agrees plain full) ∧
      (∀ method ∈ reached, ∀ stage, (method.written? stage).isSome →
        method.advance settings callBody stage = .ok method) ∧
      (∀ method ∈ documented, ∀ stage, method.advance settings callBody stage = .ok method) := by
  -- Each reached method is the grouped one at its position after some of the stages.
  have decided : ∀ (position : Nat) (method : Method), reached[position]? = some method →
      ∃ start done, methods[position]? = some start ∧
        (∀ stage, start.written? stage = none) ∧ start.snapshot settings done = method ∧
        method.Orderly := by
    intro position method present
    obtain ⟨start, found, rfl⟩ := start_of_reached ran present
    have unwritten := unwritten_of_group grouped (List.mem_of_getElem? found)
    obtain ⟨done, same⟩ := Method.attemptAll_snapshot unwritten (stagesAt position run)
    rw [Method.snapshot_nothing unwritten] at same
    exact ⟨start, done, found, unwritten, same.symm, (orderly_of_unwritten unwritten).attemptAll _⟩
  refine ⟨_, _, buildMethods_of_group grouped, buildMethods_of_group grouped, ?_, ?_, ?_, ?_⟩
  · rw [← ran, length_runStages, List.length_map]
  · intro position method present
    obtain ⟨start, done, found, unwritten, rfl, -⟩ := decided position method present
    refine ⟨start.finished settings, start.complete settings, ?_, ?_,
      Method.agrees_snapshot unwritten⟩
    · rw [List.getElem?_map, found]
      rfl
    · rw [List.getElem?_map, found]
      rfl
  · intro method member stage present
    obtain ⟨position, found⟩ := List.mem_iff_getElem?.mp member
    obtain ⟨start, done, -, unwritten, rfl, orderly⟩ := decided position method found
    exact Method.advance_snapshot_again unwritten orderly present
  · intro method member stage
    obtain ⟨start, -, rfl⟩ := List.mem_map.mp member
    exact start.advance_complete settings stage

/-- The inputs are built a second time after the body was made from them, and both still are
those of the built method. -/
theorem inputs_rebuilt_after_body :
    (group .mangle [balanceEntry]).result = .ok [.ofFunction .mangle 0 1 balanceEntry] ∧
      ∃ built, (buildMethods {} callBody [balanceEntry]).result = .ok built ∧
        ∃ method plain, (runStages {} callBody [.ofFunction .mangle 0 1 balanceEntry]
            [(.declaration, 0), (.inputs, 0), (.body, 0), (.inputs, 0)])[0]? = some method ∧
          built[0]? = some plain ∧ method.inputs = plain.inputs ∧ method.body = plain.body := by
  have grouped : (group .mangle [balanceEntry]).result =
      .ok [.ofFunction .mangle 0 1 balanceEntry] := by rfl
  obtain ⟨built, documented, completed, -, -, agrees, -⟩ := @runStages_agrees {} [balanceEntry] _ _
    [(.declaration, 0), (.inputs, 0), (.body, 0), (.inputs, 0)] grouped rfl
  obtain ⟨plain, full, found, -, agree⟩ := agrees 0 _ rfl
  exact ⟨grouped, built, completed, _, plain, rfl, found, agree.inputs rfl, agree.body rfl⟩

end Reached

end ContractWrapper
