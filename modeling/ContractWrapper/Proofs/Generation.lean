import ContractWrapper.Proofs.Interface.Acceptance
import ContractWrapper.Proofs.Isolation
import ContractWrapper.Wrapper

/-! Where generation can fail.

Reading, the settings and the overload policy may refuse, in this order. After them only the
composer of the bodies can: no stage is ever started before the work it needs is done.
-/

set_option autoImplicit false

namespace ContractWrapper

open Failure (bind_eq_ok_iff bind_eq_error_iff mapM_eq_error_iff mapError_eq_error_iff
  mapError_eq_ok_iff)

/-- Whether an error says that work was started too early, be it in words of its own. -/
def GenerationError.isPrecondition : GenerationError → Bool
  | .precondition _ | .stated .precondition _ => true
  | _ => false

/-- What the composer of its body is shown of a method: both of its sides are built by then. -/
def Method.prepared (settings : Settings) (method : Method) : Method :=
  { method with
    inputs := buildInputs settings.dialect settings.placeholderStem method.inputs.arguments
    outputs := buildOutputs settings.dialect method.constant method.outputs.arguments }

/-- The stages after the body of a method. -/
def closingStages (settings : Settings) : List Stage :=
  (if settings.emitDocs then [.comment] else []) ++ [.declaration]

section Building

variable {settings : Settings} {composer : BodyComposer} {functions : List FunctionEntry}

theorem assemble_eq_bind (method : Method) :
    method.assemble settings composer =
      composer settings (method.prepared settings) >>= fun text =>
        (closingStages settings).foldlM (Method.advance settings composer)
          { method.prepared settings with body := some text } := by
  have stages : stagesOf settings = [.inputs, .outputs] ++ (.body :: closingStages settings) := by
    simp [stagesOf, closingStages]
  have sides : [Stage.inputs, .outputs].foldlM (Method.advance settings composer) method =
      .ok (method.prepared settings) := rfl
  rw [Method.assemble, stages, List.foldlM_append, sides]
  change List.foldlM (Method.advance settings composer) (method.prepared settings)
    (.body :: closingStages settings) = _
  rw [List.foldlM_cons, Method.advance]
  cases composer settings (method.prepared settings) <;> rfl

-- The stages after the body find all that they read, so they add no failure of their own.
theorem assemble_cases (settings : Settings) (composer : BodyComposer) (method : Method) :
    (∃ error, composer settings (method.prepared settings) = .error error ∧
      method.assemble settings composer = .error error) ∨
    (∃ text built, composer settings (method.prepared settings) = .ok text ∧
      method.assemble settings composer = .ok built) := by
  rw [assemble_eq_bind]
  cases composer settings (method.prepared settings) with
  | error error => exact .inl ⟨error, rfl, rfl⟩
  | ok text =>
    refine .inr ⟨text, ?_⟩
    unfold closingStages
    cases settings.emitDocs <;> exact ⟨_, rfl, rfl⟩

theorem assemble_eq_error_iff {method : Method} {error : GenerationError} :
    method.assemble settings composer = .error error ↔
      composer settings (method.prepared settings) = .error error := by
  obtain ⟨cause, failed, same⟩ | ⟨text, built, composed, same⟩ :=
    assemble_cases settings composer method
  · rw [failed, same, Except.error.injEq, Except.error.injEq]
  · rw [composed, same]
    exact ⟨nofun, nofun⟩

theorem exists_assemble_iff {method : Method} :
    (∃ built, method.assemble settings composer = .ok built) ↔
      ∃ text, composer settings (method.prepared settings) = .ok text := by
  obtain ⟨cause, failed, same⟩ | ⟨text, built, composed, same⟩ :=
    assemble_cases settings composer method
  · rw [failed, same]
    exact ⟨nofun, nofun⟩
  · exact ⟨fun _ => ⟨text, composed⟩, fun _ => ⟨built, same⟩⟩

/-- Building fails where the policy refuses, or else as the composer does on the first method for
which it fails. -/
theorem buildMethods_eq_error_iff {error : GenerationError} :
    (buildMethods settings composer functions).result = .error error ↔
      (group settings.overloadPolicy functions).result = .error error ∨
        ∃ before method after,
          (group settings.overloadPolicy functions).result = .ok (before ++ method :: after) ∧
          (∀ earlier ∈ before, ∃ text, composer settings (earlier.prepared settings) = .ok text) ∧
          composer settings (method.prepared settings) = .error error := by
  rw [result_buildMethods, bind_eq_error_iff]
  refine or_congr_right ?_
  simp only [mapM_eq_error_iff, exists_assemble_iff, assemble_eq_error_iff]
  constructor
  · rintro ⟨_, grouped, before, method, after, rfl, passed, failed⟩
    exact ⟨before, method, after, grouped, passed, failed⟩
  · rintro ⟨before, method, after, grouped, passed, failed⟩
    exact ⟨_, grouped, before, method, after, rfl, passed, failed⟩

theorem buildClass_eq_error_iff {className : String} {error : GenerationError} :
    (buildClass settings composer className functions).result = .error error ↔
      (buildMethods settings composer functions).result = .error error := by
  cases reached : (buildMethods settings composer functions).result with
  | error cause =>
    rw [result_buildClass, reached]
    simp only [bind, Except.bind, Except.error.injEq]
  | ok built =>
    rw [buildClass_of_buildMethods className reached]
    exact ⟨nofun, nofun⟩

theorem buildClass_callBody_eq_error_iff {className : String} {error : GenerationError} :
    (buildClass settings callBody className functions).result = .error error ↔
      (group settings.overloadPolicy functions).result = .error error := by
  rw [buildClass_eq_error_iff]
  cases grouped : (group settings.overloadPolicy functions).result with
  | error cause =>
    rw [result_buildMethods, grouped]
    exact Iff.rfl
  | ok methods =>
    rw [buildMethods_of_group grouped]
    exact ⟨nofun, nofun⟩

theorem exists_buildClass_of_preserve (className : String)
    (preserve : settings.overloadPolicy = .preserve) :
    ∃ source, (buildClass settings callBody className functions).result = .ok source := by
  obtain ⟨methods, grouped⟩ :
      ∃ methods, (group settings.overloadPolicy functions).result = .ok methods := by
    rw [exists_group_eq_ok_iff, preserve]
    exact ⟨nofun, nofun⟩
  exact ⟨_, buildClass_of_buildMethods className (buildMethods_of_group grouped)⟩

end Building

section Generating

variable {settings : Settings} {text : String} {error : GenerationError}

/-- What goes wrong first, of all that can. -/
inductive FirstFailure (settings : Settings) (text : String) : GenerationError → Prop where
  | unread {error : GenerationError}
      (failed : (Interface.ofText text).result = .error error) :
    FirstFailure settings text error
  | refused {description : Interface} {cause : SettingsError}
      (read : (Interface.ofText text).result = .ok description)
      (refused : settings.validate = .error cause) :
    FirstFailure settings text (.settings cause)
  | ungrouped {description : Interface} {error : GenerationError}
      (read : (Interface.ofText text).result = .ok description)
      (valid : settings.validate = .ok ())
      (failed : (group settings.overloadPolicy description.functions).result = .error error) :
    FirstFailure settings text error

theorem ofInterface_eq_error_iff {fileStem : Option String} {description : Interface} :
    (Wrapper.ofInterface settings fileStem description).result = .error error ↔
      (∃ cause, settings.validate = .error cause ∧ .settings cause = error) ∨
        settings.validate = .ok () ∧
          (group settings.overloadPolicy description.functions).result = .error error := by
  simp only [Wrapper.ofInterface, checkSettings, Traced.result_bind, Traced.result_of,
    Traced.pure_eq, bind_eq_error_iff, mapError_eq_error_iff, mapError_eq_ok_iff,
    buildClass_callBody_eq_error_iff, reduceCtorEq, and_false, exists_false, or_false,
    exists_and_right]
  refine or_congr_right (and_congr_left fun _ => ?_)
  constructor
  · rintro ⟨⟨⟩, valid⟩
    exact valid
  · intro valid
    exact ⟨(), valid⟩

theorem generate_eq_error_iff {fileStem : Option String} :
    (Wrapper.generate settings fileStem text).result = .error error ↔
      FirstFailure settings text error := by
  rw [Wrapper.generate, Traced.result_bind, bind_eq_error_iff]
  simp only [ofInterface_eq_error_iff]
  constructor
  · rintro (failed | ⟨description, read, ⟨cause, refused, rfl⟩ | ⟨valid, failed⟩⟩)
    · exact .unread failed
    · exact .refused read refused
    · exact .ungrouped read valid failed
  · rintro (failed | ⟨read, refused⟩ | ⟨read, valid, failed⟩)
    · exact .inl failed
    · exact .inr ⟨_, read, .inl ⟨_, refused, rfl⟩⟩
    · exact .inr ⟨_, read, .inr ⟨valid, failed⟩⟩

theorem isPrecondition_eq_false_of_ofJson {json : Json}
    (failed : (Interface.ofJson json).result = .error error) : error.isPrecondition = false := by
  rw [Interface.ofJson, Traced.result_bind, bind_eq_error_iff] at failed
  obtain failed | ⟨⟨entries, name⟩, -, failed⟩ := failed
  · obtain rfl | rfl := Interface.entriesOf_eq_error failed <;> rfl
  · rw [Traced.result_bind, bind_eq_error_iff] at failed
    obtain failed | ⟨read, -, failed⟩ := failed
    · obtain ⟨_, _, _, _, -, -, -, rfl⟩ := Interface.readEntries_eq_error_iff.mp failed
      rfl
    · cases failed

theorem isPrecondition_eq_false_of_ofText (failed : (Interface.ofText text).result = .error error) :
    error.isPrecondition = false := by
  rw [Interface.ofText, Traced.result_bind, Traced.result_of, bind_eq_error_iff] at failed
  obtain failed | ⟨json, -, failed⟩ := failed
  · obtain ⟨problem, -, rfl⟩ := mapError_eq_error_iff.mp failed
    rfl
  · exact isPrecondition_eq_false_of_ofJson failed

theorem isPrecondition_eq_false_of_group {policy : OverloadPolicy} {functions : List FunctionEntry}
    (failed : (group policy functions).result = .error error) : error.isPrecondition = false := by
  rw [result_group, bind_eq_error_iff] at failed
  obtain failed | ⟨_, -, failed⟩ := failed
  · unfold checkRepeated at failed
    split at failed <;> cases failed
    rfl
  · obtain failed | ⟨_, -, failed⟩ := bind_eq_error_iff.mp failed
    · unfold checkCollision at failed
      split at failed <;> cases failed
      rfl
    · cases failed

theorem FirstFailure.isPrecondition_eq_false (failure : FirstFailure settings text error) :
    error.isPrecondition = false := by
  cases failure with
  | unread failed => exact isPrecondition_eq_false_of_ofText failed
  | refused read refused => rfl
  | ungrouped read valid failed => exact isPrecondition_eq_false_of_group failed

end Generating

/-- A wrapper is generated unless reading, the settings or the overload policy refuses, and the
first of them to do so is what is reported; no work is started too early. A class of forwarding
methods is built unless the policy refuses, which it never does where shared names are kept. With a
composer of its own the building fails besides exactly as the composer does on the first method for
which it fails. -/
theorem failures_of_generation :
    (∀ settings fileStem text error,
      (Wrapper.generate settings fileStem text).result = .error error ↔
        FirstFailure settings text error) ∧
    (∀ settings fileStem text error,
      (Wrapper.generate settings fileStem text).result = .error error →
        error.isPrecondition = false) ∧
    (∀ settings className functions error,
      (buildClass settings callBody className functions).result = .error error ↔
        (group settings.overloadPolicy functions).result = .error error) ∧
    (∀ settings className functions, settings.overloadPolicy = .preserve →
      ∃ source, (buildClass settings callBody className functions).result = .ok source) ∧
    ∀ settings composer className functions error,
      (buildClass settings composer className functions).result = .error error ↔
        (group settings.overloadPolicy functions).result = .error error ∨
          ∃ before method after,
            (group settings.overloadPolicy functions).result = .ok (before ++ method :: after) ∧
            (∀ earlier ∈ before, ∃ body, composer settings (earlier.prepared settings) = .ok body) ∧
            composer settings (method.prepared settings) = .error error := by
  refine ⟨?_, ?_, ?_, ?_, ?_⟩
  · intro settings fileStem text error
    exact generate_eq_error_iff
  · intro settings fileStem text error failed
    exact (generate_eq_error_iff.mp failed).isPrecondition_eq_false
  · intro settings className functions error
    exact buildClass_callBody_eq_error_iff
  · intro settings className functions preserve
    exact exists_buildClass_of_preserve className preserve
  · intro settings composer className functions error
    rw [buildClass_eq_error_iff, buildMethods_eq_error_iff]

/-- Bodies for read-only functions alone. -/
def readingBody : BodyComposer := fun settings method =>
  if method.constant then callBody settings method
  else .error (.stated .general ("no body for " ++ method.methodName))

def mintEntry : FunctionEntry :=
  .declare "mint" [] [] false

/-- A composer refuses the second of three methods. An object without entries is refused too, yet
not for the order of the work, and a name may be declared twice where names are kept. -/
theorem mint_refused :
    (buildClass {} readingBody "Token" [supplyEntry, mintEntry, balanceEntry]).result =
        .error (.stated .general "no body for mint") ∧
      GenerationError.noEntryList.isPrecondition = false ∧
      ∃ source, (buildClass { overloadPolicy := .preserve } callBody "Token"
        [balanceEntry, mintEntry, balanceEntry]).result = .ok source := by
  obtain ⟨-, stated, -, kept, composed⟩ := failures_of_generation
  refine ⟨?_, ?_, kept _ "Token" _ rfl⟩
  · refine (composed _ _ _ _ _).mpr (.inr ⟨[_], _, [_], rfl, ?_, rfl⟩)
    simp only [List.mem_singleton, forall_eq]
    exact ⟨_, rfl⟩
  · exact stated {} none "{}" _ rfl

end ContractWrapper
