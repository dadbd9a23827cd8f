import ContractWrapper.Assembly
import ContractWrapper.Proofs.Failure

/-! Runs of stages over methods.

A stage writes one literal and leaves the others as they are. What a run of stages does to a
method is done by the stages meant for that method, in their order; those for other methods
have no part in it.
-/

set_option autoImplicit false

namespace ContractWrapper

open Failure (map_eq_ok_iff)

namespace Method

/-- What a stage has written, if it has run. -/
def written? (method : Method) : Stage → Option String
  | .inputs => method.inputs.literal
  | .outputs => method.outputs.literal
  | .body => method.body
  | .comment => method.comment
  | .declaration => method.declaration

/-- The method with what `source` has for a stage. -/
def graft (method source : Method) : Stage → Method
  | .inputs => { method with inputs := source.inputs }
  | .outputs => { method with outputs := source.outputs }
  | .body => { method with body := source.body }
  | .comment => { method with comment := source.comment }
  | .declaration => { method with declaration := source.declaration }

theorem written?_graft (method source : Method) (stage other : Stage) :
    (method.graft source stage).written? other =
      if other = stage then source.written? other else method.written? other := by
  cases stage <;> cases other <;> rfl

/-- A stage on a method, which stays as it is when the stage is refused. -/
def attempt (settings : Settings) (composer : BodyComposer) (method : Method) (stage : Stage) :
    Method :=
  match method.advance settings composer stage with
  | .ok advanced => advanced
  | .error _ => method

def attemptAll (settings : Settings) (composer : BodyComposer) (method : Method)
    (stages : List Stage) : Method :=
  stages.foldl (attempt settings composer) method

section Step

variable {settings : Settings} {composer : BodyComposer} {method advanced : Method} {stage : Stage}

-- A stage that runs changes what belongs to it and nothing else.
theorem eq_graft_of_advance (reached : method.advance settings composer stage = .ok advanced) :
    advanced = method.graft advanced stage := by
  cases stage with
  | inputs | outputs =>
    cases reached
    rfl
  | body | comment | declaration =>
    obtain ⟨text, -, rfl⟩ := map_eq_ok_iff.mp reached
    rfl

theorem isSome_written?_of_advance
    (reached : method.advance settings composer stage = .ok advanced) :
    (advanced.written? stage).isSome := by
  cases stage with
  | inputs | outputs =>
    cases reached
    rfl
  | body | comment | declaration =>
    obtain ⟨text, -, rfl⟩ := map_eq_ok_iff.mp reached
    rfl

theorem written?_advance_of_ne {other : Stage} (different : other ≠ stage)
    (reached : method.advance settings composer stage = .ok advanced) :
    advanced.written? other = method.written? other := by
  rw [eq_graft_of_advance reached, written?_graft, if_neg different]

theorem attempt_cases (settings : Settings) (composer : BodyComposer) (method : Method)
    (stage : Stage) :
    method.attempt settings composer stage = method ∨
      method.advance settings composer stage = .ok (method.attempt settings composer stage) := by
  unfold attempt
  split
  · next advanced reached => exact .inr reached
  · exact .inl rfl

theorem written?_attempt_of_ne {other : Stage} (different : other ≠ stage) :
    (method.attempt settings composer stage).written? other = method.written? other := by
  rcases attempt_cases settings composer method stage with same | reached
  · rw [same]
  · exact written?_advance_of_ne different reached

theorem isSome_written?_attempt {other : Stage} (present : (method.written? other).isSome) :
    ((method.attempt settings composer stage).written? other).isSome := by
  rcases attempt_cases settings composer method stage with same | reached
  · rwa [same]
  · by_cases own : other = stage
    · rw [own]
      exact isSome_written?_of_advance reached
    · rwa [written?_advance_of_ne own reached]

end Step

theorem mem_of_isSome_written? {settings : Settings} {composer : BodyComposer} {method : Method}
    {stages : List Stage} {stage : Stage} (absent : method.written? stage = none)
    (present : ((method.attemptAll settings composer stages).written? stage).isSome) :
    stage ∈ stages := by
  induction stages generalizing method with
  | nil =>
    rw [attemptAll, List.foldl_nil, absent] at present
    cases present
  | cons first rest ih =>
    by_cases own : stage = first
    · exact own ▸ List.mem_cons_self
    · refine List.mem_cons_of_mem first (ih ?_ present)
      rw [written?_attempt_of_ne own, absent]

end Method

/-- The stages of a run that are meant for the method at a position. -/
def stagesAt (position : Nat) (run : List (Stage × Nat)) : List Stage :=
  run.filterMap fun (stage, place) => if place = position then some stage else none

theorem mem_stagesAt {position : Nat} {run : List (Stage × Nat)} {stage : Stage}
    (member : stage ∈ stagesAt position run) : (stage, position) ∈ run := by
  obtain ⟨⟨other, place⟩, present, chosen⟩ := List.mem_filterMap.mp member
  obtain ⟨here, same⟩ := Option.ite_none_right_eq_some.mp chosen
  cases same
  exact here ▸ present

section Position

variable {methods : List Method} {position : Nat} {method : Method}

theorem set_of_getElem? (present : methods[position]? = some method) :
    methods.set position method = methods := by
  obtain ⟨inside, found⟩ := List.getElem?_eq_some_iff.mp present
  exact found ▸ List.set_getElem_self inside

theorem modify_of_getElem? {change : Method → Method} (present : methods[position]? = some method) :
    methods.modify position change = methods.set position (change method) := by
  apply List.ext_getElem?
  intro other
  rw [List.getElem?_modify, List.getElem?_set]
  by_cases here : position = other
  · subst other
    obtain ⟨inside, found⟩ := List.getElem?_eq_some_iff.mp present
    simp [inside, found]
  · simp [here]

end Position

section Run

variable (settings : Settings) (composer : BodyComposer) (methods : List Method)

theorem advanceAt_of_getElem? {position : Nat} {method : Method} (stage : Stage)
    (present : methods[position]? = some method) :
    advanceAt settings composer methods stage position =
      (method.advance settings composer stage).map (methods.set position) := by
  simp only [advanceAt, present]

-- A step of a run, whether it succeeds or is passed over, attempts its stage on the method
-- at its position; a position without a method is passed over too.
theorem runStages_cons (stage : Stage) (position : Nat) (run : List (Stage × Nat)) :
    runStages settings composer methods ((stage, position) :: run) =
      runStages settings composer
        (methods.modify position fun method => method.attempt settings composer stage) run := by
  have step : runStages settings composer methods [(stage, position)] =
      methods.modify position fun method => method.attempt settings composer stage := by
    simp only [runStages, List.foldl_cons, List.foldl_nil]
    cases present : methods[position]? with
    | none =>
      rw [List.modify_eq_self (List.getElem?_eq_none_iff.mp present)]
      simp only [advanceAt, present]
    | some method =>
      rw [advanceAt_of_getElem? settings composer methods stage present,
        modify_of_getElem? present]
      unfold Method.attempt
      cases method.advance settings composer stage with
      | ok advanced => rfl
      | error cause => exact (set_of_getElem? present).symm
  exact congrArg (fun advanced => runStages settings composer advanced run) step

/-- A run does to each method what the stages meant for it do. -/
theorem getElem?_runStages (run : List (Stage × Nat)) (position : Nat) :
    (runStages settings composer methods run)[position]? =
      methods[position]?.map fun method =>
        method.attemptAll settings composer (stagesAt position run) := by
  induction run generalizing methods with
  | nil => simp [runStages, stagesAt, Method.attemptAll]
  | cons step rest ih =>
    obtain ⟨stage, place⟩ := step
    rw [runStages_cons, ih, List.getElem?_modify]
    by_cases here : place = position
    · simp [stagesAt, here, Method.attemptAll, Function.comp_def]
    · simp [stagesAt, here]

theorem runStages_of_refused {stage : Stage} {position : Nat} {error : GenerationError}
    (refused : advanceAt settings composer methods stage position = .error error) :
    runStages settings composer methods [(stage, position)] = methods := by
  simp only [runStages, List.foldl_cons, List.foldl_nil, refused]

end Run

theorem start_of_reached {settings : Settings} {composer : BodyComposer}
    {methods reached : List Method} {run : List (Stage × Nat)}
    (ran : runStages settings composer methods run = reached)
    {position : Nat} {method : Method} (present : reached[position]? = some method) :
    ∃ start, methods[position]? = some start ∧
      start.attemptAll settings composer (stagesAt position run) = method := by
  rw [← ran, getElem?_runStages] at present
  exact Option.map_eq_some_iff.mp present

end ContractWrapper
