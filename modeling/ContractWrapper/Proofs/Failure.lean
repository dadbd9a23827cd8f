/-! Computations that may fail, over every element of a list.

A traversal succeeds exactly when each element does. Otherwise it fails as the first element
that fails, whatever stands behind it.
-/

set_option autoImplicit false

namespace ContractWrapper.Failure

variable {α β ε : Type}

theorem map_eq_ok_iff {result : Except ε α} {transform : α → β} {value : β} :
    result.map transform = .ok value ↔ ∃ inner, result = .ok inner ∧ transform inner = value := by
  cases result <;> simp [Except.map]

theorem map_eq_error_iff {result : Except ε α} {transform : α → β} {error : ε} :
    result.map transform = .error error ↔ result = .error error := by
  cases result <;> simp [Except.map]

theorem mapError_eq_ok_iff {ε' : Type} {result : Except ε α} {change : ε → ε'} {value : α} :
    result.mapError change = .ok value ↔ result = .ok value := by
  cases result with
  | ok other => exact ⟨fun same => by cases same; rfl, fun same => by cases same; rfl⟩
  | error cause => exact ⟨nofun, nofun⟩

theorem mapError_eq_error_iff {ε' : Type} {result : Except ε α} {change : ε → ε'} {error : ε'} :
    result.mapError change = .error error ↔
      ∃ cause, result = .error cause ∧ change cause = error := by
  cases result with
  | ok value => exact ⟨nofun, nofun⟩
  | error cause =>
    constructor
    · intro same
      exact ⟨cause, rfl, Except.error.inj same⟩
    · intro ⟨_, same, changed⟩
      cases same
      exact congrArg Except.error changed

theorem bind_eq_ok_iff {first : Except ε α} {next : α → Except ε β} {value : β} :
    (first >>= next) = .ok value ↔ ∃ inner, first = .ok inner ∧ next inner = .ok value := by
  cases first <;> simp [bind, Except.bind]

theorem bind_eq_error_iff {first : Except ε α} {next : α → Except ε β} {error : ε} :
    (first >>= next) = .error error ↔
      first = .error error ∨ ∃ inner, first = .ok inner ∧ next inner = .error error := by
  cases first <;> simp [bind, Except.bind]

theorem mapM_eq_ok_map {step : α → Except ε β} {done : α → β} {values : List α}
    (succeeds : ∀ value ∈ values, step value = .ok (done value)) :
    values.mapM step = .ok (values.map done) := by
  induction values with
  | nil => rfl
  | cons first rest ih =>
    have tail := ih fun value member => succeeds value (List.mem_cons_of_mem first member)
    rw [List.mapM_cons, succeeds first List.mem_cons_self, tail]
    rfl

theorem mapM_cons_eq_error_iff {step : α → Except ε β} {first : α} {rest : List α} {error : ε} :
    (first :: rest).mapM step = .error error ↔
      step first = .error error ∨
        (∃ result, step first = .ok result) ∧ rest.mapM step = .error error := by
  rw [List.mapM_cons]
  cases step first with
  | error cause => simp [bind, Except.bind]
  | ok result => cases rest.mapM step <;> simp [bind, Except.bind, pure, Except.pure]

/-- What ends at the first element of a list that fails, and is told its place, ends exactly if
there is such an element: all before it pass, and their number is its place. -/
theorem first_failure_iff (ends : Nat → List α → Prop) (fails : Nat → α → Prop)
    (passes : α → Prop) (nil : ∀ start, ¬ends start [])
    (cons : ∀ start value rest, ends start (value :: rest) ↔
      fails start value ∨ passes value ∧ ends (start + 1) rest)
    (start : Nat) (values : List α) :
    ends start values ↔ ∃ before value after, values = before ++ value :: after ∧
      (∀ earlier ∈ before, passes earlier) ∧ fails (start + before.length) value := by
  induction values generalizing start with
  | nil => simp [nil]
  | cons first rest ih =>
    have place (before : List α) :
        start + 1 + before.length = start + (first :: before).length := by
      rw [List.length_cons, Nat.add_right_comm, Nat.add_assoc]
    rw [cons, ih]
    simp only [place]
    constructor
    · rintro (failed | ⟨passed, before, value, after, rfl, others, failed⟩)
      · exact ⟨[], first, rest, rfl, by simp, failed⟩
      · exact ⟨first :: before, value, after, rfl, List.forall_mem_cons.mpr ⟨passed, others⟩,
          failed⟩
    · rintro ⟨before, value, after, split, passed, failed⟩
      cases before with
      | nil =>
        cases split
        exact .inl failed
      | cons head tail =>
        cases split
        obtain ⟨headPassed, others⟩ := List.forall_mem_cons.mp passed
        exact .inr ⟨headPassed, tail, value, after, rfl, others, failed⟩

theorem mapM_eq_error_iff {step : α → Except ε β} {values : List α} {error : ε} :
    values.mapM step = .error error ↔
      ∃ before value after, values = before ++ value :: after ∧
        (∀ earlier ∈ before, ∃ result, step earlier = .ok result) ∧ step value = .error error :=
  first_failure_iff (fun _ values => values.mapM step = .error error)
    (fun _ value => step value = .error error) (fun value => ∃ result, step value = .ok result)
    (fun _ => nofun) (fun _ _ _ => mapM_cons_eq_error_iff) 0 values

theorem exists_mapM_eq_ok_iff {step : α → Except ε β} {values : List α} :
    (∃ results, values.mapM step = .ok results) ↔
      ∀ value ∈ values, ∃ result, step value = .ok result := by
  induction values with
  | nil => simp [pure, Except.pure]
  | cons first rest ih =>
    rw [List.mapM_cons, List.forall_mem_cons, ← ih]
    constructor
    · rintro ⟨results, succeeded⟩
      obtain ⟨head, headOk, others⟩ := bind_eq_ok_iff.mp succeeded
      obtain ⟨tail, tailOk, -⟩ := bind_eq_ok_iff.mp others
      exact ⟨⟨head, headOk⟩, tail, tailOk⟩
    · rintro ⟨⟨head, headOk⟩, tail, tailOk⟩
      exact ⟨head :: tail, by rw [headOk, tailOk]; rfl⟩

theorem exists_of_mem_mapM {step : α → Except ε β} {values : List α} {results : List β}
    (succeeded : values.mapM step = .ok results) {result : β} (member : result ∈ results) :
    ∃ value ∈ values, step value = .ok result := by
  induction values generalizing results with
  | nil =>
    cases succeeded
    cases member
  | cons first rest ih =>
    rw [List.mapM_cons] at succeeded
    obtain ⟨head, headOk, others⟩ := bind_eq_ok_iff.mp succeeded
    obtain ⟨tail, tailOk, same⟩ := bind_eq_ok_iff.mp others
    cases same
    rcases List.mem_cons.mp member with rfl | later
    · exact ⟨first, List.mem_cons_self, headOk⟩
    · obtain ⟨value, present, reached⟩ := ih tailOk later
      exact ⟨value, List.mem_cons_of_mem first present, reached⟩

/-- A traversal that succeeds is a map of anything that agrees with its successful steps. -/
theorem eq_map_of_mapM {step : α → Except ε β} {done : α → β} {values : List α} {results : List β}
    (agrees : ∀ value result, step value = .ok result → done value = result)
    (succeeded : values.mapM step = .ok results) : results = values.map done := by
  have each : ∀ value ∈ values, step value = .ok (done value) := by
    intro value member
    obtain ⟨result, reached⟩ := exists_mapM_eq_ok_iff.mp ⟨results, succeeded⟩ value member
    rw [reached, agrees value result reached]
  exact Except.ok.inj (succeeded.symm.trans (mapM_eq_ok_map each))

/-- What commutes with every step commutes with a traversal. -/
theorem mapM_map_of_commutes {step : α → Except ε β} {onValue : α → α} {onResult : β → β}
    (commutes : ∀ value, step (onValue value) = (step value).map onResult) (values : List α) :
    (values.map onValue).mapM step = (values.mapM step).map (List.map onResult) := by
  induction values with
  | nil => rfl
  | cons first rest ih =>
    rw [List.map_cons, List.mapM_cons, List.mapM_cons, commutes, ih]
    cases step first with
    | error cause => rfl
    | ok result => cases rest.mapM step <;> rfl

/-- What commutes with every step commutes with a run of them. -/
theorem foldlM_of_commutes {step : β → α → Except ε β} {change : β → β}
    (commutes : ∀ state value, step (change state) value = (step state value).map change)
    (values : List α) (state : β) :
    values.foldlM step (change state) = (values.foldlM step state).map change := by
  induction values generalizing state with
  | nil => rfl
  | cons first rest ih =>
    rw [List.foldlM_cons, List.foldlM_cons, commutes]
    cases step state first with
    | error cause => rfl
    | ok next => exact ih next

end ContractWrapper.Failure
