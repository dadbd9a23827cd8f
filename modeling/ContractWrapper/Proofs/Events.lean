import ContractWrapper.Proofs.Class.Members
import ContractWrapper.Proofs.Generation
import ContractWrapper.Proofs.Interface.Warnings
import ContractWrapper.Proofs.Overload.Warnings

/-! What a generation reports.

Reading, grouping and building each report as they go, and an error leaves what was reported before
it. The reports of a whole generation are therefore those of its parts in a row, up to the part that
fails.
-/

set_option autoImplicit false

namespace ContractWrapper

section Methods

/-- What is reported about each method: its own name, and what its function has. -/
def methodReports (methods : List Method) (functions : List FunctionEntry) : List Event :=
  (methods.zip functions).map fun (method, function) =>
    .methodAssembled method.methodName function.inputs.length function.outputs.length
      function.constant

theorem level_of_mem_methodReports (methods : List Method) (functions : List FunctionEntry) :
    ∀ event ∈ methodReports methods functions, event.level = .debug := by
  intro event member
  obtain ⟨_, -, rfl⟩ := List.mem_map.mp member
  rfl

variable {settings : Settings} {functions : List FunctionEntry}

end Methods

section Generation

open Interface

/-- How a generation ends with a description, and what is reported on the way. -/
inductive Reports (settings : Settings) (description : Json) :
    List Event → Except GenerationError Wrapper → Prop where
  | unheld {error : GenerationError} (unheld : ∀ entries, ¬HoldsEntries description entries) :
    Reports settings description [] (.error error)
  | malformed {before after : List Json} {bad : Json} {defect : EntryDefect}
      (held : HoldsEntries description (before ++ bad :: after))
      (sound : ∀ entry ∈ before, EntryDescribed entry) (faulty : ¬EntryDescribed bad) :
    Reports settings description (entryWarnings 0 before)
      (.error (.malformed before.length defect))
  | ungrouped {entries : List Json} {functions : List FunctionEntry} {error : GenerationError}
      (held : HoldsEntries description entries)
      (sound : ∀ entry ∈ entries, EntryDescribed entry)
      (read : List.Forall₂ FunctionEntry.DescribedBy
        (entries.filterMap functionMembers?) functions)
      (refused : (group settings.overloadPolicy functions).result = .error error) :
    Reports settings description
      (entryWarnings 0 entries ++
        [.interfaceRead functions.length (entries.length - functions.length)] ++
        nameWarnings settings.overloadPolicy functions)
      (.error error)
  | generated {entries : List Json} {functions : List FunctionEntry} {methods : List Method}
      {wrapper : Wrapper}
      (held : HoldsEntries description entries)
      (sound : ∀ entry ∈ entries, EntryDescribed entry)
      (read : List.Forall₂ FunctionEntry.DescribedBy
        (entries.filterMap functionMembers?) functions)
      (built : (buildMethods settings callBody functions).result = .ok methods)
      (composed : composeClass settings wrapper.className methods = .ok wrapper.source)
      (counted : wrapper.methods = methods.length) :
    Reports settings description
      (entryWarnings 0 entries ++
        [.interfaceRead functions.length (entries.length - functions.length)] ++
        nameWarnings settings.overloadPolicy functions ++ methodReports methods functions ++
        [.wrapperGenerated wrapper.className settings.dialect settings.framework wrapper.methods])
      (.ok wrapper)

variable {settings : Settings} {description : Json}

/-- What is said of a wrapper in the end, if there is one. -/
def announcements (settings : Settings) : Except GenerationError Wrapper → List Event
  | .ok wrapper =>
    [.wrapperGenerated wrapper.className settings.dialect settings.framework wrapper.methods]
  | .error _ => []

theorem Reports.info {events : List Event} {result : Except GenerationError Wrapper}
    (reports : Reports settings description events result) :
    events.filter (·.level = .info) = announcements settings result := by
  have quiet {events : List Event} {level : Level} (other : level ≠ .info)
      (each : ∀ event ∈ events, event.level = level) : events.filter (·.level = .info) = [] := by
    rw [List.filter_eq_nil_iff]
    intro event member
    simpa [each event member] using other
  have entries (before : List Json) := quiet (by decide) (level_of_mem_entryWarnings 0 before)
  have names (functions : List FunctionEntry) :=
    quiet (by decide) (level_of_mem_nameWarnings settings.overloadPolicy functions)
  have methods (built : List Method) (functions : List FunctionEntry) :=
    quiet (by decide) (level_of_mem_methodReports built functions)
  cases reports with
  | unheld unheld => rfl
  | malformed held sound faulty => exact entries _
  | ungrouped held sound read refused =>
    rw [List.filter_append, List.filter_append, entries, names]
    rfl
  | generated held sound read built composed counted =>
    simp only [List.filter_append, entries, names, methods]
    rfl

end Generation

end ContractWrapper
