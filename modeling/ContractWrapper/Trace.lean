import ContractWrapper.Error

/-! What a generation reports while it runs.

A traced computation gives its result together with the events up to that point: an error
ends the trace, and the events before it remain.
-/

set_option autoImplicit false

namespace ContractWrapper

inductive Level where
  | debug
  | info
  | warning
  deriving DecidableEq, Repr

/-- The value that an event gives to one of its fields. -/
inductive FieldValue where
  | text (value : String)
  | number (value : Nat)
  | flag (value : Bool)
  deriving DecidableEq, Repr

inductive Event where
  | unknownEntry (index : Nat) (kind : String)
  | interfaceRead (functions skipped : Nat)
  | overloadedName (name : String) (count : Nat) (policy : OverloadPolicy)
  | methodAssembled (method : String) (inputs outputs : Nat) (constant : Bool)
  | wrapperGenerated (className : String) (dialect : Dialect) (framework : Framework)
      (methods : Nat)
  deriving DecidableEq, Repr

namespace Event

def level : Event → Level
  | unknownEntry .. | overloadedName .. => .warning
  | interfaceRead .. | methodAssembled .. => .debug
  | wrapperGenerated .. => .info

def message : Event → String
  | unknownEntry .. => "skipping unknown ABI entry type"
  | interfaceRead .. => "parsed interface description"
  | overloadedName .. => "overloaded function name"
  | methodAssembled .. => "assembled function"
  | wrapperGenerated .. => "generated wrapper"

def fields : Event → List (String × FieldValue)
  | unknownEntry index kind => [("index", .number index), ("entry_type", .text kind)]
  | interfaceRead functions skipped =>
    [("functions", .number functions), ("skipped", .number skipped)]
  | overloadedName name count policy =>
    [("name", .text name), ("count", .number count), ("policy", .text policy.name)]
  | methodAssembled method inputs outputs constant =>
    [("method", .text method), ("inputs", .number inputs), ("outputs", .number outputs),
      ("constant", .flag constant)]
  | wrapperGenerated className dialect framework methods =>
    [("class", .text className), ("dialect", .text dialect.name),
      ("framework", .text framework.name), ("methods", .number methods)]

end Event

structure Traced (α : Type) where
  events : List Event
  result : Except GenerationError α

namespace Traced

variable {α β : Type}

/-- A result that is reached without an event. -/
def of (result : Except GenerationError α) : Traced α :=
  ⟨[], result⟩

def emit (event : Event) : Traced Unit :=
  ⟨[event], .ok ()⟩

def emitAll (events : List Event) : Traced Unit :=
  ⟨events, .ok ()⟩

def fail (error : GenerationError) : Traced α :=
  of (.error error)

def andThen (first : Traced α) (next : α → Traced β) : Traced β :=
  match first.result with
  | .error error => ⟨first.events, .error error⟩
  | .ok value =>
    let second := next value
    ⟨first.events ++ second.events, second.result⟩

instance : Monad Traced where
  pure value := of (.ok value)
  bind := andThen

@[simp] theorem result_of (result : Except GenerationError α) : (of result).result = result := rfl

@[simp] theorem result_emit (event : Event) : (emit event).result = .ok () := rfl

@[simp] theorem result_emitAll (events : List Event) : (emitAll events).result = .ok () := rfl

@[simp] theorem events_emit (event : Event) : (emit event).events = [event] := rfl

@[simp] theorem events_emitAll (events : List Event) : (emitAll events).events = events := rfl

@[simp] theorem pure_eq (value : α) : (pure value : Traced α) = of (.ok value) := rfl

theorem bind_eq (first : Traced α) (next : α → Traced β) :
    (first >>= next) = first.andThen next := rfl

@[simp] theorem result_bind (first : Traced α) (next : α → Traced β) :
    (first >>= next).result = first.result >>= fun value => (next value).result := by
  simp only [bind_eq, andThen]
  cases first.result <;> rfl

instance : LawfulMonad Traced :=
  LawfulMonad.mk' Traced
    (fun ⟨events, result⟩ => by cases result <;> simp [Functor.map, andThen, of])
    (fun value next => by simp [bind_eq, andThen, of])
    (fun ⟨events, result⟩ next last => by
      cases result with
      | error error => simp [bind_eq, andThen]
      | ok value =>
        simp only [bind_eq, andThen]
        cases (next value).result <;> simp)

theorem result_mapM (step : α → Traced β) (values : List α) :
    (values.mapM step).result = values.mapM fun value => (step value).result := by
  induction values with
  | nil => rfl
  | cons first rest ih =>
    simp only [List.mapM_cons, result_bind, ih]
    rfl

end Traced

end ContractWrapper
