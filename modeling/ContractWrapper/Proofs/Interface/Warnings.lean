import ContractWrapper.Proofs.Interface.Acceptance

/-! Warnings about entries that are passed over.

Every entry that states an unknown kind is reported with its index when it is met. An entry that is
malformed is never reported itself, and nothing behind it is: so the warnings of a reading are those
of the entries in front of the first malformed one.
-/

set_option autoImplicit false

namespace ContractWrapper

open Interface

section Entries

/-- The kinds of entries that interfaces are made of. -/
def interfaceKinds : List String :=
  ["function", "constructor", "event", "error", "fallback", "receive"]

/-- The kind of an entry that is passed over with a warning: it is stated, and it is none that an
interface is made of. -/
def unknownKind? : Json → Option String
  | .object members =>
    match Json.lookup "type" members with
    | some (.string kind) => if kind ∈ interfaceKinds then none else some kind
    | _ => none
  | _ => none

/-- A warning for each entry of an unknown kind, where the first entry has the index. -/
def entryWarnings (index : Nat) (entries : List Json) : List Event :=
  (entries.zipIdx index).filterMap fun (entry, index) =>
    (unknownKind? entry).map (Event.unknownEntry index)

theorem level_of_mem_entryWarnings (index : Nat) (entries : List Json) :
    ∀ event ∈ entryWarnings index entries, event.level = .warning := by
  intro event member
  obtain ⟨_, -, warned⟩ := List.mem_filterMap.mp member
  obtain ⟨_, -, rfl⟩ := Option.map_eq_some_iff.mp warned
  rfl

end Entries

section Reading

variable {description : Json} {entries : List Json}

end Reading

end ContractWrapper
