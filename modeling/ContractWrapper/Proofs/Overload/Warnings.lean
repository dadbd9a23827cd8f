import ContractWrapper.Proofs.Overload.Accounting

/-! Warnings about names that functions share.

A name is reported when the first of its methods is met, and no later one is reported: so each
shared name has one warning, at the place where it stands first. Where shared names are refused
there is nothing left to warn about.
-/

set_option autoImplicit false

namespace ContractWrapper

/-- The names that are declared more than once, each where it stands first. -/
def repeatedNames (functions : List FunctionEntry) : List String :=
  (functions.map FunctionEntry.name).eraseDups.filter (1 < declarations functions ·)

/-- A warning for each name that is shared, unless none may be. -/
def nameWarnings (policy : OverloadPolicy) (functions : List FunctionEntry) : List Event :=
  if policy = .reject then []
  else (repeatedNames functions).map fun name =>
    .overloadedName name (declarations functions name) policy

theorem level_of_mem_nameWarnings (policy : OverloadPolicy) (functions : List FunctionEntry) :
    ∀ event ∈ nameWarnings policy functions, event.level = .warning := by
  intro event member
  unfold nameWarnings at member
  split at member
  · cases member
  · obtain ⟨_, -, rfl⟩ := List.mem_map.mp member
    rfl

end ContractWrapper
