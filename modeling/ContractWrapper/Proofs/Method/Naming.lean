import ContractWrapper.Method.ParameterList
import ContractWrapper.Method.ReturnType

/-! What building the two sides of a method leaves behind.

Every built input has a name, and every built argument the type of its tag. So a side that has
been built before is built into the same once more, although its placeholders then count as
declared names.
-/

set_option autoImplicit false

namespace ContractWrapper

theorem numbered_ne_empty (stem : String) (n : Nat) : numbered stem n ≠ "" := by
  intro empty
  have digits : stem.toList ++ Nat.toDigits 10 n = [] := by
    simpa [numbered, Nat.toString_eq_ofList_toDigits] using congrArg String.toList empty
  exact Nat.toDigits_ne_nil (List.append_eq_nil_iff.mp digits).2

namespace PlaceholderSupply

variable (supply : PlaceholderSupply)

theorem allocate_of_ne_empty {name : String} (named : name ≠ "") :
    supply.allocate name = (name, supply) := by
  simp [allocate, named]

theorem allocate_ne_empty (name : String) : (supply.allocate name).1 ≠ "" := by
  by_cases unnamed : name = ""
  · subst name
    exact numbered_ne_empty _ _
  · rwa [supply.allocate_of_ne_empty unnamed]

theorem ne_empty_of_mem_allocateAll {names : List String} {name : String}
    (member : name ∈ supply.allocateAll names) : name ≠ "" := by
  induction names generalizing supply with
  | nil => cases member
  | cons first rest ih =>
    rcases List.mem_cons.mp member with rfl | later
    · exact supply.allocate_ne_empty first
    · exact ih _ later

theorem allocateAll_of_named {names : List String} (named : ∀ name ∈ names, name ≠ "") :
    supply.allocateAll names = names := by
  induction names with
  | nil => rfl
  | cons first rest ih =>
    obtain ⟨firstNamed, restNamed⟩ := List.forall_mem_cons.mp named
    simp only [allocateAll, supply.allocate_of_ne_empty firstNamed, ih restNamed]

end PlaceholderSupply

theorem names_nameArguments (supply : PlaceholderSupply) (arguments : List Argument) :
    (nameArguments supply arguments).map Argument.name =
      supply.allocateAll (arguments.map Argument.name) := by
  induction arguments generalizing supply with
  | nil => rfl
  | cons first rest ih => exact congrArg (List.cons _) (ih (supply.allocate first.name).2)

theorem nameArguments_of_named (supply : PlaceholderSupply) {arguments : List Argument}
    (named : ∀ argument ∈ arguments, argument.name ≠ "") :
    nameArguments supply arguments = arguments := by
  have kept : supply.allocateAll (arguments.map Argument.name) = arguments.map Argument.name :=
    supply.allocateAll_of_named (by simpa using named)
  rw [nameArguments, kept, List.zipWith_map_right, List.zipWith_self]
  exact List.map_id arguments

/-- The argument shows the type of its tag on a side. -/
def Argument.ShowsType (dialect : Dialect) (side : Side) (argument : Argument) : Prop :=
  argument.shown = some (dialect.types.infer side argument.tag)

theorem map_shown_of_showsType {dialect : Dialect} {side : Side} {arguments : List Argument}
    (shows : ∀ argument ∈ arguments, argument.ShowsType dialect side) :
    (arguments.map fun argument =>
      { argument with shown := some (dialect.types.infer side argument.tag) }) = arguments := by
  refine (List.map_congr_left fun argument member => ?_).trans (List.map_id arguments)
  exact (shows argument member) ▸ rfl

section Sides

variable (dialect : Dialect) (stem : String)

theorem settled_of_mem_buildInputs {arguments : List Argument} {argument : Argument}
    (member : argument ∈ (buildInputs dialect stem arguments).arguments) :
    argument.name ≠ "" ∧ argument.ShowsType dialect .inputs := by
  obtain ⟨named, found, rfl⟩ := List.mem_map.mp member
  refine ⟨?_, rfl⟩
  have allocated : named.name ∈ (nameArguments _ arguments).map Argument.name :=
    List.mem_map_of_mem found
  rw [names_nameArguments] at allocated
  exact PlaceholderSupply.ne_empty_of_mem_allocateAll _ allocated

-- Names that are all declared draw nothing from the supply, whatever it would hand out next.
theorem buildInputs_of_settled {arguments : List Argument}
    (settled : ∀ argument ∈ arguments, argument.name ≠ "" ∧ argument.ShowsType dialect .inputs) :
    buildInputs dialect stem arguments =
      ⟨arguments, some (parameterList (arguments.map (Argument.entry dialect)))⟩ := by
  have named := nameArguments_of_named (.fresh stem (arguments.map Argument.name))
    fun argument member => (settled argument member).1
  have shown := map_shown_of_showsType fun argument member => (settled argument member).2
  simp only [buildInputs, named, shown]

theorem buildInputs_buildInputs (arguments : List Argument) :
    buildInputs dialect stem (buildInputs dialect stem arguments).arguments =
      buildInputs dialect stem arguments :=
  buildInputs_of_settled dialect stem fun _ member =>
    settled_of_mem_buildInputs dialect stem member

theorem buildOutputs_buildOutputs (constant : Bool) (arguments : List Argument) :
    buildOutputs dialect constant (buildOutputs dialect constant arguments).arguments =
      buildOutputs dialect constant arguments := by
  have shown : ((buildOutputs dialect constant arguments).arguments.map fun argument =>
      { argument with shown := some (dialect.types.infer .outputs argument.tag) }) =
      (buildOutputs dialect constant arguments).arguments := by
    apply map_shown_of_showsType
    intro argument member
    obtain ⟨declared, -, rfl⟩ := List.mem_map.mp member
    rfl
  rw [buildOutputs, shown]
  rfl

end Sides

end ContractWrapper
