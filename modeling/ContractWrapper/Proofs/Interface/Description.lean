import ContractWrapper.Interface.Reading
import ContractWrapper.Proofs.Failure
import ContractWrapper.Proofs.Interface.Canonical

/-! What describes a parameter or a function.

The descriptions are said here without the reader: which members an object needs, which values they
may have, and which parameter or function it then describes. The reader gives this one and no other,
and it gives none exactly where nothing is described.
-/

set_option autoImplicit false

namespace ContractWrapper

open Failure (bind_eq_ok_iff map_eq_ok_iff mapError_eq_ok_iff)

namespace Json

theorem mem_of_lookup {name : String} {members : List (String × Json)} {value : Json}
    (found : lookup name members = some value) : (name, value) ∈ members := by
  obtain ⟨before, after, same, -⟩ := List.lookup_eq_some_iff.mp found
  rw [← List.mem_reverse, same]
  simp

-- What is found in an array that an object binds is smaller than the object.
theorem sizeOf_lt_of_lookup {name : String} {members : List (String × Json)} {items : List Json}
    (found : lookup name members = some (.array items)) {item : Json} (member : item ∈ items) :
    sizeOf item < sizeOf (Json.object members) := by
  have inner := List.sizeOf_lt_of_mem member
  have outer := List.sizeOf_lt_of_mem (mem_of_lookup found)
  simp only [Prod.mk.sizeOf_spec, array.sizeOf_spec, object.sizeOf_spec] at outer ⊢
  omega

end Json

namespace Parameter

/-- An object with a string for its type, and with null or a string for its name if it has one.
Where its components are an array, all of them are described too. -/
inductive Described : Json → Prop where
  | intro {members : List (String × Json)}
      (name : ∀ value, Json.lookup "name" members = some value →
        value = .null ∨ ∃ text, value = .string text)
      (tag : ∃ text, Json.lookup "type" members = some (.string text))
      (components : ∀ items, Json.lookup "components" members = some (.array items) →
        ∀ item ∈ items, Described item) :
    Described (.object members)

/-- The name that an object gives to a parameter. -/
def NamedBy (members : List (String × Json)) (name : String) : Prop :=
  Json.lookup "name" members = some (.string name) ∨
    name = "" ∧ (Json.lookup "name" members = none ∨ Json.lookup "name" members = some .null)

/-- The parameter that a value describes. Components that are no array describe nothing. -/
inductive DescribedBy : Json → Parameter → Prop where
  | plain {members : List (String × Json)} {name tag : String}
      (named : NamedBy members name)
      (tagged : Json.lookup "type" members = some (.string tag))
      (unlisted : ∀ items, Json.lookup "components" members ≠ some (.array items)) :
    DescribedBy (.object members) ⟨name, tag, none⟩
  | listed {members : List (String × Json)} {name tag : String} {items : List Json}
      {components : List Parameter}
      (named : NamedBy members name)
      (tagged : Json.lookup "type" members = some (.string tag))
      (found : Json.lookup "components" members = some (.array items))
      (each : List.Forall₂ DescribedBy items components) :
    DescribedBy (.object members) ⟨name, tag, some components⟩

/-- The components that an object gives to a parameter. -/
def ListedBy (members : List (String × Json)) : Option (List Parameter) → Prop
  | none => ∀ items, Json.lookup "components" members ≠ some (.array items)
  | some components => ∃ items, Json.lookup "components" members = some (.array items) ∧
      List.Forall₂ DescribedBy items components

theorem describedBy_object_iff {members : List (String × Json)} {parameter : Parameter} :
    DescribedBy (.object members) parameter ↔ NamedBy members parameter.name ∧
      Json.lookup "type" members = some (.string parameter.tag) ∧
      ListedBy members parameter.components := by
  constructor
  · rintro (⟨named, tagged, unlisted⟩ | ⟨named, tagged, found, each⟩)
    · exact ⟨named, tagged, unlisted⟩
    · exact ⟨named, tagged, _, found, each⟩
  · obtain ⟨name, tag, components⟩ := parameter
    rintro ⟨named, tagged, listed⟩
    cases components with
    | none => exact .plain named tagged listed
    | some components =>
      obtain ⟨items, found, each⟩ := listed
      exact .listed named tagged found each

/-- Induction over a value and the components under it. -/
theorem descriptionInduction {motive : Json → Prop}
    (object : ∀ members, (∀ items, Json.lookup "components" members = some (.array items) →
      ∀ item ∈ items, motive item) → motive (.object members))
    (other : ∀ json, (∀ members, json ≠ .object members) → motive json) (json : Json) :
    motive json := by
  match json with
  | .object members =>
    exact object members fun items found item member =>
      descriptionInduction object other item
  | .null | .bool _ | .number _ | .string _ | .array _ => exact other _ nofun
termination_by sizeOf json
decreasing_by exact Json.sizeOf_lt_of_lookup found member

section Reading

variable {members : List (String × Json)}

theorem readName_eq_ok_iff {position : Nat} {name : String} :
    readName position members = .ok name ↔ NamedBy members name := by
  unfold readName NamedBy
  cases Json.lookup "name" members with
  | none => simp [eq_comm]
  | some value => cases value <;> simp [eq_comm]

theorem exists_namedBy_iff :
    (∃ name, NamedBy members name) ↔ ∀ value, Json.lookup "name" members = some value →
      value = .null ∨ ∃ text, value = .string text := by
  unfold NamedBy
  cases Json.lookup "name" members with
  | none => simp
  | some value => cases value <;> simp

theorem readTag_eq_ok_iff {position : Nat} {tag : String} :
    readTag position members = .ok tag ↔ Json.lookup "type" members = some (.string tag) := by
  unfold readTag
  cases Json.lookup "type" members with
  | none => simp
  | some value => cases value <;> simp

theorem read_object (position : Nat) :
    read position (.object members) = (do
      let name ← readName position members
      let tag ← readTag position members
      let components ← ((Json.lookup "components" members).map readComponents).getD (.ok none)
      return ⟨name, tag, components⟩) := by
  rw [read, lastComponents_eq]

theorem readAll_eq_ok_iff {items : List Json}
    (each : ∀ item ∈ items, ∀ position parameter,
      read position item = .ok parameter ↔ DescribedBy item parameter)
    (position : Nat) (parameters : List Parameter) :
    readAll position items = .ok parameters ↔ List.Forall₂ DescribedBy items parameters := by
  induction items generalizing position parameters with
  | nil => simp [readAll, eq_comm]
  | cons item rest ih =>
    obtain ⟨here, later⟩ := List.forall_mem_cons.mp each
    rw [readAll, List.forall₂_cons_left_iff, bind_eq_ok_iff]
    simp only [here, bind_eq_ok_iff, ih later]
    constructor
    · rintro ⟨first, described, others, following, same⟩
      cases same
      exact ⟨first, others, described, following, rfl⟩
    · rintro ⟨first, others, described, following, rfl⟩
      exact ⟨first, described, others, following, rfl⟩

theorem readComponents_array (items : List Json) :
    readComponents (.array items) = (readAll 0 items).map some := by
  rw [readComponents]

theorem readComponents_other {value : Json} (other : ∀ items, value ≠ .array items) :
    readComponents value = .ok none := by
  unfold readComponents
  split
  · next items => exact absurd rfl (other items)
  · rfl

theorem components_eq_ok_iff
    (each : ∀ items, Json.lookup "components" members = some (.array items) →
      ∀ item ∈ items, ∀ position parameter,
        read position item = .ok parameter ↔ DescribedBy item parameter)
    {components : Option (List Parameter)} :
    ((Json.lookup "components" members).map readComponents).getD (.ok none) = .ok components ↔
      ListedBy members components := by
  by_cases listed : ∃ items, Json.lookup "components" members = some (.array items)
  · obtain ⟨items, found⟩ := listed
    rw [found, Option.map_some, Option.getD_some, readComponents_array, map_eq_ok_iff]
    simp only [readAll_eq_ok_iff (each items found)]
    cases components <;> simp [ListedBy, found]
  · -- Whatever else stands there, or nothing at all, is passed over.
    have passed : ((Json.lookup "components" members).map readComponents).getD (.ok none) =
        .ok none := by
      cases found : Json.lookup "components" members with
      | none => rfl
      | some value =>
        exact readComponents_other fun items same => listed ⟨items, by rw [found, same]⟩
    rw [passed]
    cases components with
    | none => simpa [ListedBy] using listed
    | some components =>
      simp only [ListedBy, reduceCtorEq, Except.ok.injEq, false_iff]
      rintro ⟨items, found, -⟩
      exact listed ⟨items, found⟩

/-- The reader gives a parameter exactly if the value describes it, at whatever position. -/
theorem read_eq_ok_iff (json : Json) (position : Nat) (parameter : Parameter) :
    read position json = .ok parameter ↔ DescribedBy json parameter := by
  induction json using descriptionInduction generalizing position parameter with
  | object members ih =>
    rw [read_object, describedBy_object_iff]
    simp only [bind_eq_ok_iff, readName_eq_ok_iff, readTag_eq_ok_iff,
      components_eq_ok_iff ih]
    constructor
    · rintro ⟨name, named, tag, tagged, components, listed, same⟩
      cases same
      exact ⟨named, tagged, listed⟩
    · obtain ⟨name, tag, components⟩ := parameter
      rintro ⟨named, tagged, listed⟩
      exact ⟨name, named, tag, tagged, components, listed, rfl⟩
  | other json different =>
    constructor
    · intro read
      rw [Parameter.read] at read
      · cases read
      · exact different
    · rintro (_ | _)
      · exact absurd rfl (different _)
      · exact absurd rfl (different _)

end Reading

theorem exists_listedBy_iff {members : List (String × Json)}
    (each : ∀ items, Json.lookup "components" members = some (.array items) →
      ∀ item ∈ items, (∃ parameter, DescribedBy item parameter) ↔ Described item) :
    (∃ components, ListedBy members components) ↔
      ∀ items, Json.lookup "components" members = some (.array items) →
        ∀ item ∈ items, Described item := by
  constructor
  · rintro ⟨components, listed⟩ items found
    cases components with
    | none => exact absurd found (listed items)
    | some components =>
      obtain ⟨_, same, described⟩ := listed
      cases found.symm.trans same
      intro item member
      have partner := exists_forall₂_iff.mp ⟨components, described⟩ item member
      exact (each items found item member).mp partner
  · intro described
    by_cases listed : ∃ items, Json.lookup "components" members = some (.array items)
    · obtain ⟨items, found⟩ := listed
      have partners := fun item member =>
        (each items found item member).mpr (described items found item member)
      obtain ⟨components, related⟩ := exists_forall₂_iff.mpr partners
      exact ⟨some components, items, found, related⟩
    · exact ⟨none, fun items found => listed ⟨items, found⟩⟩

/-- A value describes a parameter exactly if it has the form that is asked of it. -/
theorem exists_describedBy_iff (json : Json) :
    (∃ parameter, DescribedBy json parameter) ↔ Described json := by
  induction json using descriptionInduction with
  | object members ih =>
    constructor
    · rintro ⟨parameter, described⟩
      obtain ⟨named, tagged, listed⟩ := describedBy_object_iff.mp described
      exact .intro (exists_namedBy_iff.mp ⟨_, named⟩) ⟨_, tagged⟩
        ((exists_listedBy_iff ih).mp ⟨_, listed⟩)
    · rintro ⟨name, ⟨tag, tagged⟩, components⟩
      obtain ⟨name, named⟩ := exists_namedBy_iff.mpr name
      obtain ⟨components, listed⟩ := (exists_listedBy_iff ih).mpr components
      exact ⟨⟨name, tag, components⟩, describedBy_object_iff.mpr ⟨named, tagged, listed⟩⟩
  | other json different =>
    constructor
    · rintro ⟨_, _ | _⟩ <;> exact absurd rfl (different _)
    · rintro ⟨⟩
      exact absurd rfl (different _)

end Parameter

namespace FunctionEntry

/-- A name that is not empty, two arrays of parameters, and a string for the mutability if there is
one. -/
structure Described (members : List (String × Json)) : Prop where
  name : ∃ name, Json.lookup "name" members = some (.string name) ∧ name ≠ ""
  lists : ∀ side : Side, ∃ items, Json.lookup side.name members = some (.array items) ∧
    ∀ item ∈ items, Parameter.Described item
  mutability : ∀ value, Json.lookup "stateMutability" members = some value →
    ∃ mutability, value = .string mutability

/-- The parameters that an entry gives to one side of a function. -/
def ListedBy (side : Side) (members : List (String × Json)) (parameters : List Parameter) : Prop :=
  ∃ items, Json.lookup side.name members = some (.array items) ∧
    List.Forall₂ Parameter.DescribedBy items parameters

/-- The mutability that an entry gives to a function. The two flags only count where it is not
stated, and only by the value `true`. -/
inductive MutableBy (members : List (String × Json)) : String → Prop where
  | stated {mutability : String}
      (found : Json.lookup "stateMutability" members = some (.string mutability)) :
    MutableBy members mutability
  | constant (unstated : Json.lookup "stateMutability" members = none)
      (flag : Json.lookup "constant" members = some (.bool true)) :
    MutableBy members "view"
  | payable (unstated : Json.lookup "stateMutability" members = none)
      (changing : Json.lookup "constant" members ≠ some (.bool true))
      (flag : Json.lookup "payable" members = some (.bool true)) :
    MutableBy members "payable"
  | unflagged (unstated : Json.lookup "stateMutability" members = none)
      (changing : Json.lookup "constant" members ≠ some (.bool true))
      (unpaid : Json.lookup "payable" members ≠ some (.bool true)) :
    MutableBy members "nonpayable"

/-- The function that an entry describes. It is constant by its mutability, and its signature and
selector are those of its name and inputs. -/
structure DescribedBy (members : List (String × Json)) (function : FunctionEntry) : Prop where
  name : Json.lookup "name" members = some (.string function.name)
  named : function.name ≠ ""
  inputs : ListedBy .inputs members function.inputs
  outputs : ListedBy .outputs members function.outputs
  mutability : MutableBy members function.mutability
  constant : function.constant = true ↔
    function.mutability = "view" ∨ function.mutability = "pure"
  signature : SignedAs function.name function.inputs function.signature
  selector : IsSelector function.signature function.selector

/-- What is computed for a function is what describes it. -/
theorem eq_withMutability_iff {function : FunctionEntry} :
    function =
        withMutability function.name function.inputs function.outputs function.mutability ↔
      (function.constant = true ↔ function.mutability = "view" ∨ function.mutability = "pure") ∧
        SignedAs function.name function.inputs function.signature ∧
        IsSelector function.signature function.selector := by
  obtain ⟨name, inputs, outputs, mutability, constant, signature, selector⟩ := function
  simp only [withMutability, mk.injEq, true_and, signedAs_iff, isSelector_iff]
  refine and_congr ?_ ?_
  · rw [Bool.eq_iff_iff, Bool.or_eq_true, beq_iff_eq, beq_iff_eq]
  · constructor
    · rintro ⟨rfl, rfl⟩
      exact ⟨rfl, rfl⟩
    · rintro ⟨rfl, rfl⟩
      exact ⟨rfl, rfl⟩

theorem describedBy_withMutability {members : List (String × Json)} {name mutability : String}
    {inputs outputs : List Parameter} (found : Json.lookup "name" members = some (.string name))
    (named : name ≠ "") (taken : ListedBy .inputs members inputs)
    (given : ListedBy .outputs members outputs) (stated : MutableBy members mutability) :
    DescribedBy members (withMutability name inputs outputs mutability) := by
  obtain ⟨constant, signature, selector⟩ := eq_withMutability_iff.mp
    (rfl : withMutability name inputs outputs mutability = _)
  exact ⟨found, named, taken, given, stated, constant, signature, selector⟩

section Reading

variable {members : List (String × Json)}

theorem readName_eq_ok_iff {name : String} :
    readName members = .ok name ↔ Json.lookup "name" members = some (.string name) ∧ name ≠ "" := by
  unfold readName
  cases Json.lookup "name" members with
  | none => simp
  | some value =>
    cases value with
    | string text =>
      by_cases empty : text = ""
      · simp [empty, eq_comm]
      · simp only [beq_iff_eq, empty, if_false, Except.ok.injEq, Option.some.injEq,
          Json.string.injEq]
        exact ⟨fun same => ⟨same, same ▸ empty⟩, And.left⟩
    | null | bool _ | number _ | array _ | object _ => simp

theorem readParameters_eq_ok_iff {side : Side} {parameters : List Parameter} :
    readParameters side members = .ok parameters ↔ ListedBy side members parameters := by
  unfold readParameters ListedBy
  cases Json.lookup side.name members with
  | none => simp
  | some value =>
    cases value with
    | array items =>
      rw [mapError_eq_ok_iff,
        Parameter.readAll_eq_ok_iff fun item _ => Parameter.read_eq_ok_iff item]
      simp
    | null | bool _ | number _ | string _ | object _ => simp

theorem isTrue_iff {value : Option Json} : isTrue value = true ↔ value = some (.bool true) := by
  unfold isTrue
  split
  · simp
  · next other => simpa using other

theorem readMutability_eq_ok_iff {mutability : String} :
    readMutability members = .ok mutability ↔ MutableBy members mutability := by
  constructor
  · intro read
    unfold readMutability at read
    split at read
    · next found =>
      cases read
      exact .stated found
    · cases read
    · next unstated =>
      split at read
      · next flag =>
        cases read
        exact .constant unstated (isTrue_iff.mp flag)
      · next changing =>
        rw [isTrue_iff] at changing
        split at read
        · next flag =>
          cases read
          exact .payable unstated changing (isTrue_iff.mp flag)
        · next unpaid =>
          cases read
          exact .unflagged unstated changing (mt isTrue_iff.mpr unpaid)
  · rintro (found | ⟨unstated, flag⟩ | ⟨unstated, changing, flag⟩ | ⟨unstated, changing, unpaid⟩)
    · simp only [readMutability, found]
    · simp only [readMutability, unstated, isTrue_iff.mpr flag, if_true]
    · simp only [readMutability, unstated, isTrue_iff, changing, flag, if_true, if_false]
    · simp only [readMutability, unstated, isTrue_iff, changing, unpaid, if_false]

/-- The reader gives a function exactly if the entry describes it. -/
theorem read_eq_ok_iff {function : FunctionEntry} :
    read members = .ok function ↔ DescribedBy members function := by
  simp only [read, bind_eq_ok_iff, readName_eq_ok_iff, readParameters_eq_ok_iff,
    readMutability_eq_ok_iff]
  constructor
  · rintro ⟨name, ⟨found, named⟩, inputs, taken, outputs, given, mutability, stated, same⟩
    cases same
    exact describedBy_withMutability found named taken given stated
  · rintro ⟨found, named, taken, given, stated, constant, signature, selector⟩
    refine ⟨_, ⟨found, named⟩, _, taken, _, given, _, stated, ?_⟩
    rw [← eq_withMutability_iff.mpr ⟨constant, signature, selector⟩]
    rfl

end Reading

theorem exists_mutableBy_iff {members : List (String × Json)} :
    (∃ mutability, MutableBy members mutability) ↔
      ∀ value, Json.lookup "stateMutability" members = some value →
        ∃ mutability, value = .string mutability := by
  simp only [← readMutability_eq_ok_iff, readMutability]
  cases Json.lookup "stateMutability" members with
  | none =>
    simp only [reduceCtorEq, false_implies, implies_true, iff_true]
    split
    · exact ⟨_, rfl⟩
    · split <;> exact ⟨_, rfl⟩
  | some value => cases value <;> simp

theorem exists_listedBy_iff {side : Side} {members : List (String × Json)} :
    (∃ parameters, ListedBy side members parameters) ↔
      ∃ items, Json.lookup side.name members = some (.array items) ∧
        ∀ item ∈ items, Parameter.Described item := by
  unfold ListedBy
  rw [exists_comm]
  simp only [exists_and_left, exists_forall₂_iff, Parameter.exists_describedBy_iff]

/-- An entry describes a function exactly if it has the form that is asked of it. -/
theorem exists_describedBy_iff {members : List (String × Json)} :
    (∃ function, DescribedBy members function) ↔ Described members := by
  constructor
  · rintro ⟨function, found, named, taken, given, stated, -, -, -⟩
    refine ⟨⟨_, found, named⟩, fun side => ?_, exists_mutableBy_iff.mp ⟨_, stated⟩⟩
    cases side with
    | inputs => exact exists_listedBy_iff.mp ⟨_, taken⟩
    | outputs => exact exists_listedBy_iff.mp ⟨_, given⟩
  · rintro ⟨⟨name, found, named⟩, lists, stated⟩
    obtain ⟨inputs, taken⟩ := exists_listedBy_iff.mpr (lists .inputs)
    obtain ⟨outputs, given⟩ := exists_listedBy_iff.mpr (lists .outputs)
    obtain ⟨mutability, stated⟩ := exists_mutableBy_iff.mpr stated
    exact ⟨_, describedBy_withMutability found named taken given stated⟩

end FunctionEntry

end ContractWrapper
