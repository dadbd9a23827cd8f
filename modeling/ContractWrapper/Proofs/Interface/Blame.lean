import ContractWrapper.Proofs.Interface.Acceptance
import ContractWrapper.Proofs.Method.Placeholder
import ContractWrapper.Proofs.Text.Reading

/-! Which parameter is blamed for a defect.

A list of parameters is read up to its first defect, which may lie in the components of a tuple, and
in the components of these. Positions lead to it through the lists. What is reported is the last of
them alone, beside the side of the function that the first of them belongs to.
-/

set_option autoImplicit false

namespace ContractWrapper

open Failure (bind_eq_error_iff map_eq_error_iff mapError_eq_error_iff first_failure_iff)

namespace Parameter

/-- What is wrong with a value itself, whatever stands in its components. -/
inductive OwnDefect : Json → ParameterDefect → Prop where
  | notObject {json : Json} (other : ∀ members, json ≠ .object members) : OwnDefect json .notObject
  | nameNotString {members : List (String × Json)} (unnamed : ¬∃ name, NamedBy members name) :
    OwnDefect (.object members) .nameNotString
  | noType {members : List (String × Json)} (named : ∃ name, NamedBy members name)
      (untagged : ¬∃ tag, Json.lookup "type" members = some (.string tag)) :
    OwnDefect (.object members) .noType

/-- An object without a defect of its own, and the list of its components. -/
structure Holds (members : List (String × Json)) (items : List Json) : Prop where
  named : ∃ name, NamedBy members name
  tagged : ∃ tag, Json.lookup "type" members = some (.string tag)
  listed : Json.lookup "components" members = some (.array items)

/-- The positions that lead to the first defect of a list of parameters: one in the list and, as
long as it is not the parameter there that is defective itself, one in the list of its
components. -/
inductive FirstDefect : List Json → List Nat → ParameterDefect → Prop where
  | here {before after : List Json} {bad : Json} {defect : ParameterDefect}
      (sound : ∀ item ∈ before, Described item) (own : OwnDefect bad defect) :
    FirstDefect (before ++ bad :: after) [before.length] defect
  | within {before after items : List Json} {members : List (String × Json)} {path : List Nat}
      {defect : ParameterDefect}
      (sound : ∀ item ∈ before, Described item) (holds : Holds members items)
      (deeper : FirstDefect items path defect) :
    FirstDefect (before ++ .object members :: after) (before.length :: path) defect

/-- The parameter at a position is malformed, be it in its components, and those before it are
not. -/
structure FirstMalformed (items : List Json) (position : Nat) : Prop where
  malformed : ∃ bad, items[position]? = some bad ∧ ¬Described bad
  sound : ∀ earlier ∈ items.take position, Described earlier

section Errors

variable {members : List (String × Json)} {position : Nat} {fault : ParameterFault}

theorem exists_read_iff {json : Json} :
    (∃ parameter, read position json = .ok parameter) ↔ Described json := by
  simp only [read_eq_ok_iff, exists_describedBy_iff]

theorem readName_eq_error_iff :
    readName position members = .error fault ↔
      fault = ⟨position, .nameNotString⟩ ∧ ¬∃ name, NamedBy members name := by
  rw [exists_namedBy_iff]
  unfold readName
  cases Json.lookup "name" members with
  | none => simp
  | some value => cases value <;> simp [eq_comm]

theorem readTag_eq_error_iff :
    readTag position members = .error fault ↔
      fault = ⟨position, .noType⟩ ∧ ¬∃ tag, Json.lookup "type" members = some (.string tag) := by
  unfold readTag
  cases Json.lookup "type" members with
  | none => simp [eq_comm]
  | some value => cases value <;> simp [eq_comm]

theorem components_eq_error_iff :
    ((Json.lookup "components" members).map readComponents).getD (.ok none) = .error fault ↔
      ∃ items, Json.lookup "components" members = some (.array items) ∧
        readAll 0 items = .error fault := by
  by_cases listed : ∃ items, Json.lookup "components" members = some (.array items)
  · obtain ⟨items, found⟩ := listed
    rw [found, Option.map_some, Option.getD_some, readComponents_array, map_eq_error_iff]
    simp
  · constructor
    · intro failed
      cases found : Json.lookup "components" members with
      | none =>
        rw [found] at failed
        cases failed
      | some value =>
        rw [found, Option.map_some, Option.getD_some, readComponents_other] at failed
        · cases failed
        · exact fun items same => listed ⟨items, by rw [found, same]⟩
    · rintro ⟨items, found, -⟩
      exact absurd ⟨items, found⟩ listed

/-- A parameter is reported for a defect of its own, or as the list of its components is. -/
theorem read_eq_error_iff {json : Json} :
    read position json = .error fault ↔
      fault.position = position ∧ OwnDefect json fault.defect ∨
        ∃ members items, json = .object members ∧ Holds members items ∧
          readAll 0 items = .error fault := by
  obtain ⟨place, defect⟩ := fault
  cases json with
  | object members =>
    rw [read_object]
    simp only [bind_eq_error_iff, readName_eq_error_iff, readTag_eq_error_iff,
      components_eq_error_iff, readName_eq_ok_iff, readTag_eq_ok_iff, pure, Except.pure,
      reduceCtorEq, and_false, exists_false, or_false]
    constructor
    · rintro (⟨same, unnamed⟩ | ⟨name, named, ⟨same, untagged⟩ | ⟨tag, tagged, found⟩⟩)
      · cases same
        exact .inl ⟨rfl, .nameNotString unnamed⟩
      · cases same
        exact .inl ⟨rfl, .noType ⟨name, named⟩ untagged⟩
      · obtain ⟨items, listed, failed⟩ := found
        exact .inr ⟨members, items, rfl, ⟨⟨name, named⟩, ⟨tag, tagged⟩, listed⟩, failed⟩
    · rintro (⟨rfl, own⟩ | ⟨_, items, same, ⟨⟨name, named⟩, ⟨tag, tagged⟩, listed⟩, failed⟩)
      · cases own with
        | notObject other => exact absurd rfl (other members)
        | nameNotString unnamed => exact .inl ⟨rfl, unnamed⟩
        | noType named untagged =>
          obtain ⟨name, named⟩ := named
          exact .inr ⟨name, named, .inl ⟨rfl, untagged⟩⟩
      · cases same
        exact .inr ⟨name, named, .inr ⟨tag, tagged, items, listed, failed⟩⟩
  | null | bool _ | number _ | string _ | array _ =>
    simp only [read, Except.error.injEq, ParameterFault.mk.injEq, reduceCtorEq, false_and,
      exists_false, or_false]
    constructor
    · rintro ⟨rfl, rfl⟩
      refine ⟨rfl, .notObject ?_⟩
      rintro _ ⟨⟩
    · rintro ⟨rfl, _ | _⟩
      exact ⟨rfl, rfl⟩

theorem readAll_eq_error_iff {items : List Json} :
    readAll position items = .error fault ↔
      ∃ before bad after, items = before ++ bad :: after ∧
        (∀ item ∈ before, Described item) ∧
        read (position + before.length) bad = .error fault := by
  refine first_failure_iff (fun position items => readAll position items = .error fault)
    (fun position item => read position item = .error fault) Described (fun _ => nofun) ?_
    position items
  intro position item rest
  rw [readAll, bind_eq_error_iff, ← @exists_read_iff position item]
  simp only [bind_eq_error_iff, pure, Except.pure, reduceCtorEq, and_false, exists_false,
    or_false, exists_and_right]

end Errors

section Paths

variable {items : List Json} {path : List Nat} {defect : ParameterDefect}

theorem OwnDefect.not_described {json : Json} (own : OwnDefect json defect) : ¬Described json := by
  rintro ⟨name, tag, -⟩
  cases own with
  | notObject other => exact other _ rfl
  | nameNotString unnamed => exact unnamed (exists_namedBy_iff.mpr name)
  | noType _ untagged => exact untagged tag

theorem FirstDefect.ne_nil (first : FirstDefect items path defect) : path ≠ [] := by
  cases first <;> exact List.cons_ne_nil _ _

/-- The path starts at the first parameter of the list that is malformed. -/
theorem FirstDefect.split (first : FirstDefect items path defect) :
    ∃ before bad after rest, items = before ++ bad :: after ∧ path = before.length :: rest ∧
      (∀ item ∈ before, Described item) ∧ ¬Described bad := by
  induction first with
  | here sound own => exact ⟨_, _, _, _, rfl, rfl, sound, own.not_described⟩
  | within sound holds _ ih =>
    refine ⟨_, _, _, _, rfl, rfl, sound, ?_⟩
    rintro ⟨-, -, components⟩
    obtain ⟨before, bad, after, -, rfl, -, -, malformed⟩ := ih
    exact malformed (components _ holds.listed bad (by simp))

theorem FirstDefect.firstMalformed_iff (first : FirstDefect items path defect) {position : Nat} :
    FirstMalformed items position ↔ path.head? = some position := by
  obtain ⟨before, bad, after, rest, rfl, rfl, sound, malformed⟩ := first.split
  rw [List.head?_cons, Option.some.injEq]
  constructor
  · rintro ⟨⟨other, found, defective⟩, clear⟩
    rcases Nat.lt_trichotomy before.length position with behind | same | ahead
    · refine absurd (clear bad ?_) malformed
      rw [List.take_append, List.mem_append]
      refine .inr ?_
      obtain ⟨k, later⟩ := Nat.exists_eq_add_of_lt behind
      rw [later, Nat.add_assoc, Nat.add_sub_cancel_left, List.take_succ_cons]
      exact List.mem_cons_self
    · exact same
    · rw [List.getElem?_append_left ahead] at found
      exact absurd (sound other (List.mem_of_getElem? found)) defective
  · rintro rfl
    refine ⟨⟨bad, by simp, malformed⟩, ?_⟩
    rwa [List.take_left]

/-- What the reader reports of a list is its first defect, at the last of the positions that lead
to it. -/
def ReportsLast (items : List Json) : Prop :=
  ∀ fault, readAll 0 items = .error fault ↔
    ∃ path, FirstDefect items path fault.defect ∧ path.getLast? = some fault.position

theorem reportsLast_of_components
    (each : ∀ item ∈ items, ∀ members inner, item = .object members →
      Json.lookup "components" members = some (.array inner) → ReportsLast inner) :
    ReportsLast items := by
  intro fault
  rw [readAll_eq_error_iff]
  simp only [read_eq_error_iff, Nat.zero_add]
  constructor
  · rintro ⟨before, bad, after, rfl, sound, ⟨place, own⟩ | ⟨members, inner, rfl, holds, failed⟩⟩
    · exact ⟨_, .here sound own, congrArg some place.symm⟩
    · obtain ⟨path, deeper, last⟩ := (each _ (by simp) _ _ rfl holds.listed fault).mp failed
      exact ⟨_, .within sound holds deeper,
        (List.getLast?_append_of_ne_nil [_] deeper.ne_nil).trans last⟩
  · rintro ⟨path, first, last⟩
    cases first with
    | here sound own => exact ⟨_, _, _, rfl, sound, .inl ⟨(Option.some.inj last).symm, own⟩⟩
    | @within _ _ inner _ path _ sound holds deeper =>
      have same := (List.getLast?_append_of_ne_nil [_] deeper.ne_nil).symm.trans last
      have failed := (each _ (by simp) _ _ rfl holds.listed fault).mpr ⟨path, deeper, same⟩
      exact ⟨_, _, _, rfl, sound, .inr ⟨_, inner, rfl, holds, failed⟩⟩

theorem reportsLast (items : List Json) : ReportsLast items := by
  have inside (item : Json) : ∀ members inner, item = .object members →
      Json.lookup "components" members = some (.array inner) → ReportsLast inner := by
    induction item using descriptionInduction with
    | object members ih =>
      rintro _ inner ⟨rfl⟩ found
      exact reportsLast_of_components (ih inner found)
    | other json different =>
      intro members _ same
      exact absurd same (different members)
  exact reportsLast_of_components fun item _ => inside item

end Paths

end Parameter

section Messages

variable {side : Side} {position : Nat} {defect : EntryDefect}

/-- Which parameter a message begins with can be read off it. -/
theorem parameterReference_injective {other : Side} {place : Nat} {rest more : List Char}
    (same : (parameterReference side position).toList ++ rest =
      (parameterReference other place).toList ++ more) : side = other ∧ position = place := by
  have opening (side : Side) (position : Nat) (rest : List Char) :
      (parameterReference side position).toList ++ rest =
        (numbered (side.name ++ "[") position).toList ++ (']' :: rest) := by
    simp [parameterReference, numbered]
  have free (side : Side) (position : Nat) :
      ∀ c ∈ (numbered (side.name ++ "[") position).toList, c ∉ [']'] := by
    intro c member mark
    cases List.mem_singleton.mp mark
    rw [toList_numbered, List.mem_append] at member
    rcases member with inside | digit
    · cases side <;> exact absurd inside (by decide)
    · exact absurd (isIdentifierPart_of_mem_toDigits digit) (by decide)
  have stops (rest : List Char) : Text.Stops [']'] (']' :: rest) := by
    rintro c ⟨⟩
    exact List.mem_singleton_self _
  rw [opening, opening] at same
  have numbers := (Text.eq_of_append_stops (free side position) (free other place)
    (stops rest) (stops more) same).1
  rw [String.toList_inj] at numbers
  have sides : side = other := by
    have heads := congrArg (·.toList.head?) numbers
    cases side <;> cases other <;> simp [numbered, Side.name] at heads ⊢
  subst sides
  exact ⟨rfl, numbered_injective _ numbers⟩

theorem exists_message_parameter (side : Side) (position : Nat) (kind : ParameterDefect) :
    ∃ rest, (EntryDefect.parameter side position kind).message.toList =
      (parameterReference side position).toList ++ rest := by
  cases kind <;> exact ⟨_, String.toList_append⟩

/-- A message that begins with none of the parameters. -/
def EntryDefect.Plain (defect : EntryDefect) : Prop :=
  ∀ side position, ¬(parameterReference side position).toList <+: defect.message.toList

theorem plain_of_head (c : Char) (head : defect.message.toList.head? = some c)
    (other : c ∉ ['i', 'o']) : defect.Plain := by
  rintro side position ⟨rest, same⟩
  rw [← same] at head
  cases side <;> simp [parameterReference, Side.name] at head <;> simp [← head] at other

end Messages

section Entries

variable {members : List (String × Json)} {defect : EntryDefect}

namespace FunctionEntry

/-- The defect is the one that a list of parameters is refused for. -/
def ListDefect (members : List (String × Json)) (defect : EntryDefect) : Prop :=
  ∃ side items fault, Json.lookup (Side.name side) members = some (.array items) ∧
    Parameter.readAll 0 items = .error fault ∧
    defect = .parameter side fault.position fault.defect

theorem readName_eq_error (failed : readName members = .error defect) : defect.Plain := by
  unfold readName at failed
  split at failed
  · cases failed
    exact plain_of_head 'f' (by decide) (by decide)
  · split at failed <;> cases failed
    exact plain_of_head 'f' (by decide) (by decide)
  · cases failed
    exact plain_of_head 'f' (by decide) (by decide)

theorem readParameters_eq_error {side : Side}
    (failed : readParameters side members = .error defect) :
    defect.Plain ∨ ListDefect members defect := by
  unfold readParameters at failed
  split at failed
  · cases failed
    exact .inl (plain_of_head 'f' (by cases side <;> decide) (by decide))
  · next items found =>
    obtain ⟨fault, refused, rfl⟩ := mapError_eq_error_iff.mp failed
    exact .inr ⟨side, items, fault, found, refused, rfl⟩
  · cases failed
    exact .inl (plain_of_head '`' (by cases side <;> decide) (by decide))

theorem readMutability_eq_error (failed : readMutability members = .error defect) :
    defect.Plain := by
  unfold readMutability at failed
  split at failed
  · cases failed
  · cases failed
    exact plain_of_head '`' (by decide) (by decide)
  · split at failed
    · cases failed
    · split at failed <;> cases failed

theorem read_eq_error (failed : read members = .error defect) :
    defect.Plain ∨ ListDefect members defect := by
  simp only [read, bind_eq_error_iff, pure, Except.pure, reduceCtorEq, and_false, exists_false,
    or_false] at failed
  rcases failed with failed | ⟨_, -, failed | ⟨_, -, failed | ⟨_, -, failed⟩⟩⟩
  · exact .inl (readName_eq_error failed)
  · exact readParameters_eq_error failed
  · exact readParameters_eq_error failed
  · exact .inl (readMutability_eq_error failed)

end FunctionEntry

theorem Interface.readingOf_eq_error {entry : Json} (failed : readingOf entry = .error defect) :
    defect.Plain ∨
      ∃ members, entry = .object members ∧ FunctionEntry.ListDefect members defect := by
  unfold readingOf at failed
  split at failed
  · next members =>
    rcases bind_eq_error_iff.mp failed with unkind | ⟨kind, -, failed⟩
    · unfold readKind at unkind
      split at unkind <;> cases unkind
      exact .inl (plain_of_head '`' (by decide) (by decide))
    · split at failed
      · exact (FunctionEntry.read_eq_error (map_eq_error_iff.mp failed)).imp_right
          fun listed => ⟨members, rfl, listed⟩
      · cases failed
  · cases failed
    exact .inl (plain_of_head 'e' (by decide) (by decide))

namespace Interface

variable {description : Json} {index : Nat}

/-- An entry is only reported of a description that holds entries, for what it says itself. -/
theorem reported_of_malformed
    (failed : (ofJson description).result = .error (.malformed index defect)) :
    ∃ entries bad, HoldsEntries description entries ∧ entries[index]? = some bad ∧
      readingOf bad = .error defect := by
  have held : ∃ entries, HoldsEntries description entries := by
    rw [ofJson, Traced.result_bind] at failed
    rcases bind_eq_error_iff.mp failed with missing | ⟨⟨entries, name⟩, taken, -⟩
    · -- What holds no entries is refused without blaming one.
      cases entriesOf_eq_error missing <;> contradiction
    · exact ⟨entries, holdsEntries_iff.mpr ⟨name, taken⟩⟩
  obtain ⟨entries, held⟩ := held
  have reached := (map_contents_ofJson held).symm.trans (map_eq_error_iff.mpr failed)
  obtain ⟨before, bad, after, _, rfl, -, refused, same⟩ := readEntries_eq_error_iff.mp reached
  cases same
  exact ⟨_, bad, held, by simp, refused⟩

end Interface

end Entries

open Interface

section Blame

variable {description : Json} {index : Nat} {defect : EntryDefect} {side : Side} {position : Nat}

/-- A message that begins with a parameter names the last of the positions that lead to the first
defect of a list. So it names the first malformed parameter of the function exactly if these
positions also start with it, as they do where the defect is in no components. -/
theorem parameter_blamed
    (failed : (ofJson description).result = .error (.malformed index defect))
    (refers : (parameterReference side position).toList <+: defect.message.toList) :
    ∃ entries members items path kind, HoldsEntries description entries ∧
      entries[index]? = some (.object members) ∧
      Json.lookup side.name members = some (.array items) ∧
      defect = .parameter side position kind ∧
      Parameter.FirstDefect items path kind ∧ path.getLast? = some position ∧
      (Parameter.FirstMalformed items position ↔ path.head? = some position) := by
  obtain ⟨entries, bad, held, found, refused⟩ := reported_of_malformed failed
  rcases readingOf_eq_error refused with plain | ⟨members, rfl, listed⟩
  · exact absurd refers (plain side position)
  obtain ⟨other, items, ⟨place, kind⟩, bound, misread, rfl⟩ := listed
  obtain ⟨rfl, rfl⟩ : side = other ∧ position = place := by
    obtain ⟨rest, same⟩ := refers
    obtain ⟨more, message⟩ := exists_message_parameter other place kind
    exact parameterReference_injective (same.trans message)
  obtain ⟨path, first, last⟩ := (Parameter.reportsLast items _).mp misread
  exact ⟨entries, members, items, path, kind, held, found, bound, rfl, first, last,
    first.firstMalformed_iff⟩

/-- A tuple whose second component has no type. -/
def orderInput : Json :=
  .object [("name", .string "order"), ("type", .string "tuple"), ("components", .array
    [.object [("name", .string "maker"), ("type", .string "address")],
      .object [("name", .string "amount")]])]

def flagInput : Json :=
  .object [("name", .string "partial"), ("type", .string "bool")]

/-- A function of an order and a flag. -/
def fillEntry : Json :=
  .object [("name", .string "fill"), ("inputs", .array [orderInput, flagInput]),
    ("outputs", .array [])]

theorem described_flagInput : Parameter.Described flagInput :=
  (Parameter.exists_describedBy_iff flagInput).mp
    ⟨_, (Parameter.read_eq_ok_iff flagInput 0 ⟨"partial", "bool", none⟩).mp rfl⟩

/-- The order is defective in its components, at a position that is not its own. -/
theorem fill_blamed :
    (ofJson (.array [fillEntry])).result =
        .error (.malformed 0 (.parameter .inputs 1 .noType)) ∧
      (parameterReference .inputs 1).toList <+:
        (EntryDefect.parameter .inputs 1 .noType).message.toList ∧
      ∃ path, Parameter.FirstDefect [orderInput, flagInput] path .noType ∧
        path.getLast? = some 1 ∧ path.head? ≠ some 1 := by
  have failed : (ofJson (.array [fillEntry])).result =
      .error (.malformed 0 (.parameter .inputs 1 .noType)) := by rfl
  have refers : (parameterReference .inputs 1).toList <+:
      (EntryDefect.parameter .inputs 1 .noType).message.toList := by decide
  refine ⟨failed, refers, ?_⟩
  obtain ⟨entries, members, items, path, kind, held, found, bound, same, first, last, exactly⟩ :=
    parameter_blamed failed refers
  cases held
  cases found
  cases bound
  cases same
  refine ⟨path, first, last, fun start => ?_⟩
  obtain ⟨⟨bad, there, malformed⟩, -⟩ := exactly.mpr start
  cases there
  exact malformed described_flagInput

/-- The flag is blamed for a component of the order, with which nothing is wrong. -/
theorem flag_blamed_for_order :
    (ofJson (.array [fillEntry])).result =
        .error (.malformed 0 (.parameter .inputs 1 .noType)) ∧
      (EntryDefect.parameter .inputs 1 .noType).message = "inputs[1] has no string `type`" ∧
      Parameter.Described flagInput ∧
      ¬Parameter.FirstMalformed [orderInput, flagInput] 1 := by
  refine ⟨rfl, rfl, described_flagInput, ?_⟩
  rintro ⟨⟨bad, there, malformed⟩, -⟩
  cases there
  exact malformed described_flagInput

end Blame

end ContractWrapper
