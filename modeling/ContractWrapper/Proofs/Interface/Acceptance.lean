import Mathlib.Data.List.ReduceOption
import ContractWrapper.Proofs.Interface.Description

/-! Which interface descriptions are read, and what is read from them.

Every entry is read on its own, so a description is read exactly if each of its entries can be. The
first entry that cannot be is the one that is reported, and what stands in front of it only counts
towards its index.
-/

set_option autoImplicit false

namespace ContractWrapper.Interface

open Failure (bind_eq_ok_iff bind_eq_error_iff map_eq_ok_iff map_eq_error_iff mapError_eq_ok_iff
  mapError_eq_error_iff first_failure_iff)

section Entry

/-- An entry that says of itself that it is a function, or does not say what it is. -/
def describesFunction (members : List (String × Json)) : Bool :=
  match Json.lookup "type" members with
  | none => true
  | some (.string kind) => kind == "function"
  | some _ => false

def functionMembers? : Json → Option (List (String × Json))
  | .object members => if describesFunction members then some members else none
  | _ => none

/-- An object that says of what kind it is in a string, if at all, and that describes a function if
this is its kind. Nothing else is asked of entries of other kinds. -/
structure DescribedEntry (members : List (String × Json)) : Prop where
  kind : ∀ value, Json.lookup "type" members = some value → ∃ kind, value = .string kind
  function : describesFunction members = true → FunctionEntry.Described members

def EntryDescribed : Json → Prop
  | .object members => DescribedEntry members
  | _ => False

/-- What a single entry gives, wherever it stands. -/
def readingOf : Json → Except EntryDefect (Option FunctionEntry)
  | .object members => do
    let kind ← readKind members
    if kind == "function" then (FunctionEntry.read members).map some else .ok none
  | _ => .error .notObject

theorem result_readEntry (index : Nat) (entry : Json) :
    (readEntry index entry).result = (readingOf entry).mapError (.malformed index) := by
  cases entry with
  | object members =>
    simp only [readEntry, readingOf, Traced.result_bind, Traced.result_of]
    cases readKind members with
    | error defect => rfl
    | ok kind =>
      change (if kind == "function" then _ else _ : Traced _).result =
        Except.mapError _ (if kind == "function" then _ else _)
      split
      · cases FunctionEntry.read members <;> rfl
      · -- Only an event tells the kinds apart that are passed over.
        split <;> rfl
  | null | bool _ | number _ | string _ | array _ => rfl

variable {members : List (String × Json)}

theorem readKind_eq_ok_iff {kind : String} :
    readKind members = .ok kind ↔ Json.lookup "type" members = some (.string kind) ∨
      Json.lookup "type" members = none ∧ kind = "function" := by
  unfold readKind
  cases Json.lookup "type" members with
  | none => simp [eq_comm]
  | some value => cases value <;> simp

theorem describesFunction_eq {kind : String} (read : readKind members = .ok kind) :
    describesFunction members = (kind == "function") := by
  unfold describesFunction
  obtain stated | ⟨unstated, rfl⟩ := readKind_eq_ok_iff.mp read
  · rw [stated]
  · rw [unstated]
    rfl

theorem exists_readKind_iff :
    (∃ kind, readKind members = .ok kind) ↔
      ∀ value, Json.lookup "type" members = some value → ∃ kind, value = .string kind := by
  simp only [readKind_eq_ok_iff]
  cases Json.lookup "type" members with
  | none => simp
  | some value => cases value <;> simp

/-- An object gives the function that it describes, or nothing if it is of another kind. -/
theorem readingOf_object_eq_ok_iff {reading : Option FunctionEntry} :
    readingOf (.object members) = .ok reading ↔ (∃ kind, readKind members = .ok kind) ∧
      Option.Rel FunctionEntry.DescribedBy (functionMembers? (.object members)) reading := by
  simp only [readingOf, functionMembers?, bind_eq_ok_iff, ← exists_and_right]
  refine exists_congr fun kind => and_congr_right fun read => ?_
  rw [describesFunction_eq read]
  cases kind == "function" with
  | true =>
    simp only [if_true, map_eq_ok_iff, FunctionEntry.read_eq_ok_iff]
    constructor
    · rintro ⟨function, described, rfl⟩
      exact .some described
    · rintro ⟨described⟩
      exact ⟨_, described, rfl⟩
  | false =>
    simp only [Bool.false_eq_true, if_false, Except.ok.injEq]
    constructor
    · rintro rfl
      exact .none
    · rintro ⟨⟩
      rfl

theorem exists_readingOf_iff {entry : Json} :
    (∃ reading, readingOf entry = .ok reading) ↔ EntryDescribed entry := by
  cases entry with
  | object members =>
    simp only [readingOf_object_eq_ok_iff, exists_and_left, functionMembers?]
    constructor
    · rintro ⟨kind, reading, given⟩
      refine ⟨exists_readKind_iff.mp kind, fun function => ?_⟩
      rw [function, if_pos rfl] at given
      cases given with
      | some described => exact FunctionEntry.exists_describedBy_iff.mp ⟨_, described⟩
    · rintro ⟨kind, described⟩
      refine ⟨exists_readKind_iff.mpr kind, ?_⟩
      cases function : describesFunction members with
      | true =>
        obtain ⟨reading, given⟩ := FunctionEntry.exists_describedBy_iff.mpr (described function)
        exact ⟨some reading, .some given⟩
      | false => exact ⟨none, .none⟩
  | null | bool _ | number _ | string _ | array _ => simp [readingOf, EntryDescribed]

theorem rel_of_readingOf {entry : Json} {reading : Option FunctionEntry}
    (given : readingOf entry = .ok reading) :
    Option.Rel FunctionEntry.DescribedBy (functionMembers? entry) reading := by
  cases entry with
  | object members => exact (readingOf_object_eq_ok_iff.mp given).2
  | null | bool _ | number _ | string _ | array _ => cases given

end Entry

section Entries

/-- The readings of a list of entries, each taken on its own. -/
def Readings (entries : List Json) (readings : List (Option FunctionEntry)) : Prop :=
  List.Forall₂ (fun entry reading => readingOf entry = .ok reading) entries readings

/-- A reading in front of others: its function comes first, or it is counted with those passed
over. -/
def counted (reading : Option FunctionEntry) (read : List FunctionEntry × Nat) :
    List FunctionEntry × Nat :=
  match reading with
  | some function => (function :: read.1, read.2)
  | none => (read.1, read.2 + 1)

theorem counted_append (reading : Option FunctionEntry) (first second : List FunctionEntry × Nat) :
    counted reading (first.1 ++ second.1, first.2 + second.2) =
      ((counted reading first).1 ++ second.1, (counted reading first).2 + second.2) := by
  cases reading with
  | none => exact congrArg (Prod.mk _) (Nat.add_right_comm ..)
  | some function => rfl

theorem result_readEntries_cons (index : Nat) (entry : Json) (rest : List Json) :
    (readEntries index (entry :: rest)).result =
      (readingOf entry).mapError (.malformed index) >>= fun reading =>
        (readEntries (index + 1) rest).result.map (counted reading) := by
  rw [readEntries, Traced.result_bind, result_readEntry]
  refine congrArg _ (funext fun reading => ?_)
  rw [Traced.result_bind]
  cases (readEntries (index + 1) rest).result with
  | error error => rfl
  | ok read => cases reading <;> rfl

/-- A list of entries is read exactly if each entry is; the functions among the readings are kept,
and the others are counted. -/
theorem readEntries_eq_ok_iff {index : Nat} {entries : List Json}
    {read : List FunctionEntry × Nat} :
    (readEntries index entries).result = .ok read ↔
      ∃ readings, Readings entries readings ∧
        read = (readings.reduceOption, (readings.filter Option.isNone).length) := by
  induction entries generalizing index read with
  | nil => simp [readEntries, Readings, eq_comm]
  | cons entry rest ih =>
    have counts : ∀ (reading : Option FunctionEntry) (readings : List (Option FunctionEntry)),
        counted reading (readings.reduceOption, (readings.filter Option.isNone).length) =
          ((reading :: readings).reduceOption,
            ((reading :: readings).filter Option.isNone).length) := by
      intro reading readings
      cases reading <;> simp [counted]
    rw [result_readEntries_cons]
    simp only [bind_eq_ok_iff, mapError_eq_ok_iff, map_eq_ok_iff, ih]
    constructor
    · rintro ⟨reading, given, _, ⟨readings, later, rfl⟩, rfl⟩
      exact ⟨reading :: readings, .cons given later, counts reading readings⟩
    · rintro ⟨_, given | ⟨given, later⟩, rfl⟩
      exact ⟨_, given, _, ⟨_, later, rfl⟩, counts _ _⟩

/-- The first entry that gives nothing is reported, by the number of those in front of it. -/
theorem readEntries_eq_error_iff {index : Nat} {entries : List Json} {error : GenerationError} :
    (readEntries index entries).result = .error error ↔
      ∃ before bad after defect, entries = before ++ bad :: after ∧
        (∀ entry ∈ before, EntryDescribed entry) ∧ readingOf bad = .error defect ∧
        error = .malformed (index + before.length) defect := by
  simp only [exists_and_left]
  refine first_failure_iff (fun index entries => (readEntries index entries).result = .error error)
    (fun index entry => ∃ defect, readingOf entry = .error defect ∧ error = .malformed index defect)
    EntryDescribed (fun _ => nofun) ?_ index entries
  intro index entry rest
  rw [result_readEntries_cons]
  simp only [bind_eq_error_iff, mapError_eq_error_iff, mapError_eq_ok_iff, map_eq_error_iff,
    exists_and_right, exists_readingOf_iff, @eq_comm _ error]

/-- The same error with as many entries in front of the one that it reports. -/
def errorBehind (count : Nat) : GenerationError → GenerationError
  | .malformed index defect => .malformed (count + index) defect
  | error => error

theorem result_readEntries_add (index count : Nat) (entries : List Json) :
    (readEntries (count + index) entries).result =
      (readEntries index entries).result.mapError (errorBehind count) := by
  induction entries generalizing index with
  | nil => rfl
  | cons entry rest ih =>
    rw [result_readEntries_cons, result_readEntries_cons, Nat.add_assoc, ih]
    cases readingOf entry with
    | error defect => rfl
    | ok reading => cases (readEntries (index + 1) rest).result <;> rfl

theorem result_readEntries_append (index : Nat) (entries others : List Json) :
    (readEntries index (entries ++ others)).result = do
      let first ← (readEntries index entries).result
      let second ← (readEntries (entries.length + index) others).result
      return (first.1 ++ second.1, first.2 + second.2) := by
  induction entries generalizing index with
  | nil =>
    simp only [readEntries, List.nil_append, List.length_nil, Nat.zero_add]
    cases (readEntries index others).result with
    | error error => rfl
    | ok read =>
      change Except.ok read = .ok ([] ++ read.1, 0 + read.2)
      rw [List.nil_append, Nat.zero_add]
  | cons entry rest ih =>
    have next : (entry :: rest).length + index = rest.length + (index + 1) := by
      rw [List.length_cons, Nat.add_assoc, Nat.add_comm 1]
    rw [List.cons_append, result_readEntries_cons, result_readEntries_cons, ih, next]
    cases readingOf entry with
    | error defect => rfl
    | ok reading =>
      cases (readEntries (index + 1) rest).result with
      | error error => rfl
      | ok first =>
        cases (readEntries (rest.length + (index + 1)) others).result with
        | error error => rfl
        | ok second => exact congrArg Except.ok (counted_append reading first second)

end Entries

/-- The entries of a description: its items, or those that an artifact binds to `abi`. -/
inductive HoldsEntries : Json → List Json → Prop where
  | bare (entries : List Json) : HoldsEntries (.array entries) entries
  | artifact {members : List (String × Json)} {entries : List Json}
      (found : Json.lookup "abi" members = some (.array entries)) :
    HoldsEntries (.object members) entries

/-- The name that a description gives to the contract. Only an artifact gives one, in a string that
it binds to `contractName`. -/
inductive NamesContract : Json → Option String → Prop where
  | bare (entries : List Json) : NamesContract (.array entries) none
  | named {members : List (String × Json)} {name : String}
      (found : Json.lookup "contractName" members = some (.string name)) :
    NamesContract (.object members) (some name)
  | unnamed {members : List (String × Json)}
      (absent : ∀ name, Json.lookup "contractName" members ≠ some (.string name)) :
    NamesContract (.object members) none

theorem entriesOf_eq_ok_iff {description : Json} {entries : List Json} {name : Option String} :
    entriesOf description = .ok (entries, name) ↔
      HoldsEntries description entries ∧ NamesContract description name := by
  constructor
  · intro taken
    unfold entriesOf at taken
    split at taken
    · cases taken
      exact ⟨.bare entries, .bare entries⟩
    · split at taken
      · next found =>
        split at taken
        · next named =>
          cases taken
          exact ⟨.artifact found, .named named⟩
        · next absent =>
          cases taken
          exact ⟨.artifact found, .unnamed absent⟩
      · cases taken
    · cases taken
  · rintro ⟨_ | found, _ | named | absent⟩
    · rfl
    · simp only [entriesOf, found, named]
    · simp only [entriesOf, found]

theorem exists_namesContract {description : Json} {entries : List Json}
    (held : HoldsEntries description entries) : ∃ name, NamesContract description name := by
  cases held with
  | bare => exact ⟨none, .bare entries⟩
  | @artifact members =>
    by_cases named : ∃ name, Json.lookup "contractName" members = some (.string name)
    · obtain ⟨name, found⟩ := named
      exact ⟨some name, .named found⟩
    · exact ⟨none, .unnamed fun name found => named ⟨name, found⟩⟩

theorem holdsEntries_iff {description : Json} {entries : List Json} :
    HoldsEntries description entries ↔ ∃ name, entriesOf description = .ok (entries, name) := by
  simp only [entriesOf_eq_ok_iff, exists_and_left]
  exact (and_iff_left_of_imp exists_namesContract).symm

/-- What holds no entries is refused as a whole. -/
theorem entriesOf_eq_error {description : Json} {error : GenerationError}
    (failed : entriesOf description = .error error) :
    error = .noEntryList ∨ error = .noDescription := by
  unfold entriesOf at failed
  split at failed
  · cases failed
  · split at failed
    · split at failed <;> cases failed
    · cases failed
      exact .inl rfl
  · cases failed
    exact .inr rfl

/-- A description that holds entries, all of them described. -/
def Described (description : Json) : Prop :=
  ∃ entries, HoldsEntries description entries ∧ ∀ entry ∈ entries, EntryDescribed entry

theorem ofJson_of_held {description : Json} {entries : List Json} {name : Option String}
    (taken : entriesOf description = .ok (entries, name)) :
    ofJson description = (do
      let (functions, skipped) ← readEntries 0 entries
      Traced.emit (.interfaceRead functions.length skipped)
      return { contractName := name, functions, skipped }) := by
  rw [ofJson, taken]
  exact pure_bind (entries, name) _

/-- What a description says about the functions, without the name of the contract. -/
def contents (read : Interface) : List FunctionEntry × Nat :=
  (read.functions, read.skipped)

theorem map_contents_ofJson {description : Json} {entries : List Json}
    (held : HoldsEntries description entries) :
    (ofJson description).result.map contents = (readEntries 0 entries).result := by
  obtain ⟨name, taken⟩ := holdsEntries_iff.mp held
  rw [ofJson_of_held taken, Traced.result_bind]
  cases (readEntries 0 entries).result <;> rfl

theorem exists_holdsEntries {description : Json} {read : Interface}
    (accepted : (ofJson description).result = .ok read) :
    ∃ entries, HoldsEntries description entries := by
  rw [ofJson, Traced.result_bind] at accepted
  obtain ⟨⟨entries, name⟩, taken, -⟩ := bind_eq_ok_iff.mp accepted
  exact ⟨entries, holdsEntries_iff.mpr ⟨name, taken⟩⟩

theorem ofText_eq_ok_iff {text : String} {read : Interface} :
    (ofText text).result = .ok read ↔
      ∃ description, Json.read text = .ok description ∧ (ofJson description).result = .ok read := by
  rw [ofText, Traced.result_bind, Traced.result_of, bind_eq_ok_iff]
  simp only [mapError_eq_ok_iff]

/-- What is read from a description keeps the name that the description gives to the contract. -/
theorem namesContract_of_ofJson {description : Json} {read : Interface}
    (accepted : (ofJson description).result = .ok read) :
    NamesContract description read.contractName := by
  rw [ofJson, Traced.result_bind] at accepted
  obtain ⟨⟨entries, name⟩, taken, accepted⟩ := bind_eq_ok_iff.mp accepted
  rw [Traced.result_bind] at accepted
  obtain ⟨_, -, same⟩ := bind_eq_ok_iff.mp accepted
  cases same
  exact (entriesOf_eq_ok_iff.mp taken).2

section Held

variable {description : Json} {entries : List Json}

theorem readings_of_ofJson (held : HoldsEntries description entries) {read : Interface}
    (accepted : (ofJson description).result = .ok read) :
    ∃ readings, Readings entries readings ∧ read.functions = readings.reduceOption ∧
      read.skipped = (readings.filter Option.isNone).length := by
  have same := map_contents_ofJson held
  rw [accepted] at same
  obtain ⟨readings, given, split⟩ := readEntries_eq_ok_iff.mp same.symm
  obtain ⟨functions, skipped⟩ := Prod.mk.inj split
  exact ⟨readings, given, functions, skipped⟩

theorem exists_ofJson_eq_ok_iff (held : HoldsEntries description entries) :
    (∃ read, (ofJson description).result = .ok read) ↔
      ∀ entry ∈ entries, EntryDescribed entry := by
  simp only [← exists_readingOf_iff, ← exists_forall₂_iff]
  constructor
  · rintro ⟨read, accepted⟩
    obtain ⟨readings, given, -⟩ := readings_of_ofJson held accepted
    exact ⟨readings, given⟩
  · rintro ⟨readings, given⟩
    have reached := (@readEntries_eq_ok_iff 0 entries _).mpr ⟨readings, given, rfl⟩
    rw [← map_contents_ofJson held] at reached
    obtain ⟨read, accepted, -⟩ := map_eq_ok_iff.mp reached
    exact ⟨read, accepted⟩

theorem blamed_of_ofJson (held : HoldsEntries description entries) {error : GenerationError}
    (failed : (ofJson description).result = .error error) :
    ∃ before bad after defect, entries = before ++ bad :: after ∧
      (∀ entry ∈ before, EntryDescribed entry) ∧ ¬EntryDescribed bad ∧
      error = .malformed before.length defect := by
  have reached : (readEntries 0 entries).result = .error error := by
    rw [← map_contents_ofJson held, failed]
    rfl
  obtain ⟨before, bad, after, defect, split, passed, found, same⟩ :=
    readEntries_eq_error_iff.mp reached
  refine ⟨before, bad, after, defect, split, passed, ?_, ?_⟩
  · intro described
    obtain ⟨reading, given⟩ := exists_readingOf_iff.mpr described
    cases given.symm.trans found
  · rw [same, Nat.zero_add]

theorem described_of_ofJson {read : Interface}
    (accepted : (ofJson description).result = .ok read) :
    ∃ entries, HoldsEntries description entries ∧
      List.Forall₂ FunctionEntry.DescribedBy (entries.filterMap functionMembers?) read.functions ∧
      read.functions.length + read.skipped = entries.length := by
  obtain ⟨entries, held⟩ := exists_holdsEntries accepted
  obtain ⟨readings, given, functions, skipped⟩ := readings_of_ofJson held accepted
  refine ⟨entries, held, ?_, ?_⟩
  · rw [functions]
    exact List.rel_filterMap (fun _ _ reads => rel_of_readingOf reads) given
  · rw [functions, skipped, ← List.length_eq_reduceOption_length_add_filter_none]
    exact given.length_eq.symm

end Held

theorem exists_ofJson_iff (description : Json) :
    (∃ read, (ofJson description).result = .ok read) ↔ Described description := by
  constructor
  · rintro ⟨read, accepted⟩
    obtain ⟨entries, held⟩ := exists_holdsEntries accepted
    exact ⟨entries, held, (exists_ofJson_eq_ok_iff held).mp ⟨read, accepted⟩⟩
  · rintro ⟨entries, held, described⟩
    exact (exists_ofJson_eq_ok_iff held).mpr described

/-- Two descriptions whose entries stand in a third one are read there as they are alone. -/
theorem map_contents_ofJson_append {left right whole : Json} {entries others : List Json}
    (first : HoldsEntries left entries) (second : HoldsEntries right others)
    (both : HoldsEntries whole (entries ++ others)) :
    (ofJson whole).result.map contents = do
      let first ← (ofJson left).result
      let second ← (ofJson right).result.mapError (errorBehind entries.length)
      return (first.functions ++ second.functions, first.skipped + second.skipped) := by
  rw [map_contents_ofJson both, result_readEntries_append, result_readEntries_add,
    ← map_contents_ofJson first, ← map_contents_ofJson second]
  cases (ofJson left).result with
  | error error => rfl
  | ok read => cases (ofJson right).result <;> rfl

end ContractWrapper.Interface

namespace ContractWrapper

open Interface

/-- A description is read exactly if it holds entries that are all described; the functions that are
read are those of its function entries, in order, and every other entry is counted. Otherwise the
first entry that is not described is reported. The entries of two descriptions in a row are read as
each description is, with the errors of the second moved behind the entries of the first. -/
theorem descriptions_read :
    (∀ description, (∃ read, (ofJson description).result = .ok read) ↔
      Interface.Described description) ∧
    (∀ description read, (ofJson description).result = .ok read →
      ∃ entries, HoldsEntries description entries ∧
        List.Forall₂ FunctionEntry.DescribedBy (entries.filterMap functionMembers?)
          read.functions ∧
        read.functions.length + read.skipped = entries.length) ∧
    (∀ description entries error, HoldsEntries description entries →
      (ofJson description).result = .error error →
        ∃ before bad after defect, entries = before ++ bad :: after ∧
          (∀ entry ∈ before, EntryDescribed entry) ∧ ¬EntryDescribed bad ∧
          error = .malformed before.length defect) ∧
    ∀ left right whole entries others, HoldsEntries left entries → HoldsEntries right others →
      HoldsEntries whole (entries ++ others) →
        (ofJson whole).result.map contents = do
          let first ← (ofJson left).result
          let second ← (ofJson right).result.mapError (errorBehind entries.length)
          return (first.functions ++ second.functions, first.skipped + second.skipped) := by
  refine ⟨exists_ofJson_iff, fun _ _ => described_of_ofJson, ?_, ?_⟩
  · intro description entries error held failed
    exact blamed_of_ofJson held failed
  · intro left right whole entries others first second both
    exact map_contents_ofJson_append first second both

def eventEntry : Json :=
  .object [("type", .string "event")]

def getterEntry : Json :=
  .object [("name", .string "total"), ("inputs", .array []),
    ("outputs", .array [.object [("type", .string "uint256")]]), ("constant", .bool true)]

/-- The function that the getter describes. -/
def getterFunction : FunctionEntry where
  name := "total"
  inputs := []
  outputs := [⟨"", "uint256", none⟩]
  mutability := "view"
  constant := true
  signature := "total()"
  selector := "0x2ddbd13a"

theorem getterFunction_eq :
    getterFunction = .withMutability "total" [] [⟨"", "uint256", none⟩] "view" := by
  have signature : canonicalSignature "total" [] = "total()" := rfl
  have selector : selectorOf "total()" = "0x2ddbd13a" := by decide +kernel
  rw [FunctionEntry.withMutability, signature, selector]
  rfl

/-- An event in front of a getter is passed over and counted; in front of what is no object, it
moves the blame by one. -/
theorem getter_behind_event :
    (ofJson (.array [eventEntry, getterEntry])).result.map contents =
        .ok ([getterFunction], 1) ∧
      (ofJson (.array [eventEntry, .null])).result.map contents =
        .error (.malformed 1 .notObject) := by
  obtain ⟨-, -, -, joined⟩ := descriptions_read
  constructor
  · rw [getterFunction_eq]
    exact (joined (.array [eventEntry]) (.array [getterEntry]) _ _ _ (.bare _) (.bare _)
      (.bare _)).trans rfl
  · exact (joined (.array [eventEntry]) (.array [.null]) _ _ _ (.bare _) (.bare _)
      (.bare _)).trans rfl

end ContractWrapper
