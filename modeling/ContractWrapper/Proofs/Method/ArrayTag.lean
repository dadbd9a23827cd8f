import ContractWrapper.Proofs.Method.TypeTag

/-! Array tags.

A tag is a base with any number of array suffixes behind it, and it can be taken apart in no other
way. Shown for it is the entry of its base, and behind that the suffix of the table once for each
suffix of the tag.
-/

set_option autoImplicit false

namespace ContractWrapper

/-- A pair of brackets around digits, or around nothing. -/
@[ext] structure ArraySuffix where
  digits : String
  decimal : ∀ c ∈ digits.toList, c.isDigit = true

def ArraySuffix.text (suffix : ArraySuffix) : String :=
  "[" ++ suffix.digits ++ "]"

/-- A tag that does not itself end in an array suffix. -/
@[ext] structure BaseTag where
  text : String
  bare : ∀ element (suffix : ArraySuffix), text ≠ element ++ suffix.text

/-- A base and the suffixes behind it, from left to right. -/
structure ArrayTag where
  base : BaseTag
  suffixes : List ArraySuffix

def ArrayTag.text (tag : ArrayTag) : String :=
  tag.base.text ++ String.join (tag.suffixes.map ArraySuffix.text)

/-- The name of an integer type, of any width or of an unwritten one. -/
def IsIntegerName (base : String) : Prop :=
  ∃ width : String, (∀ c ∈ width.toList, c.isDigit = true) ∧
    (base = "int" ++ width ∨ base = "uint" ++ width)

inductive TypeEntry where
  | numeric
  | address
  | string
  | boolean
  | fallback
  deriving DecidableEq, Repr

/-- The entry is the one for the base. -/
def TypeEntry.Covers (base : String) : TypeEntry → Prop
  | numeric => IsIntegerName base
  | address => base = "address"
  | string => base = "string"
  | boolean => base = "bool"
  | fallback => ¬ IsIntegerName base ∧ base ≠ "address" ∧ base ≠ "string" ∧ base ≠ "bool"

/-- What a table shows for an entry. Only numbers are shown otherwise on one side than on the
other. -/
def TypeTable.entry (table : TypeTable) : Side → TypeEntry → String
  | .inputs, .numeric => table.numericInput
  | .outputs, .numeric => table.numericOutput
  | _, .address => table.address
  | _, .string => table.string
  | _, .boolean => table.boolean
  | _, .fallback => table.fallback

section Entries

variable {base : String}

theorem isInteger_iff : TypeTag.isInteger base.toList = true ↔ IsIntegerName base := by
  constructor
  · intro integer
    unfold TypeTag.isInteger TypeTag.integerWidth? at integer
    split at integer
    · next width same =>
      refine ⟨String.ofList width, by simpa using integer, .inr ?_⟩
      apply String.toList_inj.mp
      simp [same]
    · next width same =>
      refine ⟨String.ofList width, by simpa using integer, .inl ?_⟩
      apply String.toList_inj.mp
      simp [same]
    · cases integer
  · rintro ⟨width, digits, rfl | rfl⟩ <;>
      simpa [TypeTag.isInteger, TypeTag.integerWidth?] using digits

theorem base_of_covers (table : TypeTable) (side : Side) {entry : TypeEntry}
    (covers : entry.Covers base) : table.base side base.toList = table.entry side entry := by
  cases entry with
  | numeric =>
    rw [TypeTable.base, if_pos (isInteger_iff.mpr covers)]
    cases side <;> rfl
  | address | string | boolean =>
    cases covers
    cases side <;> rfl
  | fallback =>
    obtain ⟨notInteger, notAddress, notString, notBool⟩ := covers
    rw [TypeTable.base, if_neg (mt isInteger_iff.mp notInteger), String.ofList_toList]
    split
    · exact absurd rfl notAddress
    · exact absurd rfl notString
    · exact absurd rfl notBool
    · cases side <;> rfl

theorem exists_covers (base : String) : ∃ entry : TypeEntry, entry.Covers base := by
  by_cases integer : IsIntegerName base
  · exact ⟨.numeric, integer⟩
  by_cases address : base = "address"
  · exact ⟨.address, address⟩
  by_cases string : base = "string"
  · exact ⟨.string, string⟩
  by_cases boolean : base = "bool"
  · exact ⟨.boolean, boolean⟩
  · exact ⟨.fallback, integer, address, string, boolean⟩

/-- A table that shows something else for every entry. -/
def distinctTypes : TypeTable where
  numericInput := "integer"
  numericOutput := "integer"
  address := "address"
  string := "string"
  boolean := "bool"
  fallback := "any"
  arraySuffix := "[]"

theorem eq_of_covers {first second : TypeEntry} (covers : first.Covers base)
    (alsoCovers : second.Covers base) : first = second := by
  have same : distinctTypes.entry .inputs first = distinctTypes.entry .inputs second := by
    rw [← base_of_covers distinctTypes .inputs covers,
      base_of_covers distinctTypes .inputs alsoCovers]
  revert same
  cases first <;> cases second <;> decide

end Entries

section Suffixes

namespace TypeTag

theorem elementReversed?_eq_some_iff {reversed element : List Char} :
    elementReversed? reversed = some element ↔
      ∃ digits : List Char, (∀ c ∈ digits, c.isDigit = true) ∧
        reversed = ']' :: digits ++ '[' :: element := by
  constructor
  · intro found
    unfold elementReversed? at found
    split at found
    · next rest =>
      split at found
      · next inner cut =>
        cases found
        refine ⟨rest.takeWhile Char.isDigit, ?_, ?_⟩
        · exact fun c member => List.mem_takeWhile_imp member
        · rw [List.cons_append, ← cut, List.takeWhile_append_dropWhile]
      · cases found
    · cases found
  · rintro ⟨digits, decimal, rfl⟩
    simp [elementReversed?, List.dropWhile_append_of_pos decimal]

/-- The recursion on a reversed tag: the number of suffixes that it takes off, and the tag at which
it ends because there is none left. -/
inductive Peels : Nat → List Char → List Char → Prop where
  | done {reversed : List Char} (bare : elementReversed? reversed = none) :
    Peels 0 reversed reversed
  | next {count : Nat} {reversed element base : List Char}
    (found : elementReversed? reversed = some element) (later : Peels count element base) :
    Peels (count + 1) reversed base

/-- The recursion ends for every tag, because an element is shorter than its array. -/
theorem exists_peels (reversed : List Char) : ∃ count base, Peels count reversed base := by
  cases found : elementReversed? reversed with
  | none => exact ⟨0, reversed, .done found⟩
  | some element =>
    obtain ⟨count, base, later⟩ := exists_peels element
    exact ⟨count + 1, base, .next found later⟩
termination_by reversed.length
decreasing_by exact length_elementReversed? found

theorem elementReversed?_append_text (element : String) (suffix : ArraySuffix) :
    elementReversed? (element ++ suffix.text).toList.reverse = some element.toList.reverse := by
  refine elementReversed?_eq_some_iff.mpr ⟨suffix.digits.toList.reverse, ?_, ?_⟩
  · simpa using suffix.decimal
  · simp [ArraySuffix.text]

theorem exists_suffix {reversed element : List Char}
    (found : elementReversed? reversed = some element) :
    ∃ suffix : ArraySuffix,
      String.ofList reversed.reverse = String.ofList element.reverse ++ suffix.text := by
  obtain ⟨digits, decimal, rfl⟩ := elementReversed?_eq_some_iff.mp found
  refine ⟨⟨String.ofList digits.reverse, by simpa using decimal⟩, ?_⟩
  apply String.toList_inj.mp
  simp [ArraySuffix.text]

theorem bare_of_elementReversed? {reversed : List Char} (none : elementReversed? reversed = none)
    (element : String) (suffix : ArraySuffix) :
    String.ofList reversed.reverse ≠ element ++ suffix.text := by
  intro same
  have found := elementReversed?_append_text element suffix
  rw [← same, String.toList_ofList, List.reverse_reverse, none] at found
  cases found

theorem elementReversed?_text (base : BaseTag) :
    elementReversed? base.text.toList.reverse = none := by
  cases found : elementReversed? base.text.toList.reverse with
  | none => rfl
  | some element =>
    obtain ⟨suffix, same⟩ := exists_suffix found
    rw [List.reverse_reverse, String.ofList_toList] at same
    exact absurd same (base.bare _ suffix)

end TypeTag

namespace ArrayTag

/-- The array whose elements have the tag. -/
def push (tag : ArrayTag) (suffix : ArraySuffix) : ArrayTag :=
  ⟨tag.base, tag.suffixes ++ [suffix]⟩

@[simp] theorem text_push (tag : ArrayTag) (suffix : ArraySuffix) :
    (tag.push suffix).text = tag.text ++ suffix.text := by
  simp [text, push, String.append_assoc]

@[elab_as_elim]
theorem inductionOn {motive : ArrayTag → Prop} (tag : ArrayTag)
    (bare : ∀ base, motive ⟨base, []⟩)
    (push : ∀ (tag : ArrayTag) suffix, motive tag → motive (tag.push suffix)) : motive tag := by
  obtain ⟨base, suffixes⟩ := tag
  induction suffixes using List.reverseRecOn with
  | nil => exact bare base
  | append_singleton suffixes suffix ih => exact push ⟨base, suffixes⟩ suffix ih

/-- No two ways to take a tag apart. -/
theorem text_injective {first second : ArrayTag} (same : first.text = second.text) :
    first = second := by
  have bare (base : BaseTag) : text ⟨base, []⟩ = base.text := by simp [text]
  induction first using inductionOn generalizing second with
  | bare base =>
    induction second using inductionOn with
    | bare other =>
      rw [bare, bare] at same
      rw [BaseTag.ext same]
    | push other suffix =>
      rw [bare, text_push] at same
      exact absurd same (base.bare _ suffix)
  | push tag suffix ih =>
    induction second using inductionOn with
    | bare other =>
      rw [bare, text_push] at same
      exact absurd same.symm (other.bare _ suffix)
    | push other otherSuffix =>
      rw [text_push, text_push] at same
      -- What is taken off is decided by the text, and so is what it is taken off from.
      have elements : tag.text = other.text := by
        have found := TypeTag.elementReversed?_append_text tag.text suffix
        rw [same, TypeTag.elementReversed?_append_text] at found
        exact (String.toList_inj.mp (List.reverse_inj.mp (Option.some.inj found))).symm
      rw [elements] at same
      have suffixes : suffix.text = otherSuffix.text := by simpa using same
      have digits : suffix.digits = otherSuffix.digits := by
        simpa [ArraySuffix.text] using suffixes
      rw [ih elements, ArraySuffix.ext digits]

theorem peels_text (tag : ArrayTag) :
    TypeTag.Peels tag.suffixes.length tag.text.toList.reverse tag.base.text.toList.reverse := by
  induction tag using inductionOn with
  | bare base =>
    simpa [text] using TypeTag.Peels.done (TypeTag.elementReversed?_text base)
  | push tag suffix ih =>
    have found := TypeTag.elementReversed?_append_text tag.text suffix
    rw [← text_push] at found
    simpa [push] using TypeTag.Peels.next found ih

end ArrayTag

theorem TypeTag.Peels.exists_tag {count : Nat} {reversed base : List Char}
    (peels : Peels count reversed base) :
    ∃ tag : ArrayTag, tag.text = String.ofList reversed.reverse := by
  induction peels with
  | @done reversed bare =>
    refine ⟨⟨⟨String.ofList reversed.reverse, bare_of_elementReversed? bare⟩, []⟩, ?_⟩
    simp [ArrayTag.text]
  | next found _ ih =>
    obtain ⟨tag, same⟩ := ih
    obtain ⟨suffix, taken⟩ := exists_suffix found
    exact ⟨tag.push suffix, by rw [tag.text_push, same, taken]⟩

end Suffixes

section Shown

variable (table : TypeTable) (side : Side)

theorem inferReversed_of_peels {count : Nat} {reversed base : List Char}
    (peels : TypeTag.Peels count reversed base) :
    table.inferReversed side reversed =
      table.base side base.reverse ++ String.join (List.replicate count table.arraySuffix) := by
  induction peels with
  | done bare => simp [table.inferReversed_of_none side bare]
  | next found _ ih =>
    rw [table.inferReversed_of_some side found, ih, List.replicate_succ']
    simp [String.append_assoc]

theorem infer_append_text (tag : String) (suffix : ArraySuffix) :
    table.infer side (tag ++ suffix.text) = table.infer side tag ++ table.arraySuffix :=
  table.inferReversed_of_some side (TypeTag.elementReversed?_append_text tag suffix)

-- A bracket that nothing closes is a base, and an array may have it for its element.
example : typeScriptTypes.infer .inputs "[[]" = "any[]" := by cbv

end Shown

/-- Every text is a base and array suffixes in exactly one way. One entry, the same in all tables
and on both sides, is the one for the base: it is shown, and behind it the suffix of the table once
for each suffix of the tag. The recursion takes off these suffixes and then ends at the base. So one
more suffix on a tag is one more on the type. -/
theorem array_types_shown :
    (∀ text : String, ∃! tag : ArrayTag, tag.text = text) ∧
    (∀ tag : ArrayTag, ∃ entry : TypeEntry,
      (∀ other : TypeEntry, other.Covers tag.base.text ↔ other = entry) ∧
      ∀ (table : TypeTable) (side : Side), table.infer side tag.text =
        table.entry side entry ++
          String.join (List.replicate tag.suffixes.length table.arraySuffix)) ∧
    (∀ tag : ArrayTag, TypeTag.Peels tag.suffixes.length tag.text.toList.reverse
      tag.base.text.toList.reverse) ∧
    ∀ (table : TypeTable) (side : Side) (text : String) (suffix : ArraySuffix),
      table.infer side (text ++ suffix.text) = table.infer side text ++ table.arraySuffix := by
  refine ⟨?_, ?_, ArrayTag.peels_text, infer_append_text⟩
  · intro text
    obtain ⟨count, base, peels⟩ := TypeTag.exists_peels text.toList.reverse
    obtain ⟨tag, same⟩ := peels.exists_tag
    rw [List.reverse_reverse, String.ofList_toList] at same
    exact ⟨tag, same, fun other alike => ArrayTag.text_injective (alike.trans same.symm)⟩
  · intro tag
    obtain ⟨entry, covers⟩ := exists_covers tag.base.text
    refine ⟨entry, fun other => ⟨fun also => eq_of_covers also covers, ?_⟩, ?_⟩
    · rintro rfl
      exact covers
    · intro table side
      rw [TypeTable.infer, inferReversed_of_peels table side tag.peels_text, List.reverse_reverse,
        base_of_covers table side covers]

end ContractWrapper
