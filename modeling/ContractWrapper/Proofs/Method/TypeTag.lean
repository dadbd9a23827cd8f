import ContractWrapper.Proofs.Interface.Identity
import ContractWrapper.Proofs.Method.ParameterNames

/-! The types that are shown for tags.

A tag is a base without brackets, and from its first bracket on a text that array suffixes are taken
off. None is ever taken off the base, so the base counts only by what is shown for it alone. A
canonical name is shown as the name that it stands for, and so canonical types show the same.
-/

set_option autoImplicit false

namespace ContractWrapper

namespace TypeTag

theorem isAlphanum_of_isInteger {tag : List Char} (integer : isInteger tag = true) :
    ∀ c ∈ tag, c.isAlphanum = true := by
  have word : ∀ c ∈ ['u', 'i', 'n', 't'], c.isAlphanum = true :=
    List.all_eq_true.mp (by decide)
  have digits {width : List Char} (every : width.all Char.isDigit = true) :
      ∀ c ∈ width, c.isAlphanum = true := by
    intro c member
    simp [Char.isAlphanum, List.all_eq_true.mp every c member]
  unfold isInteger integerWidth? at integer
  split at integer
  · next width => exact List.forall_mem_append.mpr ⟨word, digits integer⟩
  · next width =>
    exact List.forall_mem_append.mpr ⟨(List.forall_mem_cons.mp word).2, digits integer⟩
  · cases integer

-- The first bracket in a reversed tag decides whether a suffix is taken off, whatever follows it.
theorem elementReversed?_append {suffix : List Char} (bracket : '[' ∈ suffix) (base : List Char) :
    elementReversed? (suffix ++ base) = (elementReversed? suffix).map (· ++ base) := by
  cases suffix with
  | nil => cases bracket
  | cons c rest =>
    by_cases shut : c = ']'
    · subst c
      have inside : '[' ∈ rest := by simpa using bracket
      have left : rest.dropWhile Char.isDigit ≠ [] := by
        intro dropped
        cases List.dropWhile_eq_nil_iff.mp dropped '[' inside
      simp only [elementReversed?, List.cons_append, List.dropWhile_append, List.isEmpty_iff, left,
        if_false]
      cases dropped : rest.dropWhile Char.isDigit with
      | nil => exact absurd dropped left
      | cons d element =>
        by_cases opened : d = '['
        · simp [opened]
        · simp [opened]
    · simp [elementReversed?, shut]

/-- What is left when a suffix is taken off starts with a bracket, if it is not empty. -/
theorem getLast?_elementReversed? {suffix element : List Char}
    (first : suffix.getLast? = some '[') (found : elementReversed? suffix = some element) :
    element = [] ∨ element.getLast? = some '[' := by
  unfold elementReversed? at found
  split at found
  · next rest =>
    split at found
    · next inner cut =>
      cases found
      rw [← List.takeWhile_append_dropWhile (p := Char.isDigit) (l := rest), cut] at first
      cases element with
      | nil => exact .inl rfl
      | cons d element =>
        exact .inr (by simpa [List.getLast?_append, List.getLast?_cons] using first)
    · cases found
  · cases found

end TypeTag

namespace TypeTable

variable (table : TypeTable) (side : Side)

theorem base_eq_fallback {tag : List Char} {c : Char} (member : c ∈ tag)
    (mark : c.isAlphanum = false) : table.base side tag = table.fallback := by
  have plain {word : String} (letters : word.toList.all Char.isAlphanum = true) :
      String.ofList tag ≠ word := by
    rintro rfl
    rw [String.toList_ofList] at letters
    exact Bool.false_ne_true (mark.symm.trans (List.all_eq_true.mp letters c member))
  have integer : TypeTag.isInteger tag = false := by
    refine Bool.eq_false_iff.mpr fun integer => ?_
    exact Bool.false_ne_true (mark.symm.trans (TypeTag.isAlphanum_of_isInteger integer c member))
  rw [base, integer, if_neg Bool.false_ne_true]
  split
  · next same => exact absurd same (plain (by decide))
  · next same => exact absurd same (plain (by decide))
  · next same => exact absurd same (plain (by decide))
  · rfl

theorem inferReversed_of_some {reversed element : List Char}
    (found : TypeTag.elementReversed? reversed = some element) :
    table.inferReversed side reversed = table.inferReversed side element ++ table.arraySuffix := by
  rw [inferReversed]
  split
  · next other same =>
    cases found.symm.trans same
    rfl
  · next none => cases found.symm.trans none

theorem inferReversed_of_none {reversed : List Char}
    (none : TypeTag.elementReversed? reversed = none) :
    table.inferReversed side reversed = table.base side reversed.reverse := by
  rw [inferReversed]
  split
  · next found => cases none.symm.trans found
  · rfl

/-- Suffixes are shown alike behind bases for which the same is shown. -/
theorem inferReversed_append {suffix first second : List Char}
    (same : table.inferReversed side first = table.inferReversed side second)
    (opens : suffix = [] ∨ suffix.getLast? = some '[') :
    table.inferReversed side (suffix ++ first) = table.inferReversed side (suffix ++ second) := by
  fun_induction TypeTable.inferReversed table side suffix with
  | case1 suffix element found ih =>
    rcases opens with rfl | opens
    · cases found
    · have bracket : '[' ∈ suffix := List.mem_of_getLast? opens
      have taken (base : List Char) : table.inferReversed side (suffix ++ base) =
          table.inferReversed side (element ++ base) ++ table.arraySuffix := by
        apply inferReversed_of_some
        rw [TypeTag.elementReversed?_append bracket, found, Option.map_some]
      rw [taken, taken, ih (TypeTag.getLast?_elementReversed? opens found)]
  | case2 suffix none =>
    rcases opens with rfl | opens
    · exact same
    · have bracket : '[' ∈ suffix := List.mem_of_getLast? opens
      have shown (base : List Char) :
          table.inferReversed side (suffix ++ base) = table.fallback := by
        rw [inferReversed_of_none]
        · apply base_eq_fallback (c := '[')
          · simp [bracket]
          · decide
        · rw [TypeTag.elementReversed?_append bracket, none, Option.map_none]
      rw [shown, shown]

end TypeTable

namespace Parameter

variable (table : TypeTable) (side : Side)

/-- For a full name the same is shown as for the short one. -/
theorem infer_fullBase (base : String) :
    table.infer side (fullBase base) = table.infer side base := by
  have integer {word : String} (none : TypeTag.elementReversed? word.toList.reverse = none)
      (integer : TypeTag.isInteger word.toList = true) :
      table.infer side word = table.numeric side := by
    rw [TypeTable.infer, table.inferReversed_of_none side none, List.reverse_reverse,
      TypeTable.base, if_pos integer]
  unfold fullBase
  split
  · rw [integer (by decide) (by decide), integer (by decide) (by decide)]
  · rw [integer (by decide) (by decide), integer (by decide) (by decide)]
  · rfl

/-- A tuple is shown as the fallback, whatever its components are. -/
theorem infer_tupleText (types : List String) :
    table.infer side (tupleText types) = table.infer side "tuple" := by
  have shut : (tupleText types).toList.reverse =
      ')' :: ("(" ++ ",".intercalate types).toList.reverse := by
    simp [tupleText]
  have opened : '(' ∈ (tupleText types).toList := by simp [tupleText]
  have listed : table.infer side (tupleText types) = table.fallback := by
    rw [TypeTable.infer, table.inferReversed_of_none side, List.reverse_reverse]
    · exact table.base_eq_fallback side opened (by decide)
    · rw [shut]
      rfl
  have named : table.infer side "tuple" = table.fallback :=
    table.inferReversed_of_none side (by decide)
  rw [listed, named]

theorem infer_append_suffix (tag : String) {base other : String}
    (same : table.infer side base = table.infer side other) :
    table.infer side (base ++ (splitTag tag).2) = table.infer side (other ++ (splitTag tag).2) := by
  simp only [TypeTable.infer, String.toList_append, List.reverse_append]
  apply table.inferReversed_append side same
  rw [List.reverse_eq_nil_iff, List.getLast?_reverse]
  cases suffix : (splitTag tag).2.toList with
  | nil => exact .inl rfl
  | cons c rest =>
    have bracket : c = '[' := head?_suffix (by rw [suffix]; rfl)
    exact .inr (by rw [bracket]; rfl)

theorem infer_canonicalType (parameter : Parameter) :
    table.infer side parameter.canonicalType = table.infer side parameter.tag := by
  obtain ⟨name, tag, components⟩ := parameter
  have base : table.infer side tag = table.infer side ((splitTag tag).1 ++ (splitTag tag).2) := by
    rw [splitTag_append]
  by_cases tuple : (splitTag tag).1 = "tuple"
  · rw [canonicalType_of_tuple tuple, base, tuple]
    exact infer_append_suffix table side tag (infer_tupleText table side _)
  · rw [canonicalType_of_ne_tuple tuple, base, fullTag]
    exact infer_append_suffix table side tag (infer_fullBase table side _)

/-- The parameter under its canonical type. -/
def canonical (parameter : Parameter) : Parameter :=
  { parameter with tag := parameter.canonicalType }

end Parameter

section Exposed

variable (dialect : Dialect)

theorem literal_buildInputs_canonical (stem : String) (parameters : List Parameter) :
    (buildInputs dialect stem
        ((parameters.map Parameter.canonical).map Argument.ofParameter)).literal =
      (buildInputs dialect stem (parameters.map Argument.ofParameter)).literal := by
  have names : (parameters.map Parameter.canonical).map Parameter.name =
      parameters.map Parameter.name := by
    rw [List.map_map]
    rfl
  have types : inputTypes dialect (parameters.map Parameter.canonical) =
      inputTypes dialect parameters := by
    rw [inputTypes, inputTypes, List.map_map]
    apply List.map_congr_left
    intro parameter _
    exact parameter.infer_canonicalType dialect.types .inputs
  rw [literal_buildInputs, literal_buildInputs, names_buildInputs, names_buildInputs, names, types]

theorem literal_buildOutputs_canonical (constant : Bool) (parameters : List Parameter) :
    (buildOutputs dialect constant
        ((parameters.map Parameter.canonical).map Argument.ofParameter)).literal =
      (buildOutputs dialect constant (parameters.map Argument.ofParameter)).literal := by
  have types : (((parameters.map Parameter.canonical).map Argument.ofParameter).map fun argument =>
      dialect.types.infer .outputs argument.tag) =
      (parameters.map Argument.ofParameter).map fun argument =>
        dialect.types.infer .outputs argument.tag := by
    simp only [List.map_map]
    apply List.map_congr_left
    intro parameter _
    exact parameter.infer_canonicalType dialect.types .outputs
  rw [literal_buildOutputs, literal_buildOutputs, types]

end Exposed

/-- The type that is shown for the canonical type of a parameter is the one that is shown for its
tag, whatever the tag and the components are. So the parameter list and the return type of a method
stay the same when tags are rewritten. -/
theorem canonical_types_shown :
    (∀ (table : TypeTable) (side : Side) (parameter : Parameter),
      table.infer side parameter.canonicalType = table.infer side parameter.tag) ∧
    (∀ (dialect : Dialect) (stem : String) (parameters : List Parameter),
      (buildInputs dialect stem
          ((parameters.map Parameter.canonical).map Argument.ofParameter)).literal =
        (buildInputs dialect stem (parameters.map Argument.ofParameter)).literal) ∧
    ∀ (dialect : Dialect) (constant : Bool) (parameters : List Parameter),
      (buildOutputs dialect constant
          ((parameters.map Parameter.canonical).map Argument.ofParameter)).literal =
        (buildOutputs dialect constant (parameters.map Argument.ofParameter)).literal := by
  refine ⟨?_, ?_, ?_⟩
  · intro table side parameter
    exact parameter.infer_canonicalType table side
  · intro dialect stem parameters
    exact literal_buildInputs_canonical dialect stem parameters
  · intro dialect constant parameters
    exact literal_buildOutputs_canonical dialect constant parameters

end ContractWrapper
