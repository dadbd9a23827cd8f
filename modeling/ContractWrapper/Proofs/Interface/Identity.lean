import ContractWrapper.Identifier
import ContractWrapper.Proofs.Interface.Canonical

/-! A signature tells which function it belongs to.

What a signature shows of a parameter is the normal form of the parameter: its tag in full and, for
a tuple, the components. A type ends before the first comma or closing parenthesis that no type
inside it accounts for, so a signature can be taken apart in one way only.
-/

set_option autoImplicit false

namespace ContractWrapper

/-- The characters by which a signature keeps types apart. -/
def separators : List Char := ['(', ')', ',']

/-- A tag of the interface grammar: a base of letters and digits, and behind it any number of
suffixes with digits or nothing in their brackets. Letters of every script are admitted, for only
the punctuation of signatures could be mistaken for the end of a base. -/
def IsTypeTag (tag : String) : Prop :=
  ∃ (base : List Char) (sizes : List (List Char)),
    tag.toList = base ++ sizes.flatMap (fun size => '[' :: size ++ [']']) ∧ base ≠ [] ∧
      (∀ c ∈ base, c ∉ separators ++ ['[', ']']) ∧ ∀ size ∈ sizes, ∀ c ∈ size, c.isDigit = true

namespace Parameter

/-- A base with the short integer names written out. -/
def fullBase : String → String
  | "uint" => "uint256"
  | "int" => "int256"
  | base => base

def fullTag (tag : String) : String :=
  fullBase (splitTag tag).1 ++ (splitTag tag).2

mutual

/-- The parameter without its name, with its tag in full, and with components if it is a tuple and
only then. -/
def normal : Parameter → Parameter
  | ⟨_, tag, components⟩ =>
    ⟨"", fullTag tag,
      if (splitTag tag).1 = "tuple" then some (normalComponents components) else none⟩

def normalComponents : Option (List Parameter) → List Parameter
  | none => []
  | some components => normalAll components

def normalAll : List Parameter → List Parameter
  | [] => []
  | first :: rest => normal first :: normalAll rest

end

section Equations

theorem normalAll_eq_map (parameters : List Parameter) :
    normalAll parameters = parameters.map normal := by
  induction parameters with
  | nil => rfl
  | cons first rest ih => simp [normalAll, ih]

theorem allTags_eq_flatMap (parameters : List Parameter) :
    allTags parameters = parameters.flatMap shownTags := by
  induction parameters with
  | nil => rfl
  | cons first rest ih => simp [allTags, ih]

variable {name tag : String} {components : Option (List Parameter)}

theorem normal_of_tuple (tuple : (splitTag tag).1 = "tuple") :
    normal ⟨name, tag, components⟩ =
      ⟨"", fullTag tag, some ((components.getD []).map normal)⟩ := by
  cases components <;> simp [normal, tuple, normalComponents, normalAll_eq_map]

theorem normal_of_ne_tuple (plain : (splitTag tag).1 ≠ "tuple") :
    normal ⟨name, tag, components⟩ = ⟨"", fullTag tag, none⟩ := by
  simp [normal, plain]

theorem canonicalType_of_tuple (tuple : (splitTag tag).1 = "tuple") :
    canonicalType ⟨name, tag, components⟩ =
      tupleText ((components.getD []).map canonicalType) ++ (splitTag tag).2 := by
  cases components <;>
    simp [canonicalType, tuple, canonicalBase, componentTypes, canonicalTypes_eq_map]

theorem canonicalType_of_ne_tuple (plain : (splitTag tag).1 ≠ "tuple") :
    canonicalType ⟨name, tag, components⟩ = fullTag tag := by
  have base : canonicalBase (splitTag tag).1 (tupleText (componentTypes components)) =
      fullBase (splitTag tag).1 := by
    unfold canonicalBase fullBase
    split <;> simp_all
  simp only [canonicalType, fullTag, base]

theorem shownTags_of_tuple (tuple : (splitTag tag).1 = "tuple") :
    shownTags ⟨name, tag, components⟩ = tag :: (components.getD []).flatMap shownTags := by
  cases components <;> simp [shownTags, tuple, componentTags, allTags_eq_flatMap]

end Equations

section Normal

theorem fullBase_cases (base : String) :
    fullBase base = base ∨ fullBase base = "uint256" ∨ fullBase base = "int256" := by
  unfold fullBase
  split <;> simp

-- Writing out a base brings in no other characters than those of the longest name.
theorem forall_mem_fullBase {property : Char → Prop} (word : ∀ c ∈ "uint256".toList, property c)
    {base : String} (own : ∀ c ∈ base.toList, property c) :
    ∀ c ∈ (fullBase base).toList, property c := by
  rcases fullBase_cases base with same | same | same <;> rw [same]
  · exact own
  · exact word
  · intro c member
    exact word c (List.mem_cons_of_mem 'u' member)

theorem fullBase_ne_empty {base : String} (some : base ≠ "") : fullBase base ≠ "" := by
  rcases fullBase_cases base with same | same | same <;> rw [same]
  · exact some
  · decide
  · decide

theorem fullBase_fullBase (base : String) : fullBase (fullBase base) = fullBase base := by
  rcases fullBase_cases base with same | same | same <;> rw [same]
  · exact same
  · rfl
  · rfl

theorem fullBase_eq_tuple_iff {base : String} : fullBase base = "tuple" ↔ base = "tuple" := by
  unfold fullBase
  split <;> simp

-- The base of a tag ends where the first bracket stands, and so does the base of the full tag.
theorem splitTag_fullTag (tag : String) :
    splitTag (fullTag tag) = (fullBase (splitTag tag).1, (splitTag tag).2) := by
  have kept : ∀ c ∈ (fullBase (splitTag tag).1).toList, c ≠ '[' :=
    forall_mem_fullBase (by simp) fun _ member => ne_of_mem_of_not_mem member (not_mem_base tag)
  have flat : '[' ∉ (fullBase (splitTag tag).1).toList := fun member => kept _ member rfl
  exact splitTag_of_append flat (isSuffix_splitTag tag)

/-- A signature shows no more of a parameter than its normal form. -/
theorem canonicalType_normal (parameter : Parameter) :
    parameter.normal.canonicalType = parameter.canonicalType := by
  induction parameter using Parameter.inductionOn with
  | node name tag components ih =>
    have base : (splitTag (fullTag tag)).1 = fullBase (splitTag tag).1 := by
      rw [splitTag_fullTag]
    by_cases tuple : (splitTag tag).1 = "tuple"
    · have full := base.trans (fullBase_eq_tuple_iff.mpr tuple)
      rw [normal_of_tuple tuple, canonicalType_of_tuple full, canonicalType_of_tuple tuple,
        splitTag_fullTag, Option.getD_some, List.map_map]
      exact congrArg (tupleText · ++ _) (List.map_congr_left ih)
    · have full : (splitTag (fullTag tag)).1 ≠ "tuple" := by
        rw [base]
        exact mt fullBase_eq_tuple_iff.mp tuple
      rw [normal_of_ne_tuple tuple, canonicalType_of_ne_tuple full, canonicalType_of_ne_tuple tuple,
        fullTag, splitTag_fullTag, fullBase_fullBase]
      rfl

end Normal

section Reading

variable {tag : String}

theorem free_of_isTypeTag (typeTag : IsTypeTag tag) : ∀ c ∈ tag.toList, c ∉ separators := by
  obtain ⟨base, sizes, written, -, baseFree, digits⟩ := typeTag
  intro c member
  rw [written, List.mem_append, List.mem_flatMap] at member
  rcases member with inBase | ⟨size, listed, inSuffix⟩
  · exact fun separator => baseFree c inBase (List.mem_append_left _ separator)
  · simp only [List.cons_append, List.mem_cons, List.mem_append, List.not_mem_nil, or_false]
      at inSuffix
    rcases inSuffix with rfl | inside | rfl
    · decide
    · have digit := digits size listed c inside
      intro separator
      simp only [separators, List.mem_cons, List.not_mem_nil, or_false] at separator
      rcases separator with rfl | rfl | rfl <;> cases digit
    · decide

theorem base_ne_empty (typeTag : IsTypeTag tag) : (splitTag tag).1 ≠ "" := by
  obtain ⟨base, sizes, written, some, baseFree, -⟩ := typeTag
  cases base with
  | nil => exact absurd rfl some
  | cons c base =>
    have bracket : c ≠ '[' := by
      rintro rfl
      exact baseFree _ List.mem_cons_self (by decide)
    simp [splitTag, written, bracket]

theorem part_free (typeTag : IsTypeTag tag) {c : Char}
    (member : c ∈ (splitTag tag).1.toList ∨ c ∈ (splitTag tag).2.toList) : c ∉ separators := by
  apply free_of_isTypeTag typeTag
  rw [← splitTag_append tag, String.toList_append]
  exact List.mem_append.mpr member

theorem suffix_free (typeTag : IsTypeTag tag) : ∀ c ∈ (splitTag tag).2.toList, c ∉ separators :=
  fun _ member => part_free typeTag (.inr member)

/-- What is shown of a parameter that is no tuple: some text, and no separator in it. -/
theorem fullTag_free (typeTag : IsTypeTag tag) :
    (fullTag tag).toList ≠ [] ∧ ∀ c ∈ (fullTag tag).toList, c ∉ separators := by
  rw [fullTag, String.toList_append]
  constructor
  · simp [fullBase_ne_empty (base_ne_empty typeTag)]
  · intro c member
    rcases List.mem_append.mp member with inBase | inSuffix
    · have word : ∀ c ∈ "uint256".toList, c ∉ separators := by simp [separators]
      exact forall_mem_fullBase word (fun c own => part_free typeTag (.inl own)) c inBase
    · exact suffix_free typeTag c inSuffix

/-- The types of a list behind its first one, and the parenthesis that closes it. -/
def closing : List String → List Char → List Char
  | [], rest => ')' :: rest
  | next :: later, rest => ',' :: (next.toList ++ closing later rest)

theorem closing_cons (first : String) (later : List String) (rest : List Char) :
    closing (first :: later) rest =
      ',' :: ((",".intercalate (first :: later)).toList ++ ')' :: rest) := by
  induction later generalizing first with
  | nil => simp [closing]
  | cons next later ih =>
    rw [closing, ih, String.intercalate_cons_cons]
    simp

theorem stops_closing (types : List String) (rest : List Char) :
    Text.Stops separators (closing types rest) := by
  intro c head
  cases types <;> (cases head; decide)

/-- The canonical type of the parameter, with any text behind it, tells both of them. -/
def Decodes (parameter : Parameter) : Prop :=
  ∀ {other : Parameter} {rest otherRest : List Char},
    (∀ tag ∈ parameter.shownTags, IsTypeTag tag) → (∀ tag ∈ other.shownTags, IsTypeTag tag) →
    Text.Stops separators rest → Text.Stops separators otherRest →
    parameter.canonicalType.toList ++ rest = other.canonicalType.toList ++ otherRest →
    parameter.normal = other.normal ∧ rest = otherRest

section Lists

variable {parameters others : List Parameter} {rest otherRest : List Char}

theorem eq_of_closing_eq (decodes : ∀ parameter ∈ parameters, parameter.Decodes)
    (tags : ∀ tag ∈ parameters.flatMap shownTags, IsTypeTag tag)
    (otherTags : ∀ tag ∈ others.flatMap shownTags, IsTypeTag tag)
    (same : closing (parameters.map canonicalType) rest =
      closing (others.map canonicalType) otherRest) :
    parameters.map normal = others.map normal ∧ rest = otherRest := by
  induction parameters generalizing others with
  | nil =>
    cases others with
    | nil => exact ⟨rfl, (List.cons.inj same).2⟩
    | cons other later => exact absurd (List.cons.inj same).1 (by decide)
  | cons parameter parameters ih =>
    cases others with
    | nil => exact absurd (List.cons.inj same).1 (by decide)
    | cons other others =>
      rw [List.flatMap_cons, List.forall_mem_append] at tags otherTags
      obtain ⟨here, later⟩ := List.forall_mem_cons.mp decodes
      obtain ⟨first, remaining⟩ := here tags.1 otherTags.1 (stops_closing _ _)
        (stops_closing _ _) (List.cons.inj same).2
      obtain ⟨following, ended⟩ := ih later tags.2 otherTags.2 remaining
      exact ⟨congrArg₂ List.cons first following, ended⟩

theorem exists_head_canonicalType {parameter : Parameter}
    (tags : ∀ tag ∈ parameter.shownTags, IsTypeTag tag) :
    ∃ c text, parameter.canonicalType.toList = c :: text ∧ c ≠ ')' := by
  obtain ⟨name, tag, components⟩ := parameter
  by_cases tuple : (splitTag tag).1 = "tuple"
  · rw [canonicalType_of_tuple tuple, tupleText]
    exact ⟨'(', _, by simp; rfl, by decide⟩
  · rw [canonicalType_of_ne_tuple tuple]
    obtain ⟨some, free⟩ := fullTag_free (tags tag List.mem_cons_self)
    obtain ⟨c, text, written⟩ := List.exists_cons_of_ne_nil some
    refine ⟨c, text, written, ?_⟩
    rintro rfl
    exact free ')' (written ▸ List.mem_cons_self) (by decide)

-- Only a list without types begins with the parenthesis that closes it.
theorem closing_ne_of_cons {parameter : Parameter}
    (tags : ∀ tag ∈ parameter.shownTags, IsTypeTag tag) (later : List String) :
    ',' :: ')' :: rest ≠ closing (parameter.canonicalType :: later) otherRest := by
  intro same
  obtain ⟨c, text, written, different⟩ := exists_head_canonicalType tags
  rw [closing, written] at same
  exact different (List.cons.inj (List.cons.inj same).2).1.symm

theorem eq_of_tupleText_eq (decodes : ∀ parameter ∈ parameters, parameter.Decodes)
    (tags : ∀ tag ∈ parameters.flatMap shownTags, IsTypeTag tag)
    (otherTags : ∀ tag ∈ others.flatMap shownTags, IsTypeTag tag)
    (same : (tupleText (parameters.map canonicalType)).toList ++ rest =
      (tupleText (others.map canonicalType)).toList ++ otherRest) :
    parameters.map normal = others.map normal ∧ rest = otherRest := by
  have inner : ',' :: ((",".intercalate (parameters.map canonicalType)).toList ++ ')' :: rest) =
      ',' :: ((",".intercalate (others.map canonicalType)).toList ++ ')' :: otherRest) := by
    simpa [tupleText] using same
  cases parameters with
  | nil =>
    cases others with
    | nil => simpa using inner
    | cons other others =>
      rw [List.flatMap_cons, List.forall_mem_append] at otherTags
      rw [List.map_cons, ← closing_cons] at inner
      exact absurd inner (closing_ne_of_cons otherTags.1 _)
  | cons parameter parameters =>
    cases others with
    | nil =>
      rw [List.flatMap_cons, List.forall_mem_append] at tags
      rw [List.map_cons, ← closing_cons] at inner
      exact absurd inner.symm (closing_ne_of_cons tags.1 _)
    | cons other others =>
      rw [List.map_cons, List.map_cons, ← closing_cons, ← closing_cons] at inner
      exact eq_of_closing_eq decodes tags otherTags inner

end Lists

-- A tuple begins with a parenthesis, which no other type does.
theorem tupleText_ne_fullTag {tag : String} (typeTag : IsTypeTag tag) (types : List String)
    (suffix : String) (rest otherRest : List Char) :
    (tupleText types ++ suffix).toList ++ rest ≠ (fullTag tag).toList ++ otherRest := by
  intro same
  obtain ⟨some, free⟩ := fullTag_free typeTag
  obtain ⟨c, text, written⟩ := List.exists_cons_of_ne_nil some
  have first : '(' = c := by
    rw [written, tupleText] at same
    simpa using congrArg List.head? same
  exact free '(' (written ▸ first ▸ List.mem_cons_self) (by decide)

theorem decodes (parameter : Parameter) : parameter.Decodes := by
  induction parameter using Parameter.inductionOn with
  | node name tag components ih =>
    rintro ⟨otherName, otherTag, otherComponents⟩ rest otherRest
    intro tags otherTags stops stopsOther same
    have typeTag := tags tag List.mem_cons_self
    have otherTypeTag := otherTags otherTag List.mem_cons_self
    by_cases tuple : (splitTag tag).1 = "tuple" <;>
      by_cases otherTuple : (splitTag otherTag).1 = "tuple"
    · rw [canonicalType_of_tuple tuple, canonicalType_of_tuple otherTuple, String.toList_append,
        String.toList_append, List.append_assoc, List.append_assoc] at same
      rw [shownTags_of_tuple tuple] at tags
      rw [shownTags_of_tuple otherTuple] at otherTags
      obtain ⟨inner, suffixes⟩ := eq_of_tupleText_eq ih (List.forall_mem_cons.mp tags).2
        (List.forall_mem_cons.mp otherTags).2 same
      obtain ⟨suffix, remaining⟩ := Text.eq_of_append_stops (suffix_free typeTag)
        (suffix_free otherTypeTag) stops stopsOther suffixes
      rw [normal_of_tuple tuple, normal_of_tuple otherTuple, inner, fullTag, fullTag, tuple,
        otherTuple, String.toList_inj.mp suffix]
      exact ⟨rfl, remaining⟩
    · rw [canonicalType_of_tuple tuple, canonicalType_of_ne_tuple otherTuple] at same
      exact absurd same (tupleText_ne_fullTag otherTypeTag _ _ _ _)
    · rw [canonicalType_of_ne_tuple tuple, canonicalType_of_tuple otherTuple] at same
      exact absurd same.symm (tupleText_ne_fullTag typeTag _ _ _ _)
    · rw [canonicalType_of_ne_tuple tuple, canonicalType_of_ne_tuple otherTuple] at same
      obtain ⟨full, remaining⟩ := Text.eq_of_append_stops (fullTag_free typeTag).2
        (fullTag_free otherTypeTag).2 stops stopsOther same
      rw [normal_of_ne_tuple tuple, normal_of_ne_tuple otherTuple, String.toList_inj.mp full]
      exact ⟨rfl, remaining⟩

end Reading

end Parameter

section Signature

variable {first second : String} {inputs others : List Parameter}

theorem stops_tupleText (types : List String) :
    Text.Stops separators (Parameter.tupleText types).toList := by
  intro c head
  have opened : '(' = c := by simpa [Parameter.tupleText] using head
  exact opened ▸ List.mem_cons_self

-- The name of a function ends at the parenthesis that opens its inputs.
theorem parts_of_canonicalSignature_eq (identifier : isIdentifier first = true)
    (otherIdentifier : isIdentifier second = true)
    (same : canonicalSignature first inputs = canonicalSignature second others) :
    first = second ∧ (Parameter.tupleText (Parameter.canonicalTypes inputs)).toList =
      (Parameter.tupleText (Parameter.canonicalTypes others)).toList := by
  have written : first.toList ++ (Parameter.tupleText (Parameter.canonicalTypes inputs)).toList =
      second.toList ++ (Parameter.tupleText (Parameter.canonicalTypes others)).toList := by
    simpa [canonicalSignature] using congrArg String.toList same
  have unmarked : (separators.all fun c => !isIdentifierPart c) = true := by decide
  obtain ⟨names, texts⟩ := Text.eq_of_append_stops (free_of_isIdentifier unmarked identifier)
    (free_of_isIdentifier unmarked otherIdentifier) (stops_tupleText _) (stops_tupleText _) written
  exact ⟨String.toList_inj.mp names, texts⟩

/-- Two functions have the same canonical signature exactly when they have the same name and, in
normal form, the same inputs. -/
theorem canonicalSignature_eq_iff (identifier : isIdentifier first = true)
    (otherIdentifier : isIdentifier second = true)
    (tags : ∀ tag ∈ Parameter.allTags inputs, IsTypeTag tag)
    (otherTags : ∀ tag ∈ Parameter.allTags others, IsTypeTag tag) :
    canonicalSignature first inputs = canonicalSignature second others ↔
      first = second ∧ inputs.map Parameter.normal = others.map Parameter.normal := by
  constructor
  · intro same
    obtain ⟨names, texts⟩ := parts_of_canonicalSignature_eq identifier otherIdentifier same
    rw [Parameter.canonicalTypes_eq_map, Parameter.canonicalTypes_eq_map] at texts
    rw [Parameter.allTags_eq_flatMap] at tags otherTags
    have lists := Parameter.eq_of_tupleText_eq (fun parameter _ => parameter.decodes) tags otherTags
      (congrArg (· ++ []) texts)
    exact ⟨names, lists.1⟩
  · rintro ⟨rfl, normals⟩
    have types (parameters : List Parameter) : Parameter.canonicalTypes parameters =
        (parameters.map Parameter.normal).map Parameter.canonicalType := by
      rw [Parameter.canonicalTypes_eq_map, List.map_map]
      exact List.map_congr_left fun parameter _ => parameter.canonicalType_normal.symm
    rw [canonicalSignature, canonicalSignature, types inputs, types others, normals]

/-- A pair of orders, each an amount and a tuple without components. -/
def orderInputs (amountTag : String) (note : Option (List Parameter)) : List Parameter :=
  [⟨"orders", "tuple[2]", some [⟨"amount", amountTag, none⟩, ⟨"note", "tuple", note⟩]⟩]

/-- Short names and absent components make no difference, but a suffix does. -/
theorem settle_signatures :
    (isIdentifier "settle" = true ∧
      (∀ tag ∈ Parameter.allTags (orderInputs "uint" none), IsTypeTag tag) ∧
      (∀ tag ∈ Parameter.allTags (orderInputs "uint256" (some [])), IsTypeTag tag) ∧
      ∀ tag ∈ Parameter.allTags (orderInputs "uint[]" none), IsTypeTag tag) ∧
    canonicalSignature "settle" (orderInputs "uint" none) =
      canonicalSignature "settle" (orderInputs "uint256" (some [])) ∧
    canonicalSignature "settle" (orderInputs "uint" none) ≠
      canonicalSignature "settle" (orderInputs "uint[]" none) := by
  have identifier : isIdentifier "settle" = true := by decide
  have shown (amountTag : String) (note : Option (List Parameter)) (amount : IsTypeTag amountTag)
      (empty : note.getD [] = []) :
      ∀ tag ∈ Parameter.allTags (orderInputs amountTag note), IsTypeTag tag := by
    have pair : IsTypeTag "tuple[2]" := ⟨"tuple".toList, ["2".toList], by simp [separators]⟩
    have tuple : IsTypeTag "tuple" := ⟨"tuple".toList, [], by simp [separators]⟩
    have outer : (Parameter.splitTag "tuple[2]").1 = "tuple" := by decide
    have inner : (Parameter.splitTag "tuple").1 = "tuple" := by decide
    rw [Parameter.allTags_eq_flatMap, orderInputs, List.flatMap_singleton,
      Parameter.shownTags_of_tuple outer, Option.getD_some, List.flatMap_cons,
      List.flatMap_singleton, Parameter.shownTags_of_tuple inner, empty]
    simp [Parameter.shownTags, Parameter.componentTags, pair, tuple, amount]
  have short := shown "uint" none ⟨"uint".toList, [], by simp [separators]⟩ rfl
  have long := shown "uint256" (some []) ⟨"uint256".toList, [], by simp [separators]⟩ rfl
  have array := shown "uint[]" none ⟨"uint".toList, [[]], by simp [separators]⟩ rfl
  refine ⟨⟨identifier, short, long, array⟩, ?_, ?_⟩
  · exact (canonicalSignature_eq_iff identifier identifier short long).mpr ⟨rfl, rfl⟩
  · intro same
    have normals := ((canonicalSignature_eq_iff identifier identifier short array).mp same).2
    have tags := congrArg (List.flatMap fun pair : Parameter =>
      (pair.components.getD []).map Parameter.tag) normals
    exact absurd tags (by decide)

end Signature

end ContractWrapper
