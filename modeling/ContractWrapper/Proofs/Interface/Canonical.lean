import ContractWrapper.Proofs.Interface.Signature
import ContractWrapper.Proofs.Related
import ContractWrapper.Proofs.Text.Reading
import Mathlib.Data.List.TakeWhile

/-! Canonical signatures and selectors.

Which type a parameter has in a signature is said here by the form of its tag, and which selector
belongs to a signature by the digits of its hash. The texts that are computed for a function are
these and no others.
-/

set_option autoImplicit false

namespace ContractWrapper

namespace Parameter

/-- What may stand behind the base of a tag: nothing, or something that a bracket opens. -/
def IsSuffix (suffix : String) : Prop :=
  Text.Stops ['['] suffix.toList

/-- The type of a parameter in a signature. Short names of integers are written out and a tuple is
replaced by the types of its components; what stands behind the base is kept. -/
inductive TypedAs : Parameter → String → Prop where
  | unsigned {name suffix : String} {components : Option (List Parameter)}
      (bracketed : IsSuffix suffix) :
    TypedAs ⟨name, "uint" ++ suffix, components⟩ ("uint256" ++ suffix)
  | signed {name suffix : String} {components : Option (List Parameter)}
      (bracketed : IsSuffix suffix) :
    TypedAs ⟨name, "int" ++ suffix, components⟩ ("int256" ++ suffix)
  | tuple {name suffix : String} {components : Option (List Parameter)} {types : List String}
      (bracketed : IsSuffix suffix)
      (each : List.Forall₂ TypedAs (components.getD []) types) :
    TypedAs ⟨name, "tuple" ++ suffix, components⟩ ("(" ++ ",".intercalate types ++ ")" ++ suffix)
  | other {name base suffix : String} {components : Option (List Parameter)}
      (flat : '[' ∉ base.toList) (different : base ∉ ["uint", "int", "tuple"])
      (bracketed : IsSuffix suffix) :
    TypedAs ⟨name, base ++ suffix, components⟩ (base ++ suffix)

section Tags

variable {base suffix : String}

theorem not_mem_base (tag : String) : '[' ∉ (splitTag tag).1.toList := by
  intro member
  have before := List.mem_takeWhile_imp (by simpa [splitTag] using member)
  simp at before

theorem isSuffix_splitTag (tag : String) : IsSuffix (splitTag tag).2 := by
  intro c head
  rw [head?_suffix head]
  exact List.mem_singleton_self '['

/-- A tag is split where its base ends and its suffix begins. -/
theorem splitTag_of_append (flat : '[' ∉ base.toList) (bracketed : IsSuffix suffix) :
    splitTag (base ++ suffix) = (base, suffix) := by
  have free {text : String} (flat : '[' ∉ text.toList) : ∀ c ∈ text.toList, c ∉ ['['] := by
    intro c member bracket
    exact flat (List.mem_singleton.mp bracket ▸ member)
  have same := congrArg String.toList (splitTag_append (base ++ suffix))
  rw [String.toList_append, String.toList_append] at same
  obtain ⟨bases, suffixes⟩ := Text.eq_of_append_stops (free (not_mem_base _)) (free flat)
    (isSuffix_splitTag _) bracketed same
  exact Prod.ext (String.toList_inj.mp bases) (String.toList_inj.mp suffixes)

variable {name : String} {components : Option (List Parameter)}

theorem canonicalType_append (flat : '[' ∉ base.toList) (bracketed : IsSuffix suffix) :
    canonicalType ⟨name, base ++ suffix, components⟩ =
      canonicalBase base (tupleText ((components.getD []).map canonicalType)) ++ suffix := by
  cases components <;>
    simp [canonicalType, splitTag_of_append flat bracketed, componentTypes, canonicalTypes_eq_map]

end Tags

/-- Every parameter has its canonical type in a signature. -/
theorem typedAs_canonicalType (parameter : Parameter) :
    TypedAs parameter parameter.canonicalType := by
  induction parameter using Parameter.inductionOn with
  | node name tag components ih =>
    have bracketed := isSuffix_splitTag tag
    have flat := not_mem_base tag
    rw [← splitTag_append tag, canonicalType_append flat bracketed]
    generalize (splitTag tag).1 = base at flat ⊢
    unfold canonicalBase
    split
    · exact .unsigned bracketed
    · exact .signed bracketed
    · refine .tuple bracketed ?_
      rw [List.forall₂_map_right_iff, List.forall₂_same]
      exact ih
    · next unsigned signed tuple =>
      exact .other flat (by simpa using And.intro unsigned ⟨signed, tuple⟩) bracketed

theorem TypedAs.eq_canonicalType {parameter : Parameter} {text : String}
    (typed : TypedAs parameter text) : parameter.canonicalType = text := by
  induction parameter using Parameter.inductionOn generalizing text with
  | node name tag components ih =>
    cases typed with
    | unsigned bracketed => exact canonicalType_append (by decide) bracketed
    | signed bracketed => exact canonicalType_append (by decide) bracketed
    | tuple bracketed each =>
      have known := (List.forall₂_and_left _ _).mpr ⟨@ih, each⟩
      have types := forall₂_eq_map_iff.mp (known.imp fun _ _ here => here.1 here.2)
      rw [canonicalType_append (by decide) bracketed, types]
      rfl
    | other flat different bracketed =>
      simp only [List.mem_cons, List.not_mem_nil, or_false, not_or] at different
      obtain ⟨unsigned, signed, tuple⟩ := different
      rw [canonicalType_append flat bracketed, canonicalBase]
      · exact unsigned
      · exact signed
      · exact tuple

theorem typedAs_iff {parameter : Parameter} {text : String} :
    TypedAs parameter text ↔ parameter.canonicalType = text := by
  constructor
  · exact TypedAs.eq_canonicalType
  · rintro rfl
    exact typedAs_canonicalType parameter

end Parameter

section Signature

variable {name signature : String} {inputs : List Parameter}

/-- The name, and in parentheses the types of the inputs. -/
def SignedAs (name : String) (inputs : List Parameter) (signature : String) : Prop :=
  ∃ types, List.Forall₂ Parameter.TypedAs inputs types ∧
    signature = name ++ "(" ++ ",".intercalate types ++ ")"

theorem signedAs_iff :
    SignedAs name inputs signature ↔ canonicalSignature name inputs = signature := by
  have types : Parameter.TypedAs = fun parameter text => parameter.canonicalType = text := by
    funext parameter text
    exact propext Parameter.typedAs_iff
  simp only [SignedAs, types, forall₂_eq_map_iff, canonicalSignature, Parameter.tupleText,
    Parameter.canonicalTypes_eq_map, String.append_assoc, exists_eq_left']
  exact eq_comm

end Signature

section Selector

variable {signature selector : String}

def hexadecimalDigits : List Char := "0123456789abcdef".toList

/-- The text consists of two digits, and the first of them counts sixteen times. -/
def WritesByte (byte : UInt8) (text : String) : Prop :=
  ∃ high low, hexadecimalDigits[byte.toNat / 16]? = some high ∧
    hexadecimalDigits[byte.toNat % 16]? = some low ∧ text = String.ofList [high, low]

/-- The first four bytes of the hash of the signature, in hexadecimal. -/
def IsSelector (signature selector : String) : Prop :=
  ∃ bytes rest texts, Keccak.hash256 signature.toUTF8.toList = bytes ++ rest ∧ bytes.length = 4 ∧
    List.Forall₂ WritesByte bytes texts ∧ selector = "0x" ++ String.join texts

theorem writesByte_iff {byte : UInt8} {text : String} :
    WritesByte byte text ↔ Text.hexadecimalByte byte = text := by
  have digits : ∀ n < 16, hexadecimalDigits[n]?.map ([·]) = some (Nat.toDigits 16 n) := by decide
  have bound := byte.toNat_lt
  obtain ⟨high, first, upper⟩ := Option.map_eq_some_iff.mp (digits (byte.toNat / 16) (by omega))
  obtain ⟨low, second, lower⟩ := Option.map_eq_some_iff.mp (digits (byte.toNat % 16) (by omega))
  rw [Text.hexadecimalByte, Text.hexadecimal, Text.hexadecimal, ← upper, ← lower, WritesByte, first,
    second, ← String.ofList_append]
  simp [eq_comm]

theorem isSelector_iff : IsSelector signature selector ↔ selectorOf signature = selector := by
  have bytes : WritesByte = fun byte text => Text.hexadecimalByte byte = text := by
    funext byte text
    exact propext writesByte_iff
  have long : 4 ≤ (Keccak.hash256 signature.toUTF8.toList).length := by
    rw [Keccak.length_hash256]
    decide
  simp only [IsSelector, bytes, forall₂_eq_map_iff, selectorOf]
  constructor
  · rintro ⟨first, rest, texts, hash, four, rfl, rfl⟩
    rw [hash, List.take_left' four]
  · rintro rfl
    exact ⟨_, _, _, (List.take_append_drop 4 _).symm, List.length_take_of_le long, rfl, rfl⟩

end Selector

end ContractWrapper
