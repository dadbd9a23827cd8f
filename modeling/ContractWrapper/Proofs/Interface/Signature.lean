import ContractWrapper.Interface.Function
import ContractWrapper.Proofs.Text.Count

/-! What a canonical signature is written from.

A signature consists of the name of the function, the tags of its inputs and punctuation. What is
counted in it is therefore counted in these texts. A selector is always plain.
-/

set_option autoImplicit false

namespace ContractWrapper

open Text (isPlain isPlainText AddsUp total)

namespace Parameter

mutual

/-- The tags that the canonical type of a parameter shows; components are shown in a tuple only. -/
def shownTags : Parameter → List String
  | ⟨_, tag, components⟩ =>
    tag :: (if (splitTag tag).1 = "tuple" then componentTags components else [])

def componentTags : Option (List Parameter) → List String
  | none => []
  | some components => allTags components

def allTags : List Parameter → List String
  | [] => []
  | first :: rest => shownTags first ++ allTags rest

end

-- The second part of a tag starts with the bracket at which the tag is split.
theorem head?_suffix {tag : String} {c : Char}
    (head : (splitTag tag).2.toList.head? = some c) : c = '[' := by
  have start := List.head?_dropWhile_not (· != '[') tag.toList
  rw [splitTag, String.toList_ofList] at head
  simpa [head] using start

end Parameter

/-- The texts of an interface that the signature of a function shows. -/
def FunctionEntry.signatureTexts (function : FunctionEntry) : List String :=
  function.name :: Parameter.allTags function.inputs

section Count

variable {count : List Char → Nat} (adds : AddsUp count)

include adds

theorem count_tupleText (types : List String) :
    count (Parameter.tupleText types).toList = total count types := by
  rw [Parameter.tupleText, adds.trailing (by decide), adds.leading (by decide),
    adds.intercalate (by decide) (by decide)]

theorem count_append_suffix (before tag : String) :
    count (before ++ (Parameter.splitTag tag).2).toList =
      count before.toList + count (Parameter.splitTag tag).2.toList := by
  cases suffix : (Parameter.splitTag tag).2.toList with
  | nil => rw [String.toList_append, suffix, List.append_nil, adds.nil, Nat.add_zero]
  | cons c rest =>
    have bracket : c = '[' := Parameter.head?_suffix (by rw [suffix]; rfl)
    have unseen : Text.Unseen count c := adds.plain c (by rw [bracket]; decide)
    rw [String.toList_append, suffix, unseen, adds.cons unseen]

theorem count_splitTag (tag : String) :
    count tag.toList =
      count (Parameter.splitTag tag).1.toList + count (Parameter.splitTag tag).2.toList := by
  rw [← count_append_suffix adds, Parameter.splitTag_append]

theorem count_canonicalBase (base tuple : String) :
    count (Parameter.canonicalBase base tuple).toList =
      count base.toList + if base = "tuple" then count tuple.toList else 0 := by
  have word : count "tuple".toList = 0 := adds.eq_zero (by decide)
  unfold Parameter.canonicalBase
  split
  · rw [adds.eq_zero (by decide), adds.eq_zero (by decide), if_neg (by decide)]
  · rw [adds.eq_zero (by decide), adds.eq_zero (by decide), if_neg (by decide)]
  · rw [word, if_pos rfl, Nat.zero_add]
  · next different => rw [if_neg different, Nat.add_zero]

end Count

mutual

theorem count_canonicalType {count : List Char → Nat} (adds : AddsUp count) :
    (parameter : Parameter) →
    count parameter.canonicalType.toList = total count parameter.shownTags
  | ⟨_, tag, components⟩ => by
    have inner := count_componentTypes adds components
    rw [Parameter.canonicalType, Parameter.shownTags, count_append_suffix adds,
      count_canonicalBase adds, count_tupleText adds, inner, total, count_splitTag adds tag]
    split
    · omega
    · rfl

theorem count_componentTypes {count : List Char → Nat} (adds : AddsUp count) :
    (components : Option (List Parameter)) →
    total count (Parameter.componentTypes components) =
      total count (Parameter.componentTags components)
  | none => rfl
  | some components => count_canonicalTypes adds components

theorem count_canonicalTypes {count : List Char → Nat} (adds : AddsUp count) :
    (parameters : List Parameter) →
    total count (Parameter.canonicalTypes parameters) = total count (Parameter.allTags parameters)
  | [] => rfl
  | first :: rest => by
    rw [Parameter.canonicalTypes, Parameter.allTags, total, Text.total_append,
      count_canonicalType adds first, count_canonicalTypes adds rest]

end

/-- What is counted in a canonical signature is counted in the texts that it shows. -/
theorem count_canonicalSignature {count : List Char → Nat} (adds : AddsUp count)
    (function : FunctionEntry) :
    count (canonicalSignature function.name function.inputs).toList =
      total count function.signatureTexts := by
  rw [canonicalSignature, Parameter.tupleText, ← String.append_assoc, ← String.append_assoc,
    adds.trailing (by decide), adds.between (by decide) (by decide),
    adds.intercalate (by decide) (by decide), count_canonicalTypes adds]
  rfl

theorem isPlainText_selectorOf (signature : String) :
    isPlainText (selectorOf signature) = true := by
  have digits : ∀ n < 16, (Nat.toDigits 16 n).all isPlain = true := by decide
  have byte (byte : UInt8) : (Text.hexadecimalByte byte).toList.all isPlain = true := by
    have bound := byte.toNat_lt
    rw [Text.hexadecimalByte, Text.hexadecimal, Text.hexadecimal, String.toList_append,
      String.toList_ofList, String.toList_ofList, List.all_append, Bool.and_eq_true]
    exact ⟨digits _ (by omega), digits _ (Nat.mod_lt _ (by decide))⟩
  rw [selectorOf, isPlainText, String.toList_append, List.all_append, Bool.and_eq_true]
  refine ⟨by decide, List.all_eq_true.mpr fun c member => ?_⟩
  rw [String.toList_join, List.flatMap_map, List.mem_flatMap] at member
  obtain ⟨_, -, inside⟩ := member
  exact List.all_eq_true.mp (byte _) c inside

end ContractWrapper
