import ContractWrapper.Proofs.Interface.Acceptance

/-! What holds of every function that is read from a description.

Its name is not empty, and its signature and selector are those of its name and inputs. All else
about a function is text that is taken from the description as it stands.
-/

set_option autoImplicit false

namespace ContractWrapper

/-- A named function with the signature and the selector that belong to it. -/
structure FunctionEntry.WellFormed (function : FunctionEntry) : Prop where
  named : function.name ≠ ""
  signature : function.signature = canonicalSignature function.name function.inputs
  selector : function.selector = selectorOf (canonicalSignature function.name function.inputs)

theorem FunctionEntry.DescribedBy.wellFormed {members : List (String × Json)}
    {function : FunctionEntry} (described : DescribedBy members function) :
    function.WellFormed where
  named := described.named
  signature := (signedAs_iff.mp described.signature).symm
  selector := by
    rw [signedAs_iff.mp described.signature, isSelector_iff.mp described.selector]

theorem Interface.wellFormed_of_ofJson {json : Json} {description : Interface}
    (read : (ofJson json).result = .ok description) :
    ∀ function ∈ description.functions, function.WellFormed := by
  obtain ⟨entries, -, described, -⟩ := described_of_ofJson read
  intro function member
  obtain ⟨members, -, described⟩ := exists_of_mem_right described member
  exact described.wellFormed

theorem Interface.wellFormed_of_ofText {text : String} {description : Interface}
    (read : (ofText text).result = .ok description) :
    ∀ function ∈ description.functions, function.WellFormed := by
  obtain ⟨json, -, read⟩ := ofText_eq_ok_iff.mp read
  exact wellFormed_of_ofJson read

end ContractWrapper
