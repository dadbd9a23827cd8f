import ContractWrapper.Proofs.Class.Members
import ContractWrapper.Proofs.ClassName
import ContractWrapper.Proofs.Interface.Acceptance

/-! Names of classes among the names that their modules import.

A module binds the names that it imports before it declares its class. A derived name has a capital
at the start of each word and nowhere else, so the words of the text that it comes from tell whether
it is one of these names. A configured name is not compared with them.
-/

set_option autoImplicit false

namespace ContractWrapper

section Derived

variable {raw name : String}

/-- The words of a text, in small letters. -/
def nameWords (raw : String) : List String :=
  (Text.words (separateWords raw.toList)).map fun word => String.ofList (word.map Char.toLower)

theorem deriveClassName_eq_iff (identifier : isIdentifier name = true)
    (bare : name.toList.head? ≠ some '_') (proper : name ≠ "Contract") :
    deriveClassName raw = name ↔ pascalName raw = name.toList := by
  rw [deriveClassName, ← pascalName]
  by_cases plain : isIdentifier (String.ofList (pascalName raw)) = true
  · rw [if_pos plain, ← String.toList_inj, String.toList_ofList]
  · rw [if_neg plain]
    refine iff_of_false ?_ ?_
    · split
      · rintro rfl
        exact bare (by simp)
      · exact Ne.symm proper
    · intro same
      rw [same, String.ofList_toList] at plain
      exact plain identifier

/-- A name that is made of small words is derived from the texts that have these words. -/
theorem deriveClassName_eq_iff_nameWords {words : List String}
    (identifier : isIdentifier name = true) (bare : name.toList.head? ≠ some '_')
    (proper : name ≠ "Contract") (lettered : Text.Lettered (words.map String.toList))
    (small : ∀ word ∈ words, word.toList.map Char.toLower = word.toList)
    (joined : name.toList = (words.map String.toList).flatMap Text.capitalized) :
    deriveClassName raw = name ↔ nameWords raw = words := by
  have kept : (words.map String.toList).map (List.map Char.toLower) = words.map String.toList := by
    rw [List.map_map]
    exact List.map_congr_left small
  have listed : (words.map String.toList).map String.ofList = words := by
    simp [Function.comp_def]
  have named : nameWords raw =
      ((Text.words (separateWords raw.toList)).map (List.map Char.toLower)).map String.ofList := by
    rw [List.map_map]
    rfl
  rw [deriveClassName_eq_iff identifier bare proper, joined, pascalName,
    Text.pascalCase_eq_iff lettered, kept, named]
  conv_rhs => rw [← listed]
  exact (List.map_injective_iff.mpr fun _ _ => String.ofList_injective).eq_iff.symm

-- A derived name starts with a capital, unless it starts with no letter at all.
theorem deriveClassName_ne_ethers (raw : String) : deriveClassName raw ≠ "ethers" := by
  rw [Ne, deriveClassName_eq_iff (by decide) (by decide) (by decide)]
  intro same
  have head := head?_pascalName raw
  rw [same] at head
  obtain ⟨first, -, large⟩ := Option.map_eq_some_iff.mp head.symm
  have small := Char.isLower_toUpper_eq_false first
  rw [large] at small
  exact absurd small (by decide)

/-- The words of which imported names are made. -/
def importedWords : List (List String) := [["big", "number"], ["big", "numberish"]]

theorem deriveClassName_mem_importedNames_iff (raw : String) (dialect : Dialect) :
    deriveClassName raw ∈ importedNames .ethers dialect ↔
      dialect = .typeScript ∧ nameWords raw ∈ importedWords := by
  have number : deriveClassName raw = "BigNumber" ↔ nameWords raw = ["big", "number"] :=
    deriveClassName_eq_iff_nameWords (by decide) (by decide) (by decide)
      (by simp [Text.Lettered]) (by decide) (by decide)
  have numberish : deriveClassName raw = "BigNumberish" ↔ nameWords raw = ["big", "numberish"] :=
    deriveClassName_eq_iff_nameWords (by decide) (by decide) (by decide)
      (by simp [Text.Lettered]) (by decide) (by decide)
  cases dialect <;>
    simp [importedNames, importedWords, deriveClassName_ne_ethers, number, numberish]

example : nameWords "BIGNumberish" = ["big", "numberish"] := by decide

end Derived

section Imports

variable {settings : Settings} {fileStem : Option String} {text : String} {wrapper : Wrapper}

theorem classNameFor_mem_importedNames_iff (contractName fileStem : Option String) :
    classNameFor settings contractName fileStem ∈ importedNames .ethers settings.dialect ↔
      (∃ name ∈ importedNames .ethers settings.dialect, settings.className = some name) ∨
        settings.className = none ∧ settings.dialect = .typeScript ∧
          ∃ raw, contractName.or fileStem = some raw ∧ nameWords raw ∈ importedWords := by
  unfold classNameFor
  cases settings.className with
  | some name => simp
  | none =>
    cases contractName.or fileStem with
    | none => cases settings.dialect <;> simp [importedNames, defaultClassName]
    | some raw => simp [deriveClassName_mem_importedNames_iff]

theorem classOpening_eq (className : String) :
    classOpening settings className =
      Text.renderLines settings.indent (importLines settings.framework settings.dialect) ++
        ("class " ++ className ++ " \x7b" ++ "\n") := by
  rw [classOpening, Text.renderLines_append]
  rfl

/-- The module of a wrapper for `ethers` starts with a statement that binds the imported names, and
its class follows. The class has one of these names exactly if it is configured to, or if it is
derived, where the dialect imports such names, from a text of their words: from the name that the
description gives to the contract, or else from that of its file. -/
theorem className_imported_iff
    (generated : (Wrapper.generate settings fileStem text).result = .ok wrapper)
    (ethers : settings.framework = .ethers) :
    ∃ description json preamble names body, (Interface.ofText text).result = .ok description ∧
      Json.read text = .ok json ∧ Interface.NamesContract json description.contractName ∧
      wrapper.source = preamble ++ ("class " ++ wrapper.className ++ " \x7b" ++ "\n") ++ body ∧
      Preamble .ethers settings.dialect preamble names ∧
      (wrapper.className ∈ names ↔
        (∃ name ∈ names, settings.className = some name) ∨
          settings.className = none ∧ settings.dialect = .typeScript ∧
            ∃ raw, description.contractName.or fileStem = some raw ∧
              nameWords raw ∈ importedWords) := by
  obtain ⟨description, read, generated⟩ := ofInterface_of_generate generated
  obtain ⟨json, parsed, accepted⟩ := Interface.ofText_eq_ok_iff.mp read
  have contract := Interface.namesContract_of_ofJson accepted
  obtain ⟨-, methods, -, source⟩ := source_of_ofInterface generated
  obtain ⟨-, named, -⟩ := ofInterface_eq_ok generated
  have preamble := preamble_importLines settings.indent .ethers settings.dialect
  obtain ⟨body, shape⟩ : ∃ body, wrapper.source =
      Text.renderLines settings.indent (importLines .ethers settings.dialect) ++
        ("class " ++ wrapper.className ++ " \x7b" ++ "\n") ++ body := by
    rw [source, classHeader_eq, classOpening_eq, ethers]
    exact ⟨_, by simp only [String.append_assoc]; rfl⟩
  refine ⟨description, json, _, _, body, read, parsed, contract, shape, preamble, ?_⟩
  rw [named]
  exact classNameFor_mem_importedNames_iff _ _

/-- A class that is named after the file `big-number` has the name of an import, but not where
numbers are not imported. -/
theorem big_number_imported :
    (∃ wrapper, (Wrapper.generate {} (some "big-number") "[]").result = .ok wrapper ∧
      ({} : Settings).framework = .ethers ∧
      wrapper.className ∈ ["ethers", "BigNumber", "BigNumberish"]) ∧
    ∃ wrapper, (Wrapper.generate { dialect := .javaScript } (some "big-number") "[]").result =
        .ok wrapper ∧
      wrapper.className ∉ ["ethers"] := by
  have read : (Interface.ofText "[]").result = .ok ⟨none, [], 0⟩ := rfl
  constructor
  · have generated : (Wrapper.generate {} (some "big-number") "[]").result = .ok _ := rfl
    obtain ⟨description, json, preamble, names, body, same, -, -, -, ⟨⟩, named⟩ :=
      className_imported_iff generated rfl
    cases read.symm.trans same
    exact ⟨_, generated, rfl, named.mpr (.inr ⟨rfl, rfl, _, rfl, by decide⟩)⟩
  · have generated : (Wrapper.generate { dialect := .javaScript } (some "big-number") "[]").result =
        .ok _ := rfl
    obtain ⟨description, json, preamble, names, body, same, -, -, -, ⟨⟩, named⟩ :=
      className_imported_iff generated rfl
    refine ⟨_, generated, fun imported => ?_⟩
    obtain ⟨_, -, configured⟩ | ⟨-, annotated, -⟩ := named.mp imported
    · cases configured
    · cases annotated

/-- Nothing keeps a configured name from being that of an import. -/
theorem configured_ethers_imported :
    ¬∀ settings fileStem text wrapper preamble names, settings.framework = .ethers →
      (Wrapper.generate settings fileStem text).result = .ok wrapper →
        Preamble settings.framework settings.dialect preamble names →
          wrapper.className ∉ names := by
  intro apart
  have generated : (Wrapper.generate { className := some "ethers" } none "[]").result = .ok _ := rfl
  exact apart _ _ _ _ _ _ rfl generated .typeScript (by decide)

end Imports

end ContractWrapper
