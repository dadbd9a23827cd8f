import ContractWrapper.Proofs.ClassName
import ContractWrapper.Proofs.CommandLine.Effects
import ContractWrapper.Proofs.Files.Children

/-! Where a wrapper comes to stand.

Whatever a contract or a file is called, the class has a name that can be used, and the file is
named after the class. No part of a path is in that name, so the file stands directly in the
directory that is meant for it.
-/

set_option autoImplicit false

namespace ContractWrapper

open Failure (bind_eq_ok_iff)

namespace FileTree

/-- The path leads to the file of a wrapper, which stands directly in the directory. -/
structure HasWrapper (tree : FileTree) (path : String) (directory : Location) (wrapper : Wrapper) :
    Prop where
  located : tree.locate path = .ok (directory ++ [wrapper.fileName])
  written : tree.entryAt (directory ++ [wrapper.fileName]) = some (.file wrapper.source.toUTF8)

section Placement

variable {tree : FileTree} {request : GenerateRequest} {path above : String} {wrapper : Wrapper}
  {directory : Location}

theorem hasWrapper_of_wroteFile {settings : Settings} {fileStem : Option String} {text : String}
    {before after : FileTree}
    (generated : (Wrapper.generate settings fileStem text).result = .ok wrapper)
    (wrote : WroteFile (Path.join above wrapper.fileName) wrapper.source.toUTF8 before after)
    (led : before.locateDirectory above = .ok directory) :
    after.HasWrapper (Path.join above wrapper.fileName) directory wrapper := by
  obtain ⟨location, located, written⟩ := exists_file_of_read wrote.read
  have whole : '/' ∉ wrapper.fileName.toList := not_mem_fileName generated (by decide) (by decide)
  obtain ⟨actual, still, rfl⟩ := locate_join located (fileName_proper generated) whole
  cases still.symm.trans (wrote.keeps.locateDirectory led)
  exact ⟨located, written⟩

theorem readable_of_prepares (prepares : tree.Prepares request path wrapper) :
    ∃ content, tree.read request.interfacePath = .ok content := by
  obtain ⟨_, text, -, held, -⟩ := prepares
  obtain ⟨content, read, -⟩ := bind_eq_ok_iff.mp held
  exact ⟨content, read⟩

theorem placed_beside_interface (nested : tree.Nested) (unnamed : request.out = none)
    (prepares : tree.Prepares request path wrapper)
    (wrote : WroteFile path wrapper.source.toUTF8 tree (tree.after (runGenerate request))) :
    ∃ directory name, tree.locate request.interfacePath = .ok (directory ++ [name]) ∧
      (tree.after (runGenerate request)).HasWrapper path directory wrapper := by
  obtain ⟨content, read⟩ := readable_of_prepares prepares
  obtain ⟨above, directory, name, parent, around, located⟩ := exists_name_of_read nested read
  obtain ⟨settings, text, -, -, generated, same⟩ := prepares
  obtain rfl : path = Path.join above wrapper.fileName := by
    simp only [same, unnamed, outputPath, parent, Option.getD_some]
  exact ⟨directory, name, located, hasWrapper_of_wroteFile generated wrote around⟩

theorem placed_in_directory {out : String} (named : request.out = some out)
    (present : tree.isDirectoryAt out = true)
    (prepares : tree.Prepares request path wrapper)
    (wrote : WroteFile path wrapper.source.toUTF8 tree (tree.after (runGenerate request))) :
    ∃ directory, tree.locate out = .ok directory ∧
      (tree.after (runGenerate request)).HasWrapper path directory wrapper := by
  obtain ⟨settings, text, -, -, generated, same⟩ := prepares
  obtain rfl : path = Path.join out wrapper.fileName := by
    simp [same, named, outputPath, present]
  unfold isDirectoryAt at present
  split at present
  · next directory located =>
    refine ⟨directory, located, hasWrapper_of_wroteFile generated wrote ?_⟩
    rw [locateDirectory, if_neg (locate_eq_ok_iff.mp located).1.2.1, located]
  · cases present

end Placement

end FileTree

/-- The name that is made from a text is an identifier and not reserved, and it is `Contract` or
holds the letters and digits of the text in their order. Each class that is generated has a name of
that kind, and that of its file has no slash in it. So, where each directory stands in a directory
and no output file is named, the file stands directly in the directory of the interface, or in the
one that is asked for. -/
theorem usable_names :
    (∀ raw, IsClassName (deriveClassName raw) ∧
      DerivedFrom (nameCharacters raw) (deriveClassName raw)) ∧
    (∀ settings fileStem text wrapper,
      (Wrapper.generate settings fileStem text).result = .ok wrapper →
        IsClassName wrapper.className ∧
        wrapper.fileName = wrapper.className ++ "." ++ settings.dialect.fileExtension ∧
        '/' ∉ wrapper.fileName.toList ∧ '\\' ∉ wrapper.fileName.toList) ∧
    ∀ (tree : FileTree) request output, tree.Nested → request.dryRun = false →
      tree.answer (runGenerate request) = .ok output →
        ∃ path wrapper, tree.Prepares request path wrapper ∧
          output = "Generated " ++ path ++ "\n" ∧
          (request.out = none → ∃ directory name,
            tree.locate request.interfacePath = .ok (directory ++ [name]) ∧
              (tree.after (runGenerate request)).HasWrapper path directory wrapper) ∧
          ∀ out, request.out = some out → tree.isDirectoryAt out = true → ∃ directory,
            tree.locate out = .ok directory ∧
              (tree.after (runGenerate request)).HasWrapper path directory wrapper := by
  refine ⟨?names, ?files, ?places⟩
  case names =>
    intro raw
    exact ⟨isClassName_deriveClassName raw, derivedFrom_deriveClassName raw⟩
  case files =>
    intro settings fileStem text wrapper generated
    obtain ⟨named, extension⟩ := named_of_generate generated
    refine ⟨named, ?_, not_mem_fileName generated (by decide) (by decide),
      not_mem_fileName generated (by decide) (by decide)⟩
    rw [Wrapper.fileName, extension]
  case places =>
    intro tree request output nested wet succeeded
    obtain ⟨path, wrapper, prepared, shown, wrote⟩ := FileTree.wroteFile_of_answer wet succeeded
    have prepares := FileTree.prepares_of_answer prepared
    refine ⟨path, wrapper, prepares, shown, ?_, ?_⟩
    · intro unnamed
      exact FileTree.placed_beside_interface nested unnamed prepares wrote
    · intro out named present
      exact FileTree.placed_in_directory named present prepares wrote

/-- Next to an interface in the home directory, and in the same directory when a path with a dot
asks for it. -/
theorem token_placed :
    (∃ wrapper, (tokenTree.after (runGenerate { tokenRequest with out := none })).HasWrapper
      "Token.ts" ["home"] wrapper ∧ '/' ∉ wrapper.fileName.toList) ∧
    ∃ wrapper, (tokenTree.after (runGenerate { tokenRequest with out := some "./" })).HasWrapper
      "./Token.ts" ["home"] wrapper := by
  have nested : tokenTree.Nested := FileTree.nested_of_entries (by decide)
  have beside : tokenTree.answer (runGenerate { tokenRequest with out := none }) =
      .ok "Generated Token.ts\n" := by rfl
  have inside : tokenTree.answer (runGenerate { tokenRequest with out := some "./" }) =
      .ok "Generated ./Token.ts\n" := by rfl
  have path_eq {path expected : String}
      (shown : "Generated " ++ expected ++ "\n" = "Generated " ++ path ++ "\n") :
      path = expected := by
    simpa using shown.symm
  obtain ⟨-, files, places⟩ := usable_names
  constructor
  · obtain ⟨path, wrapper, ⟨settings, text, -, -, generated, -⟩, shown, placed, -⟩ :=
      places tokenTree _ _ nested rfl beside
    obtain rfl := @path_eq path "Token.ts" shown
    obtain ⟨directory, name, located, placed⟩ := placed rfl
    have found : tokenTree.locate "Token.json" = .ok (["home"] ++ ["Token.json"]) := by rfl
    obtain rfl := List.append_inj_left' (Except.ok.inj (located.symm.trans found)) rfl
    exact ⟨wrapper, placed, (files _ _ _ _ generated).2.2.1⟩
  · obtain ⟨path, wrapper, -, shown, -, placed⟩ := places tokenTree _ _ nested rfl inside
    obtain rfl := @path_eq path "./Token.ts" shown
    obtain ⟨directory, located, placed⟩ := placed "./" rfl (by rfl)
    have found : tokenTree.locate "./" = .ok ["home"] := by rfl
    cases located.symm.trans found
    exact ⟨wrapper, placed⟩

end ContractWrapper
