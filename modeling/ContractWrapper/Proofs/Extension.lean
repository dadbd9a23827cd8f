import ContractWrapper.Proofs.Method.Target

/-! Interfaces that grow at their end.

The name and the number of a method depend on the functions before it, so that functions behind it
take nothing away from it. Only the count of a shared name looks ahead: a function whose name is
declared again is no longer called as a property of the contract instance.
-/

set_option autoImplicit false

namespace ContractWrapper

section Grouping

variable {policy : OverloadPolicy} {first later : List FunctionEntry}

theorem rankNames_append (earlier names added : List String) :
    rankNames earlier (names ++ added) =
      rankNames earlier names ++ rankNames (names.reverse ++ earlier) added := by
  induction names generalizing earlier with
  | nil => rfl
  | cons name rest ih => simp [rankNames, ih]

/-- A policy that admits functions admits those that they begin with. -/
theorem exists_group_of_append
    (admitted : ∃ methods, (group policy (first ++ later)).result = .ok methods) :
    ∃ methods, (group policy first).result = .ok methods := by
  obtain ⟨unrepeated, distinct⟩ := exists_group_eq_ok_iff.mp admitted
  refine exists_group_eq_ok_iff.mpr ⟨fun reject => ?_, fun mangle => ?_⟩
  · have all := unrepeated reject
    rw [List.map_append] at all
    exact all.sublist (List.sublist_append_left _ _)
  · have all := distinct mangle
    rw [methodsOf, methodNames_numberFunctions, List.map_append, rankNames_append,
      List.map_append] at all
    rw [methodsOf, methodNames_numberFunctions]
    exact all.sublist (List.sublist_append_left _ _)

-- What stands before a position of the first list is the same in both lists.
theorem getElem?_methodsOf_append {position : Nat} {method : Method}
    (present : (methodsOf policy first)[position]? = some method) :
    (methodsOf policy (first ++ later))[position]? = some { method with
      overloadCount := ((first ++ later).map FunctionEntry.name).count method.name } := by
  rw [getElem?_methodsOf] at present
  obtain ⟨function, selected, rfl⟩ := Option.map_eq_some_iff.mp present
  obtain ⟨inside, -⟩ := List.getElem?_eq_some_iff.mp selected
  rw [getElem?_methodsOf, List.getElem?_append_left inside, selected,
    List.take_append_of_le_length (Nat.le_of_lt inside)]
  rfl

end Grouping

/-- The statement that calls a target with arguments of the given names. -/
def forwarding (target : String) (names : List String) : String :=
  "return " ++ target ++ "(" ++ ", ".intercalate names ++ ");"

section Building

variable {settings : Settings} {function : FunctionEntry} {method other : Method}

/-- The comment of a method says nothing of other functions. -/
theorem comment_eq_of_builtFor (built : method.BuiltFor settings function)
    (otherBuilt : other.BuiltFor settings function) : method.comment = other.comment := by
  rw [built.comment, otherBuilt.comment, FunctionEntry.commentPieces,
    FunctionEntry.commentPieces, built.inputs, otherBuilt.inputs, built.outputs,
    otherBuilt.outputs]

theorem callStatement_eq (framework : Framework) :
    callStatement framework method = forwarding (callTarget framework method)
      (method.inputs.arguments.map Argument.name) := rfl

/-- Two methods of a function are declared alike around the statements of their bodies. -/
theorem declarations_around (built : method.BuiltFor settings function)
    (otherBuilt : other.BuiltFor settings function) (named : method.methodName = other.methodName) :
    ∃ before after,
      method.declaration =
        some (before ++ callStatement settings.framework method ++ after) ∧
      other.declaration = some (before ++ callStatement settings.framework other ++ after) := by
  obtain ⟨list, outputs, body, listed, typed, bodied, declared⟩ := built.declaration
  obtain ⟨otherList, otherOutputs, otherBody, otherListed, otherTyped, otherBodied,
    otherDeclared⟩ := otherBuilt.declaration
  -- Both sides of a method are decided by the function, and so are their literals.
  have lists : otherList = list := by
    rw [otherBuilt.inputs, ← built.inputs, listed] at otherListed
    exact (Option.some.inj otherListed).symm
  have types : otherOutputs = outputs := by
    rw [otherBuilt.outputs, ← built.outputs, typed] at otherTyped
    exact (Option.some.inj otherTyped).symm
  have written := Option.some.inj (bodied.symm.trans built.body)
  have otherWritten := Option.some.inj (otherBodied.symm.trans otherBuilt.body)
  refine ⟨Text.indentation settings.indent 1 ++ settings.dialect.methodKeywords ++ " " ++
    method.methodName ++ list ++ declarationMiddle settings.dialect list outputs ++ "\x7b\n" ++
    Text.indentation settings.indent 2,
    "\n" ++ Text.indentation settings.indent 1 ++ "\x7d\n\n", ?_, ?_⟩
  · rw [declared, declarationText, written]
    simp only [String.append_assoc]
    rfl
  · rw [otherDeclared, declarationText, lists, types, ← named, otherWritten]
    simp only [String.append_assoc]
    rfl

end Building

/-- What becomes of the method of a function when functions are added to an interface whose names
are the first list, and the added names are the second. -/
structure Method.Outlasts (settings : Settings) (function : FunctionEntry)
    (names added : List String) (method grown : Method) : Prop where
  declared : method.declaration.isSome
  comment : grown.comment = method.comment
  kept : ¬ (names.count function.name = 1 ∧ function.name ∈ added) →
    grown.declaration = method.declaration
  /-- A name that is declared once and then again: only the target of the call changes. -/
  recalled : names.count function.name = 1 ∧ function.name ∈ added → ∃ before after,
    method.declaration = some (before ++
      forwarding (function.propertyTarget settings.framework)
        (method.inputs.arguments.map Argument.name) ++ after) ∧
    grown.declaration = some (before ++
      forwarding (function.signatureTarget settings.framework)
        (method.inputs.arguments.map Argument.name) ++ after)

section Growth

variable {settings : Settings} {first later : List FunctionEntry}

theorem outlasts_of_counted (settings : Settings) {function : FunctionEntry}
    {names : List String} (member : function.name ∈ names) (added : List String) (index : Nat) :
    Method.Outlasts settings function names added
      ((Method.ofFunction settings.overloadPolicy index (names.count function.name)
        function).finished settings)
      ((Method.ofFunction settings.overloadPolicy index ((names ++ added).count function.name)
        function).finished settings) := by
  have built (count : Nat) := Method.builtFor_finished settings index count function
  obtain ⟨before, after, declaration, grownDeclaration⟩ :=
    declarations_around (built (names.count function.name))
      (built ((names ++ added).count function.name))
      (by rw [Method.methodName_finished, Method.methodName_finished]; rfl)
  rw [callStatement_eq, callTarget_finished, callTarget_ofFunction] at declaration grownDeclaration
  have inputs := (built ((names ++ added).count function.name)).inputs
  rw [← (built (names.count function.name)).inputs] at inputs
  rw [inputs] at grownDeclaration
  have present : 0 < names.count function.name := List.count_pos_iff.mpr member
  refine ⟨?declared, ?comment, ?kept, ?recalled⟩
  case declared =>
    rw [declaration]
    rfl
  case comment =>
    exact comment_eq_of_builtFor (built _) (built _)
  case kept =>
    intro unaffected
    -- The count passes one only if it does so before, or by the added names.
    have same : 1 < (names ++ added).count function.name ↔ 1 < names.count function.name := by
      rw [List.count_append]
      by_cases again : function.name ∈ added
      · have several : names.count function.name ≠ 1 := fun once => unaffected ⟨once, again⟩
        omega
      · rw [List.count_eq_zero_of_not_mem again, Nat.add_zero]
    rw [declaration, grownDeclaration]
    simp only [same]
  case recalled =>
    rintro ⟨once, again⟩
    have shared : 1 < (names ++ added).count function.name := by
      have := List.count_pos_iff.mpr again
      rw [List.count_append]
      omega
    rw [if_neg (by omega)] at declaration
    rw [if_pos shared] at grownDeclaration
    exact ⟨before, after, declaration, grownDeclaration⟩

/-- Functions that are added behind others rename none of them: what was admitted stays admitted,
and every method keeps all but the count of its name. Built methods keep their comments and their
declarations, except that a function whose name is declared a second time is called through its
signature from then on. -/
theorem appending_keeps_methods {grown : List Method}
    (grouped : (group settings.overloadPolicy (first ++ later)).result = .ok grown) :
    ∃ methods, (group settings.overloadPolicy first).result = .ok methods ∧
      methods.length = first.length ∧
      (∀ (position : Nat) method, methods[position]? = some method →
        ∃ count, grown[position]? = some { method with overloadCount := count }) ∧
      ∃ built grownBuilt, (buildMethods settings callBody first).result = .ok built ∧
        (buildMethods settings callBody (first ++ later)).result = .ok grownBuilt ∧
        ∀ (position : Nat) function, first[position]? = some function →
          ∃ method grownMethod, built[position]? = some method ∧
            grownBuilt[position]? = some grownMethod ∧
            Method.Outlasts settings function (first.map FunctionEntry.name)
              (later.map FunctionEntry.name) method grownMethod := by
  obtain ⟨methods, admitted⟩ := exists_group_of_append ⟨grown, grouped⟩
  have built := buildMethods_of_group admitted
  have grownBuilt := buildMethods_of_group grouped
  refine ⟨methods, admitted, ?_, ?_, _, _, built, grownBuilt, ?_⟩
  · obtain ⟨-, -, rfl⟩ := group_eq_ok_iff.mp admitted
    exact length_numberFunctions _ _ _ first
  · obtain ⟨-, -, rfl⟩ := group_eq_ok_iff.mp admitted
    obtain ⟨-, -, rfl⟩ := group_eq_ok_iff.mp grouped
    exact fun position method present => ⟨_, getElem?_methodsOf_append present⟩
  · intro position function selected
    obtain ⟨inside, -⟩ := List.getElem?_eq_some_iff.mp selected
    have member : function.name ∈ first.map FunctionEntry.name :=
      List.mem_map_of_mem (List.mem_of_getElem? selected)
    refine ⟨_, _, ?_, ?_, outlasts_of_counted settings member (later.map FunctionEntry.name)
      (((first.take position).map FunctionEntry.name).count function.name)⟩
    · rw [getElem?_of_buildMethods built, selected]
      rfl
    · rw [getElem?_of_buildMethods grownBuilt, List.getElem?_append_left inside, selected,
        List.take_append_of_le_length (Nat.le_of_lt inside), List.map_append]
      rfl

/-- A second function of the name `balanceOf`. -/
def datedBalanceEntry : FunctionEntry :=
  .declare "balanceOf" [⟨"", "address", none⟩, ⟨"", "uint256", none⟩] [⟨"", "uint256", none⟩] true

/-- The only function of its name is called through its signature once the name is shared. -/
theorem balance_recalled :
    ∃ grown, (group .mangle (tokenEntries ++ [datedBalanceEntry])).result = .ok grown ∧
      ∃ built grownBuilt method grownMethod,
        (buildMethods {} callBody tokenEntries).result = .ok built ∧ built[2]? = some method ∧
        (buildMethods {} callBody (tokenEntries ++ [datedBalanceEntry])).result =
          .ok grownBuilt ∧
        grownBuilt[2]? = some grownMethod ∧ grownMethod.comment = method.comment ∧
        ∃ names before after,
          method.declaration =
            some (before ++ forwarding "this.contract.balanceOf" names ++ after) ∧
          grownMethod.declaration = some (before ++
            forwarding "this.contract[\"balanceOf(address)\"]" names ++ after) := by
  have grouped : (group .mangle (tokenEntries ++ [datedBalanceEntry])).result =
      .ok (methodsOf .mangle (tokenEntries ++ [datedBalanceEntry])) := by rfl
  obtain ⟨-, -, -, -, built, grownBuilt, reached, grownReached, each⟩ :=
    @appending_keeps_methods {} tokenEntries [datedBalanceEntry] _ grouped
  obtain ⟨method, grownMethod, present, grownPresent, outlasts⟩ := each 2 _ rfl
  obtain ⟨before, after, declaration, grownDeclaration⟩ := outlasts.recalled (by decide)
  exact ⟨_, grouped, built, grownBuilt, method, grownMethod, reached, present, grownReached,
    grownPresent, outlasts.comment, _, before, after, declaration, grownDeclaration⟩

end Growth

end ContractWrapper
