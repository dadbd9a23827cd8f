import Mathlib.Data.List.Nodup
import ContractWrapper.Proofs.Overload.Numbering

/-! Numbered method names.

A numbered name ends in an underscore and digits, and no digit is an underscore: so it tells
which name it was made from and with which number. Two methods can therefore share a name only
when a function is declared under a name that numbering hands out.
-/

set_option autoImplicit false

namespace ContractWrapper

-- Without the mark on the right of either cut, both cuts are at its last place.
theorem parts_of_last_place {α : Type} {mark : α} {first second left right : List α}
    (leftFree : mark ∉ left) (rightFree : mark ∉ right)
    (same : first ++ mark :: left = second ++ mark :: right) : first = second ∧ left = right := by
  rcases List.append_eq_append_iff.mp same with ⟨between, rfl, rest⟩ | ⟨between, rfl, rest⟩
  · cases between with
    | nil => exact ⟨(List.append_nil first).symm, (List.cons.inj rest).2⟩
    | cons head tail =>
      have tails := (List.cons.inj rest).2
      exact absurd (tails ▸ List.mem_append_right tail List.mem_cons_self) leftFree
  · cases between with
    | nil => exact ⟨List.append_nil second, (List.cons.inj rest).2.symm⟩
    | cons head tail =>
      have tails := (List.cons.inj rest).2
      exact absurd (tails ▸ List.mem_append_right tail List.mem_cons_self) rightFree

theorem underscore_digits_injective {first second : String} {m n : Nat}
    (same : first ++ "_" ++ toString m = second ++ "_" ++ toString n) : first = second ∧ m = n := by
  have characters : first.toList ++ '_' :: Nat.toDigits 10 m =
      second.toList ++ '_' :: Nat.toDigits 10 n := by
    simpa [Nat.toString_eq_ofList_toDigits] using congrArg String.toList same
  obtain ⟨names, digits⟩ := parts_of_last_place Nat.underscore_not_in_toDigits
    Nat.underscore_not_in_toDigits characters
  refine ⟨String.toList_inj.mp names, ?_⟩
  simpa using congrArg (Nat.ofDigitChars 10 · 0) digits

/-- Some name of the list is one that numbering hands out to a later function of a name. -/
def DeclaresNumbered (names : List String) : Prop :=
  ∃ name rank, 1 ≤ rank ∧ rank < names.count name ∧ name ++ "_" ++ toString rank ∈ names

theorem mem_of_mem_rankNames {names : List String} {name : String} {rank : Nat}
    (member : (name, rank) ∈ rankNames [] names) : name ∈ names ∧ rank < names.count name := by
  have bounds := ((mem_rankNames [] names).mp member).2
  rw [List.count_nil, Nat.zero_add] at bounds
  exact ⟨List.count_pos_iff.mp (Nat.zero_lt_of_lt bounds), bounds⟩

theorem nodup_mangled_iff (names : List String) :
    ((rankNames [] names).map fun (name, rank) =>
      OverloadPolicy.mangle.methodName name rank).Nodup ↔ ¬ DeclaresNumbered names := by
  rw [List.nodup_map_iff_inj_on (nodup_rankNames [] names)]
  constructor
  · rintro injective ⟨name, rank, positive, less, declared⟩
    -- The declared name is emitted as it is, and the numbered one is emitted the same.
    have plain : (name ++ "_" ++ toString rank, 0) ∈ rankNames [] names := by
      simpa [mem_rankNames, List.count_pos_iff] using declared
    have numbered : (name, rank) ∈ rankNames [] names := by
      simpa [mem_rankNames] using less
    have emitted : OverloadPolicy.mangle.methodName (name ++ "_" ++ toString rank) 0 =
        OverloadPolicy.mangle.methodName name rank := by
      cases rank with
      | zero => cases positive
      | succ rank => rfl
    have same := injective _ plain _ numbered emitted
    have none : 0 = rank := congrArg Prod.snd same
    omega
  · rintro free ⟨first, i⟩ left ⟨second, j⟩ right same
    obtain ⟨firstDeclared, firstLess⟩ := mem_of_mem_rankNames left
    obtain ⟨secondDeclared, secondLess⟩ := mem_of_mem_rankNames right
    -- A number stands in the emitted name exactly when it is positive.
    cases i with
    | zero =>
      cases j with
      | zero => exact congrArg (·, 0) same
      | succ j =>
        have emitted : first = second ++ "_" ++ toString (j + 1) := same
        exact absurd ⟨second, j + 1, Nat.succ_pos j, secondLess, emitted ▸ firstDeclared⟩ free
    | succ i =>
      cases j with
      | zero =>
        have emitted : second = first ++ "_" ++ toString (i + 1) := same.symm
        exact absurd ⟨first, i + 1, Nat.succ_pos i, firstLess, emitted ▸ secondDeclared⟩ free
      | succ j =>
        obtain ⟨names, numbers⟩ := underscore_digits_injective same
        rw [names, numbers]

example : DeclaresNumbered ["transfer", "transfer_1", "transfer"] :=
  ⟨"transfer", 1, by decide, by decide, by decide⟩

section Search

variable (taken : List String) {methods : List Method}

theorem firstCollision?_eq_none_iff :
    firstCollision? taken methods = none ↔
      (methods.map Method.methodName).Nodup ∧
        ∀ method ∈ methods, method.methodName ∉ taken := by
  induction methods generalizing taken with
  | nil => simp [firstCollision?]
  | cons first rest ih =>
    by_cases collides : first.methodName ∈ taken
    · simp [firstCollision?, collides]
    · have step : firstCollision? taken (first :: rest) =
          firstCollision? (first.methodName :: taken) rest := by
        simp [firstCollision?, collides]
      rw [step, ih, List.map_cons, List.nodup_cons, List.forall_mem_cons]
      simp only [List.mem_cons, not_or, List.mem_map, not_exists, not_and]
      constructor
      · rintro ⟨distinct, apart⟩
        exact ⟨⟨fun method member => (apart method member).1, distinct⟩, collides,
          fun method member => (apart method member).2⟩
      · rintro ⟨⟨different, distinct⟩, -, apart⟩
        exact ⟨distinct, fun method member => ⟨different method member, apart method member⟩⟩

-- The names of the search so far are `taken` and those before the method that is found.
theorem firstCollision?_eq_some {method : Method}
    (found : firstCollision? taken methods = some method) :
    ∃ before after, methods = before ++ method :: after ∧
      firstCollision? taken before = none ∧
      (method.methodName ∈ taken ∨ method.methodName ∈ before.map Method.methodName) := by
  induction methods generalizing taken with
  | nil => cases found
  | cons first rest ih =>
    by_cases collides : first.methodName ∈ taken
    · have same : first = method := by simpa [firstCollision?, collides] using found
      exact ⟨[], rest, by rw [same]; rfl, rfl, .inl (same ▸ collides)⟩
    · have later : firstCollision? (first.methodName :: taken) rest = some method := by
        simpa [firstCollision?, collides] using found
      obtain ⟨before, after, rfl, distinct, repeated⟩ := ih _ later
      refine ⟨first :: before, after, rfl, ?_, ?_⟩
      · simpa [firstCollision?, collides] using distinct
      · rw [List.mem_cons] at repeated
        rw [List.map_cons, List.mem_cons]
        tauto

end Search

section Admission

variable {policy : OverloadPolicy} {functions : List FunctionEntry} {methods : List Method}

theorem firstRepeated?_eq_none_iff :
    firstRepeated? functions = none ↔ (functions.map FunctionEntry.name).Nodup := by
  simp only [firstRepeated?, List.find?_eq_none, decide_eq_true_eq, Nat.not_lt,
    List.nodup_iff_count_le_one]
  constructor
  · intro bounded name
    by_cases present : name ∈ functions.map FunctionEntry.name
    · obtain ⟨function, member, rfl⟩ := List.mem_map.mp present
      exact bounded function member
    · rw [List.count_eq_zero_of_not_mem present]
      exact Nat.zero_le 1
  · intro bounded function _
    exact bounded function.name

theorem checkRepeated_eq_ok_iff :
    checkRepeated policy functions = .ok () ↔
      (policy = .reject → (functions.map FunctionEntry.name).Nodup) := by
  rw [← firstRepeated?_eq_none_iff]
  unfold checkRepeated
  cases policy <;> cases firstRepeated? functions <;> simp

theorem checkCollision_eq_ok_iff :
    checkCollision policy methods = .ok () ↔
      (policy = .mangle → (methods.map Method.methodName).Nodup) := by
  have search : firstCollision? [] methods = none ↔ (methods.map Method.methodName).Nodup := by
    simp [firstCollision?_eq_none_iff]
  rw [← search]
  unfold checkCollision
  cases policy <;> cases firstCollision? [] methods <;> simp

/-- A policy admits functions exactly when names differ where it asks for it. -/
theorem exists_group_eq_ok_iff :
    (∃ methods, (group policy functions).result = .ok methods) ↔
      (policy = .reject → (functions.map FunctionEntry.name).Nodup) ∧
        (policy = .mangle → ((methodsOf policy functions).map Method.methodName).Nodup) := by
  rw [← checkRepeated_eq_ok_iff, ← checkCollision_eq_ok_iff]
  constructor
  · rintro ⟨methods, grouped⟩
    obtain ⟨unrepeated, distinct, -⟩ := group_eq_ok_iff.mp grouped
    exact ⟨unrepeated, distinct⟩
  · rintro ⟨unrepeated, distinct⟩
    exact ⟨_, group_eq_ok_iff.mpr ⟨unrepeated, distinct, rfl⟩⟩

end Admission

section Mangle

variable {functions : List FunctionEntry}

theorem result_group_mangle :
    (group .mangle functions).result =
      match firstCollision? [] (methodsOf .mangle functions) with
      | some method => .error (.nameCollision method.methodName method.signature)
      | none => .ok (methodsOf .mangle functions) := by
  have unrepeated : checkRepeated .mangle functions = .ok () := rfl
  rw [result_group, unrepeated]
  unfold checkCollision
  cases firstCollision? [] (methodsOf .mangle functions) <;> rfl

theorem firstCollision?_methodsOf_eq_none_iff :
    firstCollision? [] (methodsOf .mangle functions) = none ↔
      ¬ DeclaresNumbered (functions.map FunctionEntry.name) := by
  rw [firstCollision?_eq_none_iff, methodsOf, methodNames_numberFunctions, nodup_mangled_iff]
  simp

/-- Numbering succeeds exactly when no numbered name is declared; then all names differ, and
otherwise the first method is named whose name an earlier one has. -/
theorem group_mangle_distinct (functions : List FunctionEntry) :
    ((∃ methods, (group .mangle functions).result = .ok methods) ↔
      ¬ DeclaresNumbered (functions.map FunctionEntry.name)) ∧
    (∀ methods, (group .mangle functions).result = .ok methods →
      (methods.map Method.methodName).Nodup) ∧
    (∀ error, (group .mangle functions).result = .error error →
      ∃ before method after, methodsOf .mangle functions = before ++ method :: after ∧
        (before.map Method.methodName).Nodup ∧
        method.methodName ∈ before.map Method.methodName ∧
        error = .nameCollision method.methodName method.signature ∧
        error.message = "Method name collision: '" ++ method.methodName ++ "' (from " ++
          method.signature ++ ") is already declared") := by
  rw [← firstCollision?_methodsOf_eq_none_iff, result_group_mangle]
  cases found : firstCollision? [] (methodsOf .mangle functions) with
  | none =>
    refine ⟨⟨fun _ => rfl, fun _ => ⟨_, rfl⟩⟩, ?_, ?_⟩
    · intro methods grouped
      cases grouped
      exact ((firstCollision?_eq_none_iff []).mp found).1
    · intro error failed
      cases failed
  | some method =>
    refine ⟨⟨?_, ?_⟩, ?_, ?_⟩
    · rintro ⟨methods, grouped⟩
      cases grouped
    · intro absent
      cases absent
    · intro methods grouped
      cases grouped
    · intro error failed
      cases failed
      obtain ⟨before, after, split, distinct, repeated⟩ := firstCollision?_eq_some [] found
      have earlier := repeated.resolve_left List.not_mem_nil
      exact ⟨before, method, after, split, ((firstCollision?_eq_none_iff []).mp distinct).1,
        earlier, rfl, rfl⟩

end Mangle

end ContractWrapper
