import Mathlib.Data.List.Forall2

/-! Lists that are related element by element. -/

set_option autoImplicit false

namespace ContractWrapper

variable {α β γ : Type} {relation : α → β → Prop} {left : List α} {right : List β}

theorem exists_of_mem_right (related : List.Forall₂ relation left right) {b : β}
    (member : b ∈ right) : ∃ a ∈ left, relation a b := by
  induction related with
  | nil => cases member
  | cons first _ ih =>
    rcases List.mem_cons.mp member with rfl | later
    · exact ⟨_, List.mem_cons_self, first⟩
    · obtain ⟨a, present, holds⟩ := ih later
      exact ⟨a, List.mem_cons_of_mem _ present, holds⟩

theorem map_eq_map_of_forall₂ {f : α → γ} {g : β → γ}
    (related : List.Forall₂ relation left right)
    (same : ∀ a b, relation a b → f a = g b) : left.map f = right.map g := by
  induction related with
  | nil => rfl
  | cons here _ ih => rw [List.map_cons, List.map_cons, same _ _ here, ih]

theorem forall₂_eq_map_iff {f : α → β} :
    List.Forall₂ (fun a b => f a = b) left right ↔ left.map f = right := by
  rw [← List.forall₂_map_left_iff, List.forall₂_eq_eq_eq]

theorem forall₂_comp {other : β → γ → Prop} {last : List γ}
    (first : List.Forall₂ relation left right) (second : List.Forall₂ other right last) :
    List.Forall₂ (fun a c => ∃ b, relation a b ∧ other b c) left last := by
  induction first generalizing last with
  | nil =>
    cases second
    exact .nil
  | cons here _ ih =>
    cases second with
    | cons there later => exact .cons ⟨_, here, there⟩ (ih later)

/-- A list has a related one exactly if each of its elements has a partner. -/
theorem exists_forall₂_iff :
    (∃ right, List.Forall₂ relation left right) ↔ ∀ a ∈ left, ∃ b, relation a b := by
  induction left with
  | nil => simp
  | cons first rest ih =>
    rw [List.forall_mem_cons, ← ih]
    constructor
    · rintro ⟨_, _ | ⟨related, others⟩⟩
      exact ⟨⟨_, related⟩, _, others⟩
    · rintro ⟨⟨partner, related⟩, right, others⟩
      exact ⟨partner :: right, .cons related others⟩

/-- A traversal that succeeds relates each value to its result. -/
theorem forall₂_of_mapM {ε : Type} {step : α → Except ε β}
    (succeeded : left.mapM step = .ok right) :
    List.Forall₂ (fun value result => step value = .ok result) left right := by
  induction left generalizing right with
  | nil =>
    cases succeeded
    exact .nil
  | cons value rest ih =>
    rw [List.mapM_cons] at succeeded
    cases reached : step value with
    | error cause =>
      rw [reached] at succeeded
      cases succeeded
    | ok result =>
      rw [reached] at succeeded
      cases later : rest.mapM step with
      | error cause =>
        rw [later] at succeeded
        cases succeeded
      | ok results =>
        rw [later] at succeeded
        cases succeeded
        exact .cons reached (ih later)

/-- Two traversals of a list whose steps fail alike fail alike. Otherwise their results are two
views of one list. -/
theorem mapM_side_by_side {ε δ : Type} {first : α → Except ε β} {second : α → Except ε γ}
    {viewFirst : δ → β} {viewSecond : δ → γ} {relation : α → δ → Prop} {values : List α}
    (steps : ∀ value ∈ values,
      (∃ error, first value = .error error ∧ second value = .error error) ∨
        ∃ result, relation value result ∧ first value = .ok (viewFirst result) ∧
          second value = .ok (viewSecond result)) :
    (∃ error, values.mapM first = .error error ∧ values.mapM second = .error error) ∨
      ∃ results, List.Forall₂ relation values results ∧
        values.mapM first = .ok (results.map viewFirst) ∧
        values.mapM second = .ok (results.map viewSecond) := by
  induction values with
  | nil => exact .inr ⟨[], .nil, rfl, rfl⟩
  | cons value rest ih =>
    rw [List.mapM_cons, List.mapM_cons]
    obtain ⟨here, later⟩ := List.forall_mem_cons.mp steps
    obtain ⟨error, failed, alike⟩ | ⟨result, related, reached, alike⟩ := here
    · rw [failed, alike]
      exact .inl ⟨error, rfl, rfl⟩
    · rw [reached, alike]
      obtain ⟨error, failed, alike⟩ | ⟨results, others, reached, alike⟩ := ih later
      · rw [failed, alike]
        exact .inl ⟨error, rfl, rfl⟩
      · rw [reached, alike]
        exact .inr ⟨result :: results, .cons related others, rfl, rfl⟩

end ContractWrapper
