import Mathlib.Data.List.Basic

/-! Lists that are put in another order.

Elements that share a key keep their order; elements of different keys may change places. What
stands under one key is then the same list in both, and the lists are permutations of each other.
-/

set_option autoImplicit false

namespace ContractWrapper

variable {α β : Type} {key : α → String} {first second : List α}

/-- The same elements, and those of one key in the same order. -/
structure Reordered (key : α → String) (first second : List α) : Prop where
  perm : first.Perm second
  order : ∀ name, first.filter (key · == name) = second.filter (key · == name)

theorem Reordered.of_order
    (order : ∀ name, first.filter (key · == name) = second.filter (key · == name)) :
    Reordered key first second where
  perm := by
    classical
    refine List.perm_iff_count.mpr fun value => ?_
    -- A value is counted among the elements of its own key alone.
    have own (values : List α) :
        values.count value = (values.filter (key · == key value)).count value :=
      (List.count_filter (by simp)).symm
    rw [own first, own second, order]
  order := order

end ContractWrapper
