/-! Placeholder names for unnamed inputs.

A placeholder is a stem followed by a number. Numbers are handed out in rising order, and
those that would repeat a declared name are left out.
-/

set_option autoImplicit false

namespace ContractWrapper

structure PlaceholderSupply where
  stem : String
  declared : List String
  next : Nat
  deriving DecidableEq, Repr

def numbered (stem : String) (n : Nat) : String :=
  stem ++ toString n

theorem numbered_injective (stem : String) {m n : Nat} (same : numbered stem m = numbered stem n) :
    m = n := by
  have digits : Nat.toDigits 10 m = Nat.toDigits 10 n := by
    simpa [numbered, Nat.toString_eq_ofList_toDigits] using congrArg String.toList same
  simpa using congrArg (Nat.ofDigitChars 10 · 0) digits

/-- The first number from `start` on that gives no declared name, if it is found within
`steps` numbers. -/
def firstFree? (stem : String) (declared : List String) : Nat → Nat → Option Nat
  | 0, _ => none
  | steps + 1, start =>
    if declared.contains (numbered stem start) then firstFree? stem declared steps (start + 1)
    else some start

-- A smaller number decides nothing about the numbers after it.
theorem firstFree?_erase (stem : String) (declared : List String) (steps : Nat) {n start : Nat}
    (passed : n < start) :
    firstFree? stem (declared.erase (numbered stem n)) steps start =
      firstFree? stem declared steps start := by
  induction steps generalizing start with
  | zero => rfl
  | succ steps ih =>
    have different : numbered stem start ≠ numbered stem n := fun same =>
      Nat.ne_of_gt passed (numbered_injective stem same)
    simp [firstFree?, List.mem_erase_of_ne different, ih (Nat.lt_succ_of_lt passed)]

-- There are not enough declared names to take more numbers than there are of them.
theorem isSome_firstFree? (stem : String) {declared : List String} {steps : Nat} (start : Nat)
    (enough : declared.length < steps) : (firstFree? stem declared steps start).isSome := by
  induction steps generalizing declared start with
  | zero => exact absurd enough (Nat.not_lt_zero _)
  | succ steps ih =>
    by_cases taken : numbered stem start ∈ declared
    · have fewer : (declared.erase (numbered stem start)).length < steps := by
        have := List.length_pos_of_mem taken
        rw [List.length_erase_of_mem taken]
        omega
      have found := ih (start + 1) fewer
      rw [firstFree?_erase stem declared steps (Nat.lt_succ_self start)] at found
      simpa [firstFree?, taken] using found
    · simp [firstFree?, taken]

namespace PlaceholderSupply

/-- A supply that has handed out nothing yet. Empty names declare nothing. -/
def fresh (stem : String) (declared : List String) : PlaceholderSupply :=
  ⟨stem, declared.filter (· ≠ ""), 0⟩

/-- One number more than there are declared names always contains a free one, so that the
default is never taken. -/
def draw (supply : PlaceholderSupply) : String × PlaceholderSupply :=
  let number :=
    (firstFree? supply.stem supply.declared (supply.declared.length + 1) supply.next).getD
      supply.next
  (numbered supply.stem number, { supply with next := number + 1 })

/-- A name that exists is kept; the empty name takes a placeholder. -/
def allocate (supply : PlaceholderSupply) (name : String) : String × PlaceholderSupply :=
  if name == "" then supply.draw else (name, supply)

def reset (supply : PlaceholderSupply) : PlaceholderSupply :=
  { supply with next := 0 }

def allocateAll (supply : PlaceholderSupply) : List String → List String
  | [] => []
  | name :: rest =>
    let (allocated, later) := supply.allocate name
    allocated :: later.allocateAll rest

theorem length_allocateAll (supply : PlaceholderSupply) (names : List String) :
    (supply.allocateAll names).length = names.length := by
  induction names generalizing supply with
  | nil => rfl
  | cons name rest ih => simp [allocateAll, ih]

end PlaceholderSupply

end ContractWrapper
