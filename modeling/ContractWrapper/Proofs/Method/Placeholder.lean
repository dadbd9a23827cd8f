import ContractWrapper.Proofs.Method.Naming
import ContractWrapper.Settings
import Mathlib.Data.List.Forall2
import Mathlib.Data.Nat.Nth

/-! Placeholders in the order of their numbers.

A supply tries its numbers one after another and goes back to the first one only at a reset. Those
of the numbers passed since then that give no declared name are the placeholders handed out since
then, and so the next placeholder is the next smallest of such numbers.
-/

set_option autoImplicit false

namespace ContractWrapper

section Identifiers

theorem isIdentifierPart_of_mem_toDigits {n : Nat} {c : Char} (member : c ∈ Nat.toDigits 10 n) :
    isIdentifierPart c = true := by
  have digit : c.isDigit = true := Nat.isDigit_of_mem_toDigits (by decide) (by decide) member
  simp [isIdentifierPart, Char.isAlphanum, digit]

theorem toList_numbered (stem : String) (n : Nat) :
    (numbered stem n).toList = stem.toList ++ Nat.toDigits 10 n := by
  simp [numbered]

theorem isIdentifier_numbered {stem : String} (identifier : isIdentifier stem = true) (n : Nat) :
    isIdentifier (numbered stem n) = true := by
  unfold isIdentifier at identifier ⊢
  rw [toList_numbered]
  split at identifier
  · cases identifier
  · next first rest letters =>
    simp only [Bool.and_eq_true, List.all_eq_true] at identifier
    simp only [letters, List.cons_append, Bool.and_eq_true, List.all_eq_true, List.mem_append]
    refine ⟨identifier.1, ?_⟩
    rintro c (here | digit)
    · exact identifier.2 c here
    · exact isIdentifierPart_of_mem_toDigits digit

-- A placeholder ends in a digit, and no reserved word does.
theorem isReservedWord_numbered (stem : String) (n : Nat) :
    isReservedWord (numbered stem n) = false := by
  have wordless : ∀ word ∈ reservedWords,
      word.toList.getLast?.all (fun c => !c.isDigit) = true := by decide
  obtain ⟨digit, last⟩ : ∃ digit, (Nat.toDigits 10 n).getLast? = some digit :=
    Option.ne_none_iff_exists'.mp fun none =>
      Nat.toDigits_ne_nil (List.getLast?_eq_none_iff.mp none)
  have isDigit : digit.isDigit = true :=
    Nat.isDigit_of_mem_toDigits (by decide) (by decide) (List.mem_of_getLast? last)
  refine Bool.eq_false_iff.mpr fun reserved => ?_
  have member : numbered stem n ∈ reservedWords := by simpa [isReservedWord] using reserved
  have ending : (numbered stem n).toList.getLast? = some digit := by
    rw [toList_numbered, List.getLast?_append, last]
    rfl
  simpa [ending, isDigit] using wordless _ member

end Identifiers

namespace PlaceholderSupply

/-- From a number on, candidates are tried until one is free: where the search starts, how many
candidates are tried, and the one that is found. -/
inductive Tries (free : Nat → Prop) : Nat → Nat → Nat → Prop where
  | here {start : Nat} (isFree : free start) : Tries free start 1 start
  | later {start tries found : Nat} (taken : ¬ free start)
      (rest : Tries free (start + 1) tries found) : Tries free start (tries + 1) found

/-- A number gives a placeholder unless a declared name reads like it. -/
def IsFree (stem : String) (declared : List String) (n : Nat) : Prop :=
  numbered stem n ∉ declared

instance (stem : String) (declared : List String) : DecidablePred (IsFree stem declared) :=
  fun n => inferInstanceAs (Decidable (numbered stem n ∉ declared))

/-- What may be asked of a supply. -/
inductive Request where
  | allocate (name : String)
  | reset
  deriving DecidableEq, Repr

def serve (supply : PlaceholderSupply) : Request → PlaceholderSupply
  | .allocate name => (supply.allocate name).2
  | .reset => supply.reset

/-- The supply that a run of requests leaves behind. -/
def after (supply : PlaceholderSupply) (requests : List Request) : PlaceholderSupply :=
  requests.foldl serve supply

/-- The placeholders asked for since the last reset, or from the start if there is none. -/
def drawnSinceReset (requests : List Request) : Nat :=
  (requests.reverse.takeWhile (· ≠ .reset)).count (.allocate "")

section Search

variable {free : Nat → Prop} {start tries found : Nat}

theorem Tries.free_found (search : Tries free start tries found) : free found := by
  induction search with
  | here isFree => exact isFree
  | later taken rest ih => exact ih

theorem Tries.found_add_one (search : Tries free start tries found) :
    found + 1 = start + tries := by
  induction search with
  | here isFree => rfl
  | later taken rest ih => omega

theorem Tries.start_le (search : Tries free start tries found) : start ≤ found := by
  induction search with
  | here isFree => exact Nat.le_refl _
  | later taken rest ih => omega

theorem Tries.taken_of_lt (search : Tries free start tries found) {n : Nat} (lower : start ≤ n)
    (upper : n < found) : ¬ free n := by
  induction search with
  | here isFree => omega
  | @later start tries found taken rest ih =>
    by_cases first : n = start
    · rwa [first]
    · exact ih (by omega) upper

-- A search passes no free number, so that none is counted between its start and its end.
theorem Tries.count_found [DecidablePred free] (search : Tries free start tries found) :
    Nat.count free found = Nat.count free start := by
  induction search with
  | here isFree => rfl
  | later taken rest ih => rw [ih, Nat.count_succ, if_neg taken, Nat.add_zero]

theorem Tries.found_eq_nth [DecidablePred free] (search : Tries free start tries found) :
    found = Nat.nth free (Nat.count free start) := by
  rw [← search.count_found]
  exact (Nat.nth_count search.free_found).symm

variable {stem : String} {declared : List String}

-- Each number that is passed is taken by a declared name of its own.
theorem Tries.tries_le (search : Tries (IsFree stem declared) start tries found) :
    tries ≤ declared.toFinset.card + 1 := by
  have passed : (Finset.Ico start found).card ≤ declared.toFinset.card := by
    apply Finset.card_le_card_of_injOn (numbered stem)
    · intro n inside
      obtain ⟨lower, upper⟩ := Finset.mem_Ico.mp inside
      simpa [IsFree] using search.taken_of_lt lower upper
    · intro m _ n _ same
      exact numbered_injective stem same
  have last := search.found_add_one
  rw [Nat.card_Ico] at passed
  omega

theorem exists_tries_of_firstFree? {steps : Nat}
    (reached : firstFree? stem declared steps start = some found) :
    ∃ tries, Tries (IsFree stem declared) start tries found := by
  induction steps generalizing start with
  | zero => cases reached
  | succ steps ih =>
    by_cases taken : numbered stem start ∈ declared
    · obtain ⟨tries, rest⟩ := ih (by simpa [firstFree?, taken] using reached)
      exact ⟨tries + 1, .later (not_not_intro taken) rest⟩
    · have here : start = found := by simpa [firstFree?, taken] using reached
      exact ⟨1, here ▸ .here taken⟩

/-- A draw is a search that ends, and the number that it finds is passed. -/
theorem exists_tries_draw (supply : PlaceholderSupply) :
    ∃ tries found, Tries (IsFree supply.stem supply.declared) supply.next tries found ∧
      supply.draw = (numbered supply.stem found, { supply with next := found + 1 }) := by
  -- There are more steps than declared names, so that the default of a draw never counts.
  obtain ⟨found, reached⟩ := Option.isSome_iff_exists.mp
    (isSome_firstFree? supply.stem supply.next (Nat.lt_succ_self supply.declared.length))
  obtain ⟨tries, search⟩ := exists_tries_of_firstFree? reached
  exact ⟨tries, found, search, by simp [draw, reached]⟩

theorem draw_eq (supply : PlaceholderSupply) :
    ∃ n, supply.next ≤ n ∧ numbered supply.stem n ∉ supply.declared ∧
      supply.draw = (numbered supply.stem n, { supply with next := n + 1 }) := by
  obtain ⟨tries, n, search, drawn⟩ := supply.exists_tries_draw
  exact ⟨n, search.start_le, search.free_found, drawn⟩

theorem allocate_empty (supply : PlaceholderSupply) : supply.allocate "" = supply.draw := rfl

end Search

section Runs

theorem after_append (supply : PlaceholderSupply) (earlier : List Request) (request : Request) :
    supply.after (earlier ++ [request]) = (supply.after earlier).serve request := by
  simp [after]

theorem drawnSinceReset_append_reset (earlier : List Request) :
    drawnSinceReset (earlier ++ [.reset]) = 0 := by
  simp [drawnSinceReset]

theorem drawnSinceReset_append_allocate (earlier : List Request) (name : String) :
    drawnSinceReset (earlier ++ [.allocate name]) =
      drawnSinceReset earlier + if name = "" then 1 else 0 := by
  simp [drawnSinceReset, List.count_cons]

variable (stem : String) (declared : List String)

/-- A run changes nothing but the next number. The free numbers below that are the placeholders
handed out since the last reset. -/
theorem after_eq (requests : List Request) :
    ∃ next, (⟨stem, declared, 0⟩ : PlaceholderSupply).after requests = ⟨stem, declared, next⟩ ∧
      Nat.count (IsFree stem declared) next = drawnSinceReset requests := by
  induction requests using List.reverseRecOn with
  | nil => exact ⟨0, rfl, Nat.count_zero _⟩
  | append_singleton earlier request ih =>
    obtain ⟨next, reached, counted⟩ := ih
    rw [after_append, reached]
    cases request with
    | reset => exact ⟨0, rfl, by rw [drawnSinceReset_append_reset, Nat.count_zero]⟩
    | allocate name =>
      rw [drawnSinceReset_append_allocate, ← counted, serve]
      by_cases unnamed : name = ""
      · obtain ⟨tries, found, search, drawn⟩ := exists_tries_draw ⟨stem, declared, next⟩
        have search : Tries (IsFree stem declared) next tries found := search
        refine ⟨found + 1, ?_, ?_⟩
        · rw [unnamed, allocate_empty, drawn]
        · rw [Nat.count_succ, search.count_found, if_pos search.free_found, if_pos unnamed]
      · rw [allocate_of_ne_empty _ unnamed, if_neg unnamed]
        exact ⟨next, rfl, rfl⟩

-- No number reads like the empty name, which declares nothing.
theorem isFree_filter :
    IsFree stem (declared.filter (· ≠ "")) = IsFree stem declared := by
  funext n
  simp [IsFree, numbered_ne_empty]

/-- After any run the next placeholder has the number whose place among the free ones is the number
of placeholders handed out since the last reset. -/
theorem exists_tries_after (requests : List Request) :
    ∃ tries found, Tries (IsFree stem declared) ((fresh stem declared).after requests).next
        tries found ∧
      tries ≤ (declared.filter (· ≠ "")).toFinset.card + 1 ∧
      found = Nat.nth (IsFree stem declared) (drawnSinceReset requests) ∧
      ((fresh stem declared).after requests).allocate "" =
        (numbered stem found, { (fresh stem declared).after requests with next := found + 1 }) := by
  obtain ⟨next, reached, counted⟩ := after_eq stem (declared.filter (· ≠ "")) requests
  have reached : (fresh stem declared).after requests =
      ⟨stem, declared.filter (· ≠ ""), next⟩ := reached
  obtain ⟨tries, found, search, drawn⟩ :=
    exists_tries_draw ⟨stem, declared.filter (· ≠ ""), next⟩
  have search : Tries (IsFree stem (declared.filter (· ≠ ""))) next tries found := search
  rw [reached, allocate_empty, drawn, ← counted, ← isFree_filter]
  exact ⟨tries, found, search, search.tries_le, search.found_eq_nth, rfl⟩

end Runs

/-- What a supply gives for a name: the name itself, or a free placeholder from a number on. -/
inductive Gives (stem : String) (declared : List String) (next : Nat) :
    String → String → Prop where
  | kept {name : String} (named : name ≠ "") : Gives stem declared next name name
  | drawn {n : Nat} (later : next ≤ n) (free : numbered stem n ∉ declared) :
    Gives stem declared next "" (numbered stem n)

theorem Gives.mono {stem name given : String} {declared : List String} {next start : Nat}
    (gives : Gives stem declared next name given) (before : start ≤ next) :
    Gives stem declared start name given := by
  cases gives with
  | kept named => exact .kept named
  | drawn later free => exact .drawn (Nat.le_trans before later) free

theorem Gives.eq_of_ne_empty {stem name given : String} {declared : List String} {next : Nat}
    (gives : Gives stem declared next name given) (named : name ≠ "") : given = name := by
  cases gives with
  | kept => rfl
  | drawn => exact absurd rfl named

theorem gives_allocateAll (supply : PlaceholderSupply) (names : List String) :
    List.Forall₂ (Gives supply.stem supply.declared supply.next) names
      (supply.allocateAll names) := by
  induction names generalizing supply with
  | nil => exact .nil
  | cons name rest ih =>
    by_cases unnamed : name = ""
    · obtain ⟨n, later, free, drawn⟩ := supply.draw_eq
      have allocated : supply.allocate name = supply.draw := by simp [allocate, unnamed]
      rw [allocateAll, allocated, drawn, unnamed]
      refine .cons (.drawn later free) ((ih _).imp fun _ _ gives => gives.mono ?_)
      exact Nat.le_succ_of_le later
    · rw [allocateAll, supply.allocate_of_ne_empty unnamed]
      exact .cons (.kept unnamed) (ih supply)

/-- A placeholder differs from all other names that are given, before it and after it. -/
theorem pairwise_allocateAll (supply : PlaceholderSupply) (names : List String)
    (declared : ∀ name ∈ names, name ≠ "" → name ∈ supply.declared) :
    (names.zip (supply.allocateAll names)).Pairwise fun first second =>
      first.1 = "" ∨ second.1 = "" → first.2 ≠ second.2 := by
  induction names generalizing supply with
  | nil => exact .nil
  | cons name rest ih =>
    obtain ⟨here, declared⟩ := List.forall_mem_cons.mp declared
    by_cases unnamed : name = ""
    · obtain ⟨n, -, free, drawn⟩ := supply.draw_eq
      have allocated : supply.allocate name = supply.draw := by simp [allocate, unnamed]
      rw [allocateAll, allocated, drawn]
      refine .cons ?_ (ih { supply with next := n + 1 } declared)
      rintro ⟨other, given⟩ member -
      have gives := List.forall₂_zip (gives_allocateAll { supply with next := n + 1 } rest) member
      cases gives with
      | kept named =>
        have taken := declared other (List.of_mem_zip member).1 named
        rintro rfl
        exact free taken
      | @drawn m later =>
        intro same
        have later : n + 1 ≤ m := later
        have := numbered_injective supply.stem same
        omega
    · rw [allocateAll, supply.allocate_of_ne_empty unnamed]
      refine .cons ?_ (ih supply declared)
      rintro ⟨other, given⟩ member (absent | none)
      · exact absurd absent unnamed
      · have gives := List.forall₂_zip (gives_allocateAll supply rest) member
        cases gives with
        | kept named => exact absurd none named
        | drawn later free =>
          rintro rfl
          exact free (here unnamed)

end PlaceholderSupply

-- Two names that are given alike are both declared, for a placeholder is given only once.
theorem nodup_given_iff {declared given : List String} (length : given.length = declared.length)
    (kept : ∀ pair ∈ declared.zip given, pair.1 ≠ "" → pair.2 = pair.1)
    (unique : (declared.zip given).Pairwise fun first second =>
      first.1 = "" ∨ second.1 = "" → first.2 ≠ second.2) :
    given.Nodup ↔ (declared.filter (· ≠ "")).Nodup := by
  have givens : (declared.zip given).map Prod.snd = given := List.map_snd_zip (Nat.le_of_eq length)
  have names : (declared.zip given).map Prod.fst = declared :=
    List.map_fst_zip (Nat.le_of_eq length.symm)
  have left : given.Nodup ↔ (declared.zip given).Pairwise fun first second =>
      first.2 ≠ second.2 := by
    rw [← List.pairwise_map (f := Prod.snd), givens, List.nodup_iff_pairwise_ne]
  have right : (declared.filter (· ≠ "")).Nodup ↔ (declared.zip given).Pairwise
      fun first second => first.1 ≠ "" → second.1 ≠ "" → first.1 ≠ second.1 := by
    rw [← List.pairwise_map (f := Prod.fst) (R := fun first second =>
      first ≠ "" → second ≠ "" → first ≠ second), names, List.nodup_iff_pairwise_ne,
      List.pairwise_filter]
    simp
  rw [left, right]
  constructor
  · intro distinct
    refine distinct.imp_of_mem fun firstMember secondMember different firstNamed secondNamed => ?_
    rwa [kept _ firstMember firstNamed, kept _ secondMember secondNamed] at different
  · intro distinct
    refine (unique.and distinct).imp_of_mem ?_
    rintro first second firstMember secondMember ⟨apart, different⟩
    by_cases unnamed : first.1 = "" ∨ second.1 = ""
    · exact apart unnamed
    · obtain ⟨firstNamed, secondNamed⟩ := not_or.mp unnamed
      rw [kept first firstMember firstNamed, kept second secondMember secondNamed]
      exact different firstNamed secondNamed

section Inputs

variable {stem : String}

theorem not_mem_of_gives {declared : List String} {next : Nat} {name given : String}
    (gives : PlaceholderSupply.Gives stem (declared.filter (· ≠ "")) next name given)
    (unnamed : name = "") : given ∉ declared := by
  cases gives with
  | kept named => exact absurd unnamed named
  | drawn later free =>
    intro member
    exact free (List.mem_filter.mpr ⟨member, by simp [numbered_ne_empty]⟩)

theorem legal_of_gives {declared : List String} {next : Nat} {name given : String}
    (identifier : isIdentifier stem = true)
    (gives : PlaceholderSupply.Gives stem declared next name given) (unnamed : name = "") :
    isIdentifier given = true ∧ isReservedWord given = false := by
  cases gives with
  | kept named => exact absurd unnamed named
  | drawn later free =>
    exact ⟨isIdentifier_numbered identifier _, isReservedWord_numbered stem _⟩

theorem map_name_buildInputs (dialect : Dialect) (stem : String) (arguments : List Argument) :
    (buildInputs dialect stem arguments).arguments.map Argument.name =
      (PlaceholderSupply.fresh stem (arguments.map Argument.name)).allocateAll
        (arguments.map Argument.name) := by
  rw [← names_nameArguments]
  simp [buildInputs, Function.comp_def]

end Inputs

/-- A supply keeps names, and it hands out its placeholders in the order of their numbers: the next
one has the first number that gives no declared name, and the search for it is shorter than the
declared names allow. So placeholders differ from all other names of a parameter list, and they are
legal behind a legal stem. -/
theorem placeholders_first_fit (stem : String) :
    (∀ (declared : List String) (requests : List PlaceholderSupply.Request),
      let supply := (PlaceholderSupply.fresh stem declared).after requests
      (∀ name, name ≠ "" → supply.allocate name = (name, supply)) ∧
      ∃ tries found,
        PlaceholderSupply.Tries (PlaceholderSupply.IsFree stem declared) supply.next tries found ∧
        tries ≤ (declared.filter (· ≠ "")).toFinset.card + 1 ∧
        found = Nat.nth (PlaceholderSupply.IsFree stem declared)
          (PlaceholderSupply.drawnSinceReset requests) ∧
        supply.allocate "" = (numbered stem found, { supply with next := found + 1 })) ∧
    ∀ (dialect : Dialect) (arguments : List Argument),
      let declared := arguments.map Argument.name
      let names := (buildInputs dialect stem arguments).arguments.map Argument.name
      names.length = declared.length ∧
      (names.Nodup ↔ (declared.filter (· ≠ "")).Nodup) ∧
      (∀ pair ∈ declared.zip names, pair.1 = "" → pair.2 ∉ declared) ∧
      (Settings.checkName .placeholderStem stem = .ok () →
        ∀ pair ∈ declared.zip names, pair.1 = "" →
          isIdentifier pair.2 = true ∧ isReservedWord pair.2 = false) := by
  constructor
  · intro declared requests supply
    refine ⟨?_, PlaceholderSupply.exists_tries_after stem declared requests⟩
    intro name named
    exact supply.allocate_of_ne_empty named
  · intro dialect arguments declared names
    have allocated : names = (PlaceholderSupply.fresh stem declared).allocateAll declared :=
      map_name_buildInputs dialect stem arguments
    have length : names.length = declared.length := by
      rw [allocated, PlaceholderSupply.length_allocateAll]
    have gives := PlaceholderSupply.gives_allocateAll (.fresh stem declared) declared
    have unique := PlaceholderSupply.pairwise_allocateAll (.fresh stem declared) declared
      fun name member named => by simp [PlaceholderSupply.fresh, member, named]
    rw [← allocated] at gives unique
    refine ⟨length, ?distinct, ?apart, ?legal⟩
    case distinct =>
      apply nodup_given_iff length _ unique
      intro pair member named
      exact (List.forall₂_zip gives member).eq_of_ne_empty named
    case apart =>
      intro pair member
      exact not_mem_of_gives (List.forall₂_zip gives member)
    case legal =>
      intro checked pair member
      have identifier := ((Settings.checkName_eq_ok_iff _ _).mp checked).1
      exact legal_of_gives identifier (List.forall₂_zip gives member)

/-- Of `p0`, `p1` and `p2` the second one is declared, so that the second placeholder after a reset
is the third of them. An unnamed input before one that is named `p0` is named `p1`. -/
theorem placeholder_past_declared :
    ("y" ≠ "" ∧ ((PlaceholderSupply.fresh "p" ["p1"]).allocate "y").1 = "y") ∧
      PlaceholderSupply.drawnSinceReset [.allocate "", .reset, .allocate "", .allocate "y"] = 1 ∧
      numbered "p" (Nat.nth (PlaceholderSupply.IsFree "p" ["p1"]) 1) = "p2" ∧
      Settings.checkName .placeholderStem "p" = .ok () ∧
      (buildInputs .javaScript "p" [⟨"", "bool", none⟩, ⟨"p0", "bool", none⟩]).arguments.map
        Argument.name = ["p1", "p0"] ∧
      "p1" ∉ ["", "p0"] ∧ isIdentifier "p1" = true ∧ isReservedWord "p1" = false := by
  obtain ⟨runs, lists⟩ := placeholders_first_fit "p"
  obtain ⟨kept, tries, found, -, -, second, drawn⟩ := runs ["p1"]
    [.allocate "", .reset, .allocate "", .allocate "y"]
  obtain ⟨-, -, apart, legal⟩ := lists .javaScript [⟨"", "bool", none⟩, ⟨"p0", "bool", none⟩]
  have checked : Settings.checkName .placeholderStem "p" = .ok () := by decide
  have given : numbered "p" found = "p2" := (congrArg Prod.fst drawn).symm
  refine ⟨⟨by decide, congrArg Prod.fst (kept "y" (by decide))⟩, by decide, ?_, checked, rfl,
    apart ("", "p1") ?_ rfl, legal checked ("", "p1") ?_ rfl⟩
  · rw [← given, second]
    rfl
  · decide
  · decide

end ContractWrapper
