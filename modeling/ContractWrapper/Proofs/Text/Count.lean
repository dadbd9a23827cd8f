import ContractWrapper.Text.Layout
import Mathlib.Data.List.Basic

/-! Counts of what can end a comment, a string literal or a line.

Generated text consists of fixed text and of text from an interface. The fixed text is plain, which
means that nothing in it is counted and that nothing is counted across its ends. What is counted in
the whole is therefore counted in the parts that come from the interface.
-/

set_option autoImplicit false

namespace ContractWrapper.Text

/-- The characters that have a part in ending a comment, a string literal or a line. -/
def breakingCharacters : List Char :=
  ['*', '/', '"', '\\', '\n', '\r', '\u2028', '\u2029']

/-- The generator writes nothing but plain characters beside the frames of comments and literals. -/
def isPlain (c : Char) : Bool :=
  !breakingCharacters.contains c

def isPlainText (text : String) : Bool :=
  text.toList.all isPlain

/-- The number of places where two characters stand together. -/
def countPair (first second : Char) : List Char → Nat
  | x :: y :: rest =>
    (if x = first ∧ y = second then 1 else 0) + countPair first second (y :: rest)
  | _ => 0

/-- What is counted in several texts. -/
def total (count : List Char → Nat) : List String → Nat
  | [] => 0
  | text :: rest => count text.toList + total count rest

/-- The count adds up around each place where the character stands. -/
def Unseen (count : List Char → Nat) (c : Char) : Prop :=
  ∀ before after, count (before ++ c :: after) = count before + count after

/-- A count over texts that does not see plain characters. -/
structure AddsUp (count : List Char → Nat) : Prop where
  nil : count [] = 0
  plain : ∀ c, isPlain c = true → Unseen count c

theorem not_mem_of_isPlainText {text : String} (plain : isPlainText text = true) {c : Char}
    (seen : isPlain c = false) : c ∉ text.toList := by
  intro member
  rw [List.all_eq_true.mp plain c member] at seen
  cases seen

section Total

variable {count : List Char → Nat}

theorem total_append (texts others : List String) :
    total count (texts ++ others) = total count texts + total count others := by
  induction texts with
  | nil => simp [total]
  | cons text rest ih => simp [total, ih, Nat.add_assoc]

theorem total_eq_zero_iff {texts : List String} :
    total count texts = 0 ↔ ∀ text ∈ texts, count text.toList = 0 := by
  induction texts with
  | nil => simp [total]
  | cons text rest ih => rw [total, Nat.add_eq_zero_iff, ih, List.forall_mem_cons]

end Total

section Pairs

variable {first second : Char}

-- Two texts together may hold one pair more than each of them: across the place where they meet.
theorem countPair_append_of_head {before after : List Char} (apart : after.head? ≠ some second) :
    countPair first second (before ++ after) =
      countPair first second before + countPair first second after := by
  induction before with
  | nil => simp [countPair]
  | cons c before ih =>
    cases before with
    | nil =>
      cases after with
      | nil => simp [countPair]
      | cons next after =>
        have other : next ≠ second := by simpa using apart
        simp [countPair, other]
    | cons next before =>
      simp only [List.cons_append, countPair] at ih ⊢
      omega

theorem countPair_append_of_getLast {before after : List Char}
    (apart : before.getLast? ≠ some first) :
    countPair first second (before ++ after) =
      countPair first second before + countPair first second after := by
  induction before with
  | nil => simp [countPair]
  | cons c before ih =>
    cases before with
    | nil =>
      have other : c ≠ first := by simpa using apart
      cases after <;> simp [countPair, other]
    | cons next before =>
      have later : (next :: before).getLast? ≠ some first := by simpa using apart
      have joined := ih later
      simp only [List.cons_append, countPair] at joined ⊢
      omega

theorem countPair_eq_zero_iff {text : List Char} :
    countPair first second text = 0 ↔ ¬ [first, second] <:+: text := by
  fun_induction countPair first second text with
  | case1 x y rest ih =>
    rw [List.infix_cons_iff, not_or, ← ih]
    by_cases here : x = first ∧ y = second
    · obtain ⟨rfl, rfl⟩ := here
      simp
    · have : ¬ [first, second] <+: x :: y :: rest := by
        simpa [List.cons_prefix_cons, eq_comm] using here
      simp [here, this]
  | case2 text short =>
    have few : text.length < 2 := by
      rcases text with _ | ⟨x, _ | ⟨y, rest⟩⟩
      · decide
      · simp
      · exact absurd rfl (short x y rest)
    refine iff_of_true rfl fun inside => ?_
    have := inside.length_le
    simp at this
    omega

end Pairs

section Kinds

theorem unseen_count {c other : Char} (different : other ≠ c) : Unseen (List.count c) other := by
  intro before after
  rw [List.count_append, List.count_cons_of_ne different]

theorem unseen_countPair {first second other : Char} (notFirst : other ≠ first)
    (notSecond : other ≠ second) : Unseen (countPair first second) other := by
  intro before after
  have alone : [other].getLast? ≠ some first := by simpa using notFirst
  have opened : countPair first second ([other] ++ after) = countPair first second after := by
    rw [countPair_append_of_getLast alone]
    simp [countPair]
  rw [countPair_append_of_head (by simpa using notSecond)]
  exact congrArg (_ + ·) opened

theorem addsUp_count {c : Char} (seen : isPlain c = false) : AddsUp (List.count c) where
  nil := rfl
  plain other plain := unseen_count fun same => by simp [same, seen] at plain

theorem addsUp_countPair {first second : Char} (firstSeen : isPlain first = false)
    (secondSeen : isPlain second = false) : AddsUp (countPair first second) where
  nil := rfl
  plain other plain := unseen_countPair (fun same => by simp [same, firstSeen] at plain)
    (fun same => by simp [same, secondSeen] at plain)

end Kinds

namespace AddsUp

variable {count : List Char → Nat} (adds : AddsUp count) {fixed : String}
  (plain : isPlainText fixed = true)

include adds

theorem cons {c : Char} (unseen : Unseen count c) (text : List Char) :
    count (c :: text) = count text := by
  have := unseen [] text
  rwa [List.nil_append, adds.nil, Nat.zero_add] at this

include plain

theorem leading (after : String) : count (fixed ++ after).toList = count after.toList := by
  rw [String.toList_append]
  unfold isPlainText at plain
  generalize fixed.toList = letters at plain
  induction letters with
  | nil => rfl
  | cons c rest ih =>
    obtain ⟨here, later⟩ := Bool.and_eq_true_iff.mp plain
    rw [List.cons_append, adds.cons (adds.plain c here), ih later]

theorem eq_zero : count fixed.toList = 0 := by
  have := adds.leading plain ""
  rwa [String.append_empty, String.toList_empty, adds.nil] at this

/-- Plain text adds nothing between two other texts; it must be there, to keep them apart. -/
theorem between (some : fixed ≠ "") (before after : String) :
    count (before ++ fixed ++ after).toList = count before.toList + count after.toList := by
  cases letters : fixed.toList with
  | nil => exact absurd (String.toList_eq_nil_iff.mp letters) some
  | cons c rest =>
    have whole : (before ++ fixed ++ after).toList =
        before.toList ++ c :: (String.ofList rest ++ after).toList := by simp [letters]
    rw [isPlainText, letters, List.all_cons, Bool.and_eq_true] at plain
    rw [whole, adds.plain c plain.1, adds.leading (by simpa [isPlainText] using plain.2)]

theorem trailing (before : String) : count (before ++ fixed).toList = count before.toList := by
  by_cases none : fixed = ""
  · rw [none, String.append_empty]
  · have := adds.between plain none before ""
    rwa [String.append_empty, String.toList_empty, adds.nil, Nat.add_zero] at this

theorem intercalate (some : fixed ≠ "") (texts : List String) :
    count (fixed.intercalate texts).toList = total count texts := by
  induction texts with
  | nil => exact adds.nil
  | cons first rest ih =>
    cases rest with
    | nil => simp [total]
    | cons next rest =>
      rw [String.intercalate_cons_cons, adds.between plain some, ih]
      rfl

end AddsUp

theorem AddsUp.renderLines {count : List Char → Nat} (adds : AddsUp count)
    (lineFeed : Unseen count '\n') {indent : String}
    (plain : isPlainText indent = true) (lines : List Line) :
    count (renderLines indent lines).toList = total count (lines.map Line.text) := by
  have indented (depth : Nat) : isPlainText (indentation indent depth) = true := by
    induction depth with
    | zero => rfl
    | succ depth ih =>
      rw [isPlainText, indentation_succ, String.toList_append, List.all_append, Bool.and_eq_true]
      exact ⟨plain, ih⟩
  induction lines with
  | nil => exact adds.nil
  | cons line rest ih =>
    have written : (Text.renderLines indent (line :: rest)).toList =
        (indentation indent line.depth ++ line.text).toList ++
          '\n' :: (Text.renderLines indent rest).toList := by
      simp [Text.renderLines, Line.render]
    rw [written, lineFeed, adds.leading (indented line.depth), ih, List.map_cons, total]

end ContractWrapper.Text
