import ContractWrapper.Proofs.Text.Reading
import ContractWrapper.Text.Casing
import Mathlib

/-! What becomes of letters in Pascal case.

Blanks separate words and belong to none. All other characters are kept in their order, and no more
than their case is changed. Words of letters are found again behind their capitals. The library is
imported as a whole, because no single file of it brings in what is known of the case of characters.
-/

set_option autoImplicit false

namespace ContractWrapper.Text

section Segments

theorem exists_segments_cons (c : Char) (rest : List Char) :
    ∃ segment others, segments (c :: rest) = (c :: segment) :: others := by
  cases rest with
  | nil => exact ⟨[], [], rfl⟩
  | cons next later =>
    unfold segments
    cases segments (next :: later) with
    | nil => exact ⟨[], [], rfl⟩
    | cons segment others =>
      by_cases ends : endsWord c next later.head? = true
      · exact ⟨[], segment :: others, by simp [ends]⟩
      · exact ⟨segment, others, by simp [ends]⟩

theorem segments_cons_cons {c next : Char} {later segment : List Char} {others : List (List Char)}
    (cut : segments (next :: later) = segment :: others) :
    segments (c :: next :: later) =
      if endsWord c next later.head? then [c] :: segment :: others
      else (c :: segment) :: others := by
  rw [segments.eq_def]
  simp only [cut]

/-- A segment is a blank alone, or it holds something and no blank. -/
theorem blank_or_word {text segment : List Char} (member : segment ∈ segments text) :
    segment = [' '] ∨ segment ≠ [] ∧ ' ' ∉ segment := by
  have single (c : Char) : [c] = [' '] ∨ [c] ≠ [] ∧ ' ' ∉ [c] := by
    by_cases blank : c = ' '
    · exact .inl (by rw [blank])
    · exact .inr ⟨by simp, by simpa using Ne.symm blank⟩
  induction text generalizing segment with
  | nil => cases member
  | cons c rest ih =>
    cases rest with
    | nil =>
      cases List.mem_singleton.mp member
      exact single c
    | cons next later =>
      obtain ⟨word, others, cut⟩ := exists_segments_cons next later
      rw [segments_cons_cons cut] at member
      rw [cut] at ih
      by_cases ends : endsWord c next later.head? = true
      · rw [if_pos ends] at member
        rcases List.mem_cons.mp member with rfl | later
        · exact single c
        · exact ih later
      · rw [if_neg ends] at member
        rcases List.mem_cons.mp member with rfl | later
        · -- Where no word ends, neither of the two characters is a blank.
          have joined : c ≠ ' ' ∧ next ≠ ' ' := by
            simp only [endsWord, Bool.or_eq_true, not_or, beq_iff_eq] at ends
            exact ⟨ends.1.1.1.1.1, ends.1.1.1.1.2⟩
          rcases ih List.mem_cons_self with blank | ⟨-, free⟩
          · cases blank
            exact absurd rfl joined.2
          · exact .inr ⟨by simp, List.not_mem_cons_of_ne_of_not_mem (Ne.symm joined.1) free⟩
        · exact ih (List.mem_cons_of_mem _ later)

end Segments

section Words

theorem flatten_filter_blanks {segments : List (List Char)}
    (every : ∀ segment ∈ segments, segment = [' '] ∨ ' ' ∉ segment) :
    (segments.filter (· ≠ [' '])).flatten = segments.flatten.filter (· ≠ ' ') := by
  induction segments with
  | nil => rfl
  | cons segment others ih =>
    obtain ⟨here, later⟩ := List.forall_mem_cons.mp every
    rw [List.flatten_cons, List.filter_append, ← ih later]
    rcases here with rfl | free
    · simp
    · have word : segment ≠ [' '] := by
        rintro rfl
        exact free List.mem_cons_self
      have kept : segment.filter (· ≠ ' ') = segment := by
        apply List.filter_eq_self.mpr
        intro c member
        simpa using ne_of_mem_of_not_mem member free
      rw [kept]
      simp [word]

theorem flatten_words (text : List Char) : (words text).flatten = text.filter (· ≠ ' ') := by
  rw [words, flatten_filter_blanks, flatten_segments]
  intro segment member
  exact (blank_or_word member).imp_right And.right

theorem ne_nil_of_mem_words {text word : List Char} (member : word ∈ words text) : word ≠ [] := by
  obtain ⟨cut, proper⟩ := List.mem_filter.mp member
  rcases blank_or_word cut with blank | ⟨filled, -⟩
  · simp [blank] at proper
  · exact filled

end Words

section PascalCase

variable (text : List Char)

theorem map_toLower_capitalized (word : List Char) :
    (capitalized word).map Char.toLower = word.map Char.toLower := by
  cases word with
  | nil => rfl
  | cons first rest => simp [capitalized, Function.comp_def]

theorem map_toLower_flatMap_capitalized (words : List (List Char)) :
    (words.flatMap capitalized).map Char.toLower = words.flatten.map Char.toLower := by
  rw [List.map_flatMap, List.map_flatten]
  simp only [map_toLower_capitalized, List.flatMap_def]

theorem map_toLower_pascalCase :
    (pascalCase text).map Char.toLower = (text.filter (· ≠ ' ')).map Char.toLower := by
  rw [← flatten_words, pascalCase, map_toLower_flatMap_capitalized]

theorem head?_pascalCase :
    (pascalCase text).head? = (text.filter (· ≠ ' ')).head?.map Char.toUpper := by
  rw [← flatten_words, pascalCase]
  cases cut : words text with
  | nil => rfl
  | cons word others =>
    have filled : word ≠ [] := ne_nil_of_mem_words (cut ▸ List.mem_cons_self)
    cases word with
    | nil => exact absurd rfl filled
    | cons first rest => rfl

theorem isAlphanum_toLower (c : Char) : c.toLower.isAlphanum = c.isAlphanum := by
  by_cases upper : c.isUpper
  · simp [Char.isAlphanum, Char.isAlpha, upper]
  · rw [Char.toLower_eq_of_not_isUpper upper]

theorem isAlphanum_of_mem_pascalCase {text : List Char}
    (every : ∀ c ∈ text.filter (· ≠ ' '), c.isAlphanum = true) :
    ∀ c ∈ pascalCase text, c.isAlphanum = true := by
  intro c member
  have small : c.toLower ∈ (text.filter (· ≠ ' ')).map Char.toLower := by
    rw [← map_toLower_pascalCase]
    exact List.mem_map_of_mem member
  obtain ⟨d, present, same⟩ := List.mem_map.mp small
  rw [← isAlphanum_toLower, ← same, isAlphanum_toLower]
  exact every d present

end PascalCase

section Joining

/-- Words of letters, none of them empty. -/
def Lettered (words : List (List Char)) : Prop :=
  ∀ word ∈ words, word ≠ [] ∧ ∀ c ∈ word, c.isAlpha = true

variable {words others : List (List Char)}

theorem capitalized_map_toLower (word : List Char) :
    capitalized (word.map Char.toLower) = capitalized word := by
  cases word with
  | nil => rfl
  | cons first rest => simp [capitalized, Function.comp_def]

theorem flatMap_capitalized_map_toLower (words : List (List Char)) :
    (words.map (List.map Char.toLower)).flatMap capitalized = words.flatMap capitalized := by
  simp only [List.flatMap_map, capitalized_map_toLower]

theorem isUpper_of_head?_flatMap_capitalized (lettered : Lettered words) {c : Char}
    (head : (words.flatMap capitalized).head? = some c) : c.isUpper = true := by
  cases words with
  | nil => cases head
  | cons word later =>
    obtain ⟨filled, letters⟩ := lettered word List.mem_cons_self
    cases word with
    | nil => exact absurd rfl filled
    | cons first rest =>
      cases head
      rw [Char.isUpper_toUpper_eq_isAlpha]
      exact letters first List.mem_cons_self

-- Capitals that may follow are the marks at which a word ends, for no word holds one further on.
theorem capitalized_append_inj {word other rest remaining : List Char}
    (filled : word ≠ []) (otherFilled : other ≠ [])
    (large : ∀ c, rest.head? = some c → c.isUpper = true)
    (otherLarge : ∀ c, remaining.head? = some c → c.isUpper = true)
    (same : capitalized word ++ rest = capitalized other ++ remaining) :
    word.map Char.toLower = other.map Char.toLower ∧ rest = remaining := by
  cases word with
  | nil => exact absurd rfl filled
  | cons first tail =>
    cases other with
    | nil => exact absurd rfl otherFilled
    | cons second ending =>
      obtain ⟨heads, following⟩ := List.cons.inj same
      let capitals := (rest ++ remaining).filter Char.isUpper
      have small (text : List Char) : ∀ c ∈ text.map Char.toLower, c ∉ capitals := by
        intro c member capital
        obtain ⟨d, -, rfl⟩ := List.mem_map.mp member
        have upper := (List.mem_filter.mp capital).2
        rw [Char.isUpper_toLower_eq_false] at upper
        cases upper
      have stops : Stops capitals rest := fun c head =>
        List.mem_filter.mpr ⟨List.mem_append_left _ (List.mem_of_head? head), large c head⟩
      have otherStops : Stops capitals remaining := fun c head =>
        List.mem_filter.mpr ⟨List.mem_append_right _ (List.mem_of_head? head), otherLarge c head⟩
      obtain ⟨tails, remainders⟩ :=
        eq_of_append_stops (small tail) (small ending) stops otherStops following
      have letter : first.toLower = second.toLower := by
        rw [← Char.toLower_toUpper_eq_toLower, heads, Char.toLower_toUpper_eq_toLower]
      exact ⟨by rw [List.map_cons, List.map_cons, letter, tails], remainders⟩

theorem ne_nil_of_capitalized_append {word rest : List Char} (filled : word ≠ []) :
    capitalized word ++ rest ≠ [] := by
  cases word with
  | nil => exact absurd rfl filled
  | cons first tail => exact List.cons_ne_nil _ _

/-- Words of letters are found again in what they are joined to, up to their case. -/
theorem words_of_flatMap_capitalized (lettered : Lettered words) (otherLettered : Lettered others)
    (same : words.flatMap capitalized = others.flatMap capitalized) :
    words.map (List.map Char.toLower) = others.map (List.map Char.toLower) := by
  induction words generalizing others with
  | nil =>
    cases others with
    | nil => rfl
    | cons other others =>
      have filled := (otherLettered other List.mem_cons_self).1
      exact absurd same.symm (ne_nil_of_capitalized_append filled)
  | cons word words ih =>
    obtain ⟨⟨filled, -⟩, later⟩ := List.forall_mem_cons.mp lettered
    cases others with
    | nil => exact absurd same (ne_nil_of_capitalized_append filled)
    | cons other others =>
      obtain ⟨⟨otherFilled, -⟩, otherLater⟩ := List.forall_mem_cons.mp otherLettered
      obtain ⟨here, following⟩ := capitalized_append_inj filled otherFilled
        (fun _ => isUpper_of_head?_flatMap_capitalized later)
        (fun _ => isUpper_of_head?_flatMap_capitalized otherLater) same
      rw [List.map_cons, List.map_cons, here, ih later otherLater following]

/-- Letters come from letters, so a text that is cut into words and put in Pascal case as such
words are has been cut into words of letters. -/
theorem lettered_of_flatMap_capitalized (filled : ∀ word ∈ words, word ≠ [])
    (lettered : Lettered others) (same : words.flatMap capitalized = others.flatMap capitalized) :
    Lettered words := by
  intro word member
  refine ⟨filled word member, fun c inside => ?_⟩
  have small : c.toLower ∈ others.flatten.map Char.toLower := by
    rw [← map_toLower_flatMap_capitalized, ← same, map_toLower_flatMap_capitalized]
    exact List.mem_map_of_mem (List.mem_flatten_of_mem member inside)
  obtain ⟨d, present, equal⟩ := List.mem_map.mp small
  obtain ⟨other, otherMember, otherInside⟩ := List.mem_flatten.mp present
  rw [← Char.isAlpha_toLower_eq_isAlpha, ← equal, Char.isAlpha_toLower_eq_isAlpha]
  exact (lettered other otherMember).2 d otherInside

/-- A text becomes some words in Pascal case exactly if it is cut into them, in whatever case. -/
theorem pascalCase_eq_iff {text : List Char} (lettered : Lettered others) :
    pascalCase text = others.flatMap capitalized ↔
      (Text.words text).map (List.map Char.toLower) = others.map (List.map Char.toLower) := by
  constructor
  · intro same
    exact words_of_flatMap_capitalized
      (lettered_of_flatMap_capitalized (fun _ => ne_nil_of_mem_words) lettered same) lettered same
  · intro same
    rw [pascalCase, ← flatMap_capitalized_map_toLower, same, flatMap_capitalized_map_toLower]

end Joining

end ContractWrapper.Text
