import AntiForgery.Text.Blank

/-!
# What trimming leaves of a text

Trimming takes white space off both ends until neither end is white space, and a text has but one such
middle.
-/

namespace AntiForgery
namespace Text

/-- The middle of a text, with nothing but white space around it and none at its ends. -/
structure Trims (chars middle : List Char) : Prop where
  within : ∃ front back,
    chars = front ++ (middle ++ back) ∧
      (∀ char ∈ front, isBlank char = true) ∧
      ∀ char ∈ back, isBlank char = true
  first : ∀ char ∈ middle.head?, isBlank char = false
  last : ∀ char ∈ middle.getLast?, isBlank char = false

theorem dropWhile_blank_append
    {front rest : List Char}
    (blank : ∀ char ∈ front, isBlank char = true)
    (solid : ∀ char ∈ rest.head?, isBlank char = false) :
    (front ++ rest).dropWhile isBlank = rest := by
  rw [List.dropWhile_append_of_pos blank]
  cases rest with
  | nil => rfl
  | cons char rest => rw [List.dropWhile_cons, solid char rfl, if_neg Bool.false_ne_true]

/-- What is left between the blanks is determined by the text. -/
theorem eq_trimChars {chars middle : List Char} (trims : Trims chars middle) :
    middle = trimChars chars := by
  obtain ⟨⟨front, back, rfl, blankFront, blankBack⟩, first, last⟩ := trims
  cases middle with
  | nil =>
      have blank : ∀ char ∈ front ++ back, isBlank char = true := fun char inside =>
        (List.mem_append.mp inside).elim (blankFront char) (blankBack char)
      have nothing : (front ++ back ++ []).dropWhile isBlank = [] :=
        dropWhile_blank_append blank (by simp)
      rw [List.append_nil] at nothing
      rw [trimChars, List.nil_append, nothing]
      rfl
  | cons char middle =>
      have atFront : (front ++ (char :: middle ++ back)).dropWhile isBlank =
          char :: middle ++ back :=
        dropWhile_blank_append blankFront first
      have atBack : (char :: middle ++ back).reverse.dropWhile isBlank =
          (char :: middle).reverse := by
        rw [List.reverse_append]
        apply dropWhile_blank_append
        · simpa using blankBack
        · rw [List.head?_reverse]
          exact last
      rw [trimChars, atFront, atBack, List.reverse_reverse]

theorem isBlank_of_mem_takeWhile {chars : List Char} :
    ∀ char ∈ chars.takeWhile isBlank, isBlank char = true :=
  List.all_eq_true.mp List.all_takeWhile

theorem isBlank_head?_dropWhile (chars : List Char) :
    ∀ char ∈ (chars.dropWhile isBlank).head?, isBlank char = false := by
  intro char first
  have solid := List.head?_dropWhile_not isBlank chars
  rw [Option.mem_def.mp first] at solid
  exact solid

/-- To trim a text is to leave out the blanks at its ends. -/
theorem trims_trimChars (chars : List Char) : Trims chars (trimChars chars) := by
  have front := List.takeWhile_append_dropWhile (p := isBlank) (l := chars)
  have back : trimChars chars ++
      ((chars.dropWhile isBlank).reverse.takeWhile isBlank).reverse = chars.dropWhile isBlank := by
    rw [trimChars, ← List.reverse_append, List.takeWhile_append_dropWhile, List.reverse_reverse]
  refine ⟨⟨chars.takeWhile isBlank,
    ((chars.dropWhile isBlank).reverse.takeWhile isBlank).reverse,
    ?_, isBlank_of_mem_takeWhile, ?_⟩, ?_, ?_⟩
  · rw [back, front]
  · intro char inside
    exact isBlank_of_mem_takeWhile char (List.mem_reverse.mp inside)
  · intro char first
    apply isBlank_head?_dropWhile chars char
    rw [← back, List.head?_append, Option.mem_def.mp first]
    rfl
  · rw [trimChars, List.getLast?_reverse]
    exact isBlank_head?_dropWhile (chars.dropWhile isBlank).reverse

/-- Trimming leaves the middle of a text. -/
theorem trims_iff {chars middle : List Char} : Trims chars middle ↔ middle = trimChars chars := by
  constructor
  · exact eq_trimChars
  · rintro rfl
    exact trims_trimChars chars

/-- Nothing is left to trim of what trimming leaves. -/
theorem trims_self_of_trims {chars middle : List Char} (trims : Trims chars middle) :
    Trims middle middle where
  within := ⟨[], [], by simp, by simp, by simp⟩
  first := trims.first
  last := trims.last

/-- What trimming leaves was there before. -/
theorem Trims.mem {chars middle : List Char} (trims : Trims chars middle) :
    ∀ char ∈ middle, char ∈ chars := by
  obtain ⟨front, back, rfl, _, _⟩ := trims.within
  intro char inside
  exact List.mem_append_right front (List.mem_append_left back inside)

end Text
end AntiForgery
