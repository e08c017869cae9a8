/-!
# Pieces of a text

Cutting a list at a separator and joining pieces with it.  `join_pieces` says that joining undoes
cutting, and `not_mem_of_mem_pieces` that no piece holds the separator.
-/

namespace AntiForgery
namespace Text

/-- The pieces between the separators; there is one more of them than there are separators. -/
def pieces [DecidableEq α] (separator : α) : List α → List (List α)
  | [] => [[]]
  | element :: rest =>
      if element = separator then [] :: pieces separator rest
      else
        match pieces separator rest with
        | [] => [[element]]
        | piece :: others => (element :: piece) :: others

/-- Pieces with the separator between them. -/
def join (separator : α) : List (List α) → List α
  | [] => []
  | [piece] => piece
  | piece :: others => piece ++ separator :: join separator others

theorem pieces_ne_nil [DecidableEq α] (separator : α) (elements : List α) :
    pieces separator elements ≠ [] := by
  cases elements with
  | nil => simp [pieces]
  | cons element rest =>
      simp only [pieces]
      split
      · simp
      · split <;> simp

/-- No piece holds the separator. -/
theorem not_mem_of_mem_pieces [DecidableEq α] {separator : α} {elements piece : List α}
    (member : piece ∈ pieces separator elements) : separator ∉ piece := by
  induction elements generalizing piece with
  | nil => simp_all [pieces]
  | cons element rest ih =>
      simp only [pieces] at member
      split at member
      · rcases List.mem_cons.mp member with rfl | member
        · simp
        · exact ih member
      · next other =>
          cases cut : pieces separator rest with
          | nil => exact absurd cut (pieces_ne_nil separator rest)
          | cons first others =>
              rw [cut] at member ih
              rcases List.mem_cons.mp member with rfl | member
              · simp only [List.mem_cons, not_or]
                exact ⟨fun equal => other equal.symm, ih List.mem_cons_self⟩
              · exact ih (List.mem_cons_of_mem _ member)

/-- Without a separator there is nothing to cut. -/
theorem pieces_of_not_mem [DecidableEq α] {separator : α} {elements : List α}
    (absent : separator ∉ elements) : pieces separator elements = [elements] := by
  induction elements with
  | nil => rfl
  | cons element rest ih =>
      rw [List.mem_cons, not_or] at absent
      rw [pieces, if_neg fun equal => absent.1 equal.symm, ih absent.2]

/-- What stands in front of the first separator is the first piece. -/
theorem pieces_append_cons [DecidableEq α] {separator : α} {part : List α}
    (absent : separator ∉ part) (rest : List α) :
    pieces separator (part ++ separator :: rest) = part :: pieces separator rest := by
  induction part with
  | nil => rw [List.nil_append, pieces, if_pos rfl]
  | cons element part ih =>
      rw [List.mem_cons, not_or] at absent
      rw [List.cons_append, pieces, if_neg fun equal => absent.1 equal.symm, ih absent.2]

/-- Cutting undoes joining, unless a part holds the separator. -/
theorem pieces_join [DecidableEq α] {separator : α} {parts : List (List α)} (filled : parts ≠ [])
    (whole : ∀ part ∈ parts, separator ∉ part) :
    pieces separator (join separator parts) = parts := by
  induction parts with
  | nil => exact absurd rfl filled
  | cons part others ih =>
      have absent := whole part List.mem_cons_self
      cases others with
      | nil => exact pieces_of_not_mem absent
      | cons other others =>
          have rest := ih (by simp) fun part member => whole part (List.mem_cons_of_mem _ member)
          rw [join, pieces_append_cons absent, rest]
          simp

/-- Joining undoes cutting. -/
theorem join_pieces [DecidableEq α] (separator : α) (elements : List α) :
    join separator (pieces separator elements) = elements := by
  induction elements with
  | nil => rfl
  | cons element rest ih =>
      simp only [pieces]
      cases cut : pieces separator rest with
      | nil => exact absurd cut (pieces_ne_nil separator rest)
      | cons piece others =>
          rw [cut] at ih
          split
          · next equal =>
              simp only [join, List.nil_append]
              rw [ih, equal]
          · cases others with
            | nil => simpa [join] using ih
            | cons other others =>
                simp only [join, List.cons_append] at ih ⊢
                rw [ih]

end Text
end AntiForgery
