import AntiForgery.Json.Value
import AntiForgery.Proofs.Json.Record

/-!
# What readers of every kind agree on

An object of one string, as the service writes it, is read as that.  A reader that asks for a string finds
one exactly where a reader of every kind does.
-/

namespace AntiForgery
namespace Json

/-! ## Objects of one string -/

theorem readValue_quote (depth : Nat) (text : String) (rest : List UInt8) :
    readValue (depth + 1) (quote text ++ rest) = .ok (.text text, rest) := by
  have begun : next (quote text ++ rest) = .ok (quoteMark, (quote text).drop 1 ++ rest) :=
    next_cons (by decide) _
  rw [readValue, begun]
  simp only [bind, Except.bind, if_true, readText_quote]
  rfl

theorem readNamed_quote
    {value : Reader α}
    {encoded rest : List UInt8}
    {found : α}
    (reads : value encoded = .ok (found, rest))
    (name : String) :
    readNamed value (quote name ++ colon :: encoded) = .ok ((name, found), rest) := by
  rw [readNamed, readText_quote]
  simp only [bind, Except.bind, expect_cons (show isSpace colon = false by decide), reads]
  rfl

theorem readItems_last
    {item : Reader α}
    {encoded rest : List UInt8}
    {close : UInt8}
    (solid : isSpace close = false)
    {found : α}
    (reads : item encoded = .ok (found, close :: rest))
    (count : Nat) :
    readItems item close (count + 1) encoded = .ok ([found], rest) := by
  rw [readItems, reads]
  simp only [bind, Except.bind, next_cons solid, if_true]
  rfl

/-- An object of one string says that string under its name. -/
theorem decode?_object (name text : String) :
    decode? (openBrace :: (quote name ++ colon :: (quote text ++ [closeBrace]))) =
      some (.object [(name, .text text)]) := by
  let body := quote name ++ colon :: (quote text ++ [closeBrace])
  obtain ⟨tail, begun⟩ : ∃ tail, body = quoteMark :: tail := ⟨_, rfl⟩
  have named (depth : Nat) :
      readNamed (readValue (depth + 1)) body = .ok ((name, .text text), [closeBrace]) :=
    readNamed_quote (readValue_quote depth text [closeBrace]) name
  have members (depth : Nat) : readContainer (readNamed (readValue (depth + 1))) closeBrace body =
      .ok ([(name, .text text)], []) := by
    have items := readItems_last (by decide) (named depth) tail.length
    have opened : next body = .ok (quoteMark, tail) := by
      rw [begun]
      exact next_cons (by decide) tail
    have count : body.length = tail.length + 1 := by
      rw [begun, List.length_cons]
    rw [readContainer, opened, count]
    exact items
  have whole : readValue (openBrace :: body).length (openBrace :: body) =
      .ok (.object [(name, .text text)], []) := by
    rw [List.length_cons, begun, List.length_cons, ← begun, readValue, next_cons (by decide)]
    simp only [bind, Except.bind, members]
    rfl
  rw [decode?, whole]
  rfl

/-! ## Strings among the values -/

/-- None of the bare words is a text. -/
theorem text?_of_readWord {bytes rest : List UInt8} {value : Value}
    (read : readWord bytes = .ok (value, rest)) : value.text? = none := by
  rw [readWord] at read
  split at read
  · cases read
  · next found =>
      cases read
      obtain ⟨⟨word, own⟩, member, kept⟩ := List.exists_of_findSome?_eq_some found
      obtain ⟨_, _, same⟩ := Option.map_eq_some_iff.mp kept
      cases same
      have plain : ∀ entry ∈ wordValues, entry.2.text? = none := by
        simp [wordValues, Value.text?]
      exact plain _ member

/-- A value that begins with another mark is no string. -/
theorem text?_of_readValue
    {depth : Nat}
    {bytes rest left : List UInt8}
    {mark : UInt8}
    {value : Value}
    (begun : next bytes = .ok (mark, left))
    (other : mark ≠ quoteMark)
    (read : readValue depth bytes = .ok (value, rest)) :
    value.text? = none := by
  cases depth with
  | zero => cases read
  | succ depth =>
      rw [readValue, begun] at read
      simp only [bind, Except.bind, if_neg other] at read
      split at read
      · split at read
        · cases read
        · cases read
          rfl
      · split at read
        · split at read
          · cases read
          · cases read
            rfl
        · split at read
          · split at read
            · cases read
            · cases read
              rfl
          · exact text?_of_readWord read

/-- A text begins with a quotation mark. -/
theorem readText_of_next_ne
    {bytes left : List UInt8}
    {mark : UInt8}
    (begun : next bytes = .ok (mark, left))
    (other : mark ≠ quoteMark) :
    ∃ fault, readText bytes = .error fault := by
  rw [next] at begun
  split at begun
  · cases begun
  · next spaced =>
      cases begun
      exact ⟨refuse (mark :: left), by simp only [readText, spaced, if_neg other]⟩

theorem readText_of_next_error
    {bytes : List UInt8}
    {fault : Fault}
    (empty : next bytes = .error fault) :
    readText bytes = .error fault := by
  rw [next] at empty
  split at empty
  · next spaced =>
      cases empty
      simp only [readText, spaced]
  · cases empty

/-- Where a string is asked for, the strings among the values are found and nothing else. -/
theorem bind_text?_decode? (bytes : List UInt8) :
    (decode? bytes).bind Value.text? =
      match readText bytes with
      | .error _ => none
      | .ok (text, rest) => if (skipSpace rest).isEmpty then some text else none := by
  cases begun : next bytes with
  | error fault =>
      obtain ⟨other, unread⟩ : ∃ other, readValue bytes.length bytes = .error other := by
        cases bytes.length with
        | zero => exact ⟨_, rfl⟩
        | succ depth =>
            rw [readValue, begun]
            exact ⟨_, rfl⟩
      rw [readText_of_next_error begun, decode?, unread]
      rfl
  | ok found =>
      obtain ⟨mark, left⟩ := found
      by_cases quoted : mark = quoteMark
      · subst quoted
        obtain ⟨depth, filled⟩ : ∃ depth, bytes.length = depth + 1 := by
          cases bytes with
          | nil => cases begun
          | cons byte others => exact ⟨others.length, rfl⟩
        rw [decode?, filled, readValue, begun]
        simp only [bind, Except.bind, if_true]
        cases readText bytes with
        | error fault => rfl
        | ok read =>
            obtain ⟨text, rest⟩ := read
            simp only [pure, Except.pure]
            split <;> rfl
      · obtain ⟨fault, refused⟩ := readText_of_next_ne begun quoted
        rw [refused, decode?]
        cases read : readValue bytes.length bytes with
        | error fault => rfl
        | ok found =>
            obtain ⟨value, rest⟩ := found
            have plain := text?_of_readValue begun quoted read
            dsimp only
            split
            · exact plain
            · rfl

end Json
end AntiForgery
