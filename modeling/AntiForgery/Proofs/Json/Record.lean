import AntiForgery.Json.Record
import AntiForgery.Proofs.Text.Utf8

/-!
# Records that are read back

An object of two members, written without white space, is read as the record of the two values, if
the reader of each field takes its value up to the mark behind it.  A string between quotes is a
text, and at most six times as long as the text that it stands for.
-/

namespace AntiForgery
namespace Json

/-! ## Strings -/

theorem escape_lt {byte : UInt8} (ascii : byte < 128) : ∀ letter ∈ escape byte, letter < 128 := by
  have cases : ∀ n : Fin 128, (escape (UInt8.ofNat n.val)).all (· < 128) = true := by
    decide +kernel
  have bound : byte.toNat < 128 := UInt8.lt_iff_toNat_lt.mp ascii
  simpa using cases ⟨byte.toNat, bound⟩

theorem escape_of_le {byte : UInt8} (high : 128 ≤ byte) : escape byte = [byte] := by
  have cases : ∀ n : Fin 256, 128 ≤ UInt8.ofNat n.val →
      escape (UInt8.ofNat n.val) = [UInt8.ofNat n.val] := by
    decide +kernel
  have known := cases ⟨byte.toNat, byte.toNat_lt⟩
  simp only [UInt8.ofNat_toNat] at known
  exact known high

/-- A byte takes six at the most when it is escaped. -/
theorem length_escape_le (byte : UInt8) : (escape byte).length ≤ 6 := by
  have cases : ∀ n : Fin 256, (escape (UInt8.ofNat n.val)).length ≤ 6 := by decide +kernel
  simpa using cases ⟨byte.toNat, byte.toNat_lt⟩

/-- A string is a text, since no escape cuts a character. -/
theorem isText_quote (text : String) : Text.IsText (quote text) := by
  have small : quoteMark < 128 := by decide
  have mark : Text.IsText [quoteMark] :=
    Text.isText_of_ascii fun _ member => List.mem_singleton.mp member ▸ small
  have content := Text.isText_flatMap (fun _ => escape_lt) (fun _ => escape_of_le) text
  exact mark.append (content.append mark)

theorem length_quote_le (text : String) : (quote text).length ≤ 6 * Text.byteCount text + 2 := by
  have content : ∀ bytes : List UInt8, (bytes.flatMap escape).length ≤ 6 * bytes.length := by
    intro bytes
    induction bytes with
    | nil => exact Nat.le_refl 0
    | cons byte rest ih =>
        have first := length_escape_le byte
        rw [List.flatMap_cons, List.length_append, List.length_cons]
        omega
  have whole := content (Text.utf8 text)
  simp only [quote, List.length_cons, List.length_append, List.length_nil, Text.byteCount]
  omega

/-! ## Objects of two members -/

/-- An object of two members without white space. -/
def object (firstName : String) (first : List UInt8) (secondName : String) (second : List UInt8) :
    List UInt8 :=
  openBrace :: (quote firstName ++ colon :: (first ++
    comma :: (quote secondName ++ colon :: (second ++ [closeBrace]))))

theorem next_cons {mark : UInt8} (solid : isSpace mark = false) (rest : List UInt8) :
    next (mark :: rest) = .ok (mark, rest) := by
  simp only [next, skipSpace, List.dropWhile_cons, solid, Bool.false_eq_true, if_false]

theorem expect_cons {mark : UInt8} (solid : isSpace mark = false) (rest : List UInt8) :
    expect mark (mark :: rest) = .ok rest := by
  simp only [expect, next_cons solid, bind, Except.bind, if_true]

/-- A text that is quoted is read back. -/
theorem readText_quote (text : String) (rest : List UInt8) :
    readText (quote text ++ rest) = .ok (text, rest) := by
  have read := unquote?_quote text rest
  have solid : isSpace quoteMark = false := by decide
  simp only [quote, List.drop_succ_cons, List.drop_zero] at read
  simp only [quote, List.cons_append, readText, skipSpace, List.dropWhile_cons, solid,
    Bool.false_eq_true, if_false, if_true, read]

theorem quote_inj {first second : String} : quote first = quote second ↔ first = second := by
  constructor
  · intro same
    have read := readText_quote first []
    rw [same, readText_quote] at read
    exact (congrArg Prod.fst (Except.ok.inj read)).symm
  · rintro rfl
    rfl

section Members

variable {first : Field α} {second : Field β} {fuel : Nat}

/-- A name in front of a member chooses how the member is read. -/
theorem readMembers_quote
    (count : Nat)
    (a : Option α)
    (b : Option β)
    (name : String)
    (rest : List UInt8) :
    readMembers first second fuel (count + 1) a b (quote name ++ rest) = (do
      let ((a, b), rest) ← readMember first second fuel name a b rest
      let (mark, rest) ← next rest
      if mark = comma then readMembers first second fuel count a b rest
      else if mark = closeBrace then return (← complete first second a b, rest)
      else .error .malformed) := by
  have read := unquote?_quote name rest
  have begun : expect quoteMark (quote name ++ rest) = .ok ((quote name).drop 1 ++ rest) :=
    expect_cons (by decide) _
  rw [readMembers, begun]
  simp only [bind, Except.bind, read]

/-- The first field of a record is found under its name. -/
theorem readMember_first
    {value : List UInt8}
    {rest : List UInt8}
    {x : α}
    (reads : first.read value = .ok (x, rest))
    (b : Option β) :
    readMember first second fuel first.name none b (colon :: value) = .ok ((some x, b), rest) := by
  rw [readMember, if_pos rfl, expect_cons (by decide)]
  simp only [bind, Except.bind, reads, Option.isSome_none, Bool.false_eq_true, if_false]
  rfl

theorem readMember_second
    (different : second.name ≠ first.name)
    {value : List UInt8}
    {rest : List UInt8}
    {y : β}
    (reads : second.read value = .ok (y, rest))
    (a : Option α) :
    readMember first second fuel second.name a none (colon :: value) = .ok ((a, some y), rest) := by
  rw [readMember, if_neg different, if_pos rfl, expect_cons (by decide)]
  simp only [bind, Except.bind, reads, Option.isSome_none, Bool.false_eq_true, if_false]
  rfl

end Members

/-- An object of two members is read as the record of their values. -/
theorem readRecord_object
    {first : Field α}
    {second : Field β}
    (different : second.name ≠ first.name)
    {firstValue secondValue : List UInt8}
    {x : α}
    {y : β}
    (readsFirst : ∀ rest, first.read (firstValue ++ comma :: rest) = .ok (x, comma :: rest))
    (readsSecond : second.read (secondValue ++ [closeBrace]) = .ok (y, [closeBrace])) :
    readRecord first second (object first.name firstValue second.name secondValue) =
      .ok (x, y) := by
  let last := quote second.name ++ colon :: (secondValue ++ [closeBrace])
  let body := quote first.name ++ colon :: (firstValue ++ comma :: last)
  have readLast : ∀ fuel count,
      readMembers first second fuel (count + 1) (some x) none last = .ok ((x, y), []) := by
    intro fuel count
    rw [readMembers_quote, readMember_second different readsSecond]
    simp only [bind, Except.bind, next_cons (show isSpace closeBrace = false by decide)]
    rfl
  have readBody : ∀ fuel count,
      readMembers first second fuel (count + 2) none none body = .ok ((x, y), []) := by
    intro fuel count
    rw [readMembers_quote, readMember_first (readsFirst last)]
    simp only [bind, Except.bind, next_cons (show isSpace comma = false by decide), if_true]
    exact readLast fuel count
  -- The body begins with a name, so it is not empty and does not end the object at once.
  obtain ⟨tail, begun⟩ : ∃ tail, body = quoteMark :: tail := ⟨_, rfl⟩
  have readAll : readObject first second body = .ok ((x, y), []) := by
    have counted := readBody (enoughFuel body) tail.length
    rw [begun] at counted ⊢
    rw [readObject, next_cons (by decide)]
    exact counted
  rw [readRecord, show object first.name firstValue second.name secondValue = openBrace :: body
    from rfl, readEither, next_cons (by decide)]
  simp only [bind, Except.bind, if_true, readAll]
  rfl

end Json
end AntiForgery
