import AntiForgery.Proofs.Session.Keys
import AntiForgery.Proofs.Text.Hex

/-!
# The spellings of an id

An id is read in four forms and in either case.  Whatever the form, a text that is read as an id holds
digits, hyphens and the few marks around them, so none of its letters means anything in a cookie.
-/

namespace AntiForgery
namespace Hex

/-- Only digits are read. -/
theorem isSome_of_decodePairs
    {position : Nat}
    {text bytes : List UInt8}
    (even : text.length % 2 = 0)
    (read : decodePairs position text = .ok bytes) :
    ∀ letter ∈ text, (digitValue? letter).isSome = true := by
  match text with
  | [] => simp
  | [_] => cases even
  | high :: low :: rest =>
      rw [decodePairs] at read
      cases foundHigh : digitValue? high with
      | none =>
          rw [foundHigh] at read
          cases read
      | some highValue =>
          cases foundLow : digitValue? low with
          | none =>
              rw [foundHigh, foundLow] at read
              cases read
          | some lowValue =>
              rw [foundHigh, foundLow] at read
              cases readRest : decodePairs (position + 2) rest with
              | error fault =>
                  rw [readRest] at read
                  cases read
              | ok others =>
                  have evenRest : rest.length % 2 = 0 := by
                    rw [List.length_cons, List.length_cons] at even
                    omega
                  intro letter member
                  rw [List.mem_cons, List.mem_cons] at member
                  rcases member with rfl | rfl | member
                  · rw [foundHigh, Option.isSome_some]
                  · rw [foundLow, Option.isSome_some]
                  · exact isSome_of_decodePairs evenRest readRest letter member

theorem isSome_of_decode
    {text bytes : List UInt8}
    (read : decode text = .ok bytes) :
    ∀ letter ∈ text, (digitValue? letter).isSome = true := by
  rw [decode] at read
  split at read
  · cases read
  · next even => exact isSome_of_decodePairs (by omega) read

end Hex

namespace Session
namespace Id

/-- The hyphens are where they are written. -/
theorem eq_hyphenate_of_unhyphenate?
    {bytes digits : List UInt8}
    (read : unhyphenate? bytes = some digits) :
    bytes = hyphenate digits := by
  rw [unhyphenate?] at read
  split at read
  · next marked =>
      obtain ⟨size, eighth, thirteenth, eighteenth, twentyThird⟩ := marked
      obtain rfl := Option.some.inj read
      have mark : ∀ place, bytes[place]? = some hyphen →
          bytes.drop place = hyphen :: bytes.drop (place + 1) := by
        intro place found
        obtain ⟨inside, same⟩ := List.getElem?_eq_some_iff.mp found
        rw [List.drop_eq_getElem_cons inside, same]
      have group : ∀ place, bytes.drop place = (bytes.drop place).take 4 ++ bytes.drop (place + 4) := by
        intro place
        rw [← List.drop_drop, List.take_append_drop]
      have whole : bytes = bytes.take 8 ++ hyphen :: ((bytes.drop 9).take 4 ++ hyphen ::
          ((bytes.drop 14).take 4 ++ hyphen :: ((bytes.drop 19).take 4 ++ hyphen ::
            bytes.drop 24))) := by
        rw [← mark 23 twentyThird, ← group 19, ← mark 18 eighteenth, ← group 14,
          ← mark 13 thirteenth, ← group 9, ← mark 8 eighth, List.take_append_drop]
      have size1 : (bytes.take 8).length = 8 := by simp [size]
      have size2 : ((bytes.drop 9).take 4).length = 4 := by simp [size]
      have size3 : ((bytes.drop 14).take 4).length = 4 := by simp [size]
      have size4 : ((bytes.drop 19).take 4).length = 4 := by simp [size]
      refine whole.trans ?_
      generalize bytes.take 8 = first at size1
      generalize (bytes.drop 9).take 4 = second at size2
      generalize (bytes.drop 14).take 4 = third at size3
      generalize (bytes.drop 19).take 4 = fourth at size4
      simp (disch := omega) [hyphenate, List.drop_append, List.drop_of_length_le, size1, size2,
        size3]
  · cases read

/-- How an id may be spelt. -/
inductive Form where
  /-- The digits alone. -/
  | plain
  /-- The digits in groups. -/
  | grouped
  /-- The digits in groups, between braces. -/
  | braced
  /-- The digits in groups, as the name of a resource. -/
  | named
  deriving DecidableEq, Repr

/-- The bytes of a form with these digits. -/
def Form.bytes : Form → List UInt8 → List UInt8
  | .plain, digits => digits
  | .grouped, digits => hyphenate digits
  | .braced, digits => openBrace :: (hyphenate digits ++ [closeBrace])
  | .named, digits => resourcePrefix ++ hyphenate digits

/-- Digits are read as an id if they decode to its bytes. -/
theorem ofDigits?_eq_some_iff {letters : List UInt8} {id : Id} :
    ofDigits? letters = some id ↔ Hex.decode letters = .ok id.bytes := by
  rw [ofDigits?]
  cases Hex.decode letters with
  | error fault => simp
  | ok bytes =>
      obtain ⟨own, sixteen⟩ := id
      dsimp only
      split
      · simp
      · next other =>
          refine iff_of_false (by simp) ?_
          rintro ⟨⟩
          exact other sixteen

theorem length_of_ofDigits? {letters : List UInt8} {id : Id}
    (read : ofDigits? letters = some id) : letters.length = 32 := by
  have length := (Hex.denotes_of_decode (ofDigits?_eq_some_iff.mp read)).1.length_eq
  rwa [List.length_map, id.length_bytes] at length

/-- The reader takes the four forms and no other bytes. -/
theorem ofBytes?_eq_some_iff {bytes : List UInt8} {id : Id} :
    ofBytes? bytes = some id ↔
      ∃ (form : Form) (letters : List UInt8),
        bytes = form.bytes letters ∧ ofDigits? letters = some id := by
  constructor
  · intro read
    rw [ofBytes?] at read
    split at read
    · exact ⟨.plain, bytes, rfl, read⟩
    · split at read
      · obtain ⟨letters, unhyphenated, own⟩ := Option.bind_eq_some_iff.mp read
        exact ⟨.grouped, letters, eq_hyphenate_of_unhyphenate? unhyphenated, own⟩
      · split at read
        · next braced =>
            obtain ⟨size, front, back⟩ := braced
            obtain ⟨letters, unhyphenated, own⟩ := Option.bind_eq_some_iff.mp read
            refine ⟨.braced, letters, ?_, own⟩
            obtain ⟨middle, rfl⟩ := List.head?_eq_some_iff.mp front
            have filled : middle ≠ [] := by
              rintro rfl
              cases size
            rw [List.getLast?_cons_of_ne_nil filled] at back
            obtain ⟨inner, rfl⟩ := List.getLast?_eq_some_iff.mp back
            rw [List.drop_one, List.tail_cons, List.dropLast_concat] at unhyphenated
            rw [eq_hyphenate_of_unhyphenate? unhyphenated]
            rfl
        · split at read
          · next named =>
              obtain ⟨letters, unhyphenated, own⟩ := Option.bind_eq_some_iff.mp read
              refine ⟨.named, letters, ?_, own⟩
              rw [Form.bytes, ← eq_hyphenate_of_unhyphenate? unhyphenated, ← named.2,
                List.take_append_drop]
          · cases read
  · rintro ⟨form, letters, rfl, own⟩
    have size := length_of_ofDigits? own
    have grouped : ofGroups? (hyphenate letters) = some id := by
      rw [ofGroups?, unhyphenate?_hyphenate size, Option.bind_some, own]
    have length := length_hyphenate size
    cases form with
    | plain => rw [Form.bytes, ofBytes?, if_pos size, own]
    | grouped => rw [Form.bytes, ofBytes?, if_neg (by omega), if_pos length, grouped]
    | braced =>
        have whole : (openBrace :: (hyphenate letters ++ [closeBrace])).length = 38 := by
          rw [List.length_cons, List.length_append, length, List.length_singleton]
        have back : (openBrace :: (hyphenate letters ++ [closeBrace])).getLast? = some closeBrace := by
          rw [← List.cons_append, List.getLast?_concat]
        rw [Form.bytes, ofBytes?, if_neg (by omega), if_neg (by omega), if_pos ⟨whole, rfl, back⟩,
          List.drop_one, List.tail_cons, List.dropLast_concat, grouped]
    | named =>
        have nine : resourcePrefix.length = 9 := by decide
        have whole : (resourcePrefix ++ hyphenate letters).length = 45 := by
          rw [List.length_append, nine, length]
        rw [Form.bytes, ofBytes?, if_neg (by omega), if_neg (by omega), if_neg (by omega),
          if_pos ⟨whole, List.take_left' nine⟩, List.drop_left' nine, grouped]

/-- The letters that the four forms are made of: digits in either case, hyphens, braces, and what the
name of a resource begins with. -/
def IsLetter (letter : UInt8) : Prop :=
  (Hex.digitValue? letter).isSome = true ∨
    letter = hyphen ∨ letter = openBrace ∨ letter = closeBrace ∨ letter ∈ resourcePrefix

instance (letter : UInt8) : Decidable (IsLetter letter) :=
  inferInstanceAs (Decidable (_ ∨ _))

theorem isSome_of_ofDigits?
    {digits : List UInt8}
    {id : Id}
    (read : ofDigits? digits = some id) :
    ∀ letter ∈ digits, (Hex.digitValue? letter).isSome = true := by
  rw [ofDigits?] at read
  cases decoded : Hex.decode digits with
  | error fault =>
      rw [decoded] at read
      cases read
  | ok bytes => exact Hex.isSome_of_decode decoded

/-- An id is spelled in digits and in the few letters around them. -/
theorem isLetter_of_ofBytes?
    {bytes : List UInt8}
    {id : Id}
    (read : ofBytes? bytes = some id) :
    ∀ letter ∈ bytes, IsLetter letter := by
  obtain ⟨form, letters, rfl, own⟩ := ofBytes?_eq_some_iff.mp read
  have digits : ∀ letter ∈ letters, IsLetter letter :=
    fun letter member => .inl (isSome_of_ofDigits? own letter member)
  have grouped : ∀ letter ∈ hyphenate letters, IsLetter letter := fun letter member =>
    (eq_hyphen_or_mem_of_mem_hyphenate member).elim (fun mark => .inr (.inl mark)) (digits letter)
  cases form with
  | plain => exact digits
  | grouped => exact grouped
  | braced =>
      simp only [Form.bytes, List.forall_mem_cons, List.forall_mem_append]
      exact ⟨.inr (.inr (.inl rfl)), grouped, .inr (.inr (.inr (.inl rfl))), by simp⟩
  | named =>
      simp only [Form.bytes, List.forall_mem_append]
      exact ⟨fun _ mark => .inr (.inr (.inr (.inr mark))), grouped⟩

/-- A text that is read as an id is made of these letters. -/
theorem isLetter_of_parse?
    {text : String}
    {id : Id}
    (read : parse? text = some id) :
    ∀ letter ∈ Text.utf8 text, IsLetter letter :=
  isLetter_of_ofBytes? read

end Id
end Session
end AntiForgery
