import AntiForgery.Session.Id

/-!
# The keys of sessions

An id is read back from the form it is written in, so different sessions have different keys.  No
key of a session is the key of a token.
-/

namespace AntiForgery
namespace Session
namespace Id

/-- Four hyphens are added to the digits. -/
theorem length_hyphenate {digits : List UInt8} (size : digits.length = 32) :
    (hyphenate digits).length = 36 := by
  simp [hyphenate, size]

/-- Between the digits there is nothing but hyphens. -/
theorem eq_hyphen_or_mem_of_mem_hyphenate {digits : List UInt8} {letter : UInt8}
    (member : letter ∈ hyphenate digits) : letter = hyphen ∨ letter ∈ digits := by
  simp only [hyphenate, List.mem_append, List.mem_singleton] at member
  rcases member with (((((((group | mark) | group) | mark) | group) | mark) | group) | mark) | group
  · exact .inr (List.mem_of_mem_take group)
  · exact .inl mark
  · exact .inr (List.mem_of_mem_drop (List.mem_of_mem_take group))
  · exact .inl mark
  · exact .inr (List.mem_of_mem_drop (List.mem_of_mem_take group))
  · exact .inl mark
  · exact .inr (List.mem_of_mem_drop (List.mem_of_mem_take group))
  · exact .inl mark
  · exact .inr (List.mem_of_mem_drop group)

theorem hyphenate_lt
    {digits : List UInt8}
    (ascii : ∀ digit ∈ digits, digit < 128) :
    ∀ letter ∈ hyphenate digits, letter < 128 := by
  intro letter member
  rcases eq_hyphen_or_mem_of_mem_hyphenate member with rfl | digit
  · decide
  · exact ascii letter digit

/-- The digits of an id fall into the five groups that the hyphens part. -/
theorem exists_groups {digits : List α} (size : digits.length = 32) :
    ∃ first second third fourth fifth : List α,
      digits = first ++ second ++ third ++ fourth ++ fifth ∧
      first.length = 8 ∧ second.length = 4 ∧ third.length = 4 ∧ fourth.length = 4 ∧
      fifth.length = 12 := by
  refine ⟨digits.take 8, (digits.drop 8).take 4, (digits.drop 12).take 4, (digits.drop 16).take 4,
    digits.drop 20, ?_, by simp [size]⟩
  have first := List.take_append_drop 8 digits
  have second := List.take_append_drop 4 (digits.drop 8)
  have third := List.take_append_drop 4 (digits.drop 12)
  have fourth := List.take_append_drop 4 (digits.drop 16)
  simp only [List.drop_drop] at second third fourth
  rw [List.append_assoc, fourth, List.append_assoc, third, List.append_assoc, second, first]

/-- The digits are found between the hyphens. -/
theorem unhyphenate?_hyphenate {digits : List UInt8} (size : digits.length = 32) :
    unhyphenate? (hyphenate digits) = some digits := by
  obtain ⟨first, second, third, fourth, fifth, rfl, size1, size2, size3, size4, size5⟩ :=
    exists_groups size
  simp (disch := omega) [hyphenate, unhyphenate?, List.drop_append, List.drop_of_length_le,
    List.getElem?_append_right, List.getElem?_cons, size1, size2, size3, size4, size5]

theorem length_encode_bytes (id : Id) : (Hex.encode id.bytes).length = 32 := by
  rw [Hex.length_encode, id.length_bytes, idSize]

/-- The text of an id consists of its digits in groups. -/
theorem utf8_text (id : Id) : Text.utf8 id.text = hyphenate (Hex.encode id.bytes) :=
  Text.utf8_ofAscii (hyphenate_lt Hex.encode_lt)

/-- An id is read back from its text. -/
theorem parse?_text (id : Id) : parse? id.text = some id := by
  have size := id.length_encode_bytes
  have length := length_hyphenate size
  rw [parse?, utf8_text, ofBytes?, if_neg (by omega), if_pos length, ofGroups?,
    unhyphenate?_hyphenate size, Option.bind_some, ofDigits?, Hex.decode_encode]
  exact dif_pos id.length_bytes

theorem text_inj {first second : Id} : first.text = second.text ↔ first = second := by
  constructor
  · intro same
    have read := parse?_text first
    rw [same, parse?_text] at read
    exact (Option.some.inj read).symm
  · rintro rfl
    rfl

/-- No two sessions share a key in the store. -/
theorem storageKey_inj {first second : Id} :
    first.storageKey = second.storageKey ↔ first = second := by
  rw [storageKey, storageKey, String.append_right_inj, text_inj]

theorem storageKey_ne {first second : Id} (different : first ≠ second) :
    first.storageKey ≠ second.storageKey :=
  fun same => different (storageKey_inj.mp same)

/-- The key of a token is never the key of a session, since they begin with other letters. -/
theorem spentKey_ne_storageKey (token : String) (id : Id) :
    Store.spentKey token ≠ id.storageKey := by
  intro same
  have letters := congrArg (fun key => key.toList.head?) same
  simp [Store.spentKey, storageKey, Store.spentPrefix, Store.sessionPrefix] at letters

end Id
end Session
end AntiForgery
