import AntiForgery.Proofs.Session.Keys

/-!
# The letters of an id

An id is written with lower-case digits and hyphens only.  One that was drawn at random shows it in
its text: the third group begins with the version, and the fourth with the two bits of the variant.
-/

namespace AntiForgery
namespace Hex

/-- The letter is one of the digits that are written: `0` to `9` or `a` to `f`. -/
def IsLowerDigit (letter : UInt8) : Prop :=
  (0x30 ≤ letter ∧ letter ≤ 0x39) ∨ (0x61 ≤ letter ∧ letter ≤ 0x66)

instance (letter : UInt8) : Decidable (IsLowerDigit letter) :=
  inferInstanceAs (Decidable (_ ∨ _))

theorem isLowerDigit_digit (value : UInt8) (small : value < 16) : IsLowerDigit (digit value) := by
  have cases : ∀ n : Fin 16, IsLowerDigit (digit (UInt8.ofNat n.val)) := by decide
  have bound : value.toNat < 16 := UInt8.lt_iff_toNat_lt.mp small
  simpa using cases ⟨value.toNat, bound⟩

theorem isLowerDigit_of_mem_encode {bytes : List UInt8} :
    ∀ letter ∈ encode bytes, IsLowerDigit letter := by
  induction bytes with
  | nil => simp [encode]
  | cons byte rest ih =>
      intro letter member
      rw [encode, List.mem_cons, List.mem_cons] at member
      rcases member with rfl | rfl | member
      · exact isLowerDigit_digit _ (div_lt byte)
      · exact isLowerDigit_digit _ (mod_lt byte)
      · exact ih letter member

/-- The higher half of each byte stands at twice the place of the byte. -/
theorem getElem?_encode (bytes : List UInt8) (place : Nat) :
    (encode bytes)[2 * place]? = bytes[place]?.map fun byte => digit (byte / 16) := by
  induction bytes generalizing place with
  | nil => simp [encode]
  | cons byte rest ih =>
      cases place with
      | zero => rfl
      | succ place =>
          rw [show 2 * (place + 1) = 2 * place + 1 + 1 by omega, encode, List.getElem?_cons_succ,
            List.getElem?_cons_succ, List.getElem?_cons_succ]
          exact ih place

end Hex

namespace Session
namespace Id

/-- An id is written with digits and hyphens. -/
theorem mem_utf8_text {id : Id} :
    ∀ letter ∈ Text.utf8 id.text, letter = hyphen ∨ Hex.IsLowerDigit letter := by
  intro letter member
  rw [utf8_text] at member
  exact (eq_hyphen_or_mem_of_mem_hyphenate member).imp_right
    (Hex.isLowerDigit_of_mem_encode letter)

/-- The id is marked as one that was drawn at random: its version is four, and the two bits of its
variant are one and zero. -/
structure IsRandom (id : Id) : Prop where
  version : ∃ byte, id.bytes[6]? = some byte ∧ byte / 16 = 4
  variant : ∃ byte, id.bytes[8]? = some byte ∧ byte / 64 = 2

/-- The stamp sets the version to four. -/
theorem stampVersion_div (byte : UInt8) : stampVersion byte / 16 = 4 := by
  have cases : ∀ n : Fin 256, stampVersion (UInt8.ofNat n.val) / 16 = 4 := by decide +kernel
  simpa using cases ⟨byte.toNat, byte.toNat_lt⟩

theorem stampVariant_div (byte : UInt8) : stampVariant byte / 64 = 2 := by
  have cases : ∀ n : Fin 256, stampVariant (UInt8.ofNat n.val) / 64 = 2 := by decide +kernel
  simpa using cases ⟨byte.toNat, byte.toNat_lt⟩

theorem isRandom_ofRandom {bytes : List UInt8} (sixteen : bytes.length = idSize) :
    (ofRandom bytes sixteen).IsRandom := by
  have sixth : 6 < bytes.length := by rw [sixteen, idSize]; omega
  have eighth : 8 < bytes.length := by rw [sixteen, idSize]; omega
  refine ⟨⟨_, ?_, stampVersion_div (bytes.get ⟨6, sixth⟩)⟩,
    ⟨_, ?_, stampVariant_div (bytes.get ⟨8, eighth⟩)⟩⟩
  · simp [ofRandom, List.getElem?_eq_getElem sixth]
  · simp [ofRandom, List.getElem?_eq_getElem eighth]

theorem isRandom_next (source : Entropy) : (next source).IsRandom :=
  isRandom_ofRandom (Entropy.length_take idSize source)

/-- The text of a random id: five groups of lower-case digits between hyphens, the third of which
begins with the version four, and the fourth with a digit of the bits one and zero. -/
def IsRandomText (text : String) : Prop :=
  ∃ first second third fourth fifth : List UInt8,
    Text.utf8 text =
      first ++ [hyphen] ++ second ++ [hyphen] ++ third ++ [hyphen] ++ fourth ++ [hyphen] ++ fifth ∧
    first.length = 8 ∧ second.length = 4 ∧ third.length = 4 ∧ fourth.length = 4 ∧
    fifth.length = 12 ∧
    (∀ letter ∈ first ++ second ++ third ++ fourth ++ fifth, Hex.IsLowerDigit letter) ∧
    third.head? = some 0x34 ∧
    ∃ mark ∈ [0x38, 0x39, 0x61, 0x62], fourth.head? = some mark

/-- The digit of the higher half of a byte that begins with the bits one and zero. -/
theorem digit_of_variant {byte : UInt8} (variant : byte / 64 = 2) :
    Hex.digit (byte / 16) ∈ ([0x38, 0x39, 0x61, 0x62] : List UInt8) := by
  have cases : ∀ n : Fin 256, UInt8.ofNat n.val / 64 = 2 →
      Hex.digit (UInt8.ofNat n.val / 16) ∈ ([0x38, 0x39, 0x61, 0x62] : List UInt8) := by
    decide +kernel
  have own := cases ⟨byte.toNat, byte.toNat_lt⟩
  simp only [UInt8.ofNat_toNat] at own
  exact own variant

/-- An id that is marked as random is written as such. -/
theorem IsRandom.isRandomText {id : Id} (random : id.IsRandom) : IsRandomText id.text := by
  obtain ⟨⟨sixth, found, version⟩, ⟨eighth, foundVariant, variant⟩⟩ := random
  have size := id.length_encode_bytes
  have third := Hex.getElem?_encode id.bytes 6
  have fourth := Hex.getElem?_encode id.bytes 8
  have digits := @Hex.isLowerDigit_of_mem_encode id.bytes
  rw [found, Option.map_some, version] at third
  rw [foundVariant, Option.map_some] at fourth
  unfold IsRandomText
  rw [utf8_text]
  generalize Hex.encode id.bytes = letters at size third fourth digits ⊢
  refine ⟨letters.take 8, (letters.drop 8).take 4, (letters.drop 12).take 4,
    (letters.drop 16).take 4, letters.drop 20, rfl, by simp [size], by simp [size], by simp [size],
    by simp [size], by simp [size], ?_, ?_, _, digit_of_variant variant, ?_⟩
  · intro letter member
    simp only [List.mem_append] at member
    rcases member with (((group | group) | group) | group) | group
    · exact digits letter (List.mem_of_mem_take group)
    · exact digits letter (List.mem_of_mem_drop (List.mem_of_mem_take group))
    · exact digits letter (List.mem_of_mem_drop (List.mem_of_mem_take group))
    · exact digits letter (List.mem_of_mem_drop (List.mem_of_mem_take group))
    · exact digits letter (List.mem_of_mem_drop group)
  · rw [List.head?_take, if_neg (by omega), List.head?_drop]
    exact third
  · rw [List.head?_take, if_neg (by omega), List.head?_drop]
    exact fourth

end Id
end Session
end AntiForgery
