import AntiForgery.Text.Utf8

/-!
# Bytes that are a text

A record is read from bytes only if they spell a text throughout.  Texts put one behind the other
are a text, and so are bytes of ASCII; whatever is written piece by piece is a text for these
reasons.  Where a text is ASCII throughout, cutting its bytes is cutting its characters.
-/

namespace AntiForgery
namespace Text

theorem utf8_append (first second : String) :
    utf8 (first ++ second) = utf8 first ++ utf8 second := by
  simp [utf8, String.toUTF8]

theorem utf8_ofList (chars : List Char) :
    utf8 (String.ofList chars) = chars.flatMap String.utf8EncodeChar := by
  simp [utf8, String.toUTF8, List.utf8Encode]

/-! ## Bytes of ASCII -/

theorem ofUtf8?_of_ascii {bytes : List UInt8} (ascii : ∀ byte ∈ bytes, byte < 128) :
    ofUtf8? bytes = some (ofAscii bytes) := by
  have read := ofUtf8?_utf8 (ofAscii bytes)
  rwa [utf8_ofAscii ascii] at read

/-- A text of ASCII is the text that its bytes are the numbers of. -/
theorem ofAscii_utf8 {text : String} (ascii : ∀ byte ∈ utf8 text, byte < 128) :
    ofAscii (utf8 text) = text :=
  utf8_inj.mp (utf8_ofAscii ascii)

/-- The characters of a text of ASCII are those that its bytes are the numbers of. -/
theorem toList_of_ascii {text : String} (ascii : ∀ byte ∈ utf8 text, byte < 128) :
    text.toList = (utf8 text).map fun byte => Char.ofNat byte.toNat := by
  have same := congrArg String.toList (ofAscii_utf8 ascii)
  rw [ofAscii, String.toList_ofList] at same
  exact same.symm

/-- The first bytes of a text of ASCII spell as many of its characters. -/
theorem ofUtf8?_take_utf8
    {text : String}
    (ascii : ∀ byte ∈ utf8 text, byte < 128)
    (count : Nat) :
    ofUtf8? ((utf8 text).take count) = some (String.ofList (text.toList.take count)) := by
  have front : ∀ byte ∈ (utf8 text).take count, byte < 128 :=
    fun byte member => ascii byte (List.mem_of_mem_take member)
  rw [ofUtf8?_of_ascii front, ofAscii, toList_of_ascii ascii, List.map_take]

/-! ## Texts piece by piece -/

/-- The bytes are those of a text. -/
def IsText (bytes : List UInt8) : Prop :=
  ∃ text, utf8 text = bytes

theorem isText_utf8 (text : String) : IsText (utf8 text) := ⟨text, rfl⟩

theorem isText_of_ascii {bytes : List UInt8} (ascii : ∀ byte ∈ bytes, byte < 128) : IsText bytes :=
  ⟨ofAscii bytes, utf8_ofAscii ascii⟩

theorem IsText.append {first second : List UInt8} (textFirst : IsText first)
    (textSecond : IsText second) : IsText (first ++ second) := by
  obtain ⟨first, rfl⟩ := textFirst
  obtain ⟨second, rfl⟩ := textSecond
  exact ⟨first ++ second, utf8_append first second⟩

theorem IsText.isSome {bytes : List UInt8} (isText : IsText bytes) :
    (ofUtf8? bytes).isSome = true := by
  obtain ⟨text, rfl⟩ := isText
  rw [ofUtf8?_utf8, Option.isSome_some]

/-- A character is one byte of ASCII, or bytes none of which is ASCII. -/
theorem utf8EncodeChar_cases (char : Char) :
    (∃ byte, String.utf8EncodeChar char = [byte] ∧ byte < 128) ∨
      ∀ byte ∈ String.utf8EncodeChar char, 128 ≤ byte := by
  have marked : ∀ payload mark : Nat, 128 ≤ mark → payload + mark < 256 →
      128 ≤ UInt8.ofNat (payload + mark) := by
    intro payload mark high small
    rw [UInt8.le_iff_toNat_le, UInt8.toNat_ofNat_of_lt' small]
    exact Nat.le_trans high (Nat.le_add_left mark payload)
  fun_cases String.utf8EncodeChar char with
  | case1 value small =>
      refine .inl ⟨_, rfl, ?_⟩
      rw [UInt8.lt_iff_toNat_lt, UInt8.toNat_ofNat_of_lt' (by simp only [UInt8.size]; omega)]
      exact Nat.lt_succ_of_le small
  | case2 =>
      right
      simp only [List.forall_mem_cons, List.not_mem_nil, false_implies, implies_true, and_true]
      exact ⟨marked _ _ (by omega) (by omega), marked _ _ (by omega) (by omega)⟩
  | case3 =>
      right
      simp only [List.forall_mem_cons, List.not_mem_nil, false_implies, implies_true, and_true]
      exact ⟨marked _ _ (by omega) (by omega), marked _ _ (by omega) (by omega),
        marked _ _ (by omega) (by omega)⟩
  | case4 =>
      right
      simp only [List.forall_mem_cons, List.not_mem_nil, false_implies, implies_true, and_true]
      exact ⟨marked _ _ (by omega) (by omega), marked _ _ (by omega) (by omega),
        marked _ _ (by omega) (by omega), marked _ _ (by omega) (by omega)⟩

/-- A text stays one when each byte of ASCII gives way to bytes of ASCII. -/
theorem isText_flatMap
    {replace : UInt8 → List UInt8}
    (ascii : ∀ byte, byte < 128 → ∀ other ∈ replace byte, other < 128)
    (others : ∀ byte, 128 ≤ byte → replace byte = [byte])
    (text : String) :
    IsText ((utf8 text).flatMap replace) := by
  rw [← String.ofList_toList (s := text), utf8_ofList]
  induction text.toList with
  | nil => exact isText_utf8 ""
  | cons char rest ih =>
      rw [List.flatMap_cons, List.flatMap_append]
      refine IsText.append ?_ ih
      rcases utf8EncodeChar_cases char with ⟨byte, single, small⟩ | high
      · rw [single, List.flatMap_singleton]
        exact isText_of_ascii (ascii byte small)
      · have same : (String.utf8EncodeChar char).flatMap replace = String.utf8EncodeChar char := by
          have each : ∀ byte ∈ String.utf8EncodeChar char, replace byte = [byte] :=
            fun byte member => others byte (high byte member)
          rw [List.flatMap_def, List.map_congr_left each, ← List.flatMap_def]
          exact List.flatMap_singleton' _
        rw [same]
        exact ⟨String.ofList [char], by rw [utf8_ofList, List.flatMap_singleton]⟩

end Text
end AntiForgery
