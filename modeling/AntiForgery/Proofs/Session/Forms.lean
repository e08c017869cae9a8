import AntiForgery.Proofs.Json.Value
import AntiForgery.Proofs.Session.Letters
import AntiForgery.Proofs.Session.Spelling
import AntiForgery.Proofs.Text.Hex

/-!
# The forms of an id

Thirty-two digits spell an id in four forms, and no other text spells one.  Whatever the form and the case
of its digits, the id that a text spells is written, kept and sent in one form only.
-/

namespace AntiForgery

/-! ## Digits -/

namespace Hex

/-- A digit of either case stands for one value, and that value is written in lower case. -/
theorem digit_of_isDigit {char : Char} {value : Nat} (isDigit : IsDigit char value) :
    value < 16 ∧ Char.ofNat (digit (UInt8.ofNat value)).toNat = char.toLower ∧
      char.toLower ∈ lowerDigits := by
  have lower : ∀ place : Fin lowerDigits.length,
      place.val < 16 ∧
      Char.ofNat (digit (UInt8.ofNat place.val)).toNat = (lowerDigits.get place).toLower ∧
      (lowerDigits.get place).toLower ∈ lowerDigits := by
    decide
  have upper : ∀ place : Fin upperDigits.length,
      place.val < 16 ∧
      Char.ofNat (digit (UInt8.ofNat place.val)).toNat = (upperDigits.get place).toLower ∧
      (upperDigits.get place).toLower ∈ lowerDigits := by
    decide
  rcases isDigit with found | found
  · obtain ⟨small, rfl⟩ := List.getElem?_eq_some_iff.mp found
    exact lower ⟨value, small⟩
  · obtain ⟨small, rfl⟩ := List.getElem?_eq_some_iff.mp found
    exact upper ⟨value, small⟩

/-- Bytes are written with the digits that denote them, in lower case. -/
theorem map_encode_of_denotes {digits : List Char} {bytes : List UInt8}
    (denotes : Denotes digits bytes) :
    (encode bytes).map (fun letter => Char.ofNat letter.toNat) = digits.map Char.toLower := by
  induction denotes with
  | nil => rfl
  | @cons high low highValue lowValue rest bytes highDigit lowDigit others ih =>
      obtain ⟨highSmall, highLower, _⟩ := digit_of_isDigit highDigit
      obtain ⟨lowSmall, lowLower, _⟩ := digit_of_isDigit lowDigit
      have whole : (UInt8.ofNat (16 * highValue + lowValue)).toNat = 16 * highValue + lowValue :=
        UInt8.toNat_ofNat_of_lt' (by simp only [UInt8.size]; omega)
      have upper : UInt8.ofNat (16 * highValue + lowValue) / 16 = UInt8.ofNat highValue := by
        apply UInt8.toNat.inj
        simp
        omega
      have lower : UInt8.ofNat (16 * highValue + lowValue) % 16 = UInt8.ofNat lowValue := by
        apply UInt8.toNat.inj
        simp
        omega
      simp only [encode, List.map_cons, upper, lower, highLower, lowLower, ih]

/-- Digits are told by what they are in lower case. -/
theorem exists_isDigit_iff {char : Char} :
    (∃ value, IsDigit char value) ↔ char.toLower ∈ lowerDigits := by
  constructor
  · rintro ⟨value, isDigit⟩
    exact (digit_of_isDigit isDigit).2.2
  · intro member
    by_cases ascii : char.toNat < 128
    · have all : ∀ place : Fin 128, (Char.ofNat place.val).toLower ∈ lowerDigits →
          ∃ value : Fin 16, IsDigit (Char.ofNat place.val) value.val := by
        decide +kernel
      have own := all ⟨char.toNat, ascii⟩
      rw [Char.ofNat_toNat] at own
      obtain ⟨value, isDigit⟩ := own member
      exact ⟨value, isDigit⟩
    · have same : char.toLower = char := dif_neg fun capital =>
        ascii (Nat.lt_of_le_of_lt (UInt32.le_iff_toNat_le.mp capital.2) (by decide))
      rw [same] at member
      obtain ⟨value, found⟩ := List.getElem?_of_mem member
      exact ⟨value, .inl found⟩

theorem forall_mem_of_denotes {digits : List Char} {bytes : List UInt8}
    (denotes : Denotes digits bytes) : ∀ digit ∈ digits, digit.toLower ∈ lowerDigits := by
  induction denotes with
  | nil => simp
  | cons highDigit lowDigit _ ih =>
      simp only [List.forall_mem_cons]
      exact ⟨exists_isDigit_iff.mp ⟨_, highDigit⟩, exists_isDigit_iff.mp ⟨_, lowDigit⟩, ih⟩

/-- Pairs of digits always denote bytes. -/
theorem exists_denotes {digits : List Char}
    (even : digits.length % 2 = 0)
    (all : ∀ digit ∈ digits, digit.toLower ∈ lowerDigits) :
    ∃ bytes, Denotes digits bytes := by
  match digits with
  | [] => exact ⟨[], .nil⟩
  | [_] => cases even
  | high :: low :: rest =>
      simp only [List.forall_mem_cons] at all
      obtain ⟨highValue, highDigit⟩ := exists_isDigit_iff.mpr all.1
      obtain ⟨lowValue, lowDigit⟩ := exists_isDigit_iff.mpr all.2.1
      have evenRest : rest.length % 2 = 0 := by
        rw [List.length_cons, List.length_cons] at even
        omega
      obtain ⟨bytes, others⟩ := exists_denotes evenRest all.2.2
      exact ⟨_, .cons highDigit lowDigit others⟩

end Hex

namespace Session
namespace Id

/-! ## The four forms -/

/-- Digits in groups of eight, four, four, four and twelve, with hyphens between the groups. -/
def inGroups (digits : List Char) : List Char :=
  digits.take 8 ++ ['-'] ++ (digits.drop 8).take 4 ++ ['-'] ++ (digits.drop 12).take 4 ++ ['-'] ++
    (digits.drop 16).take 4 ++ ['-'] ++ digits.drop 20

/-- What stands in front of an id as the name of a resource. -/
def resourceMark : List Char := "urn:uuid:".toList

namespace Form

/-- The characters of a form with these digits. -/
def spell : Form → List Char → List Char
  | .plain, digits => digits
  | .grouped, digits => inGroups digits
  | .braced, digits => '\x7b' :: (inGroups digits ++ ['\x7d'])
  | .named, digits => resourceMark ++ inGroups digits

/-- The number of characters that a form has besides the digits. -/
def extra : Form → Nat
  | .plain => 0
  | .grouped => 4
  | .braced => 6
  | .named => 13

end Form

/-- A text spells an id with these digits. -/
def Spells (text : String) (digits : List Char) : Prop :=
  digits.length = 32 ∧ ∃ form : Form, text.toList = form.spell digits

/-- The text that an id with these digits is written as. -/
def written (digits : List Char) : String :=
  String.ofList (inGroups (digits.map Char.toLower))

theorem length_inGroups {digits : List Char} (size : digits.length = 32) :
    (inGroups digits).length = 36 := by
  simp [inGroups, size]

theorem map_hyphenate (letters : List UInt8) :
    (hyphenate letters).map (fun letter => Char.ofNat letter.toNat) =
      inGroups (letters.map fun letter => Char.ofNat letter.toNat) := by
  have mark : Char.ofNat hyphen.toNat = '-' := by decide
  simp only [hyphenate, inGroups, List.map_append, List.map_take, List.map_drop, List.map_cons,
    List.map_nil, mark]

namespace Form

/-- The length of a spelling tells its form. -/
theorem length_spell (form : Form) {digits : List Char} (size : digits.length = 32) :
    (form.spell digits).length = 32 + form.extra := by
  have grouped := length_inGroups size
  have name : resourceMark.length = 9 := by decide
  cases form with
  | plain => exact size
  | grouped => exact grouped
  | braced =>
      rw [spell, List.length_cons, List.length_append, grouped]
      rfl
  | named =>
      rw [spell, List.length_append, name, grouped]
      rfl

theorem map_bytes (form : Form) (letters : List UInt8) :
    (form.bytes letters).map (fun letter => Char.ofNat letter.toNat) =
      form.spell (letters.map fun letter => Char.ofNat letter.toNat) := by
  have front : Char.ofNat openBrace.toNat = '\x7b' := by decide
  have back : Char.ofNat closeBrace.toNat = '\x7d' := by decide
  have name : resourcePrefix.map (fun letter => Char.ofNat letter.toNat) = resourceMark := by decide
  cases form with
  | plain => rfl
  | grouped => exact map_hyphenate letters
  | braced =>
      rw [bytes, spell, List.map_cons, List.map_append, List.map_singleton, map_hyphenate, front, back]
  | named => rw [bytes, spell, List.map_append, map_hyphenate, name]

theorem bytes_lt (form : Form) {letters : List UInt8} (ascii : ∀ letter ∈ letters, letter < 128) :
    ∀ letter ∈ form.bytes letters, letter < 128 := by
  have grouped := hyphenate_lt ascii
  have marks : openBrace < 128 ∧ closeBrace < 128 := by decide
  have name : resourcePrefix.all (· < 128) = true := by decide
  cases form with
  | plain => exact ascii
  | grouped => exact grouped
  | braced =>
      simp only [bytes, List.forall_mem_cons, List.forall_mem_append]
      exact ⟨marks.1, grouped, marks.2, by simp⟩
  | named =>
      simp only [bytes, List.forall_mem_append]
      exact ⟨by simpa using name, grouped⟩

theorem utf8_spell (form : Form) {letters : List UInt8} (ascii : ∀ letter ∈ letters, letter < 128) :
    Text.utf8 (String.ofList (form.spell (letters.map fun letter => Char.ofNat letter.toNat))) =
      form.bytes letters := by
  rw [← form.map_bytes letters]
  exact Text.utf8_ofAscii (form.bytes_lt ascii)

end Form

/-! ## What is read -/

/-- Exactly the texts that spell an id are read, and each is read as the id that its digits denote. -/
theorem parse?_eq_some_iff {text : String} {id : Id} :
    parse? text = some id ↔ ∃ digits, Spells text digits ∧ Hex.Denotes digits id.bytes := by
  constructor
  · intro read
    obtain ⟨form, letters, whole, own⟩ := ofBytes?_eq_some_iff.mp read
    obtain ⟨denotes, ascii⟩ := Hex.denotes_of_decode (ofDigits?_eq_some_iff.mp own)
    refine ⟨_, ⟨?_, form, ?_⟩, denotes⟩
    · rw [List.length_map, length_of_ofDigits? own]
    · rw [← form.utf8_spell ascii, Text.utf8_inj] at whole
      rw [whole, String.toList_ofList]
  · rintro ⟨digits, ⟨_, form, spelt⟩, denotes⟩
    obtain ⟨letters, rfl, ascii, read⟩ := Hex.decode_of_denotes denotes
    have whole : Text.utf8 text = form.bytes letters := by
      rw [← form.utf8_spell ascii, ← spelt, String.ofList_toList]
    exact ofBytes?_eq_some_iff.mpr ⟨form, letters, whole, ofDigits?_eq_some_iff.mpr read⟩

/-! ## The digits of a text -/

/-- Digits can be told from their groups. -/
theorem inGroups_inj {digits others : List Char} (size : digits.length = 32)
    (sizeToo : others.length = 32) (same : inGroups digits = inGroups others) : digits = others := by
  have undone : ∀ digits : List Char, digits.length = 32 →
      (inGroups digits).take 8 ++ ((inGroups digits).drop 9).take 4 ++
        ((inGroups digits).drop 14).take 4 ++ ((inGroups digits).drop 19).take 4 ++
        (inGroups digits).drop 24 = digits := by
    intro digits size
    obtain ⟨first, second, third, fourth, fifth, rfl, size1, size2, size3, size4, size5⟩ :=
      exists_groups size
    simp (disch := omega) [inGroups, List.drop_append, List.drop_of_length_le, size1, size2, size3,
      size4]
  rw [← undone digits size, same, undone others sizeToo]

/-- A text has its digits in one way only. -/
theorem Spells.unique {text : String} {digits others : List Char}
    (first : Spells text digits) (second : Spells text others) : digits = others := by
  obtain ⟨size, form, spelt⟩ := first
  obtain ⟨sizeToo, other, speltToo⟩ := second
  have length := form.length_spell size
  have lengthToo := other.length_spell sizeToo
  rw [← spelt] at length
  rw [← speltToo, length] at lengthToo
  have same : form = other := by
    cases form <;> cases other <;> simp [Form.extra] at lengthToo ⊢
  subst same
  have whole : form.spell digits = form.spell others := spelt.symm.trans speltToo
  cases form with
  | plain => exact whole
  | grouped => exact inGroups_inj size sizeToo whole
  | braced =>
      exact inGroups_inj size sizeToo (List.append_cancel_right (List.cons.inj whole).2)
  | named => exact inGroups_inj size sizeToo (List.append_cancel_left whole)

/-! ## What is written -/

/-- The text of an id is the written form of any digits that denote it. -/
theorem text_eq_written {digits : List Char} {id : Id} (denotes : Hex.Denotes digits id.bytes) :
    id.text = written digits := by
  rw [text, Text.ofAscii, map_hyphenate, Hex.map_encode_of_denotes denotes, written]

theorem json_eq (id : Id) : id.json = Text.utf8 ("\"" ++ id.text ++ "\"") := by
  have plain : ∀ letter ∈ Text.utf8 id.text, Json.escape letter = [letter] := by
    have cases : ∀ n : Fin 256, UInt8.ofNat n.val = hyphen ∨ Hex.IsLowerDigit (UInt8.ofNat n.val) →
        Json.escape (UInt8.ofNat n.val) = [UInt8.ofNat n.val] := by
      decide +kernel
    intro letter member
    have own := cases ⟨letter.toNat, letter.toNat_lt⟩
    rw [UInt8.ofNat_toNat] at own
    exact own (mem_utf8_text letter member)
  have content : (Text.utf8 id.text).flatMap Json.escape = Text.utf8 id.text := by
    rw [List.flatMap_def, List.map_congr_left plain, ← List.flatMap_def]
    exact List.flatMap_singleton' _
  have mark : Text.utf8 "\"" = [Json.quoteMark] := by decide
  rw [json, Json.quote, content, Text.utf8_append, Text.utf8_append, mark, List.singleton_append,
    List.cons_append]

/-- Where any JSON value may stand, an id is read from the strings that spell one and from nothing
else. -/
theorem ofJson?_eq (bytes : List UInt8) :
    ofJson? bytes = ((Json.decode? bytes).bind Json.Value.text?).bind parse? := by
  rw [Json.bind_text?_decode?, ofJson?]
  cases Json.readText bytes with
  | error fault => rfl
  | ok read =>
      dsimp only
      split <;> rfl

theorem ofJson?_json (id : Id) : ofJson? id.json = some id := by
  have read := Json.readText_quote id.text []
  rw [List.append_nil] at read
  have empty : (Json.skipSpace []).isEmpty = true := by decide
  rw [ofJson?, json, read]
  simp only [if_pos empty]
  exact id.parse?_text

/-! ## One form for all -/

/-- The digits that an id is written with. -/
theorem exists_written (id : Id) :
    ∃ digits : List Char, digits.length = 32 ∧ (∀ digit ∈ digits, digit ∈ Hex.lowerDigits) ∧
      Hex.Denotes digits id.bytes ∧ id.text = String.ofList (inGroups digits) := by
  obtain ⟨denotes, _⟩ := Hex.denotes_of_decode (Hex.decode_encode id.bytes)
  have lower := Hex.map_encode_of_denotes denotes
  have all := Hex.forall_mem_of_denotes denotes
  refine ⟨_, ?_, ?_, denotes, ?_⟩
  · rw [List.length_map, length_encode_bytes]
  · rw [lower]
    simpa only [List.forall_mem_map] using all
  · rw [text, Text.ofAscii, map_hyphenate]

/-- A text is read as an id exactly when it spells one with digits. -/
theorem isSome_parse?_iff {text : String} :
    (parse? text).isSome ↔
      ∃ digits, Spells text digits ∧ ∀ digit ∈ digits, digit.toLower ∈ Hex.lowerDigits := by
  rw [Option.isSome_iff_exists]
  constructor
  · rintro ⟨id, read⟩
    obtain ⟨digits, spells, denotes⟩ := parse?_eq_some_iff.mp read
    exact ⟨digits, spells, Hex.forall_mem_of_denotes denotes⟩
  · rintro ⟨digits, spells, all⟩
    obtain ⟨bytes, denotes⟩ := Hex.exists_denotes (by rw [spells.1]) all
    have size := denotes.length_eq
    rw [spells.1] at size
    exact ⟨⟨bytes, by rw [idSize]; omega⟩, parse?_eq_some_iff.mpr ⟨digits, spells, denotes⟩⟩

/-- A text is read as the id that its digits denote, and that id is written with them in lower case. -/
theorem written_of_parse?
    {text : String}
    {digits : List Char}
    {id : Id}
    (spells : Spells text digits)
    (read : parse? text = some id) :
    Hex.Denotes digits id.bytes ∧ id.text = written digits := by
  obtain ⟨own, spellsToo, denotes⟩ := parse?_eq_some_iff.mp read
  obtain rfl := spells.unique spellsToo
  exact ⟨denotes, text_eq_written denotes⟩

theorem storageKey_eq_iff
    {text other : String}
    {digits others : List Char}
    {id another : Id}
    (spells : Spells text digits)
    (spellsToo : Spells other others)
    (read : parse? text = some id)
    (readToo : parse? other = some another) :
    id.storageKey = another.storageKey ↔ digits.map Char.toLower = others.map Char.toLower := by
  rw [storageKey, storageKey, String.append_right_inj, (written_of_parse? spells read).2,
    (written_of_parse? spellsToo readToo).2, written, written, String.ofList_inj]
  refine ⟨inGroups_inj ?_ ?_, congrArg inGroups⟩
  · rw [List.length_map, spells.1]
  · rw [List.length_map, spellsToo.1]

/-- Each id has one text, of thirty-six characters in lower case, and is read back from it as from its
JSON; the text and so the key tell ids apart.  What is read as an id is exactly the four forms with
thirty-two digits in either case, alone or as a JSON string.  Whatever the form, the id is the one that the
digits denote, and its text, its key and its JSON are made of the digits in lower case. -/
theorem spellings_normalise :
    (∀ id : Id,
      (∃ digits : List Char, digits.length = 32 ∧ (∀ digit ∈ digits, digit ∈ Hex.lowerDigits) ∧
        Hex.Denotes digits id.bytes ∧ id.text = String.ofList (inGroups digits)) ∧
      id.text.length = 36 ∧
      parse? id.text = some id ∧
      ofJson? id.json = some id) ∧
    Function.Injective storageKey ∧
    (∀ text : String, (parse? text).isSome ↔
      ∃ digits, Spells text digits ∧ ∀ digit ∈ digits, digit.toLower ∈ Hex.lowerDigits) ∧
    (∀ text digits id, Spells text digits → parse? text = some id →
      Hex.Denotes digits id.bytes ∧
      id.text = written digits ∧
      id.storageKey = "session:" ++ written digits ∧
      id.json = Text.utf8 ("\"" ++ written digits ++ "\"")) ∧
    (∀ text digits id other others another,
      Spells text digits → parse? text = some id →
      Spells other others → parse? other = some another →
      (id.storageKey = another.storageKey ↔ digits.map Char.toLower = others.map Char.toLower)) ∧
    (∀ bytes, ofJson? bytes = ((Json.decode? bytes).bind Json.Value.text?).bind parse?) := by
  refine ⟨fun id => ⟨id.exists_written, ?_, id.parse?_text, id.ofJson?_json⟩,
    fun _ _ same => storageKey_inj.mp same, fun _ => isSome_parse?_iff, ?_, ?_, ofJson?_eq⟩
  · obtain ⟨digits, size, _, _, text⟩ := id.exists_written
    rw [text, String.length_ofList, length_inGroups size]
  · intro text digits id spells read
    obtain ⟨denotes, same⟩ := written_of_parse? spells read
    exact ⟨denotes, same, by rw [storageKey, same, Store.sessionPrefix], by rw [json_eq, same]⟩
  · intro text digits id other others another spells read spellsToo readToo
    exact storageKey_eq_iff spells spellsToo read readToo

/-- An id in braces and upper case has the key of the same digits alone and in lower case. -/
theorem spellings_normalise_braced :
    ∃ id another : Id,
      parse? "\x7b67E55044-10B1-426F-9247-BB680E5FE0C8\x7d" = some id ∧
      parse? "67e5504410b1426f9247bb680e5fe0c8" = some another ∧
      id.storageKey = another.storageKey ∧
      id.storageKey = "session:67e55044-10b1-426f-9247-bb680e5fe0c8" := by
  let upper : List Char := "67E5504410B1426F9247BB680E5FE0C8".toList
  let lower : List Char := "67e5504410b1426f9247bb680e5fe0c8".toList
  have braced : Spells "\x7b67E55044-10B1-426F-9247-BB680E5FE0C8\x7d" upper :=
    ⟨by decide, .braced, by decide⟩
  have plain : Spells "67e5504410b1426f9247bb680e5fe0c8" lower := ⟨by decide, .plain, by decide⟩
  have upperDigits : upper.all (fun digit => digit.toLower ∈ Hex.lowerDigits) = true := by decide
  have lowerDigits : lower.all (fun digit => digit.toLower ∈ Hex.lowerDigits) = true := by decide
  obtain ⟨_, _, accepted, normal, keys, _⟩ := spellings_normalise
  obtain ⟨id, read⟩ := Option.isSome_iff_exists.mp ((accepted _).mpr ⟨upper, braced,
    fun digit member => of_decide_eq_true (List.all_eq_true.mp upperDigits digit member)⟩)
  obtain ⟨another, readToo⟩ := Option.isSome_iff_exists.mp ((accepted _).mpr ⟨lower, plain,
    fun digit member => of_decide_eq_true (List.all_eq_true.mp lowerDigits digit member)⟩)
  refine ⟨id, another, read, readToo, ?_, ?_⟩
  · exact (keys _ _ _ _ _ _ braced read plain readToo).mpr (by decide)
  · rw [(normal _ _ _ braced read).2.2.1]
    decide

end Id
end Session
end AntiForgery
