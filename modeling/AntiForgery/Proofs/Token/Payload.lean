import AntiForgery.Proofs.Json.Number
import AntiForgery.Proofs.Json.Record
import AntiForgery.Token.Payload
import Mathlib.Data.Option.Basic

/-!
# Payloads are read back

What is written of a payload is read as that payload, whatever the session is called and whenever
the token was issued.  So no two payloads are written alike, and a written payload is little longer
than six times the name of its session.
-/

namespace AntiForgery

namespace Integer

/-- The text of an integer is ASCII. -/
theorem digits_lt (value : Int) : ∀ byte ∈ digits value, byte < 128 := by
  have digit : ∀ byte, Text.isDigitByte byte = true → byte < 128 := by
    intro byte digit
    simp only [Text.isDigitByte, Bool.and_eq_true, decide_eq_true_eq] at digit
    exact UInt8.lt_of_le_of_lt digit.2 (by decide)
  intro byte member
  rw [digits] at member
  split at member
  · rcases List.mem_cons.mp member with rfl | member
    · decide
    · exact digit byte (isDigitByte_of_mem_natDigits member)
  · exact digit byte (isDigitByte_of_mem_natDigits member)

/-- An integer of sixty-four bits has at most twenty characters. -/
theorem length_digits_le (value : Int64) : (digits value.toInt).length ≤ 20 := by
  have least := value.le_toInt
  have largest := value.toInt_lt
  have short : (natDigits value.toInt.natAbs).length ≤ 19 :=
    length_natDigits_le (by decide) (by omega)
  rw [digits]
  split
  · rw [List.length_cons]
    omega
  · omega

end Integer

namespace Token
namespace Payload

/-- A payload is encoded as an object of two members. -/
theorem encode_eq_object (payload : Payload) :
    payload.encode =
      Json.object sessionField.name (Json.quote payload.session) issuedField.name
        (Integer.digits payload.issued.toInt) := by
  have opening : Text.utf8 "\x7b\"session_id\":" =
      Json.openBrace :: (Json.quote "session_id" ++ [Json.colon]) := by decide +kernel
  have middle : Text.utf8 ",\"timestamp\":" =
      Json.comma :: (Json.quote "timestamp" ++ [Json.colon]) := by decide +kernel
  have closing : Text.utf8 "\x7d" = [Json.closeBrace] := by decide +kernel
  simp only [encode, opening, middle, closing, Json.object, sessionField, issuedField,
    List.append_assoc, List.cons_append, List.nil_append]

theorem isText_encode (payload : Payload) : Text.IsText payload.encode :=
  ((((Text.isText_utf8 _).append (Json.isText_quote _)).append (Text.isText_utf8 _)).append
    (Text.isText_of_ascii (Integer.digits_lt _))).append (Text.isText_utf8 _)

/-- A payload is read back from its bytes. -/
theorem decode?_encode (payload : Payload) : decode? payload.encode = some payload := by
  have whole : ¬ (Text.ofUtf8? payload.encode).isNone = true := by
    simpa using Option.isSome_iff_ne_none.mp payload.isText_encode.isSome
  have session : ∀ rest, sessionField.read (Json.quote payload.session ++ Json.comma :: rest) =
      .ok (payload.session, Json.comma :: rest) :=
    fun rest => Json.readText_quote payload.session _
  have issued : issuedField.read (Integer.digits payload.issued.toInt ++ [Json.closeBrace]) =
      .ok (payload.issued, [Json.closeBrace]) := by
    refine Json.readInteger_digits payload.issued ?_
    rintro _ ⟨⟩
    decide
  have different : issuedField.name ≠ sessionField.name := by decide
  rw [decode?, if_neg whole, encode_eq_object, Json.readRecord_object different session issued]

/-- No two payloads are written alike. -/
theorem encode_inj {first second : Payload} : first.encode = second.encode ↔ first = second := by
  have back : decode? ∘ encode = some := funext decode?_encode
  have injective : Function.Injective (decode? ∘ encode) := back ▸ Option.some_injective _
  exact injective.of_comp.eq_iff

/-- A payload is little longer than its session id, even if every byte of that is escaped. -/
theorem length_encode_le (payload : Payload) :
    payload.encode.length ≤ 6 * Text.byteCount payload.session + 50 := by
  have session := Json.length_quote_le payload.session
  have issued := Integer.length_digits_le payload.issued
  have opening : (Text.utf8 "\x7b\"session_id\":").length = 14 := by decide +kernel
  have middle : (Text.utf8 ",\"timestamp\":").length = 13 := by decide +kernel
  have closing : (Text.utf8 "\x7d").length = 1 := by decide +kernel
  simp only [encode, List.length_append, opening, middle, closing]
  omega

end Payload
end Token
end AntiForgery
