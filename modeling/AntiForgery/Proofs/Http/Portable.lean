import AntiForgery.Http.Gate
import AntiForgery.Proofs.Session.Keys
import AntiForgery.Proofs.Token.Minting

/-!
# Tokens that pass the borders

Tokens travel in bodies and in headers.  A token for a session id that is admitted is short and
visible throughout, so neither way it is refused or changed, whatever characters the session id has
and however many bytes they take in the payload.
-/

namespace AntiForgery

theorem Base64.encode_visible {bytes : List UInt8} :
    ∀ letter ∈ encode bytes, 0x21 ≤ letter ∧ letter ≤ 0x7E := by
  have cases : ∀ n : Fin 64, 0x21 ≤ symbol n.val ∧ symbol n.val ≤ 0x7E := by decide
  exact forall_mem_encode (fun value small => cases ⟨value, small⟩) (by decide)

/-- The text of a session id is its thirty-two digits and four hyphens. -/
theorem Session.Id.byteCount_text (id : Id) : Text.byteCount id.text = 36 := by
  rw [Text.byteCount, utf8_text, length_hyphenate id.length_encode_bytes]

namespace Admission

/-- A session id that is admitted is short. -/
theorem byteCount_of_sessionId {session : String} (admitted : sessionId session = .ok ()) :
    Text.byteCount session ≤ 255 := by
  rw [sessionId] at admitted
  split at admitted
  · cases admitted
  · split at admitted
    · cases admitted
    · next short => exact Nat.le_of_not_lt short

/-- A text that is neither empty nor too long is admitted as a token. -/
theorem token_of_byteCount {text : String} (notEmpty : 1 ≤ Text.byteCount text)
    (short : Text.byteCount text ≤ 4096) : token text = .ok () := by
  have filled : text ≠ "" := by
    rintro rfl
    exact absurd notEmpty (by decide)
  have fits : ¬ tokenLimit < Text.byteCount text := Nat.not_lt.mpr short
  rw [token, if_neg filled, if_neg fits]

end Admission

/-- The payload of an admitted session id fits under one nonce. -/
theorem Token.Payload.length_encode_le_payloadLimit {payload : Payload}
    (small : Text.byteCount payload.session ≤ 255) :
    payload.encode.length ≤ Cipher.Envelope.payloadLimit := by
  have bound := payload.length_encode_le
  simp only [Cipher.Envelope.payloadLimit]
  omega

namespace Http

/-- Every byte of the text prints in ASCII and is no blank. -/
def IsVisible (text : String) : Prop :=
  ∀ byte ∈ Text.utf8 text, 0x21 ≤ byte ∧ byte ≤ 0x7E

/-- A visible text arrives in a header as it was sent. -/
theorem visibleText?_utf8 {text : String} (visible : IsVisible text) :
    visibleText? (Text.utf8 text) = some text := by
  have shown : (Text.utf8 text).all isVisible = true := by
    rw [List.all_eq_true]
    intro byte member
    have above := UInt8.le_trans (by decide : (0x20 : UInt8) ≤ 0x21) (visible byte member).1
    have below := UInt8.lt_of_le_of_lt (visible byte member).2 (by decide : (0x7E : UInt8) < 0x7F)
    simp only [isVisible, above, below, decide_true, Bool.and_true, Bool.true_or]
  have ascii : ∀ byte ∈ Text.utf8 text, byte < 128 := fun byte member =>
    UInt8.lt_of_le_of_lt (visible byte member).2 (by decide)
  rw [visibleText?, if_pos shown, Text.ofAscii_utf8 ascii]

theorem isHeaderValue_of_isVisible {text : String} (visible : IsVisible text) :
    isHeaderValue text = true := by
  rw [isHeaderValue, List.all_eq_true]
  intro byte member
  have above := UInt8.le_trans (by decide : (0x20 : UInt8) ≤ 0x21) (visible byte member).1
  have below := UInt8.lt_of_le_of_lt (visible byte member).2 (by decide : (0x7E : UInt8) < 0x7F)
  simp only [isHeaderByte, above, decide_true, bne_iff_ne.mpr (UInt8.ne_of_lt below),
    Bool.and_true, Bool.true_or]

/-- The letters of a token print, whatever it says. -/
theorem isVisible_of_mint
    {engine : Token.Engine}
    {session token : String}
    {issued : Seconds}
    {source : Entropy}
    (minted : (engine.mint session issued source).1 = .ok token) :
    IsVisible token := by
  obtain rfl := Token.Engine.eq_tokenOf_of_mint minted
  rw [IsVisible, Token.Engine.utf8_tokenOf]
  exact Base64.encode_visible

/-- The token passes every border: it may stand in a body and in a header, and is read there as it
was written. -/
structure Portable (token : String) : Prop where
  notEmpty : 1 ≤ Text.byteCount token
  short : Text.byteCount token ≤ 4096
  visible : IsVisible token
  admitted : Admission.token token = .ok ()
  sendable : isHeaderValue token = true
  shown : visibleText? (Text.utf8 token) = some token

/-- A token for a session id of at most 255 bytes is portable: six bytes for each byte of the id,
what stands around it, the nonce and the tag take at most 2144 letters. -/
theorem portable_of_mint
    {engine : Token.Engine}
    {session token : String}
    {issued : Seconds}
    {source : Entropy}
    (minted : (engine.mint session issued source).1 = .ok token)
    (small : Text.byteCount session ≤ 255) :
    Portable token := by
  have visible := isVisible_of_mint minted
  obtain rfl := Token.Engine.eq_tokenOf_of_mint minted
  have size : (source.take 12).length = 12 := Entropy.length_take 12 source
  generalize source.take 12 = nonce at size visible
  have bytes := engine.utf8_tokenOf nonce ⟨session, issued⟩
  have payload := Token.Payload.length_encode_le ⟨session, issued⟩
  have envelope := Cipher.Envelope.length_join engine.schedule nonce
    (Token.Payload.encode ⟨session, issued⟩)
  have letters : Text.byteCount (engine.tokenOf nonce ⟨session, issued⟩) =
      4 * ((nonce.length + (Token.Payload.encode ⟨session, issued⟩).length + 16 + 2) / 3) := by
    rw [Text.byteCount, bytes, Base64.length_encode, envelope, Cipher.Gcm.tagSize]
  have notEmpty : 1 ≤ Text.byteCount (engine.tokenOf nonce ⟨session, issued⟩) := by omega
  have short : Text.byteCount (engine.tokenOf nonce ⟨session, issued⟩) ≤ 4096 := by
    simp only at payload
    omega
  exact ⟨notEmpty, short, visible, Admission.token_of_byteCount notEmpty short,
    isHeaderValue_of_isVisible visible, visibleText?_utf8 visible⟩

end Http
end AntiForgery
