import AntiForgery.Proofs.Text.Utf8
import AntiForgery.Proofs.Token.Desk
import AntiForgery.Proofs.Token.Minting

/-!
# What the journal shows of a token

The journal shows a token by its first twenty bytes, and would show all of it if these were not a text.
But the tokens that it shows were minted or accepted, so they are Base64 of an envelope: they are ASCII,
and the nonce and the tag alone take forty letters, whatever the payload says.  A token that is not
accepted is not shown at all.
-/

namespace AntiForgery
namespace Token

/-- The first twenty characters of a text. -/
def opening (text : String) : String :=
  String.ofList (text.toList.take 20)

/-- The journal shows the opening of the text, and there is more of it than that. -/
structure Abridged (text : String) : Prop where
  ascii : ∀ byte ∈ Text.utf8 text, byte < 128
  long : 20 < Text.byteCount text
  cut : Text.ofUtf8? ((Text.utf8 text).take excerptSize) = some (opening text)
  part : opening text ≠ text

theorem abridged_of_ascii
    {text : String}
    (ascii : ∀ byte ∈ Text.utf8 text, byte < 128)
    (long : 20 < Text.byteCount text) :
    Abridged text := by
  have cut : Text.ofUtf8? ((Text.utf8 text).take excerptSize) = some (opening text) :=
    Text.ofUtf8?_take_utf8 ascii 20
  refine ⟨ascii, long, cut, fun whole => ?_⟩
  have size := congrArg List.length (Text.utf8_ofUtf8? cut)
  rw [whole, List.length_take, ← Text.byteCount, excerptSize] at size
  omega

/-- What cannot be cut is shown as a whole; an abridged text can be cut. -/
theorem Abridged.excerpt_eq {text : String} (abridged : Abridged text) :
    excerpt text = opening text := by
  rw [excerpt, abridged.cut, Option.getD_some]

/-! ## Tokens that open -/

/-- A nonce and a tag take twenty-eight bytes, and these take forty letters. -/
theorem Engine.Opens.le_byteCount
    {engine : Engine}
    {token : String}
    {payload : Payload}
    (opens : engine.Opens token payload) :
    40 ≤ Text.byteCount token := by
  obtain ⟨nonce, text, size, _, written, _⟩ := opens
  rw [Text.byteCount, written, Base64.length_encode, List.length_append, Cipher.Gcm.length_encrypt,
    size, Cipher.Gcm.nonceSize, Cipher.Gcm.tagSize]
  omega

/-- A token that opens is abridged, whatever its payload says and however that is spelt. -/
theorem Engine.Opens.abridged
    {engine : Engine}
    {token : String}
    {payload : Payload}
    (opens : engine.Opens token payload) :
    Abridged token := by
  have long := opens.le_byteCount
  refine abridged_of_ascii ?_ (by omega)
  obtain ⟨_, _, _, _, written, _⟩ := opens
  rw [written]
  exact Base64.encode_lt

theorem abridged_of_accepted
    {engine : Engine}
    {session token : String}
    {now : Seconds}
    {store : Store}
    (accepted : (engine.check session token now store).1 = .ok true) :
    Abridged token := by
  obtain ⟨_, _, judged, _⟩ := Engine.write_of_accepted accepted
  obtain ⟨_, opens, _⟩ := Engine.exists_opens_of_judge judged
  exact opens.abridged

/-! ## Lines of the journal -/

/-- The lines about a token that is issued, with the part of it that is shown. -/
def issueLines : Except Refusal String → List Journal.Line
  | .ok shown => [⟨.debug, "🔐 Generated CSRF token: " ++ shown ++ "..."⟩]
  | .error _ => []

/-- The lines about a token that is checked: what the engine says decides between them, and only that
about an accepted token shows a part of it. -/
def checkLines (shown : String) : Except Error Bool → List Journal.Line
  | .ok true => [⟨.debug, "✅ CSRF token accepted: " ++ shown ++ "..."⟩]
  | .ok false => [⟨.warn, "❌ CSRF token rejected (wrong session or already used)"⟩]
  | .error .expired => [⟨.warn, "❌ CSRF token expired"⟩]
  | .error .malformed => [⟨.warn, "❌ CSRF token malformed or forged"⟩]
  | .error _ => []

/-- Only what is said of an accepted token shows a part of it. -/
theorem checkLines_of_ne
    {answer : Except Error Bool}
    (refused : answer ≠ .ok true)
    (shown other : String) :
    checkLines shown answer = checkLines other answer := by
  cases answer with
  | ok valid =>
      cases valid with
      | true => exact absurd rfl refused
      | false => rfl
  | error error => cases error <;> rfl

/-- What is written about a token that is issued shows its opening. -/
theorem issue_journal
    (engine : Engine)
    (session : String)
    (issued : Seconds)
    (world : World) :
    (issue engine session issued world).2.journal =
      world.journal ++ issueLines ((issue engine session issued world).1.map opening) := by
  rw [issue_fst, issue, Action.bind_apply, Action.onEntropy]
  cases answer : (engine.mint session issued world.entropy).1 with
  | error error => exact (List.append_nil _).symm
  | ok token =>
      have shown := (Engine.opens_of_mint answer).abridged.excerpt_eq
      dsimp only [Except.mapError, Except.map, issueLines]
      rw [Action.bind_apply, Action.pure_apply, Action.log_journal, shown]

/-- What is written about a token that is checked shows its opening, or nothing of it. -/
theorem redeem_journal
    (engine : Engine)
    (session token : String)
    (world : World) :
    (redeem engine session token world).2.journal =
      world.journal ++
        checkLines (opening token) (engine.check session token world.wall world.store).1 := by
  rw [redeem, Action.bind_apply, Engine.checkNow_apply]
  cases answer : (engine.check session token world.wall world.store).1 with
  | ok valid =>
      cases valid with
      | true =>
          have shown := (abridged_of_accepted answer).excerpt_eq
          dsimp only [checkLines]
          rw [Action.bind_apply, Action.pure_apply, Action.log_journal, shown]
      | false => rfl
  | error error =>
      cases error with
      | expired => rfl
      | malformed => rfl
      | _ => exact (List.append_nil _).symm

/-- The desk shows no more of a token than its first twenty characters.  Every token that opens, and so
every token that is issued or accepted, is ASCII and longer than that; of a token that is not accepted
nothing is shown.  So what is written is decided by the answer of the engine and the opening of the
token, whatever the engine, the session and the world. -/
theorem desk_shows_openings :
    (∀ (engine : Engine) token payload,
      engine.read token = .ok payload → Abridged token) ∧
    (∀ (engine : Engine) session issued world token,
      (issue engine session issued world).1 = .ok token →
        Abridged token ∧
        (issue engine session issued world).2.journal = world.journal ++
          [⟨.debug, "🔐 Generated CSRF token: " ++ opening token ++ "..."⟩]) ∧
    (∀ (engine : Engine) session token world,
      (redeem engine session token world).1 = .ok true →
        Abridged token ∧
        (redeem engine session token world).2.journal = world.journal ++
          [⟨.debug, "✅ CSRF token accepted: " ++ opening token ++ "..."⟩]) ∧
    (∀ answer, answer ≠ .ok true →
      ∃ lines, ∀ (engine : Engine) session token world,
        (engine.check session token world.wall world.store).1 = answer →
        (redeem engine session token world).2.journal = world.journal ++ lines) ∧
    (∀ shown answer,
      ∃ lines, ∀ (engine : Engine) session token world,
        opening token = shown →
        (engine.check session token world.wall world.store).1 = answer →
        (redeem engine session token world).2.journal = world.journal ++ lines) ∧
    (∀ result : Except Refusal String,
      ∃ lines, ∀ (engine : Engine) session issued world,
        (issue engine session issued world).1.map opening = result →
        (issue engine session issued world).2.journal = world.journal ++ lines) := by
  refine ⟨?_, ?_, ?_, ?_, ?_, ?_⟩
  · intro engine token payload read
    exact (Engine.read_eq_ok_iff.mp read).abridged
  · intro engine session issued world token told
    have minted := issue_eq_ok_iff.mp told
    refine ⟨(Engine.opens_of_mint minted).abridged, ?_⟩
    rw [issue_journal, told]
    rfl
  · intro engine session token world redeemed
    have accepted := redeem_eq_ok_true_iff.mp redeemed
    refine ⟨abridged_of_accepted accepted, ?_⟩
    rw [redeem_journal, accepted]
    rfl
  · intro answer refused
    refine ⟨checkLines "" answer, ?_⟩
    rintro engine session token world rfl
    rw [redeem_journal, checkLines_of_ne refused (opening token) ""]
  · intro shown answer
    refine ⟨checkLines shown answer, ?_⟩
    rintro engine session token world rfl rfl
    exact redeem_journal engine session token world
  · intro result
    refine ⟨issueLines result, ?_⟩
    rintro engine session issued world rfl
    exact issue_journal engine session issued world

/-- A token for `sid-1` whose payload is an array, such as no token is issued with, is accepted and shown
by its opening, as is one that is issued.  A text whose twentieth byte is the first of two would be shown
as a whole, but is refused with the same line as the empty text. -/
theorem desk_shows_openings_array :
    let engine : Engine := ⟨.ofKey (List.replicate 16 0), 3600⟩
    let world : World := ⟨.new .sound, 1700000000, .ofList (List.replicate 12 0), []⟩
    let token := Text.ofAscii (Base64.encode (Cipher.Envelope.join engine.schedule
      (List.replicate 12 0) (Text.utf8 "[\"sid-1\",1700000000]")))
    (redeem engine "sid-1" token world).1 = .ok true ∧
    Abridged token ∧
    (redeem engine "sid-1" token world).2.journal =
      [⟨.debug, "✅ CSRF token accepted: " ++ opening token ++ "..."⟩] ∧
    (∃ issued,
      (issue engine "sid-1" 1700000000 world).1 = .ok issued ∧
      Abridged issued ∧
      (issue engine "sid-1" 1700000000 world).2.journal =
        [⟨.debug, "🔐 Generated CSRF token: " ++ opening issued ++ "..."⟩]) ∧
    excerpt "+éééééééééé" = "+éééééééééé" ∧
    (engine.check "sid-1" "+éééééééééé" 1700000000 world.store).1 = .error .malformed ∧
    (engine.check "sid-1" "" 1700000000 world.store).1 = .error .malformed ∧
    (redeem engine "sid-1" "+éééééééééé" world).2.journal =
      (redeem engine "sid-1" "" world).2.journal := by
  intro engine world token
  obtain ⟨_, issues, accepts, refuses, _, _⟩ := desk_shows_openings
  have spelt : Payload.decode? (Text.utf8 "[\"sid-1\",1700000000]") =
      some ⟨"sid-1", 1700000000⟩ := by decide +kernel
  have opens : engine.Opens token ⟨"sid-1", 1700000000⟩ :=
    engine.opens_join (by decide) (by decide +kernel) spelt
  have lifetime : engine.claimLifetime 1700000000 1700000000 = 3600 := by decide
  have accepted : (redeem engine "sid-1" token world).1 = .ok true := by
    refine redeem_eq_ok_true_iff.mpr ((Engine.check_eq_true_iff (by decide) _ _ _ rfl).mpr ?_)
    refine ⟨_, ⟨opens, ⟨by decide, by decide⟩, rfl⟩, rfl, ?_⟩
    rw [lifetime]
    decide
  obtain ⟨issued, minted⟩ := engine.exists_mint
    (show (Payload.encode ⟨"sid-1", 1700000000⟩).length ≤ Cipher.Envelope.payloadLimit by
      decide +kernel)
    (show 12 ≤ world.entropy.ready by decide)
  have told := issue_eq_ok_iff.mpr minted
  have split : (engine.check "sid-1" "+éééééééééé" 1700000000 world.store).1 =
      .error .malformed := by decide +kernel
  have empty : (engine.check "sid-1" "" 1700000000 world.store).1 = .error .malformed := by
    decide +kernel
  obtain ⟨lines, refused⟩ := refuses (.error .malformed) (by decide)
  exact ⟨accepted, (accepts _ _ _ _ accepted).1, (accepts _ _ _ _ accepted).2,
    ⟨issued, told, (issues _ _ _ _ _ told).1, (issues _ _ _ _ _ told).2⟩, by decide +kernel, split,
    empty, (refused _ _ _ _ split).trans (refused _ _ _ _ empty).symm⟩

end Token
end AntiForgery
