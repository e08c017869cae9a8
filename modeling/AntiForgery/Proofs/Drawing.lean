import AntiForgery.Proofs.Session.Register
import AntiForgery.Proofs.Token.Faults

/-!
# What random bytes are drawn for

Random bytes are drawn for two things only: twelve for the nonce of a token, and sixteen for the id of
a session.  When too few are ready for a nonce, none are drawn and no token is made.  A nonce is in the
token that is told, and an id that is told is made of the bytes that were drawn for it.
-/

namespace AntiForgery

/-! ## Actions that draw nothing -/

namespace Action

/-- The action leaves the random bytes as they are. -/
def Dry (action : Action α) : Prop :=
  ∀ world, (action world).2.entropy = world.entropy

theorem dry_pure (value : α) : (pure value : Action α).Dry := fun _ => rfl

/-- Dry actions one after the other are dry. -/
theorem Dry.bind
    {action : Action α}
    {next : α → Action β}
    (dry : action.Dry)
    (dryNext : ∀ value, (next value).Dry) :
    Action.Dry (action >>= next) := by
  intro world
  rw [bind_apply, dryNext]
  exact dry world

theorem dry_log (level : Journal.Level) (message : String) : (log level message).Dry :=
  fun _ => rfl

theorem dry_now : now.Dry := fun _ => rfl

theorem dry_ask (call : Store.Call α) : (ask call).Dry := fun _ => rfl

theorem dry_onStore (step : Store → α × Store) : (onStore step).Dry := fun _ => rfl

theorem closed_dry : Closed Dry where
  pure := dry_pure
  bind := Dry.bind
  log := dry_log
  now := dry_now

end Action

/-- The desk draws nothing to check a token. -/
theorem Token.dry_redeem (engine : Engine) (session token : String) :
    (redeem engine session token).Dry :=
  redeem_of_closed Action.closed_dry fun _ => Action.dry_onStore _

theorem Session.dry_isLive (id : Id) : (isLive id).Dry :=
  isLive_of_closed Action.closed_dry (Action.dry_ask _)

theorem Session.dry_finish (id : Id) : (finish id).Dry :=
  finish_of_closed Action.closed_dry (Action.dry_ask _)

/-! ## Drawing -/

/-- What random bytes are drawn for. -/
inductive Draw where
  /-- The nonce of a token. -/
  | nonce
  /-- The id of a session. -/
  | id
  deriving DecidableEq, Repr

/-- How many bytes are drawn. -/
def Draw.size : Draw → Nat
  | .nonce => 12
  | .id => 16

/-- Whether a draw gets its bytes from a source: a nonce if they are ready, and an id always. -/
def Draw.isGranted (source : Entropy) : Draw → Bool
  | .nonce => decide (12 ≤ source.ready)
  | .id => true

/-- How many bytes a source loses to a draw, if there is one that gets its bytes. -/
def Entropy.loss (source : Entropy) : Option Draw → Nat
  | none => 0
  | some draw => if draw.isGranted source then draw.size else 0

/-- What an outcome tells: tokens, ids of new sessions, and that something went wrong inside. -/
structure Report where
  /-- The token is told. -/
  token : String → Prop
  /-- The id is told. -/
  id : Session.Id → Prop
  /-- An internal error is told. -/
  failed : Prop

/-- Neither a token nor an id is told. -/
structure Report.Silent (report : Report) : Prop where
  token : ∀ token, ¬ report.token token
  id : ∀ id, ¬ report.id id

/-- What becomes of the random bytes and the store when something is drawn, or nothing, and what the
outcome tells.  Bytes that were drawn are lost in two cases: a payload can be too long to be sealed, and
the store can fail to record a session for as long as it is to last. -/
inductive Draws
    (engine : Token.Engine)
    (long : Prop)
    (lifetime : Nat)
    (report : Report)
    (source rest : Entropy)
    (store after : Store) : Option Draw → Prop
  | idle
      (kept : rest = source)
      (silent : report.Silent) :
      Draws engine long lifetime report source rest store after none
  | starved
      (few : source.ready < 12)
      (kept : rest = source)
      (keptStore : after = store)
      (silent : report.Silent)
      (failed : report.failed) :
      Draws engine long lifetime report source rest store after (some .nonce)
  | sealed
      (payload : Token.Payload)
      (enough : 12 ≤ source.ready)
      (left : rest = source.drop 12)
      (told : ∀ token, report.token token ↔ token = engine.tokenOf (source.take 12) payload)
      (idless : ∀ id, ¬ report.id id) :
      Draws engine long lifetime report source rest store after (some .nonce)
  | unsealed
      (enough : 12 ≤ source.ready)
      (left : rest = source.drop 12)
      (tooLong : long)
      (silent : report.Silent)
      (failed : report.failed) :
      Draws engine long lifetime report source rest store after (some .nonce)
  | recorded
      (left : rest = source.drop 16)
      (told : ∀ id, report.id id ↔ id = .next source)
      (tokenless : ∀ token, ¬ report.token token) :
      Draws engine long lifetime report source rest store after (some .id)
  | unrecorded
      (failure : Store.Failure)
      (left : rest = source.drop 16)
      (refused : (store.perform (.record (Session.Id.next source).storageKey lifetime)).1 =
        .error failure)
      (silent : report.Silent)
      (failed : report.failed) :
      Draws engine long lifetime report source rest store after (some .id)

namespace Draws

variable {engine : Token.Engine} {long : Prop} {lifetime : Nat} {report : Report}
variable {source rest : Entropy} {store after : Store} {draw? : Option Draw}

/-- What is drawn stays so under a weaker reason for a payload to be too long. -/
theorem imp_long
    {other : Prop}
    (draws : Draws engine long lifetime report source rest store after draw?)
    (implies : long → other) :
    Draws engine other lifetime report source rest store after draw? := by
  cases draws with
  | idle kept silent => exact .idle kept silent
  | starved few kept keptStore silent failed => exact .starved few kept keptStore silent failed
  | sealed payload enough left told idless => exact .sealed payload enough left told idless
  | unsealed enough left tooLong silent failed =>
      exact .unsealed enough left (implies tooLong) silent failed
  | recorded left told tokenless => exact .recorded left told tokenless
  | unrecorded failure left refused silent failed =>
      exact .unrecorded failure left refused silent failed

/-- The bytes that are lost stand first, and the others are left. -/
theorem drop_loss (draws : Draws engine long lifetime report source rest store after draw?) :
    rest = source.drop (source.loss draw?) := by
  cases draws with
  | idle kept silent => rw [kept, Entropy.loss, Entropy.drop_zero]
  | starved few kept keptStore silent failed =>
      have refused : Draw.nonce.isGranted source = false := by simp [Draw.isGranted, few]
      rw [kept, Entropy.loss, refused, if_neg (by decide), Entropy.drop_zero]
  | sealed payload enough left told idless =>
      have granted : Draw.nonce.isGranted source = true := by simpa [Draw.isGranted] using enough
      rw [left, Entropy.loss, granted, if_pos rfl, Draw.size]
  | unsealed enough left tooLong silent failed =>
      have granted : Draw.nonce.isGranted source = true := by simpa [Draw.isGranted] using enough
      rw [left, Entropy.loss, granted, if_pos rfl, Draw.size]
  | recorded left told tokenless => exact left
  | unrecorded failure left refused silent failed => exact left

/-- What is neither a token nor an id draws nothing. -/
theorem of_none (draws : Draws engine long lifetime report source rest store after none) :
    report.Silent ∧ rest = source := by
  cases draws with
  | idle kept silent => exact ⟨silent, kept⟩

/-- Who has too few bytes for a nonce draws none, and fails without a trace. -/
theorem of_few
    (draws : Draws engine long lifetime report source rest store after (some .nonce))
    (few : source.ready < 12) :
    report.failed ∧ report.Silent ∧ rest = source ∧ after = store := by
  cases draws with
  | starved few kept keptStore silent failed => exact ⟨failed, silent, kept, keptStore⟩
  | sealed payload enough left told idless => exact absurd few (Nat.not_lt.mpr enough)
  | unsealed enough left tooLong silent failed => exact absurd few (Nat.not_lt.mpr enough)

/-- A token that is told has the next twelve bytes for a nonce. -/
theorem of_token
    (draws : Draws engine long lifetime report source rest store after draw?)
    {token : String}
    (told : report.token token) :
    draw? = some .nonce ∧
      12 ≤ source.ready ∧
      ∃ payload, token = engine.tokenOf (source.take 12) payload := by
  cases draws with
  | idle kept silent => exact absurd told (silent.token token)
  | starved few kept keptStore silent failed => exact absurd told (silent.token token)
  | sealed payload enough left tells idless => exact ⟨rfl, enough, payload, (tells token).mp told⟩
  | unsealed enough left tooLong silent failed => exact absurd told (silent.token token)
  | recorded left tells tokenless => exact absurd told (tokenless token)
  | unrecorded failure left refused silent failed => exact absurd told (silent.token token)

/-- An id that is told is made of the next sixteen bytes. -/
theorem of_id
    (draws : Draws engine long lifetime report source rest store after draw?)
    {id : Session.Id}
    (told : report.id id) :
    draw? = some .id ∧ id = .next source := by
  cases draws with
  | idle kept silent => exact absurd told (silent.id id)
  | starved few kept keptStore silent failed => exact absurd told (silent.id id)
  | sealed payload enough left tells idless => exact absurd told (idless id)
  | unsealed enough left tooLong silent failed => exact absurd told (silent.id id)
  | recorded left tells tokenless => exact ⟨rfl, (tells id).mp told⟩
  | unrecorded failure left refused silent failed => exact absurd told (silent.id id)

/-- A nonce that is drawn is told in one token, unless the payload is too long. -/
theorem of_nonce
    (draws : Draws engine long lifetime report source rest store after (some .nonce))
    (enough : 12 ≤ source.ready) :
    (∃! token, report.token token) ∨ long ∧ report.failed := by
  cases draws with
  | starved few => exact absurd enough (Nat.not_le.mpr few)
  | sealed payload enough left tells idless =>
      exact .inl ⟨_, (tells _).mpr rfl, fun token => (tells token).mp⟩
  | unsealed enough left tooLong silent failed => exact .inr ⟨tooLong, failed⟩

/-- Bytes that are drawn for an id are told in one, unless the store does not record it. -/
theorem of_start
    (draws : Draws engine long lifetime report source rest store after (some .id)) :
    (∃! id, report.id id) ∨
      report.failed ∧ ∃ failure,
        (store.perform (.record (Session.Id.next source).storageKey lifetime)).1 =
          .error failure := by
  cases draws with
  | recorded left tells tokenless =>
      exact .inl ⟨_, (tells _).mpr rfl, fun id => (tells id).mp⟩
  | unrecorded failure left refused silent failed => exact .inr ⟨failed, failure, refused⟩

end Draws

/-! ## Minting -/

namespace Token

/-- A token is minted unless too few random bytes are ready for a nonce, which are then left alone, or
the payload is too long, which is found out under the nonce. -/
theorem Engine.mint_cases
    (engine : Engine)
    (session : String)
    (issued : Seconds)
    (source : Entropy) :
    (source.ready < 12 ∧
      engine.mint session issued source = (.error (.sealFailed .noEntropy), source)) ∨
    12 ≤ source.ready ∧
      (engine.mint session issued source =
          (.ok (engine.tokenOf (source.take 12) ⟨session, issued⟩), source.drop 12) ∨
        Cipher.Envelope.payloadLimit < (Payload.encode ⟨session, issued⟩).length ∧
          engine.mint session issued source =
            (.error (.sealFailed .tooLong), source.drop 12)) := by
  by_cases enough : 12 ≤ source.ready
  · refine .inr ⟨enough, ?_⟩
    by_cases short : (Payload.encode ⟨session, issued⟩).length ≤ Cipher.Envelope.payloadLimit
    · exact .inl (engine.mint_of_ready short enough)
    · have drawn : source.draw? Cipher.Gcm.nonceSize = some (source.take 12, source.drop 12) :=
        Entropy.draw?_eq_some_iff.mpr ⟨enough, rfl, rfl⟩
      refine .inr ⟨Nat.lt_of_not_le short, ?_⟩
      simp only [mint, enclose, drawn, Cipher.Envelope.seal?, if_neg short]
  · have few := Nat.lt_of_not_le enough
    have starved : source.draw? Cipher.Gcm.nonceSize = none := Entropy.draw?_eq_none_iff.mpr few
    refine .inl ⟨few, ?_⟩
    simp only [mint, enclose, starved]

/-- Whoever has a token minted and tells it draws a nonce. -/
theorem Engine.draws_mint
    (engine : Engine)
    (session : String)
    (issued : Seconds)
    (source : Entropy)
    (store : Store)
    (lifetime : Nat)
    {report : Report}
    (told : ∀ token, report.token token ↔ (engine.mint session issued source).1 = .ok token)
    (idless : ∀ id, ¬ report.id id)
    (failed : ∀ error, (engine.mint session issued source).1 = .error error → report.failed) :
    Draws engine (Cipher.Envelope.payloadLimit < (Payload.encode ⟨session, issued⟩).length) lifetime
      report source (engine.mint session issued source).2 store store (some .nonce) := by
  have silent : ∀ error, (engine.mint session issued source).1 = .error error → report.Silent := by
    intro error missed
    refine ⟨fun token => ?_, idless⟩
    rw [told, missed]
    exact nofun
  rcases engine.mint_cases session issued source with
    ⟨few, missed⟩ | ⟨enough, minted | ⟨tooLong, missed⟩⟩
  · have error := congrArg Prod.fst missed
    rw [missed]
    exact .starved few rfl rfl (silent _ error) (failed _ error)
  · rw [minted] at told ⊢
    refine .sealed ⟨session, issued⟩ enough rfl (fun token => ?_) idless
    rw [told, Except.ok.injEq, eq_comm]
  · have error := congrArg Prod.fst missed
    rw [missed]
    exact .unsealed enough rfl tooLong (silent _ error) (failed _ error)

theorem issue_entropy
    (engine : Engine)
    (session : String)
    (issued : Seconds)
    (world : World) :
    (issue engine session issued world).2.entropy =
      (engine.mint session issued world.entropy).2 := by
  rw [issue, Action.bind_apply, Action.onEntropy]
  cases (engine.mint session issued world.entropy).1 with
  | error error => rfl
  | ok token => rfl

end Token

/-! ## New sessions -/

/-- A session is not started only where the store fails. -/
theorem Session.error_of_start
    {lifetime : Nat}
    {world : World}
    {refusal : Refusal}
    (missed : (start lifetime world).1 = .error refusal) :
    ∃ failure, refusal = .store failure := by
  rcases start_cases lifetime world with
    ⟨failure, _, refused, _⟩ | ⟨deadline, _, _, started, _⟩
  · rw [refused] at missed
    exact ⟨failure, (Except.error.inj missed).symm⟩
  · rw [started] at missed
    cases missed

/-- Whoever has a session started and tells its id draws an id. -/
theorem Session.draws_start
    (engine : Token.Engine)
    (lifetime : Nat)
    (world : World)
    {report : Report}
    (told : ∀ id, report.id id ↔ (start lifetime world).1 = .ok id)
    (tokenless : ∀ token, ¬ report.token token)
    (failed : ∀ refusal, (start lifetime world).1 = .error refusal → report.failed) :
    Draws engine False lifetime report world.entropy (start lifetime world).2.entropy
      world.store (start lifetime world).2.store (some .id) := by
  have left := start_entropy lifetime world
  rcases start_cases lifetime world with
    ⟨failure, lost, refused, _⟩ | ⟨deadline, _, _, started, _⟩
  · refine .unrecorded failure left lost ⟨tokenless, fun id => ?_⟩ (failed _ refused)
    rw [told, refused]
    exact nofun
  · refine .recorded left (fun id => ?_) tokenless
    rw [told, started, Except.ok.injEq, eq_comm]

end AntiForgery
