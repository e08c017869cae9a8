import AntiForgery.Cipher.Envelope
import AntiForgery.Entropy
import AntiForgery.Store.Condition
import AntiForgery.Text.Base64
import AntiForgery.Token.Error
import AntiForgery.Token.Payload

/-!
# The token engine

Issues tokens that are bound to a session and good for one use, and checks them.  A token is the
Base64 text of an envelope around a payload: the envelope makes it unforgeable, and a record in the
store makes it good for one use.  A check first judges the token by itself; only a token that passes
reaches the store, and only the claim of its record changes it.
-/

namespace AntiForgery
namespace Token

/-- How far ahead of the clock a token may be stamped, in seconds. -/
def skewLimit : Seconds := 60

/-- What issues and checks tokens. -/
structure Engine where
  /-- The round keys of the secret. -/
  schedule : Cipher.KeySchedule
  /-- How many seconds a token is good for. -/
  window : Seconds
  deriving DecidableEq, Repr

/-- What a token that is genuine and in its window still has to pass. -/
inductive Verdict where
  /-- The token belongs to another session. -/
  | foreign
  /-- The token has to be claimed for so many seconds. -/
  | claim (lifetime : Nat)
  deriving DecidableEq, Repr

namespace Engine

/-- The engine of a secret. -/
def ofSecret (secret : List UInt8) (window : Seconds) : Except Error Engine :=
  match Cipher.KeySchedule.ofSecret? secret with
  | none => .error (.badSecret secret.length)
  | some schedule => .ok ⟨schedule, window⟩

/-- Seals bytes under the next nonce of the source. -/
def enclose (engine : Engine) (bytes : List UInt8) (source : Entropy) :
    Except Error (List UInt8) × Entropy :=
  match source.draw? Cipher.Gcm.nonceSize with
  | none => (.error (.sealFailed .noEntropy), source)
  | some (nonce, source) =>
      match Cipher.Envelope.seal? engine.schedule nonce bytes with
      | none => (.error (.sealFailed .tooLong), source)
      | some envelope => (.ok envelope, source)

/-- The bytes under a seal. -/
def disclose (engine : Engine) (envelope : List UInt8) : Except Error (List UInt8) :=
  match Cipher.Envelope.unseal? engine.schedule envelope with
  | none => .error .malformed
  | some bytes => .ok bytes

/-- A token for a session, stamped with its time of issue. -/
def mint (engine : Engine) (session : String) (issued : Seconds) (source : Entropy) :
    Except Error String × Entropy :=
  match engine.enclose (Payload.encode ⟨session, issued⟩) source with
  | (.error error, source) => (.error error, source)
  | (.ok envelope, source) => (.ok (Text.ofAscii (Base64.encode envelope)), source)

/-- The payload of a token, whatever it says. -/
def read (engine : Engine) (token : String) : Except Error Payload := do
  match Base64.decode? (Text.utf8 token) with
  | none => .error .malformed
  | some envelope =>
      match Payload.decode? (← engine.disclose envelope) with
      | none => .error .malformed
      | some payload => .ok payload

/-- How long a spent token has to be remembered: as long as it could still pass as fresh. -/
def claimLifetime (engine : Engine) (issued now : Seconds) : Nat :=
  ((issued.plus engine.window).minus now).toLifetime

/-- Judges the time of issue: not too far in the future, and not too old. -/
def judgeTime (engine : Engine) (issued now : Seconds) : Except Error Unit :=
  if skewLimit < issued.minus now then .error .malformed
  else if engine.window < now.minus issued then .error .expired
  else .ok ()

/-- Judges a token by itself. -/
def judge (engine : Engine) (session token : String) (now : Seconds) : Except Error Verdict := do
  let payload ← engine.read token
  engine.judgeTime payload.issued now
  if payload.session = session then return .claim (engine.claimLifetime payload.issued now)
  else return .foreign

/-- Claims a token that was judged good.  The record is looked up first, but only the claim itself
decides between two checks that both found nothing. -/
def claim (token : String) (lifetime : Nat) (store : Store) : Except Error Bool × Store :=
  match store.perform (.lookUp (Store.spentKey token)) with
  | (.error failure, store) => (.error (.store failure), store)
  | (.ok .present, store) => (.ok false, store)
  | (.ok .absent, store) =>
      match store.perform (.claim (Store.spentKey token) lifetime) with
      | (.error failure, store) => (.error (.store failure), store)
      | (.ok claimed, store) => (.ok claimed, store)

/-- Checks a token for a session at a reading of the clock.  The answer is whether the token was
good, and if it was, it is spent from now on. -/
def check (engine : Engine) (session token : String) (now : Seconds) (store : Store) :
    Except Error Bool × Store :=
  match engine.judge session token now with
  | .error error => (.error error, store)
  | .ok .foreign => (.ok false, store)
  | .ok (.claim lifetime) => claim token lifetime store

end Engine
end Token
end AntiForgery
