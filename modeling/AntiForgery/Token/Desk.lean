import AntiForgery.Refusal
import AntiForgery.Token.Engine
import AntiForgery.World

/-!
# The token desk

The engine as the rest of the service uses it: with the source of entropy, the store and the wall
clock of the world, with lines for the journal, and with errors sorted into answers and refusals.  A
token that is expired or not genuine is simply not valid; only a failure of the store or the cipher
is a refusal.
-/

namespace AntiForgery
namespace Token

/-- The number of bytes of a token that the journal shows. -/
def excerptSize : Nat := 20

/-- The part of a token that the journal shows: its first twenty bytes, or all of it where these end
inside a character or the token is shorter. -/
def excerpt (token : String) : String :=
  (Text.ofUtf8? ((Text.utf8 token).take excerptSize)).getD token

/-- Checks a token at the wall clock. -/
def Engine.checkNow (engine : Engine) (session token : String) : Action (Except Error Bool) := do
  let now ← Action.now
  Action.onStore (engine.check session token now)

/-- Issues a token. -/
def issue (engine : Engine) (session : String) (issued : Seconds) :
    Action (Except Refusal String) := do
  match ← Action.onEntropy (engine.mint session issued) with
  | .error error => return .error (.encryption error.message)
  | .ok token =>
      Action.log .debug ("🔐 Generated CSRF token: " ++ excerpt token ++ "...")
      return .ok token

/-- Checks a token from a client and spends it. -/
def redeem (engine : Engine) (session token : String) : Action (Except Refusal Bool) := do
  match ← engine.checkNow session token with
  | .ok true =>
      Action.log .debug ("✅ CSRF token accepted: " ++ excerpt token ++ "...")
      return .ok true
  | .ok false =>
      Action.log .warn "❌ CSRF token rejected (wrong session or already used)"
      return .ok false
  | .error .expired =>
      Action.log .warn "❌ CSRF token expired"
      return .ok false
  | .error .malformed =>
      Action.log .warn "❌ CSRF token malformed or forged"
      return .ok false
  | .error (.store failure) => return .error (.store failure)
  | .error error => return .error (.encryption error.message)

end Token
end AntiForgery
