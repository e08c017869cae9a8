import AntiForgery.Store.Failure

/-!
# Errors of the token engine

Why a token could not be issued or was not accepted.  A token that is too old is told apart from one
that is not genuine, though neither is valid.
-/

namespace AntiForgery
namespace Token

/-- Why a payload could not be sealed. -/
inductive SealFailure where
  /-- Too few random bytes are ready for a nonce. -/
  | noEntropy
  /-- The payload is too long for one nonce. -/
  | tooLong
  /-- Another cause, as it was reported. -/
  | other (report : String)
  deriving DecidableEq, Repr

/-- The wording of a cause. -/
def SealFailure.message : SealFailure → String
  | .noEntropy => "Entropy source failed: Input/output error"
  | .tooLong => "Encryption failed: aead::Error"
  | .other report => report

/-- Why a token could not be issued or was not accepted. -/
inductive Error where
  /-- A secret of this many bytes keys no cipher. -/
  | badSecret (size : Nat)
  /-- The payload could not be sealed. -/
  | sealFailed (cause : SealFailure)
  /-- The token is cut short, forged, damaged, or from the future. -/
  | malformed
  /-- The token is older than its window. -/
  | expired
  /-- The store failed. -/
  | store (failure : Store.Failure)
  deriving DecidableEq, Repr

/-- The wording of an error. -/
def Error.message : Error → String
  | .badSecret size => "Invalid CSRF secret length: " ++ toString size ++ " bytes"
  | .sealFailed cause => "Crypto failure: " ++ cause.message
  | .malformed => "Malformed CSRF token"
  | .expired => "CSRF token expired"
  | .store failure => failure.message

end Token
end AntiForgery
