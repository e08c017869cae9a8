import AntiForgery.Config
import AntiForgery.Server

/-!
# What a configuration promises

A configuration that was read from variables has a secret that keys the cipher and a window between
a second and thirty days, so the service of it can always be set up.
-/

namespace AntiForgery

/-- Readings in a row give a value only if each of them has given one. -/
theorem bind_eq_ok_iff {first : Except ε α} {next : α → Except ε β} {value : β} :
    first >>= next = .ok value ↔ ∃ found, first = .ok found ∧ next found = .ok value := by
  cases first <;> simp [bind, Except.bind]

namespace Config

/-- What a reading of the variables has found. -/
structure Reads (lookup : Lookup) (config : Config) : Prop where
  secret : readSecret lookup = .ok config.secret
  tokenWindow : readInteger lookup "CSRF_EXPIRE_SECONDS" 3600 expireLimit = .ok config.tokenWindow
  sessionDays : readInteger lookup "SESSION_DURATION_DAYS" 7 durationLimit = .ok config.sessionDays
  backend : readBackend lookup = .ok config.backend
  bindAddress : readAddress lookup = .ok config.bindAddress

/-- A configuration is made of what each of its readers has found. -/
theorem reads_of_ofLookup {lookup : Lookup} {config : Config}
    (accepted : ofLookup lookup = .ok config) : Reads lookup config := by
  obtain ⟨secret, readSecret, accepted⟩ := bind_eq_ok_iff.mp accepted
  obtain ⟨tokenWindow, readWindow, accepted⟩ := bind_eq_ok_iff.mp accepted
  obtain ⟨sessionDays, readDays, accepted⟩ := bind_eq_ok_iff.mp accepted
  obtain ⟨backend, readBackend, accepted⟩ := bind_eq_ok_iff.mp accepted
  obtain ⟨bindAddress, readAddress, accepted⟩ := bind_eq_ok_iff.mp accepted
  cases accepted
  exact ⟨readSecret, readWindow, readDays, readBackend, readAddress⟩

theorem length_of_readSecret {lookup : Lookup} {secret : List UInt8}
    (read : readSecret lookup = .ok secret) : secret.length ∈ Cipher.secretSizes := by
  rw [readSecret] at read
  split at read
  · cases read
  · split at read
    · cases read
    · split at read
      · next sized =>
          cases read
          exact sized
      · cases read

/-- A number that is read is within its bounds, whether it was set or left out. -/
theorem bounds_of_readInteger {lookup : Lookup} {name : String} {default limit value : Int64}
    (within : 1 ≤ default ∧ default ≤ limit)
    (read : readInteger lookup name default limit = .ok value) : 1 ≤ value ∧ value ≤ limit := by
  rw [readInteger] at read
  split at read
  · cases read
    exact within
  · split at read
    · cases read
    · split at read
      · next bounds =>
          cases read
          exact bounds
      · cases read

/-- The secret of a configuration keys the cipher. -/
theorem length_secret {lookup : Lookup} {config : Config}
    (accepted : ofLookup lookup = .ok config) : config.secret.length ∈ Cipher.secretSizes :=
  length_of_readSecret (reads_of_ofLookup accepted).secret

/-- The window of a configuration is a second at least and thirty days at most. -/
theorem bounds_tokenWindow {lookup : Lookup} {config : Config}
    (accepted : ofLookup lookup = .ok config) :
    1 ≤ config.tokenWindow ∧ config.tokenWindow ≤ expireLimit :=
  bounds_of_readInteger (by decide) (reads_of_ofLookup accepted).tokenWindow

/-- No stopped sum of clock readings hides that a token is too old. -/
theorem tokenWindow_lt {lookup : Lookup} {config : Config}
    (accepted : ofLookup lookup = .ok config) : config.tokenWindow < Int64.maxValue :=
  Int64.lt_of_le_of_lt (bounds_tokenWindow accepted).2 (by decide)

/-- The service of a configuration can be set up: it seals under the secret and takes tokens for as
long as the window says. -/
theorem serviceOf_of_ofLookup {lookup : Lookup} {config : Config}
    (accepted : ofLookup lookup = .ok config) (world : World) :
    (Server.serviceOf config world).1 =
      .ok ⟨⟨.ofKey config.secret, config.tokenWindow⟩,
        ⟨config.sessionDays, config.production⟩⟩ := by
  have made := length_secret accepted
  simp only [Server.serviceOf, Service.setUp, Token.Engine.ofSecret,
    Cipher.KeySchedule.ofSecret?, if_pos made]
  rfl

end Config
end AntiForgery
