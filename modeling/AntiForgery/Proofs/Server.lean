import AntiForgery.Proofs.Config.Origins
import AntiForgery.Proofs.Http.Origins
import AntiForgery.Startup

/-!
# What a server is set up from

A server that starts has the service of its configuration and the policy of its origins.  An accepted
configuration always has a service, so only the origins can keep a server from being set up; and if they do
not, then exactly these origins are named in answers.
-/

namespace AntiForgery

/-! ## Setting up -/

namespace Startup

/-- A server that starts is set up from the configuration that the variables give. -/
theorem setUp_of_prepare
    {lookup : Config.Lookup}
    {isTaken : Net.SocketAddress → Bool}
    {world : World}
    {config : Config}
    {server : Server}
    (started : (prepare lookup isTaken world).1 = .ok (config, server)) :
    Config.ofLookup lookup = .ok config ∧ (Server.setUp config world).1 = .ok server := by
  rw [prepare] at started
  cases accepted : Config.ofLookup lookup with
  | error error =>
      rw [accepted] at started
      cases started
  | ok found =>
      simp only [accepted] at started
      cases checked : checkStore found with
      | error fault =>
          rw [checked] at started
          cases started
      | ok _ =>
          simp only [checked, Action.bind_apply] at started
          cases made : (Server.setUp found world).1 with
          | error fault =>
              simp only [made] at started
              cases started
          | ok own =>
              simp only [made] at started
              split at started
              · cases started
              · cases started
                exact ⟨rfl, made⟩

end Startup

namespace Server

/-- A server that is set up has the service of its configuration and the policy of its origins. -/
theorem of_setUp
    {config : Config}
    {world : World}
    {server : Server}
    (made : (setUp config world).1 = .ok server) :
    (serviceOf config world).1 = .ok server.service ∧
      Http.CrossOrigin.ofOrigins config.origins = .ok server.policy := by
  rw [setUp, Action.bind_apply] at made
  cases service : (serviceOf config world).1 with
  | error error =>
      simp only [service] at made
      cases made
  | ok own =>
      simp only [service] at made
      cases policy : Http.CrossOrigin.ofOrigins config.origins with
      | error fault =>
          simp only [policy] at made
          cases made
      | ok origins =>
          simp only [policy] at made
          cases made
          exact ⟨rfl, rfl⟩

section Accepted

variable {lookup : Config.Lookup} {config : Config} (accepted : Config.ofLookup lookup = .ok config)
variable (world : World)
include accepted

/-- The service of an accepted configuration is there in any case, so what comes of it depends on the
origins only. -/
theorem exists_service :
    ∃ service, (setUp config world).1 =
      ((Http.CrossOrigin.ofOrigins config.origins).mapError .origins).map (Server.mk service) := by
  refine ⟨⟨⟨.ofKey config.secret, config.tokenWindow⟩, ⟨config.sessionDays, config.production⟩⟩, ?_⟩
  rw [setUp, Action.bind_apply, Config.serviceOf_of_ofLookup accepted world]
  dsimp only
  cases Http.CrossOrigin.ofOrigins config.origins <;> rfl

theorem setUp_eq_error_iff {fault : Http.CrossOrigin.Fault} :
    (setUp config world).1 = .error (.origins fault) ↔
      Http.CrossOrigin.ofOrigins config.origins = .error fault := by
  obtain ⟨service, made⟩ := exists_service accepted world
  rw [made]
  cases Http.CrossOrigin.ofOrigins config.origins <;> simp [Except.mapError, Except.map]

theorem exists_setUp_iff :
    (∃ server, (setUp config world).1 = .ok server) ↔
      ∃ policy, Http.CrossOrigin.ofOrigins config.origins = .ok policy := by
  obtain ⟨service, made⟩ := exists_service accepted world
  rw [made]
  cases Http.CrossOrigin.ofOrigins config.origins <;> simp [Except.mapError, Except.map]

end Accepted

/-- Before an address is bound, what is wrong with the origins keeps the program from starting. -/
theorem prepare_of_setUp
    {lookup : Config.Lookup}
    {config : Config}
    (accepted : Config.ofLookup lookup = .ok config)
    (reachable : Startup.checkStore config = .ok ())
    {world : World}
    {fault : Fault}
    (failed : (setUp config world).1 = .error fault)
    (isTaken : Net.SocketAddress → Bool) :
    (Startup.prepare lookup isTaken world).1 = .error (.server fault) := by
  rw [Startup.prepare, accepted]
  simp only [reachable, Action.bind_apply, failed, Action.pure_apply]

/-- The origins of a configuration are the trimmed pieces of any text between its commas that are not
empty, whatever else is configured, and the same ones are listed by them with commas between.  The server is
not set up if one of them is no header, or if all are and one is a wildcard, and is set up otherwise.  Then,
in front of the service, a layer that looks the origin of a request up in its list, such as the policy of the
server itself, names an origin in the answer to a request exactly if the first origin header of the request
is one of the configured ones, byte for byte; it names that one, and no wildcard ever. -/
theorem setUp_admits_listed
    {cors : Http.CrossOrigin → Http.Layer}
    (listing : ∀ origins policy, Http.CrossOrigin.ofOrigins origins = .ok policy →
      (cors policy).Lists origins)
    {lookup : Config.Lookup}
    {config : Config}
    (accepted : Config.ofLookup lookup = .ok config)
    (text : String)
    (world : World) :
    let origins := Config.originsOf text
    let configured := { config with origins }
    (∀ others, Config.Lists text others ↔ others = origins) ∧
    Config.ofLookup (lookup.withOrigins text) = .ok configured ∧
    Config.ofLookup (lookup.withOrigins (String.intercalate "," origins)) = .ok configured ∧
    ((setUp configured world).1 = .error (.origins .notHeader) ↔
      ∃ origin ∈ origins, ¬ Http.IsHeaderText origin) ∧
    Startup.Fault.message (.server (.origins .notHeader)) = "failed to parse header value" ∧
    ((setUp configured world).1 = .error (.origins .wildcard) ↔
      (∀ origin ∈ origins, Http.IsHeaderText origin) ∧ "*" ∈ origins) ∧
    ((∃ server, (setUp configured world).1 = .ok server) ↔
      (∀ origin ∈ origins, Http.IsHeaderText origin) ∧ "*" ∉ origins) ∧
    (∀ fault isTaken, Startup.checkStore configured = .ok () →
      (setUp configured world).1 = .error fault →
      (Startup.prepare (lookup.withOrigins text) isTaken world).1 = .error (.server fault)) ∧
    ∀ server, (setUp configured world).1 = .ok server →
      (server.handle = server.policy.layer (Http.handle server.service) ∧
        server.policy.layer.Lists server.policy.origins) ∧
      ∀ request state,
        let answer := (cors server.policy (Http.handle server.service) request state).1
        let named := answer.values "access-control-allow-origin"
        (named ≠ [] ↔ ∃ origin ∈ origins, request.value? "origin" = some (Text.utf8 origin)) ∧
        (∀ origin ∈ origins, request.value? "origin" = some (Text.utf8 origin) →
          named = [origin]) ∧
        "*" ∉ named := by
  intro origins configured
  have made := Config.ofLookup_withOrigins accepted text
  refine ⟨fun _ => Config.lists_iff, made, ?_, ?_, rfl, ?_, ?_,
    fun _ isTaken reachable failed => prepare_of_setUp made reachable failed isTaken, ?_⟩
  · rw [Config.ofLookup_withOrigins accepted, Config.originsOf_intercalate]
  · rw [setUp_eq_error_iff made, Http.CrossOrigin.ofOrigins_eq_notHeader_iff]
  · rw [setUp_eq_error_iff made, Http.CrossOrigin.ofOrigins_eq_wildcard_iff]
  · refine (exists_setUp_iff made world).trans ?_
    simp only [Http.CrossOrigin.ofOrigins_eq_ok_iff, exists_and_left, exists_eq, and_true, origins]
  · intro server started
    refine ⟨⟨server.policy.handle_eq_layer server.service, server.policy.lists_layer⟩, ?_⟩
    intro request state answer named
    have policy := (of_setUp started).2
    have lists := listing _ _ policy
    obtain ⟨⟨_, plain⟩, _⟩ := Http.CrossOrigin.ofOrigins_eq_ok_iff.mp policy
    exact ⟨lists.values_ne_nil_iff server.service request state,
      fun _ listed sent => lists.values_of_listed server.service request state listed sent,
      fun wildcard => plain ((lists.mem_values_iff server.service request state).mp wildcard).1⟩

/-- Two origins with a blank piece between them: the second is admitted and is not in upper case.  With a
wildcard beside them, or with one and a control character, there is no server. -/
theorem setUp_admits_listed_pair :
    let lookup : Config.Lookup := fun name =>
      if name = "CSRF_SECRET" then some "000102030405060708090a0b0c0d0e0f" else none
    let world : World := ⟨.new .sound, 1700000000, .ofList [], []⟩
    let sentFrom (origin : String) : Http.Request :=
      ⟨"GET", "/", [⟨"Origin", Text.utf8 origin⟩, ⟨"Origin", Text.utf8 "https://a.example"⟩], []⟩
    ∃ (config : Config) (server : Server),
      Config.ofLookup (lookup.withOrigins "https://a.example, ,https://b.example") = .ok config ∧
      config.origins = ["https://a.example", "https://b.example"] ∧
      (setUp config world).1 = .ok server ∧
      (server.handle (sentFrom "https://b.example") world).1.values "access-control-allow-origin" =
        ["https://b.example"] ∧
      (server.handle (sentFrom "https://B.example") world).1.values "access-control-allow-origin" =
        [] ∧
      (setUp { config with origins := Config.originsOf "https://a.example, *" } world).1 =
        .error (.origins .wildcard) ∧
      (setUp { config with origins := Config.originsOf "*,https://a\x01.example" } world).1 =
        .error (.origins .notHeader) := by
  intro lookup world sentFrom
  let config : Config :=
    ⟨.four [127, 0, 0, 1] 3000, .redis, "redis://127.0.0.1:6379", 7,
      (List.range 16).map UInt8.ofNat, 3600, ["http://localhost:3000"], false⟩
  have accepted : Config.ofLookup lookup = .ok config := by decide +kernel
  have pair : Config.originsOf "https://a.example, ,https://b.example" =
      ["https://a.example", "https://b.example"] := by
    decide +kernel
  have withWildcard : Config.originsOf "https://a.example, *" = ["https://a.example", "*"] := by
    decide +kernel
  have withControl : Config.originsOf "*,https://a\x01.example" = ["*", "https://a\x01.example"] := by
    decide +kernel
  have lists : ∀ origins policy, Http.CrossOrigin.ofOrigins origins = .ok policy →
      policy.layer.Lists origins := by
    rintro origins policy made
    obtain rfl := (Http.CrossOrigin.ofOrigins_eq_ok_iff.mp made).2
    exact Http.CrossOrigin.lists_layer _
  obtain ⟨_, made, _, _, _, _, sets, _, serves⟩ := setUp_admits_listed lists accepted
    "https://a.example, ,https://b.example" world
  obtain ⟨_, _, _, _, _, wildcard, _⟩ :=
    setUp_admits_listed lists accepted "https://a.example, *" world
  obtain ⟨_, _, _, control, _⟩ :=
    setUp_admits_listed lists accepted "*,https://a\x01.example" world
  rw [pair] at sets serves
  rw [withWildcard] at wildcard
  rw [withControl] at control
  obtain ⟨server, started⟩ := sets.mpr (by decide +kernel)
  obtain ⟨⟨own, _⟩, answers⟩ := serves server started
  obtain ⟨_, named, _⟩ := answers (sentFrom "https://b.example") world
  obtain ⟨unnamed, _⟩ := answers (sentFrom "https://B.example") world
  refine ⟨_, server, made, pair, ?_, ?_, ?_, ?_, ?_⟩
  · rw [pair]
    exact started
  · rw [own]
    exact named "https://b.example" (by decide) (by decide +kernel)
  · rw [own]
    exact Decidable.not_not.mp (mt unnamed.mp (by decide +kernel))
  · rw [withWildcard]
    exact wildcard.mpr (by decide +kernel)
  · rw [withControl]
    exact control.mpr (by decide +kernel)

end Server

end AntiForgery
