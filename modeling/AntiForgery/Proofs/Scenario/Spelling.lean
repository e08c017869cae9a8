import AntiForgery.Proofs.Http.Spelling
import AntiForgery.Proofs.Scenario.Runs

/-!
# Runs with cookies in any spelling

Whoever spells the session cookie in another way, in whichever requests of a run, is not told apart:
the run goes as it would have gone.
-/

namespace AntiForgery
namespace Scenario

/-- One step is another one, with session cookies spelt in another way if it is a request. -/
inductive Step.Respelt : Step → Step → Prop
  | kept (step : Step) : Respelt step step
  | request (first second : Http.Request) (respelt : first.Respelt second) :
      Respelt (.request first) (.request second)

/-- A step is the same action in each spelling. -/
theorem Step.Respelt.perform_eq
    {first second : Step}
    (respelt : first.Respelt second)
    (service : Service) :
    second.perform service = first.perform service := by
  cases respelt with
  | kept => rfl
  | request first second respelt =>
      rw [Step.perform, Step.perform, Http.handle_eq_of_respelt respelt]

/-- A run does not depend on how the session cookies of its requests are spelt.  Each answer is the
same, with the same lines in the journal, and the store, the clocks and the entropy are the same in
the end, whatever world the run finds and however its store behaves. -/
theorem run_eq_of_respelt
    {first second : List Step}
    (respelt : List.Forall₂ Step.Respelt first second)
    (service : Service)
    (world : World) :
    run service second world = run service first world := by
  suffices same : run service second = run service first by rw [same]
  induction respelt with
  | nil => rfl
  | @cons step other steps others own _ ih =>
      simp only [run] at ih
      simp only [run, List.mapM_cons, own.perform_eq service, ih]

/-- While a session is live, it is asked for a good token under two spellings of its cookie; once it has
ended, it is turned away under a third. -/
theorem run_eq_of_respelt_logout :
    ∃ (service : Service) (world : World) (plain mixed : List Step),
      List.Forall₂ Step.Respelt plain mixed ∧
      run service mixed world = run service plain world ∧
      (run service mixed world).1.map (fun result =>
        match result.1 with
        | .answered response => some (response.status, response.body.isEmpty)
        | _ => none) = [some (403, false), some (403, false), none, some (403, true)] := by
  let service : Service := ⟨⟨.ofKey ((List.range 16).map UInt8.ofNat), 3600⟩, ⟨7, false⟩⟩
  let id : Session.Id :=
    ⟨[0, 1, 2, 3, 4, 5, 0x46, 7, 0x88, 9, 0xA, 0xB, 0xC, 0xD, 0xE, 0xF], rfl⟩
  let store : Store := (Store.new .sound).write id.storageKey 604800000
  let world : World := ⟨store, 1700000060, .ofList [], []⟩
  let token : Http.Header := ⟨"x-csrf-token", Text.utf8 "x"⟩
  let cookie : String → Http.Header := fun spelling =>
    ⟨"cookie", Text.utf8 (Http.Cookie.sessionName ++ "=" ++ spelling)⟩
  let logout : String → Step := fun spelling =>
    .request ⟨"POST", "/api/session/logout", [cookie spelling, token], []⟩
  let hyphenated : String := "00010203-0405-4607-8809-0a0b0c0d0e0f"
  let named : String := "urn:uuid:00010203-0405-4607-8809-0A0B0C0D0E0F"
  let braced : String := "\x7b00010203-0405-4607-8809-0a0B0c0D0e0F\x7d"
  let bare : String := "000102030405460788090A0B0C0D0E0F"
  have spelt : ∀ spelling, Session.Id.parse? spelling = some id →
      (logout hyphenated).Respelt (logout spelling) :=
    fun spelling spelt => .request _ _ ⟨rfl, rfl,
      .cons (Http.Header.respelt_of_parse? (by decide +kernel) spelt) (.cons (.kept token) .nil), rfl⟩
  have respelt : List.Forall₂ Step.Respelt
      [logout hyphenated, logout hyphenated, .endSession id, logout hyphenated]
      [logout bare, logout named, .endSession id, logout braced] :=
    .cons (spelt bare (by decide +kernel)) <| .cons (spelt named (by decide +kernel)) <|
      .cons (.kept _) <| .cons (spelt braced (by decide +kernel)) .nil
  exact ⟨service, world, _, _, respelt, run_eq_of_respelt respelt service world, by decide +kernel⟩

end Scenario
end AntiForgery
