import AntiForgery.Proofs.Http.Effect
import AntiForgery.Proofs.Likeness

/-!
# Requests do not tell alike worlds apart

A request may ask the store about any key, so its answer is the same in two worlds if their stores are
alike under every key: which records have ended, and how many of them a store still holds, shows in no
answer.
-/

namespace AntiForgery
namespace Http

variable {keys : String → Prop}

theorem oblivious_refuse (refusal : Refusal) : (refuse refusal).Oblivious keys :=
  refuse_of_closed Action.closed_oblivious refusal

/-! ## The gates -/

namespace Gate

/-- The first gate asks about no key but the one of the session that is named. -/
theorem oblivious_session
    (inside : ∀ id : Session.Id, keys id.storageKey)
    (request : Request)
    {inner : Session.Id → Action Response}
    (oblivious : ∀ id, (inner id).Oblivious keys) :
    (session request inner).Oblivious keys := by
  refine (Action.oblivious_log _ _).bind fun _ => ?_
  cases Cookie.session? request with
  | none => exact (Action.oblivious_log _ _).bind fun _ => Action.oblivious_pure _
  | some id =>
      refine (Session.oblivious_isLive (inside id)).bind fun answer => ?_
      cases answer with
      | error refusal => exact (Action.oblivious_log _ _).bind fun _ => Action.oblivious_pure _
      | ok live =>
          cases live with
          | false => exact (Action.oblivious_log _ _).bind fun _ => Action.oblivious_pure _
          | true => exact (Action.oblivious_log _ _).bind fun _ => oblivious id

/-- The second gate asks about no key but the one of the token that is shown. -/
theorem oblivious_demandToken
    (inside : ∀ token, keys (Store.spentKey token))
    (service : Service)
    (id : Session.Id)
    (request : Request)
    {inner : Action Response}
    (oblivious : inner.Oblivious keys) :
    (demandToken service id request inner).Oblivious keys := by
  refine (presentedToken_of_closed Action.closed_oblivious request).bind fun presented => ?_
  cases presented with
  | error refusal => exact oblivious_refuse refusal
  | ok token =>
      dsimp only
      cases Admission.token token with
      | error refusal => exact (Action.oblivious_log _ _).bind fun _ => oblivious_refuse _
      | ok _ =>
          refine (Token.oblivious_redeem (inside token)).bind fun redeemed => ?_
          cases redeemed with
          | error refusal => exact oblivious_refuse refusal
          | ok valid =>
              cases valid with
              | false => exact oblivious_refuse _
              | true => exact oblivious

theorem oblivious_token
    (inside : ∀ token, keys (Store.spentKey token))
    (service : Service)
    (id : Session.Id)
    (request : Request)
    {inner : Action Response}
    (oblivious : inner.Oblivious keys) :
    (token service id request inner).Oblivious keys := by
  rw [token]
  split
  · exact oblivious.bind fun response =>
      attachToken_of_closed Action.closed_oblivious (fun _ => Action.oblivious_onEntropy _) response
  · exact oblivious_demandToken inside service id request oblivious

end Gate

/-! ## The endpoints -/

theorem oblivious_createToken (service : Service) (request : Request) :
    (createToken service request).Oblivious keys :=
  createToken_of_closed Action.closed_oblivious (fun _ _ => Action.oblivious_onEntropy _) request

theorem oblivious_checkToken
    (inside : ∀ token, keys (Store.spentKey token))
    (service : Service)
    (request : Request) :
    (checkToken service request).Oblivious keys := by
  rw [checkToken]
  cases Body.read Body.sessionField Body.tokenField request with
  | error fault => exact Action.oblivious_pure _
  | ok stated =>
      dsimp only
      split
      · refine (Token.oblivious_redeem (inside stated.2)).bind fun redeemed => ?_
        cases redeemed with
        | error refusal => exact oblivious_refuse refusal
        | ok valid => exact Action.oblivious_pure _
      · exact (Action.oblivious_log _ _).bind fun _ => Action.oblivious_pure _

/-- To start a session is to write under the key of its id. -/
theorem oblivious_startSession
    (inside : ∀ id : Session.Id, keys id.storageKey)
    (service : Service) :
    (startSession service).Oblivious keys := by
  refine (Session.oblivious_start inside _).bind fun started => ?_
  cases started with
  | error refusal => exact oblivious_refuse refusal
  | ok id => exact (Action.oblivious_log _ _).bind fun _ => Action.oblivious_pure _

theorem oblivious_endSession {id : Session.Id} (inside : keys id.storageKey) :
    (endSession id).Oblivious keys := by
  refine (Session.oblivious_finish inside).bind fun ended => ?_
  cases ended with
  | error refusal => exact oblivious_refuse refusal
  | ok _ => exact Action.oblivious_now.bind fun _ => Action.oblivious_pure _

/-! ## The whole service -/

/-- An answer depends on the keys of sessions and of tokens alone. -/
theorem oblivious_serve
    (sessions : ∀ id : Session.Id, keys id.storageKey)
    (tokens : ∀ token, keys (Store.spentKey token))
    (service : Service)
    (request : Request)
    (route : Route) :
    (route.serve service request).Oblivious keys := by
  cases route with
  | free endpoint =>
      rw [Route.serve]
      split
      · cases endpoint with
        | create => exact oblivious_createToken service request
        | check => exact oblivious_checkToken tokens service request
        | start => exact oblivious_startSession sessions service
      · exact Action.oblivious_pure _
  | guarded endpoint =>
      refine Gate.oblivious_session sessions request fun id =>
        Gate.oblivious_token tokens service id request ?_
      rw [Route.serveGuarded]
      split
      · cases endpoint with
        | issue => exact Action.oblivious_pure _
        | finish => exact oblivious_endSession (sessions id)
      · exact Action.oblivious_pure _

/-- A request gets the same answer in worlds that are alike under the keys of all sessions and of all
tokens, and leaves them alike. -/
theorem oblivious_handle
    (sessions : ∀ id : Session.Id, keys id.storageKey)
    (tokens : ∀ token, keys (Store.spentKey token))
    (service : Service)
    (request : Request) :
    (handle service request).Oblivious keys := by
  rw [handle]
  cases Route.ofPath? request.path with
  | none => exact (Action.oblivious_pure _).bind fun _ => Action.oblivious_pure _
  | some route =>
      exact (oblivious_serve sessions tokens service request route).bind fun _ =>
        (Action.oblivious_pure _).bind fun _ => Action.oblivious_pure _

end Http
end AntiForgery
