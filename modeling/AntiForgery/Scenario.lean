import AntiForgery.Http.Router

/-!
# Scenarios

What can happen to a service, one step after the other: calls of the engine, of the desk and of the
register, calls of the store, requests, and movements of the two clocks.  A run of steps gives the
outcome of each, with the lines that it wrote into the journal.
-/

namespace AntiForgery
namespace Scenario

/-- Something that happens. -/
inductive Step where
  /-- The engine makes a token. -/
  | mint (session : String) (issued : Seconds)
  /-- The engine checks a token at a reading of the clock. -/
  | check (session token : String) (now : Seconds)
  /-- The engine checks a token at the wall clock. -/
  | checkNow (session token : String)
  /-- The desk issues a token. -/
  | issue (session : String) (issued : Seconds)
  /-- The desk checks a token and spends it. -/
  | redeem (session token : String)
  /-- A session starts. -/
  | startSession (lifetime : Nat)
  /-- The register is asked for a session. -/
  | askSession (id : Session.Id)
  /-- A session ends. -/
  | endSession (id : Session.Id)
  /-- A key is recorded. -/
  | record (key : String) (lifetime : Nat)
  /-- A key is looked up. -/
  | lookUp (key : String)
  /-- A key is claimed. -/
  | claim (key : String) (lifetime : Nat)
  /-- A key is removed. -/
  | remove (key : String)
  /-- So many keys are claimed, which have one beginning and then the numbers from `start` on. -/
  | fill (beginning : String) (start count lifetime : Nat)
  /-- The live records are counted. -/
  | countLive
  /-- The clock of the store moves on. -/
  | advance (milliseconds : Nat)
  /-- The wall clock is set. -/
  | setWall (reading : Seconds)
  /-- The service is asked how long a session lasts. -/
  | askLifetime
  /-- A request arrives. -/
  | request (sent : Http.Request)
  deriving DecidableEq, Repr

/-- What comes of a step. -/
inductive Outcome where
  /-- A token of the engine. -/
  | minted (result : Except Token.Error String)
  /-- The verdict of the engine. -/
  | checked (result : Except Token.Error Bool)
  /-- A token of the desk. -/
  | issued (result : Except Refusal String)
  /-- The verdict of the desk. -/
  | redeemed (result : Except Refusal Bool)
  /-- The id of a new session. -/
  | started (result : Except Refusal Session.Id)
  /-- Whether a session is live. -/
  | live (result : Except Refusal Bool)
  /-- The end of a session. -/
  | ended (result : Except Refusal Unit)
  /-- A record or its removal. -/
  | stored (result : Except Store.Failure Unit)
  /-- Whether a key is there. -/
  | found (result : Except Store.Failure Store.Presence)
  /-- Whether a key was claimed. -/
  | claimed (result : Except Store.Failure Bool)
  /-- How many keys were claimed, and how many claims failed. -/
  | filled (created failed : Nat)
  /-- How many records are live. -/
  | counted (live : Nat)
  /-- A clock has moved. -/
  | moved
  /-- How long a session lasts. -/
  | lifetime (seconds : Nat)
  /-- The answer to a request. -/
  | answered (response : Http.Response)

/-- Claims keys with the numbers from `start` on, and counts what came of it. -/
def claimMany (beginning : String) (lifetime : Nat) :
    Nat → Nat → Nat → Nat → Action (Nat × Nat)
  | _, 0, created, failed => return (created, failed)
  | start, count + 1, created, failed => do
      match ← Action.ask (.claim (beginning ++ toString start) lifetime) with
      | .ok true => claimMany beginning lifetime (start + 1) count (created + 1) failed
      | .ok false => claimMany beginning lifetime (start + 1) count created failed
      | .error _ => claimMany beginning lifetime (start + 1) count created (failed + 1)

/-- Does a step. -/
def Step.perform (service : Service) : Step → Action Outcome
  | .mint session issued => do
      return .minted (← Action.onEntropy (service.engine.mint session issued))
  | .check session token now => do
      return .checked (← Action.onStore (service.engine.check session token now))
  | .checkNow session token => do return .checked (← service.engine.checkNow session token)
  | .issue session issued => do return .issued (← Token.issue service.engine session issued)
  | .redeem session token => do return .redeemed (← Token.redeem service.engine session token)
  | .startSession lifetime => do return .started (← Session.start lifetime)
  | .askSession id => do return .live (← Session.isLive id)
  | .endSession id => do return .ended (← Session.finish id)
  | .record key lifetime => do return .stored (← Action.ask (.record key lifetime))
  | .lookUp key => do return .found (← Action.ask (.lookUp key))
  | .claim key lifetime => do return .claimed (← Action.ask (.claim key lifetime))
  | .remove key => do return .stored (← Action.ask (.remove key))
  | .fill beginning start count lifetime => do
      let (created, failed) ← claimMany beginning lifetime start count 0 0
      return .filled created failed
  | .countLive => fun world => (.counted world.store.liveCount, world)
  | .advance milliseconds => fun world =>
      (.moved, { world with store := world.store.advance milliseconds })
  | .setWall reading => fun world => (.moved, { world with wall := reading })
  | .askLifetime => return .lifetime service.session.lifetime
  | .request sent => do return .answered (← Http.handle service sent)

/-- Does the steps one after the other. -/
def run (service : Service) (steps : List Step) : Action (List (Outcome × List Journal.Line)) :=
  steps.mapM fun step => Action.observe (step.perform service)

end Scenario
end AntiForgery
