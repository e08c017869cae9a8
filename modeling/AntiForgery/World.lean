import AntiForgery.Clock
import AntiForgery.Entropy
import AntiForgery.Journal
import AntiForgery.Store.Condition

/-!
# The world of the service

All that the service works on besides a request: the store, the wall clock, the source of entropy
and the journal.  What the service does is an `Action`, a function of the world that gives an answer
and the world afterwards.
-/

namespace AntiForgery

/-- What the service works on. -/
structure World where
  /-- The store with its own clock. -/
  store : Store
  /-- The wall clock. -/
  wall : Seconds
  /-- The source of random bytes. -/
  entropy : Entropy
  /-- The lines written so far, the first one first. -/
  journal : List Journal.Line

/-- Something that the service does. -/
abbrev Action := StateM World

namespace Action

/-- Writes a line into the journal. -/
def log (level : Journal.Level) (message : String) : Action Unit :=
  fun world => ((), { world with journal := world.journal ++ [⟨level, message⟩] })

/-- Asks the store. -/
def ask (call : Store.Call α) : Action (Except Store.Failure α) :=
  fun world =>
    let (answer, store) := world.store.perform call
    (answer, { world with store })

/-- Does something that changes the store only. -/
def onStore (step : Store → α × Store) : Action α :=
  fun world =>
    let (answer, store) := step world.store
    (answer, { world with store })

/-- Does something that takes entropy only. -/
def onEntropy (step : Entropy → α × Entropy) : Action α :=
  fun world =>
    let (answer, entropy) := step world.entropy
    (answer, { world with entropy })

/-- The reading of the wall clock. -/
def now : Action Seconds :=
  fun world => (world.wall, world)

/-- Does something, and tells which lines it wrote into the journal. -/
def observe (action : Action α) : Action (α × List Journal.Line) :=
  fun world =>
    let (answer, after) := action { world with journal := [] }
    ((answer, after.journal), { after with journal := world.journal ++ after.journal })

end Action
end AntiForgery
