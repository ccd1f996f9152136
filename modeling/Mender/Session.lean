import Mender.Collaborators

/-!
# Sessions

A session keeps, beside the site, the calls that were made to the collaborators
and the writes to the target, in order, each with its answer.
-/

namespace Mender

inductive Event where
  | rewrite (target : Path) (dryRun : Bool) (answer : Except Failure Bool)
  | analyze (target : Path) (answer : Except Failure (List Finding))
  | test (target : Path) (answer : Except Failure (List Finding))
  | ask (prompt current : String) (answer : Fix)
  | write (target : Path) (content : String) (answer : Except Failure Unit)

structure Session (σ : Type) where
  site : Site σ
  events : List Event

/-- A part of a run. -/
abbrev Run (σ α : Type) := ExceptT Failure (StateM (Session σ)) α

namespace Run

variable {σ α : Type}

/-- Performs an effect that leaves no event. -/
def perform (effect : Effect σ α) : Run σ α := fun session =>
  let (result, site) := effect session.site
  (result, { session with site })

/-- Performs an effect and keeps it as an event with its answer. -/
def call (event : Except Failure α → Event) (effect : Effect σ α) : Run σ α := fun session =>
  let (result, site) := effect session.site
  (result, ⟨site, session.events ++ [event result]⟩)

/-- Asks an oracle and keeps the event. -/
def ask (oracle : Oracle σ) (prompt current : String) : Run σ Fix := fun session =>
  let (fix, site) := oracle.ask prompt current session.site
  (.ok fix, ⟨site, session.events ++ [.ask prompt current fix]⟩)

/-- Says what is being done if a part of a run fails. -/
def within (doing : String) (part : Run σ α) : Run σ α := fun session =>
  let (result, session) := part session
  (result.mapError (Failure.within doing), session)

/-- The disk as it is now. -/
def disk : Run σ Disk := return (← get).site.disk

end Run

end Mender
