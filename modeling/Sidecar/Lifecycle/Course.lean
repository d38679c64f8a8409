import Sidecar.Client.Basic
import Sidecar.Signal

/-!
# The course of a run

What comes of a run depends on what happens around it: what the platform answers, what the callbacks
of the extension return, and at which moments an error is signalled, the context of the run is
cancelled or time passes. A `Course` fixes all of this.
-/

namespace Sidecar

/-- Something that happens around a run. -/
inductive Occurrence where
  /-- An error is reported through the signal of the extension. -/
  | report (error : Failure)
  | cancel
  /-- So many milliseconds pass. -/
  | pass (ms : Nat)
  deriving DecidableEq, Repr

/-- What a run depends on that changes beside it. -/
structure Surroundings where
  now : Int
  scopes : Scopes
  /-- The signal of the extension. -/
  signal : Signal Failure
  deriving DecidableEq, Repr

namespace Surroundings

/-- The surroundings after something has happened. -/
def after (parent : Context) (s : Surroundings) : Occurrence → Surroundings
  | .report error => { s with signal := s.signal.report error }
  | .cancel => { s with scopes := parent.cancel s.scopes }
  | .pass ms => { s with now := s.now + ms }

def afterAll (parent : Context) (s : Surroundings) (occurrences : List Occurrence) :
    Surroundings :=
  occurrences.foldl (after parent) s

def stop? (s : Surroundings) (c : Context) : Option Stop :=
  c.stop? s.scopes s.now

/-- Gives a name to a context that is derived from another one. -/
def derive (s : Surroundings) (make : Scopes → Context × Scopes) : Context × Surroundings :=
  let (c, scopes) := make s.scopes
  (c, { s with scopes })

end Surroundings

/-- A callback of the extension: what happens while it runs, and how it returns. -/
structure Callback where
  /-- What happens before the call, after the run has last looked at what has happened. -/
  before : List Occurrence := []
  meanwhile : List Occurrence
  result : Except Failure Unit

namespace Callback

/-- A callback during which nothing happens and which succeeds. -/
def quiet : Callback := { meanwhile := [], result := .ok () }

/-- All that happens up to the return of the callback. -/
def occurrences (c : Callback) : List Occurrence := c.before ++ c.meanwhile

def failure? (c : Callback) : Option Failure :=
  match c.result with
  | .error cause => some cause
  | .ok () => none

end Callback

/-- What comes of the task that polls. -/
inductive PollEnd where
  | exchanged (exchange : Exchange)
  | panicked
  deriving DecidableEq, Repr

structure Round where
  /-- What happens while the poll waits. After each group the loop looks at what has happened. -/
  waits : List (List Occurrence)
  /-- What comes of the poll then, if ever anything does. -/
  poll : Option PollEnd
  /-- The callback for an invocation. -/
  handler : Callback

structure Course where
  register : Exchange
  init : Callback
  initReport : Exchange
  /-- Whether the extension hands its signal to the loop. -/
  handsSignal : Bool
  rounds : List Round
  shutdown : Callback
  exitReport : Exchange

end Sidecar
