import Sidecar.Lifecycle.Course
import Sidecar.Lifecycle.Error

/-!
# The run of an extension

An extension registers, is initialised, and then polls for events: it handles invocation after
invocation, until it is told to shut down or something fails. It is shut down exactly once, and what
has failed is reported to the platform.

While a poll waits, the context of the run and the signal of the extension are watched. Of what has
happened when the loop looks, the stop of the context counts first, a signalled error next, and the
answer to the poll last.
-/

namespace Sidecar

/-- What a run does, as far as the platform or the extension can see it. -/
inductive Deed where
  | call (request : Request)
  | init
  /-- The loop takes the signal over. -/
  | takeSignal
  /-- A poll is started in a context, which may have stopped already. -/
  | poll (context : Context) (stopped : Option Stop)
  /-- The callback for an invocation is called in a context, which may have stopped already. -/
  | invoke (invocation : Invocation) (context : Context) (stopped : Option Stop)
  /-- The callback for an invocation has returned, perhaps with a failure, and its context has been
  cancelled. -/
  | handled (failure : Option Failure) (stopped : Option Stop)
  /-- The extension is shut down for a reason, perhaps after an error. -/
  | shutdown (reason : ShutdownReason) (context : Context) (stopped : Option Stop)
    (error : Option RunError)
  deriving DecidableEq, Repr

structure Run where
  result : Except RunError Unit
  deeds : List Deed

namespace Run

/-- The type of the error that is reported when the extension could not be initialised. -/
def initErrorType : String := "Extension.Init"

/-- The type of the error that is reported when the run has failed. -/
def exitErrorType : String := "Extension.Exit"

/-! ## The race for the next event -/

/-- Why the loop must end, as far as it is watched: the context of the run has stopped, or an error
has been signalled. -/
def alarm? (parent : Context) (watching : Bool) (s : Surroundings) : Option RunError :=
  match s.stop? parent with
  | some stop => some (.stopped stop)
  | none => if watching then s.signal.error?.map .signaled else none

/-- Waits for the end of a poll. There is no result if nothing ever ends the waiting. -/
def race (parent : Context) (watching : Bool) (poll : Option PollEnd) :
    Surroundings → List (List Occurrence) → Option (Except RunError PollEnd × Surroundings)
  | s, [] =>
    match alarm? parent watching s with
    | some e => some (.error e, s)
    | none => poll.map fun ended => (.ok ended, s)
  | s, group :: waits =>
    match alarm? parent watching s with
    | some e => some (.error e, s)
    | none => race parent watching poll (s.afterAll parent group) waits

/-- The event that a poll has given. -/
def polled (client : Client) : PollEnd → Except RunError Event
  | .exchanged exchange => (client.next.result exchange).mapError .nextEvent
  | .panicked => .error .panic

def nextEvent (client : Client) (parent : Context) (watching : Bool) (s : Surroundings)
    (round : Round) : Option (Except RunError Event × Surroundings) :=
  (race parent watching round.poll s round.waits).map fun (winner, s) =>
    (winner.bind (polled client), s)

/-! ## The loop -/

/-- How the loop ended: with the event that shuts down, or with an error. -/
structure LoopEnd where
  result : Except RunError Shutdown
  deeds : List Deed
  surroundings : Surroundings

/-- Handles an invocation in a context of its own, which ends with the deadline of the invocation
and is cancelled when the callback has returned. -/
def handle (parent loopContext : Context) (s : Surroundings) (invocation : Invocation)
    (handler : Callback) : List Deed × Surroundings :=
  let s := s.afterAll parent handler.before
  let (c, s) := s.derive (loopContext.childUntil invocation.deadlineMs.toInt)
  let call := .invoke invocation c (s.stop? c)
  let s := s.afterAll parent handler.meanwhile
  let s := { s with scopes := c.cancel s.scopes }
  ([call, .handled handler.failure? (s.stop? c)], s)

/-- Polls until an event shuts down or something fails. There is no result if the rounds come to an
end before. -/
def loop (client : Client) (parent loopContext : Context) (watching : Bool) :
    Surroundings → List Round → Option LoopEnd
  | _, [] => none
  | s, round :: rounds =>
    let poll := .poll loopContext (s.stop? loopContext)
    match nextEvent client parent watching s round with
    | none => none
    | some (.error e, s) => some ⟨.error e, [poll], s⟩
    | some (.ok (.shutdown details), s) => some ⟨.ok details, [poll], s⟩
    | some (.ok (.invoke invocation), s) =>
      let (handling, s) := handle parent loopContext s invocation round.handler
      match round.handler.result with
      | .error e => some ⟨.error (.invoke e), poll :: handling, s⟩
      | .ok () =>
        (loop client parent loopContext watching s rounds).map fun ending =>
          { ending with deeds := poll :: handling ++ ending.deeds }

/-! ## The whole run -/

/-- Reports an error, unless the context of the report has stopped. Nothing depends on the answer.
-/
def reportDeeds (call : Call Acknowledgement) (stopped : Option Stop) (exchange : Exchange) :
    List Deed :=
  ((call.perform stopped exchange).2.map Deed.call).toList

/-- The end of a run whose initialisation has failed. -/
def afterInitFailure (client : Client) (parent : Context) (s : Surroundings) (course : Course)
    (cause : Failure) : Run :=
  let report :=
    reportDeeds (client.initError initErrorType cause.text) (s.stop? parent) course.initReport
  let s := s.afterAll parent course.shutdown.before
  let shutdown := .shutdown .extensionError parent (s.stop? parent) (some (.init cause))
  ⟨.error (.init cause), report ++ [shutdown]⟩

/-- The result of a run: the error that ended the loop or, after a loop that ended well, the error
of shutting down. -/
def verdict : Except RunError Shutdown → Except Failure Unit → Except RunError Unit
  | .error e, _ => .error e
  | .ok _, .error e => .error (.shutdown e)
  | .ok _, .ok () => .ok ()

/-- The reason for which the extension is shut down, and the context in which this is done: it ends
with the deadline of the event that shuts down, if there was one. -/
def shutdownTerms (parent : Context) (s : Surroundings) :
    Except RunError Shutdown → ShutdownReason × Context × Surroundings
  | .ok details => (details.reason, s.derive (parent.childUntil details.deadlineMs.toInt))
  | .error _ => (.extensionError, s.derive parent.child)

/-- Shuts the extension down after the loop. -/
def afterLoop (client : Client) (parent loopContext : Context) (course : Course)
    (ending : LoopEnd) : Run :=
  let s := ending.surroundings
  -- the context of the shutdown does not hang on that of the loop, which ends here
  let s := { s with scopes := loopContext.cancel s.scopes }
  let s := s.afterAll parent course.shutdown.before
  let (reason, c, s) := shutdownTerms parent s ending.result
  let error : Option RunError := match ending.result with
    | .error e => some e
    | .ok _ => none
  let shutdown := .shutdown reason c (s.stop? c) error
  let s := s.afterAll parent course.shutdown.meanwhile
  -- an error of the loop hides that of the shutdown; the one that is left is reported
  let result := verdict ending.result course.shutdown.result
  let report := match result with
    | .error e =>
      reportDeeds (client.exitError exitErrorType e.failure.text) (s.stop? c) course.exitReport
    | .ok () => []
  ⟨result, ending.deeds ++ shutdown :: report⟩

def ofClient (client : Client) (parent : Context) (s : Surroundings) (course : Course) :
    Option Run :=
  let s := s.afterAll parent course.init.occurrences
  match course.init.result with
  | .error cause =>
    let ending := afterInitFailure client parent s course cause
    some { ending with deeds := .init :: ending.deeds }
  | .ok () =>
    let (loopContext, s) := s.derive parent.child
    (loop client parent loopContext course.handsSignal s course.rounds).map fun ending =>
      let ending := afterLoop client parent loopContext course ending
      { ending with deeds := .init :: .takeSignal :: ending.deeds }

end Run

/-- Runs an extension of a program in a context. There is no result if the run never ends. -/
def Registering.run (r : Registering) (env : Environment) (program : String) (parent : Context)
    (s : Surroundings) (course : Course) : Option Run :=
  let (registered, sent) := r.register env program (s.stop? parent) course.register
  let calls := (sent.map Deed.call).toList
  match registered with
  | .error e => some ⟨.error (.register e), calls⟩
  | .ok client =>
    (Run.ofClient client parent s course).map fun ending =>
      { ending with deeds := calls ++ ending.deeds }

end Sidecar
