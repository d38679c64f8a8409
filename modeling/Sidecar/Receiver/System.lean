import Sidecar.Api.Event
import Sidecar.Receiver.Destination
import Sidecar.Receiver.Handler
import Sidecar.Signal

/-!
# The receiver

A receiver listens for batches, decodes them and hands their events, one at a time, to a processor.
Four parts of it take turns: the calls from the run of the extension, the handler of a batch, the
worker that feeds the processor, and the shutdown. Between the handler and the worker is a channel
with room for one event. `Receiver.step?` says which moves are possible and what each of them does,
so that a list of moves is one of the ways in which the parts may take their turns.

Three things are left out. Batches come one at a time: a request is taken when the batch before it has been
answered. The call that starts the receiver is one move, so nothing comes between its steps. And no move
makes the server fail by itself while it serves; that would be reported as `ReceiverError.server`, and the
shutdown would find the server stopped.
-/

namespace Sidecar

/-- Who has the processor. -/
inductive Holder where
  /-- The receiver, which has not started or could not. -/
  | receiver
  | worker
  /-- Nobody: the processor has been shut down or lost. -/
  | nobody
  deriving DecidableEq, Repr

/-- The worker, which takes events off the channel. -/
inductive Worker (ε : Type) where
  /-- Not at work, or not any more. -/
  | absent
  | waiting
  | busy (event : ε)
  | panicked
  deriving DecidableEq, Repr

inductive Stage where
  | none
  | stoppingServer
  /-- The channel has been closed; the worker takes what is still on it. -/
  | awaitingWorker (server : Except ReceiverError Unit)
  | awaitingProcessor (server : Except ReceiverError Unit)

structure Receiver.Startup where
  processor : Except Failure Unit
  /-- The port of the server, if it could be bound to its address. -/
  port : Option Nat
  /-- What the platform says to the subscription. -/
  subscription : Except CallError Unit

/-- What can be seen of a receiver. -/
inductive Receiver.Mark (ε : Type) where
  | processorInit
  | process (event : ε)
  | processorShutdown
  /-- An error was reported, perhaps too late to be the first one. -/
  | report (error : Failure)
  | answer (status : UInt16) (body : String)
  | returned (result : Except ReceiverError Unit)
  /-- The signal was asked for, and given away or not. -/
  | signal (given : Bool)

structure Receiver (ε : Type) where
  address : String
  processor : Holder := .receiver
  /-- Whether the receiving end of the channel has not been handed out. -/
  hasInlet : Bool := true
  /-- Whether the receiver keeps the channel open. -/
  isOpen : Bool := true
  hasServed : Bool := false
  isServing : Bool := false
  isCancelled : Bool := false
  stage : Stage := .none
  slot : Option ε := none
  handler : Option (Handler ε) := none
  worker : Worker ε := .absent
  /-- Whether the processor has failed. From then on events are dropped. -/
  hasFailed : Bool := false
  signal : Signal Failure := .silent
  hasSignal : Bool := true
  marks : List (Receiver.Mark ε) := []

namespace Receiver

/-- A move of one of the parts. -/
inductive Move (ε : Type) where
  /-- The run of the extension starts the receiver. -/
  | init (startup : Startup)
  | invoke
  | takeSignal
  | shutdown
  | request (method : String)
  /-- A piece of the body of a batch arrives, or its end. -/
  | body (piece : Option Body.Item)
  /-- The handler does something by itself. -/
  | handle
  /-- The worker takes the event off the channel. -/
  | take
  /-- The processor has dealt with an event. -/
  | processed (result : Except Failure Unit)
  | panic
  /-- The worker finds the channel closed and empty. -/
  | workerEnds
  | serverStops
  | serverPanics
  /-- The context of the shutdown has stopped before the server. -/
  | serverAborts (stop : Stop)
  /-- The shutdown has the processor back, or knows that it is lost. -/
  | joined
  /-- The processor has shut down. -/
  | processorStops (result : Except Failure Unit)

/-- Notes what can be seen of a move. -/
def mark (r : Receiver ε) (m : Mark ε) : Receiver ε :=
  { r with marks := r.marks ++ [m] }

/-- Reports an error through the signal. -/
def report (r : Receiver ε) (e : ReceiverError) : Receiver ε :=
  { r with signal := r.signal.report e.failure }.mark (.report e.failure)

/-- Whether the worker may still take events. -/
def isReceiving (r : Receiver ε) : Bool :=
  match r.worker with
  | .waiting => true
  | .busy _ => true
  | _ => false

/-- What a handler sees of the channel. -/
def outlet (r : Receiver ε) : Outlet :=
  if !r.isReceiving then .closed
  else if r.slot.isSome then .full
  else .free

/-- Whether the calls of the run may go on: no other call is under way. -/
def isIdle (r : Receiver ε) : Bool := r.stage matches .none

/-! ## The calls of the run -/

/-- Starts a receiver that has not been started. The processor comes first, then the server, then
the subscription; what has been started before a failure goes on until the shutdown. -/
def start (r : Receiver ε) (startup : Startup) : Receiver ε :=
  let r := { r with hasInlet := false }.mark .processorInit
  match startup.processor with
  | .error cause => r.mark (.returned (.error (.processorInit cause)))
  | .ok () =>
    let r := { r with processor := .worker, worker := .waiting }
    match startup.port with
    | none => r.mark (.returned (.error (.bind r.address)))
    | some port =>
      let r := { r with hasServed := true, isServing := true }
      match Destination.url r.address port, startup.subscription with
      | .error e, _ => r.mark (.returned (.error e))
      | .ok _, .error e => r.mark (.returned (.error (.subscribe e)))
      | .ok _, .ok () => r.mark (.returned (.ok ()))

/-- The call that starts the receiver. -/
def init (r : Receiver ε) (startup : Startup) : Receiver ε :=
  if r.processor = .receiver && r.hasInlet then r.start startup
  else r.mark (.returned (.error .alreadyStarted))

/-- Closes the channel for the receiver, and waits for the worker. -/
def close (r : Receiver ε) (server : Except ReceiverError Unit) : Receiver ε :=
  { r with isOpen := false, hasInlet := false, isServing := false, stage := .awaitingWorker server }

/-- The call that shuts the receiver down: cancels decoding and asks the server to stop. -/
def shutdown (r : Receiver ε) : Receiver ε :=
  if r.processor = .nobody then r.mark (.returned (.error .alreadyShutDown))
  else
    let r := { r with isCancelled := true }
    if r.isServing then { r with stage := .stoppingServer } else r.close (.ok ())

/-! ## Batches -/

/-- Answers a batch. -/
def answer (r : Receiver ε) (result : Except DecodeError Nat) : Receiver ε :=
  match result with
  | .ok _ => r.mark (.answer 200 "")
  | .error e => (r.report (.decode e)).mark (.answer 500 e.message)

/-- Takes a request. Unless the channel is still open, a batch is turned down at once. -/
def request (r : Receiver ε) (method : String) : Receiver ε :=
  if method ≠ "POST" then
    let e := ReceiverError.methodNotAllowed method
    (r.report e).mark (.answer 400 e.message)
  else if r.isOpen then { r with handler := some .initial }
  else r.answer (.error .channelClosed)

/-- Goes on with a handler; one that has finished answers its batch. -/
def withHandler (r : Receiver ε) : Handler ε → Receiver ε
  | .finished result => { r with handler := none }.answer result
  | handler => { r with handler := some handler }

/-! ## Moves -/

/-- What a move does, if it is possible. -/
def step? (decode : List UInt8 → Except DecodeError ε) (r : Receiver ε) :
    Move ε → Option (Receiver ε)
  | .init startup => if r.isIdle then some (r.init startup) else none
  | .invoke =>
    if r.isIdle then some (r.mark (.returned (.error .unexpectedInvoke))) else none
  | .takeSignal =>
    if r.isIdle then some ({ r with hasSignal := false }.mark (.signal r.hasSignal)) else none
  | .shutdown => if r.isIdle then some r.shutdown else none
  | .request method =>
    if r.hasServed && r.handler.isNone then some (r.request method) else none
  | .body piece => do
    let handler ← r.handler
    return r.withHandler (← handler.accept? r.isCancelled piece)
  | .handle => do
    let handler ← r.handler
    let (handler, event) ← handler.move? decode r.isCancelled r.outlet
    return { r with slot := event <|> r.slot }.withHandler handler
  | .take =>
    match r.worker, r.slot with
    | .waiting, some event =>
      let r := { r with slot := none }
      -- after a failure events are taken off the channel, and that is all
      if r.hasFailed then some r
      else some ({ r with worker := .busy event }.mark (.process event))
    | _, _ => none
  | .processed result =>
    match r.worker with
    | .busy _ =>
      let r := { r with worker := .waiting }
      match result with
      | .ok () => some r
      | .error cause => some ({ r with hasFailed := true }.report (.process cause))
    | _ => none
  | .panic =>
    match r.worker with
    | .busy _ => some { r with worker := .panicked, slot := none }
    | _ => none
  | .workerEnds =>
    match r.worker with
    | .waiting =>
      if r.slot.isNone && !r.isOpen && r.handler.isNone then some { r with worker := .absent }
      else none
    | _ => none
  | .serverStops =>
    match r.stage with
    | .stoppingServer => if r.handler.isNone then some (r.close (.ok ())) else none
    | _ => none
  | .serverPanics =>
    match r.stage with
    | .stoppingServer => some (r.close (.error .serverPanic))
    | _ => none
  | .serverAborts stop =>
    match r.stage with
    | .stoppingServer => some (r.close (.error (.serverShutdown stop)))
    | _ => none
  | .joined =>
    match r.stage, r.worker with
    -- the worker took the processor with it: there is nobody left to shut down
    | .awaitingWorker _, .panicked =>
      some ({ r with processor := .nobody, stage := .none }.mark
        (.returned (.error .worker)))
    | .awaitingWorker server, .absent =>
      some ({ r with processor := .nobody, stage := .awaitingProcessor server }.mark
        .processorShutdown)
    | _, _ => none
  | .processorStops result =>
    match r.stage with
    | .awaitingProcessor server =>
      let outcome := match result with
        | .ok () => server
        | .error cause => .error (.processorShutdown cause)
      some ({ r with stage := .none }.mark (.returned outcome))
    | _ => none

/-- What several moves do one after the other, if each of them is possible. -/
def run? (decode : List UInt8 → Except DecodeError ε) (r : Receiver ε)
    (moves : List (Move ε)) : Option (Receiver ε) :=
  moves.foldlM (step? decode) r

end Receiver

end Sidecar
