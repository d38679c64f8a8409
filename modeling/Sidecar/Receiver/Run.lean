import Sidecar.Lifecycle.Run
import Sidecar.Receiver.Options

/-!
# The run of a receiver

A receiver is an extension: its callbacks start it, refuse invocations and shut it down. While the
run waits, the receiver makes its moves, and the errors that it reports on the way are what the run
sees of them. `Plan.course?` says what the course of the run is for given moves.
-/

namespace Sidecar

namespace Receiver

def Move.isCall : Move ε → Bool
  | .init _ => true
  | .invoke => true
  | .takeSignal => true
  | .shutdown => true
  | _ => false

def Mark.report? : Mark ε → Option Failure
  | .report error => some error
  | _ => none

def lastReturn? (r : Receiver ε) : Option (Except ReceiverError Unit) :=
  r.marks.reverse.findSome? fun
    | .returned result => some result
    | _ => none

/-- Something around the run of a receiver: a move that is no call, or anything else. -/
inductive Beat (ε : Type) where
  | move (m : Move ε)
  | other (o : Occurrence)

/-- The receiver after some beats, and what the run sees of them. -/
def follow? (decode : List UInt8 → Except DecodeError ε) (r : Receiver ε) :
    List (Beat ε) → Option (Receiver ε × List Occurrence)
  | [] => some (r, [])
  | .other o :: beats => (follow? decode r beats).map fun (r, seen) => (r, o :: seen)
  | .move m :: beats => do
    if m.isCall then none
    let after ← r.step? decode m
    let reports := (after.marks.drop r.marks.length).filterMap Mark.report?
    let (after, seen) ← follow? decode after beats
    return (after, reports.map .report ++ seen)

/-- The receiver after groups of beats. -/
def followGroups? (decode : List UInt8 → Except DecodeError ε) (r : Receiver ε) :
    List (List (Beat ε)) → Option (Receiver ε × List (List Occurrence))
  | [] => some (r, [])
  | group :: groups => do
    let (r, seen) ← r.follow? decode group
    let (r, others) ← r.followGroups? decode groups
    return (r, seen :: others)

end Receiver

/-- What happens around the run of a receiver. As a receiver registers for the shutdown only and
refuses invocations, there is but one poll. -/
structure Plan (ε : Type) where
  register : Exchange
  startup : Receiver.Startup
  starting : List (Receiver.Beat ε)
  initReport : Exchange
  waits : List (List (Receiver.Beat ε))
  poll : Option PollEnd
  /-- After the poll, before the receiver is told to shut down. -/
  ending : List (Receiver.Beat ε)
  /-- While the receiver shuts down, until it has. -/
  stopping : List (Receiver.Beat ε)
  exitReport : Exchange

/-- A result of the receiver as one of a callback. -/
def ReceiverError.asCallback (result : Except ReceiverError Unit) : Except Failure Unit :=
  result.mapError failure

/-- The course of the run, and the receiver at its end. There is none if a move is not possible or
the shutdown does not come to its end. -/
def Plan.course? (decode : List UInt8 → Except DecodeError ε) (plan : Plan ε) (r : Receiver ε) :
    Option (Course × Receiver ε) := do
  let r ← r.step? decode (.init plan.startup)
  let started ← r.lastReturn?
  let (r, whileStarting) ← r.follow? decode plan.starting
  let (r, waits) ← r.followGroups? decode plan.waits
  let (r, whileEnding) ← r.follow? decode plan.ending
  let r ← r.step? decode .shutdown
  let (r, whileStopping) ← r.follow? decode plan.stopping
  if !r.isIdle then none
  let stopped ← r.lastReturn?
  let refusal := ReceiverError.asCallback (.error .unexpectedInvoke)
  let course :=
    { register := plan.register
      init := { meanwhile := whileStarting, result := ReceiverError.asCallback started }
      initReport := plan.initReport
      handsSignal := true
      rounds := [⟨waits, plan.poll, { meanwhile := [], result := refusal }⟩]
      shutdown :=
        { before := whileEnding
          meanwhile := whileStopping
          result := ReceiverError.asCallback stopped }
      exitReport := plan.exitReport }
  return (course, r)

end Sidecar
