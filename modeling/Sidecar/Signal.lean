/-!
# Signals

A signal carries one error from those who work in the background to the one who waits for it. The
first report wins. It can be received once, after which the signal is closed; a report to a closed
signal is lost.
-/

namespace Sidecar

/-- A signal for errors of a type. -/
inductive Signal (ε : Type) where
  | silent
  /-- An error has been reported and not yet received. -/
  | reported (error : ε)
  /-- The error has been received, or nobody waits for one any more. -/
  | closed
  deriving DecidableEq, Repr

namespace Signal

def isOpen : Signal ε → Bool
  | .silent => true
  | _ => false

/-- Whether a report would be too late. -/
def isReported (s : Signal ε) : Bool := !s.isOpen

def report (error : ε) : Signal ε → Signal ε
  | .silent => .reported error
  | s => s

/-- The error that waits to be received. -/
def error? : Signal ε → Option ε
  | .reported error => some error
  | _ => none

/-- The signal after its receiver has looked at it. -/
def received : Signal ε → Signal ε
  | .silent => .silent
  | _ => .closed

end Signal

/-! ## Both ends

An error passes through a channel with a single place. The receiver lets go of the channel once an
error has come out of it, so that no later one takes the place that has become free.
-/

/-- The receiving end of a signal. -/
inductive Signal.Receiver where
  /-- It holds the channel open. -/
  | listening
  /-- It has let go of the channel: an error has come, or none can come any more. -/
  | finished
  | dropped
  deriving DecidableEq, Repr

/-- Both ends of a signal: the reporters, known by names, and the receiver. -/
structure Signal.Ends (ε : Type) where
  /-- The place of the channel, with the error that waits in it. -/
  place : Option ε
  reporters : List String
  receiver : Signal.Receiver
  deriving DecidableEq, Repr

namespace Signal.Ends

def make (reporter : String) : Ends ε := ⟨none, [reporter], .listening⟩

/-- What can be done with the ends of a signal. -/
inductive Action (ε : Type) where
  | report (reporter : String) (error : ε)
  | isReported (reporter : String)
  | clone (reporter copy : String)
  | dropReporter (reporter : String)
  | tryReceive
  /-- Waits, and gives up if there is nothing to receive. -/
  | receive
  | dropReceiver
  deriving DecidableEq, Repr

/-- What an action gives. -/
inductive Reply (ε : Type) where
  | truth (value : Bool)
  | received (error : Option ε)
  | done
  /-- There is nothing to receive yet, and perhaps never. -/
  | pending
  | noReporter
  | noReceiver
  deriving DecidableEq, Repr

/-- Whether nothing can be sent any more, as nobody receives it. -/
def isClosed (ends : Ends ε) : Bool := ends.receiver ≠ .listening

/-- Whether the one place is free. -/
def hasRoom (ends : Ends ε) : Bool := ends.place.isNone

/-- Puts an error into the channel, if that is possible at once. -/
def report (ends : Ends ε) (error : ε) : Bool × Ends ε :=
  if ends.isClosed || !ends.hasRoom then (false, ends)
  else (true, { ends with place := some error })

/-- Whether a report would be too late. -/
def isReported (ends : Ends ε) : Bool := !ends.hasRoom || ends.isClosed

/-- The receiver lets go of the channel. What is in it is lost. -/
def close (ends : Ends ε) (receiver : Signal.Receiver) : Ends ε :=
  { ends with place := none, receiver }

/-- What a receiver that looks at the signal gets, or `otherwise`. Without reporters nothing can come
any more, and the receiver lets go of the channel as if it had received something. -/
def lookAt (ends : Ends ε) (otherwise : Reply ε) : Reply ε × Ends ε :=
  match ends.receiver with
  | .dropped => (.noReceiver, ends)
  | .finished => (otherwise, ends)
  | .listening =>
    match ends.place with
    | some error => (.received (some error), ends.close .finished)
    | none => (otherwise, if ends.reporters.isEmpty then ends.close .finished else ends)

/-- Does one thing with the ends. -/
def act (ends : Ends ε) : Action ε → Reply ε × Ends ε
  | .report reporter error =>
    if reporter ∈ ends.reporters then
      let (delivered, ends) := ends.report error
      (.truth delivered, ends)
    else (.noReporter, ends)
  | .isReported reporter =>
    if reporter ∈ ends.reporters then (.truth ends.isReported, ends)
    else (.noReporter, ends)
  | .clone reporter copy =>
    if reporter ∈ ends.reporters then
      (.done, { ends with reporters := ends.reporters.insert copy })
    else (.noReporter, ends)
  | .dropReporter reporter =>
    (.truth (ends.reporters.contains reporter),
      { ends with reporters := ends.reporters.erase reporter })
  | .tryReceive => ends.lookAt (.received none)
  | .receive => ends.lookAt .pending
  | .dropReceiver =>
    if ends.receiver = .dropped then (.truth false, ends)
    else (.truth true, ends.close .dropped)

/-- What of the ends matters to those who report and to the one who waits. -/
def signal (ends : Ends ε) : Signal ε :=
  match ends.receiver, ends.place with
  | .listening, none => .silent
  | .listening, some error => .reported error
  | _, _ => .closed

/-- Whether something has been reported can be read off the signal that the two ends share. -/
theorem isReported_signal (ends : Ends ε) : ends.signal.isReported = ends.isReported := by
  rcases ends with ⟨place, reporters, receiver⟩
  cases receiver <;> cases place <;> rfl

/-- A report is taken just if the signal is open. -/
theorem isOpen_signal (ends : Ends ε) (error : ε) : ends.signal.isOpen = (ends.report error).1 := by
  rcases ends with ⟨place, reporters, receiver⟩
  cases receiver <;> cases place <;> rfl

/-- A report at one end is a report to the signal. -/
theorem signal_report (ends : Ends ε) (error : ε) :
    (ends.report error).2.signal = ends.signal.report error := by
  rcases ends with ⟨place, reporters, receiver⟩
  cases receiver <;> cases place <;> rfl

/-- To look at the ends is to look at the signal, unless it is silent for ever. -/
theorem signal_lookAt (ends : Ends ε) (otherwise : Reply ε)
    (h : ends.reporters ≠ [] ∨ ends.signal ≠ .silent) :
    (ends.lookAt otherwise).2.signal = ends.signal.received := by
  rcases ends with ⟨place, reporters, receiver⟩
  cases receiver with
  | listening =>
    cases place with
    | some error => rfl
    | none =>
      cases reporters with
      | cons reporter others => rfl
      | nil =>
        rcases h with none_left | heard
        · exact absurd rfl none_left
        · exact absurd rfl heard
  | _ => cases place <;> rfl

end Signal.Ends

end Sidecar
