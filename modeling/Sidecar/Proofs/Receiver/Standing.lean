import Sidecar.Proofs.Receiver.Steps

/-!
# How a receiver stands

A few parts of a receiver decide what its calls come to: who has the processor, whether the receiver can
still be started, how far a shutdown has come. With what the calls and the processor have noted they make
up its `Standing`, and `Standing.Step` says all that a move can do to it (`standing_step`).
-/

namespace Sidecar.Receiver

variable {ε : Type} {decode : List UInt8 → Except DecodeError ε}

/-! ## What is noted -/

namespace Mark

/-- Whether the processor was called. -/
def isCallback : Mark ε → Bool
  | .processorInit => true
  | .process _ => true
  | .processorShutdown => true
  | _ => false

def returned? : Mark ε → Option (Except ReceiverError Unit)
  | .returned result => some result
  | _ => none

def given? : Mark ε → Option Bool
  | .signal given => some given
  | _ => none

end Mark

/-- The calls of the processor. -/
def callbacks (r : Receiver ε) : List (Mark ε) := r.marks.filter Mark.isCallback

/-- What the calls of the run have returned. -/
def returns (r : Receiver ε) : List (Except ReceiverError Unit) := r.marks.filterMap Mark.returned?

/-- Each time that the signal was asked for, whether it was given away. -/
def signals (r : Receiver ε) : List Bool := r.marks.filterMap Mark.given?

/-! ## Standings -/

/-- The parts of a receiver that decide what its calls come to, and what these have noted. -/
structure Standing (ε : Type) where
  processor : Holder := .receiver
  hasInlet : Bool := true
  isServing : Bool := false
  stage : Stage := .none
  worker : Worker ε := .absent
  hasSignal : Bool := true
  callbacks : List (Mark ε) := []
  returns : List (Except ReceiverError Unit) := []
  signals : List Bool := []

/-- What of a receiver bears on where it stands in its life. -/
def standing (r : Receiver ε) : Standing ε where
  processor := r.processor
  hasInlet := r.hasInlet
  isServing := r.isServing
  stage := r.stage
  worker := r.worker
  hasSignal := r.hasSignal
  callbacks := r.callbacks
  returns := r.returns
  signals := r.signals

namespace Standing

def mark (s : Standing ε) (mark : Mark ε) : Standing ε :=
  { s with
    callbacks := s.callbacks ++ [mark].filter Mark.isCallback
    returns := s.returns ++ mark.returned?.toList
    signals := s.signals ++ mark.given?.toList }

/-- The channel is closed, with this result of the server. -/
def close (s : Standing ε) (server : Except ReceiverError Unit) : Standing ε :=
  { s with hasInlet := false, isServing := false, stage := .awaitingWorker server }

end Standing

/-- What is noted of a receiver is noted of its standing. -/
lemma standing_mark (r : Receiver ε) (mark : Mark ε) :
    (r.mark mark).standing = r.standing.mark mark := by
  simp only [standing, Standing.mark, callbacks, returns, signals, Receiver.mark, List.filter_append,
    List.filterMap_append]
  cases mark <;> rfl

/-- A move that takes a batch further, up to the channel or off it. -/
def Move.isConveying : Move ε → Bool
  | .request _ => true
  | .body _ => true
  | .handle => true
  | .take => true
  | _ => false

/-- All that a move can do to the standing of a receiver. -/
inductive Standing.Step (s : Standing ε) : Move ε → Standing ε → Prop where
  /-- The processor cannot be initialised, and stays with the receiver. -/
  | spoil {startup : Startup} {cause : Failure} :
    s.stage = .none → s.processor = .receiver → s.hasInlet = true → startup.processor = .error cause →
    Standing.Step s (.init startup)
      (({ s with hasInlet := false }.mark .processorInit).mark
        (.returned (.error (.processorInit cause))))
  /-- The worker gets the processor, whatever comes of the server and of the subscription. -/
  | start {startup : Startup} {result : Except ReceiverError Unit} :
    s.stage = .none → s.processor = .receiver → s.hasInlet = true → startup.processor = .ok () →
    Standing.Step s (.init startup)
      (({ s with
        processor := .worker
        hasInlet := false
        isServing := startup.port.isSome || s.isServing
        worker := .waiting }.mark .processorInit).mark (.returned result))
  | startAgain {startup : Startup} :
    s.stage = .none → s.processor ≠ .receiver ∨ s.hasInlet = false →
    Standing.Step s (.init startup) (s.mark (.returned (.error .alreadyStarted)))
  | invoke :
    s.stage = .none →
    Standing.Step s .invoke (s.mark (.returned (.error .unexpectedInvoke)))
  | takeSignal :
    s.stage = .none →
    Standing.Step s .takeSignal ({ s with hasSignal := false }.mark (.signal s.hasSignal))
  | shutDownAgain :
    s.stage = .none → s.processor = .nobody →
    Standing.Step s .shutdown (s.mark (.returned (.error .alreadyShutDown)))
  | stopServer :
    s.stage = .none → s.processor ≠ .nobody → s.isServing = true →
    Standing.Step s .shutdown { s with stage := .stoppingServer }
  | close :
    s.stage = .none → s.processor ≠ .nobody → s.isServing = false →
    Standing.Step s .shutdown (s.close (.ok ()))
  | serverEnds {move : Move ε} {server : Except ReceiverError Unit} :
    s.stage = .stoppingServer → move.serverEnd? = some server →
    Standing.Step s move (s.close server)
  | lose {server : Except ReceiverError Unit} :
    s.stage = .awaitingWorker server → s.worker = .panicked →
    Standing.Step s .joined
      ({ s with processor := .nobody, stage := .none }.mark (.returned (.error .worker)))
  | join {server : Except ReceiverError Unit} :
    s.stage = .awaitingWorker server → s.worker = .absent →
    Standing.Step s .joined
      ({ s with processor := .nobody, stage := .awaitingProcessor server }.mark .processorShutdown)
  | stop {server : Except ReceiverError Unit} {result : Except Failure Unit} :
    s.stage = .awaitingProcessor server →
    Standing.Step s (.processorStops result)
      ({ s with stage := .none }.mark (.returned (outcome server result)))
  | give {event : ε} :
    s.worker = .waiting →
    Standing.Step s .take ({ s with worker := .busy event }.mark (.process event))
  | processed {event : ε} {result : Except Failure Unit} :
    s.worker = .busy event →
    Standing.Step s (.processed result) { s with worker := .waiting }
  | panic {event : ε} :
    s.worker = .busy event →
    Standing.Step s .panic { s with worker := .panicked }
  | finish :
    s.worker = .waiting →
    Standing.Step s .workerEnds { s with worker := .absent }
  | convey {move : Move ε} :
    move.isConveying = true →
    Standing.Step s move s

/-! ## What a move does -/

section

variable {r r' : Receiver ε}

/-- A report of an error does not change the standing. -/
lemma standing_report (r : Receiver ε) (e : ReceiverError) : (r.report e).standing = r.standing := by
  rw [Receiver.report, standing_mark]
  simp [standing, Standing.mark, Mark.isCallback, Mark.returned?, Mark.given?, callbacks, returns,
    signals]

/-- Nor does telling it to the sender of a batch. -/
lemma standing_told (r : Receiver ε) (status : UInt16) (text : String) :
    (r.mark (.answer status text)).standing = r.standing := by
  rw [standing_mark]
  simp [standing, Standing.mark, Mark.isCallback, Mark.returned?, Mark.given?]

/-- Nor does an answer to a batch. -/
lemma standing_answer (r : Receiver ε) (result : Except DecodeError Nat) :
    (r.answer result).standing = r.standing := by
  cases result with
  | ok n => exact standing_told ..
  | error e => exact (standing_told ..).trans (standing_report ..)

/-- Nor does what a handler does. -/
lemma standing_withHandler (r : Receiver ε) (handler : Handler ε) :
    (r.withHandler handler).standing = r.standing := by
  cases handler with
  | finished result => exact standing_answer ..
  | _ => rfl

/-- Nor does a request. -/
lemma standing_request (r : Receiver ε) (method : String) :
    (r.request method).standing = r.standing := by
  unfold Receiver.request
  split
  · exact (standing_told ..).trans (standing_report ..)
  · split
    · rfl
    · exact standing_answer ..

/-- A start that has initialised the processor gives it to the worker, whatever comes after. -/
lemma start_eq (r : Receiver ε) {startup : Startup} (ready : startup.processor = .ok ()) :
    ∃ hasServed result, r.start startup =
      ({ r with
        processor := .worker
        hasInlet := false
        hasServed
        isServing := startup.port.isSome || r.isServing
        worker := .waiting }.mark .processorInit).mark (.returned result) := by
  simp only [start, ready]
  cases startup.port with
  | none => exact ⟨r.hasServed, _, rfl⟩
  | some port =>
    cases url : Destination.url r.address port with
    | error e =>
      refine ⟨true, .error e, ?_⟩
      simp [mark, url]
    | ok uri =>
      cases subscription : startup.subscription with
      | error e =>
        refine ⟨true, .error (.subscribe e), ?_⟩
        simp [mark, url]
      | ok _ =>
        refine ⟨true, .ok (), ?_⟩
        simp [mark, url]

/-- A call that starts the receiver changes the standing in one of a few ways. -/
lemma standing_init (idle : r.isIdle = true) (startup : Startup) :
    Standing.Step r.standing (.init startup) (r.init startup).standing := by
  have stage : r.standing.stage = .none := isIdle_iff.mp idle
  unfold Receiver.init
  split
  · next starts =>
    obtain ⟨processor, hasInlet⟩ := Bool.and_eq_true_iff.mp starts
    have processor : r.standing.processor = .receiver := of_decide_eq_true processor
    cases ready : startup.processor with
    | error cause =>
      have spoilt : (r.start startup).standing =
          (({ r.standing with hasInlet := false }.mark .processorInit).mark
            (.returned (.error (.processorInit cause)))) := by
        simp only [start, ready, standing_mark]
        rfl
      rw [spoilt]
      exact .spoil stage processor hasInlet ready
    | ok _ =>
      obtain ⟨hasServed, result, started⟩ := start_eq r ready
      rw [started, standing_mark, standing_mark]
      exact .start stage processor hasInlet ready
  · next refused =>
    -- either the processor has been given away or a start before this one has failed
    rw [standing_mark]
    apply Standing.Step.startAgain stage
    by_cases processor : r.processor = .receiver
    · right
      show r.hasInlet = false
      simpa [processor] using refused
    · left
      exact processor

/-- So does a call that shuts it down. -/
lemma standing_shutdown (idle : r.isIdle = true) :
    Standing.Step r.standing .shutdown r.shutdown.standing := by
  have stage : r.standing.stage = .none := isIdle_iff.mp idle
  unfold Receiver.shutdown
  split
  · next left =>
    rw [standing_mark]
    exact .shutDownAgain stage left
  · next there =>
    dsimp only
    split
    · next serving => exact .stopServer stage there serving
    · next idle => exact .close stage there (Bool.eq_false_iff.mpr idle)

/-- Whatever a receiver does, its standing takes a step. -/
lemma standing_step {move : Move ε} (h : r.step? decode move = some r') :
    Standing.Step r.standing move r'.standing := by
  cases steps_of_step? h with
  | init idle => exact standing_init idle _
  | invoke idle =>
    rw [standing_mark]
    exact .invoke (isIdle_iff.mp idle)
  | takeSignal idle =>
    rw [standing_mark]
    exact .takeSignal (isIdle_iff.mp idle)
  | shutdown idle => exact standing_shutdown idle
  | request _ _ =>
    rw [standing_request]
    exact .convey rfl
  | body _ _ =>
    rw [standing_withHandler]
    exact .convey rfl
  | handle _ _ =>
    rw [standing_withHandler]
    exact .convey rfl
  | give waiting _ _ =>
    rw [standing_mark]
    exact .give waiting
  | drop _ _ _ => exact .convey rfl
  | succeed busy => exact .processed busy
  | fail busy =>
    rw [standing_report]
    exact .processed busy
  | panic busy => exact .panic busy
  | workerEnds waiting _ _ _ => exact .finish waiting
  | serverEnds stage ends _ => exact .serverEnds stage ends
  | lose stage panicked =>
    rw [standing_mark]
    exact .lose stage panicked
  | join stage absent =>
    rw [standing_mark]
    exact .join stage absent
  | stop stage =>
    rw [standing_mark]
    exact .stop stage

end

end Sidecar.Receiver
