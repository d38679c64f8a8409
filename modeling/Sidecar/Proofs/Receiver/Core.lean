import Sidecar.Proofs.Receiver.Marks
import Sidecar.Proofs.Receiver.Steps

/-!
# What becomes of events

The log of a run says what becomes of events, move by move: each is put on the channel, taken off it,
and given to the processor or dropped (`Deal`, `log`). Of a receiver only a few parts bear on this.
They make up its `Core`, and `Core.Step` says all that a move can do to them (`core_step`).
-/

namespace Sidecar.Receiver

variable {ε : Type} {decode : List UInt8 → Except DecodeError ε}

/-! ## The log of a run -/

/-- What becomes of events. -/
inductive Deal (ε : Type) where
  /-- A handler has put an event on the channel. -/
  | sent (event : ε)
  /-- The processor is called with an event. -/
  | given (event : ε)
  /-- The call of the processor has returned. -/
  | returned (result : Except Failure Unit)
  /-- The worker has taken an event and does not give it to the processor. -/
  | dropped (event : ε)
  /-- The processor is told to shut down. -/
  | shutDown
  deriving DecidableEq, Repr

namespace Deal

def sent? : Deal ε → Option ε
  | .sent event => some event
  | _ => none

def isSent : Deal ε → Bool
  | .sent _ => true
  | _ => false

end Deal

/-- What a mark says about events. -/
def Mark.deal? : Mark ε → Option (Deal ε)
  | .process event => some (.given event)
  | .processorShutdown => some .shutDown
  | _ => none

/-- What was noted about events between two states. -/
def noted (r r' : Receiver ε) : List (Deal ε) :=
  (r'.marks.drop r.marks.length).filterMap Mark.deal?

/-- The event that was put on the channel between two states. -/
def put (r r' : Receiver ε) : List (Deal ε) :=
  if r.slot.isNone then r'.slot.toList.map .sent else []

/-- What a move does to events. -/
def dealt (r : Receiver ε) (move : Move ε) (r' : Receiver ε) : List (Deal ε) :=
  match move with
  | .take => if (noted r r').isEmpty then r.slot.toList.map .dropped else noted r r'
  | .processed result => .returned result :: noted r r'
  | _ => put r r' ++ noted r r'

/-- What becomes of events in a run, move by move. -/
def log (decode : List UInt8 → Except DecodeError ε) (r : Receiver ε) :
    List (Move ε) → List (Deal ε)
  | [] => []
  | move :: moves =>
    match r.step? decode move with
    | none => []
    | some r' => dealt r move r' ++ log decode r' moves

/-- The log of a run starts with what its first move deals. -/
lemma log_cons {r next : Receiver ε} {move : Move ε} (h : r.step? decode move = some next)
    (moves : List (Move ε)) :
    log decode r (move :: moves) = dealt r move next ++ log decode next moves := by
  rw [log, h]

/-! ## The core -/

/-- The parts of a receiver that bear on what becomes of events. -/
structure Core (ε : Type) where
  processor : Holder := .receiver
  worker : Worker ε := .absent
  slot : Option ε := none
  isHandling : Bool := false
  isOpen : Bool := true
  hasServed : Bool := false
  hasFailed : Bool := false
  stage : Stage := .none

/-- What of a receiver bears on its events. -/
def core (r : Receiver ε) : Core ε where
  processor := r.processor
  worker := r.worker
  slot := r.slot
  isHandling := r.handler.isSome
  isOpen := r.isOpen
  hasServed := r.hasServed
  hasFailed := r.hasFailed
  stage := r.stage

/-- What the handler and the worker can do to the core, and what they deal. -/
inductive Core.Work (c : Core ε) : List (Deal ε) → Core ε → Prop where
  | request :
    c.hasServed = true → c.isOpen = true →
    Core.Work c [] { c with isHandling := true }
  | handle {isHandling : Bool} :
    c.isHandling = true →
    Core.Work c [] { c with isHandling }
  | send {event : ε} :
    c.isHandling = true → c.slot = none → c.worker = .waiting ∨ (∃ other, c.worker = .busy other) →
    Core.Work c [.sent event] { c with slot := some event }
  | give {event : ε} :
    c.worker = .waiting → c.slot = some event → c.hasFailed = false →
    Core.Work c [.given event] { c with worker := .busy event, slot := none }
  | drop {event : ε} :
    c.worker = .waiting → c.slot = some event → c.hasFailed = true →
    Core.Work c [.dropped event] { c with slot := none }
  | succeed {event : ε} :
    c.worker = .busy event →
    Core.Work c [.returned (.ok ())] { c with worker := .waiting }
  | fail {event : ε} {cause : Failure} :
    c.worker = .busy event →
    Core.Work c [.returned (.error cause)] { c with worker := .waiting, hasFailed := true }
  | panic {event : ε} :
    c.worker = .busy event →
    Core.Work c [] { c with worker := .panicked, slot := none }
  /-- The worker ends only when nobody can send any more. -/
  | finish :
    c.worker = .waiting → c.slot = none → c.isOpen = false → c.isHandling = false →
    Core.Work c [] { c with worker := .absent }

/-- What the calls of the run and the shutdown can do to the core, and what they deal. -/
inductive Core.Turn (c : Core ε) : List (Deal ε) → Core ε → Prop where
  | start {hasServed : Bool} :
    c.processor = .receiver →
    Core.Turn c [] { c with processor := .worker, worker := .waiting, hasServed }
  | stopServer :
    c.stage = .none → c.processor ≠ .nobody →
    Core.Turn c [] { c with stage := .stoppingServer }
  | close {server : Except ReceiverError Unit} :
    c.stage = .stoppingServer ∨ c.stage = .none ∧ c.processor ≠ .nobody →
    Core.Turn c [] { c with isOpen := false, stage := .awaitingWorker server }
  | lose {server : Except ReceiverError Unit} :
    c.stage = .awaitingWorker server → c.worker = .panicked →
    Core.Turn c [] { c with processor := .nobody, stage := .none }
  | join {server : Except ReceiverError Unit} :
    c.stage = .awaitingWorker server → c.worker = .absent →
    Core.Turn c [.shutDown] { c with processor := .nobody, stage := .awaitingProcessor server }
  | stop {server : Except ReceiverError Unit} :
    c.stage = .awaitingProcessor server →
    Core.Turn c [] { c with stage := .none }

/-- All that a move can do to the core. -/
inductive Core.Step (c : Core ε) : List (Deal ε) → Core ε → Prop where
  | idle : Core.Step c [] c
  | work {deals : List (Deal ε)} {c' : Core ε} : Core.Work c deals c' → Core.Step c deals c'
  | turn {deals : List (Deal ε)} {c' : Core ε} : Core.Turn c deals c' → Core.Step c deals c'

/-- Without a worker no work is done unless a batch is taken. -/
lemma Core.Work.isHandling_of_absent {c c' : Core ε} {deals : List (Deal ε)}
    (h : Core.Work c deals c') (absent : c.worker = .absent) :
    c.isHandling = true ∨ c.hasServed = true ∧ c.isOpen = true := by
  cases h with
  | request served isOpen => exact .inr ⟨served, isOpen⟩
  | handle handles => exact .inl handles
  | send handles _ _ => exact .inl handles
  | give waiting _ _ => cases absent.symm.trans waiting
  | drop waiting _ _ => cases absent.symm.trans waiting
  | succeed busy => cases absent.symm.trans busy
  | fail busy => cases absent.symm.trans busy
  | panic busy => cases absent.symm.trans busy
  | finish waiting _ _ _ => cases absent.symm.trans waiting

/-! ## What a move does -/

/-- Nothing that was noted since concerns events. -/
def Quiet (r r' : Receiver ε) : Prop :=
  ∃ marks, r'.marks = r.marks ++ marks ∧ marks.filterMap Mark.deal? = []

namespace Quiet

variable {r r' : Receiver ε}

/-- If nothing is noted nothing concerns events. -/
lemma refl (r : Receiver ε) : Quiet r r := ⟨[], (List.append_nil _).symm, rfl⟩

/-- A mark that does not concern events is quiet. -/
lemma mark (h : Quiet r r') {mark : Mark ε} (quiet : mark.deal? = none) :
    Quiet r (r'.mark mark) := by
  obtain ⟨marks, more, silent⟩ := h
  refine ⟨marks ++ [mark], ?_, ?_⟩
  · rw [← List.append_assoc, ← more]
    rfl
  · rw [List.filterMap_append, silent, List.filterMap_cons, quiet]
    rfl

/-- So is a report. -/
lemma report (h : Quiet r r') (e : ReceiverError) : Quiet r (r'.report e) :=
  Quiet.mark h rfl

/-- So is an answer to a batch. -/
lemma answer (h : Quiet r r') (result : Except DecodeError Nat) : Quiet r (r'.answer result) := by
  cases result with
  | ok n => exact h.mark rfl
  | error e => exact (h.report _).mark rfl

/-- So is going on with a handler. -/
lemma withHandler (h : Quiet r r') (handler : Handler ε) : Quiet r (r'.withHandler handler) := by
  cases handler with
  | finished result =>
    have answered : Quiet r { r' with handler := none } := h
    exact answered.answer result
  | _ => exact h

/-- If all is quiet nothing is noted about events. -/
lemma noted_eq (h : Quiet r r') : noted r r' = [] := by
  obtain ⟨marks, more, silent⟩ := h
  rw [noted, more, List.drop_left, silent]

end Quiet

/-- One mark more is noted if it concerns events. -/
lemma noted_mark {r r' : Receiver ε} (same : r'.marks = r.marks) (mark : Mark ε) :
    noted r (r'.mark mark) = mark.deal?.toList := by
  rw [noted, Receiver.mark, same, List.drop_left]
  cases h : mark.deal? <;> simp [h]

/-- If the channel is the same nothing was put on it. -/
lemma put_eq_nil {r r' : Receiver ε} (same : r'.slot = r.slot) : put r r' = [] := by
  unfold put
  split
  · next empty =>
    rw [same, Option.isNone_iff_eq_none.mp empty]
    rfl
  · rfl

/-- An answer leaves the core as it is. -/
lemma core_answer (r : Receiver ε) (result : Except DecodeError Nat) :
    (r.answer result).core = r.core := by
  cases result <;> rfl

/-- A handler goes on or has answered; else nothing changes. -/
lemma core_withHandler (r : Receiver ε) (handler : Handler ε) :
    ∃ isHandling, (r.withHandler handler).core = { r.core with isHandling } := by
  cases handler with
  | finished result => exact ⟨false, core_answer ..⟩
  | _ => exact ⟨true, rfl⟩

/-- A start either leaves the processor with the receiver or gives it to a worker, and notes nothing
about events. -/
lemma quiet_start (r : Receiver ε) (startup : Startup) :
    Quiet r (r.start startup) ∧ ((r.start startup).core = r.core ∨
      ∃ hasServed, (r.start startup).core =
        { r.core with processor := .worker, worker := .waiting, hasServed }) := by
  obtain ⟨init, port, subscription⟩ := startup
  have begun : Quiet r ({ r with hasInlet := false }.mark .processorInit) :=
    Quiet.mark (.refl r) rfl
  cases init with
  | error cause => exact ⟨begun.mark rfl, .inl rfl⟩
  | ok _ =>
    cases port with
    | none => exact ⟨Quiet.mark begun rfl, .inr ⟨r.hasServed, rfl⟩⟩
    | some port =>
      cases url : Destination.url r.address port with
      | error e =>
        simp only [start, mark, url]
        exact ⟨Quiet.mark begun rfl, .inr ⟨true, rfl⟩⟩
      | ok uri =>
        simp only [start, mark, url]
        cases subscription <;> exact ⟨Quiet.mark begun rfl, .inr ⟨true, rfl⟩⟩

/-- A step that deals nothing puts no event on the channel. -/
lemma Core.Step.slot_eq_none {c c' : Core ε} (h : Core.Step c [] c') (empty : c.slot = none) :
    c'.slot = none := by
  cases h with
  | idle => exact empty
  | work work => cases work <;> first | exact empty | rfl
  | turn turn => cases turn <;> exact empty

/-- A quiet step deals what it does to the core. -/
lemma step_of_quiet {r r' : Receiver ε} (quiet : Quiet r r') (step : Core.Step r.core [] r'.core) :
    Core.Step r.core (put r r' ++ noted r r') r'.core := by
  have nothing : put r r' = [] := by
    unfold put
    split
    · next empty =>
      have empty' : r'.slot = none := step.slot_eq_none (Option.isNone_iff_eq_none.mp empty)
      rw [empty']
      rfl
    · rfl
  rw [nothing, quiet.noted_eq]
  exact step

/-- A handler that sends an event has found the channel free, and goes on. -/
lemma free_of_move? {handler handler' : Handler ε} {isCancelled : Bool} {outlet : Outlet} {event : ε}
    (h : handler.move? decode isCancelled outlet = some (handler', some event)) :
    outlet = .free ∧ ∃ d, handler' = .decoding d := by
  cases handler with
  | decoding d =>
    simp only [Handler.move?] at h
    split at h
    · split at h <;> cases h
    · split at h
      · cases h
      · split at h
        · cases h
        · split at h <;> cases h
  | sending d other =>
    simp only [Handler.move?] at h
    split at h
    · cases h
    · cases outlet with
      | free =>
        cases h
        exact ⟨rfl, _, rfl⟩
      | _ => cases h
  | draining result =>
    simp only [Handler.move?] at h
    split at h <;> cases h
  | finished result => cases h

/-- A channel is free if it is empty and the worker goes on receiving. -/
lemma receives_of_free {r : Receiver ε} (free : r.outlet = .free) :
    r.slot = none ∧ (r.worker = .waiting ∨ ∃ other, r.worker = .busy other) := by
  unfold outlet at free
  split at free
  · cases free
  · next receives =>
    split at free
    · cases free
    · next empty =>
      refine ⟨by simpa using empty, ?_⟩
      cases busy : r.worker <;> simp [isReceiving, busy] at receives ⊢

/-- Going on with a handler deals nothing. -/
lemma step_withHandler {r : Receiver ε} {handler : Handler ε} (handles : r.handler = some handler)
    (handler' : Handler ε) :
    Core.Step r.core (put r (r.withHandler handler') ++ noted r (r.withHandler handler'))
      (r.withHandler handler').core := by
  refine step_of_quiet (Quiet.withHandler (.refl r) handler') ?_
  obtain ⟨isHandling, core⟩ := core_withHandler r handler'
  rw [core]
  exact .work (.handle (by simp [Receiver.core, handles]))

/-- The call that starts the receiver does so, or changes nothing. -/
lemma step_init (r : Receiver ε) (startup : Startup) :
    Quiet r (r.init startup) ∧ Core.Step r.core [] (r.init startup).core := by
  unfold Receiver.init
  split
  · next starts =>
    obtain ⟨quiet, same | ⟨hasServed, started⟩⟩ := quiet_start r startup
    · rw [same]
      exact ⟨quiet, .idle⟩
    · rw [started]
      exact ⟨quiet, .turn (.start (by simp_all [Receiver.core]))⟩
  · exact ⟨Quiet.mark (.refl r) rfl, .idle⟩

/-- The call that shuts the receiver down begins to do so, or changes nothing. -/
lemma step_shutdown {r : Receiver ε} (idle : r.isIdle = true) :
    Quiet r r.shutdown ∧ Core.Step r.core [] r.shutdown.core := by
  have stage : r.stage = .none := isIdle_iff.mp idle
  unfold Receiver.shutdown
  split
  · exact ⟨Quiet.mark (.refl r) rfl, .idle⟩
  · next left =>
    cases serving : r.isServing with
    | true => exact ⟨.refl r, .turn (.stopServer stage left)⟩
    | false => exact ⟨.refl r, .turn (.close (.inr ⟨stage, left⟩))⟩

/-- A request concerns no events. -/
lemma step_request {r : Receiver ε} (hasServed : r.hasServed = true) (method : String) :
    Quiet r (r.request method) ∧ Core.Step r.core [] (r.request method).core := by
  unfold Receiver.request
  split
  · exact ⟨.mark (.report (.refl r) _) rfl, .idle⟩
  · split
    · next isOpen => exact ⟨.refl r, .work (.request hasServed isOpen)⟩
    · rw [core_answer]
      exact ⟨.answer (.refl r) _, .idle⟩

/-- A handler that moves deals at most the event that it sends. -/
lemma step_handle {r : Receiver ε} {handler handler' : Handler ε} {event : Option ε}
    (handles : r.handler = some handler)
    (moves : handler.move? decode r.isCancelled r.outlet = some (handler', event)) :
    Core.Step r.core
      (put r ({ r with slot := event <|> r.slot }.withHandler handler') ++
        noted r ({ r with slot := event <|> r.slot }.withHandler handler'))
      ({ r with slot := event <|> r.slot }.withHandler handler').core := by
  cases event with
  | none => exact step_withHandler handles handler'
  | some event =>
    obtain ⟨free, d, rfl⟩ := free_of_move? moves
    obtain ⟨empty, receives⟩ := receives_of_free free
    have quiet : Quiet r { r with slot := some event, handler := some (.decoding d) } := .refl r
    have sent : put r { r with slot := some event, handler := some (.decoding d) } =
        [.sent event] := by
      simp [put, empty]
    have core : core { r with slot := some event, handler := some (.decoding d) } =
        { r.core with slot := some event } := by
      simp [Receiver.core, handles]
    have step : Core.Step r.core [.sent event] { r.core with slot := some event } :=
      .work (.send (by simp [Receiver.core, handles]) empty receives)
    rw [← core, ← sent, ← List.append_nil (put _ _), ← quiet.noted_eq] at step
    exact step

/-- Whatever a receiver does, its core takes a step. -/
lemma core_step {r r' : Receiver ε} {move : Move ε} (h : r.step? decode move = some r') :
    Core.Step r.core (dealt r move r') r'.core := by
  cases steps_of_step? h with
  | init _ => exact step_of_quiet (step_init r _).1 (step_init r _).2
  | invoke _ => exact step_of_quiet (Quiet.mark (.refl r) rfl) .idle
  | takeSignal _ => exact step_of_quiet (Quiet.mark (.refl r) rfl) .idle
  | shutdown idle => exact step_of_quiet (step_shutdown idle).1 (step_shutdown idle).2
  | request served _ => exact step_of_quiet (step_request served _).1 (step_request served _).2
  | body handles _ => exact step_withHandler handles _
  | handle handles moves => exact step_handle handles moves
  -- what is put on the channel is dealt with above; here it is taken, and calls of the processor return
  | @give event waiting slot fine =>
    have given : dealt r .take
        ({ r with slot := none, worker := .busy event }.mark (.process event)) = [.given event] := by
      simp only [dealt, noted_mark]
      rfl
    rw [given]
    exact .work (.give waiting slot fine)
  | @drop event waiting slot failed =>
    have quiet : Quiet r { r with slot := none } := .refl r
    have dropped : dealt r .take { r with slot := none } = [.dropped event] := by
      simp [dealt, quiet.noted_eq, slot]
    rw [dropped]
    exact .work (.drop waiting slot failed)
  | succeed busy =>
    have quiet : Quiet r { r with worker := .waiting } := .refl r
    rw [dealt, quiet.noted_eq]
    exact .work (.succeed busy)
  | @fail _ cause busy =>
    have quiet : Quiet r ({ r with worker := .waiting, hasFailed := true }.report
        (.process cause)) :=
      Quiet.report (.refl r) _
    rw [dealt, quiet.noted_eq]
    exact .work (.fail busy)
  | panic busy => exact step_of_quiet (.refl r) (.work (.panic busy))
  | workerEnds waiting empty closed idle =>
    exact step_of_quiet (.refl r) (.work (.finish waiting empty closed (by simp [core, idle])))
  | @serverEnds _ server stage ends _ =>
    have step : Core.Step r.core (put r (r.close server) ++ noted r (r.close server))
        (r.close server).core :=
      step_of_quiet (.refl r) (.turn (.close (.inl stage)))
    cases move with
    | serverStops | serverPanics | serverAborts _ => exact step
    | _ => cases ends
  | lose stage panicked => exact step_of_quiet (Quiet.mark (.refl r) rfl) (.turn (.lose stage panicked))
  | @join server stage absent =>
    have told : dealt r .joined
        ({ r with processor := .nobody, stage := .awaitingProcessor server }.mark
          .processorShutdown) = [.shutDown] := by
      rw [dealt, put_eq_nil (by rfl), noted_mark (by rfl)]
      · rfl
      all_goals nofun
    rw [told]
    exact .turn (.join stage absent)
  | stop stage => exact step_of_quiet (Quiet.mark (.refl r) rfl) (.turn (.stop stage))

end Sidecar.Receiver
