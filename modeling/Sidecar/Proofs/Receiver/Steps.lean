import Mathlib.Control.Monad.Basic
import Mathlib.Data.List.Induction
import Mathlib.Tactic.Lemma
import Sidecar.Receiver.System

/-!
# The steps of a receiver

Which moves are possible, and what each of them does, as a relation: one way to step for each thing that
may happen (`Steps`, `step?_eq_some_iff`). What each step keeps every run keeps (`run?_induction`).
-/

namespace Sidecar.Receiver

variable {ε : Type} {decode : List UInt8 → Except DecodeError ε} {r r' : Receiver ε} {move : Move ε}

/-- How the server has ended, if a move says so. -/
def Move.serverEnd? : Move ε → Option (Except ReceiverError Unit)
  | .serverStops => some (.ok ())
  | .serverPanics => some (.error .serverPanic)
  | .serverAborts stop => some (.error (.serverShutdown stop))
  | _ => none

/-- What shutting down comes to: a failure of the processor counts before one of the server. -/
def outcome (server : Except ReceiverError Unit) : Except Failure Unit → Except ReceiverError Unit
  | .ok () => server
  | .error cause => .error (.processorShutdown cause)

/-- What a receiver may do, and what it is then. -/
inductive Steps (decode : List UInt8 → Except DecodeError ε) (r : Receiver ε) :
    Move ε → Receiver ε → Prop where
  | init {startup : Startup} :
    r.isIdle = true →
    Steps decode r (.init startup) (r.init startup)
  | invoke :
    r.isIdle = true →
    Steps decode r .invoke (r.mark (.returned (.error .unexpectedInvoke)))
  | takeSignal :
    r.isIdle = true →
    Steps decode r .takeSignal ({ r with hasSignal := false }.mark (.signal r.hasSignal))
  | shutdown :
    r.isIdle = true →
    Steps decode r .shutdown r.shutdown
  | request {method : String} :
    r.hasServed = true → r.handler = none →
    Steps decode r (.request method) (r.request method)
  | body {piece : Option Body.Item} {handler handler' : Handler ε} :
    r.handler = some handler → handler.accept? r.isCancelled piece = some handler' →
    Steps decode r (.body piece) (r.withHandler handler')
  | handle {handler handler' : Handler ε} {event : Option ε} :
    r.handler = some handler → handler.move? decode r.isCancelled r.outlet = some (handler', event) →
    Steps decode r .handle ({ r with slot := event <|> r.slot }.withHandler handler')
  | give {event : ε} :
    r.worker = .waiting → r.slot = some event → r.hasFailed = false →
    Steps decode r .take ({ r with slot := none, worker := .busy event }.mark (.process event))
  /-- After a failure of the processor the worker takes an event to no purpose. -/
  | drop {event : ε} :
    r.worker = .waiting → r.slot = some event → r.hasFailed = true →
    Steps decode r .take { r with slot := none }
  | succeed {event : ε} :
    r.worker = .busy event →
    Steps decode r (.processed (.ok ())) { r with worker := .waiting }
  | fail {event : ε} {cause : Failure} :
    r.worker = .busy event →
    Steps decode r (.processed (.error cause))
      ({ r with worker := .waiting, hasFailed := true }.report (.process cause))
  | panic {event : ε} :
    r.worker = .busy event →
    Steps decode r .panic { r with worker := .panicked, slot := none }
  | workerEnds :
    r.worker = .waiting → r.slot = none → r.isOpen = false → r.handler = none →
    Steps decode r .workerEnds { r with worker := .absent }
  /-- Only a server that stops by itself waits for its last handler. -/
  | serverEnds {move : Move ε} {server : Except ReceiverError Unit} :
    r.stage = .stoppingServer → move.serverEnd? = some server →
    (move = .serverStops → r.handler = none) →
    Steps decode r move (r.close server)
  | lose {server : Except ReceiverError Unit} :
    r.stage = .awaitingWorker server → r.worker = .panicked →
    Steps decode r .joined
      ({ r with processor := .nobody, stage := .none }.mark (.returned (.error .worker)))
  | join {server : Except ReceiverError Unit} :
    r.stage = .awaitingWorker server → r.worker = .absent →
    Steps decode r .joined
      ({ r with processor := .nobody, stage := .awaitingProcessor server }.mark .processorShutdown)
  | stop {server : Except ReceiverError Unit} {result : Except Failure Unit} :
    r.stage = .awaitingProcessor server →
    Steps decode r (.processorStops result)
      ({ r with stage := .none }.mark (.returned (outcome server result)))

/-- No call is under way just if no shutdown is. -/
lemma isIdle_iff : r.isIdle = true ↔ r.stage = .none := by
  unfold isIdle
  cases r.stage <;> simp

/-! ## Moves of the worker -/

/-- What taking an event off the channel may do. -/
lemma steps_of_take (h : r.step? decode .take = some r') : Steps decode r .take r' := by
  cases waiting : r.worker with
  | waiting =>
    cases slot : r.slot with
    | none => simp [step?, waiting, slot] at h
    | some event =>
      cases failed : r.hasFailed with
      | true =>
        have dropped : r.step? decode .take = some { r with slot := none } := by
          simp [step?, waiting, slot, failed]
        cases dropped.symm.trans h
        exact .drop waiting slot failed
      | false =>
        have given : r.step? decode .take =
            some ({ r with slot := none, worker := .busy event }.mark (.process event)) := by
          simp [step?, waiting, slot, failed]
        cases given.symm.trans h
        exact .give waiting slot failed
  | _ => simp [step?, waiting] at h

/-- What a return of the processor may do. -/
lemma steps_of_processed {result : Except Failure Unit}
    (h : r.step? decode (.processed result) = some r') : Steps decode r (.processed result) r' := by
  cases busy : r.worker with
  | busy event =>
    simp only [step?, busy] at h
    cases result <;> cases h
    · exact .fail busy
    · exact .succeed busy
  | _ => simp [step?, busy] at h

/-- What the end of the worker does. -/
lemma steps_of_workerEnds (h : r.step? decode .workerEnds = some r') :
    Steps decode r .workerEnds r' := by
  cases waiting : r.worker with
  | waiting =>
    simp only [step?, waiting] at h
    split at h
    · next ends =>
      cases h
      simp only [Bool.and_eq_true, Option.isNone_iff_eq_none, Bool.not_eq_true'] at ends
      obtain ⟨⟨empty, closed⟩, idle⟩ := ends
      exact .workerEnds waiting empty closed idle
    · cases h
  | _ => simp [step?, waiting] at h

/-! ## Moves of the shutdown -/

/-- What an end of the server does, whichever it is. -/
lemma steps_of_serverEnds {server : Except ReceiverError Unit} (h : r.step? decode move = some r')
    (ends : move.serverEnd? = some server) : Steps decode r move r' := by
  cases stage : r.stage with
  | stoppingServer =>
    cases move with
    | serverStops =>
      simp only [step?, stage] at h
      split at h <;> cases h
      exact .serverEnds stage rfl fun _ => Option.isNone_iff_eq_none.mp ‹_›
    | serverPanics =>
      simp only [step?, stage] at h
      cases h
      exact .serverEnds stage rfl nofun
    | serverAborts _ =>
      simp only [step?, stage] at h
      cases h
      exact .serverEnds stage rfl nofun
    | _ => cases ends
  | _ =>
    cases move with
    | serverStops | serverPanics | serverAborts _ => simp [step?, stage] at h
    | _ => cases ends

/-- What waiting for the worker may come to. -/
lemma steps_of_joined (h : r.step? decode .joined = some r') : Steps decode r .joined r' := by
  cases stage : r.stage with
  | awaitingWorker server =>
    cases worker : r.worker with
    | panicked =>
      have lost : r.step? decode .joined =
          some ({ r with processor := .nobody, stage := .none }.mark
            (.returned (.error .worker))) := by
        simp [step?, stage, worker]
      cases lost.symm.trans h
      exact .lose stage worker
    | absent =>
      have joined : r.step? decode .joined =
          some ({ r with processor := .nobody, stage := .awaitingProcessor server }.mark
            .processorShutdown) := by
        simp [step?, stage, worker]
      cases joined.symm.trans h
      exact .join stage worker
    | _ => simp [step?, stage, worker] at h
  | _ => simp [step?, stage] at h

/-- What the shutdown of the processor comes to. -/
lemma steps_of_processorStops {result : Except Failure Unit}
    (h : r.step? decode (.processorStops result) = some r') :
    Steps decode r (.processorStops result) r' := by
  cases stage : r.stage with
  | awaitingProcessor server =>
    simp only [step?, stage] at h
    have stop : Steps decode r (.processorStops result)
        ({ r with stage := .none }.mark (.returned (outcome server result))) := .stop stage
    cases result <;> cases h <;> exact stop
  | _ => simp [step?, stage] at h

/-! ## All moves -/

/-- Every move that is possible does one of these things. -/
lemma steps_of_step? (h : r.step? decode move = some r') : Steps decode r move r' := by
  cases move with
  | init startup =>
    simp only [step?] at h
    split at h <;> cases h
    exact .init ‹_›
  | invoke =>
    simp only [step?] at h
    split at h <;> cases h
    exact .invoke ‹_›
  | takeSignal =>
    simp only [step?] at h
    split at h <;> cases h
    exact .takeSignal ‹_›
  | shutdown =>
    simp only [step?] at h
    split at h <;> cases h
    exact .shutdown ‹_›
  | request method =>
    simp only [step?] at h
    split at h
    · next served =>
      cases h
      obtain ⟨served, idle⟩ := Bool.and_eq_true_iff.mp served
      exact .request served (Option.isNone_iff_eq_none.mp idle)
    · cases h
  | body piece =>
    simp only [step?, Option.bind_eq_bind, Option.bind_eq_some_iff] at h
    obtain ⟨handler, handles, handler', accepts, same⟩ := h
    cases same
    exact .body handles accepts
  | handle =>
    simp only [step?, Option.bind_eq_bind, Option.bind_eq_some_iff] at h
    obtain ⟨handler, handles, ⟨handler', event⟩, moves, same⟩ := h
    cases same
    exact .handle handles moves
  | take => exact steps_of_take h
  | processed result => exact steps_of_processed h
  -- of the other moves each has a lemma of its own above
  | panic =>
    cases busy : r.worker with
    | busy event =>
      simp only [step?, busy] at h
      cases h
      exact .panic busy
    | _ => simp [step?, busy] at h
  | workerEnds => exact steps_of_workerEnds h
  | serverStops => exact steps_of_serverEnds h rfl
  | serverPanics => exact steps_of_serverEnds h rfl
  | serverAborts stop => exact steps_of_serverEnds h rfl
  | joined => exact steps_of_joined h
  | processorStops result => exact steps_of_processorStops h

/-- Each of these things is what the move does. -/
lemma Steps.step?_eq (h : Steps decode r move r') : r.step? decode move = some r' := by
  cases h with
  | init idle => simp only [step?, idle, if_true]
  | invoke idle => simp only [step?, idle, if_true]
  | takeSignal idle => simp only [step?, idle, if_true]
  | shutdown idle => simp only [step?, idle, if_true]
  | request served idle => simp [step?, served, idle]
  | body handles accepts => simp [step?, handles, accepts]
  | handle handles moves => simp [step?, handles, moves]
  | give waiting slot fine => simp [step?, waiting, slot, fine]
  | drop waiting slot failed => simp [step?, waiting, slot, failed]
  | succeed busy => simp [step?, busy]
  | fail busy => simp [step?, busy]
  | panic busy => simp [step?, busy]
  | workerEnds waiting empty closed idle => simp [step?, waiting, empty, closed, idle]
  | serverEnds stage ends idle =>
    cases move with
    | serverStops =>
      cases ends
      simp [step?, stage, idle rfl]
    | serverPanics | serverAborts _ =>
      cases ends
      simp [step?, stage]
    | _ => cases ends
  | lose stage worker => simp [step?, stage, worker]
  | join stage worker => simp [step?, stage, worker]
  | @stop _ result stage =>
    cases result <;> simp [step?, stage, outcome]

/-- The moves that are possible are the steps. -/
theorem step?_eq_some_iff : r.step? decode move = some r' ↔ Steps decode r move r' :=
  ⟨steps_of_step?, Steps.step?_eq⟩

/-! ## Runs -/

/-- A run makes its first move, and then the others. -/
lemma run?_cons {moves : List (Move ε)} :
    r.run? decode (move :: moves) = some r' ↔
      ∃ next, r.step? decode move = some next ∧ next.run? decode moves = some r' := by
  simp only [run?, List.foldlM_cons, Option.bind_eq_bind, Option.bind_eq_some_iff]

/-- A run may be cut in two. -/
lemma run?_append {moves later : List (Move ε)} :
    r.run? decode (moves ++ later) = some r' ↔
      ∃ next, r.run? decode moves = some next ∧ next.run? decode later = some r' := by
  simp only [run?, List.foldlM_append, Option.bind_eq_bind, Option.bind_eq_some_iff]

/-- What holds at the start and is kept by every step holds at the end of every run. -/
theorem run?_induction {motive : List (Move ε) → Receiver ε → Prop} (start : motive [] r)
    (step : ∀ moves r' move r'', motive moves r' → r'.step? decode move = some r'' →
      motive (moves ++ [move]) r'')
    {moves : List (Move ε)} (h : r.run? decode moves = some r') : motive moves r' := by
  induction moves using List.reverseRecOn generalizing r' with
  | nil =>
    cases h
    exact start
  | append_singleton moves move ih =>
    obtain ⟨next, runs, last⟩ := run?_append.mp h
    obtain ⟨_, stepped, stays⟩ := run?_cons.mp last
    cases stays
    exact step moves next move r' (ih runs) stepped

end Sidecar.Receiver
