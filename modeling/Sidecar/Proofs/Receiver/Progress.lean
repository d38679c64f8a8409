import Sidecar.Proofs.Receiver.Faithful
import Sidecar.Proofs.Receiver.Standing

/-!
# A receiver does not get stuck

The handler of a batch waits for the worker, the worker for everybody who may still send, and the shutdown
for both. None of them waits for ever: as long as a shutdown is under way some part can move that needs
nothing from the platform (`exists_onward`), and every such move leaves less to wait for
(`Awaited.unfinished`, `unfinished_lt`). What makes this so is that decoding is cancelled before the
shutdown waits, and that the channel is closed before it waits for the worker (`Stoppable`).
-/

namespace Sidecar

variable {ε : Type} {decode : List UInt8 → Except DecodeError ε}

/-! ## Handlers that are cancelled -/

namespace Handler

variable {handler handler' : Handler ε} {isCancelled : Bool} {outlet : Outlet} {event : Option ε}
  {piece : Option Body.Item}

/-- A handler that goes on, if it does. -/
def ongoing? : Handler ε → Option (Handler ε)
  | .finished _ => none
  | handler => some handler

/-- A handler that goes on has not answered. -/
lemma isBusy_of_ongoing? (h : handler.ongoing? = some handler') : handler'.IsBusy := by
  cases handler <;> cases h <;> trivial

/-- A bound on the steps of a handler after decoding has been cancelled. -/
def unfinished : Handler ε → Nat
  | .decoding _ => 2
  | .sending _ _ => 1
  | .draining _ => 1
  | .finished _ => 0

/-- A handler whose decoding is cancelled does not wait for anything. -/
lemma moves_of_cancelled (decode : List UInt8 → Except DecodeError ε) (isBusy : handler.IsBusy)
    (outlet : Outlet) :
    ∃ moved, handler.move? decode true outlet = some moved := by
  cases handler with
  | decoding d =>
    obtain ⟨scanner, elements, problem, sent⟩ := d
    cases elements with
    | cons raw rest => cases decodes : decode raw <;> exact ⟨_, by simp only [move?, decodes]; rfl⟩
    | nil =>
      cases problem with
      | some problem => exact ⟨_, rfl⟩
      | none => cases closed : scanner.isClosed <;> exact ⟨_, by simp only [move?, closed]; rfl⟩
  | sending d event => exact ⟨_, rfl⟩
  | draining result => exact ⟨_, rfl⟩
  | finished result => exact absurd isBusy id

/-- A handler that does not go on has nothing left to do. -/
lemma unfinished_ongoing? (handler : Handler ε) :
    (handler.ongoing?.map unfinished).getD 0 = handler.unfinished := by
  cases handler <;> rfl

/-- After a cancellation a handler sends nothing, and has less left to do with each move. -/
lemma unfinished_lt (h : handler.move? decode true outlet = some (handler', event)) :
    event = none ∧ handler'.unfinished < handler.unfinished := by
  cases handler with
  | decoding d =>
    simp only [move?] at h
    split at h
    · split at h <;> cases h <;> exact ⟨rfl, Nat.lt_succ_self 1⟩
    · split at h
      · cases h
        exact ⟨rfl, Nat.lt_succ_self 1⟩
      · split at h <;> cases h
        · exact ⟨rfl, Nat.lt_succ_self 1⟩
        · exact ⟨rfl, Nat.zero_lt_two⟩
  | sending d event =>
    cases h
    exact ⟨rfl, Nat.one_pos⟩
  | draining result =>
    cases h
    exact ⟨rfl, Nat.one_pos⟩
  | finished result => cases h

/-- After cancellation a piece of the body takes a handler no further from its end. -/
lemma unfinished_le (h : handler.accept? true piece = some handler') :
    handler'.unfinished ≤ handler.unfinished := by
  cases handler with
  | decoding d => simp [accept?] at h
  | sending d event => cases h
  | draining result =>
    simp only [accept?] at h
    split at h <;> cases h
    · exact Nat.le_refl 1
    · exact Nat.zero_le 1
  | finished result => cases h

/-- A handler that does nothing, though the channel is not full, waits for the body. -/
lemma accepts_of_idle (isBusy : handler.IsBusy) (room : outlet ≠ .full)
    (idle : handler.move? decode isCancelled outlet = none) (piece : Option Body.Item) :
    ∃ handler', handler.accept? isCancelled piece = some handler' := by
  cases isCancelled with
  | true =>
    obtain ⟨moved, moves⟩ := moves_of_cancelled decode isBusy outlet
    cases idle.symm.trans moves
  | false =>
    have idle : handler.move? decode false .free = none := by
      cases handler with
      | decoding d => exact idle
      | sending d event =>
        cases outlet with
        | full => exact absurd rfl room
        | _ => cases idle
      | draining result => rfl
      | finished result => rfl
    exact accepts_of_stuck isBusy idle piece

end Handler

namespace Receiver

/-! ## What a shutdown waits for -/

/-- The parts of a receiver that its shutdown waits for. -/
structure Awaited (ε : Type) where
  stage : Stage
  isCancelled : Bool
  isOpen : Bool
  handler : Option (Handler ε)
  slot : Option ε
  worker : Worker ε

/-- What of a receiver bears on how long a shutdown lasts. -/
def awaited (r : Receiver ε) : Awaited ε :=
  ⟨r.stage, r.isCancelled, r.isOpen, r.handler, r.slot, r.worker⟩

/-- An answer changes nothing that a shutdown waits for. -/
lemma awaited_answer (r : Receiver ε) (result : Except DecodeError Nat) :
    (r.answer result).awaited = r.awaited := by
  cases result <;> rfl

/-- What a handler does changes the handler, and nothing else that a shutdown waits for. -/
lemma awaited_withHandler (r : Receiver ε) (handler : Handler ε) :
    (r.withHandler handler).awaited = { r.awaited with handler := handler.ongoing? } := by
  cases handler with
  | finished result => exact awaited_answer ..
  | _ => rfl

/-- A start gives the receiver a worker, if anything. -/
lemma awaited_init (r : Receiver ε) (startup : Startup) :
    (r.init startup).awaited = r.awaited ∨
      (r.init startup).awaited = { r.awaited with worker := .waiting } := by
  unfold Receiver.init
  split
  · cases ready : startup.processor with
    | error cause =>
      left
      simp only [start, ready]
      rfl
    | ok _ =>
      right
      obtain ⟨hasServed, result, started⟩ := start_eq r ready
      rw [started]
      rfl
  · exact .inl rfl

/-- A request gives the receiver a handler, if anything. -/
lemma awaited_request (r : Receiver ε) (method : String) :
    (r.request method).awaited = r.awaited ∨
      (r.request method).awaited = { r.awaited with handler := some .initial } := by
  unfold Receiver.request
  split
  · exact .inl rfl
  · split
    · exact .inr rfl
    · exact .inl (awaited_answer ..)

/-- A shutdown cancels decoding before it waits, and closes the channel before it waits for the worker. -/
structure Awaited.Stoppable (a : Awaited ε) : Prop where
  isCancelled : a.stage ≠ .none → a.isCancelled = true
  isClosed : ∀ server, a.stage = .awaitingWorker server → a.isOpen = false
  isBusy : ∀ handler, a.handler = some handler → handler.IsBusy

namespace Awaited.Stoppable

variable {a : Awaited ε} {r r' : Receiver ε} {move : Move ε}

/-- A receiver that has been cancelled may be closed. -/
lemma close {server : Except ReceiverError Unit} (h : a.Stoppable) (cancelled : a.isCancelled = true) :
    { a with isOpen := false, stage := .awaitingWorker server }.Stoppable :=
  ⟨fun _ => cancelled, fun _ _ => rfl, h.isBusy⟩

/-- A handler that has not answered may be waited for. -/
lemma handling {handler : Option (Handler ε)} (h : a.Stoppable)
    (busy : ∀ handler', handler = some handler' → handler'.IsBusy) :
    { a with handler }.Stoppable :=
  ⟨h.isCancelled, h.isClosed, busy⟩

/-- A call that shuts the receiver down cancels decoding first. -/
lemma shutdown (h : r.awaited.Stoppable) : r.shutdown.awaited.Stoppable := by
  unfold Receiver.shutdown
  split
  · exact h
  · dsimp only
    split
    · exact ⟨fun _ => rfl, nofun, h.isBusy⟩
    · exact ⟨fun _ => rfl, fun _ _ => rfl, h.isBusy⟩

/-- Every step keeps the receiver stoppable. -/
lemma step (h : r.awaited.Stoppable) (steps : Steps decode r move r') : r'.awaited.Stoppable := by
  cases steps with
  | init _ =>
    rename_i startup _
    rcases awaited_init r startup with same | started
    · rw [same]
      exact h
    · rw [started]
      exact ⟨h.isCancelled, h.isClosed, h.isBusy⟩
  | invoke _ => exact h
  | takeSignal _ => exact h
  | shutdown _ => exact h.shutdown
  | @request method _ _ =>
    rcases awaited_request r method with same | taken
    · rw [same]
      exact h
    · rw [taken]
      apply h.handling
      rintro handler' ⟨⟩
      trivial
  | body _ _ =>
    rw [awaited_withHandler]
    exact h.handling fun _ => Handler.isBusy_of_ongoing?
  | handle _ _ =>
    rw [awaited_withHandler]
    exact ⟨h.isCancelled, h.isClosed, fun _ => Handler.isBusy_of_ongoing?⟩
  | give _ _ _ => exact ⟨h.isCancelled, h.isClosed, h.isBusy⟩
  | drop _ _ _ => exact ⟨h.isCancelled, h.isClosed, h.isBusy⟩
  | succeed _ => exact ⟨h.isCancelled, h.isClosed, h.isBusy⟩
  | fail _ => exact ⟨h.isCancelled, h.isClosed, h.isBusy⟩
  | panic _ => exact ⟨h.isCancelled, h.isClosed, h.isBusy⟩
  | workerEnds _ _ _ _ => exact ⟨h.isCancelled, h.isClosed, h.isBusy⟩
  -- a call under way has cancelled decoding at its start, before anything it waits for
  | serverEnds stage _ _ =>
    have cancelled := h.isCancelled fun idle => by cases stage.symm.trans idle
    exact h.close cancelled
  | lose _ _ => exact ⟨nofun, nofun, h.isBusy⟩
  | join awaits _ =>
    have cancelled := h.isCancelled fun idle => by cases awaits.symm.trans idle
    exact ⟨fun _ => cancelled, nofun, h.isBusy⟩
  | stop _ => exact ⟨nofun, nofun, h.isBusy⟩

/-- So it is in every run. -/
lemma of_run {address : String} {moves : List (Move ε)}
    (runs : run? decode { address } moves = some r) : r.awaited.Stoppable := by
  apply run?_induction (motive := fun _ r => r.awaited.Stoppable) _ _ runs
  · exact ⟨fun busy => absurd rfl busy, nofun, nofun⟩
  · intro moves r move r' stoppable stepped
    exact stoppable.step (steps_of_step? stepped)

end Awaited.Stoppable

/-! ## Less and less to wait for -/

/-- A move that needs neither a call nor a request nor a piece of a body. -/
def Move.isInner : Move ε → Bool
  | .init _ => false
  | .invoke => false
  | .takeSignal => false
  | .shutdown => false
  | .request _ => false
  | .body _ => false
  | _ => true

def Move.isRequest : Move ε → Bool
  | .request _ => true
  | _ => false

/-- A bound on the steps of a worker for the event that it has. -/
def Worker.unfinished : Worker ε → Nat
  | .absent => 0
  | .waiting => 1
  | .busy _ => 2
  | .panicked => 0

/-- The steps of a shutdown that are left. -/
def Stage.unfinished : Stage → Nat
  | .none => 0
  | .stoppingServer => 3
  | .awaitingWorker _ => 2
  | .awaitingProcessor _ => 1

/-- What there is left to wait for: the handler, the events on the channel, the worker, and the steps of
the shutdown itself. -/
def Awaited.unfinished (a : Awaited ε) : Nat :=
  (a.handler.map Handler.unfinished).getD 0 + 2 * a.slot.toList.length +
    Worker.unfinished a.worker + Stage.unfinished a.stage

section

variable {r r' : Receiver ε} {move : Move ε}

/-- A move of a handler after a cancellation leaves less to wait for. -/
lemma handle_unfinished_lt {handler handler' : Handler ε} {event : Option ε}
    (cancelled : r.isCancelled = true) (handles : r.handler = some handler)
    (moves : handler.move? decode r.isCancelled r.outlet = some (handler', event)) :
    ({ r with slot := event <|> r.slot }.withHandler handler').awaited.unfinished <
      r.awaited.unfinished := by
  rw [cancelled] at moves
  obtain ⟨rfl, less⟩ := Handler.unfinished_lt moves
  have slot : (none <|> r.slot) = r.slot := rfl
  rw [awaited_withHandler, slot]
  simp only [Awaited.unfinished, awaited, handles, Handler.unfinished_ongoing?, Option.map_some,
    Option.getD_some]
  omega

/-- Once decoding is cancelled, every move that the receiver makes by itself leaves less to wait for. -/
lemma unfinished_lt (cancelled : r.isCancelled = true) (steps : Steps decode r move r')
    (inner : move.isInner = true) : r'.awaited.unfinished < r.awaited.unfinished := by
  cases steps with
  | init | invoke | takeSignal | shutdown | request | body => cases inner
  | handle handles moves => exact handle_unfinished_lt cancelled handles moves
  | give waiting slot _ =>
    simp [Awaited.unfinished, awaited, Receiver.mark, Worker.unfinished, waiting, slot]
  | drop waiting slot _ => simp [Awaited.unfinished, awaited, slot]
  | succeed busy => simp [Awaited.unfinished, awaited, Worker.unfinished, busy]
  | fail busy =>
    simp [Awaited.unfinished, awaited, Receiver.report, Receiver.mark, Worker.unfinished, busy]
  | panic busy =>
    simp only [Awaited.unfinished, awaited, Worker.unfinished, busy, Option.toList_none,
      List.length_nil]
    omega
  | workerEnds waiting _ _ _ => simp [Awaited.unfinished, awaited, Worker.unfinished, waiting]
  | serverEnds stage _ _ => simp [Awaited.unfinished, awaited, close, Stage.unfinished, stage]
  | lose stage _ => simp [Awaited.unfinished, awaited, Receiver.mark, Stage.unfinished, stage]
  | join stage _ => simp [Awaited.unfinished, awaited, Receiver.mark, Stage.unfinished, stage]
  | stop stage => simp [Awaited.unfinished, awaited, Receiver.mark, Stage.unfinished, stage]

/-- The platform can add no more than a handler. -/
lemma unfinished_le (cancelled : r.isCancelled = true) (steps : Steps decode r move r')
    (goesOn : move.isCall = false) (outer : move.isInner = false) :
    r'.awaited.unfinished ≤ r.awaited.unfinished + 2 * [move].countP Move.isRequest := by
  cases steps with
  | init | invoke | takeSignal | shutdown => cases goesOn
  | @request method _ idle =>
    have free : r.awaited.handler = none := idle
    rcases awaited_request r method with same | taken
    · rw [same]
      exact Nat.le_add_right _ _
    · rw [taken]
      simp only [Awaited.unfinished, free, Handler.initial, Handler.unfinished, Option.map_some,
        Option.map_none, Option.getD_some, Option.getD_none, List.countP_singleton, Move.isRequest,
        if_true]
      omega
  | body handles accepts =>
    rw [cancelled] at accepts
    have less := Handler.unfinished_le accepts
    rw [awaited_withHandler]
    simp only [Awaited.unfinished, awaited, handles, Handler.unfinished_ongoing?, Option.map_some,
      Option.getD_some]
    omega
  | serverEnds _ ends _ =>
    cases move with
    | serverStops | serverPanics | serverAborts _ => cases outer
    | _ => cases ends
  | _ => cases outer

/-- A cancellation stays. -/
lemma isCancelled_step (cancelled : r.awaited.isCancelled = true) (steps : Steps decode r move r') :
    r'.awaited.isCancelled = true := by
  cases steps with
  | @init startup _ =>
    rcases awaited_init r startup with same | started
    · rw [same]
      exact cancelled
    · rw [started]
      exact cancelled
  | shutdown _ =>
    unfold Receiver.shutdown
    split
    · exact cancelled
    · dsimp only
      split <;> rfl
  | @request method _ _ =>
    rcases awaited_request r method with same | taken
    · rw [same]
      exact cancelled
    · rw [taken]
      exact cancelled
  | body _ _ =>
    rw [awaited_withHandler]
    exact cancelled
  | handle _ _ =>
    rw [awaited_withHandler]
    exact cancelled
  | _ => exact cancelled

end

/-- Once decoding is cancelled, a run makes no more moves by itself than there was to wait for, but for
two for each request that comes meanwhile. -/
lemma countP_le_unfinished {r r' : Receiver ε} {moves : List (Move ε)} (cancelled : r.isCancelled = true)
    (runs : r.run? decode moves = some r') (goesOn : ∀ move ∈ moves, move.isCall = false) :
    moves.countP Move.isInner + r'.awaited.unfinished ≤
      r.awaited.unfinished + 2 * moves.countP Move.isRequest := by
  have kept := run?_induction (motive := fun moves r' =>
    (∀ move ∈ moves, move.isCall = false) → r'.awaited.isCancelled = true ∧
      moves.countP Move.isInner + r'.awaited.unfinished ≤
        r.awaited.unfinished + 2 * moves.countP Move.isRequest) ?_ ?_ runs goesOn
  · exact kept.2
  · intro _
    exact ⟨cancelled, Nat.le_of_eq (Nat.add_comm ..)⟩
  · intro moves r' move r'' before stepped goesOn
    have here := goesOn move (List.mem_append_right _ (List.mem_singleton_self _))
    obtain ⟨cancelled, bound⟩ := before fun move mem => goesOn move (List.mem_append_left _ mem)
    have steps := steps_of_step? stepped
    refine ⟨isCancelled_step cancelled steps, ?_⟩
    rw [List.countP_append, List.countP_append]
    cases inner : move.isInner with
    | true =>
      have less := unfinished_lt cancelled steps inner
      have one : [move].countP Move.isInner = 1 := by simp [inner]
      omega
    | false =>
      have less := unfinished_le cancelled steps here inner
      have none : [move].countP Move.isInner = 0 := by simp [inner]
      omega

/-! ## Always a move -/

/-- The moves that the receiver makes by itself when nothing goes wrong, if the processor says `result`. -/
def Move.onward (result : Except Failure Unit) : List (Move ε) :=
  [.handle, .take, .processed result, .workerEnds, .serverStops, .joined, .processorStops result]

section

variable {r r' : Receiver ε} {handler : Handler ε}

/-- What a receiver does by itself needs no call and nothing of a body. -/
lemma isInner_of_mem_onward {result : Except Failure Unit} {move : Move ε}
    (mem : move ∈ Move.onward result) : move.isInner = true := by
  cases move with
  | init | invoke | takeSignal | shutdown | request | body => simp [Move.onward] at mem
  | _ => rfl

/-- Taking an event off the channel frees it for the handler. -/
lemma take_frees {event : ε} (decode : List UInt8 → Except DecodeError ε) (waiting : r.worker = .waiting)
    (slot : r.slot = some event) :
    ∃ r', r.step? decode .take = some r' ∧ r'.outlet = .free ∧ r'.handler = r.handler := by
  cases failed : r.hasFailed with
  | true =>
    refine ⟨_, (Steps.drop waiting slot failed).step?_eq, ?_, rfl⟩
    simp [outlet, isReceiving, waiting]
  | false => exact ⟨_, (Steps.give waiting slot failed).step?_eq, rfl, rfl⟩

/-- A channel that is full has a worker that receives. -/
lemma receives_of_full (full : r.outlet = .full) :
    (r.worker = .waiting ∨ ∃ event, r.worker = .busy event) ∧ ∃ event, r.slot = some event := by
  unfold outlet at full
  split at full
  · cases full
  · next receives =>
    split at full
    · next taken =>
      refine ⟨?_, Option.isSome_iff_exists.mp taken⟩
      cases worker : r.worker <;> simp [isReceiving, worker] at receives ⊢
    · cases full

/-- When the channel is full the worker takes the event, at once or when the processor has dealt with the
one before: also after the processor has failed. -/
lemma room_of_full (decode : List UInt8 → Except DecodeError ε) (full : r.outlet = .full)
    (result : Except Failure Unit) :
    ∃ moves r', (moves = [.take] ∨ moves = [.processed result, .take]) ∧
      r.run? decode moves = some r' ∧ r'.outlet = .free ∧ r'.handler = r.handler := by
  obtain ⟨waiting | ⟨other, busy⟩, event, slot⟩ := receives_of_full full
  · obtain ⟨r', takes, free, same⟩ := take_frees decode waiting slot
    have runs : r.run? decode [.take] = some r' := run?_cons.mpr ⟨r', takes, rfl⟩
    exact ⟨[.take], r', .inl rfl, runs, free, same⟩
  · -- whatever the processor says, the worker comes back for the next event
    have dealt : ∃ next, r.step? decode (.processed result) = some next ∧ next.worker = .waiting ∧
        next.slot = some event ∧ next.handler = r.handler := by
      cases result with
      | ok _ => exact ⟨_, (Steps.succeed busy).step?_eq, rfl, slot, rfl⟩
      | error cause => exact ⟨_, (Steps.fail busy).step?_eq, rfl, slot, rfl⟩
    obtain ⟨next, deals, waiting, slot, same⟩ := dealt
    obtain ⟨r', takes, free, handles⟩ := take_frees decode waiting slot
    have runs : r.run? decode [.processed result, .take] = some r' :=
      run?_cons.mpr ⟨next, deals, run?_cons.mpr ⟨r', takes, rfl⟩⟩
    exact ⟨[.processed result, .take], r', .inr rfl, runs, free, handles.trans same⟩

/-- A handler that sends goes on when there is room. -/
lemma sends_of_free {d : Decoder} {event : ε} (handles : r.handler = some (.sending d event))
    (free : r.outlet = .free) : ∃ r', r.step? decode .handle = some r' := by
  have moves : ∃ moved, Handler.move? decode r.isCancelled r.outlet (.sending d event) = some moved := by
    rw [free]
    cases r.isCancelled <;> exact ⟨_, rfl⟩
  obtain ⟨⟨handler', sent⟩, moves⟩ := moves
  exact ⟨_, (Steps.handle handles moves).step?_eq⟩

/-- After a cancellation a handler can always move. -/
lemma handles_of_cancelled (stoppable : r.awaited.Stoppable) (cancelled : r.isCancelled = true)
    (handles : r.handler = some handler) : ∃ r', r.step? decode .handle = some r' := by
  obtain ⟨⟨handler', event⟩, moves⟩ :=
    Handler.moves_of_cancelled decode (stoppable.isBusy handler handles) r.outlet
  rw [← cancelled] at moves
  exact ⟨_, (Steps.handle handles moves).step?_eq⟩

/-- While a shutdown is under way some part can move by itself, whatever the processor says. -/
lemma exists_onward (stoppable : r.awaited.Stoppable) (busy : r.stage ≠ .none)
    (result : Except Failure Unit) :
    ∃ move ∈ Move.onward result, ∃ r', r.step? decode move = some r' := by
  have cancelled : r.isCancelled = true := stoppable.isCancelled busy
  cases handles : r.handler with
  | some handler =>
    -- a handler that is cancelled waits for nobody
    have moves : ∃ r', r.step? decode .handle = some r' :=
      handles_of_cancelled stoppable cancelled handles
    exact ⟨.handle, by simp [Move.onward], moves⟩
  | none =>
    cases stage : r.stage with
    | none => exact absurd stage busy
    | stoppingServer =>
      have stops : Steps decode r .serverStops (r.close (.ok ())) :=
        .serverEnds stage rfl fun _ => handles
      exact ⟨.serverStops, by simp [Move.onward], _, stops.step?_eq⟩
    | awaitingProcessor server =>
      have stops : Steps decode r (.processorStops result) _ := .stop stage
      exact ⟨.processorStops result, by simp [Move.onward], _, stops.step?_eq⟩
    | awaitingWorker server =>
      have closed : r.isOpen = false := stoppable.isClosed server stage
      cases worker : r.worker with
      | absent => exact ⟨.joined, by simp [Move.onward], _, (Steps.join stage worker).step?_eq⟩
      | panicked => exact ⟨.joined, by simp [Move.onward], _, (Steps.lose stage worker).step?_eq⟩
      | busy event =>
        refine ⟨.processed result, by simp [Move.onward], ?_⟩
        cases result with
        | ok _ => exact ⟨_, (Steps.succeed worker).step?_eq⟩
        | error cause => exact ⟨_, (Steps.fail worker).step?_eq⟩
      | waiting =>
        cases slot : r.slot with
        | some event =>
          obtain ⟨r', takes, _⟩ := take_frees decode worker slot
          exact ⟨.take, by simp [Move.onward], r', takes⟩
        | none =>
          have ends : Steps decode r .workerEnds { r with worker := .absent } :=
            .workerEnds worker slot closed handles
          exact ⟨.workerEnds, by simp [Move.onward], _, ends.step?_eq⟩

/-- When no part can move by itself, a handler that is left takes what comes of the body. -/
lemma accepts_of_rests (stoppable : r.awaited.Stoppable) {result : Except Failure Unit}
    (rests : ∀ move ∈ Move.onward result, r.step? decode move = none)
    (handles : r.handler = some handler) (piece : Option Body.Item) :
    ∃ r', r.step? decode (.body piece) = some r' := by
  -- a full channel would let the worker or the processor move
  have room : r.outlet ≠ .full := by
    intro full
    obtain ⟨moves, r', front, runs, _⟩ := room_of_full decode full result
    rcases front with rfl | rfl
    · obtain ⟨next, takes, _⟩ := run?_cons.mp runs
      cases takes.symm.trans (rests _ (by simp [Move.onward]))
    · obtain ⟨next, deals, _⟩ := run?_cons.mp runs
      cases deals.symm.trans (rests _ (by simp [Move.onward]))
  have idle : handler.move? decode r.isCancelled r.outlet = none := by
    cases moves : handler.move? decode r.isCancelled r.outlet with
    | none => rfl
    | some moved =>
      have handled := (Steps.handle handles moves).step?_eq
      cases handled.symm.trans (rests _ (by simp [Move.onward]))
  obtain ⟨handler', accepts⟩ :=
    Handler.accepts_of_idle (stoppable.isBusy handler handles) room idle piece
  exact ⟨_, (Steps.body handles accepts).step?_eq⟩

/-- A shutdown that is under way can be carried on until it returns. -/
lemma exists_idle (stoppable : r.awaited.Stoppable) (result : Except Failure Unit) :
    ∃ moves r', (∀ move ∈ moves, move ∈ Move.onward result) ∧ r.run? decode moves = some r' ∧
      r'.isIdle = true := by
  -- induction on what there is left to wait for
  generalize left : r.awaited.unfinished = n
  induction n using Nat.strongRecOn generalizing r with
  | _ n ih =>
    by_cases idle : r.stage = .none
    · exact ⟨[], r, nofun, rfl, isIdle_iff.mpr idle⟩
    · obtain ⟨move, mem, next, stepped⟩ :
          ∃ move ∈ Move.onward result, ∃ next, r.step? decode move = some next :=
        exists_onward stoppable idle result
      have steps := steps_of_step? stepped
      have less := unfinished_lt (stoppable.isCancelled idle) steps (isInner_of_mem_onward mem)
      obtain ⟨moves, r', own, runs, done⟩ := ih _ (left ▸ less) (stoppable.step steps) rfl
      refine ⟨move :: moves, r', ?_, run?_cons.mpr ⟨next, stepped, runs⟩, done⟩
      exact List.forall_mem_cons.mpr ⟨mem, own⟩

end

/-! ## Never stuck -/

/-- No part of a receiver waits for ever, as long as the processor returns from its calls and the server
stops when no handler is left. -/
structure NeverStuck (decode : List UInt8 → Except DecodeError ε) (r : Receiver ε) : Prop where
  /-- When no part can move by itself, no shutdown is under way, so that calls can come, and a handler
  takes whatever comes of the body. -/
  rests : ∀ result, (∀ move ∈ Move.onward result, r.step? decode move = none) →
    r.stage = .none ∧
      ∀ handler, r.handler = some handler → ∀ piece, ∃ r', r.step? decode (.body piece) = some r'
  /-- A handler that is blocked on a full channel goes on when the worker has taken the event that is on
  it, which the worker can do as soon as the processor has dealt with the one before, in whatever way. -/
  room : ∀ d event, r.handler = some (.sending d event) → r.outlet = .full → ∀ result,
    ∃ moves r' r'', (moves = [.take] ∨ moves = [.processed result, .take]) ∧
      r.run? decode moves = some r' ∧ r'.handler = r.handler ∧ r'.outlet = .free ∧
      r'.step? decode .handle = some r''
  /-- Until a shutdown returns some part can move that needs nothing from the platform. -/
  progress : r.stage ≠ .none → ∀ result,
    ∃ move ∈ Move.onward result, ∃ r', r.step? decode move = some r'
  isCancelled : r.stage ≠ .none → r.isCancelled = true
  /-- Each such move leaves less to wait for. -/
  decreases : r.isCancelled = true → ∀ move r', move.isInner = true →
    r.step? decode move = some r' → r'.awaited.unfinished < r.awaited.unfinished
  /-- So there are but so many of them, whatever the platform sends meanwhile. -/
  bounded : r.isCancelled = true → ∀ moves r', r.run? decode moves = some r' →
    (∀ move ∈ moves, move.isCall = false) →
    moves.countP Move.isInner + r'.awaited.unfinished ≤
      r.awaited.unfinished + 2 * moves.countP Move.isRequest
  returns : ∀ result, ∃ moves r', (∀ move ∈ moves, move ∈ Move.onward result) ∧
    r.run? decode moves = some r' ∧ r'.isIdle = true

/-- However the parts of a receiver have taken their turns, it is not stuck, and its shutdown returns. -/
theorem never_stuck {address : String} {moves : List (Move ε)} {r : Receiver ε}
    (runs : run? decode { address } moves = some r) : NeverStuck decode r := by
  have stoppable : r.awaited.Stoppable := .of_run runs
  constructor
  case rests =>
    intro result rests
    constructor
    · by_contra busy
      obtain ⟨move, mem, r', stepped⟩ := exists_onward stoppable busy result
      cases stepped.symm.trans (rests move mem)
    · intro handler handles piece
      exact accepts_of_rests stoppable rests handles piece
  case room =>
    intro d event handles full result
    obtain ⟨moves, r', front, runs, free, same⟩ := room_of_full decode full result
    obtain ⟨r'', sends⟩ := sends_of_free (same.trans handles) free
    exact ⟨moves, r', r'', front, runs, same, free, sends⟩
  case progress =>
    intro busy result
    exact exists_onward stoppable busy result
  case isCancelled => exact stoppable.isCancelled
  case decreases =>
    intro cancelled move r' inner stepped
    exact unfinished_lt cancelled (steps_of_step? stepped) inner
  case bounded =>
    intro cancelled moves r' runs goesOn
    exact countP_le_unfinished cancelled runs goesOn
  case returns =>
    intro result
    exact exists_idle stoppable result

/-- The processor has failed on the first event and deals with nothing more, the second is on the channel,
the handler waits to send the third, and the receiver is told to shut down. -/
def blockedMoves : List (Move (List UInt8)) :=
  [.init ⟨.ok (), some 8080, .ok ()⟩, .request "POST",
    .body (some (.chunk [0x5B, 0x31, 0x2C, 0x32, 0x2C, 0x33, 0x2C])), .handle, .handle, .take,
    .processed (.error (.plain "full")), .handle, .handle, .handle, .shutdown]

/-- The receiver with a handler that waits to send can be run, and its shutdown gets to its end. -/
theorem never_stuck_blocked :
    ∃ r, run? .ok { address := "host:0" } blockedMoves = some r ∧ r.outlet = .full ∧
      r.isIdle = false ∧ NeverStuck .ok r := by
  have found : (run? .ok { address := "host:0" } blockedMoves).map (fun r => (r.outlet, r.isIdle)) =
      some (.full, false) := by
    decide +kernel
  obtain ⟨r, runs, same⟩ := Option.map_eq_some_iff.mp found
  obtain ⟨full, busy⟩ := Prod.mk.inj same
  exact ⟨r, runs, full, busy, never_stuck runs⟩

end Receiver

end Sidecar
