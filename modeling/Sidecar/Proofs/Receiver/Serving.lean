import Sidecar.Proofs.Receiver.Marks
import Sidecar.Proofs.Receiver.Processing
import Sidecar.Proofs.Receiver.Steps

/-!
# Serving what is pushed

While a receiver is not shut down, its parts take turns in any order. `Serving` is what they keep: the
events that the worker has taken, the event on the channel, those that the handler still comes to and
those not pushed yet are together the events of all pushes, and likewise for the answers. Each move
keeps it (`Serving.step`), and so does every run (`Serving.run`).
-/

namespace Sidecar.Receiver

variable {ε : Type} {decode : List UInt8 → Except DecodeError ε} {processor : Processor ε}

/-! ## Runs -/

/-- A move of the platform. -/
def Move.isPush : Move ε → Bool
  | .request _ => true
  | .body _ => true
  | _ => false

/-- A move that a part of the receiver makes by itself. -/
def Move.isOwn : Move ε → Bool
  | .handle => true
  | .take => true
  | .processed _ => true
  | _ => false

/-- A move that may come while the receiver is not shut down, with what the processor says. -/
def Move.IsServed (processor : Processor ε) (r : Receiver ε) : Move ε → Prop
  | .shutdown => False
  | .panic => False
  | .processed result => result = processor r.processed
  | _ => True

/-- A receiver whose start has succeeded. -/
def IsStarted (r : Receiver ε) : Prop :=
  ∃ address startup, r = ({ address := address } : Receiver ε).init startup ∧
    r.lastReturn? = some (.ok ())

/-- A run of a receiver that is not shut down. -/
inductive Serves (decode : List UInt8 → Except DecodeError ε) (processor : Processor ε)
    (r : Receiver ε) : List (Move ε) → Receiver ε → Prop where
  | nil : Serves decode processor r [] r
  | snoc {moves : List (Move ε)} {move : Move ε} {r' r'' : Receiver ε} :
    Serves decode processor r moves r' → move.IsServed processor r' →
    r'.step? decode move = some r'' →
    Serves decode processor r (moves ++ [move]) r''

/-- No part of the receiver can move by itself. -/
def AtRest (decode : List UInt8 → Except DecodeError ε) (r : Receiver ε) : Prop :=
  ∀ move : Move ε, move.isOwn = true → r.step? decode move = none

/-! ## The invariant -/

/-- What the handler still comes to, with the moves of the platform that are `ahead`: the events `yet`
to be sent, and the `replies` to be given. -/
def Handling (decode : List UInt8 → Except DecodeError ε) (handler : Option (Handler ε))
    (ahead : List (Move ε)) (yet : List ε) (replies : List (UInt16 × String)) : Prop :=
  match handler with
  | none =>
    ∃ rest : List Push, ahead = rest.flatMap Push.moves ∧
      yet = rest.flatMap (Push.events decode) ∧ replies = rest.map (Push.reply decode)
  | some handler =>
    handler.IsBusy ∧ ∃ (chunks : List (List UInt8)) (rest : List Push),
      ahead = chunks.map (fun bytes => .body (some (.chunk bytes))) ++
        .body none :: rest.flatMap Push.moves ∧
      yet = (handler.outcome decode chunks).1 ++ rest.flatMap (Push.events decode) ∧
      replies = replyOf (handler.outcome decode chunks).2 :: rest.map (Push.reply decode)

/-- A receiver that serves pushes, with the moves of the platform that are `ahead`. -/
structure Serving (decode : List UInt8 → Except DecodeError ε) (processor : Processor ε)
    (pushes : List Push) (r : Receiver ε) (ahead : List (Move ε)) : Prop where
  isStarted : r.processor = .worker
  isOpen : r.isOpen = true
  hasServed : r.hasServed = true
  goesOn : r.isCancelled = false
  isIdle : r.stage = .none
  noted : Noted r.signal r.marks
  flow : ∃ taken yet replies,
    Worked processor r.worker r.hasFailed r.processed taken ∧
    Handling decode r.handler ahead yet replies ∧
    pushes.flatMap (Push.events decode) = taken ++ r.slot.toList ++ yet ∧
    pushes.map (Push.reply decode) = r.answers ++ replies

/-- A start that succeeds leaves the worker waiting and the channel empty. -/
lemma IsStarted.eq {r : Receiver ε} (h : r.IsStarted) :
    ∃ address, r =
      { address, processor := .worker, hasInlet := false, hasServed := true, isServing := true,
        worker := .waiting, marks := [.processorInit, .returned (.ok ())] } := by
  obtain ⟨address, ⟨init, port, subscription⟩, rfl, returned⟩ := h
  refine ⟨address, ?_⟩
  -- a start that fails anywhere returns its error
  cases init with
  | error cause => simp [Receiver.init, start, mark, lastReturn?] at returned
  | ok _ =>
    cases port with
    | none => simp [Receiver.init, start, mark, lastReturn?] at returned
    | some port =>
      cases url : Destination.url address port with
      | error e => simp [Receiver.init, start, mark, lastReturn?, url] at returned
      | ok uri =>
        cases subscription with
        | error e => simp [Receiver.init, start, mark, lastReturn?, url] at returned
        | ok _ => simp [Receiver.init, start, mark, url]

/-- A receiver that has been started has all pushes ahead. -/
lemma IsStarted.serving {r : Receiver ε} (h : r.IsStarted) (pushes : List Push) :
    Serving decode processor pushes r (pushes.flatMap Push.moves) := by
  obtain ⟨address, rfl⟩ := h.eq
  refine ⟨rfl, rfl, rfl, rfl, rfl, ⟨?_, rfl⟩, ?_⟩
  · exact .other (.other .nil rfl) rfl
  · exact ⟨[], _, _, .waiting .nil, ⟨pushes, rfl, rfl, rfl⟩, rfl, rfl⟩

/-! ## Steps of the handler -/

namespace Handling

variable {handler handler' : Handler ε} {ahead : List (Move ε)} {yet : List ε}
  {replies : List (UInt16 × String)}

/-- The next request starts a handler if it is a batch, and is answered at once if not. -/
lemma request {method : String} (h : Handling decode none (.request method :: ahead) yet replies) :
    method = "POST" ∧ Handling decode (some .initial) ahead yet replies ∨
      method ≠ "POST" ∧ ∃ later, Handling decode none ahead yet later ∧
        replies = (400, (ReceiverError.methodNotAllowed method).message) :: later := by
  obtain ⟨rest, pushed, rfl, rfl⟩ := h
  cases rest with
  | nil => cases pushed
  | cons push rest =>
    rw [List.flatMap_cons, Push.moves, List.cons_append, List.cons.injEq] at pushed
    obtain ⟨request, pushed⟩ := pushed
    cases request
    by_cases isPost : push.method = "POST"
    · refine .inl ⟨isPost, trivial, push.chunks, rest, ?_, ?_, ?_⟩
      · rw [pushed, if_pos isPost, List.append_assoc]
        rfl
      · rw [Handler.outcome_initial, ← push.events_eq isPost, List.flatMap_cons]
      · rw [Handler.outcome_initial, List.map_cons, Push.reply, if_pos isPost]
    · refine .inr ⟨isPost, rest.map (Push.reply decode), ⟨rest, ?_, ?_, rfl⟩, ?_⟩
      · rw [pushed, if_neg isPost, List.nil_append]
      · rw [List.flatMap_cons, Push.events, if_neg isPost, List.nil_append]
      · rw [List.map_cons, Push.reply, if_neg isPost]

/-- The next piece of the body takes the handler further, or to its answer. -/
lemma body {piece : Option Body.Item}
    (h : Handling decode (some handler) (.body piece :: ahead) yet replies)
    (accepts : handler.accept? false piece = some handler') :
    handler'.IsBusy ∧ Handling decode (some handler') ahead yet replies ∨
      ∃ result later, handler' = .finished result ∧ Handling decode none ahead yet later ∧
        replies = replyOf result :: later := by
  obtain ⟨_, chunks, rest, pushed, rfl, rfl⟩ := h
  cases chunks with
  | cons bytes chunks =>
    cases pushed
    obtain ⟨outcome, isBusy⟩ := Handler.outcome_chunk accepts decode chunks
    rw [outcome]
    exact .inl ⟨isBusy, isBusy, chunks, rest, rfl, rfl, rfl⟩
  | nil =>
    cases pushed
    obtain ⟨result, rfl, outcome⟩ := Handler.outcome_end accepts decode
    rw [outcome]
    exact .inr ⟨result, _, rfl, ⟨rest, rfl, rfl, rfl⟩, rfl⟩

/-- A move of the handler sends the next event that is to be sent, or none. -/
lemma move {event : Option ε} (h : Handling decode (some handler) ahead yet replies)
    (moves : Handler.Moves decode handler handler' event) :
    ∃ later,
      yet = event.toList ++ later ∧ Handling decode (some handler') ahead later replies := by
  obtain ⟨_, chunks, rest, rfl, rfl, rfl⟩ := h
  rw [moves.outcome chunks]
  exact ⟨_, List.append_assoc .., moves.isBusy, chunks, rest, rfl, rfl, rfl⟩

end Handling

/-! ## Steps of the receiver -/

namespace Serving

variable {pushes : List Push} {r r' : Receiver ε} {ahead : List (Move ε)}

/-- What is noted beside the events and the answers changes nothing. -/
lemma mark (h : Serving decode processor pushes r ahead) {mark : Mark ε}
    (process : mark.process? = none) (answer : mark.answer? = none) (report : mark.report? = none) :
    Serving decode processor pushes (r.mark mark) ahead := by
  refine ⟨h.isStarted, h.isOpen, h.hasServed, h.goesOn, h.isIdle, h.noted.mark answer report, ?_⟩
  rw [processed_mark_of_none _ process, answers_mark_of_none _ answer]
  exact h.flow

/-- Being started again changes nothing for the pushes. -/
lemma init (h : Serving decode processor pushes r ahead) (startup : Startup) :
    Serving decode processor pushes (r.init startup) ahead := by
  rw [Receiver.init, h.isStarted]
  exact h.mark rfl rfl rfl

/-- Nor does giving the signal away. -/
lemma takeSignal (h : Serving decode processor pushes r ahead) :
    Serving decode processor pushes { r with hasSignal := false } ahead :=
  ⟨h.isStarted, h.isOpen, h.hasServed, h.goesOn, h.isIdle, h.noted, h.flow⟩

/-- A receiver goes on serving when a request comes in. -/
lemma request {method : String}
    (h : Serving decode processor pushes r (.request method :: ahead)) (idle : r.handler = none) :
    Serving decode processor pushes (r.request method) ahead := by
  obtain ⟨taken, yet, replies, worked, handling, events, answers⟩ := h.flow
  rw [idle] at handling
  rcases handling.request with ⟨isPost, handled⟩ | ⟨isNoPost, later, handled, rfl⟩
  · have request : r.request method = { r with handler := some .initial } := by
      simp [Receiver.request, isPost, h.isOpen]
    rw [request]
    exact ⟨h.isStarted, h.isOpen, h.hasServed, h.goesOn, h.isIdle, h.noted, taken, yet, replies,
      worked, handled, events, answers⟩
  · rw [Receiver.request, if_pos isNoPost]
    refine ⟨h.isStarted, h.isOpen, h.hasServed, h.goesOn, h.isIdle,
      h.noted.told (.methodNotAllowed method), taken, yet, later, ?_, ?_, events, ?_⟩
    · rw [processed_told]
      exact worked
    · rw [← idle] at handled
      exact handled
    · rw [answers_told, answers, List.append_assoc]
      rfl

/-- An answer changes the signal and the marks of a receiver, and no other part. -/
lemma answer_eq (r : Receiver ε) (result : Except DecodeError Nat) :
    r.answer result =
      { r with signal := (r.answer result).signal, marks := (r.answer result).marks } := by
  cases result <;> rfl

/-- A handler that has not answered is kept. -/
lemma withHandler_of_isBusy {handler : Handler ε} (h : handler.IsBusy) :
    r.withHandler handler = { r with handler := some handler } := by
  cases handler with
  | finished _ => exact absurd h id
  | _ => rfl

/-- A receiver goes on serving when a piece of a body comes in. -/
lemma body {piece : Option Body.Item} {handler handler' : Handler ε}
    (h : Serving decode processor pushes r (.body piece :: ahead)) (busy : r.handler = some handler)
    (accepts : handler.accept? false piece = some handler') :
    Serving decode processor pushes (r.withHandler handler') ahead := by
  obtain ⟨taken, yet, replies, worked, handling, events, answers⟩ := h.flow
  rw [busy] at handling
  rcases handling.body accepts with ⟨isBusy, handled⟩ | ⟨result, later, rfl, handled, rfl⟩
  · rw [withHandler_of_isBusy isBusy]
    exact ⟨h.isStarted, h.isOpen, h.hasServed, h.goesOn, h.isIdle, h.noted, taken, yet, replies,
      worked, handled, events, answers⟩
  · rw [withHandler, answer_eq]
    refine ⟨h.isStarted, h.isOpen, h.hasServed, h.goesOn, h.isIdle,
      Noted.answer (r := { r with handler := none }) h.noted result, taken, yet, later, ?_, handled,
      events, ?_⟩
    · have processed := processed_answer { r with handler := none } result
      exact processed.symm ▸ worked
    · have answered := answers_answer { r with handler := none } result
      rw [answers]
      exact (List.append_cons ..).trans (congrArg (· ++ later) answered.symm)

/-- While the worker is at work the channel is not closed. -/
lemma outlet_eq (h : Serving decode processor pushes r ahead) :
    r.outlet = if r.slot.isSome then .full else .free := by
  obtain ⟨taken, yet, replies, worked, _⟩ := h.flow
  rcases worked.receives with waiting | ⟨event, busy⟩
  · simp [outlet, isReceiving, waiting]
  · simp [outlet, isReceiving, busy]

/-- What the handler does by itself, and that it sends on an empty channel only. -/
lemma moves_of_move? {handler handler' : Handler ε} {event : Option ε}
    (h : Serving decode processor pushes r ahead)
    (moves : handler.move? decode r.isCancelled r.outlet = some (handler', event)) :
    Handler.Moves decode handler handler' event ∧ (event.isSome → r.slot = none) := by
  have outlet := h.outlet_eq
  have receives : r.outlet ≠ .closed := by
    rw [outlet]
    split <;> nofun
  rw [h.goesOn] at moves
  obtain ⟨moves, free⟩ := Handler.moves_of_move? moves receives
  refine ⟨moves, fun sent => ?_⟩
  cases slot : r.slot with
  | none => rfl
  | some other =>
    rw [slot] at outlet
    cases outlet.symm.trans (free sent)

/-- It goes on serving when the handler moves. -/
lemma handle {handler handler' : Handler ε} {event : Option ε}
    (h : Serving decode processor pushes r ahead) (busy : r.handler = some handler)
    (moves : handler.move? decode r.isCancelled r.outlet = some (handler', event)) :
    Serving decode processor pushes ({ r with slot := event <|> r.slot }.withHandler handler') ahead := by
  obtain ⟨moves, free⟩ := h.moves_of_move? moves
  obtain ⟨taken, yet, replies, worked, handling, events, answers⟩ := h.flow
  rw [busy] at handling
  obtain ⟨later, rfl, handled⟩ := handling.move moves
  rw [withHandler_of_isBusy moves.isBusy]
  refine ⟨h.isStarted, h.isOpen, h.hasServed, h.goesOn, h.isIdle, h.noted, taken, later, replies,
    worked, handled, ?_, answers⟩
  rw [events, ← List.append_assoc]
  cases event with
  | none => simp
  | some event => simp [free rfl]

/-- It goes on serving when the worker gives an event to the processor. -/
lemma give {event : ε} (h : Serving decode processor pushes r ahead) (waiting : r.worker = .waiting)
    (slot : r.slot = some event) (fine : r.hasFailed = false) :
    Serving decode processor pushes
      ({ r with slot := none, worker := .busy event }.mark (.process event)) ahead := by
  obtain ⟨taken, yet, replies, worked, handling, events, answers⟩ := h.flow
  rw [waiting, fine] at worked
  refine ⟨h.isStarted, h.isOpen, h.hasServed, h.goesOn, h.isIdle, ?_, taken ++ [event], yet, replies,
    ?_, handling, ?_, ?_⟩
  · exact Noted.mark h.noted rfl rfl
  · rw [processed_mark]
    exact fine.symm ▸ worked.take
  · rw [events, slot]
    exact congrArg (· ++ yet) (List.append_nil _).symm
  · exact answers.trans (congrArg (· ++ replies) (answers_mark_of_none _ rfl).symm)

/-- It goes on serving when the worker drops one. -/
lemma drop {event : ε} (h : Serving decode processor pushes r ahead) (waiting : r.worker = .waiting)
    (slot : r.slot = some event) (failed : r.hasFailed = true) :
    Serving decode processor pushes { r with slot := none } ahead := by
  obtain ⟨taken, yet, replies, worked, handling, events, answers⟩ := h.flow
  rw [waiting, failed] at worked
  refine ⟨h.isStarted, h.isOpen, h.hasServed, h.goesOn, h.isIdle, h.noted, taken ++ [event], yet,
    replies, ?_, handling, ?_, answers⟩
  · exact failed.symm ▸ waiting.symm ▸ worked.drop
  · rw [events, slot]
    exact congrArg (· ++ yet) (List.append_nil _).symm

/-- It goes on serving when the processor has dealt with one. -/
lemma succeed {event : ε} (h : Serving decode processor pushes r ahead) (busy : r.worker = .busy event)
    (verdict : .ok () = processor r.processed) :
    Serving decode processor pushes { r with worker := .waiting } ahead := by
  obtain ⟨taken, yet, replies, worked, handling, events, answers⟩ := h.flow
  rw [busy] at worked
  exact ⟨h.isStarted, h.isOpen, h.hasServed, h.goesOn, h.isIdle, h.noted, taken, yet, replies,
    worked.processed_ok verdict.symm, handling, events, answers⟩

/-- It goes on serving when the processor fails on one. -/
lemma fail {event : ε} {cause : Failure} (h : Serving decode processor pushes r ahead)
    (busy : r.worker = .busy event) (verdict : .error cause = processor r.processed) :
    Serving decode processor pushes
      ({ r with worker := .waiting, hasFailed := true }.report (.process cause)) ahead := by
  obtain ⟨taken, yet, replies, worked, handling, events, answers⟩ := h.flow
  rw [busy] at worked
  refine ⟨h.isStarted, h.isOpen, h.hasServed, h.goesOn, h.isIdle, ?_, taken, yet, replies,
    ?_, handling, events, ?_⟩
  · exact Noted.report h.noted _
  · exact (processed_report _ _).symm ▸ worked.processed_error verdict.symm
  · exact answers.trans (congrArg (· ++ replies) (answers_report _ _).symm)

/-- Every move but a shutdown and a panic keeps the invariant; those of the platform use up what is
ahead. -/
theorem step {move : Move ε}
    (h : Serving decode processor pushes r ([move].filter Move.isPush ++ ahead))
    (served : move.IsServed processor r) (hs : r.step? decode move = some r') :
    Serving decode processor pushes r' ahead := by
  cases steps_of_step? hs with
  | init _ => exact h.init _
  | invoke _ => exact h.mark rfl rfl rfl
  | takeSignal _ => exact h.takeSignal.mark rfl rfl rfl
  | shutdown _ => exact absurd served id
  | request _ idle => exact h.request idle
  | body busy accepts =>
    rw [h.goesOn] at accepts
    exact h.body busy accepts
  | handle busy moves => exact h.handle busy moves
  | give waiting slot fine => exact h.give waiting slot fine
  | drop waiting slot failed => exact h.drop waiting slot failed
  | succeed busy => exact h.succeed busy served
  | fail busy => exact h.fail busy served
  | panic _ => exact absurd served id
  -- the channel is open and no shutdown is under way, so the moves that end things are not possible
  | workerEnds _ _ closed _ => cases closed.symm.trans h.isOpen
  | serverEnds stage _ _ => cases stage.symm.trans h.isIdle
  | lose stage _ => cases stage.symm.trans h.isIdle
  | join stage _ => cases stage.symm.trans h.isIdle
  | stop stage => cases stage.symm.trans h.isIdle

/-- The invariant along a run. -/
theorem run {moves : List (Move ε)} (started : r.IsStarted)
    (h : Serves decode processor r moves r') :
    ∀ {ahead}, moves.filter Move.isPush ++ ahead = pushes.flatMap Push.moves →
      Serving decode processor pushes r' ahead := by
  induction h with
  | nil =>
    rintro ahead rfl
    exact started.serving pushes
  | snoc _ served hs ih =>
    intro ahead pushed
    rw [List.filter_append, List.append_assoc] at pushed
    exact (ih pushed).step served hs

end Serving

end Sidecar.Receiver
