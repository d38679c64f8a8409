import Sidecar.Proofs.Receiver.Core

/-!
# Draining before the shutdown

In every phase of a run the log and the core of the receiver agree (`Phase`), and every step leads from
phase to phase. So nothing is left on the channel when the processor is shut down, and nothing comes
after (`Drains`).
-/

namespace Sidecar.Receiver

variable {ε : Type} {decode : List UInt8 → Except DecodeError ε}

/-! ## What the worker has dealt with -/

/-- All of the events have been given to the processor, which has dealt with each. -/
def Deal.all (events : List ε) : List (Deal ε) :=
  events.flatMap fun event => [.given event, .returned (.ok ())]

/-- The events have been dealt with: given to the processor, each call of which has returned, or
dropped after a call that has failed. -/
inductive Settled : (hasFailed : Bool) → (events : List ε) → List (Deal ε) → Prop where
  | processed {events : List ε} : Settled false events (Deal.all events)
  | failed {before dropped : List ε} {event : ε} {cause : Failure} :
    Settled true (before ++ event :: dropped)
      (Deal.all before ++ .given event :: .returned (.error cause) :: dropped.map .dropped)

/-- The worker has taken the events, the last of which the processor may still be busy with. -/
inductive Works : Worker ε → (hasFailed : Bool) → (taken : List ε) → List (Deal ε) → Prop where
  | waiting {hasFailed : Bool} {taken : List ε} {deals : List (Deal ε)} :
    Settled hasFailed taken deals →
    Works .waiting hasFailed taken deals
  | busy {before : List ε} {event : ε} :
    Works (.busy event) false (before ++ [event]) (Deal.all before ++ [.given event])

section

variable {worker : Worker ε} {hasFailed : Bool} {taken : List ε} {deals : List (Deal ε)}
  {event : ε} {cause : Failure}

/-- After a failure one event more may be dropped. -/
lemma Settled.drop (h : Settled true taken deals) (event : ε) :
    Settled true (taken ++ [event]) (deals ++ [.dropped event]) := by
  cases h with
  | @failed before dropped first cause =>
    have more : Settled true (before ++ first :: (dropped ++ [event]))
        (Deal.all before ++ .given first :: .returned (.error cause) ::
          (dropped ++ [event]).map .dropped) := .failed
    rw [List.map_append] at more
    simpa using more

/-- Before any failure one event more may be given to the processor. -/
lemma Settled.give (h : Settled false taken deals) (event : ε) :
    Works (.busy event) false (taken ++ [event]) (deals ++ [.given event]) := by
  cases h with
  | processed => exact .busy

/-- A worker that waits has dealt with all that it has taken. -/
lemma Works.settled (h : Works .waiting hasFailed taken deals) : Settled hasFailed taken deals := by
  cases h with
  | waiting settled => exact settled

/-- When the processor has dealt with its event the worker waits again. -/
lemma Works.succeed (h : Works (.busy event) hasFailed taken deals) :
    Works .waiting hasFailed taken (deals ++ [.returned (.ok ())]) := by
  cases h with
  | @busy before =>
    have all : Deal.all (before ++ [event]) =
        Deal.all before ++ [.given event] ++ [.returned (.ok ())] := by
      simp [Deal.all]
    rw [← all]
    exact .waiting .processed

/-- When the processor has failed the worker waits again, and gives it nothing more. -/
lemma Works.fail (h : Works (.busy event) hasFailed taken deals) (cause : Failure) :
    Works .waiting true taken (deals ++ [.returned (.error cause)]) := by
  cases h with
  | @busy before =>
    have failed : Settled true (before ++ [event])
        (Deal.all before ++ [.given event, .returned (.error cause)]) := .failed
    rw [List.append_assoc]
    exact .waiting failed

end

/-! ## Phases -/

/-- The events that were sent. -/
def sentOf (past : List (Deal ε)) : List ε := past.filterMap Deal.sent?

/-- All of the log but what was sent. -/
def rest (past : List (Deal ε)) : List (Deal ε) := past.filter (!·.isSent)

/-- What was sent comes in the order of the log. -/
lemma sentOf_append (past deals : List (Deal ε)) :
    sentOf (past ++ deals) = sentOf past ++ sentOf deals :=
  List.filterMap_append

/-- So does all else. -/
lemma rest_append (past deals : List (Deal ε)) : rest (past ++ deals) = rest past ++ rest deals :=
  List.filter_append ..

/-- While the worker deals with events the processor is not shut down. -/
lemma Settled.not_shutDown {hasFailed : Bool} {events : List ε} {deals : List (Deal ε)}
    (h : Settled hasFailed events deals) : .shutDown ∉ deals := by
  cases h <;> simp [Deal.all]

/-- Nor while it is busy with one. -/
lemma Works.not_shutDown {worker : Worker ε} {hasFailed : Bool} {taken : List ε}
    {deals : List (Deal ε)} (h : Works worker hasFailed taken deals) : .shutDown ∉ deals := by
  cases h with
  | waiting settled => exact settled.not_shutDown
  | busy => simp [Deal.all]

/-- A shutdown of the processor is no event that was sent. -/
lemma mem_rest_of_shutDown {past : List (Deal ε)} (h : .shutDown ∈ past) : .shutDown ∈ rest past :=
  List.mem_filter.mpr ⟨h, rfl⟩

/-- Where a run is, and what its log holds then. -/
inductive Phase : List (Deal ε) → Core ε → Prop where
  | unstarted {isOpen : Bool} {stage : Stage} :
    stage = .none ∨ stage = .stoppingServer ∨
      (∃ server, stage = .awaitingWorker server ∧ isOpen = false) →
    Phase [] { isOpen, stage }
  | working {past : List (Deal ε)} {worker : Worker ε} {slot : Option ε}
    {isHandling isOpen hasServed hasFailed : Bool} {stage : Stage} {taken : List ε} :
    Works worker hasFailed taken (rest past) → sentOf past = taken ++ slot.toList →
    (∀ server, stage ≠ .awaitingProcessor server) →
    Phase past
      { processor := .worker, worker, slot, isHandling, isOpen, hasServed, hasFailed, stage }
  /-- The worker has ended, as no event can come any more. -/
  | drained {past : List (Deal ε)} {hasServed hasFailed : Bool} {stage : Stage} :
    Settled hasFailed (sentOf past) (rest past) → (∀ server, stage ≠ .awaitingProcessor server) →
    Phase past { processor := .worker, isOpen := false, hasServed, hasFailed, stage }
  | shutDown {past : List (Deal ε)} {hasServed hasFailed : Bool} {stage : Stage} :
    Settled hasFailed (sentOf past) (rest past) →
    stage = .none ∨ (∃ server, stage = .awaitingProcessor server) →
    Phase (past ++ [.shutDown]) { processor := .nobody, isOpen := false, hasServed, hasFailed, stage }
  /-- The processor has panicked. It is never shut down then. -/
  | panicked {past : List (Deal ε)} {c : Core ε} :
    c.worker = .panicked → c.processor ≠ .receiver → .shutDown ∉ past →
    Phase past c

namespace Phase

variable {past deals before : List (Deal ε)} {c c' : Core ε}

/-- A receiver that has not started can be started, or shut down without ever having had an event. -/
lemma step_unstarted {isOpen : Bool} {stage : Stage}
    (stages : stage = .none ∨ stage = .stoppingServer ∨
      (∃ server, stage = .awaitingWorker server ∧ isOpen = false))
    (step : Core.Step { isOpen, stage } deals c') : Phase deals c' := by
  cases step with
  | idle => exact .unstarted stages
  | work work => rcases work.isHandling_of_absent rfl with handles | ⟨served, _⟩ <;> contradiction
  | turn turn =>
    cases turn with
    | start _ =>
      have works : Works (.waiting : Worker ε) false [] (rest []) := .waiting .processed
      refine .working works rfl fun server awaits => ?_
      rcases stages with rfl | rfl | ⟨_, rfl, _⟩ <;> cases awaits
    | stopServer _ _ => exact .unstarted (.inr (.inl rfl))
    | close _ => exact .unstarted (.inr (.inr ⟨_, rfl, rfl⟩))
    | lose _ panicked => cases panicked
    | join awaits _ =>
      rcases stages with rfl | rfl | ⟨_, rfl, rfl⟩
      · cases awaits
      · cases awaits
      · have settled : Settled false (sentOf ([] : List (Deal ε))) (rest []) := .processed
        exact .shutDown settled (.inr ⟨_, rfl⟩)
    | stop awaits => rcases stages with rfl | rfl | ⟨_, rfl, _⟩ <;> cases awaits

/-- What is sent and what is taken is noted while the receiver works, until the worker ends. -/
lemma work_working {worker : Worker ε} {slot : Option ε}
    {isHandling isOpen hasServed hasFailed : Bool} {stage : Stage} {taken : List ε}
    (works : Works worker hasFailed taken (rest past)) (sent : sentOf past = taken ++ slot.toList)
    (goesOn : ∀ server, stage ≠ .awaitingProcessor server)
    (work : Core.Work
      { processor := .worker, worker, slot, isHandling, isOpen, hasServed, hasFailed, stage } deals
      c') :
    Phase (past ++ deals) c' := by
  cases work with
  | request _ _ =>
    rw [List.append_nil]
    exact .working works sent goesOn
  | handle _ =>
    rw [List.append_nil]
    exact .working works sent goesOn
  | @send event _ empty _ =>
    cases empty
    have works' : Works worker hasFailed taken (rest (past ++ [.sent event])) := by
      rw [rest_append]
      exact (List.append_nil _).symm ▸ works
    refine .working works' ?_ goesOn
    rw [sentOf_append, sent, Option.toList_none, List.append_nil]
    rfl
  | @give event waiting full fine =>
    cases waiting
    cases full
    cases fine
    have works' : Works (.busy event) false (taken ++ [event]) (rest (past ++ [.given event])) := by
      rw [rest_append]
      exact works.settled.give event
    refine .working works' ?_ goesOn
    rw [sentOf_append, sent]
    rfl
  | @drop event waiting full failed =>
    cases waiting
    cases full
    cases failed
    have works' : Works .waiting true (taken ++ [event]) (rest (past ++ [.dropped event])) := by
      rw [rest_append]
      exact .waiting (works.settled.drop event)
    refine .working works' ?_ goesOn
    rw [sentOf_append, sent]
    rfl
  | succeed busy =>
    cases busy
    have works' : Works .waiting hasFailed taken (rest (past ++ [.returned (.ok ())])) := by
      rw [rest_append]
      exact works.succeed
    refine .working works' ?_ goesOn
    rw [sentOf_append, sent]
    exact List.append_nil _
  | @fail event cause busy =>
    cases busy
    have works' : Works .waiting true taken (rest (past ++ [.returned (.error cause)])) := by
      rw [rest_append]
      exact works.fail cause
    refine .working works' ?_ goesOn
    rw [sentOf_append, sent]
    exact List.append_nil _
  -- the event that the processor panicked on is lost with it, and what is on the channel too
  | panic _ =>
    rw [List.append_nil]
    exact .panicked rfl nofun fun shut => works.not_shutDown (mem_rest_of_shutDown shut)
  -- nothing is on the channel and nothing can come, so all that was sent has been taken
  | finish waiting empty closed idle =>
    cases waiting
    cases empty
    cases closed
    cases idle
    rw [List.append_nil]
    rw [Option.toList_none, List.append_nil] at sent
    exact .drained (sent ▸ works.settled) goesOn

/-- While the worker works every step keeps to the phase, or leads to the next. -/
lemma step_working {worker : Worker ε} {slot : Option ε}
    {isHandling isOpen hasServed hasFailed : Bool} {stage : Stage} {taken : List ε}
    (works : Works worker hasFailed taken (rest past)) (sent : sentOf past = taken ++ slot.toList)
    (goesOn : ∀ server, stage ≠ .awaitingProcessor server)
    (step : Core.Step
      { processor := .worker, worker, slot, isHandling, isOpen, hasServed, hasFailed, stage } deals
      c') :
    Phase (past ++ deals) c' := by
  cases step with
  | idle =>
    rw [List.append_nil]
    exact .working works sent goesOn
  | work work => exact work_working works sent goesOn work
  | turn turn =>
    cases turn with
    | start receiver => cases receiver
    | stopServer _ _ =>
      rw [List.append_nil]
      exact .working works sent nofun
    | close _ =>
      rw [List.append_nil]
      exact .working works sent nofun
    | lose _ panicked =>
      cases panicked
      cases works
    | join _ absent =>
      cases absent
      cases works
    | stop awaits => exact absurd awaits (goesOn _)

/-- When all has been taken only the shutdown of the processor is left. -/
lemma step_drained {hasServed hasFailed : Bool} {stage : Stage}
    (settled : Settled hasFailed (sentOf past) (rest past))
    (goesOn : ∀ server, stage ≠ .awaitingProcessor server)
    (step : Core.Step { processor := .worker, isOpen := false, hasServed, hasFailed, stage } deals
      c') :
    Phase (past ++ deals) c' := by
  cases step with
  | idle =>
    rw [List.append_nil]
    exact .drained settled goesOn
  | work work => rcases work.isHandling_of_absent rfl with handles | ⟨_, isOpen⟩ <;> contradiction
  | turn turn =>
    cases turn with
    | start receiver => cases receiver
    | stopServer _ _ =>
      rw [List.append_nil]
      exact .drained settled nofun
    | close _ =>
      rw [List.append_nil]
      exact .drained settled nofun
    | lose _ panicked => cases panicked
    | join _ _ => exact .shutDown settled (.inr ⟨_, rfl⟩)
    | stop awaits => exact absurd awaits (goesOn _)

/-- After the processor has been shut down nothing is dealt any more. -/
lemma step_shutDown {hasServed hasFailed : Bool} {stage : Stage}
    (settled : Settled hasFailed (sentOf past) (rest past))
    (stages : stage = .none ∨ (∃ server, stage = .awaitingProcessor server))
    (step : Core.Step { processor := .nobody, isOpen := false, hasServed, hasFailed, stage } deals
      c') :
    Phase (past ++ [.shutDown] ++ deals) c' := by
  cases step with
  | idle =>
    rw [List.append_nil]
    exact .shutDown settled stages
  | work work => rcases work.isHandling_of_absent rfl with handles | ⟨_, isOpen⟩ <;> contradiction
  | turn turn =>
    cases turn with
    | start receiver => cases receiver
    | stopServer _ left => exact absurd rfl left
    | close closes =>
      rcases closes with stopping | ⟨_, left⟩
      · rcases stages with rfl | ⟨_, rfl⟩ <;> cases stopping
      · exact absurd rfl left
    | lose _ panicked => cases panicked
    | join awaits _ => rcases stages with rfl | ⟨_, rfl⟩ <;> cases awaits
    | stop _ =>
      rw [List.append_nil]
      exact .shutDown settled (.inl rfl)

/-- When the processor has panicked it is never shut down. -/
lemma step_panicked (panicked : c.worker = .panicked) (left : c.processor ≠ .receiver)
    (none : .shutDown ∉ past) (step : Core.Step c deals c') : Phase (past ++ deals) c' := by
  cases step with
  | idle =>
    rw [List.append_nil]
    exact .panicked panicked left none
  | work work =>
    cases work with
    | request _ _ =>
      rw [List.append_nil]
      exact .panicked panicked left none
    | handle _ =>
      rw [List.append_nil]
      exact .panicked panicked left none
    | send _ _ receives =>
      rcases receives with waiting | ⟨_, busy⟩
      · cases panicked.symm.trans waiting
      · cases panicked.symm.trans busy
    | give waiting _ _ => cases panicked.symm.trans waiting
    | drop waiting _ _ => cases panicked.symm.trans waiting
    | succeed busy => cases panicked.symm.trans busy
    | fail busy => cases panicked.symm.trans busy
    | panic busy => cases panicked.symm.trans busy
    | finish waiting _ _ _ => cases panicked.symm.trans waiting
  -- without a worker only the call that shuts down moves on
  | turn turn =>
    cases turn with
    | start receiver => exact absurd receiver left
    | join _ absent => cases panicked.symm.trans absent
    | lose _ _ =>
      rw [List.append_nil]
      exact .panicked panicked nofun none
    | _ =>
      rw [List.append_nil]
      exact .panicked panicked left none

/-- Every step of the core leads from phase to phase. -/
lemma step (h : Phase past c) (step : Core.Step c deals c') : Phase (past ++ deals) c' := by
  cases h with
  | unstarted stages => exact step_unstarted stages step
  | working works sent goesOn => exact step_working works sent goesOn step
  | drained settled goesOn => exact step_drained settled goesOn step
  | shutDown settled stages => exact step_shutDown settled stages step
  | panicked panicked left none => exact step_panicked panicked left none step

/-- Every run leads from phase to phase. -/
lemma run {r r' : Receiver ε} {moves : List (Move ε)} (h : Phase before r.core)
    (runs : r.run? decode moves = some r') : Phase (before ++ log decode r moves) r'.core := by
  induction moves generalizing r before with
  | nil =>
    cases runs
    rw [log, List.append_nil]
    exact h
  | cons move moves ih =>
    obtain ⟨next, stepped, runs⟩ := run?_cons.mp runs
    rw [log_cons stepped, ← List.append_assoc]
    exact ih (h.step (core_step stepped)) runs

/-- A run is always in one of the phases. -/
lemma of_run {address : String} {r : Receiver ε} {moves : List (Move ε)}
    (runs : run? decode { address } moves = some r) :
    Phase (log decode { address } moves) r.core :=
  run (.unstarted (.inl rfl)) runs

/-- When the processor is shut down, all that was sent has been dealt with, and nothing comes after. -/
lemma settled_of_shutDown {after : List (Deal ε)}
    (h : Phase (before ++ .shutDown :: after) c) :
    (∃ hasFailed, Settled hasFailed (sentOf before) (rest before)) ∧ after = [] := by
  -- of all phases only the last has a shutdown in its log, and it has no other one before
  have shut : Deal.shutDown ∈ before ++ .shutDown :: after := by simp
  generalize logged : before ++ .shutDown :: after = past at h shut
  cases h with
  | unstarted _ => cases shut
  | working works _ _ => exact absurd (mem_rest_of_shutDown shut) works.not_shutDown
  | drained settled _ => exact absurd (mem_rest_of_shutDown shut) settled.not_shutDown
  | panicked _ _ none => exact absurd shut none
  | @shutDown past _ _ _ settled _ =>
    rcases List.eq_nil_or_concat after with rfl | ⟨later, last, rfl⟩
    · obtain rfl := List.append_cancel_right logged
      exact ⟨⟨_, settled⟩, rfl⟩
    · rw [List.concat_eq_append, ← List.cons_append, ← List.append_assoc] at logged
      obtain ⟨logged, _⟩ := List.append_inj' logged rfl
      have earlier : Deal.shutDown ∈ past := by
        rw [← logged]
        simp
      exact absurd (mem_rest_of_shutDown earlier) settled.not_shutDown

end Phase

/-! ## Batches that come too late -/

/-- The receiver does not keep the channel open any more, and no handler does. -/
def IsClosed (r : Receiver ε) : Prop := r.isOpen = false ∧ r.handler = none

/-- Once it is closed and no handler is left the channel stays so, and nothing is sent. -/
lemma Core.Step.closed {c c' : Core ε} {deals : List (Deal ε)} (h : Core.Step c deals c')
    (closed : c.isOpen = false) (idle : c.isHandling = false) :
    c'.isOpen = false ∧ c'.isHandling = false ∧ sentOf deals = [] := by
  cases h with
  | idle => exact ⟨closed, idle, rfl⟩
  | work work =>
    cases work with
    | request _ isOpen => cases closed.symm.trans isOpen
    | handle handles => cases idle.symm.trans handles
    | send handles _ _ => cases idle.symm.trans handles
    | _ => exact ⟨closed, idle, rfl⟩
  | turn turn =>
    cases turn with
    | close _ => exact ⟨rfl, idle, rfl⟩
    | _ => exact ⟨closed, idle, rfl⟩

/-- A channel that has been closed stays closed, and nothing is put on it. -/
lemma IsClosed.run {r r' : Receiver ε} {moves : List (Move ε)} (closed : r.IsClosed)
    (runs : r.run? decode moves = some r') : r'.IsClosed ∧ sentOf (log decode r moves) = [] := by
  induction moves generalizing r with
  | nil =>
    cases runs
    exact ⟨closed, rfl⟩
  | cons move moves ih =>
    obtain ⟨next, stepped, runs⟩ := run?_cons.mp runs
    obtain ⟨isOpen, idle⟩ := closed
    obtain ⟨isOpen', idle', none⟩ := (core_step stepped).closed isOpen (by simp [core, idle])
    obtain ⟨closed', none'⟩ := ih ⟨isOpen', by simpa [core] using idle'⟩ runs
    refine ⟨closed', ?_⟩
    rw [log_cons stepped, sentOf_append, none, none']
    rfl

/-- A batch is turned down as soon as it comes: its handler has nothing to put on the channel, and is
over. -/
structure TurnsDown (decode : List UInt8 → Except DecodeError ε) (r : Receiver ε) : Prop where
  isTaken : r.hasServed = true → ∃ r', r.step? decode (.request "POST") = some r'
  answer : ∀ r', r.step? decode (.request "POST") = some r' →
    r'.answers = r.answers ++ [(500, DecodeError.channelClosed.message)]
  report : ∀ r', r.step? decode (.request "POST") = some r' →
    r'.reports = r.reports ++ [(ReceiverError.decode .channelClosed).failure]
  noEvent : ∀ r', r.step? decode (.request "POST") = some r' →
    dealt r (.request "POST") r' = [] ∧ r'.handler = none

/-- A receiver that is closed turns batches down. -/
lemma IsClosed.turnsDown {r : Receiver ε} (h : r.IsClosed) : TurnsDown decode r := by
  obtain ⟨closed, idle⟩ := h
  have turned : ∀ r', r.step? decode (.request "POST") = some r' →
      r' = r.answer (.error .channelClosed) := by
    intro r' stepped
    cases steps_of_step? stepped with
    | request _ _ => simp [Receiver.request, closed]
    | serverEnds _ ends _ => cases ends
  constructor
  case isTaken =>
    intro served
    exact ⟨_, (Steps.request served idle).step?_eq⟩
  case answer =>
    intro r' stepped
    rw [turned r' stepped]
    exact answers_answer ..
  case report =>
    intro r' stepped
    rw [turned r' stepped]
    simp [reports, Receiver.answer, Receiver.report, Receiver.mark, Mark.report?]
  case noEvent =>
    intro r' stepped
    rw [turned r' stepped]
    refine ⟨?_, idle⟩
    have quiet : Quiet r (r.answer (.error .channelClosed)) := .answer (.refl r) _
    change put r _ ++ noted r _ = []
    rw [put_eq_nil (by rfl), quiet.noted_eq]
    rfl

/-! ## Draining -/

/-- A run drains its channel before the processor is shut down. -/
structure Drains (decode : List UInt8 → Except DecodeError ε) (deals : List (Deal ε))
    (r : Receiver ε) : Prop where
  /-- When the processor is shut down, each event that has been put on the channel has been given to
  it, and the call has returned, or was dropped after an earlier call had failed. -/
  settled : ∀ before after, deals = before ++ .shutDown :: after →
    ∃ hasFailed, Settled hasFailed (sentOf before) (rest before)
  /-- From then on no event is put on the channel, given to the processor or dropped. -/
  nothing_after : ∀ before after, deals = before ++ .shutDown :: after → after = []
  /-- Once the receiver and its last handler have let go of the channel, whatever happens, no event
  comes and every batch is turned down. -/
  turnsDown : r.IsClosed → ∀ moves r', r.run? decode moves = some r' →
    sentOf (log decode r moves) = [] ∧ TurnsDown decode r'

/-- Whatever the handler, the worker and the shutdown do in whatever order, and however the server
ends, the channel is drained before the processor is shut down. -/
theorem drains_before_shutdown {address : String} {moves : List (Move ε)} {r : Receiver ε}
    (h : run? decode { address } moves = some r) : Drains decode (log decode { address } moves) r := by
  have phase := Phase.of_run h
  constructor
  case settled =>
    intro before after logged
    rw [logged] at phase
    exact phase.settled_of_shutDown.1
  case nothing_after =>
    intro before after logged
    rw [logged] at phase
    exact phase.settled_of_shutDown.2
  case turnsDown =>
    intro closed moves r' runs
    obtain ⟨closed', none⟩ := closed.run runs
    exact ⟨none, closed'.turnsDown⟩

/-- A batch of three events, with all that may go wrong: the processor fails on the first, the second
is on the channel then, and the server is aborted before the third is sent. -/
def abortedMoves : List (Move (List UInt8)) :=
  [.init ⟨.ok (), some 8080, .ok ()⟩, .request "POST",
    .body (some (.chunk [0x5B, 0x31, 0x2C, 0x32])), .handle, .handle, .take,
    .body (some (.chunk [0x2C, 0x33, 0x5D])), .handle, .handle, .handle, .shutdown,
    .serverAborts .deadlineExceeded, .handle, .processed (.error (.plain "full")), .take,
    .request "POST", .workerEnds, .joined]

/-- The run in which the server is aborted drains what is on the channel. -/
theorem drains_before_shutdown_aborted :
    ∃ r, run? .ok { address := "host:0" } abortedMoves = some r ∧
      log .ok { address := "host:0" } abortedMoves =
        [.sent [0x31], .given [0x31], .sent [0x32], .returned (.error (.plain "full")),
          .dropped [0x32], .shutDown] ∧
      Drains .ok (log .ok { address := "host:0" } abortedMoves) r := by
  obtain ⟨r, runs⟩ : ∃ r, run? .ok { address := "host:0" } abortedMoves = some r :=
    Option.isSome_iff_exists.mp (by decide +kernel)
  exact ⟨r, runs, by decide +kernel, drains_before_shutdown runs⟩

end Sidecar.Receiver
