import Sidecar.Proofs.Receiver.Core
import Sidecar.Proofs.Receiver.Standing

/-!
# The life of a receiver

The calls of the run may come in any order and number. What they come to depends on how far the receiver
has come (`Standing.Life`), and every step takes it further. So the processor is initialised at most once,
is given events only after that has succeeded, and is shut down at most once. The first call that shuts
the receiver down returns what the server and the processor have come to; later calls change nothing
(`FollowsLifeCycle`).
-/

namespace Sidecar.Receiver

variable {ε : Type} {decode : List UInt8 → Except DecodeError ε}

/-! ## Histories -/

/-- The startup with which the receiver is started: that of the first such call, unless the receiver is
shut down before. -/
def startup? : List (Move ε) → Option Startup
  | [] => none
  | .init startup :: _ => some startup
  | .shutdown :: _ => none
  | _ :: moves => startup? moves

/-- How the processor has shut down, if a move says so. -/
def Move.processorEnd? : Move ε → Option (Except Failure Unit)
  | .processorStops result => some result
  | _ => none

/-- A move that neither starts the receiver nor shuts it down, nor loses the processor. -/
def Move.isPlain : Move ε → Bool
  | .init _ => false
  | .shutdown => false
  | .panic => false
  | _ => true

section

variable {moves : List (Move ε)} {move : Move ε} {startup : Startup}

/-- Once started, a receiver has been started with that. -/
lemma startup?_append_of_some (h : startup? moves = some startup) (later : List (Move ε)) :
    startup? (moves ++ later) = some startup := by
  induction moves with
  | nil => cases h
  | cons move moves ih =>
    cases move with
    | init other => exact h
    | shutdown => cases h
    | _ => exact ih h

/-- After the receiver has been shut down no call starts it. -/
lemma startup?_append_of_shutdown (shut : .shutdown ∈ moves) (later : List (Move ε)) :
    startup? (moves ++ later) = startup? moves := by
  induction moves with
  | nil => cases shut
  | cons move moves ih =>
    cases move with
    | init other => rfl
    | shutdown => rfl
    | _ => exact ih ((List.mem_cons.mp shut).resolve_left nofun)

/-- Until it is started or shut down, what comes later decides. -/
lemma startup?_append_of_none (h : startup? moves = none) (unshut : .shutdown ∉ moves)
    (later : List (Move ε)) : startup? (moves ++ later) = startup? later := by
  induction moves with
  | nil => rfl
  | cons move moves ih =>
    cases move with
    | init other => cases h
    | shutdown => exact absurd (List.mem_cons_self ..) unshut
    | _ => exact ih h fun mem => unshut (List.mem_cons_of_mem _ mem)

/-- A plain move does not start the receiver. -/
lemma startup?_append_of_isPlain (plain : move.isPlain = true) :
    startup? (moves ++ [move]) = startup? moves := by
  induction moves with
  | nil =>
    cases move with
    | init _ | shutdown => cases plain
    | _ => rfl
  | cons first moves ih =>
    cases first with
    | init _ | shutdown => rfl
    | _ => exact ih

/-- A receiver that is not shut down before is started by the first call for it. -/
lemma isSome_startup?_of_init (unshut : .shutdown ∉ moves) (starts : .init startup ∈ moves) :
    (startup? moves).isSome = true := by
  induction moves with
  | nil => cases starts
  | cons move moves ih =>
    cases move with
    | init other => rfl
    | shutdown => exact absurd (List.mem_cons_self ..) unshut
    | _ =>
      exact ih (fun mem => unshut (List.mem_cons_of_mem _ mem))
        ((List.mem_cons.mp starts).resolve_left nofun)

end

/-- One move more makes no difference to whether others were made. -/
lemma mem_append_singleton_iff {moves : List (Move ε)} {move other : Move ε} (ne : other ≠ move) :
    other ∈ moves ++ [move] ↔ other ∈ moves := by
  rw [List.mem_append, List.mem_singleton]
  exact or_iff_left ne

/-! ## How far a receiver has come -/

/-- The calls of the processor before it is shut down: it has been given events only if it could be
initialised. -/
inductive Begins : Option Startup → List (Mark ε) → Prop where
  | unstarted : Begins none []
  | spoilt {startup : Startup} {cause : Failure} :
    startup.processor = .error cause →
    Begins (some startup) [.processorInit]
  | working {startup : Startup} {events : List ε} :
    startup.processor = .ok () →
    Begins (some startup) (.processorInit :: events.map .process)

/-- How far a receiver has come, after some moves. -/
inductive Standing.Life : List (Move ε) → Standing ε → Prop where
  | fresh {moves : List (Move ε)} {hasSignal : Bool} {returns : List (Except ReceiverError Unit)}
    {signals : List Bool} :
    startup? moves = none → .shutdown ∉ moves → .panic ∉ moves →
    Standing.Life moves { hasSignal, returns, signals }
  | spoilt {moves : List (Move ε)} {startup : Startup} {cause : Failure} {hasSignal : Bool}
    {returns : List (Except ReceiverError Unit)} {signals : List Bool} :
    startup? moves = some startup → startup.processor = .error cause → .shutdown ∉ moves →
    .panic ∉ moves →
    Standing.Life moves
      { hasInlet := false, hasSignal, callbacks := [.processorInit], returns, signals }
  /-- The receiver is shut down without a worker. -/
  | withdrawn {moves : List (Move ε)} {callbacks : List (Mark ε)} {hasSignal : Bool}
    {returns : List (Except ReceiverError Unit)} {signals : List Bool} :
    Begins (startup? moves) callbacks → .shutdown ∈ moves → .panic ∉ moves →
    Standing.Life moves
      { hasInlet := false, stage := .awaitingWorker (.ok ()), hasSignal, callbacks, returns, signals }
  | working {moves : List (Move ε)} {startup : Startup} {isServing hasSignal : Bool} {stage : Stage}
    {worker : Worker ε} {events : List ε} {returns : List (Except ReceiverError Unit)}
    {signals : List Bool} :
    startup? moves = some startup → startup.processor = .ok () →
    (worker = .panicked ↔ .panic ∈ moves) →
    stage = .none ∧ .shutdown ∉ moves ∧ isServing = startup.port.isSome ∨
      (stage = .stoppingServer ∨ ∃ server, stage = .awaitingWorker server) ∧ .shutdown ∈ moves →
    Standing.Life moves
      { processor := .worker, hasInlet := false, isServing, stage, worker, hasSignal
        callbacks := .processorInit :: events.map .process, returns, signals }
  /-- The processor is shut down, or has been. -/
  | leaving {moves : List (Move ε)} {isServing hasSignal : Bool} {stage : Stage}
    {before : List (Mark ε)} {returns : List (Except ReceiverError Unit)} {signals : List Bool} :
    Begins (startup? moves) before → .shutdown ∈ moves → .panic ∉ moves →
    stage = .none ∨ (∃ server, stage = .awaitingProcessor server) →
    Standing.Life moves
      { processor := .nobody, hasInlet := false, isServing, stage, hasSignal
        callbacks := before ++ [.processorShutdown], returns, signals }
  | lost {moves : List (Move ε)} {isServing hasSignal : Bool} {callbacks : List (Mark ε)}
    {returns : List (Except ReceiverError Unit)} {signals : List Bool} :
    Begins (startup? moves) callbacks → .shutdown ∈ moves → .panic ∈ moves →
    Standing.Life moves
      { processor := .nobody, hasInlet := false, isServing, worker := .panicked, hasSignal, callbacks
        returns, signals }

namespace Standing.Life

variable {moves : List (Move ε)} {move : Move ε} {s s' : Standing ε}

/-- What calls note beside the calls of the processor says nothing about how far the receiver has come. -/
lemma noting (h : Life moves s) (hasSignal : Bool) (returns : List (Except ReceiverError Unit))
    (signals : List Bool) : Life moves { s with hasSignal, returns, signals } := by
  cases h with
  | fresh start shut panic => exact .fresh start shut panic
  | spoilt start failed shut panic => exact .spoilt start failed shut panic
  | withdrawn begins shut panic => exact .withdrawn begins shut panic
  | working start ready panic stages => exact .working start ready panic stages
  | leaving begins shut panic stages => exact .leaving begins shut panic stages
  | lost begins shut panic => exact .lost begins shut panic

/-- A mark that is no call of the processor leaves the life of a receiver as it is. -/
lemma mark (h : Life moves s) {mark : Mark ε} (silent : mark.isCallback = false) :
    Life moves (s.mark mark) := by
  have noted := h.noting s.hasSignal (s.returns ++ mark.returned?.toList)
    (s.signals ++ mark.given?.toList)
  have same : s.mark mark =
      { s with
        returns := s.returns ++ mark.returned?.toList
        signals := s.signals ++ mark.given?.toList } := by
    simp [Standing.mark, silent]
  rw [same]
  exact noted

/-- Of a history only this counts: how the receiver was started, whether it has been shut down, and whether
the processor has panicked. -/
lemma later {later : List (Move ε)} (h : Life moves s) (start : startup? later = startup? moves)
    (shut : .shutdown ∈ later ↔ .shutdown ∈ moves) (panic : .panic ∈ later ↔ .panic ∈ moves) :
    Life later s := by
  cases h with
  | fresh start' unshut calm =>
    exact .fresh (start.trans start') (mt shut.mp unshut) (mt panic.mp calm)
  | spoilt start' failed unshut calm =>
    exact .spoilt (start.trans start') failed (mt shut.mp unshut) (mt panic.mp calm)
  | withdrawn begins shut' calm =>
    rw [← start] at begins
    exact .withdrawn begins (shut.mpr shut') (mt panic.mp calm)
  | working start' ready panic' stages =>
    rw [← shut] at stages
    exact .working (start.trans start') ready (panic'.trans panic.symm) stages
  | leaving begins shut' calm stages =>
    rw [← start] at begins
    exact .leaving begins (shut.mpr shut') (mt panic.mp calm) stages
  | lost begins shut' panic' =>
    rw [← start] at begins
    exact .lost begins (shut.mpr shut') (panic.mpr panic')

/-- So does a plain move. -/
lemma plain (h : Life moves s) (plain : move.isPlain = true) : Life (moves ++ [move]) s := by
  apply h.later (startup?_append_of_isPlain plain)
  · apply mem_append_singleton_iff
    rintro rfl
    cases plain
  · apply mem_append_singleton_iff
    rintro rfl
    cases plain

/-! ### Steps -/

/-- Only while it works a receiver has a worker that receives. -/
lemma step_worker (h : Life moves s)
    (receives : s.worker = .waiting ∨ ∃ event, s.worker = .busy event) (worker : Worker ε)
    (left : worker ≠ .panicked) :
    Life moves { s with worker } ∧
      ∀ event, Life moves ({ s with worker }.mark (.process event)) := by
  cases h with
  | @working startup isServing hasSignal stage _ events returns signals start ready panic stages =>
    have calm : .panic ∉ moves := by
      intro mem
      rcases receives with waiting | ⟨_, busy⟩
      · cases waiting.symm.trans (panic.mpr mem)
      · cases busy.symm.trans (panic.mpr mem)
    have panic' : worker = .panicked ↔ .panic ∈ moves := iff_of_false left calm
    constructor
    · exact .working start ready panic' stages
    · intro event
      have more : Life moves
          { processor := .worker, hasInlet := false, isServing, stage, worker, hasSignal
            callbacks := .processorInit :: (events ++ [event]).map .process
            returns := returns ++ [], signals := signals ++ [] } :=
        .working start ready panic' stages
      rw [List.map_append] at more
      exact more
  | _ => rcases receives with waiting | ⟨_, busy⟩ <;> contradiction

/-- When the worker has ended its processor is shut down. -/
lemma step_joined {server : Except ReceiverError Unit} (h : Life moves s)
    (awaits : s.stage = .awaitingWorker server) (absent : s.worker = .absent) :
    Life moves
      ({ s with processor := .nobody, stage := .awaitingProcessor server }.mark .processorShutdown) := by
  cases h with
  | fresh _ _ _ => cases awaits
  | spoilt _ _ _ _ => cases awaits
  | withdrawn begins shut calm =>
    exact .leaving begins shut calm (.inr ⟨server, rfl⟩)
  | @working startup _ _ _ worker events _ _ start ready panic stages =>
    have calm : .panic ∉ moves := by
      intro mem
      cases absent.symm.trans (panic.mpr mem)
    have shut : .shutdown ∈ moves := by
      rcases stages with ⟨idle, _⟩ | ⟨_, shut⟩
      · cases awaits.symm.trans idle
      · exact shut
    obtain rfl : worker = .absent := absent
    have begins : Begins (startup? moves) (.processorInit :: events.map .process) := by
      rw [start]
      exact .working ready
    exact .leaving begins shut calm (.inr ⟨server, rfl⟩)
  | leaving _ _ _ stages => rcases stages with rfl | ⟨_, rfl⟩ <;> cases awaits
  | lost _ _ _ => cases awaits

/-- When the worker has panicked its processor is lost. -/
lemma step_lost {server : Except ReceiverError Unit} (h : Life moves s)
    (awaits : s.stage = .awaitingWorker server) (panicked : s.worker = .panicked) :
    Life moves { s with processor := .nobody, stage := .none } := by
  cases h with
  | fresh _ _ _ => cases awaits
  | spoilt _ _ _ _ => cases awaits
  | withdrawn _ _ _ => cases panicked
  | @working startup _ _ _ worker events _ _ start ready panic stages =>
    have shut : .shutdown ∈ moves := by
      rcases stages with ⟨idle, _⟩ | ⟨_, shut⟩
      · cases awaits.symm.trans idle
      · exact shut
    obtain rfl : worker = .panicked := panicked
    have begins : Begins (startup? moves) (.processorInit :: events.map .process) := by
      rw [start]
      exact .working ready
    exact .lost begins shut (panic.mp rfl)
  | leaving _ _ _ stages => rcases stages with rfl | ⟨_, rfl⟩ <;> cases awaits
  | lost _ _ _ => cases awaits

/-- When the server has ended the channel is closed. -/
lemma step_closed {server : Except ReceiverError Unit} (h : Life moves s)
    (stage : s.stage = .stoppingServer) : Life moves (s.close server) := by
  cases h with
  | fresh _ _ _ => cases stage
  | spoilt _ _ _ _ => cases stage
  | withdrawn _ _ _ => cases stage
  | working start ready panic stages =>
    rcases stages with ⟨idle, _⟩ | ⟨_, shut⟩
    · cases stage.symm.trans idle
    · exact .working start ready panic (.inr ⟨.inr ⟨server, rfl⟩, shut⟩)
  | leaving _ _ _ stages => rcases stages with rfl | ⟨_, rfl⟩ <;> cases stage
  | lost _ _ _ => cases stage

/-- When the processor has shut down the call returns. -/
lemma step_stopped {server : Except ReceiverError Unit} (h : Life moves s)
    (stage : s.stage = .awaitingProcessor server) : Life moves { s with stage := .none } := by
  cases h with
  | fresh _ _ _ => cases stage
  | spoilt _ _ _ _ => cases stage
  | withdrawn _ _ _ => cases stage
  | working _ _ _ stages =>
    rcases stages with ⟨idle, _⟩ | ⟨stopping | ⟨_, awaits⟩, _⟩
    · cases stage.symm.trans idle
    · cases stage.symm.trans stopping
    · cases stage.symm.trans awaits
  | leaving begins shut calm _ => exact .leaving begins shut calm (.inl rfl)
  | lost _ _ _ => cases stage

/-- A plain move takes the receiver further along the history that there is. -/
lemma step_plain (h : Life moves s) (step : Standing.Step s move s') (plain : move.isPlain = true) :
    Life moves s' := by
  cases step with
  | spoil | start | startAgain | shutDownAgain | stopServer | close | panic => cases plain
  | invoke _ => exact h.mark rfl
  | takeSignal _ => exact (h.noting false s.returns s.signals).mark rfl
  | serverEnds stage _ => exact h.step_closed stage
  | lose awaits panicked => exact (h.step_lost awaits panicked).mark rfl
  | join awaits absent => exact h.step_joined awaits absent
  | stop stage => exact (h.step_stopped stage).mark rfl
  | @give event waiting => exact (h.step_worker (.inl waiting) (.busy event) nofun).2 event
  | processed busy => exact (h.step_worker (.inr ⟨_, busy⟩) .waiting nofun).1
  | finish waiting => exact (h.step_worker (.inl waiting) .absent nofun).1
  | convey _ => exact h

/-- A call that starts the receiver takes its life further, or changes nothing. -/
lemma step_init {startup : Startup} (h : Life moves s) (step : Standing.Step s (.init startup) s') :
    Life (moves ++ [.init startup]) s' := by
  have shut : .shutdown ∈ moves ++ [.init startup] ↔ .shutdown ∈ moves :=
    mem_append_singleton_iff nofun
  have panic : .panic ∈ moves ++ [.init startup] ↔ .panic ∈ moves := mem_append_singleton_iff nofun
  cases step with
  | spoil stage receiver hasInlet failed =>
    cases h with
    | fresh unstarted unshut calm =>
      have start := startup?_append_of_none unstarted unshut [.init startup]
      apply mark _ rfl
      exact .spoilt start failed (mt shut.mp unshut) (mt panic.mp calm)
    | _ => contradiction
  | start stage receiver hasInlet ready =>
    cases h with
    | @fresh hasSignal returns signals unstarted unshut calm =>
      have start := startup?_append_of_none unstarted unshut [.init startup]
      have works : Life (moves ++ [.init startup])
          { processor := .worker, hasInlet := false, isServing := startup.port.isSome || false
            worker := .waiting, hasSignal, callbacks := .processorInit :: ([] : List ε).map .process
            returns := returns ++ [], signals := signals ++ [] } := by
        apply working start ready
        · exact iff_of_false nofun (mt panic.mp calm)
        · exact .inl ⟨rfl, mt shut.mp unshut, Bool.or_false _⟩
      apply mark _ rfl
      exact works
    | _ => contradiction
  -- the first start has decided: another one is refused
  | startAgain stage refused =>
    apply mark _ rfl
    have start : startup? (moves ++ [.init startup]) = startup? moves := by
      cases h with
      | fresh _ _ _ => rcases refused with left | left <;> contradiction
      | spoilt start _ _ _ => rw [startup?_append_of_some start, start]
      | withdrawn _ shut _ => exact startup?_append_of_shutdown shut _
      | working start _ _ _ => rw [startup?_append_of_some start, start]
      | leaving _ shut _ _ => exact startup?_append_of_shutdown shut _
      | lost _ shut _ => exact startup?_append_of_shutdown shut _
    exact h.later start shut panic
  | serverEnds _ ends => cases ends
  | convey conveys => cases conveys

/-- A call that shuts it down does too. -/
lemma step_shutdown (h : Life moves s) (step : Standing.Step s .shutdown s') :
    Life (moves ++ [.shutdown]) s' := by
  have shut : .shutdown ∈ moves ++ [.shutdown] := List.mem_append_right _ (List.mem_singleton_self _)
  have panic : .panic ∈ moves ++ [.shutdown] ↔ .panic ∈ moves := mem_append_singleton_iff nofun
  cases step with
  | shutDownAgain stage left =>
    apply mark _ rfl
    -- only a shutdown takes the processor away
    have shut' : .shutdown ∈ moves := by
      cases h with
      | leaving _ shut _ _ => exact shut
      | lost _ shut _ => exact shut
      | _ => cases left
    exact h.later (startup?_append_of_shutdown shut' _) (iff_of_true shut shut') panic
  | stopServer stage there serving =>
    cases h with
    | working start ready panic' _ =>
      have start := startup?_append_of_some start [.shutdown]
      exact .working start ready (panic'.trans panic.symm) (.inr ⟨.inl rfl, shut⟩)
    | leaving => exact absurd rfl there
    | lost => exact absurd rfl there
    | _ => cases serving
  | close stage there idle =>
    cases h with
    | fresh unstarted unshut calm =>
      have start : startup? (moves ++ [.shutdown]) = none :=
        startup?_append_of_none unstarted unshut [.shutdown]
      apply withdrawn _ shut (mt panic.mp calm)
      rw [start]
      exact .unstarted
    | spoilt start failed unshut calm =>
      apply withdrawn _ shut (mt panic.mp calm)
      rw [startup?_append_of_some start]
      exact .spoilt failed
    | withdrawn => cases stage
    | working start ready panic' _ =>
      have start := startup?_append_of_some start [.shutdown]
      exact .working start ready (panic'.trans panic.symm) (.inr ⟨.inr ⟨_, rfl⟩, shut⟩)
    | leaving => exact absurd rfl there
    | lost => exact absurd rfl there
  | serverEnds _ ends => cases ends
  | convey conveys => cases conveys

/-- A panic of the processor is remembered. -/
lemma step_panic (h : Life moves s) (step : Standing.Step s .panic s') :
    Life (moves ++ [.panic]) s' := by
  have panic : .panic ∈ moves ++ [.panic] := List.mem_append_right _ (List.mem_singleton_self _)
  have shut : .shutdown ∈ moves ++ [.panic] ↔ .shutdown ∈ moves := mem_append_singleton_iff nofun
  cases step with
  | panic busy =>
    cases h with
    | working start ready _ stages =>
      have start := startup?_append_of_some start [.panic]
      rw [← shut] at stages
      exact .working start ready (iff_of_true rfl panic) stages
    | _ => cases busy
  | serverEnds _ ends => cases ends
  | convey conveys => cases conveys

/-- Every step takes the receiver further. -/
lemma step (h : Life moves s) (step : Standing.Step s move s') : Life (moves ++ [move]) s' := by
  cases move with
  | init startup => exact h.step_init step
  | shutdown => exact h.step_shutdown step
  | panic => exact h.step_panic step
  | _ => exact (h.step_plain step rfl).plain rfl

/-- A receiver is always somewhere in its life. -/
lemma of_run {address : String} {r : Receiver ε} {moves : List (Move ε)}
    (runs : run? decode { address } moves = some r) : Life moves r.standing := by
  apply run?_induction (motive := fun moves r => Life moves r.standing) _ _ runs
  · exact .fresh rfl List.not_mem_nil List.not_mem_nil
  · intro moves r move r' life stepped
    exact life.step (standing_step stepped)

/-! ### What follows -/

/-- The calls of the processor, from its initialisation to its end. -/
lemma callbacks (h : Life moves s) :
    ∃ before ends, s.callbacks = before ++ ends ∧ Begins (startup? moves) before ∧
      (ends = [] ∨ ends = [.processorShutdown] ∧ .shutdown ∈ moves ∧ .panic ∉ moves) := by
  cases h with
  | fresh start _ _ =>
    rw [start]
    exact ⟨[], [], rfl, .unstarted, .inl rfl⟩
  | spoilt start failed _ _ =>
    rw [start]
    exact ⟨_, [], rfl, .spoilt failed, .inl rfl⟩
  | withdrawn begins _ _ => exact ⟨_, [], (List.append_nil _).symm, begins, .inl rfl⟩
  | working start ready _ _ =>
    rw [start]
    exact ⟨_, [], (List.append_nil _).symm, .working ready, .inl rfl⟩
  | leaving begins shut calm _ => exact ⟨_, _, rfl, begins, .inr ⟨rfl, shut, calm⟩⟩
  | lost begins _ _ => exact ⟨_, [], (List.append_nil _).symm, begins, .inl rfl⟩

/-- A receiver that has been touched is not started again. -/
lemma started (h : Life moves s) (touched : (startup? moves).isSome = true ∨ .shutdown ∈ moves) :
    s.processor ≠ .receiver ∨ s.hasInlet = false := by
  cases h with
  | fresh start unshut _ =>
    rcases touched with started | shut
    · rw [start] at started
      cases started
    · exact absurd shut unshut
  | working => exact .inl nofun
  | leaving => exact .inl nofun
  | lost => exact .inl nofun
  | spoilt => exact .inr rfl
  | withdrawn => exact .inr rfl

/-- Between calls a receiver that has been shut down has no processor, and before it has one. -/
lemma processor_iff (h : Life moves s) (idle : s.stage = .none) :
    s.processor = .nobody ↔ .shutdown ∈ moves := by
  cases h with
  | fresh _ unshut _ => exact iff_of_false nofun unshut
  | spoilt _ _ unshut _ => exact iff_of_false nofun unshut
  | withdrawn => cases idle
  | working _ _ _ stages =>
    rcases stages with ⟨_, unshut, _⟩ | ⟨stopping | ⟨_, awaits⟩, _⟩
    · exact iff_of_false nofun unshut
    · cases idle.symm.trans stopping
    · cases idle.symm.trans awaits
  | leaving _ shut _ _ => exact iff_of_true rfl shut
  | lost _ shut _ => exact iff_of_true rfl shut

/-- A receiver that was not shut down is not shutting down. -/
lemma stage_of_unshut (h : Life moves s) (unshut : .shutdown ∉ moves) : s.stage = .none := by
  cases h with
  | fresh => rfl
  | spoilt => rfl
  | withdrawn _ shut _ => exact absurd shut unshut
  | working _ _ _ stages =>
    rcases stages with ⟨idle, _⟩ | ⟨_, shut⟩
    · exact idle
    · exact absurd shut unshut
  | leaving _ shut _ _ => exact absurd shut unshut
  | lost _ shut _ => exact absurd shut unshut

/-- There is a server as soon as the processor has been initialised and the port was free. -/
lemma isServing_iff (h : Life moves s) (unshut : .shutdown ∉ moves) :
    s.isServing = true ↔ ∃ startup, startup? moves = some startup ∧ startup.processor = .ok () ∧
      startup.port.isSome = true := by
  cases h with
  | fresh start _ _ =>
    apply iff_of_false nofun
    rintro ⟨startup, started, _⟩
    cases start.symm.trans started
  | spoilt start failed _ _ =>
    apply iff_of_false nofun
    rintro ⟨startup, started, ready, _⟩
    cases start.symm.trans started
    cases failed.symm.trans ready
  | withdrawn _ shut _ => exact absurd shut unshut
  | @working startup _ _ _ _ _ _ _ start ready _ stages =>
    rcases stages with ⟨_, _, serving⟩ | ⟨_, shut⟩
    · constructor
      · intro serves
        exact ⟨startup, start, ready, serving.symm.trans serves⟩
      · rintro ⟨startup, started, _, bound⟩
        cases start.symm.trans started
        exact serving.trans bound
    · exact absurd shut unshut
  | leaving _ shut _ _ => exact absurd shut unshut
  | lost _ shut _ => exact absurd shut unshut

/-- The processor is shut down, unless it has panicked. -/
lemma callbacks_of_nobody (h : Life moves s) (gone : s.processor = .nobody) :
    ∃ before, Begins (startup? moves) before ∧
      (.panic ∉ moves ∧ s.worker = .absent ∧ s.callbacks = before ++ [.processorShutdown] ∨
        .panic ∈ moves ∧ s.worker = .panicked ∧ s.callbacks = before) := by
  cases h with
  | leaving begins _ calm _ => exact ⟨_, begins, .inl ⟨calm, rfl, rfl⟩⟩
  | lost begins _ panic => exact ⟨_, begins, .inr ⟨panic, rfl, rfl⟩⟩
  | _ => cases gone

end Standing.Life

/-! ## The signal -/

/-- The signal is given away at the first time that it is asked for. -/
def Standing.GivesOnce (s : Standing ε) : Prop :=
  s.hasSignal = true ∧ s.signals = [] ∨
    s.hasSignal = false ∧ ∃ later, s.signals = true :: List.replicate later false

/-- No move gives the signal away again. -/
lemma Standing.GivesOnce.step {s s' : Standing ε} {move : Move ε} (h : s.GivesOnce)
    (step : Standing.Step s move s') : s'.GivesOnce := by
  -- of all moves only one asks for the signal; the others note nothing about it
  cases step with
  | takeSignal _ =>
    right
    refine ⟨rfl, ?_⟩
    rcases h with ⟨has, signals⟩ | ⟨hasNot, later, signals⟩
    · refine ⟨0, ?_⟩
      simp [Standing.mark, Mark.given?, has, signals]
    · refine ⟨later + 1, ?_⟩
      simp [Standing.mark, Mark.given?, hasNot, signals, List.replicate_succ']
  | _ => simpa [GivesOnce, Standing.mark, Standing.close, Mark.given?] using h

/-- So the signal is given away at most once. -/
lemma Standing.GivesOnce.of_run {address : String} {r : Receiver ε} {moves : List (Move ε)}
    (runs : run? decode { address } moves = some r) : r.standing.GivesOnce := by
  apply run?_induction (motive := fun _ r => r.standing.GivesOnce) _ _ runs
  · exact .inl ⟨rfl, rfl⟩
  · intro moves r move r' once stepped
    exact once.step (standing_step stepped)

/-! ## The first shutdown -/

/-- What the server has come to since the shutdown began. -/
inductive ServerGives (moves : List (Move ε)) : Bool → Except ReceiverError Unit → Prop where
  | ended {server : Except ReceiverError Unit} :
    moves.filterMap Move.serverEnd? = [server] → ServerGives moves true server
  | absent : moves.filterMap Move.serverEnd? = [] → ServerGives moves false (.ok ())

/-- Other moves change nothing about how the server has ended. -/
lemma ServerGives.append_of_none {moves : List (Move ε)} {isServing : Bool}
    {server : Except ReceiverError Unit} {move : Move ε} (h : ServerGives moves isServing server)
    (goesOn : move.serverEnd? = none) : ServerGives (moves ++ [move]) isServing server := by
  cases h with
  | ended ended =>
    apply ServerGives.ended
    simp [ended, goesOn]
  | absent none =>
    apply ServerGives.absent
    simp [none, goesOn]

/-- How far the first call that shuts the receiver down has come: the moves made in it so far, and what
calls had returned before. -/
inductive Standing.Ending (isServing : Bool) (returns : List (Except ReceiverError Unit)) :
    List (Move ε) → Standing ε → Prop where
  | stopping {moves : List (Move ε)} {s : Standing ε} :
    s.stage = .stoppingServer → isServing = true → moves.filterMap Move.serverEnd? = [] →
    moves.filterMap Move.processorEnd? = [] → s.returns = returns →
    Standing.Ending isServing returns moves s
  | awaiting {moves : List (Move ε)} {s : Standing ε} {server : Except ReceiverError Unit} :
    s.stage = .awaitingWorker server ∨ s.stage = .awaitingProcessor server ∧ s.worker = .absent →
    ServerGives moves isServing server → moves.filterMap Move.processorEnd? = [] →
    s.returns = returns →
    Standing.Ending isServing returns moves s
  | lost {moves : List (Move ε)} {s : Standing ε} :
    s.stage = .none → s.worker = .panicked → s.returns = returns ++ [.error .worker] →
    Standing.Ending isServing returns moves s
  | ended {moves : List (Move ε)} {s : Standing ε} {server : Except ReceiverError Unit}
    {result : Except Failure Unit} :
    s.stage = .none → s.worker = .absent → ServerGives moves isServing server →
    moves.filterMap Move.processorEnd? = [result] → s.returns = returns ++ [outcome server result] →
    Standing.Ending isServing returns moves s

namespace Standing.Ending

variable {isServing : Bool} {returns : List (Except ReceiverError Unit)} {moves : List (Move ε)}
  {move : Move ε} {s s' : Standing ε}

/-- Work that goes on beside the call changes nothing about how far this has come. -/
lemma beside (h : Ending isServing returns moves s) (stage : s'.stage = s.stage)
    (returned : s'.returns = s.returns) (rests : s.worker = .absent → s'.worker = .absent)
    (lost : s.worker = .panicked → s'.worker = .panicked) (server : move.serverEnd? = none)
    (processor : move.processorEnd? = none) : Ending isServing returns (moves ++ [move]) s' := by
  have processors :
      (moves ++ [move]).filterMap Move.processorEnd? = moves.filterMap Move.processorEnd? := by
    simp [processor]
  cases h with
  | stopping stops serving none none' same =>
    have none : (moves ++ [move]).filterMap Move.serverEnd? = [] := by simp [server, none]
    exact .stopping (stage.trans stops) serving none (processors.trans none') (returned.trans same)
  | awaiting stages given none same =>
    refine .awaiting ?_ (given.append_of_none server) (processors.trans none) (returned.trans same)
    rcases stages with awaits | ⟨awaits, absent⟩
    · exact .inl (stage.trans awaits)
    · exact .inr ⟨stage.trans awaits, rests absent⟩
  | lost idle panicked same => exact .lost (stage.trans idle) (lost panicked) (returned.trans same)
  | ended idle absent given ended same =>
    exact .ended (stage.trans idle) (rests absent) (given.append_of_none server) (processors.trans ended)
      (returned.trans same)

/-- A move that is no call takes the shutdown further, or changes nothing about it. -/
lemma step (h : Ending isServing returns moves s) (step : Standing.Step s move s')
    (goesOn : move.isCall = false) : Ending isServing returns (moves ++ [move]) s' := by
  cases step with
  | spoil | start | startAgain | invoke | takeSignal | shutDownAgain | stopServer | close =>
    cases goesOn
  | @serverEnds _ server stage ends =>
    cases h with
    | stopping _ serving none none' same =>
      subst serving
      have processor : move.processorEnd? = Option.none := by
        cases move with
        | processorStops _ => cases ends
        | _ => rfl
      refine .awaiting (.inl rfl) (.ended ?_) ?_ same
      · simp [none, ends]
      · simp [none', processor]
    | awaiting stages _ _ _ => rcases stages with awaits | ⟨awaits, _⟩ <;> cases stage.symm.trans awaits
    | lost idle _ _ => cases stage.symm.trans idle
    | ended idle _ _ _ _ => cases stage.symm.trans idle
  | lose awaits panicked =>
    cases h with
    | stopping stops _ _ _ _ => cases awaits.symm.trans stops
    | awaiting _ _ _ same =>
      refine .lost rfl panicked ?_
      simp [Standing.mark, Mark.returned?, same]
    | lost idle _ _ => cases awaits.symm.trans idle
    | ended idle _ _ _ _ => cases awaits.symm.trans idle
  | @join server awaits absent =>
    cases h with
    | stopping stops _ _ _ _ => cases awaits.symm.trans stops
    | awaiting stages given none same =>
      rcases stages with awaits' | ⟨awaits', _⟩
      · cases awaits.symm.trans awaits'
        refine .awaiting (.inr ⟨rfl, absent⟩) ?_ ?_ ?_
        · exact given.append_of_none rfl
        · simp [none, Move.processorEnd?]
        · simp [Standing.mark, Mark.returned?, same]
      · cases awaits.symm.trans awaits'
    | lost idle _ _ => cases awaits.symm.trans idle
    | ended idle _ _ _ _ => cases awaits.symm.trans idle
  | @stop server result awaits =>
    cases h with
    | stopping stops _ _ _ _ => cases awaits.symm.trans stops
    | awaiting stages given none same =>
      rcases stages with awaits' | ⟨awaits', absent⟩
      · cases awaits.symm.trans awaits'
      · cases awaits.symm.trans awaits'
        have processors :
            (moves ++ [Move.processorStops result]).filterMap Move.processorEnd? = [result] := by
          simp [none, Move.processorEnd?]
        refine .ended rfl absent (given.append_of_none rfl) processors ?_
        simp [Standing.mark, Mark.returned?, same]
    | lost idle _ _ => cases awaits.symm.trans idle
    | ended idle _ _ _ _ => cases awaits.symm.trans idle
  -- the worker goes on beside the call until it is joined
  | give waiting =>
    refine h.beside rfl ?_ ?_ ?_ rfl rfl
    · simp [Standing.mark, Mark.returned?]
    · intro absent
      cases waiting.symm.trans absent
    · intro panicked
      cases waiting.symm.trans panicked
  | processed busy =>
    refine h.beside rfl rfl ?_ ?_ rfl rfl
    · intro absent
      cases busy.symm.trans absent
    · intro panicked
      cases busy.symm.trans panicked
  | panic busy =>
    refine h.beside rfl rfl ?_ ?_ rfl rfl
    · intro absent
      cases busy.symm.trans absent
    · intro _
      rfl
  | finish waiting =>
    refine h.beside rfl rfl ?_ ?_ rfl rfl
    · intro _
      rfl
    · intro panicked
      cases waiting.symm.trans panicked
  | convey conveys =>
    refine h.beside rfl rfl id id ?_ ?_
    · cases move with
      | request _ | body _ | handle | take => rfl
      | _ => cases conveys
    · cases move with
      | request _ | body _ | handle | take => rfl
      | _ => cases conveys

/-- The call begins: there is a server to be stopped, or nothing but the worker to wait for. -/
lemma of_shutdown (step : Standing.Step s .shutdown s') (there : s.processor ≠ .nobody) :
    Ending s.isServing s.returns [] s' := by
  cases step with
  | shutDownAgain _ left => exact absurd left there
  | stopServer _ _ serving => exact .stopping rfl serving rfl rfl rfl
  | close _ _ idle =>
    rw [idle]
    exact .awaiting (.inl rfl) (.absent rfl) rfl rfl
  | serverEnds _ ends => cases ends
  | convey conveys => cases conveys

/-- So do all that are made in the shutdown. -/
lemma run {r r' : Receiver ε} {meanwhile : List (Move ε)}
    (h : Ending isServing returns [] r.standing) (runs : r.run? decode meanwhile = some r')
    (goesOn : ∀ move ∈ meanwhile, move.isCall = false) :
    Ending isServing returns meanwhile r'.standing := by
  apply run?_induction (motive := fun done r =>
    (∀ move ∈ done, move.isCall = false) → Ending isServing returns done r.standing) _ _ runs goesOn
  · intro _
    exact h
  · intro done r move r' ending stepped goesOn
    have here := goesOn move (List.mem_append_right _ (List.mem_singleton_self _))
    have before := ending fun move mem => goesOn move (List.mem_append_left _ mem)
    exact before.step (standing_step stepped) here

end Standing.Ending

/-! ## Any order of calls -/

/-- What the first call that shuts the receiver down comes to, when it returns: the moves before it and
meanwhile, and the receiver as the call found it and left it. -/
inductive FirstShutdown (moves meanwhile : List (Move ε)) (r r' : Receiver ε) : Prop where
  /-- The processor has panicked. It is never shut down. -/
  | lost :
    .panic ∈ moves ++ meanwhile → .processorShutdown ∉ r'.callbacks →
    r'.returns = r.returns ++ [.error .worker] → FirstShutdown moves meanwhile r r'
  /-- The processor has been shut down, which counts before what the server came to. -/
  | ended {before : List (Mark ε)} {server : Except ReceiverError Unit}
    {result : Except Failure Unit} :
    .panic ∉ moves ++ meanwhile → .processorShutdown ∉ before →
    r'.callbacks = before ++ [.processorShutdown] → ServerGives meanwhile r.isServing server →
    meanwhile.filterMap Move.processorEnd? = [result] →
    r'.returns = r.returns ++ [outcome server result] → FirstShutdown moves meanwhile r r'

/-- What a receiver keeps to, in whatever order its calls come. -/
structure FollowsLifeCycle (decode : List UInt8 → Except DecodeError ε) (moves : List (Move ε))
    (r : Receiver ε) : Prop where
  /-- The processor is initialised at most once, given events only if this has succeeded, and shut down
  at most once, after all of them. -/
  callbacks : ∃ before ends, r.callbacks = before ++ ends ∧ Begins (startup? moves) before ∧
    (ends = [] ∨ ends = [.processorShutdown] ∧ .shutdown ∈ moves ∧ .panic ∉ moves)
  signals : r.signals = [] ∨ ∃ later, r.signals = true :: List.replicate later false
  /-- After the first start, and after a shutdown, a start changes nothing. -/
  startAgain : (∃ startup, .init startup ∈ moves) ∨ .shutdown ∈ moves → ∀ startup r',
    r.step? decode (.init startup) = some r' → r' = r.mark (.returned (.error .alreadyStarted))
  shutDownAgain : .shutdown ∈ moves → ∀ r', r.step? decode .shutdown = some r' →
    r' = r.mark (.returned (.error .alreadyShutDown))
  /-- Until it is shut down a receiver serves if the processor has been initialised and the port was
  free, whatever else has failed. -/
  isServing_iff : .shutdown ∉ moves → (r.isServing = true ↔
    ∃ startup, startup? moves = some startup ∧ startup.processor = .ok () ∧
      startup.port.isSome = true)
  /-- The first shutdown returns once, when it is done. -/
  firstShutdown : .shutdown ∉ moves → ∀ meanwhile r', r.run? decode (.shutdown :: meanwhile) = some r' →
    (∀ move ∈ meanwhile, move.isCall = false) →
    (r'.isIdle = false → r'.returns = r.returns) ∧
      (r'.isIdle = true → FirstShutdown moves meanwhile r r')

section

variable {r r' : Receiver ε} {moves meanwhile : List (Move ε)} {startup : Startup}

/-- The calls of the processor before it is shut down are no shutdown. -/
lemma Begins.not_shutdown {start : Option Startup} {callbacks : List (Mark ε)}
    (h : Begins start callbacks) : .processorShutdown ∉ callbacks := by
  cases h with
  | unstarted => exact List.not_mem_nil
  | spoilt _ => simp
  | working _ => simp

/-- A receiver that has been started refuses to be started again, and nothing else changes. -/
lemma init_of_started (started : r.processor ≠ .receiver ∨ r.hasInlet = false)
    (h : r.step? decode (.init startup) = some r') :
    r' = r.mark (.returned (.error .alreadyStarted)) := by
  cases steps_of_step? h with
  | init _ =>
    apply if_neg
    rw [Bool.and_eq_true, decide_eq_true_eq]
    rintro ⟨receiver, hasInlet⟩
    rcases started with left | taken
    · exact left receiver
    · cases hasInlet.symm.trans taken
  | serverEnds _ ends => cases ends

/-- A receiver without a processor refuses to be shut down, and nothing else changes. -/
lemma shutdown_of_nobody (left : r.processor = .nobody) (h : r.step? decode .shutdown = some r') :
    r' = r.mark (.returned (.error .alreadyShutDown)) := by
  cases steps_of_step? h with
  | shutdown _ => exact if_pos left
  | serverEnds _ ends => cases ends

/-- The first call that shuts a receiver down returns once, with what it comes to. -/
lemma firstShutdown_of_run {address : String} (runs : run? decode { address } moves = some r)
    (unshut : .shutdown ∉ moves) (shuts : r.run? decode (.shutdown :: meanwhile) = some r')
    (goesOn : ∀ move ∈ meanwhile, move.isCall = false) :
    (r'.isIdle = false → r'.returns = r.returns) ∧
      (r'.isIdle = true → FirstShutdown moves meanwhile r r') := by
  have before : Standing.Life moves r.standing := .of_run runs
  have whole : run? decode { address } (moves ++ .shutdown :: meanwhile) = some r' :=
    run?_append.mpr ⟨r, runs, shuts⟩
  have after : Standing.Life (moves ++ .shutdown :: meanwhile) r'.standing := .of_run whole
  obtain ⟨next, begins, waits⟩ := run?_cons.mp shuts
  have idle := before.stage_of_unshut unshut
  have there : r.standing.processor ≠ .nobody := mt (before.processor_iff idle).mp unshut
  have ending := (Standing.Ending.of_shutdown (standing_step begins) there).run waits goesOn
  -- since the first shutdown a panic is one of the moves before it or meanwhile
  have panic : .panic ∈ moves ++ .shutdown :: meanwhile ↔ .panic ∈ moves ++ meanwhile := by simp
  constructor
  · intro busy
    cases ending with
    | stopping _ _ _ _ same => exact same
    | awaiting _ _ _ same => exact same
    | lost idle _ _ => cases busy.symm.trans (isIdle_iff.mpr idle)
    | ended idle _ _ _ _ => cases busy.symm.trans (isIdle_iff.mpr idle)
  · intro done
    have stage : r'.standing.stage = .none := isIdle_iff.mp done
    have shut : .shutdown ∈ moves ++ .shutdown :: meanwhile :=
      List.mem_append_right _ (List.mem_cons_self ..)
    have gone := (after.processor_iff stage).mpr shut
    obtain ⟨callbacks, begins, ⟨calm, absent, told⟩ | ⟨panics, panicked, same⟩⟩ :=
      after.callbacks_of_nobody gone
    · cases ending with
      | stopping stops _ _ _ _ => cases stage.symm.trans stops
      | awaiting stages _ _ _ =>
        rcases stages with awaits | ⟨awaits, _⟩ <;> cases stage.symm.trans awaits
      | lost _ panicked _ => cases absent.symm.trans panicked
      | ended _ _ given ended returned =>
        exact .ended (mt panic.mpr calm) begins.not_shutdown told given ended returned
    · cases ending with
      | stopping stops _ _ _ _ => cases stage.symm.trans stops
      | awaiting stages _ _ _ =>
        rcases stages with awaits | ⟨awaits, _⟩ <;> cases stage.symm.trans awaits
      | lost _ _ returned =>
        refine .lost (panic.mp panics) ?_ returned
        rw [show r'.callbacks = callbacks from same]
        exact begins.not_shutdown
      | ended _ absent _ _ _ => cases absent.symm.trans panicked

end

/-- Whatever is called in whatever order, a receiver follows its life cycle. -/
theorem follows_lifeCycle {address : String} {moves : List (Move ε)} {r : Receiver ε}
    (runs : run? decode { address } moves = some r) : FollowsLifeCycle decode moves r := by
  have life : Standing.Life moves r.standing := .of_run runs
  constructor
  case callbacks => exact life.callbacks
  case signals =>
    rcases Standing.GivesOnce.of_run runs with ⟨_, none⟩ | ⟨_, once⟩
    · exact .inl none
    · exact .inr once
  case startAgain =>
    intro touched startup r' stepped
    refine init_of_started (life.started ?_) stepped
    by_cases shut : .shutdown ∈ moves
    · exact .inr shut
    · obtain ⟨startup, starts⟩ := touched.resolve_right shut
      exact .inl (isSome_startup?_of_init shut starts)
  case shutDownAgain =>
    intro shut r' stepped
    have idle : r.stage = .none := by
      cases steps_of_step? stepped with
      | shutdown idle => exact isIdle_iff.mp idle
      | serverEnds _ ends => cases ends
    exact shutdown_of_nobody ((life.processor_iff idle).mpr shut) stepped
  case isServing_iff =>
    intro unshut
    exact life.isServing_iff unshut
  case firstShutdown =>
    intro unshut meanwhile r' shuts goesOn
    exact firstShutdown_of_run runs unshut shuts goesOn

/-- Calls in an unusual order: the signal is asked for first, the subscription fails, the receiver is
started again and, while its server and its processor fail, shut down twice. -/
def restlessMoves : List (Move (List UInt8)) :=
  [.takeSignal, .init ⟨.ok (), some 8080, .error .transport⟩, .init ⟨.ok (), none, .ok ()⟩,
    .request "POST", .body (some (.chunk [0x5B, 0x31, 0x5D])), .takeSignal, .handle, .handle, .take,
    .handle, .shutdown, .handle, .serverPanics, .processed (.ok ()), .workerEnds, .joined,
    .processorStops (.error (.plain "broken")), .shutdown, .init ⟨.ok (), none, .ok ()⟩]

/-- The calls in an unusual order can be made, and keep to the life cycle. -/
theorem follows_lifeCycle_restless :
    ∃ r, run? .ok { address := "host:0" } restlessMoves = some r ∧
      FollowsLifeCycle .ok restlessMoves r ∧
      ((run? .ok { address := "host:0" } restlessMoves).map fun r =>
        (r.returns, r.signals, r.callbacks.length)) =
          some ([.error (.subscribe .transport), .error .alreadyStarted,
            .error (.processorShutdown (.plain "broken")), .error .alreadyShutDown,
            .error .alreadyStarted], [true, false], 3) := by
  obtain ⟨r, runs⟩ : ∃ r, run? .ok { address := "host:0" } restlessMoves = some r :=
    Option.isSome_iff_exists.mp (by decide +kernel)
  exact ⟨r, runs, follows_lifeCycle runs, by decide +kernel⟩

end Sidecar.Receiver
