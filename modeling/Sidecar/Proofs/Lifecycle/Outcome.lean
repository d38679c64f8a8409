import Sidecar.Proofs.Lifecycle.Loop

/-!
# The outcome of a run

A run succeeds if and only if the extension registers and is initialised, the loop ends with the event
that shuts down, and shutting down succeeds. An error that ends the loop is what the extension is told
and what the run returns (`HasOutcome`, `run_hasOutcome`).
-/

namespace Sidecar

/-- Why the extension is shut down, and after which error. -/
def Deed.shutdown? : Deed → Option (ShutdownReason × Option RunError)
  | .shutdown reason _ _ error => some (reason, error)
  | _ => none

namespace Run

/-- What the extension is told each time that it is shut down. -/
def shutdowns (run : Run) : List (ShutdownReason × Option RunError) :=
  run.deeds.filterMap Deed.shutdown?

variable {client : Client} {parent loopContext : Context} {watching : Bool}
  {s s' : Surroundings} {round : Round} {rounds : List Round} {invocations : List Invocation}
  {deeds : List Deed} {result : Except RunError Shutdown} {course : Course}

/-! ## Before the loop, and after it -/

/-- The context of the loop, and the surroundings in which it begins. -/
def loopStart (parent : Context) (s : Surroundings) (course : Course) : Context × Surroundings :=
  (s.afterAll parent course.init.occurrences).derive parent.child

/-- Before the loop starts nothing is taken back. -/
lemma leads_loopStart (parent : Context) (s : Surroundings) (course : Course) :
    (s.afterAll parent course.init.occurrences).Leads (loopStart parent s course).2 :=
  Surroundings.Leads.derive_child parent _

/-- The loop of a course ends in a way. -/
def LoopEndsOn (client : Client) (parent : Context) (s : Surroundings) (course : Course)
    (result : Except RunError Shutdown) : Prop :=
  ∃ deeds s', LoopEnds client parent (loopStart parent s course).1 course.handsSignal
    (loopStart parent s course).2 course.rounds result deeds s'

/-- A call is no shutdown. -/
lemma shutdowns_calls (request : Option Request) :
    (request.map Deed.call).toList.filterMap Deed.shutdown? = [] := by
  cases request <;> rfl

/-- A report is no shutdown. -/
lemma shutdowns_reportDeeds (call : Call Acknowledgement) (stopped : Option Stop)
    (exchange : Exchange) :
    (reportDeeds call stopped exchange).filterMap Deed.shutdown? = [] :=
  shutdowns_calls _

/-- While rounds are handled the extension is not shut down. -/
lemma Handlings.shutdowns (h : Handlings client rounds invocations deeds) :
    deeds.filterMap Deed.shutdown? = [] := by
  induction h with
  | nil => rfl
  | cons _ _ ih => exact ih

/-- Nor in the round that ends the loop. -/
lemma LastRound.shutdowns (h : LastRound client round result deeds) :
    deeds.filterMap Deed.shutdown? = [] := by
  cases h <;> rfl

/-- So the loop never shuts the extension down by itself. -/
lemma LoopEnds.shutdowns
    (h : LoopEnds client parent loopContext watching s rounds result deeds s') :
    deeds.filterMap Deed.shutdown? = [] := by
  cases h with
  | after handles ends =>
    rw [List.filterMap_append, handles.handlings.shutdowns, ends.lastRound.shutdowns]
    rfl

/-- After an error the extension is told of it. -/
lemma shutdowns_afterLoop_error {e : RunError} (h : deeds.filterMap Deed.shutdown? = []) :
    (afterLoop client parent loopContext course ⟨.error e, deeds, s⟩).shutdowns =
      [(.extensionError, some e)] := by
  simp only [afterLoop, Run.shutdowns, verdict, List.filterMap_append, h, List.nil_append]
  exact congrArg (_ :: ·) (shutdowns_reportDeeds ..)

/-- After the event that shuts down the extension is told its reason. -/
lemma shutdowns_afterLoop_ok {details : Shutdown} (h : deeds.filterMap Deed.shutdown? = []) :
    (afterLoop client parent loopContext course ⟨.ok details, deeds, s⟩).shutdowns =
      [(details.reason, none)] := by
  cases hs : course.shutdown.result with
  | ok _ =>
    simp only [afterLoop, Run.shutdowns, hs, verdict, List.filterMap_append, h, List.nil_append]
    rfl
  | error cause =>
    simp only [afterLoop, Run.shutdowns, hs, verdict, List.filterMap_append, h, List.nil_append]
    exact congrArg (_ :: ·) (shutdowns_reportDeeds ..)

end Run

/-! ## Whole runs -/

section

variable (r : Registering) (env : Environment) (program : String) (parent : Context)
  (s : Surroundings) (course : Course)

/-- The extension registers and gets a client. -/
def Registering.Registers (client : Client) : Prop :=
  (r.register env program (s.stop? parent) course.register).1 = .ok client

/-- The call that registers, if it is made. -/
def Registering.calls : List Deed :=
  ((r.register env program (s.stop? parent) course.register).2.map Deed.call).toList

/-- How far a run comes before its loop. -/
inductive Registering.Begins : Prop where
  | unregistered {e : CallError} :
    (r.register env program (s.stop? parent) course.register).1 = .error e → Registering.Begins
  | uninitialised {client : Client} {cause : Failure} :
    r.Registers env program parent s course client → course.init.result = .error cause →
    Registering.Begins
  | initialised {client : Client} :
    r.Registers env program parent s course client → course.init.result = .ok () →
    Registering.Begins

/-- A run fails to register, is not initialised, or comes to its loop. -/
lemma Registering.begins : Registering.Begins r env program parent s course := by
  cases registered : (r.register env program (s.stop? parent) course.register).1 with
  | error e => exact .unregistered registered
  | ok client =>
    cases init : course.init.result with
    | error cause => exact .uninitialised registered init
    | ok _ => exact .initialised registered init

variable {r env program parent s course}

/-- A run that does not register ends with that error. -/
lemma Registering.run_of_unregistered {e : CallError}
    (h : (r.register env program (s.stop? parent) course.register).1 = .error e) :
    r.run env program parent s course =
      some ⟨.error (.register e), r.calls env program parent s course⟩ := by
  simp [Registering.run, calls, h]

/-- A run that registers goes on with the client that it got. -/
lemma Registering.run_of_registers {client : Client}
    (h : r.Registers env program parent s course client) :
    r.run env program parent s course =
      (Run.ofClient client parent s course).map fun ending =>
        { ending with deeds := r.calls env program parent s course ++ ending.deeds } := by
  unfold Registers at h
  simp [Registering.run, calls, h]

/-- An extension that is not initialised is shut down. -/
lemma Run.ofClient_of_error {client : Client} {cause : Failure}
    (h : course.init.result = .error cause) :
    ofClient client parent s course =
      let ending := afterInitFailure client parent (s.afterAll parent course.init.occurrences)
        course cause
      some { ending with deeds := .init :: ending.deeds } := by
  simp [ofClient, h]

/-- An extension that is initialised is shut down when its loop has ended. -/
lemma Run.ofClient_of_ok {client : Client} (h : course.init.result = .ok ()) :
    ofClient client parent s course =
      (loop client parent (loopStart parent s course).1 course.handsSignal
        (loopStart parent s course).2 course.rounds).map fun ending =>
          let ending := afterLoop client parent (loopStart parent s course).1 course ending
          { ending with deeds := .init :: .takeSignal :: ending.deeds } := by
  simp [ofClient, h, loopStart]

/-- What is done in a run that is not initialised, deed by deed. -/
lemma Registering.run_eq_of_uninitialised {client : Client} {cause : Failure}
    (registers : r.Registers env program parent s course client)
    (h : course.init.result = .error cause) :
    r.run env program parent s course =
      some ⟨.error (.init cause), r.calls env program parent s course ++ .init ::
        (Run.afterInitFailure client parent (s.afterAll parent course.init.occurrences) course
          cause).deeds⟩ := by
  rw [run_of_registers registers, Run.ofClient_of_error h]
  rfl

/-- A run that is not initialised fails with that error, and tells the extension so. -/
lemma Registering.run_of_uninitialised {client : Client} {cause : Failure}
    (registers : r.Registers env program parent s course client)
    (h : course.init.result = .error cause) :
    ∃ run, r.run env program parent s course = some run ∧ run.result = .error (.init cause) ∧
      run.shutdowns = [(.extensionError, some (.init cause))] := by
  refine ⟨_, run_eq_of_uninitialised registers h, rfl, ?_⟩
  simp only [Run.shutdowns, Run.afterInitFailure, calls, List.filterMap_append,
    List.filterMap_cons, Deed.shutdown?, Run.shutdowns_calls, Run.shutdowns_reportDeeds]
  rfl

/-- A run whose loop ends goes on as the end of the loop says. -/
lemma Registering.run_eq_of_loopEnds {client : Client} {result : Except RunError Shutdown}
    {deeds : List Deed} {s' : Surroundings}
    (registers : r.Registers env program parent s course client) (init : course.init.result = .ok ())
    (ends : Run.LoopEnds client parent (Run.loopStart parent s course).1 course.handsSignal
      (Run.loopStart parent s course).2 course.rounds result deeds s') :
    r.run env program parent s course =
      some ⟨Run.verdict result course.shutdown.result,
        r.calls env program parent s course ++ .init :: .takeSignal ::
          (Run.afterLoop client parent (Run.loopStart parent s course).1 course
            ⟨result, deeds, s'⟩).deeds⟩ := by
  rw [run_of_registers registers, Run.ofClient_of_ok init, Run.loop_of_loopEnds ends]
  rfl

/-- What a run comes to whose loop has ended. -/
lemma Registering.run_of_loopEnds {client : Client} {result : Except RunError Shutdown}
    (registers : r.Registers env program parent s course client) (init : course.init.result = .ok ())
    (h : Run.LoopEndsOn client parent s course result) :
    ∃ run deeds s', r.run env program parent s course = some run ∧
      run.result = Run.verdict result course.shutdown.result ∧
      deeds.filterMap Deed.shutdown? = [] ∧
      run.shutdowns = (Run.afterLoop client parent (Run.loopStart parent s course).1 course
        ⟨result, deeds, s'⟩).shutdowns := by
  obtain ⟨deeds, s', ends⟩ := h
  refine ⟨_, deeds, s', run_eq_of_loopEnds registers init ends, rfl, ends.shutdowns, ?_⟩
  simp only [Run.shutdowns, calls, List.filterMap_append, List.filterMap_cons, Deed.shutdown?,
    Run.shutdowns_calls, List.nil_append]

/-- A run whose loop has failed fails with that error, whatever comes of the shutdown. -/
lemma Registering.run_of_loop_error {client : Client} {e : RunError}
    (registers : r.Registers env program parent s course client) (init : course.init.result = .ok ())
    (h : Run.LoopEndsOn client parent s course (.error e)) :
    ∃ run, r.run env program parent s course = some run ∧ run.result = .error e ∧
      run.shutdowns = [(.extensionError, some e)] := by
  obtain ⟨run, deeds, s', ran, result, none, shutdowns⟩ := run_of_loopEnds registers init h
  exact ⟨run, ran, result, shutdowns.trans (Run.shutdowns_afterLoop_error none)⟩

/-- A run whose loop was told to shut down fails only if the shutdown does. -/
lemma Registering.run_of_loop_ok {client : Client} {details : Shutdown}
    (registers : r.Registers env program parent s course client) (init : course.init.result = .ok ())
    (h : Run.LoopEndsOn client parent s course (.ok details)) :
    ∃ run, r.run env program parent s course = some run ∧
      run.result = course.shutdown.result.mapError .shutdown ∧
      run.shutdowns = [(details.reason, none)] := by
  obtain ⟨run, deeds, s', ran, result, none, shutdowns⟩ := run_of_loopEnds registers init h
  refine ⟨run, ran, result.trans ?_, shutdowns.trans (Run.shutdowns_afterLoop_ok none)⟩
  cases course.shutdown.result <;> rfl

/-- A run that ends in another way than by its loop fails, and one whose loop does not end has no
result. -/
lemma Registering.loopEndsOn_of_run {client : Client} {run : Run}
    (registers : r.Registers env program parent s course client) (init : course.init.result = .ok ())
    (h : r.run env program parent s course = some run) :
    ∃ result, Run.LoopEndsOn client parent s course result := by
  rw [run_of_registers registers, Run.ofClient_of_ok init, Option.map_map] at h
  obtain ⟨⟨result, deeds, s'⟩, ended, _⟩ := Option.map_eq_some_iff.mp h
  exact ⟨result, deeds, s', Run.loopEnds_of_loop ended⟩

/-- A run succeeds just if it registers, is initialised, is told to shut down and does so. -/
lemma Registering.run_ok_iff :
    (∃ deeds, r.run env program parent s course = some ⟨.ok (), deeds⟩) ↔
      ∃ client details, r.Registers env program parent s course client ∧
        course.init.result = .ok () ∧ Run.LoopEndsOn client parent s course (.ok details) ∧
        course.shutdown.result = .ok () := by
  constructor
  · rintro ⟨deeds, ok⟩
    cases r.begins env program parent s course with
    -- what ends before its loop has failed
    | unregistered h => cases (run_of_unregistered h).symm.trans ok
    | uninitialised registers failed =>
      obtain ⟨run, ran, failed, _⟩ := run_of_uninitialised registers failed
      cases ran.symm.trans ok
      cases failed
    | @initialised client registers init =>
      obtain ⟨result, ends⟩ := loopEndsOn_of_run registers init ok
      cases result with
      | error e =>
        obtain ⟨run, ran, failed, _⟩ := run_of_loop_error registers init ends
        cases ran.symm.trans ok
        cases failed
      | ok details =>
        refine ⟨client, details, registers, init, ends, ?_⟩
        obtain ⟨run, ran, succeeded, _⟩ := run_of_loop_ok registers init ends
        cases ran.symm.trans ok
        cases shutdown : course.shutdown.result with
        | ok _ => rfl
        | error cause =>
          rw [shutdown] at succeeded
          cases succeeded
  · rintro ⟨client, details, registers, init, ends, shutdown⟩
    obtain ⟨run, ran, succeeded, _⟩ := run_of_loop_ok registers init ends
    rw [shutdown] at succeeded
    obtain ⟨result, deeds⟩ := run
    cases succeeded
    exact ⟨deeds, ran⟩

/-- A run never ends just if it comes to its loop and the loop does not end. -/
lemma Registering.run_eq_none_iff :
    r.run env program parent s course = none ↔
      ∃ client, r.Registers env program parent s course client ∧ course.init.result = .ok () ∧
        ∀ result, ¬Run.LoopEndsOn client parent s course result := by
  constructor
  · intro endless
    cases r.begins env program parent s course with
    | unregistered h => cases (run_of_unregistered h).symm.trans endless
    | uninitialised registers failed =>
      obtain ⟨run, ran, _⟩ := run_of_uninitialised registers failed
      cases ran.symm.trans endless
    | @initialised client registers init =>
      refine ⟨client, registers, init, fun result ends => ?_⟩
      obtain ⟨run, _, _, ran, _⟩ := run_of_loopEnds registers init ends
      cases ran.symm.trans endless
  · rintro ⟨client, registers, init, endless⟩
    cases ran : r.run env program parent s course with
    | none => rfl
    | some run =>
      obtain ⟨result, ends⟩ := loopEndsOn_of_run registers init ran
      exact absurd ends (endless result)

end

/-! ## Alarms -/

/-- Something in a history ends the loop at its next look: a cancellation or, if the signal is watched
and can still take one, a report. -/
inductive Run.Alarming (watching : Bool) (signal : Signal Failure) (history : List Occurrence) :
    Prop where
  | cancelled : .cancel ∈ history → Alarming watching signal history
  | reported {error : Failure} :
    watching = true → signal ≠ .closed → .report error ∈ history → Alarming watching signal history
  | pending {error : Failure} :
    watching = true → signal = .reported error → Alarming watching signal history

/-- The history of a run up to the last look of a round. -/
def Course.history (course : Course) (earlier : List Round) (round : Round) : List Occurrence :=
  course.init.occurrences ++ earlier.flatMap Round.occurrences ++ round.waits.flatten

namespace Run

variable {client : Client} {parent : Context} {s s' : Surroundings} {course : Course}
  {earlier : List Round} {round : Round} {invocations : List Invocation} {deeds : List Deed}

/-- All that has happened up to the last look of a round shows then. -/
lemma shows_history {occurrence : Occurrence}
    (handles : Handles client parent (loopStart parent s course).1 course.handsSignal
      (loopStart parent s course).2 earlier invocations deeds s')
    (happens : occurrence ∈ course.history earlier round) :
    (s'.afterAll parent round.waits.flatten).Shows parent occurrence := by
  have waits := Surroundings.Leads.afterAll parent s' round.waits.flatten
  rcases List.mem_append.mp happens with before | waiting
  · rcases List.mem_append.mp before with starting | handling
    · have shown := Surroundings.shows_afterAll starting parent s
      exact waits.shows (handles.leads.shows ((leads_loopStart parent s course).shows shown))
    · exact waits.shows (handles.shows handling)
  · exact Surroundings.shows_afterAll waiting parent s'

/-- At the last look of a round an alarm shows if something has been alarming up to then. -/
lemma alarms_of_alarming
    (handles : Handles client parent (loopStart parent s course).1 course.handsSignal
      (loopStart parent s course).2 earlier invocations deeds s')
    (h : Alarming course.handsSignal s.signal (course.history earlier round)) :
    ∃ e, Alarms parent course.handsSignal (s'.afterAll parent round.waits.flatten) e := by
  have leads : s.Leads (s'.afterAll parent round.waits.flatten) :=
    (Surroundings.Leads.afterAll parent s _).trans <| (leads_loopStart parent s course).trans <|
      handles.leads.trans <| Surroundings.Leads.afterAll parent s' _
  cases h with
  | cancelled happens => exact Alarms.of_stopped (shows_history handles happens)
  | reported watches notClosed happens =>
    obtain ⟨first, reported⟩ :=
      Surroundings.reported_of_shows (shows_history handles happens) (leads.not_closed notClosed)
    exact Alarms.of_reported watches reported
  | pending watches reported => exact Alarms.of_reported watches (leads.reported reported)

/-- The race that comes after an alarm, or has one, is not decided by its poll. -/
lemma loopEndsOn_of_alarming {later : List Round} (rounds : course.rounds = earlier ++ round :: later)
    (handles : Handles client parent (loopStart parent s course).1 course.handsSignal
      (loopStart parent s course).2 earlier invocations deeds s')
    (h : Alarming course.handsSignal s.signal (course.history earlier round)) :
    ∃ e, e.IsAlarm ∧ LoopEndsOn client parent s course (.error e) := by
  obtain ⟨_, alarms⟩ := alarms_of_alarming handles h
  obtain ⟨e, look, ends⟩ := exists_alarm alarms round.poll
  refine ⟨e, ?_, ?_⟩
  · cases ends with
    | alarm _ _ shown => exact shown.isAlarm
  · unfold LoopEndsOn
    rw [rounds]
    exact ⟨_, _, .after handles (.alarm ends)⟩

end Run

/-! ## The outcome -/

open Run in
/-- What comes of a run, by what its loop ends on. -/
structure HasOutcome (r : Registering) (env : Environment) (program : String) (parent : Context)
    (s : Surroundings) (course : Course) : Prop where
  /-- The run succeeds if and only if every part of it does. -/
  ok_iff : (∃ deeds, r.run env program parent s course = some ⟨.ok (), deeds⟩) ↔
    ∃ client details, r.Registers env program parent s course client ∧
      course.init.result = .ok () ∧ LoopEndsOn client parent s course (.ok details) ∧
      course.shutdown.result = .ok ()
  of_unregistered : ∀ e, (r.register env program (s.stop? parent) course.register).1 = .error e →
    ∃ run, r.run env program parent s course = some run ∧ run.result = .error (.register e) ∧
      run.shutdowns = []
  of_uninitialised : ∀ client cause, r.Registers env program parent s course client →
    course.init.result = .error cause →
    ∃ run, r.run env program parent s course = some run ∧ run.result = .error (.init cause) ∧
      run.shutdowns = [(.extensionError, some (.init cause))]
  /-- The extension is told the error that ended the loop, and the run returns it, however the
  extension shuts down. -/
  of_error : ∀ client e, r.Registers env program parent s course client →
    course.init.result = .ok () → LoopEndsOn client parent s course (.error e) →
    ∃ run, r.run env program parent s course = some run ∧ run.result = .error e ∧
      run.shutdowns = [(.extensionError, some e)]
  /-- After a loop that ended well the extension is told the reason of the platform and no error, and
  the run fails only if the extension cannot shut down. -/
  of_shutdown : ∀ client details, r.Registers env program parent s course client →
    course.init.result = .ok () → LoopEndsOn client parent s course (.ok details) →
    ∃ run, r.run env program parent s course = some run ∧
      run.result = course.shutdown.result.mapError .shutdown ∧
      run.shutdowns = [(details.reason, none)]
  /-- The run is endless only if its loop is. -/
  endless_iff : r.run env program parent s course = none ↔
    ∃ client, r.Registers env program parent s course client ∧ course.init.result = .ok () ∧
      ∀ result, ¬LoopEndsOn client parent s course result
  /-- In each race the stop of the context comes first, then a signalled error, then the poll. -/
  races : ∀ (poll : Option PollEnd) (waits : List (List Occurrence)) (before after : Surroundings)
      (winner : Except RunError PollEnd),
    race parent course.handsSignal poll before waits = some (winner, after) ↔
      RaceEnds parent course.handsSignal poll before waits winner after
  /-- Whatever the poll of a round would have given: if something has happened before its last look
  that ends the loop, the run fails with it. -/
  of_alarming : ∀ client earlier round later invocations deeds s',
    r.Registers env program parent s course client → course.init.result = .ok () →
    course.rounds = earlier ++ round :: later →
    Handles client parent (loopStart parent s course).1 course.handsSignal
      (loopStart parent s course).2 earlier invocations deeds s' →
    Alarming course.handsSignal s.signal (course.history earlier round) →
    ∃ run e, r.run env program parent s course = some run ∧ run.result = .error e ∧ e.IsAlarm

/-- Every run has the outcome that its parts give it. -/
theorem run_hasOutcome (r : Registering) (env : Environment) (program : String) (parent : Context)
    (s : Surroundings) (course : Course) : HasOutcome r env program parent s course := by
  constructor
  case ok_iff => exact Registering.run_ok_iff
  case endless_iff => exact Registering.run_eq_none_iff
  case of_unregistered =>
    intro e h
    exact ⟨_, Registering.run_of_unregistered h, rfl, Run.shutdowns_calls _⟩
  case of_uninitialised =>
    intro client cause registers h
    exact Registering.run_of_uninitialised registers h
  case of_error =>
    intro client e registers init h
    exact Registering.run_of_loop_error registers init h
  case of_shutdown =>
    intro client details registers init h
    exact Registering.run_of_loop_ok registers init h
  case races => exact fun poll waits before after winner => Run.race_eq_some_iff
  case of_alarming =>
    intro client earlier round later invocations deeds s' registers init rounds handles alarming
    obtain ⟨e, isAlarm, ends⟩ := Run.loopEndsOn_of_alarming rounds handles alarming
    obtain ⟨run, ran, result, _⟩ := Registering.run_of_loop_error registers init ends
    exact ⟨run, e, ran, result, isAlarm⟩

end Sidecar
