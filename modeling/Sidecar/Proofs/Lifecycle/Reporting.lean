import Sidecar.Proofs.Client.Conversation
import Sidecar.Proofs.Lifecycle.Order
import Sidecar.Proofs.Lifecycle.Scoping

/-!
# What a run reports

A run that fails after it has registered sends one report, as long as its context goes on and the deadline
of the event that shut it down has not passed; after that it sends none. What comes of the report changes
nothing (`ReportsFailures`). So a run that has failed since its context was cancelled is never reported:
the context of the report lies inside the cancelled one.
-/

namespace Sidecar

namespace Run

/-- The reports that a run sends. -/
def reports (run : Run) : List Deed := run.deeds.filter Deed.isReport

/-- In a context that has stopped nothing is reported. -/
lemma reportDeeds_of_stopped (call : Call Acknowledgement) (stop : Stop) (exchange : Exchange) :
    reportDeeds call (some stop) exchange = [] := rfl

/-- Otherwise a report is made if it can be written. -/
lemma reportDeeds_of_sendable {call : Call Acknowledgement} (sendable : call.request.isSendable = true)
    (exchange : Exchange) : reportDeeds call none exchange = [.call call.request] := by
  simp only [reportDeeds, Call.perform, sendable, if_true]
  rfl

/-- What comes of a report changes nothing. -/
lemma reportDeeds_eq (call : Call Acknowledgement) (stopped : Option Stop)
    (exchange exchange' : Exchange) :
    reportDeeds call stopped exchange = reportDeeds call stopped exchange' := by
  unfold reportDeeds Call.perform
  split
  · rfl
  · split <;> rfl

/-! ## When a run can report -/

/-- Whether the error of a run whose loop has ended can still be reported: the context of the run goes on,
and the deadline of the event that shut the extension down has not passed. -/
def CanReport (parent : Context) (s : Surroundings) : Except RunError Shutdown → Prop
  | .ok details => s.stop? parent = none ∧ s.now < details.deadlineMs.toInt
  | .error _ => s.stop? parent = none

/-- The surroundings in which the extension is shut down after its loop. -/
def shuttingDown (parent loopContext : Context) (course : Course) (s : Surroundings) : Surroundings :=
  Surroundings.afterAll parent { s with scopes := loopContext.cancel s.scopes } course.shutdown.before

variable {parent loopContext : Context} {course : Course} {s s' : Surroundings}
  {result : Except RunError Shutdown}

/-- What the loop cancels at its end is its own context, which the context of the run does not lie in. -/
lemma alike_shuttingDown (course : Course) (s s' : Surroundings)
    (apart : loopContext.scope.number ∉ parent.scope.numbers)
    (made : s'.scopes.cancelled = (shuttingDown parent loopContext course s).scopes.cancelled)
    (now_eq : s'.now = (shuttingDown parent loopContext course s).now) :
    Surroundings.Alike parent (s'.afterAll parent course.shutdown.meanwhile)
      (s.afterAll parent course.shutdown.occurrences) := by
  have ended : Surroundings.Alike parent { s with scopes := loopContext.cancel s.scopes } s :=
    (Surroundings.Alike.refl parent s).cancel apart
  have before := ended.afterAll parent course.shutdown.before
  have derived : Surroundings.Alike parent s' (s.afterAll parent course.shutdown.before) := by
    refine ⟨now_eq.trans before.now_eq, fun number mem => ?_⟩
    rw [made]
    exact before.cancelled_iff number mem
  have closing := derived.afterAll parent course.shutdown.meanwhile
  rwa [← Surroundings.afterAll_append] at closing

/-- The context in which the extension is shut down has not stopped when the report is due, if and only if
the run can report. -/
lemma stop?_shutdownTerms (holds : (shuttingDown parent loopContext course s).scopes.Holds parent)
    (apart : loopContext.scope.number ∉ parent.scope.numbers) (result : Except RunError Shutdown) :
    (((shutdownTerms parent (shuttingDown parent loopContext course s) result).2.2.afterAll parent
        course.shutdown.meanwhile).stop?
      (shutdownTerms parent (shuttingDown parent loopContext course s) result).2.1 = none) ↔
      CanReport parent (s.afterAll parent course.shutdown.occurrences) result := by
  cases result with
  | error e =>
    have alike := alike_shuttingDown course s
      ((shuttingDown parent loopContext course s).derive parent.child).2 apart rfl rfl
    have meanwhile := Surroundings.Ages.afterAll parent
      ((shuttingDown parent loopContext course s).derive parent.child).2 course.shutdown.meanwhile
    have fresh := meanwhile.next_not_cancelled holds rfl (Nat.lt_succ_self _)
    refine (Context.stop?_child_eq_none_iff fresh).trans ?_
    rw [CanReport, ← alike.stop?_eq]
    exact Iff.rfl
  | ok details =>
    have alike := alike_shuttingDown course s
      ((shuttingDown parent loopContext course s).derive
        (parent.childUntil details.deadlineMs.toInt)).2 apart rfl rfl
    have meanwhile := Surroundings.Ages.afterAll parent
      ((shuttingDown parent loopContext course s).derive
        (parent.childUntil details.deadlineMs.toInt)).2 course.shutdown.meanwhile
    have fresh := meanwhile.next_not_cancelled holds rfl (Nat.lt_succ_self _)
    refine (Context.stop?_childUntil_eq_none_iff fresh).trans ?_
    rw [CanReport, ← alike.stop?_eq, ← alike.now_eq]
    exact Iff.rfl

/-! ## The reports of a run -/

variable {r : Registering} {env : Environment} {program : String} {client : Client}
  {watching : Bool} {rounds : List Round} {deeds : List Deed}

/-- A report that is made counts as one. -/
lemma filter_reportDeeds {call : Call Acknowledgement} (stopped : Option Stop) (exchange : Exchange)
    (report : (Deed.call call.request).isReport = true) :
    (reportDeeds call stopped exchange).filter Deed.isReport = reportDeeds call stopped exchange := by
  unfold reportDeeds
  rcases call.sent_perform stopped exchange with unsent | sent
  · rw [unsent]
    rfl
  · rw [sent]
    exact List.filter_cons_of_pos report

/-- The loop reports nothing by itself. -/
lemma LoopEnds.reports (h : LoopEnds client parent loopContext watching s rounds result deeds s') :
    deeds.filter Deed.isReport = [] := by
  cases h with
  | after handles ends =>
    rw [List.filter_append, handles.handlings.reports, ends.lastRound.reports]
    rfl

/-- Registering is no report. -/
lemma reports_calls (registers : r.Registers env program parent s course client) (deeds : List Deed) :
    (r.calls env program parent s course ++ deeds).filter Deed.isReport =
      deeds.filter Deed.isReport := by
  obtain ⟨address, _, calls⟩ := Registering.calls_of_registers registers
  rw [calls]
  exact reports_cons_register ..

/-- A run whose extension is not initialised reports this first of all. -/
lemma reports_of_uninitialised {cause : Failure}
    (registers : r.Registers env program parent s course client)
    (failed : course.init.result = .error cause) :
    ∃ run, r.run env program parent s course = some run ∧ run.result = .error (.init cause) ∧
      run.reports = reportDeeds (client.initError initErrorType cause.text)
        ((s.afterAll parent course.init.occurrences).stop? parent) course.initReport := by
  refine ⟨_, Registering.run_eq_of_uninitialised registers failed, rfl, ?_⟩
  have report : (Deed.call (client.initError initErrorType cause.text).request).isReport = true := rfl
  rw [reports, reports_calls registers]
  refine (List.filter_append ..).trans ?_
  rw [filter_reportDeeds _ _ report]
  exact List.append_nil _

/-- A run whose loop has ended reports its error last of all. -/
lemma reports_of_loopEnds (registers : r.Registers env program parent s course client)
    (init : course.init.result = .ok ())
    (ends : LoopEnds client parent (loopStart parent s course).1 course.handsSignal
      (loopStart parent s course).2 course.rounds result deeds s') :
    ∃ run, r.run env program parent s course = some run ∧
      run.result = verdict result course.shutdown.result ∧
      run.reports = match verdict result course.shutdown.result with
        | .error e =>
          reportDeeds (client.exitError exitErrorType e.failure.text)
            (((shutdownTerms parent
                (shuttingDown parent (loopStart parent s course).1 course s') result).2.2.afterAll
              parent course.shutdown.meanwhile).stop?
              (shutdownTerms parent
                (shuttingDown parent (loopStart parent s course).1 course s') result).2.1)
            course.exitReport
        | .ok () => [] := by
  refine ⟨_, Registering.run_eq_of_loopEnds registers init ends, rfl, ?_⟩
  rw [reports, reports_calls registers]
  have looped : (.init :: .takeSignal :: deeds).filter Deed.isReport = [] := ends.reports
  refine (reports_append_shutdown (.init :: .takeSignal :: deeds) _ _ _ _ _).trans ?_
  rw [looped, List.nil_append]
  cases verdict result course.shutdown.result with
  | ok _ => rfl
  | error e => exact filter_reportDeeds _ _ rfl

/-- The scopes hold when the extension is shut down, and the loop has cancelled none that the context of
the run lies in. -/
lemma holds_shuttingDown (holds : s.scopes.Holds parent)
    (ends : LoopEnds client parent (loopStart parent s course).1 watching
      (loopStart parent s course).2 rounds result deeds s') :
    (shuttingDown parent (loopStart parent s course).1 course s').scopes.Holds parent ∧
      (loopStart parent s course).1.scope.number ∉ parent.scope.numbers := by
  have init := Surroundings.Ages.afterAll parent s course.init.occurrences
  have derived := Surroundings.Ages.derive_child parent parent
    (s.afterAll parent course.init.occurrences)
  have given := Nat.lt_of_lt_of_le
    (Nat.lt_succ_self (s.afterAll parent course.init.occurrences).scopes.next) ends.ages.next_le
  have looped := (derived.trans ends.ages).cancel (c := (loopStart parent s course).1)
    (Nat.le_refl _) given
  have ages := init.trans (looped.trans (.afterAll parent _ course.shutdown.before))
  refine ⟨ages.holds holds, fun own => ?_⟩
  exact Nat.lt_irrefl _ ((init.holds holds).numbers_lt _ own)

/-- What the platform answers to a report changes nothing about a run that is not initialised. -/
lemma afterInitFailure_initReport (client : Client) (parent : Context) (s : Surroundings)
    (course : Course) (cause : Failure) (initReport exitReport : Exchange) :
    afterInitFailure client parent s { course with initReport, exitReport } cause =
      afterInitFailure client parent s course cause := by
  unfold afterInitFailure
  rw [reportDeeds_eq _ _ initReport course.initReport]

/-- It changes nothing either about a run whose loop has ended. -/
lemma afterLoop_exitReport (client : Client) (parent loopContext : Context) (course : Course)
    (ending : LoopEnd) (initReport exitReport : Exchange) :
    afterLoop client parent loopContext { course with initReport, exitReport } ending =
      afterLoop client parent loopContext course ending := by
  unfold afterLoop
  simp only
  cases verdict ending.result course.shutdown.result with
  | ok _ => rfl
  | error e => simp only [reportDeeds_eq _ _ exitReport course.exitReport]

end Run

/-- What comes of a report changes nothing. -/
lemma Registering.run_exchanges {r : Registering} {env : Environment} {program : String}
    {parent : Context} {s : Surroundings} {course : Course} {client : Client}
    (registers : r.Registers env program parent s course client) (initReport exitReport : Exchange) :
    r.run env program parent s { course with initReport, exitReport } =
      r.run env program parent s course := by
  have registers' :
      r.Registers env program parent s { course with initReport, exitReport } client := registers
  rw [run_of_registers registers, run_of_registers registers']
  refine congrArg _ ?_
  cases init : course.init.result with
  | error cause =>
    have init' : { course with initReport, exitReport }.init.result = .error cause := init
    rw [Run.ofClient_of_error init, Run.ofClient_of_error init']
    simp only [Run.afterInitFailure_initReport]
  | ok _ =>
    have init' : { course with initReport, exitReport }.init.result = .ok () := init
    rw [Run.ofClient_of_ok init, Run.ofClient_of_ok init']
    simp only [Run.afterLoop_exitReport]
    rfl

/-! ## Failures are reported while the run goes on -/

/-- What a run that has registered reports of its failures. -/
structure ReportsFailures (r : Registering) (env : Environment) (program : String) (parent : Context)
    (s : Surroundings) (course : Course) (client : Client) : Prop where
  init_reported : ∀ cause, course.init.result = .error cause →
    (s.afterAll parent course.init.occurrences).stop? parent = none →
    ∃ run, r.run env program parent s course = some run ∧ run.result = .error (.init cause) ∧
      run.reports = [.call (client.initError Run.initErrorType cause.text).request]
  init_unreported : ∀ cause, course.init.result = .error cause →
    (s.afterAll parent course.init.occurrences).stop? parent ≠ none →
    ∃ run, r.run env program parent s course = some run ∧ run.result = .error (.init cause) ∧
      run.reports = []
  exit_reported : ∀ result deeds s' e, course.init.result = .ok () →
    Run.LoopEnds client parent (Run.loopStart parent s course).1 course.handsSignal
      (Run.loopStart parent s course).2 course.rounds result deeds s' →
    Run.verdict result course.shutdown.result = .error e →
    Run.CanReport parent (s'.afterAll parent course.shutdown.occurrences) result →
    ∃ run, r.run env program parent s course = some run ∧ run.result = .error e ∧
      run.reports = [.call (client.exitError Run.exitErrorType e.failure.text).request]
  exit_unreported : ∀ result deeds s' e, course.init.result = .ok () →
    Run.LoopEnds client parent (Run.loopStart parent s course).1 course.handsSignal
      (Run.loopStart parent s course).2 course.rounds result deeds s' →
    Run.verdict result course.shutdown.result = .error e →
    ¬Run.CanReport parent (s'.afterAll parent course.shutdown.occurrences) result →
    ∃ run, r.run env program parent s course = some run ∧ run.result = .error e ∧
      run.reports = []
  /-- That the context of the run has stopped is never reported. -/
  stop_unreported : ∀ stop, course.init.result = .ok () →
    Run.LoopEndsOn client parent s course (.error (.stopped stop)) →
    ∃ run, r.run env program parent s course = some run ∧
      run.result = .error (.stopped stop) ∧ run.reports = []
  success_unreported : ∀ run, r.run env program parent s course = some run → run.result = .ok () →
    run.reports = []
  of_exchanges : ∀ initReport exitReport,
    r.run env program parent s { course with initReport, exitReport } =
      r.run env program parent s course

namespace Run

variable {r : Registering} {env : Environment} {program : String} {parent loopContext : Context}
  {s s' : Surroundings} {course : Course} {client : Client} {watching : Bool} {rounds : List Round}
  {deeds : List Deed} {result : Except RunError Shutdown} {e : RunError}

/-- A run that fails after its loop reports the error if a report can be made. -/
lemma reports_of_canReport (registers : r.Registers env program parent s course client)
    (holds : s.scopes.Holds parent) (init : course.init.result = .ok ())
    (ends : LoopEnds client parent (loopStart parent s course).1 course.handsSignal
      (loopStart parent s course).2 course.rounds result deeds s')
    (failed : verdict result course.shutdown.result = .error e)
    (can : CanReport parent (s'.afterAll parent course.shutdown.occurrences) result) :
    ∃ run, r.run env program parent s course = some run ∧ run.result = .error e ∧
      run.reports = [.call (client.exitError exitErrorType e.failure.text).request] := by
  obtain ⟨run, ran, run_result, run_reports⟩ := reports_of_loopEnds registers init ends
  obtain ⟨closing, apart⟩ := holds_shuttingDown holds ends
  rw [failed] at run_reports run_result
  have goesOn := (stop?_shutdownTerms closing apart result).mpr can
  have printable := Registering.isHeaderChar_identifier registers
  have sendable : (client.exitError exitErrorType e.failure.text).request.isSendable = true :=
    (Client.isSendable_report_iff printable).mpr (by decide)
  refine ⟨run, ran, run_result, run_reports.trans ?_⟩
  rw [goesOn]
  exact reportDeeds_of_sendable sendable _

/-- If none can be made it fails without one. -/
lemma reports_of_not_canReport (registers : r.Registers env program parent s course client)
    (holds : s.scopes.Holds parent) (init : course.init.result = .ok ())
    (ends : LoopEnds client parent (loopStart parent s course).1 course.handsSignal
      (loopStart parent s course).2 course.rounds result deeds s')
    (failed : verdict result course.shutdown.result = .error e)
    (cannot : ¬CanReport parent (s'.afterAll parent course.shutdown.occurrences) result) :
    ∃ run, r.run env program parent s course = some run ∧ run.result = .error e ∧
      run.reports = [] := by
  obtain ⟨run, ran, run_result, run_reports⟩ := reports_of_loopEnds registers init ends
  obtain ⟨closing, apart⟩ := holds_shuttingDown holds ends
  rw [failed] at run_reports run_result
  obtain ⟨stop, stopped⟩ := Option.ne_none_iff_exists'.mp
    fun goesOn => cannot ((stop?_shutdownTerms closing apart result).mp goesOn)
  refine ⟨run, ran, run_result, run_reports.trans ?_⟩
  rw [stopped]
  exact reportDeeds_of_stopped ..

/-- A loop that ends since the context of the run has stopped cannot report it: the context does not go on
again. -/
lemma not_canReport_of_stopped {stop : Stop}
    (ends : LoopEnds client parent loopContext watching s rounds (.error (.stopped stop)) deeds s')
    (occurrences : List Occurrence) :
    ¬CanReport parent (s'.afterAll parent occurrences) (.error (.stopped stop)) := by
  intro goesOn
  have stopped : (s'.stop? parent).isSome := by
    cases ends with
    | after _ last =>
      cases last with
      | alarm raced =>
        cases raced with
        | alarm _ _ alarms =>
          cases alarms with
          | stopped stopped => exact Option.isSome_of_eq_some stopped
      | unanswered _ fails => obtain none | ⟨cause, none⟩ := error_of_polled fails <;> cases none
  have later := (Surroundings.Leads.afterAll parent s' occurrences).stop? parent stopped
  rw [goesOn] at later
  cases later

end Run

/-- A run that has registered reports its failure once, unless its context has stopped by then or the
deadline of the event that shut it down has passed. -/
theorem run_reportsFailures (r : Registering) (env : Environment) (program : String) (parent : Context)
    (s : Surroundings) (course : Course) (client : Client)
    (registers : r.Registers env program parent s course client) (holds : s.scopes.Holds parent) :
    ReportsFailures r env program parent s course client := by
  constructor
  case init_reported =>
    intro cause failed goesOn
    obtain ⟨run, ran, result, reports⟩ := Run.reports_of_uninitialised registers failed
    have printable := Registering.isHeaderChar_identifier registers
    have sendable : (client.initError Run.initErrorType cause.text).request.isSendable = true :=
      (Client.isSendable_report_iff printable).mpr (by decide)
    rw [goesOn, Run.reportDeeds_of_sendable sendable] at reports
    exact ⟨run, ran, result, reports⟩
  case init_unreported =>
    intro cause failed stopped
    obtain ⟨run, ran, result, reports⟩ := Run.reports_of_uninitialised registers failed
    obtain ⟨stop, stopped⟩ := Option.ne_none_iff_exists'.mp stopped
    rw [stopped] at reports
    exact ⟨run, ran, result, reports⟩
  case exit_reported =>
    intro result deeds s' e init ends failed can
    exact Run.reports_of_canReport registers holds init ends failed can
  case exit_unreported =>
    intro result deeds s' e init ends failed cannot
    exact Run.reports_of_not_canReport registers holds init ends failed cannot
  case stop_unreported =>
    intro stop init stopped
    -- what stopped the loop stays stopped during the shutdown, so no report can be sent after it
    obtain ⟨deeds, s', ends⟩ := stopped
    have cannot := Run.not_canReport_of_stopped ends course.shutdown.occurrences
    exact Run.reports_of_not_canReport registers holds init ends rfl cannot
  case success_unreported =>
    intro run ran succeeded
    -- a run that is not initialised has failed, so this one came to its loop
    have init : course.init.result = .ok () := by
      cases init : course.init.result with
      | ok _ => rfl
      | error cause =>
        obtain ⟨run', ran', failed, _⟩ := Run.reports_of_uninitialised registers init
        cases ran.symm.trans ran'
        cases succeeded.symm.trans failed
    obtain ⟨result, deeds, s', ends⟩ := Registering.loopEndsOn_of_run registers init ran
    obtain ⟨run', ran', result', reports⟩ := Run.reports_of_loopEnds registers init ends
    cases ran.symm.trans ran'
    rw [← result', succeeded] at reports
    exact reports
  case of_exchanges =>
    intro initReport exitReport
    exact Registering.run_exchanges registers initReport exitReport

/-- A course with one invocation, whose callback fails. -/
def Course.failedOnce : Course :=
  { Course.invokedOnce with
    rounds := Course.invokedOnce.rounds.map fun round =>
      { round with handler.result := .error (.plain "broken") } }

/-- A callback fails, and the context of the run goes on. -/
theorem run_reportsFailures_handler :
    ∃ client, Registering.Registers { address := some "host" } [] "sidecar" ⟨⟨0, []⟩, none⟩
        ⟨0, ⟨1, []⟩, .silent⟩ .failedOnce client ∧
      Scopes.Holds ⟨1, []⟩ ⟨⟨0, []⟩, none⟩ ∧
      ReportsFailures { address := some "host" } [] "sidecar" ⟨⟨0, []⟩, none⟩
        ⟨0, ⟨1, []⟩, .silent⟩ .failedOnce client ∧
      ((Registering.run { address := some "host" } [] "sidecar" ⟨⟨0, []⟩, none⟩
        ⟨0, ⟨1, []⟩, .silent⟩ .failedOnce).map fun run => (run.result, run.reports.length)) =
          some (.error (.invoke (.plain "broken")), 1) := by
  have holds : Scopes.Holds ⟨1, []⟩ ⟨⟨0, []⟩, none⟩ :=
    ⟨nofun, List.forall_mem_singleton.mpr Nat.one_pos⟩
  obtain ⟨client, registers⟩ : ∃ client, Registering.Registers { address := some "host" } [] "sidecar"
      ⟨⟨0, []⟩, none⟩ ⟨0, ⟨1, []⟩, .silent⟩ .failedOnce client := by
    have registered : (Registering.register { address := some "host" } [] "sidecar" none
        Course.failedOnce.register).1.isOk = true := by decide +kernel
    cases answer : (Registering.register { address := some "host" } [] "sidecar" none
        Course.failedOnce.register).1 with
    | ok client => exact ⟨client, answer⟩
    | error e =>
      rw [answer] at registered
      cases registered
  exact ⟨client, registers, holds, run_reportsFailures _ _ _ _ _ _ _ registers holds,
    by decide +kernel⟩

/-- A course in which the context of the run is cancelled while a poll waits. -/
def Course.cancelledOnce : Course :=
  { Course.invokedOnce with rounds := [⟨[[.cancel]], none, .quiet⟩] }

/-- A run that has registered and is cancelled fails without a report. -/
theorem cancellation_is_unreported :
    ((Registering.run { address := some "host" } [] "sidecar" ⟨⟨0, []⟩, none⟩
      ⟨0, ⟨1, []⟩, .silent⟩ .cancelledOnce).map fun run => (run.result, run.reports)) =
        some (.error (.stopped .cancelled), []) := by
  decide +kernel

end Sidecar
