import Sidecar.Proofs.Lifecycle.Order
import Sidecar.Proofs.Receiver.Marks
import Sidecar.Proofs.Receiver.Steps
import Sidecar.Stream.Telemetry

/-!
# Failures of the processor

A call of the processor that fails is reported at once (`report_of_failed`). The run looks for reports
while it polls, and for the last time when the poll gives its event: a failure up to then makes the
run fail. Events that are processed after that, while the receiver shuts down, may fail as well, and
nobody looks any more (`FailuresShow`).
-/

namespace Sidecar

variable {ε : Type} {decode : List UInt8 → Except DecodeError ε}

namespace Receiver

/-- A call of the processor has failed. -/
def Fails (beats : List (Beat ε)) : Prop :=
  ∃ cause, .move (.processed (.error cause)) ∈ beats

variable {r r' : Receiver ε} {beats : List (Beat ε)} {groups : List (List (Beat ε))}
  {seen : List Occurrence} {waits : List (List Occurrence)} {cause : Failure}

/-- A call of the processor that fails is reported, as the only error of that move. -/
lemma reports_of_failed (h : r.step? decode (.processed (.error cause)) = some r') :
    (r'.marks.drop r.marks.length).filterMap Mark.report? =
      [(ReceiverError.process cause).failure] := by
  cases steps_of_step? h with
  | fail _ => simp [Receiver.report, Receiver.mark, Mark.report?]
  | serverEnds _ ends _ => cases ends

/-- The run sees the report of a failure. -/
lemma report_of_failed (h : r.follow? decode beats = some (r', seen))
    (fails : .move (.processed (.error cause)) ∈ beats) :
    .report (ReceiverError.process cause).failure ∈ seen := by
  induction beats generalizing r seen with
  | nil => cases fails
  | cons beat beats ih =>
    cases beat with
    | other occurrence =>
      obtain ⟨⟨r'', later⟩, followed, same⟩ := Option.map_eq_some_iff.mp h
      cases same
      rcases List.mem_cons.mp fails with first | fails
      · cases first
      · exact List.mem_cons_of_mem _ (ih followed fails)
    | move m =>
      simp only [follow?] at h
      split at h
      · cases h
      · simp only [Option.bind_eq_bind, Option.bind_eq_some_iff] at h
        obtain ⟨after, stepped, ⟨r'', later⟩, followed, same⟩ := h
        cases same
        rcases List.mem_cons.mp fails with first | fails
        · cases first
          rw [reports_of_failed stepped]
          exact List.mem_cons_self ..
        · exact List.mem_append_right _ (ih followed fails)

/-- So a failure among several moves is among the reports that the run may see. -/
lemma report_of_failed_groups (h : r.followGroups? decode groups = some (r', waits))
    (fails : .move (.processed (.error cause)) ∈ groups.flatten) :
    .report (ReceiverError.process cause).failure ∈ waits.flatten := by
  induction groups generalizing r waits with
  | nil => cases fails
  | cons group groups ih =>
    simp only [followGroups?, Option.bind_eq_bind, Option.bind_eq_some_iff] at h
    obtain ⟨⟨next, seen⟩, first, ⟨last, later⟩, rest, same⟩ := h
    cases same
    rw [List.flatten_cons]
    rcases List.mem_append.mp fails with now | fails
    · exact List.mem_append_left _ (report_of_failed first now)
    · exact List.mem_append_right _ (ih rest fails)

end Receiver

/-! ## Runs of a receiver -/

namespace Plan

/-- What happens up to the last look of the run. -/
def watched (plan : Plan ε) : List (Receiver.Beat ε) := plan.starting ++ plan.waits.flatten

/-- What happens when the run does not look any more. -/
def unwatched (plan : Plan ε) : List (Receiver.Beat ε) := plan.ending ++ plan.stopping

variable {plan : Plan ε} {r r' : Receiver ε} {course : Course}

/-- The course of a plan, as far as the run looks at its signal and the result of its shutdown. -/
lemma of_course? (h : plan.course? decode r = some (course, r')) :
    ∃ (r₁ r₂ r₃ : Receiver ε) (waits : List (List Occurrence)) (handler : Callback)
      (stopped : Except ReceiverError Unit),
      r₁.follow? decode plan.starting = some (r₂, course.init.occurrences) ∧
      r₂.followGroups? decode plan.waits = some (r₃, waits) ∧
      course.handsSignal = true ∧ course.rounds = [⟨waits, plan.poll, handler⟩] ∧
      r'.lastReturn? = some stopped ∧
      course.shutdown.result = ReceiverError.asCallback stopped := by
  simp only [course?, Option.bind_eq_bind, Option.bind_eq_some_iff] at h
  obtain ⟨r₁, _, result, _, ⟨r₂, starting⟩, followed, ⟨r₃, waits⟩, waited, ⟨r₄, ending⟩, _,
    r₅, _, ⟨r₆, stopping⟩, _, rest⟩ := h
  split at rest
  · cases rest
  · obtain ⟨stopped, returned, same⟩ := Option.bind_eq_some_iff.mp rest
    cases same
    exact ⟨r₁, r₂, r₃, waits, _, stopped, followed, waited, rfl, rfl, returned, rfl⟩

end Plan

section

variable {registering : Registering} {env : Environment} {program : String} {parent : Context}
  {s : Surroundings} {course : Course} {plan : Plan ε} {r r' : Receiver ε}

/-- An alarm in the first round makes the run fail, unless it has failed before. -/
lemma Registering.fails_of_alarming {round : Round} {later : List Round}
    (rounds : course.rounds = round :: later)
    (alarming : Run.Alarming course.handsSignal s.signal (course.history [] round)) :
    ∃ run e, registering.run env program parent s course = some run ∧ run.result = .error e := by
  cases registering.begins env program parent s course with
  | unregistered failed => exact ⟨_, _, run_of_unregistered failed, rfl⟩
  | uninitialised registers failed =>
    obtain ⟨run, ran, failed, _⟩ := run_of_uninitialised registers failed
    exact ⟨run, _, ran, failed⟩
  | @initialised client registers init =>
    have rounds : course.rounds = [] ++ round :: later := rounds
    obtain ⟨e, _, ends⟩ : ∃ e, e.IsAlarm ∧ Run.LoopEndsOn client parent s course (.error e) :=
      Run.loopEndsOn_of_alarming rounds .nil alarming
    obtain ⟨run, ran, failed, _⟩ := run_of_loop_error registers init ends
    exact ⟨run, e, ran, failed⟩

/-- A failure before the last look of the run alarms it, if its signal is open. -/
lemma Plan.alarming_of_fails (h : plan.course? decode r = some (course, r'))
    (isOpen : s.signal ≠ .closed) (fails : Receiver.Fails plan.watched) :
    ∃ round, course.rounds = [round] ∧
      Run.Alarming course.handsSignal s.signal (course.history [] round) := by
  obtain ⟨r₁, r₂, r₃, waits, handler, stopped, followed, waited, hands, rounds, _⟩ := of_course? h
  obtain ⟨cause, fails⟩ := fails
  have reported : .report (ReceiverError.process cause).failure ∈
      course.init.occurrences ++ waits.flatten := by
    rcases List.mem_append.mp fails with starting | waiting
    · exact List.mem_append_left _ (Receiver.report_of_failed followed starting)
    · exact List.mem_append_right _ (Receiver.report_of_failed_groups waited waiting)
  have happens : .report (ReceiverError.process cause).failure ∈
      course.history [] ⟨waits, plan.poll, handler⟩ := by
    rw [Course.history, List.flatMap_nil, List.append_nil]
    exact reported
  exact ⟨_, rounds, .reported hands isOpen happens⟩

/-- What failures of the processor come to in the run of a receiver. -/
structure FailuresShow (registering : Registering) (env : Environment) (program : String)
    (parent : Context) (s : Surroundings) (plan : Plan ε) (course : Course) (r' : Receiver ε) :
    Prop where
  /-- A failure before the last look makes the run fail. -/
  watched : Receiver.Fails plan.watched →
    ∃ run e, registering.run env program parent s course = some run ∧ run.result = .error e
  /-- After the event that shuts down only the result of shutting down counts, whatever else has failed
  by then: the run returns nothing else, and the processor is not told of anything else. -/
  unwatched : ∀ client details stopped,
    registering.Registers env program parent s course client → course.init.result = .ok () →
    Run.LoopEndsOn client parent s course (.ok details) → r'.lastReturn? = some stopped →
    ∃ run, registering.run env program parent s course = some run ∧
      run.result = (ReceiverError.asCallback stopped).mapError .shutdown ∧
      run.shutdowns = [(details.reason, none)]

/-- Failures show in the result of a run as long as it looks, and no longer. -/
theorem failures_show (h : plan.course? decode r = some (course, r')) (isOpen : s.signal ≠ .closed) :
    FailuresShow registering env program parent s plan course r' := by
  constructor
  case watched =>
    intro fails
    obtain ⟨round, rounds, alarming⟩ := plan.alarming_of_fails h isOpen fails
    exact Registering.fails_of_alarming rounds alarming
  case unwatched =>
    intro client details stopped registers init ends returned
    obtain ⟨_, _, _, _, _, stopped', _, _, _, _, returned', shutdown⟩ := Plan.of_course? h
    cases returned.symm.trans returned'
    obtain ⟨run, ran, result, told⟩ := Registering.run_of_loop_ok registers init ends
    rw [shutdown] at result
    exact ⟨run, ran, result, told⟩

end

/-! ## A failure in time, and one that comes too late -/

/-- A batch with one line of the function. -/
def lineBatch : List UInt8 :=
  Utf8.encode ("[\x7b\"time\":\"2022-10-12T00:00:00Z\",\"type\":\"function\"," ++
    "\"record\":\"line\"\x7d]")

/-- The batch has been answered and its event given to the processor before the poll gives the event
that shuts down. Then the processor fails. -/
def lateFailure : Plan (Stamped Telemetry.Record) where
  register := .telling Registration.codec ⟨"function", "1", "handler", ""⟩
  startup := ⟨.ok (), some 8080, .ok ()⟩
  starting := []
  initReport := .lost
  waits :=
    [[.move (.request "POST"), .move (.body (some (.chunk lineBatch))), .move .handle,
      .move .handle, .move .handle, .move (.body none), .move .take]]
  poll := some (.exchanged (.telling Event.codec (.shutdown ⟨.spindown, 2000⟩)))
  ending := []
  stopping :=
    [.move (.processed (.error (.plain "full"))), .move .serverStops, .move .workerEnds,
      .move .joined, .move (.processorStops (.ok ()))]
  exitReport := .lost

/-- The same, but the processor fails while the run still looks. -/
def earlyFailure : Plan (Stamped Telemetry.Record) :=
  { lateFailure with
    waits := lateFailure.waits ++ [[.move (.processed (.error (.plain "full")))]]
    stopping := lateFailure.stopping.tail }

/-- The run of a plan for telemetry: what it returns, and what the receiver is told. -/
def Plan.outcome? (plan : Plan (Stamped Telemetry.Record)) :
    Option (Except RunError Unit × List (ShutdownReason × Option RunError)) := do
  let options : ReceiverOptions := { registering := { address := some "host" } }
  let (course, _) ← plan.course? Telemetry.family.decode options.receiver
  let run ← options.registration.run [] "sidecar" ⟨⟨0, []⟩, none⟩ ⟨0, ⟨1, []⟩, .silent⟩ course
  return (run.result, run.shutdowns)

/-- A failure while the run looks is what it returns, and what the receiver is told. -/
theorem failures_show_early :
    ∃ course r', earlyFailure.course? Telemetry.family.decode { address := "host:0" } =
        some (course, r') ∧
      Receiver.Fails earlyFailure.watched ∧
      FailuresShow { address := some "host" } [] "sidecar" ⟨⟨0, []⟩, none⟩ ⟨0, ⟨1, []⟩, .silent⟩
        earlyFailure course r' ∧
      let error := RunError.signaled (ReceiverError.process (.plain "full")).failure
      earlyFailure.outcome? = some (.error error, [(.extensionError, some error)]) := by
  obtain ⟨⟨course, r'⟩, planned⟩ : ∃ found,
      earlyFailure.course? Telemetry.family.decode { address := "host:0" } = some found :=
    Option.isSome_iff_exists.mp (by decide +kernel)
  have fails : Receiver.Fails earlyFailure.watched :=
    ⟨.plain "full", List.mem_append_right _ (List.mem_append_right _ (List.mem_singleton_self _))⟩
  exact ⟨course, r', planned, fails, failures_show planned nofun, by decide +kernel⟩

/-- A failure that comes too late is lost: a call of the processor has failed, and the run succeeds. -/
theorem lateFailure_is_lost :
    Receiver.Fails (lateFailure.watched ++ lateFailure.unwatched) ∧
      lateFailure.outcome? = some (.ok (), [(.spindown, none)]) :=
  ⟨⟨.plain "full", List.mem_append_right _ (List.mem_cons_self ..)⟩, by decide +kernel⟩

end Sidecar
