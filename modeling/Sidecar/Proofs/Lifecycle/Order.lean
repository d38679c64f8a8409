import Mathlib.Data.List.Chain
import Sidecar.Proofs.Client.Conversation
import Sidecar.Proofs.Lifecycle.Outcome

/-!
# The order of a run

A run does one of three things: it fails to register and does nothing else; it is not initialised,
perhaps reports this, and is shut down; or it polls and handles, round after round, until its loop
ends, is shut down, and perhaps reports why (`IsLifecycle`). What may come after what follows from
this (`InOrder`).
-/

namespace Sidecar

/-! ## Calls that are made or not -/

/-- The deeds are a call or, if it could not be made, nothing. -/
inductive MayCall (request : Request) : List Deed → Prop where
  | unsent : MayCall request []
  | sent : MayCall request [.call request]

/-- A call that is performed is made or not. -/
lemma MayCall.of_perform {α : Type} (call : Call α) (stopped : Option Stop) (exchange : Exchange) :
    MayCall call.request ((call.perform stopped exchange).2.map Deed.call).toList := by
  rcases call.sent_perform stopped exchange with unsent | sent
  · rw [unsent]
    exact .unsent
  · rw [sent]
    exact .sent

/-- Whether a run with this error has failed before its loop. -/
def RunError.isEarly : RunError → Bool
  | .register _ => true
  | .init _ => true
  | _ => false

namespace Deed

/-- Whether an error is reported. -/
def isReport : Deed → Bool
  | .call request =>
    request.path = "/2020-01-01/extension/init/error" ||
      request.path = "/2020-01-01/extension/exit/error"
  | _ => false

/-- Which deed may come right after another one. -/
inductive Follows : Deed → Deed → Prop where
  | init {request : Request} : Follows (.call request) .init
  | initError {request : Request} : Follows .init (.call request)
  | uninitialised {reason : ShutdownReason} {context : Context} {stopped : Option Stop}
    {error : Option RunError} : Follows .init (.shutdown reason context stopped error)
  | afterInitError {request : Request} {reason : ShutdownReason} {context : Context}
    {stopped : Option Stop} {error : Option RunError} :
    Follows (.call request) (.shutdown reason context stopped error)
  | takeSignal : Follows .init .takeSignal
  | firstPoll {context : Context} {stopped : Option Stop} :
    Follows .takeSignal (.poll context stopped)
  | invoke {context inner : Context} {stopped stopped' : Option Stop} {invocation : Invocation} :
    Follows (.poll context stopped) (.invoke invocation inner stopped')
  | handled {invocation : Invocation} {context : Context} {stopped stopped' : Option Stop}
    {failure : Option Failure} :
    Follows (.invoke invocation context stopped) (.handled failure stopped')
  /-- Only after a callback that has not failed there is another poll. -/
  | nextPoll {context : Context} {stopped stopped' : Option Stop} :
    Follows (.handled none stopped) (.poll context stopped')
  | unhandled {cause : Failure} {reason : ShutdownReason} {context : Context}
    {stopped stopped' : Option Stop} {error : Option RunError} :
    Follows (.handled (some cause) stopped) (.shutdown reason context stopped' error)
  | shutdown {reason : ShutdownReason} {context inner : Context} {stopped stopped' : Option Stop}
    {error : Option RunError} :
    Follows (.poll context stopped) (.shutdown reason inner stopped' error)
  | exitError {reason : ShutdownReason} {context : Context} {stopped : Option Stop}
    {error : Option RunError} {request : Request} :
    Follows (.shutdown reason context stopped error) (.call request)

end Deed

namespace MayCall

variable {request : Request} {deeds : List Deed}

/-- A call that may be made is no shutdown. -/
lemma shutdowns (h : MayCall request deeds) : deeds.filterMap Deed.shutdown? = [] := by
  cases h <;> rfl

/-- It is one report at most. -/
lemma reports (h : MayCall request deeds) : (deeds.filter Deed.isReport).length ≤ 1 := by
  cases h with
  | unsent => exact Nat.zero_le 1
  | sent => exact List.length_filter_le ..

end MayCall

namespace Run

variable {client : Client} {parent loopContext : Context} {watching : Bool}
  {s s' : Surroundings} {round : Round} {rounds : List Round} {invocations : List Invocation}
  {deeds last report : List Deed} {result : Except RunError Shutdown}

/-! ## The shapes of a run -/

/-- The report of a run that has failed, if it could be made. -/
inductive ExitReport (client : Client) : Except RunError Unit → List Deed → Prop where
  | none : ExitReport client (.ok ()) []
  | report {e : RunError} {report : List Deed} :
    MayCall (client.exitError exitErrorType e.failure.text).request report →
    ExitReport client (.error e) report

/-- The three shapes of a run. -/
inductive IsLifecycle (r : Registering) (env : Environment) (program : String) (parent : Context)
    (s : Surroundings) (course : Course) : Run → Prop where
  /-- A run that does not register does nothing else. -/
  | unregistered {e : CallError} {calls : List Deed} :
    (r.register env program (s.stop? parent) course.register).1 = .error e →
    (calls = [] ∨ ∃ address, r.address? env = some address ∧
      MayCall (r.call address program).request calls) →
    IsLifecycle r env program parent s course ⟨.error (.register e), calls⟩
  | uninitialised {address : String} {client : Client} {cause : Failure} {report : List Deed}
    {stopped : Option Stop} :
    r.address? env = some address → r.Registers env program parent s course client →
    course.init.result = .error cause →
    MayCall (client.initError initErrorType cause.text).request report →
    IsLifecycle r env program parent s course
      ⟨.error (.init cause), .call (r.call address program).request :: .init :: report ++
        [.shutdown .extensionError parent stopped (some (.init cause))]⟩
  | looped {address : String} {client : Client} {earlier later : List Round} {round : Round}
    {invocations : List Invocation} {handlings last report : List Deed}
    {result : Except RunError Shutdown} {reason : ShutdownReason} {context : Context}
    {stopped : Option Stop} {error : Option RunError} :
    r.address? env = some address → r.Registers env program parent s course client →
    course.init.result = .ok () →
    course.rounds = earlier ++ round :: later → Handlings client earlier invocations handlings →
    LastRound client round result last →
    ExitReport client (verdict result course.shutdown.result) report →
    IsLifecycle r env program parent s course
      ⟨verdict result course.shutdown.result,
        .call (r.call address program).request :: .init :: .takeSignal ::
          (handlings ++ last ++ .shutdown reason context stopped error :: report)⟩

/-- What may come after what in a run. -/
structure InOrder (run : Run) : Prop where
  follows : run.deeds.IsChain Deed.Follows
  /-- After the extension has been shut down nothing but a call is made. -/
  shutdown_last : run.deeds.Pairwise fun deed later =>
    deed.shutdown?.isSome → ∃ request, later = .call request
  /-- Once it has registered, the extension is shut down exactly once. -/
  shutdown_once : (∀ cause, run.result ≠ .error (.register cause)) → run.shutdowns.length = 1
  no_shutdown : ∀ cause, run.result = .error (.register cause) → run.shutdowns = []
  no_poll : ∀ e, run.result = .error e → e.isEarly = true →
    ∀ context stopped, .poll context stopped ∉ run.deeds
  /-- A run does not report both that it could not start and why it has ended. -/
  reports : (run.deeds.filter Deed.isReport).length ≤ 1

/-! ## Every run has one of the shapes -/

end Run

namespace Registering

variable {r : Registering} {env : Environment} {program : String} {parent : Context}
  {s : Surroundings} {course : Course}

/-- A run that has registered has called the platform for it. -/
lemma calls_of_registers {client : Client} (h : r.Registers env program parent s course client) :
    ∃ address, r.address? env = some address ∧
      r.calls env program parent s course = [.call (r.call address program).request] := by
  have outcomes := r.outcomes env program (s.stop? parent) course.register
  obtain ⟨address, _, known, taken, received, -⟩ := (outcomes.ok_iff client).mp h
  refine ⟨address, known, ?_⟩
  have sent := (outcomes.sent_iff _).mpr ⟨address, known, taken, received.toIsSent, rfl⟩
  rw [calls, sent]
  rfl

/-- Registering is one call at most, and none without an address. -/
lemma mayCall_calls :
    r.calls env program parent s course = [] ∨ ∃ address, r.address? env = some address ∧
      MayCall (r.call address program).request (r.calls env program parent s course) := by
  unfold calls register
  cases known : r.address? env with
  | none => exact .inl rfl
  | some address =>
    dsimp only
    split
    · exact .inr ⟨address, rfl, .of_perform ..⟩
    · exact .inl rfl

end Registering

namespace Run

variable {r : Registering} {env : Environment} {program : String} {parent : Context}
  {s : Surroundings} {course : Course} {run : Run} {client : Client}
  {rounds : List Round} {round : Round} {invocations : List Invocation}
  {deeds last report : List Deed} {result : Except RunError Shutdown}

/-- A run that ends has one of the three shapes. -/
lemma isLifecycle_of_run (h : r.run env program parent s course = some run) :
    IsLifecycle r env program parent s course run := by
  cases r.begins env program parent s course with
  | unregistered failed =>
    rw [Registering.run_of_unregistered failed] at h
    cases h
    exact .unregistered failed Registering.mayCall_calls
  | uninitialised registers failed =>
    obtain ⟨address, known, calls⟩ := Registering.calls_of_registers registers
    rw [Registering.run_eq_of_uninitialised registers failed, calls] at h
    cases h
    exact .uninitialised known registers failed (.of_perform ..)
  | initialised registers init =>
    obtain ⟨address, known, calls⟩ := Registering.calls_of_registers registers
    obtain ⟨result, deeds, s', ends⟩ := Registering.loopEndsOn_of_run registers init h
    rw [Registering.run_eq_of_loopEnds registers init ends, calls] at h
    cases h
    generalize rounds : course.rounds = all at ends
    cases ends with
    | after handles ends =>
      refine .looped known registers init rounds handles.handlings ends.lastRound ?_
      cases verdict result course.shutdown.result with
      | error e => exact .report (.of_perform ..)
      | ok _ => exact .none

/-! ## What follows from the shapes -/

/-- The rounds that are handled follow each other, and the last round and the shutdown follow them. -/
lemma Handlings.isChain (h : Handlings client rounds invocations deeds)
    (ends : LastRound client round result last) {first : Deed}
    (polls : ∀ context stopped, Deed.Follows first (.poll context stopped))
    {reason : ShutdownReason} {context : Context} {stopped : Option Stop} {error : Option RunError}
    (rest : (.shutdown reason context stopped error :: report).IsChain Deed.Follows) :
    (first :: (deeds ++ last ++ .shutdown reason context stopped error :: report)).IsChain
      Deed.Follows := by
  -- on the rounds that are handled; `first` is what stands before the next poll
  induction h generalizing first with
  | nil =>
    cases ends with
    | unhandled _ =>
      exact .cons_cons (polls _ _) <| .cons_cons .invoke <| .cons_cons .handled <|
        .cons_cons .unhandled rest
    | _ => exact .cons_cons (polls _ _) <| .cons_cons .shutdown rest
  | cons _ _ ih =>
    exact .cons_cons (polls _ _) <| .cons_cons .invoke <| .cons_cons .handled <|
      ih fun _ _ => .nextPoll

/-- The report of a run that has failed is one call at most. -/
lemma ExitReport.mayCall {result : Except RunError Unit} (h : ExitReport client result report) :
    ∃ text, MayCall (client.exitError exitErrorType text).request report := by
  cases h with
  | none => exact ⟨"", .unsent⟩
  | report mayCall => exact ⟨_, mayCall⟩

/-- Before the extension is shut down it is not, and then there is at most a call. -/
lemma pairwise_shutdown {request : Request} (before : deeds.filterMap Deed.shutdown? = [])
    (mayCall : MayCall request report) (shutdown : Deed) :
    (deeds ++ shutdown :: report).Pairwise fun deed later =>
      deed.shutdown?.isSome → ∃ request, later = .call request := by
  induction deeds with
  | nil =>
    cases mayCall with
    | unsent => exact List.pairwise_singleton ..
    | sent => exact List.pairwise_pair.mpr fun _ => ⟨request, rfl⟩
  | cons deed deeds ih =>
    obtain ⟨none, before⟩ : deed.shutdown? = none ∧ deeds.filterMap Deed.shutdown? = [] := by
      cases deed <;> simp_all [Deed.shutdown?]
    refine List.pairwise_cons.mpr ⟨fun later _ shut => ?_, ih before⟩
    rw [none] at shut
    cases shut

/-- While rounds are handled nothing is reported. -/
lemma Handlings.reports (h : Handlings client rounds invocations deeds) :
    deeds.filter Deed.isReport = [] := by
  induction h with
  | nil => rfl
  | cons _ _ ih => exact ih

/-- Nor in the round that ends the loop. -/
lemma LastRound.reports (h : LastRound client round result last) :
    last.filter Deed.isReport = [] := by
  cases h <;> rfl

/-- The loop does not fail with an error from before it. -/
lemma LastRound.not_early {e : RunError} (h : LastRound client round (.error e) last) :
    e.isEarly = false := by
  cases h with
  | alarm isAlarm => cases isAlarm <;> rfl
  | unanswered _ fails => obtain rfl | ⟨cause, rfl⟩ := error_of_polled fails <;> rfl
  | unhandled _ => rfl

/-- So a run that has come to its loop does not fail with one either. -/
lemma LastRound.verdict_not_early {shutdown : Except Failure Unit} {e : RunError}
    (ends : LastRound client round result last) (h : verdict result shutdown = .error e) :
    e.isEarly = false := by
  cases result with
  | error e' =>
    cases h
    exact ends.not_early
  | ok details =>
    cases shutdown with
    | ok _ => cases h
    | error cause =>
      cases h
      rfl

/-- To register is not to report. -/
lemma reports_cons_register (r : Registering) (address program : String) (deeds : List Deed) :
    (.call (r.call address program).request :: deeds).filter Deed.isReport =
      deeds.filter Deed.isReport :=
  List.filter_cons_of_neg (by simp [Deed.isReport, Registering.call])

/-- A shutdown is no report. -/
lemma reports_append_shutdown (deeds report : List Deed) (reason : ShutdownReason)
    (context : Context) (stopped : Option Stop) (error : Option RunError) :
    (deeds ++ Deed.shutdown reason context stopped error :: report).filter Deed.isReport =
      deeds.filter Deed.isReport ++ report.filter Deed.isReport :=
  List.filter_append ..

/-- A shutdown among other deeds is the only one. -/
lemma shutdowns_append_shutdown (before : deeds.filterMap Deed.shutdown? = [])
    (after : report.filterMap Deed.shutdown? = []) (reason : ShutdownReason) (context : Context)
    (stopped : Option Stop) (error : Option RunError) :
    (deeds ++ Deed.shutdown reason context stopped error :: report).filterMap Deed.shutdown? =
      [(reason, error)] := by
  rw [List.filterMap_append, before, List.filterMap_cons, after]
  rfl

/-- A run in which the extension is shut down once, after anything but its own reports. -/
lemma InOrder.of_shutdown {before report : List Deed} {reason : ShutdownReason} {context : Context}
    {stopped : Option Stop} {error : Option RunError} {request : Request}
    {result : Except RunError Unit}
    (follows : (before ++ .shutdown reason context stopped error :: report).IsChain Deed.Follows)
    (unshut : before.filterMap Deed.shutdown? = []) (mayCall : MayCall request report)
    (registered : ∀ cause, result ≠ .error (.register cause))
    (no_poll : ∀ e, result = .error e → e.isEarly = true →
      ∀ context stopped, .poll context stopped ∉ before)
    (reports : (before.filter Deed.isReport).length + (report.filter Deed.isReport).length ≤ 1) :
    InOrder ⟨result, before ++ .shutdown reason context stopped error :: report⟩ := by
  refine ⟨follows, pairwise_shutdown unshut mayCall _, fun _ => ?_, fun cause failed => ?_, ?_, ?_⟩
  · rw [shutdowns, shutdowns_append_shutdown unshut mayCall.shutdowns]
    rfl
  · exact absurd failed (registered cause)
  · intro e failed early context' stopped' mem
    rcases List.mem_append.mp mem with mem | mem
    · exact no_poll e failed early context' stopped' mem
    · cases mayCall <;> simp at mem
  · rw [reports_append_shutdown, List.length_append]
    exact reports

/-- A run that does not register is in order. -/
lemma inOrder_unregistered {e : CallError} {calls : List Deed} {request : Request}
    (mayCall : MayCall request calls) : InOrder ⟨.error (.register e), calls⟩ := by
  constructor
  case follows => cases mayCall <;> simp
  case shutdown_last => cases mayCall <;> simp
  case shutdown_once => exact fun registered => absurd rfl (registered e)
  case no_shutdown => exact fun _ _ => mayCall.shutdowns
  case no_poll => cases mayCall <;> simp
  case reports => exact mayCall.reports

/-- A run that is not initialised is in order. -/
lemma inOrder_uninitialised {address text : String} {cause : Failure} {stopped : Option Stop}
    (mayCall : MayCall (client.initError initErrorType text).request report) :
    InOrder ⟨.error (.init cause), .call (r.call address program).request :: .init :: report ++
      [.shutdown .extensionError parent stopped (some (.init cause))]⟩ := by
  have none : MayCall (r.call address program).request [] := .unsent
  refine .of_shutdown ?_ mayCall.shutdowns none nofun (fun _ _ _ context stopped mem => ?_) ?_
  · cases mayCall with
    | unsent => exact .cons_cons .init <| .cons_cons .uninitialised <| .singleton _
    | sent =>
      exact .cons_cons .init <| .cons_cons .initError <| .cons_cons .afterInitError <|
        .singleton _
  · cases mayCall <;> simp at mem
  · rw [reports_cons_register]
    exact mayCall.reports

/-- A run whose loop ends is in order. -/
lemma inOrder_looped {address text : String} {handlings : List Deed} {reason : ShutdownReason}
    {context : Context} {stopped : Option Stop} {error : Option RunError}
    {shutdown : Except Failure Unit} (handles : Handlings client rounds invocations handlings)
    (ends : LastRound client round result last)
    (mayCall : MayCall (client.exitError exitErrorType text).request report) :
    InOrder ⟨verdict result shutdown, .call (r.call address program).request :: .init ::
      .takeSignal :: (handlings ++ last ++ .shutdown reason context stopped error :: report)⟩ := by
  have looped : (handlings ++ last).filterMap Deed.shutdown? = [] := by
    rw [List.filterMap_append, handles.shutdowns, ends.shutdowns]
    rfl
  have unshut : (.call (r.call address program).request :: .init :: .takeSignal ::
      (handlings ++ last)).filterMap Deed.shutdown? = [] :=
    looped
  have unreported : (handlings ++ last).filter Deed.isReport = [] := by
    rw [List.filter_append, handles.reports, ends.reports]
    rfl
  have rest : (.shutdown reason context stopped error :: report).IsChain Deed.Follows := by
    cases mayCall with
    | unsent => exact .singleton _
    | sent => exact .cons_cons .exitError (.singleton _)
  refine .of_shutdown ?_ unshut mayCall (fun cause failed => ?_) (fun e failed early => ?_) ?_
  · exact .cons_cons .init <| .cons_cons .takeSignal <|
      handles.isChain ends (fun _ _ => .firstPoll) rest
  · cases ends.verdict_not_early failed
  · cases (ends.verdict_not_early failed).symm.trans early
  · have none : (.init :: .takeSignal :: (handlings ++ last)).filter Deed.isReport = [] :=
      unreported
    rw [reports_cons_register, none, List.length_nil, Nat.zero_add]
    exact mayCall.reports

/-- So every run that has one of the shapes is in order. -/
lemma IsLifecycle.inOrder (h : IsLifecycle r env program parent s course run) : InOrder run := by
  cases h with
  | unregistered _ called =>
    rcases called with rfl | ⟨address, _, mayCall⟩
    · have none : MayCall (r.call "" program).request [] := .unsent
      exact inOrder_unregistered none
    · exact inOrder_unregistered mayCall
  | uninitialised _ _ _ mayCall => exact inOrder_uninitialised mayCall
  | looped _ _ _ _ handles ends reported =>
    obtain ⟨text, mayCall⟩ := reported.mayCall
    exact inOrder_looped handles ends mayCall

/-- A run that ends has one of the three shapes, and does nothing out of order. -/
theorem run_isLifecycle (h : r.run env program parent s course = some run) :
    IsLifecycle r env program parent s course run ∧ InOrder run :=
  ⟨isLifecycle_of_run h, (isLifecycle_of_run h).inOrder⟩

end Run

/-- An answer that says a value. -/
def Exchange.telling {α : Type} (codec : Json.Codec α) (value : α) : Exchange :=
  .answered
    { status := 200
      headers := [(Client.identifierHeader, Utf8.encode "1")]
      body := (codec.write value).toBytes }

/-- A course with one invocation, in which nothing fails. -/
def Course.invokedOnce : Course where
  register := .telling Registration.codec ⟨"function", "1", "handler", ""⟩
  init := .quiet
  initReport := .lost
  handsSignal := true
  rounds :=
    [⟨[], some (.exchanged (.telling Event.codec (.invoke ⟨1000, "1", "arn", ⟨"", ""⟩⟩))), .quiet⟩,
      ⟨[], some (.exchanged (.telling Event.codec (.shutdown ⟨.spindown, 2000⟩))), .quiet⟩]
  shutdown := .quiet
  exitReport := .lost

open Run in
/-- An invocation, and then the event that shuts down. -/
theorem Run.run_isLifecycle_invoked :
    ∃ run, (Registering.run { address := some "host" } [] "sidecar" ⟨⟨0, []⟩, none⟩
        ⟨0, ⟨1, []⟩, .silent⟩ .invokedOnce) = some run ∧ run.deeds.length = 8 ∧
      IsLifecycle { address := some "host" } [] "sidecar" ⟨⟨0, []⟩, none⟩ ⟨0, ⟨1, []⟩, .silent⟩
        .invokedOnce run ∧ InOrder run := by
  obtain ⟨run, ran, length⟩ := Option.map_eq_some_iff.mp (show
    (Registering.run { address := some "host" } [] "sidecar" ⟨⟨0, []⟩, none⟩
      ⟨0, ⟨1, []⟩, .silent⟩ .invokedOnce).map (·.deeds.length) = some 8 by decide +kernel)
  exact ⟨run, ran, length, run_isLifecycle ran⟩

end Sidecar
