import Sidecar.Proofs.Context.Tree
import Sidecar.Proofs.Lifecycle.Reporting

/-!
# How a run bounds its callbacks

Polls and callbacks have contexts of their own, made one inside the other. Still each of them stops only
when the context of the run does, for the same reason, or at the deadline of its own event: what the run
cancels on its way lies beside it (`Surroundings.Within`). Seen from outside this depends on nothing but
what has happened until then (`Bounds`, `callbacks_areBounded`).
-/

namespace Sidecar

/-! ## Contexts inside that of the run -/

namespace Context

variable {parent : Context}

/-- The deadlines of a context and, if there is one, of an event. -/
def limits (parent : Context) (deadline? : Option Int) : Set Int :=
  { deadline | parent.deadline = some deadline ∨ deadline? = some deadline }

/-- Without a deadline of its own a context has that of its parent. -/
lemma isEarliest_deadline (parent : Context) : IsEarliest (parent.limits none) parent.deadline := by
  cases limit : parent.deadline with
  | none =>
    refine Set.eq_empty_of_forall_notMem fun deadline mem => ?_
    rcases mem with own | none
    · cases limit.symm.trans own
    · cases none
  | some deadline =>
    refine ⟨.inl limit, fun other mem => ?_⟩
    rcases mem with own | none
    · cases limit.symm.trans own
      exact Int.le_refl _
    · cases none

/-- With one of its own it has the earlier of the two. -/
lemma isEarliest_until (parent : Context) (deadline : Int) :
    IsEarliest (parent.limits (some deadline)) (some (earlier parent.deadline deadline)) := by
  have both : parent.limits (some deadline) = insert deadline (parent.limits none) := by
    ext other
    simp only [limits, Set.mem_ofPred_eq, Set.mem_insert_iff, Option.some.injEq, reduceCtorEq, or_false]
    tauto
  rw [both]
  exact isEarliest_earlier parent.isEarliest_deadline deadline

end Context

namespace Surroundings

variable {parent c inner : Context} {deadline? : Option Int} {s s' : Surroundings} {w : Scopes}

/-- A context that has been cancelled stays so. -/
lemma Leads.stop?_eq_cancelled (h : s.Leads s') (cancelled : s.stop? c = some .cancelled) :
    s'.stop? c = some .cancelled := by
  rw [Surroundings.stop?, Context.stop?_eq_cancelled_iff] at cancelled ⊢
  exact Scopes.isCancelled_mono h.cancelled cancelled

/-- A context that is cancelled stops for that reason. -/
lemma stop?_cancel (c : Context) (s : Surroundings) :
    stop? { s with scopes := c.cancel s.scopes } c = some .cancelled := by
  rw [stop?, Context.stop?_eq_cancelled_iff, Scopes.isCancelled_iff]
  exact ⟨c.scope.number, List.mem_cons_self .., List.mem_cons_self ..⟩

/-- The context stops when the other one does, for the same reason, or at the deadline. -/
structure Within (s : Surroundings) (parent : Context) (deadline? : Option Int) (c : Context) :
    Prop where
  goesOn_iff : s.stop? c = none ↔
    s.stop? parent = none ∧ ∀ deadline ∈ deadline?, s.now < deadline
  cancelled_iff : s.stop? c = some .cancelled ↔ s.stop? parent = some .cancelled

namespace Within

/-- A new context stops with its parent. -/
lemma child (fresh : w.next ∉ s.scopes.cancelled) : s.Within parent none (parent.child w).1 := by
  constructor
  · exact (Context.stop?_child_eq_none_iff fresh).trans (and_iff_left nofun).symm
  · rw [stop?, stop?, Context.stop?_eq_cancelled_iff, Context.stop?_eq_cancelled_iff]
    exact Context.isCancelled_child_iff.trans (or_iff_right fresh)

/-- A new context with a deadline stops with its parent or at the deadline. -/
lemma childUntil {deadline : Int} (fresh : w.next ∉ s.scopes.cancelled) :
    s.Within parent (some deadline) (parent.childUntil deadline w).1 := by
  constructor
  · refine (Context.stop?_childUntil_eq_none_iff fresh).trans (and_congr_right fun _ => ?_)
    simp only [Option.mem_def, Option.some.injEq, forall_eq']
  · rw [stop?, stop?, Context.stop?_eq_cancelled_iff, Context.stop?_eq_cancelled_iff]
    exact Context.isCancelled_child_iff.trans (or_iff_right fresh)

/-- What stops with a context that stops with another one stops with that. -/
lemma trans (h : s.Within parent none c) (h' : s.Within c deadline? inner) :
    s.Within parent deadline? inner := by
  refine ⟨h'.goesOn_iff.trans (and_congr_left fun _ => ?_), h'.cancelled_iff.trans h.cancelled_iff⟩
  exact h.goesOn_iff.trans (and_iff_left nofun)

end Within

/-! ## What changes nothing for the context of the run -/

/-- What is beside a context does not matter for what stops with it. -/
lemma Within.of_alike (h : s.Within parent deadline? c) (alike : Alike parent s s') :
    (s.stop? c = none ↔ s'.stop? parent = none ∧ ∀ deadline ∈ deadline?, s'.now < deadline) ∧
      (s.stop? c = some .cancelled ↔ s'.stop? parent = some .cancelled) := by
  rw [← alike.stop?_eq, ← alike.now_eq]
  exact ⟨h.goesOn_iff, h.cancelled_iff⟩

end Surroundings

namespace Run

variable {r : Registering} {env : Environment} {program : String} {client : Client}
  {parent loopContext c : Context} {watching : Bool} {s s' s'' : Surroundings} {course : Course}
  {earlier rounds : List Round} {round : Round} {invocation : Invocation}
  {invocations : List Invocation} {deeds : List Deed} {result : Except RunError Shutdown}

/-- The context of an invocation, and the surroundings in which its callback is called. -/
def entering (parent loopContext : Context) (s : Surroundings) (invocation : Invocation)
    (handler : Callback) : Context × Surroundings :=
  (s.afterAll parent handler.before).derive (loopContext.childUntil invocation.deadlineMs.toInt)

/-- The context in which the extension is shut down after its loop, and the surroundings in which this
callback is called. -/
def closing (parent loopContext : Context) (s : Surroundings) (course : Course)
    (result : Except RunError Shutdown) : Context × Surroundings :=
  (shutdownTerms parent (shuttingDown parent loopContext course s) result).2

/-- A callback for an invocation lets time pass for the context of the run, and no more. -/
lemma alike_handle (holds : s.scopes.Holds parent) (loopContext : Context) (invocation : Invocation)
    (handler : Callback) :
    Surroundings.Alike parent (handle parent loopContext s invocation handler).2
      (s.afterAll parent handler.occurrences) := by
  have before := Surroundings.Ages.afterAll parent s handler.before
  have entered : Surroundings.Alike parent (entering parent loopContext s invocation handler).2
      (s.afterAll parent handler.before) := .derive rfl parent
  have returned := entered.afterAll parent handler.meanwhile
  rw [← Surroundings.afterAll_append] at returned
  refine returned.cancel fun own => ?_
  -- the number of the new context is above all those of the run's
  exact Nat.lt_irrefl _ ((before.holds holds).numbers_lt _ own)

/-- For the context of the run, handling rounds is no more than what happens in them. -/
lemma Handles.alike (h : Handles client parent loopContext watching s rounds invocations deeds s')
    (holds : s.scopes.Holds parent) :
    Surroundings.Alike parent s' (s.afterAll parent (rounds.flatMap Round.occurrences)) := by
  induction h with
  | nil => exact .refl ..
  | @cons s polled s' round rounds invocation _ _ gives handled _ ih =>
    have given := gives.ages
    have returned := ages_handle parent loopContext polled invocation round.handler
    have here := alike_handle (given.holds holds) loopContext invocation round.handler
    have later := ih ((given.trans returned).holds holds)
    have all := later.trans (here.afterAll parent (rounds.flatMap Round.occurrences))
    obtain ⟨ended, ends, _⟩ := gives
    rw [ends.eq_afterAll] at all
    rwa [List.flatMap_cons, Round.occurrences, List.append_assoc, Surroundings.afterAll_append,
      Surroundings.afterAll_append]

/-! ## The contexts of a run -/

/-- The context of the loop stops with that of the run, as long as the loop goes on. -/
lemma within_loopStart (holds : s.scopes.Holds parent)
    (ages : (loopStart parent s course).2.Ages parent s') :
    s'.Within parent none (loopStart parent s course).1 := by
  have init := Surroundings.Ages.afterAll parent s course.init.occurrences
  have fresh := ages.next_not_cancelled (init.holds holds) rfl (Nat.lt_succ_self _)
  exact .child fresh

/-- The context of an invocation stops with that of the run, or at the deadline of the invocation. -/
lemma within_entering (holds : s.scopes.Holds parent)
    (ages : (loopStart parent s course).2.Ages parent s') (invocation : Invocation)
    (handler : Callback) (happened : List Occurrence) :
    ((entering parent (loopStart parent s course).1 s' invocation handler).2.afterAll parent
      happened).Within parent (some invocation.deadlineMs.toInt)
        (entering parent (loopStart parent s course).1 s' invocation handler).1 := by
  have init := Surroundings.Ages.afterAll parent s course.init.occurrences
  have started := Surroundings.Ages.derive_child parent parent
    (s.afterAll parent course.init.occurrences)
  have before := Surroundings.Ages.afterAll parent s' handler.before
  have entered := Surroundings.Ages.derive_childUntil parent (loopStart parent s course).1
    invocation.deadlineMs.toInt (s'.afterAll parent handler.before)
  have since := Surroundings.Ages.afterAll parent
    (entering parent (loopStart parent s course).1 s' invocation handler).2 happened
  -- numbers are given out once, so a new context is not among those that were cancelled before
  have held := before.holds (ages.holds (started.holds (init.holds holds)))
  have fresh := since.next_not_cancelled held rfl (Nat.lt_succ_self _)
  have inLoop := within_loopStart holds (ages.trans (before.trans (entered.trans since)))
  exact inLoop.trans (.childUntil fresh)

/-- The deadline of the event that has ended the loop. -/
def lastDeadline? : Except RunError Shutdown → Option Int
  | .ok details => some details.deadlineMs.toInt
  | .error _ => none

/-- The context in which the extension is shut down stops with that of the run, or at the deadline of the
event, although the context of the loop has been cancelled. -/
lemma within_closing (closing_ : (shuttingDown parent loopContext course s).scopes.Holds parent)
    (result : Except RunError Shutdown) (happened : List Occurrence) :
    ((closing parent loopContext s course result).2.afterAll parent happened).Within parent
      (lastDeadline? result) (closing parent loopContext s course result).1 := by
  have since := Surroundings.Ages.afterAll parent (closing parent loopContext s course result).2
    happened
  cases result with
  | error e => exact .child (since.next_not_cancelled closing_ rfl (Nat.lt_succ_self _))
  | ok details => exact .childUntil (since.next_not_cancelled closing_ rfl (Nat.lt_succ_self _))

/-! ## What belongs to a round -/

/-- What is done in a round that begins in some surroundings. -/
inductive InRound (client : Client) (parent loopContext : Context) (watching : Bool)
    (s : Surroundings) (round : Round) : Deed → Prop where
  | poll : InRound client parent loopContext watching s round (.poll loopContext (s.stop? loopContext))
  | handling {invocation : Invocation} {s' : Surroundings} {deed : Deed} :
    Gives client parent watching s round (.invoke invocation) s' →
    deed ∈ (handle parent loopContext s' invocation round.handler).1 →
    InRound client parent loopContext watching s round deed

variable {deed : Deed}

/-- What is done in rounds that are handled is done in one of them, after the rounds before it. -/
lemma Handles.of_mem (h : Handles client parent loopContext watching s rounds invocations deeds s')
    (mem : deed ∈ deeds) :
    ∃ earlier round later invocations deeds s'', rounds = earlier ++ round :: later ∧
      Handles client parent loopContext watching s earlier invocations deeds s'' ∧
      InRound client parent loopContext watching s'' round deed := by
  induction h with
  | nil => cases mem
  | @cons s _ _ round rounds _ _ _ gives handled _ ih =>
    rcases List.mem_append.mp mem with now | later
    · refine ⟨[], round, rounds, [], [], s, rfl, .nil, ?_⟩
      rcases List.mem_cons.mp now with rfl | handling
      · exact .poll
      · exact .handling gives handling
    · obtain ⟨earlier, next, later, invocations, deeds, s'', rfl, handles, inRound⟩ := ih later
      exact ⟨round :: earlier, next, later, _, _, s'', rfl, .cons gives handled handles, inRound⟩

/-- What is done in the round that ends the loop is done in that round. -/
lemma RoundEnds.of_mem (h : RoundEnds client parent loopContext watching s round result deeds s')
    (mem : deed ∈ deeds) : InRound client parent loopContext watching s round deed := by
  cases h with
  | alarm _ | unanswered _ _ | shutdown _ =>
    obtain rfl := List.mem_singleton.mp mem
    exact .poll
  | unhandled gives _ =>
    rcases List.mem_cons.mp mem with rfl | handling
    · exact .poll
    · exact .handling gives handling

/-- Whatever is done in the loop is done in one of its rounds. -/
lemma LoopEnds.of_mem (h : LoopEnds client parent loopContext watching s rounds result deeds s')
    (mem : deed ∈ deeds) :
    ∃ earlier round later invocations deeds s'', rounds = earlier ++ round :: later ∧
      Handles client parent loopContext watching s earlier invocations deeds s'' ∧
      InRound client parent loopContext watching s'' round deed := by
  cases h with
  | @after earlier later round _ _ _ _ _ _ handles ends =>
    rcases List.mem_append.mp mem with before | last
    · obtain ⟨earlier', round', later', invocations, deeds, s'', rfl, rest⟩ := handles.of_mem before
      exact ⟨earlier', round', later' ++ round :: later, invocations, deeds, s'', by simp, rest⟩
    · exact ⟨earlier, round, later, _, _, _, rfl, handles, ends.of_mem last⟩

/-- What the last round does to the context of the run comes from what has happened in it alone. -/
lemma RoundEnds.alike (h : RoundEnds client parent loopContext watching s round result deeds s')
    (holds : s.scopes.Holds parent) :
    ∃ happened, happened <+: round.occurrences ∧
      Surroundings.Alike parent s' (s.afterAll parent happened) := by
  cases h with
  | alarm ends | unanswered ends _ =>
    obtain ⟨happened, early, rfl⟩ := ends.exists_afterAll
    exact ⟨happened, early.trans (List.prefix_append ..), .refl ..⟩
  | shutdown gives =>
    obtain ⟨ended, ends, _⟩ := gives
    obtain ⟨happened, early, rfl⟩ := ends.exists_afterAll
    exact ⟨happened, early.trans (List.prefix_append ..), .refl ..⟩
  | @unhandled invocation _ polled gives _ =>
    have here := alike_handle (gives.ages.holds holds) loopContext invocation round.handler
    obtain ⟨ended, ends, _⟩ := gives
    refine ⟨round.occurrences, List.prefix_refl _, ?_⟩
    rw [ends.eq_afterAll] at here ⊢
    rwa [← Surroundings.afterAll_append] at here

/-- For the context of the run, a loop is no more than what happens in its rounds up to its end. -/
lemma LoopEnds.alike (h : LoopEnds client parent loopContext watching s rounds result deeds s')
    (holds : s.scopes.Holds parent) :
    ∃ happened, happened <+: rounds.flatMap Round.occurrences ∧
      Surroundings.Alike parent s' (s.afterAll parent happened) := by
  cases h with
  | @after earlier later round _ _ _ _ _ _ handles ends =>
    have before := handles.alike holds
    obtain ⟨happened, early, last⟩ := ends.alike (handles.ages.holds holds)
    refine ⟨earlier.flatMap Round.occurrences ++ happened, ?_, ?_⟩
    · rw [List.flatMap_append, List.flatMap_cons]
      exact (List.prefix_append_right_inj _).mpr (early.trans (List.prefix_append ..))
    · have all := last.trans (before.afterAll parent happened)
      rwa [← Surroundings.afterAll_append] at all

end Run

/-! ## Callbacks are bounded -/

/-- How a context bounds what is done in it at a moment, when all this has happened since the run began: it
has the earliest of the deadlines, and it has stopped if the context of the run would have by then, for
the same reason, or if the deadline of the event has passed. -/
structure Bounds (parent : Context) (s : Surroundings) (history : List Occurrence)
    (deadline? : Option Int) (c : Context) (moment : Surroundings) : Prop where
  isEarliest : Context.IsEarliest (parent.limits deadline?) c.deadline
  goesOn_iff : moment.stop? c = none ↔
    (s.afterAll parent history).stop? parent = none ∧
      ∀ deadline ∈ deadline?, (s.afterAll parent history).now < deadline
  cancelled_iff : moment.stop? c = some .cancelled ↔
    (s.afterAll parent history).stop? parent = some .cancelled

section

variable (r : Registering) (env : Environment) (program : String) (client : Client)
  (parent : Context) (s : Surroundings) (course : Course)

open Run

/-- The loop of a run polls again after it has handled some rounds. -/
structure Reaches (earlier : List Round) (round : Round) (s' : Surroundings) : Prop where
  registers : r.Registers env program parent s course client
  isInitialised : course.init.result = .ok ()
  isNext : ∃ later, course.rounds = earlier ++ round :: later
  handles : ∃ invocations deeds, Handles client parent (loopStart parent s course).1
    course.handsSignal (loopStart parent s course).2 earlier invocations deeds s'

/-- In a round of the run the callback for an invocation is called in a context, and has returned. -/
def Invokes (earlier : List Round) (round : Round) (invocation : Invocation) (c : Context)
    (entry left : Surroundings) : Prop :=
  ∃ s' s'', Reaches r env program client parent s course earlier round s' ∧
    Gives client parent course.handsSignal s' round (.invoke invocation) s'' ∧
    entering parent (loopStart parent s course).1 s'' invocation round.handler = (c, entry) ∧
    handle parent (loopStart parent s course).1 s'' invocation round.handler =
      ([.invoke invocation c (entry.stop? c), .handled round.handler.failure? (left.stop? c)], left)

/-- After its loop the run shuts the extension down in a context. -/
structure Closes (result : Except RunError Shutdown) (c : Context) (entry : Surroundings) : Prop where
  registers : r.Registers env program parent s course client
  isInitialised : course.init.result = .ok ()
  ends : ∃ deeds s', LoopEnds client parent (loopStart parent s course).1 course.handsSignal
      (loopStart parent s course).2 course.rounds result deeds s' ∧
    closing parent (loopStart parent s course).1 s' course result = (c, entry)

/-- The contexts of a run, and of what is done in them. -/
structure BoundsCallbacks : Prop where
  /-- A poll stops with the context of the run; no callback before it has stopped it. -/
  poll : ∀ client earlier round s',
    Reaches r env program client parent s course earlier round s' →
    ∀ happened, happened <+: round.waits.flatten →
    Bounds parent s (course.init.occurrences ++ earlier.flatMap Round.occurrences ++ happened) none
      (loopStart parent s course).1 (s'.afterAll parent happened)
  /-- From its call on until it returns a callback is bounded by the deadline of its invocation. -/
  invoke : ∀ client earlier round invocation c entry left,
    Invokes r env program client parent s course earlier round invocation c entry left →
    ∀ happened, happened <+: round.handler.meanwhile →
    Bounds parent s (course.history earlier round ++ round.handler.before ++ happened)
      (some invocation.deadlineMs.toInt) c (entry.afterAll parent happened)
  /-- When a callback has returned its context is cancelled, whatever happens later. -/
  left : ∀ client earlier round invocation c entry left,
    Invokes r env program client parent s course earlier round invocation c entry left →
    ∀ s', left.Leads s' → s'.stop? c = some .cancelled
  /-- The context of the loop has been cancelled when the extension is shut down, but not the one in which
  this is done. -/
  shutdown : ∀ client result c entry,
    Closes r env program client parent s course result c entry →
    entry.stop? (loopStart parent s course).1 = some .cancelled ∧
      ∃ history, history <+: course.init.occurrences ++ course.rounds.flatMap Round.occurrences ∧
        ∀ happened, happened <+: course.shutdown.meanwhile →
        Bounds parent s (history ++ course.shutdown.before ++ happened) (lastDeadline? result) c
          (entry.afterAll parent happened)
  of_poll : ∀ run c stopped, r.run env program parent s course = some run →
    .poll c stopped ∈ run.deeds →
    ∃ client earlier round s', Reaches r env program client parent s course earlier round s' ∧
      c = (loopStart parent s course).1 ∧ stopped = s'.stop? c
  of_invoke : ∀ run invocation c stopped, r.run env program parent s course = some run →
    .invoke invocation c stopped ∈ run.deeds →
    ∃ client earlier round entry left,
      Invokes r env program client parent s course earlier round invocation c entry left ∧
      stopped = entry.stop? c
  of_handled : ∀ run failure stopped, r.run env program parent s course = some run →
    .handled failure stopped ∈ run.deeds →
    ∃ client earlier round invocation c entry left,
      Invokes r env program client parent s course earlier round invocation c entry left ∧
      failure = round.handler.failure? ∧ stopped = left.stop? c
  /-- An extension that was not initialised is shut down in the context of the run itself. -/
  of_shutdown : ∀ run reason c stopped error, r.run env program parent s course = some run →
    .shutdown reason c stopped error ∈ run.deeds →
    (∃ client result entry, Closes r env program client parent s course result c entry ∧
      stopped = entry.stop? c) ∨
    (course.init.result ≠ .ok () ∧ c = parent ∧
      stopped = (s.afterAll parent (course.init.occurrences ++ course.shutdown.before)).stop? parent)

/-- Where in a run something is done. -/
inductive DoneIn : Deed → Prop where
  | call (request : Request) : DoneIn (.call request)
  | init : DoneIn .init
  | takeSignal : DoneIn .takeSignal
  | uninitialised {reason : ShutdownReason} {error : Option RunError} :
    course.init.result ≠ .ok () →
    DoneIn (.shutdown reason parent
      ((s.afterAll parent (course.init.occurrences ++ course.shutdown.before)).stop? parent) error)
  | loop {client : Client} {earlier : List Round} {round : Round} {s' : Surroundings} {deed : Deed} :
    Reaches r env program client parent s course earlier round s' →
    InRound client parent (loopStart parent s course).1 course.handsSignal s' round deed →
    DoneIn deed
  | shutdown {client : Client} {result : Except RunError Shutdown} {c : Context}
    {entry : Surroundings} {reason : ShutdownReason} {error : Option RunError} :
    Closes r env program client parent s course result c entry →
    DoneIn (.shutdown reason c (entry.stop? c) error)

end

namespace Run

variable {r : Registering} {env : Environment} {program : String} {client : Client}
  {parent c : Context} {s s' moment : Surroundings} {course : Course} {run : Run} {deed : Deed}
  {deadline? : Option Int} {history : List Occurrence} {result : Except RunError Shutdown}
  {deeds : List Deed}

/-- What is done in a call that may be made is that call. -/
lemma call_of_mem {request? : Option Request} (mem : deed ∈ (request?.map Deed.call).toList) :
    ∃ request, deed = .call request := by
  obtain ⟨request, _, same⟩ := Option.map_eq_some_iff.mp (Option.mem_toList.mp mem)
  exact ⟨request, same.symm⟩

/-- All that is done after a failed initialisation has its place in the run. -/
lemma doneIn_afterInitFailure {cause : Failure} (failed : course.init.result = .error cause)
    (mem : deed ∈ (afterInitFailure client parent (s.afterAll parent course.init.occurrences) course
      cause).deeds) : DoneIn r env program parent s course deed := by
  rcases List.mem_append.mp mem with report | last
  · obtain ⟨request, rfl⟩ := call_of_mem report
    exact .call request
  · obtain rfl := List.mem_singleton.mp last
    rw [← Surroundings.afterAll_append]
    exact .uninitialised (by rw [failed]; nofun)

/-- So has all that is done after the loop. -/
lemma doneIn_afterLoop (registers : r.Registers env program parent s course client)
    (init : course.init.result = .ok ())
    (ends : LoopEnds client parent (loopStart parent s course).1 course.handsSignal
      (loopStart parent s course).2 course.rounds result deeds s')
    (mem : deed ∈ (afterLoop client parent (loopStart parent s course).1 course
      ⟨result, deeds, s'⟩).deeds) : DoneIn r env program parent s course deed := by
  rcases List.mem_append.mp mem with looped | after
  · obtain ⟨earlier, round, later, invocations, deeds, s'', rounds, handles, inRound⟩ :=
      ends.of_mem looped
    exact .loop ⟨registers, init, ⟨later, rounds⟩, invocations, deeds, handles⟩ inRound
  · rcases List.mem_cons.mp after with rfl | report
    · exact .shutdown ⟨registers, init, deeds, s', ends, rfl⟩
    · cases failed : verdict result course.shutdown.result with
      | ok _ => simp only [failed, List.not_mem_nil] at report
      | error e =>
        simp only [failed] at report
        obtain ⟨request, rfl⟩ := call_of_mem report
        exact .call request

/-- Whatever a run does has its place in it. -/
lemma doneIn_of_mem (ran : r.run env program parent s course = some run) (mem : deed ∈ run.deeds) :
    DoneIn r env program parent s course deed := by
  cases r.begins env program parent s course with
  | unregistered failed =>
    cases (Registering.run_of_unregistered failed).symm.trans ran
    obtain ⟨request, rfl⟩ := call_of_mem mem
    exact .call request
  | uninitialised registers failed =>
    cases (Registering.run_eq_of_uninitialised registers failed).symm.trans ran
    rcases List.mem_append.mp mem with calls | rest
    · obtain ⟨request, rfl⟩ := call_of_mem calls
      exact .call request
    · rcases List.mem_cons.mp rest with rfl | rest
      · exact .init
      · exact doneIn_afterInitFailure failed rest
  | initialised registers init =>
    obtain ⟨result, deeds, s', ends⟩ := Registering.loopEndsOn_of_run registers init ran
    cases (Registering.run_eq_of_loopEnds registers init ends).symm.trans ran
    rcases List.mem_append.mp mem with calls | rest
    · obtain ⟨request, rfl⟩ := call_of_mem calls
      exact .call request
    · rcases List.mem_cons.mp rest with rfl | rest
      · exact .init
      · rcases List.mem_cons.mp rest with rfl | rest
        · exact .takeSignal
        · exact doneIn_afterLoop registers init ends rest

/-! ## Deeds in their places -/

/-- An invocation that is given is handled in a context of its own, which it leaves. -/
lemma invokes_of_gives {earlier : List Round} {round : Round} {invocation : Invocation}
    {s'' : Surroundings} (reaches : Reaches r env program client parent s course earlier round s')
    (gives : Gives client parent course.handsSignal s' round (.invoke invocation) s'') :
    ∃ c entry left, Invokes r env program client parent s course earlier round invocation c entry left ∧
      (handle parent (loopStart parent s course).1 s'' invocation round.handler).1 =
        [.invoke invocation c (entry.stop? c), .handled round.handler.failure? (left.stop? c)] :=
  ⟨_, _, _, ⟨s', s'', reaches, gives, rfl, rfl⟩, rfl⟩

/-- A poll is made in the context of the loop, when the loop has come to a round. -/
lemma of_doneIn_poll {stopped : Option Stop}
    (h : DoneIn r env program parent s course (.poll c stopped)) :
    ∃ client earlier round s', Reaches r env program client parent s course earlier round s' ∧
      c = (loopStart parent s course).1 ∧ stopped = s'.stop? c := by
  cases h with
  | loop reaches inRound =>
    cases inRound with
    | poll => exact ⟨_, _, _, _, reaches, rfl, rfl⟩
    | handling gives mem =>
      obtain ⟨_, _, _, _, deeds⟩ := invokes_of_gives reaches gives
      rw [deeds] at mem
      rcases List.mem_pair.mp mem with other | other <;> cases other

/-- A callback for an invocation is called in the context that was made for it. -/
lemma of_doneIn_invoke {invocation : Invocation} {stopped : Option Stop}
    (h : DoneIn r env program parent s course (.invoke invocation c stopped)) :
    ∃ client earlier round entry left,
      Invokes r env program client parent s course earlier round invocation c entry left ∧
      stopped = entry.stop? c := by
  cases h with
  | loop reaches inRound =>
    cases inRound with
    | handling gives mem =>
      obtain ⟨_, _, _, invokes, deeds⟩ := invokes_of_gives reaches gives
      rw [deeds] at mem
      rcases List.mem_pair.mp mem with same | other
      · cases same
        exact ⟨_, _, _, _, _, invokes, rfl⟩
      · cases other

/-- It returns in the surroundings that it leaves behind. -/
lemma of_doneIn_handled {failure : Option Failure} {stopped : Option Stop}
    (h : DoneIn r env program parent s course (.handled failure stopped)) :
    ∃ client earlier round invocation c entry left,
      Invokes r env program client parent s course earlier round invocation c entry left ∧
      failure = round.handler.failure? ∧ stopped = left.stop? c := by
  cases h with
  | loop reaches inRound =>
    cases inRound with
    | handling gives mem =>
      obtain ⟨_, _, _, invokes, deeds⟩ := invokes_of_gives reaches gives
      rw [deeds] at mem
      rcases List.mem_pair.mp mem with other | same
      · cases other
      · cases same
        exact ⟨_, _, _, _, _, _, _, invokes, rfl, rfl⟩

/-- The extension is shut down in a context made for that, or in the context of the run if it was not
initialised. -/
lemma of_doneIn_shutdown {reason : ShutdownReason} {stopped : Option Stop} {error : Option RunError}
    (h : DoneIn r env program parent s course (.shutdown reason c stopped error)) :
    (∃ client result entry, Closes r env program client parent s course result c entry ∧
      stopped = entry.stop? c) ∨
    (course.init.result ≠ .ok () ∧ c = parent ∧
      stopped = (s.afterAll parent (course.init.occurrences ++ course.shutdown.before)).stop? parent) := by
  cases h with
  | uninitialised failed => exact .inr ⟨failed, rfl, rfl⟩
  | shutdown closes => exact .inl ⟨_, _, _, closes, rfl⟩
  | loop reaches inRound =>
    -- nothing is shut down in a round
    cases inRound with
    | handling gives mem =>
      obtain ⟨_, _, _, _, deeds⟩ := invokes_of_gives reaches gives
      rw [deeds] at mem
      rcases List.mem_pair.mp mem with other | other <;> cases other

/-! ## Every context in its bounds -/

/-- What stops within the context of the run is bounded, when nothing has changed for that context but what
has happened. -/
lemma bounds_of_within (isEarliest : Context.IsEarliest (parent.limits deadline?) c.deadline)
    (within : moment.Within parent deadline? c)
    (alike : Surroundings.Alike parent moment (s.afterAll parent history)) :
    Bounds parent s history deadline? c moment := by
  obtain ⟨goesOn_iff, cancelled_iff⟩ := within.of_alike alike
  exact ⟨isEarliest, goesOn_iff, cancelled_iff⟩

/-- When the loop starts the context of the run is known. -/
lemma holds_loopStart (holds : s.scopes.Holds parent) :
    (loopStart parent s course).2.scopes.Holds parent := by
  have init := Surroundings.Ages.afterAll parent s course.init.occurrences
  have started := Surroundings.Ages.derive_child parent parent
    (s.afterAll parent course.init.occurrences)
  exact started.holds (init.holds holds)

/-- For the context of the run, the start of the loop is no more than what has happened. -/
lemma alike_loopStart (happened : List Occurrence) :
    Surroundings.Alike parent ((loopStart parent s course).2.afterAll parent happened)
      (s.afterAll parent (course.init.occurrences ++ happened)) := by
  have derived : Surroundings.Alike parent (loopStart parent s course).2
      (s.afterAll parent course.init.occurrences) := .derive rfl parent
  have later := derived.afterAll parent happened
  rwa [← Surroundings.afterAll_append] at later

/-- What has been handled has changed nothing for the context of the run. -/
lemma alike_of_reaches {earlier : List Round} {round : Round} (holds : s.scopes.Holds parent)
    (reaches : Reaches r env program client parent s course earlier round s')
    (happened : List Occurrence) :
    Surroundings.Alike parent (s'.afterAll parent happened)
      (s.afterAll parent
        (course.init.occurrences ++ earlier.flatMap Round.occurrences ++ happened)) := by
  obtain ⟨invocations, deeds, handles⟩ := reaches.handles
  have handled := handles.alike (holds_loopStart holds)
  have since := handled.trans (alike_loopStart (earlier.flatMap Round.occurrences))
  have later := since.afterAll parent happened
  rwa [← Surroundings.afterAll_append] at later

/-- A poll is bounded by the context of the run alone. -/
lemma bounds_poll {earlier : List Round} {round : Round} (holds : s.scopes.Holds parent)
    (reaches : Reaches r env program client parent s course earlier round s')
    (happened : List Occurrence) :
    Bounds parent s (course.init.occurrences ++ earlier.flatMap Round.occurrences ++ happened) none
      (loopStart parent s course).1 (s'.afterAll parent happened) := by
  have alike := alike_of_reaches holds reaches happened
  obtain ⟨invocations, deeds, handles⟩ := reaches.handles
  have ages := handles.ages.trans (.afterAll parent s' happened)
  exact bounds_of_within (Context.isEarliest_deadline parent) (within_loopStart holds ages) alike

/-- A callback for an invocation is bounded by the context of the run and the deadline of its event. -/
lemma bounds_invoke {earlier : List Round} {round : Round} {invocation : Invocation}
    {entry left : Surroundings} (holds : s.scopes.Holds parent)
    (invokes : Invokes r env program client parent s course earlier round invocation c entry left)
    (happened : List Occurrence) :
    Bounds parent s (course.history earlier round ++ round.handler.before ++ happened)
      (some invocation.deadlineMs.toInt) c (entry.afterAll parent happened) := by
  obtain ⟨s', s'', reaches, gives, enters, _⟩ := invokes
  have alike := alike_of_reaches holds reaches
    (round.waits.flatten ++ round.handler.before)
  obtain ⟨invocations, deeds, handles⟩ := reaches.handles
  have within := within_entering holds (handles.ages.trans gives.ages) invocation round.handler happened
  obtain ⟨ended, ends, _⟩ := gives
  obtain rfl := ends.eq_afterAll
  obtain ⟨rfl, rfl⟩ := Prod.mk.inj enters.symm
  refine bounds_of_within (Context.isEarliest_until parent invocation.deadlineMs.toInt) within ?_
  have entered : Surroundings.Alike parent
      (entering parent (loopStart parent s course).1 (s'.afterAll parent round.waits.flatten)
        invocation round.handler).2
      ((s'.afterAll parent round.waits.flatten).afterAll parent round.handler.before) :=
    .derive rfl parent
  rw [← Surroundings.afterAll_append] at entered
  have all := (entered.trans alike).afterAll parent happened
  rwa [← Surroundings.afterAll_append, ← List.append_assoc] at all

/-- Once its callback has returned the context of an invocation has been cancelled. -/
lemma stop?_of_left {earlier : List Round} {round : Round} {invocation : Invocation}
    {entry left : Surroundings}
    (invokes : Invokes r env program client parent s course earlier round invocation c entry left)
    (later : left.Leads s') : s'.stop? c = some .cancelled := by
  obtain ⟨_, _, _, _, enters, leaves⟩ := invokes
  obtain ⟨rfl, rfl⟩ := Prod.mk.inj enters.symm
  obtain ⟨_, rfl⟩ := Prod.mk.inj leaves.symm
  exact later.stop?_eq_cancelled (Surroundings.stop?_cancel ..)

/-- While the extension is about to be shut down nothing is taken back. -/
lemma leads_closing (parent loopContext : Context) (s : Surroundings) (course : Course)
    (result : Except RunError Shutdown) :
    Surroundings.Leads { s with scopes := loopContext.cancel s.scopes }
      (closing parent loopContext s course result).2 := by
  have before := Surroundings.Leads.afterAll parent
    { s with scopes := loopContext.cancel s.scopes } course.shutdown.before
  cases result with
  | error e => exact before.trans (.derive_child parent _)
  | ok details => exact before.trans (.derive_childUntil parent _ _)

/-- For the context of the run, the end of the loop is no more than what has happened. -/
lemma alike_closing (apart : loopContext.scope.number ∉ parent.scope.numbers)
    (result : Except RunError Shutdown) :
    Surroundings.Alike parent (closing parent loopContext s course result).2
      (s.afterAll parent course.shutdown.before) := by
  have ended := (Surroundings.Alike.refl parent s).cancel apart
  have before := ended.afterAll parent course.shutdown.before
  cases result with
  | error e => exact .trans (.derive rfl parent) before
  | ok details => exact .trans (.derive rfl parent) before

/-- The deadline of a shutdown is that of the run or of the event, whichever is earlier. -/
lemma isEarliest_closing (parent loopContext : Context) (s : Surroundings) (course : Course)
    (result : Except RunError Shutdown) :
    Context.IsEarliest (parent.limits (lastDeadline? result))
      (closing parent loopContext s course result).1.deadline := by
  cases result with
  | error e => exact Context.isEarliest_deadline parent
  | ok details => exact Context.isEarliest_until parent details.deadlineMs.toInt

/-- A shutdown is bounded by the context of the run and the deadline of the event that has ended the
loop. -/
lemma bounds_shutdown {entry : Surroundings} (holds : s.scopes.Holds parent)
    (closes : Closes r env program client parent s course result c entry) :
    ∃ history, history <+: course.init.occurrences ++ course.rounds.flatMap Round.occurrences ∧
      ∀ happened, Bounds parent s (history ++ course.shutdown.before ++ happened)
        (lastDeadline? result) c (entry.afterAll parent happened) := by
  obtain ⟨deeds, s', ends, enters⟩ := closes.ends
  obtain ⟨rfl, rfl⟩ := Prod.mk.inj enters.symm
  obtain ⟨closing_, apart⟩ := holds_shuttingDown holds ends
  obtain ⟨happened, early, looped⟩ := ends.alike (holds_loopStart holds)
  refine ⟨course.init.occurrences ++ happened,
    (List.prefix_append_right_inj _).mpr early, fun meanwhile => ?_⟩
  have since := looped.trans (alike_loopStart happened)
  have entered := (alike_closing apart result).trans (since.afterAll parent course.shutdown.before)
  have all := entered.afterAll parent meanwhile
  rw [← Surroundings.afterAll_append, ← Surroundings.afterAll_append, ← List.append_assoc] at all
  exact bounds_of_within (isEarliest_closing ..) (within_closing closing_ result meanwhile) all

end Run

/-- The contexts of polls and callbacks stop with the context of the run, or at the deadlines of their
events, and not since others beside them have been cancelled. -/
theorem callbacks_areBounded (r : Registering) (env : Environment) (program : String)
    (parent : Context) (s : Surroundings) (course : Course) (holds : s.scopes.Holds parent) :
    BoundsCallbacks r env program parent s course := by
  constructor
  case poll =>
    intro client earlier round s' reaches happened _
    exact Run.bounds_poll holds reaches happened
  case invoke =>
    intro client earlier round invocation c entry left invokes happened _
    exact Run.bounds_invoke holds invokes happened
  case left =>
    intro client earlier round invocation c entry left invokes s' later
    exact Run.stop?_of_left invokes later
  case shutdown =>
    intro client result c entry closes
    obtain ⟨history, early, bounds⟩ := Run.bounds_shutdown holds closes
    obtain ⟨deeds, s', ends, enters⟩ := closes.ends
    refine ⟨?_, history, early, fun happened _ => bounds happened⟩
    have later := Run.leads_closing parent (Run.loopStart parent s course).1 s' course result
    rw [enters] at later
    exact later.stop?_eq_cancelled (Surroundings.stop?_cancel ..)
  case of_poll =>
    intro run c stopped ran mem
    exact Run.of_doneIn_poll (Run.doneIn_of_mem ran mem)
  case of_invoke =>
    intro run invocation c stopped ran mem
    exact Run.of_doneIn_invoke (Run.doneIn_of_mem ran mem)
  case of_handled =>
    intro run failure stopped ran mem
    exact Run.of_doneIn_handled (Run.doneIn_of_mem ran mem)
  case of_shutdown =>
    intro run reason c stopped error ran mem
    exact Run.of_doneIn_shutdown (Run.doneIn_of_mem ran mem)

/-- Of a poll, an invocation, a poll and the end, each context has the earlier deadline. -/
theorem callbacks_areBounded_invoked :
    Scopes.Holds ⟨1, []⟩ ⟨⟨0, []⟩, some 1500⟩ ∧
      BoundsCallbacks { address := some "host" } [] "sidecar" ⟨⟨0, []⟩, some 1500⟩
        ⟨0, ⟨1, []⟩, .silent⟩ .invokedOnce ∧
      ((Registering.run { address := some "host" } [] "sidecar" ⟨⟨0, []⟩, some 1500⟩
          ⟨0, ⟨1, []⟩, .silent⟩ .invokedOnce).map fun run => run.deeds.filterMap fun
        | .poll c stopped | .invoke _ c stopped | .shutdown _ c stopped _ => some (c.deadline, stopped)
        | _ => none) =
          some [(some 1500, none), (some 1000, none), (some 1500, none), (some 1500, none)] := by
  have holds : Scopes.Holds ⟨1, []⟩ ⟨⟨0, []⟩, some 1500⟩ :=
    ⟨nofun, List.forall_mem_singleton.mpr Nat.one_pos⟩
  exact ⟨holds, callbacks_areBounded _ _ _ _ _ _ holds, by decide +kernel⟩

end Sidecar
