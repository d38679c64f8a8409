import Sidecar.Proofs.Lifecycle.Race

/-!
# The loop and its end

A loop that ends has handled some rounds, and then comes one that ends it: by an alarm, by a poll that
gives no event, by a handler that fails, or by the event that shuts down (`Handles`, `RoundEnds`,
`loop_eq_some_iff`). What has happened in the rounds that were handled still shows when the next race
begins (`Handles.shows`). What can be seen of the loop from outside is said apart from its surroundings
(`Handlings`, `LastRound`).
-/

namespace Sidecar

/-- The loop was ended by something that happened beside it. -/
inductive RunError.IsAlarm : RunError → Prop where
  | stopped (stop : Stop) : IsAlarm (.stopped stop)
  | signaled (error : Failure) : IsAlarm (.signaled error)

/-- All that happens in a round that is handled. -/
def Round.occurrences (round : Round) : List Occurrence :=
  round.waits.flatten ++ round.handler.occurrences

namespace Run

variable {client : Client} {parent loopContext : Context} {watching : Bool}
  {s s' : Surroundings} {round : Round} {rounds : List Round} {invocations : List Invocation}
  {deeds : List Deed} {result : Except RunError Shutdown}

/-- A race gives an event. -/
def Gives (client : Client) (parent : Context) (watching : Bool) (s : Surroundings) (round : Round)
    (event : Event) (s' : Surroundings) : Prop :=
  ∃ ended, RaceEnds parent watching round.poll s round.waits (.ok ended) s' ∧
    polled client ended = .ok event

/-- Round by round an invocation is polled for and handled without failure. -/
inductive Handles (client : Client) (parent loopContext : Context) (watching : Bool) :
    Surroundings → List Round → List Invocation → List Deed → Surroundings → Prop where
  | nil {s : Surroundings} : Handles client parent loopContext watching s [] [] [] s
  | cons {s s' s'' : Surroundings} {round : Round} {rounds : List Round} {invocation : Invocation}
    {invocations : List Invocation} {deeds : List Deed} :
    Gives client parent watching s round (.invoke invocation) s' →
    round.handler.result = .ok () →
    Handles client parent loopContext watching
      (handle parent loopContext s' invocation round.handler).2 rounds invocations deeds s'' →
    Handles client parent loopContext watching s (round :: rounds) (invocation :: invocations)
      (.poll loopContext (s.stop? loopContext) ::
        (handle parent loopContext s' invocation round.handler).1 ++ deeds) s''

/-- The ways in which a round ends the loop. -/
inductive RoundEnds (client : Client) (parent loopContext : Context) (watching : Bool)
    (s : Surroundings) (round : Round) :
    Except RunError Shutdown → List Deed → Surroundings → Prop where
  | alarm {e : RunError} {s' : Surroundings} :
    RaceEnds parent watching round.poll s round.waits (.error e) s' →
    RoundEnds client parent loopContext watching s round (.error e)
      [.poll loopContext (s.stop? loopContext)] s'
  /-- The poll has decided the race and has given no event. -/
  | unanswered {ended : PollEnd} {e : RunError} {s' : Surroundings} :
    RaceEnds parent watching round.poll s round.waits (.ok ended) s' →
    polled client ended = .error e →
    RoundEnds client parent loopContext watching s round (.error e)
      [.poll loopContext (s.stop? loopContext)] s'
  | unhandled {invocation : Invocation} {cause : Failure} {s' : Surroundings} :
    Gives client parent watching s round (.invoke invocation) s' →
    round.handler.result = .error cause →
    RoundEnds client parent loopContext watching s round (.error (.invoke cause))
      (.poll loopContext (s.stop? loopContext) ::
        (handle parent loopContext s' invocation round.handler).1)
      (handle parent loopContext s' invocation round.handler).2
  | shutdown {details : Shutdown} {s' : Surroundings} :
    Gives client parent watching s round (.shutdown details) s' →
    RoundEnds client parent loopContext watching s round (.ok details)
      [.poll loopContext (s.stop? loopContext)] s'

/-- How the loop ends: after some rounds that are handled, a round ends it. -/
inductive LoopEnds (client : Client) (parent loopContext : Context) (watching : Bool)
    (s : Surroundings) : List Round → Except RunError Shutdown → List Deed → Surroundings → Prop where
  | after {earlier later : List Round} {round : Round} {invocations : List Invocation}
    {deeds last : List Deed} {s' s'' : Surroundings} {result : Except RunError Shutdown} :
    Handles client parent loopContext watching s earlier invocations deeds s' →
    RoundEnds client parent loopContext watching s' round result last s'' →
    LoopEnds client parent loopContext watching s (earlier ++ round :: later) result
      (deeds ++ last) s''

/-! ## The loop ends as it should -/

/-- What is polled for is what ends the race, read as an event if it is the poll. -/
lemma nextEvent_eq_some_iff {event : Except RunError Event} :
    nextEvent client parent watching s round = some (event, s') ↔
      ∃ winner, RaceEnds parent watching round.poll s round.waits winner s' ∧
        event = winner.bind (polled client) := by
  simp only [nextEvent, Option.map_eq_some_iff, Prod.exists, Prod.mk.injEq]
  constructor
  · rintro ⟨winner, s', raced, rfl, rfl⟩
    exact ⟨winner, race_eq_some_iff.mp raced, rfl⟩
  · rintro ⟨winner, ends, rfl⟩
    exact ⟨winner, s', race_eq_some_iff.mpr ends, rfl, rfl⟩

/-- A race that gives an event is the event that is polled for. -/
lemma nextEvent_of_gives {event : Event} (h : Gives client parent watching s round event s') :
    nextEvent client parent watching s round = some (.ok event, s') := by
  obtain ⟨ended, ends, gives⟩ := h
  exact nextEvent_eq_some_iff.mpr ⟨_, ends, gives.symm⟩

/-- An event that is polled for is given by a race. -/
lemma gives_of_nextEvent {event : Event}
    (h : nextEvent client parent watching s round = some (.ok event, s')) :
    Gives client parent watching s round event s' := by
  obtain ⟨winner, ends, gives⟩ := nextEvent_eq_some_iff.mp h
  cases winner with
  | error e => cases gives
  | ok ended => exact ⟨ended, ends, gives.symm⟩

/-- A round that is handled may be put in front of a loop that ends. -/
lemma LoopEnds.cons {invocation : Invocation} {s'' : Surroundings}
    (gives : Gives client parent watching s round (.invoke invocation) s')
    (handled : round.handler.result = .ok ())
    (h : LoopEnds client parent loopContext watching
      (handle parent loopContext s' invocation round.handler).2 rounds result deeds s'') :
    LoopEnds client parent loopContext watching s (round :: rounds) result
      (.poll loopContext (s.stop? loopContext) ::
        (handle parent loopContext s' invocation round.handler).1 ++ deeds) s'' := by
  cases h with
  | after earlier ends =>
    rw [← List.append_assoc]
    exact .after (.cons gives handled earlier) ends

/-- A round that ends the loop ends it at once, whatever rounds would follow. -/
lemma loop_of_roundEnds {last : List Deed} {s'' : Surroundings}
    (h : RoundEnds client parent loopContext watching s round result last s'') (later : List Round) :
    loop client parent loopContext watching s (round :: later) = some ⟨result, last, s''⟩ := by
  cases h with
  | alarm ends => simp [loop, nextEvent_eq_some_iff.mpr ⟨_, ends, rfl⟩, Except.bind]
  | unanswered ends gives => simp [loop, nextEvent_eq_some_iff.mpr ⟨_, ends, rfl⟩, Except.bind, gives]
  | unhandled gives fails => simp [loop, nextEvent_of_gives gives, fails]
  | shutdown gives => simp [loop, nextEvent_of_gives gives]

/-- The loop that is run ends as the relation says. -/
lemma loopEnds_of_loop {s'' : Surroundings}
    (h : loop client parent loopContext watching s rounds = some ⟨result, deeds, s''⟩) :
    LoopEnds client parent loopContext watching s rounds result deeds s'' := by
  induction rounds generalizing s deeds with
  | nil => cases h
  | cons round rounds ih =>
    -- a round that ends the loop is the last one, however many are left
    have last {last : List Deed}
        (ends : RoundEnds client parent loopContext watching s round result last s'') :
        LoopEnds client parent loopContext watching s (round :: rounds) result last s'' :=
      show LoopEnds _ _ _ _ _ ([] ++ round :: rounds) _ ([] ++ last) _ from .after .nil ends
    unfold loop at h
    cases hn : nextEvent client parent watching s round with
    | none =>
      rw [hn] at h
      cases h
    | some next =>
      obtain ⟨event, s'⟩ := next
      rw [hn] at h
      cases event with
      | error e =>
        cases h
        obtain ⟨winner, ends, gives⟩ := nextEvent_eq_some_iff.mp hn
        cases winner with
        | error e' =>
          cases gives
          exact last (.alarm ends)
        | ok ended => exact last (.unanswered ends gives.symm)
      | ok event =>
        have gives := gives_of_nextEvent hn
        cases event with
        | shutdown details =>
          cases h
          exact last (.shutdown gives)
        | invoke invocation =>
          cases handled : round.handler.result with
          | error cause =>
            simp only [handled] at h
            cases h
            exact last (.unhandled gives handled)
          | ok _ =>
            simp only [handled] at h
            obtain ⟨ending, rest, same⟩ := Option.map_eq_some_iff.mp h
            cases same
            exact .cons gives handled (ih rest)

/-- What the relation says comes of the loop that is run. -/
lemma loop_of_loopEnds {s'' : Surroundings}
    (h : LoopEnds client parent loopContext watching s rounds result deeds s'') :
    loop client parent loopContext watching s rounds = some ⟨result, deeds, s''⟩ := by
  cases h with
  | @after earlier later round invocations deeds last s' _ _ handles ends =>
    -- the last round stays the same while the handled ones are put before it
    induction handles with
    | nil => exact loop_of_roundEnds ends later
    | cons gives handled _ ih =>
      simp [loop, nextEvent_of_gives gives, handled, ih ends]

/-- The loop that is run and the relation agree. -/
theorem loop_eq_some_iff {s'' : Surroundings} :
    loop client parent loopContext watching s rounds = some ⟨result, deeds, s''⟩ ↔
      LoopEnds client parent loopContext watching s rounds result deeds s'' :=
  ⟨loopEnds_of_loop, loop_of_loopEnds⟩

/-! ## What has happened before a race -/

variable {invocation : Invocation} {handler : Callback} {occurrence : Occurrence} {event : Event}

/-- While a poll waits nothing is taken back. -/
lemma Gives.leads (h : Gives client parent watching s round event s') : s.Leads s' := by
  obtain ⟨ended, ends, _⟩ := h
  exact ends.leads

/-- A callback for an invocation takes nothing back, and all that happens up to its return shows. -/
lemma leads_handle (parent loopContext : Context) (s : Surroundings) (invocation : Invocation)
    (handler : Callback) :
    s.Leads (handle parent loopContext s invocation handler).2 ∧
      ∀ occurrence ∈ handler.occurrences,
        (handle parent loopContext s invocation handler).2.Shows parent occurrence := by
  have before := Surroundings.Leads.afterAll parent s handler.before
  have derived := Surroundings.Leads.derive_childUntil loopContext invocation.deadlineMs.toInt
    (s.afterAll parent handler.before)
  have meanwhile := Surroundings.Leads.afterAll parent
    ((s.afterAll parent handler.before).derive
      (loopContext.childUntil invocation.deadlineMs.toInt)).2 handler.meanwhile
  have returned := Surroundings.Leads.cancel
    ((s.afterAll parent handler.before).derive
      (loopContext.childUntil invocation.deadlineMs.toInt)).1
    (((s.afterAll parent handler.before).derive
      (loopContext.childUntil invocation.deadlineMs.toInt)).2.afterAll parent handler.meanwhile)
  refine ⟨before.trans (derived.trans (meanwhile.trans returned)), fun occurrence happens => ?_⟩
  rcases List.mem_append.mp happens with early | late
  · exact (derived.trans (meanwhile.trans returned)).shows
      (Surroundings.shows_afterAll early parent s)
  · exact returned.shows (Surroundings.shows_afterAll late parent _)

/-- While rounds are handled nothing is taken back. -/
lemma Handles.leads (h : Handles client parent loopContext watching s rounds invocations deeds s') :
    s.Leads s' := by
  induction h with
  | nil => exact .refl _
  | cons gives _ _ ih => exact gives.leads.trans ((leads_handle ..).1.trans ih)

/-- What has happened in a round that was handled goes on showing. -/
lemma Handles.shows
    (h : Handles client parent loopContext watching s rounds invocations deeds s')
    (happens : occurrence ∈ rounds.flatMap Round.occurrences) : s'.Shows parent occurrence := by
  induction h with
  | nil => cases happens
  | cons gives _ rest ih =>
    rw [List.flatMap_cons] at happens
    rcases List.mem_append.mp happens with now | later
    · obtain ⟨ended, ends, _⟩ := gives
      obtain ⟨leads, handled⟩ := leads_handle ..
      rcases List.mem_append.mp now with waiting | handling
      · refine rest.leads.shows (leads.shows ?_)
        rw [ends.eq_afterAll]
        exact Surroundings.shows_afterAll waiting parent _
      · exact rest.leads.shows (handled _ handling)
    · exact ih later

/-! ## What can be seen of the loop -/

/-- The poll of a round has given an event. -/
def Polls (client : Client) (round : Round) (event : Event) : Prop :=
  ∃ ended, round.poll = some ended ∧ polled client ended = .ok event

/-- A poll that gives no event has panicked, or its call has failed. -/
lemma error_of_polled {ended : PollEnd} {e : RunError} (h : polled client ended = .error e) :
    e = .panic ∨ ∃ cause, e = .nextEvent cause := by
  cases ended with
  | panicked =>
    cases h
    exact .inl rfl
  | exchanged exchange =>
    simp only [polled] at h
    cases answer : client.next.result exchange with
    | error cause =>
      rw [answer] at h
      cases h
      exact .inr ⟨cause, rfl⟩
    | ok event =>
      rw [answer] at h
      cases h

/-- Round by round a poll gives an invocation, and the callback for it is called and returns. -/
inductive Handlings (client : Client) : List Round → List Invocation → List Deed → Prop where
  | nil : Handlings client [] [] []
  | cons {round : Round} {rounds : List Round} {invocation : Invocation}
    {invocations : List Invocation} {deeds : List Deed} {context inner : Context}
    {stopped stopped' stopped'' : Option Stop} :
    Polls client round (.invoke invocation) →
    Handlings client rounds invocations deeds →
    Handlings client (round :: rounds) (invocation :: invocations)
      (.poll context stopped :: .invoke invocation inner stopped' :: .handled none stopped'' :: deeds)

/-- The last round: a poll, and perhaps the callback for its invocation, which fails. -/
inductive LastRound (client : Client) (round : Round) :
    Except RunError Shutdown → List Deed → Prop where
  | alarm {e : RunError} {context : Context} {stopped : Option Stop} :
    e.IsAlarm →
    LastRound client round (.error e) [.poll context stopped]
  | unanswered {ended : PollEnd} {e : RunError} {context : Context} {stopped : Option Stop} :
    round.poll = some ended → polled client ended = .error e →
    LastRound client round (.error e) [.poll context stopped]
  | shutdown {details : Shutdown} {context : Context} {stopped : Option Stop} :
    Polls client round (.shutdown details) →
    LastRound client round (.ok details) [.poll context stopped]
  | unhandled {invocation : Invocation} {cause : Failure} {context inner : Context}
    {stopped stopped' stopped'' : Option Stop} :
    Polls client round (.invoke invocation) →
    LastRound client round (.error (.invoke cause))
      [.poll context stopped, .invoke invocation inner stopped', .handled (some cause) stopped'']

/-- A race that gives an event was decided by the poll. -/
lemma Gives.polls (h : Gives client parent watching s round event s') :
    Polls client round event := by
  obtain ⟨ended, ends, gives⟩ := h
  cases ends with
  | poll _ _ decides => exact ⟨ended, decides, gives⟩

/-- What is done in rounds that are handled does not depend on what happens around them. -/
lemma Handles.handlings
    (h : Handles client parent loopContext watching s rounds invocations deeds s') :
    Handlings client rounds invocations deeds := by
  induction h with
  | nil => exact .nil
  | cons gives handled _ ih =>
    simp only [handle, Callback.failure?, handled]
    exact .cons gives.polls ih

/-- What alarms a look is the error of something beside the loop. -/
lemma Alarms.isAlarm {e : RunError} (h : Alarms parent watching s e) : e.IsAlarm := by
  cases h with
  | stopped _ => exact .stopped _
  | signaled _ _ _ => exact .signaled _

/-- What is done in the last round has one of its few shapes. -/
lemma RoundEnds.lastRound
    (h : RoundEnds client parent loopContext watching s round result deeds s') :
    LastRound client round result deeds := by
  cases h with
  | alarm ends =>
    cases ends with
    | alarm _ _ alarms => exact .alarm alarms.isAlarm
  | unanswered ends fails =>
    cases ends with
    | poll _ _ decides => exact .unanswered decides fails
  | unhandled gives fails =>
    simp only [handle, Callback.failure?, fails]
    exact .unhandled gives.polls
  | shutdown gives => exact .shutdown gives.polls

end Run

end Sidecar
