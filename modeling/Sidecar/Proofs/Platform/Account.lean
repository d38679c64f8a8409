import Sidecar.Proofs.Platform.Steps

/-!
# What a stand-in keeps account of

Whatever happens to a stand-in and in whatever order: it hands out the events in the order in which they
were queued, and it has on record what it accepted, in the order in which it came. Each step adds to each
record what the happening amounts to; `KeepsAccount` is what this comes to over a run.
-/

namespace Sidecar.StandIn

/-- A stand-in to which nothing has happened. -/
def fresh (setup : Setup) (identifierAt : Nat → String) : StandIn := { setup, identifierAt }

/-! ## What a happening amounts to -/

/-- The event that is queued. -/
def enqueued? : Happening × Outcome → Option Json
  | (.enqueue event, _) => some event
  | _ => none

/-- The answer to a poll that was let in, at once or after a wait. -/
def handed? : Happening × Outcome → Option Response
  | (.request .next _ _, .replied (.response response)) =>
    if response.status = 403 then none else some response
  | (.delivery, .replied (.response response)) => some response
  | _ => none

/-- A poll comes in and is not forbidden. -/
def letsPoll : Happening × Outcome → Bool
  | (.request .next _ _, .replied .waiting) => true
  | (.request .next _ _, .replied (.response response)) => response.status ≠ 403
  | _ => false

def registered? (setup : Setup) : Happening × Outcome → Option (String → RecordedRegistration)
  | (.request .register headers body, _) => registration? setup (Route.register.request headers body)
  | _ => none

def reported? : Happening × Outcome → Option RecordedReport
  | (.request (.report kind) headers body, _) => report? kind ((Route.report kind).request headers body)
  | _ => none

def subscribed? (setup : Setup) : Happening × Outcome → Option RecordedSubscription
  | (.request (.subscribe api) headers body, _) =>
    subscription? setup api ((Route.subscribe api).request headers body)
  | _ => none

/-- The sequence number of a batch that was sent. -/
def sequenceNumber? : Happening × Outcome → Option String
  | (.push _, .pushed _ request) => request.headers.lookup sequenceHeader
  | _ => none

/-! ## What a step adds -/

section Additions

variable {p p' : StandIn} {happening : Happening} {outcome : Outcome}

/-- What a stand-in was set up with stays. -/
lemma Steps.setup_eq (steps : Steps p happening outcome p') : p'.setup = p.setup := by
  cases steps <;> rfl

/-- So do the identifiers that it gives out. -/
lemma Steps.identifierAt_eq (steps : Steps p happening outcome p') : p'.identifierAt = p.identifierAt := by
  cases steps <;> rfl

/-- An event leaves the queue for the delivered ones, and joins it at the end. -/
lemma Steps.events_eq (steps : Steps p happening outcome p') :
    p'.delivered ++ p'.queue = p.delivered ++ p.queue ++ (enqueued? (happening, outcome)).toList := by
  cases steps with
  | enqueued => simp [enqueued?]
  | served _ _ queued => simp [enqueued?, queued]
  | delivered _ queued => simp [enqueued?, queued]
  | _ => simp [enqueued?]

/-- An event is delivered just if a poll is answered with it. -/
lemma Steps.delivered_eq (steps : Steps p happening outcome p') :
    p'.delivered.map (json 200) =
      p.delivered.map (json 200) ++ (handed? (happening, outcome)).toList := by
  cases steps with
  | served => simp [handed?, json]
  | delivered => simp [handed?]
  | @rejected route _ _ _ _ forbidden => cases route <;> simp [handed?, forbidden]
  | _ => simp [handed?]

/-- A poll that is let in is one poll more, and nothing else is. -/
lemma Steps.polls_eq (steps : Steps p happening outcome p') :
    p'.polls = p.polls + (letsPoll (happening, outcome)).toNat := by
  cases steps with
  | polled => rfl
  | served => simp [letsPoll, json]
  | @rejected route _ _ _ _ forbidden => cases route <;> simp [letsPoll, forbidden]
  | _ => simp [letsPoll]

/-- Each poll that is let in waits or has been answered with an event. -/
lemma Steps.balance (steps : Steps p happening outcome p')
    (balanced : p.polls = p.delivered.length + p.isPolled.toNat) :
    p'.polls = p'.delivered.length + p'.isPolled.toNat := by
  cases steps with
  | polled _ idle => simpa [idle] using balanced
  | served _ idle => simpa [idle] using balanced
  | delivered waits => simpa [waits] using balanced
  | _ => exact balanced

/-- An extension that is accepted is one registration more. -/
lemma Steps.registrations_eq (steps : Steps p happening outcome p') :
    p'.registrations = p.registrations ++ ((registered? p.setup (happening, outcome)).map
      fun record => record (p.identifierAt p.registrations.length)).toList := by
  cases steps with
  | registered found => simp [registered?, found]
  | @rejected route _ _ _ unaccepted =>
    cases route with
    | register => simp [registered?, Option.not_isSome_iff_eq_none.mp unaccepted]
    | _ => simp [registered?]
  | _ => simp [registered?]

/-- A report that is accepted is one report more. -/
lemma Steps.reports_eq (steps : Steps p happening outcome p') :
    p'.reports = p.reports ++ (reported? (happening, outcome)).toList := by
  cases steps with
  | reported found => simp [reported?, found]
  | @rejected route _ _ _ unaccepted =>
    cases route with
    | report kind => simp [reported?, Option.not_isSome_iff_eq_none.mp unaccepted]
    | _ => simp [reported?]
  | _ => simp [reported?]

/-- A subscription that is accepted is one subscription more. -/
lemma Steps.subscriptions_eq (steps : Steps p happening outcome p') :
    p'.subscriptions = p.subscriptions ++ (subscribed? p.setup (happening, outcome)).toList := by
  cases steps with
  | subscribed found => simp [subscribed?, found]
  | @rejected route _ _ _ unaccepted =>
    cases route with
    | subscribe api => simp [subscribed?, Option.not_isSome_iff_eq_none.mp unaccepted]
    | _ => simp [subscribed?]
  | _ => simp [subscribed?]

/-- A batch that is sent has the number of those before it. -/
lemma Steps.pushes_eq (steps : Steps p happening outcome p') :
    (List.range p'.pushes).map toString =
      (List.range p.pushes).map toString ++ (sequenceNumber? (happening, outcome)).toList := by
  cases steps with
  | pushed _ carries => simp [sequenceNumber?, carries.numbered, List.range_succ]
  | _ => simp [sequenceNumber?]

end Additions

/-! ## Runs -/

variable {setup : Setup} {identifierAt : Nat → String} {p p' : StandIn}
variable {past history : List (Happening × Outcome)} {happening : Happening} {outcome : Outcome}
variable {happenings : List Happening}

/-- What a stand-in has on record agrees with what happened to it. -/
structure KeepsAccount (setup : Setup) (identifierAt : Nat → String) (past : List (Happening × Outcome))
    (p : StandIn) : Prop where
  setup_eq : p.setup = setup
  identifierAt_eq : p.identifierAt = identifierAt
  /-- No event is lost, duplicated or moved before another. -/
  events : p.delivered ++ p.queue = past.filterMap enqueued?
  /-- The polls were answered with the events that count as delivered. -/
  answers : past.filterMap handed? = p.delivered.map (json 200)
  /-- A poll that is forbidden is not counted. -/
  polls : p.polls = past.countP letsPoll
  balance : p.polls = p.delivered.length + p.isPolled.toNat
  registrations : p.registrations =
    (past.filterMap (registered? setup)).mapIdx fun i record => record (identifierAt i)
  reports : p.reports = past.filterMap reported?
  subscriptions : p.subscriptions = past.filterMap (subscribed? setup)
  pushes : past.filterMap sequenceNumber? = (List.range p.pushes).map toString

/-- A stand-in to which nothing has happened has nothing on record. -/
lemma KeepsAccount.of_fresh : KeepsAccount setup identifierAt [] (fresh setup identifierAt) where
  setup_eq := rfl
  identifierAt_eq := rfl
  events := rfl
  answers := rfl
  polls := rfl
  balance := rfl
  registrations := rfl
  reports := rfl
  subscriptions := rfl
  pushes := rfl

/-- What a happening amounts to comes behind what was before it. -/
lemma filterMap_snoc {α : Type} (f : Happening × Outcome → Option α) :
    (past ++ [(happening, outcome)]).filterMap f =
      past.filterMap f ++ (f (happening, outcome)).toList := by
  rw [List.filterMap_append]
  cases found : f (happening, outcome) <;> simp [found]

/-- What happens next keeps the records in agreement. -/
lemma KeepsAccount.of_steps (kept : KeepsAccount setup identifierAt past p)
    (steps : Steps p happening outcome p') :
    KeepsAccount setup identifierAt (past ++ [(happening, outcome)]) p' where
  setup_eq := by rw [steps.setup_eq, kept.setup_eq]
  identifierAt_eq := by rw [steps.identifierAt_eq, kept.identifierAt_eq]
  events := by rw [steps.events_eq, kept.events, filterMap_snoc]
  answers := by rw [steps.delivered_eq, ← kept.answers, filterMap_snoc]
  polls := by
    rw [steps.polls_eq, kept.polls, List.countP_append, List.countP_singleton]
    cases letsPoll (happening, outcome) <;> rfl
  balance := steps.balance kept.balance
  registrations := by
    -- The identifier that is given is the one with the number of those before it.
    rw [steps.registrations_eq, kept.setup_eq, kept.identifierAt_eq, filterMap_snoc, kept.registrations]
    cases registered? setup (happening, outcome) with
    | none => simp
    | some record => simp [List.mapIdx_concat]
  reports := by rw [steps.reports_eq, kept.reports, filterMap_snoc]
  subscriptions := by rw [steps.subscriptions_eq, kept.setup_eq, kept.subscriptions, filterMap_snoc]
  pushes := by rw [steps.pushes_eq, ← kept.pushes, filterMap_snoc]

/-- So does all that happens in a run. -/
lemma KeepsAccount.of_run? (kept : KeepsAccount setup identifierAt past p)
    (ran : p.run? happenings = some (history, p')) :
    KeepsAccount setup identifierAt (past ++ history) p' := by
  induction happenings generalizing past p history with
  | nil =>
    cases ran
    simpa using kept
  | cons happening rest ih =>
    obtain ⟨⟨outcome, next⟩, acted, ran⟩ := Option.bind_eq_some_iff.mp ran
    obtain ⟨⟨later, last⟩, ran, ⟨⟩⟩ := Option.bind_eq_some_iff.mp ran
    simpa using ih (kept.of_steps (steps_of_act? acted)) ran

/-- A run says of each happening what came of it. -/
lemma happenings_of_run? (ran : p.run? happenings = some (history, p')) :
    history.map Prod.fst = happenings := by
  induction happenings generalizing p history with
  | nil =>
    cases ran
    rfl
  | cons happening rest ih =>
    obtain ⟨⟨outcome, next⟩, -, ran⟩ := Option.bind_eq_some_iff.mp ran
    obtain ⟨⟨later, last⟩, ran, ⟨⟩⟩ := Option.bind_eq_some_iff.mp ran
    rw [List.map_cons, ih ran]

/-! ## What comes next -/

/-- The status with which a request is accepted that is answered at once. -/
def Route.success : Route → UInt16
  | .report _ => 202
  | _ => 200

/-- How a stand-in takes what happens next, whatever it is. -/
structure TakesNext (setup : Setup) (past : List (Happening × Outcome)) (p : StandIn) : Prop where
  /-- A poll is forbidden, and changes nothing, unless it comes from an extension that is registered. -/
  forbids : ∀ headers body,
    (∀ identifier, header? (Route.next.request headers body) Client.identifierHeader = some identifier →
      identifier ∉ p.registrations.map (·.identifier)) →
    ∃ response, p.respond (Route.next.request headers body) = (.response response, p) ∧
      response.status = 403
  /-- A request that is not accepted changes nothing. -/
  rejects : ∀ route headers body, ¬p.Accepts (route.request headers body) route →
    ∃ response, p.respond (route.request headers body) = (.response response, p)
  accepts : ∀ route headers body, p.Accepts (route.request headers body) route → route ≠ .next →
    ∃ response p', p.respond (route.request headers body) = (.response response, p') ∧
      response.status = route.success
  /-- A batch goes to the latest destination with the next number; without one it fails, and no number is
  used up. -/
  pushes : ∀ body,
    match (past.filterMap (subscribed? setup)).getLast? with
    | none => p.act? (.push body) = some (.failed .noSubscription, p)
    | some subscription =>
      ∃ request, p.act? (.push body) =
          some (.pushed subscription.uri request, { p with pushes := p.pushes + 1 }) ∧
        Carries request (past.filterMap sequenceNumber?).length body

/-- A stand-in whose records agree takes what happens next as it should. -/
lemma KeepsAccount.takesNext (kept : KeepsAccount setup identifierAt past p) : TakesNext setup past p where
  forbids := by
    intro headers body unknown
    have rejected : ¬p.Accepts (Route.next.request headers body) .next := by
      rintro ⟨identifier, identified, known⟩
      exact unknown identifier identified known
    obtain ⟨response, responded, forbidden⟩ := poll_of_not_accepts rejected
    exact ⟨response, by rw [respond_next, responded], forbidden⟩
  rejects := by
    intro route headers body rejected
    obtain ⟨response, responded, -⟩ := respond_of_not_accepts rejected
    exact ⟨response, responded⟩
  accepts := by
    intro route headers body accepted other
    rcases responded : p.respond (route.request headers body) with ⟨reply, p'⟩
    -- only a poll waits for one before it
    have unhindered : (p.isPolled && p.isLetIn route (route.request headers body)) = false := by
      simp [isLetIn, other]
    cases steps_of_accepts accepted unhindered responded with
    | registered _ succeeds => exact ⟨_, _, rfl, succeeds⟩
    | reported _ succeeds => exact ⟨_, _, rfl, succeeds⟩
    | subscribed _ succeeds => exact ⟨_, _, rfl, succeeds⟩
    | polled => exact absurd rfl other
    | served => exact absurd rfl other
    | rejected unaccepted => exact absurd accepted unaccepted
  pushes := by
    intro body
    rw [← kept.subscriptions]
    cases latest : p.subscriptions.getLast? with
    | none => exact push_of_none latest
    | some subscription =>
      rw [kept.pushes, List.length_map, List.length_range]
      exact push_of_some latest

/-- Whatever happens to a fresh stand-in is accounted for, at every point. -/
theorem happenings_areAccounted (ran : (fresh setup identifierAt).run? happenings = some (past, p)) :
    past.map Prod.fst = happenings ∧ KeepsAccount setup identifierAt past p ∧ TakesNext setup past p := by
  have kept : KeepsAccount setup identifierAt past p := KeepsAccount.of_fresh.of_run? ran
  exact ⟨happenings_of_run? ran, kept, kept.takesNext⟩

/-- An extension registers and subscribes, polls twice, the second time before there is an event, and is
sent two batches. Before that, it polls and is sent a batch in vain. -/
def rehearsal : List Happening :=
  let identified := [(Client.identifierHeader, "1")]
  let content := ("content-type", "application/json")
  [ .enqueue (.bool true),
    .request .next identified [],
    .push [],
    .request .register [content, (Client.nameHeader, "probe")] (Utf8.encode "\x7b\"events\": []\x7d"),
    .request .next identified [],
    .request (.subscribe .logs) (content :: identified)
      (Utf8.encode "\x7b\"destination\": \x7b\"protocol\": \"HTTP\", \"URI\": \"sink\"\x7d\x7d"),
    .request .next identified [],
    .push [],
    .enqueue (.bool false),
    .delivery,
    .push [] ]

/-- The rehearsal can be run, and is on record: two events, two polls, one registration, two batches. -/
theorem rehearsal_isAccounted :
    ∃ past p, (fresh {} fun i => toString (i + 1)).run? rehearsal = some (past, p) ∧
      (past.map Prod.fst = rehearsal ∧
        KeepsAccount {} (fun i => toString (i + 1)) past p ∧ TakesNext {} past p) ∧
      p.delivered.length = 2 ∧ p.polls = 2 ∧ p.registrations.length = 1 ∧ p.pushes = 2 := by
  have counted : ((fresh {} fun i => toString (i + 1)).run? rehearsal).map (fun run =>
      (run.2.delivered.length, run.2.polls, run.2.registrations.length, run.2.pushes)) =
        some (2, 2, 1, 2) := by
    decide +kernel
  obtain ⟨⟨past, p⟩, ran, counts⟩ := Option.map_eq_some_iff.mp counted
  simp only [Prod.mk.injEq] at counts
  exact ⟨past, p, ran, happenings_areAccounted ran, counts⟩

end Sidecar.StandIn
