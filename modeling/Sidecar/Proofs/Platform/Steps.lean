import Mathlib.Tactic.Lemma
import Sidecar.Platform.Answer
import Sidecar.Platform.Push
import Sidecar.Proofs.Json.Order

/-!
# What can happen to a stand-in

Events are queued, requests come in, a poll that waits is answered, a batch is pushed. `Steps` lists what
each of this does; a request does something just if it is accepted.
-/

namespace Sidecar.StandIn

/-! ## Happenings -/

/-- The request for a route. -/
def Route.request (route : Route) (headers : List (String × String)) (body : List UInt8) : Request :=
  match route with
  | .register => ⟨"POST", "/2020-01-01/extension/register", headers, body⟩
  | .next => ⟨"GET", "/2020-01-01/extension/event/next", headers, body⟩
  | .report .init => ⟨"POST", "/2020-01-01/extension/init/error", headers, body⟩
  | .report .exit => ⟨"POST", "/2020-01-01/extension/exit/error", headers, body⟩
  | .subscribe .logs => ⟨"PUT", "/2020-08-15/logs", headers, body⟩
  | .subscribe .telemetry => ⟨"PUT", "/2022-07-01/telemetry", headers, body⟩

inductive Happening where
  | enqueue (event : Json)
  | request (route : Route) (headers : List (String × String)) (body : List UInt8)
  /-- The poll that waits is answered. -/
  | delivery
  | push (body : List UInt8)

inductive Outcome where
  | nothing
  | replied (reply : Reply)
  /-- A batch was sent to a destination. -/
  | pushed (uri : String) (request : Request)
  | failed (error : Error)

/-- The request is a poll of an extension that is registered. -/
def isLetIn (p : StandIn) (route : Route) (r : Request) : Bool :=
  route = .next && (header? r Client.identifierHeader).any p.knows

/-- What comes of a happening. There is no delivery unless a poll waits and an event is queued, and no
second poll is let in while one waits. -/
def act? (p : StandIn) : Happening → Option (Outcome × StandIn)
  | .enqueue event => some (.nothing, p.enqueue event)
  | .request route headers body =>
    if p.isPolled && p.isLetIn route (route.request headers body) then none
    else
      let (reply, p) := p.respond (route.request headers body)
      some (.replied reply, p)
  | .delivery => p.deliver?.map fun (event, p) => (.replied (.response (json 200 event)), p)
  | .push body =>
    match p.push body with
    | .ok ((uri, request), p) => some (.pushed uri request, p)
    | .error error => some (.failed error, p)

/-- One happening after the other, each with its outcome. -/
def run? (p : StandIn) : List Happening → Option (List (Happening × Outcome) × StandIn)
  | [] => some ([], p)
  | happening :: rest => do
    let (outcome, p) ← p.act? happening
    let (history, p) ← p.run? rest
    return ((happening, outcome) :: history, p)

/-! ## Requests that are accepted -/

/-- What is recorded of a registration, but for its identifier, if it is accepted: the body names events,
the extension has a name, and no failure is canned. -/
def registration? (setup : Setup) (r : Request) : Option (String → RecordedRegistration) :=
  if setup.registerFailure.isSome then none
  else do
    let events ← (readBody (.record eventsForm) r).toOption
    let extensionName ← header? r Client.nameHeader
    return fun identifier =>
      { identifier, extensionName, events, feature := header? r Client.featureHeader }

/-- What is recorded of a report; its body must be text, and not too long. -/
def report? (kind : ReportKind) (r : Request) : Option RecordedReport :=
  (readText r).toOption.map fun body =>
    { kind
      identifier := header? r Client.identifierHeader
      type := (header? r Client.errorTypeHeader).getD ""
      body }

/-- What is recorded of a subscription, if it is accepted: the body is JSON with an HTTP destination and a
URI, it says who subscribes, and no failure is canned. -/
def subscription? (setup : Setup) (api : PushApi) (r : Request) : Option RecordedSubscription :=
  if setup.subscribeFailure.isSome then none
  else do
    let body ← (readBody .anything r).toOption
    let identifier ← header? r Client.identifierHeader
    let uri ← (destination? body).toOption
    return { api, identifier, uri, body }

/-- The request is accepted. -/
def Accepts (p : StandIn) (r : Request) : Route → Prop
  | .register => (registration? p.setup r).isSome
  | .next => ∃ identifier, header? r Client.identifierHeader = some identifier ∧
      identifier ∈ p.registrations.map (·.identifier)
  | .report kind => (report? kind r).isSome
  | .subscribe api => (subscription? p.setup api r).isSome

/-- The request carries a batch, under its number. -/
structure Carries (request : Request) (number : Nat) (body : List UInt8) : Prop where
  method : request.method = "POST"
  numbered : request.headers.lookup sequenceHeader = some (toString number)
  body : request.body = body

/-! ## Steps -/

variable {p p' : StandIn} {r : Request} {headers : List (String × String)} {body : List UInt8}

/-- What a happening does to a stand-in. -/
inductive Steps (p : StandIn) : Happening → Outcome → StandIn → Prop where
  | enqueued {event : Json} :
    Steps p (.enqueue event) .nothing { p with queue := p.queue ++ [event] }
  | registered {headers : List (String × String)} {body : List UInt8} {response : Response}
      {record : String → RecordedRegistration} :
    registration? p.setup (Route.register.request headers body) = some record →
    response.status = 200 →
    Steps p (.request .register headers body) (.replied (.response response))
      { p with registrations := p.registrations ++ [record (p.identifierAt p.registrations.length)] }
  | polled {headers : List (String × String)} {body : List UInt8} :
    p.Accepts (Route.next.request headers body) .next →
    p.isPolled = false →
    p.queue = [] →
    Steps p (.request .next headers body) (.replied .waiting)
      { p with polls := p.polls + 1, isPolled := true }
  | served {headers : List (String × String)} {body : List UInt8} {event : Json} {queue : List Json} :
    p.Accepts (Route.next.request headers body) .next →
    p.isPolled = false →
    p.queue = event :: queue →
    Steps p (.request .next headers body) (.replied (.response (json 200 event)))
      { p with polls := p.polls + 1, queue, delivered := p.delivered ++ [event], isPolled := false }
  | reported {kind : ReportKind} {headers : List (String × String)} {body : List UInt8}
      {response : Response} {record : RecordedReport} :
    report? kind ((Route.report kind).request headers body) = some record →
    response.status = 202 →
    Steps p (.request (.report kind) headers body) (.replied (.response response))
      { p with reports := p.reports ++ [record] }
  | subscribed {api : PushApi} {headers : List (String × String)} {body : List UInt8}
      {response : Response} {record : RecordedSubscription} :
    subscription? p.setup api ((Route.subscribe api).request headers body) = some record →
    response.status = 200 →
    Steps p (.request (.subscribe api) headers body) (.replied (.response response))
      { p with subscriptions := p.subscriptions ++ [record] }
  /-- A request that is not accepted changes nothing. -/
  | rejected {route : Route} {headers : List (String × String)} {body : List UInt8}
      {response : Response} :
    ¬p.Accepts (route.request headers body) route →
    (route = .next → response.status = 403) →
    Steps p (.request route headers body) (.replied (.response response)) p
  | delivered {event : Json} {queue : List Json} :
    p.isPolled = true →
    p.queue = event :: queue →
    Steps p .delivery (.replied (.response (json 200 event)))
      { p with queue, delivered := p.delivered ++ [event], isPolled := false }
  | pushed {body : List UInt8} {subscription : RecordedSubscription} {request : Request} :
    p.subscriptions.getLast? = some subscription →
    Carries request p.pushes body →
    Steps p (.push body) (.pushed subscription.uri request) { p with pushes := p.pushes + 1 }
  | unsubscribed {body : List UInt8} :
    p.subscriptions.getLast? = none →
    Steps p (.push body) (.failed .noSubscription) p

/-- The stand-in knows the identifiers that it has given out. -/
lemma knows_iff {identifier : String} :
    p.knows identifier ↔ identifier ∈ p.registrations.map (·.identifier) := by
  simp [knows]

/-- A poll is let in just if it is accepted. -/
lemma isLetIn_iff : p.isLetIn .next r ↔ p.Accepts r .next := by
  simp only [isLetIn, Accepts, ← knows_iff, decide_true, Bool.true_and, Option.any_eq_true]

/-- A request to register is answered as one. -/
lemma respond_register : p.respond (Route.register.request headers body) =
    (.response (p.register (Route.register.request headers body)).1,
      (p.register (Route.register.request headers body)).2) := rfl

/-- A request for the next event is a poll. -/
lemma respond_next : p.respond (Route.next.request headers body) =
    p.poll (Route.next.request headers body) := rfl

/-- A poll that asks for the head alone is a poll like any other. -/
lemma respond_head : p.respond { Route.next.request headers body with method := "HEAD" } =
    p.respond (Route.next.request headers body) := rfl

/-- A report is answered by its kind. -/
lemma respond_report {kind : ReportKind} : p.respond ((Route.report kind).request headers body) =
    (.response (p.report kind ((Route.report kind).request headers body)).1,
      (p.report kind ((Route.report kind).request headers body)).2) := by
  cases kind <;> rfl

/-- A subscription is answered by the API that it goes to. -/
lemma respond_subscribe {api : PushApi} : p.respond ((Route.subscribe api).request headers body) =
    (.response (p.subscribe api ((Route.subscribe api).request headers body)).1,
      (p.subscribe api ((Route.subscribe api).request headers body)).2) := by
  cases api <;> rfl

/-! ### Requests -/

/-- An extension that is accepted is recorded under a new identifier. -/
lemma register_of_some {record : String → RecordedRegistration}
    (accepted : registration? p.setup r = some record) :
    ∃ response, p.register r = (response,
        { p with registrations := p.registrations ++ [record (p.identifierAt p.registrations.length)] }) ∧
      response.status = 200 := by
  unfold registration? at accepted
  split at accepted
  · cases accepted
  next unfailing =>
  obtain ⟨events, read, accepted⟩ := Option.bind_eq_some_iff.mp accepted
  obtain ⟨extensionName, named, ⟨⟩⟩ := Option.bind_eq_some_iff.mp accepted
  have unfailing : p.setup.registerFailure = none := by simpa using unfailing
  exact ⟨_, by simp only [register, Json.toOption_eq_some_iff.mp read, unfailing, named]; rfl, rfl⟩

/-- One that is not leaves no trace. -/
lemma register_of_none (rejected : registration? p.setup r = none) :
    ∃ response, p.register r = (response, p) := by
  unfold register
  cases read : readBody (.record eventsForm) r with
  | error response => exact ⟨response, rfl⟩
  | ok events =>
    cases failing : p.setup.registerFailure with
    | some failure => exact ⟨canned failure, rfl⟩
    | none =>
      cases named : header? r Client.nameHeader with
      | none => exact ⟨_, rfl⟩
      | some extensionName => simp [registration?, failing, read, named, Except.toOption] at rejected

/-- A report that is accepted is recorded. -/
lemma report_of_some {kind : ReportKind} {record : RecordedReport}
    (accepted : report? kind r = some record) :
    ∃ response, p.report kind r = (response, { p with reports := p.reports ++ [record] }) ∧
      response.status = 202 := by
  obtain ⟨text, read, rfl⟩ := Option.map_eq_some_iff.mp accepted
  exact ⟨_, by simp only [report, Json.toOption_eq_some_iff.mp read]; rfl, rfl⟩

/-- One that is not leaves no trace. -/
lemma report_of_none {kind : ReportKind} (rejected : report? kind r = none) :
    ∃ response, p.report kind r = (response, p) := by
  have unread := Option.map_eq_none_iff.mp rejected
  unfold report
  cases read : readText r with
  | error response => exact ⟨response, rfl⟩
  | ok text =>
    rw [read] at unread
    cases unread

/-- A subscription that is accepted is recorded. -/
lemma subscribe_of_some {api : PushApi} {record : RecordedSubscription}
    (accepted : subscription? p.setup api r = some record) :
    ∃ response, p.subscribe api r = (response, { p with subscriptions := p.subscriptions ++ [record] }) ∧
      response.status = 200 := by
  unfold subscription? at accepted
  split at accepted
  · cases accepted
  next unfailing =>
  obtain ⟨body, read, accepted⟩ := Option.bind_eq_some_iff.mp accepted
  obtain ⟨identifier, identified, accepted⟩ := Option.bind_eq_some_iff.mp accepted
  obtain ⟨uri, destined, ⟨⟩⟩ := Option.bind_eq_some_iff.mp accepted
  have unfailing : p.setup.subscribeFailure = none := by simpa using unfailing
  exact ⟨_, by simp only [subscribe, Json.toOption_eq_some_iff.mp read, unfailing, identified,
    Json.toOption_eq_some_iff.mp destined]; rfl, rfl⟩

/-- One that is not leaves no trace. -/
lemma subscribe_of_none {api : PushApi} (rejected : subscription? p.setup api r = none) :
    ∃ response, p.subscribe api r = (response, p) := by
  unfold subscribe
  cases read : readBody .anything r with
  | error response => exact ⟨response, rfl⟩
  | ok body =>
    cases failing : p.setup.subscribeFailure with
    | some failure => exact ⟨canned failure, rfl⟩
    | none =>
      cases identified : header? r Client.identifierHeader with
      | none => exact ⟨missingIdentifier, rfl⟩
      | some identifier =>
        cases destined : destination? body with
        | error response => exact ⟨response, by simp only [destined]⟩
        | ok uri =>
          simp [subscription?, failing, read, identified, destined, Except.toOption] at rejected

/-- Without an event a poll goes on waiting. -/
lemma answerPoll_of_nil {p : StandIn} (queued : p.queue = []) : p.answerPoll = (.waiting, p) := by
  have idle : p.deliver? = none := by
    rw [deliver?, queued]
    cases p.isPolled <;> rfl
  rw [answerPoll, idle]

/-- The first event that was queued answers the poll that waits. -/
lemma answerPoll_of_cons {p : StandIn} {event : Json} {queue : List Json} (polled : p.isPolled = true)
    (queued : p.queue = event :: queue) :
    p.answerPoll = (.response (json 200 event),
      { p with queue, delivered := p.delivered ++ [event], isPolled := false }) := by
  simp only [answerPoll, deliver?, polled, queued]

/-- A poll that is accepted counts, and waits for an answer. -/
lemma poll_of_accepts (accepted : p.Accepts r .next) :
    p.poll r = answerPoll { p with polls := p.polls + 1, isPolled := true } := by
  obtain ⟨identifier, identified, known⟩ := accepted
  simp only [poll, identified, knows_iff.mpr known, if_true]

/-- It goes on waiting if there is no event. -/
lemma poll_of_nil (accepted : p.Accepts r .next) (queued : p.queue = []) :
    p.poll r = (.waiting, { p with polls := p.polls + 1, isPolled := true }) := by
  rw [poll_of_accepts accepted]
  exact answerPoll_of_nil queued

/-- It is answered at once if there is one. -/
lemma poll_of_cons {event : Json} {queue : List Json} (accepted : p.Accepts r .next)
    (queued : p.queue = event :: queue) :
    p.poll r = (.response (json 200 event),
      { p with polls := p.polls + 1, queue, delivered := p.delivered ++ [event], isPolled := false }) := by
  rw [poll_of_accepts accepted]
  exact answerPoll_of_cons rfl queued

/-- A poll that is not accepted is forbidden and leaves no trace. -/
lemma poll_of_not_accepts (rejected : ¬p.Accepts r .next) :
    ∃ response, p.poll r = (.response response, p) ∧ response.status = 403 := by
  unfold poll
  cases identified : header? r Client.identifierHeader with
  | none => exact ⟨missingIdentifier, rfl, rfl⟩
  | some identifier =>
    have unknown : ¬p.knows identifier := fun known => rejected ⟨identifier, identified, knows_iff.mp known⟩
    dsimp only
    rw [if_neg unknown]
    exact ⟨_, rfl, rfl⟩

/-- What comes of a request that is not accepted. -/
lemma respond_of_not_accepts {route : Route} (rejected : ¬p.Accepts (route.request headers body) route) :
    ∃ response, p.respond (route.request headers body) = (.response response, p) ∧
      (route = .next → response.status = 403) := by
  cases route with
  | register =>
    obtain ⟨response, turned⟩ := register_of_none (Option.not_isSome_iff_eq_none.mp rejected)
    exact ⟨response, by rw [respond_register, turned], fun other => nomatch other⟩
  | next =>
    obtain ⟨response, turned, forbidden⟩ := poll_of_not_accepts rejected
    exact ⟨response, by rw [respond_next, turned], fun _ => forbidden⟩
  | report kind =>
    obtain ⟨response, turned⟩ := report_of_none (Option.not_isSome_iff_eq_none.mp rejected)
    exact ⟨response, by rw [respond_report, turned], fun other => nomatch other⟩
  | subscribe api =>
    obtain ⟨response, turned⟩ := subscribe_of_none (Option.not_isSome_iff_eq_none.mp rejected)
    exact ⟨response, by rw [respond_subscribe, turned], fun other => nomatch other⟩

/-- A request that is accepted does what its route says. -/
lemma steps_of_accepts {route : Route} {reply : Reply}
    (accepted : p.Accepts (route.request headers body) route)
    (single : (p.isPolled && p.isLetIn route (route.request headers body)) = false)
    (responded : p.respond (route.request headers body) = (reply, p')) :
    Steps p (.request route headers body) (.replied reply) p' := by
  cases route with
  | register =>
    obtain ⟨record, found⟩ := Option.isSome_iff_exists.mp accepted
    obtain ⟨response, answered, welcomed⟩ := register_of_some found
    rw [respond_register, answered] at responded
    cases responded
    exact .registered found welcomed
  | next =>
    -- The poll is let in, so no other one waits.
    have unpolled : p.isPolled = false := by simpa [isLetIn_iff.mpr accepted] using single
    cases queued : p.queue with
    | nil =>
      rw [respond_next, poll_of_nil accepted queued] at responded
      cases responded
      exact .polled accepted unpolled queued
    | cons event queue =>
      rw [respond_next, poll_of_cons accepted queued] at responded
      cases responded
      exact .served accepted unpolled queued
  | report kind =>
    obtain ⟨record, found⟩ := Option.isSome_iff_exists.mp accepted
    obtain ⟨response, answered, welcomed⟩ := report_of_some found
    rw [respond_report, answered] at responded
    cases responded
    exact .reported found welcomed
  | subscribe api =>
    obtain ⟨record, found⟩ := Option.isSome_iff_exists.mp accepted
    obtain ⟨response, answered, welcomed⟩ := subscribe_of_some found
    rw [respond_subscribe, answered] at responded
    cases responded
    exact .subscribed found welcomed

/-! ### Batches -/

/-- Without a subscription no batch can be pushed. -/
lemma push_of_none (unsubscribed : p.subscriptions.getLast? = none) :
    p.act? (.push body) = some (.failed .noSubscription, p) := by
  simp only [act?, push, unsubscribed]

/-- A batch goes to the destination of the latest subscription, with the next number. -/
lemma push_of_some {subscription : RecordedSubscription}
    (latest : p.subscriptions.getLast? = some subscription) :
    ∃ request, p.act? (.push body) =
        some (.pushed subscription.uri request, { p with pushes := p.pushes + 1 }) ∧
      Carries request p.pushes body := by
  let request : Request :=
    ⟨"POST", "", [Client.jsonContent, (sequenceHeader, toString p.pushes)], body⟩
  exact ⟨request, by simp only [act?, push, latest, request], rfl, rfl, rfl⟩

/-- Nothing else happens. -/
lemma steps_of_act? {happening : Happening} {outcome : Outcome}
    (acted : p.act? happening = some (outcome, p')) : Steps p happening outcome p' := by
  cases happening with
  | enqueue event =>
    cases acted
    exact .enqueued
  | request route headers body =>
    rw [act?] at acted
    split at acted
    · cases acted
    next single =>
    by_cases accepted : p.Accepts (route.request headers body) route
    · obtain ⟨rfl, rfl⟩ := Prod.mk.inj (Option.some.inj acted)
      exact steps_of_accepts accepted (by simpa using single) rfl
    · obtain ⟨response, responded, forbidden⟩ := respond_of_not_accepts accepted
      rw [responded] at acted
      cases acted
      exact .rejected accepted forbidden
  | delivery =>
    obtain ⟨⟨event, _⟩, delivers, ⟨⟩⟩ := Option.map_eq_some_iff.mp acted
    unfold deliver? at delivers
    split at delivers
    next polled queued =>
      cases delivers
      exact .delivered polled queued
    · cases delivers
  | push body =>
    cases latest : p.subscriptions.getLast? with
    | none =>
      rw [push_of_none latest] at acted
      cases acted
      exact .unsubscribed latest
    | some subscription =>
      obtain ⟨request, pushed, carries⟩ := push_of_some latest
      rw [pushed] at acted
      cases acted
      exact .pushed latest carries

end Sidecar.StandIn
