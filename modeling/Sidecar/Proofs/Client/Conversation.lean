import Sidecar.Proofs.Client.Calls

/-!
# Talking to the platform

Registering makes a client of an answer with status 200 that says the identifier and tells the function. What
the client asks after that succeeds or fails by the answer to it alone, and goes out with this identifier
(`KeepsProtocol`).
-/

namespace Sidecar

/-! ## Registering -/

namespace Registering

variable {r : Registering} {env : Environment} {program address : String} {stopped : Option Stop}
  {exchange : Exchange} {response : Response} {client : Client}

/-- The client that an answer makes. -/
structure Accepts (address : String) (response : Response) (client : Client) : Prop where
  address : client.address = address
  identifier : response.Says Client.identifierHeader client.identifier
  nonempty : client.identifier ≠ ""
  registration : Registration.codec.decode response.body = .ok client.registration

/-- What is wrong with an answer that makes no client. The body is looked at only if there is an
identifier. -/
inductive Misreads (response : Response) : CallError → Prop where
  | unidentified :
    (∀ identifier, response.Says Client.identifierHeader identifier → identifier = "") →
    Misreads response .missingIdentifier
  | unreadable {identifier : String} {fault : Json.Fault} :
    response.Says Client.identifierHeader identifier →
    identifier ≠ "" →
    Registration.codec.decode response.body = .error fault →
    Misreads response (.unreadable (Utf8.lossy response.body) fault)

/-- An identifier is told if it is not empty. -/
lemma identifier?_eq_some_iff {identifier : String} :
    (response.header? Client.identifierHeader).filter (!·.isEmpty) = some identifier ↔
      response.Says Client.identifierHeader identifier ∧ identifier ≠ "" := by
  rw [Option.filter_eq_some_iff, Response.header?_eq_some_iff]
  simp

/-- None is told if there is no header for it, or an empty one. -/
lemma identifier?_eq_none_iff :
    (response.header? Client.identifierHeader).filter (!·.isEmpty) = none ↔
      ∀ identifier, response.Says Client.identifierHeader identifier → identifier = "" := by
  simp only [Option.eq_none_iff_forall_ne_some, ne_eq, identifier?_eq_some_iff, not_and, not_not]

/-- With an identifier the registration is read from the body. -/
lemma readClient_of_identifier {identifier : String}
    (told : response.Says Client.identifierHeader identifier) (nonempty : identifier ≠ "") :
    readClient address response =
      (Call.readBody Registration.codec response).map (⟨address, identifier, ·⟩) := by
  rw [readClient, identifier?_eq_some_iff.mpr ⟨told, nonempty⟩]
  cases Call.readBody Registration.codec response <;> rfl

/-- Without one the body is not looked at. -/
lemma readClient_unidentified
    (unidentified : ∀ identifier, response.Says Client.identifierHeader identifier → identifier = "") :
    readClient address response = .error .missingIdentifier := by
  rw [readClient, identifier?_eq_none_iff.mpr unidentified]

/-- A client is read just from what is acceptable. -/
lemma readClient_eq_ok_iff :
    readClient address response = .ok client ↔ Accepts address response client := by
  constructor
  · intro read
    cases found : (response.header? Client.identifierHeader).filter (!·.isEmpty) with
    | none =>
      rw [readClient_unidentified (identifier?_eq_none_iff.mp found)] at read
      cases read
    | some identifier =>
      obtain ⟨told, nonempty⟩ := identifier?_eq_some_iff.mp found
      rw [readClient_of_identifier told nonempty, Call.readBody] at read
      cases decoded : Registration.codec.decode response.body with
      | error fault =>
        rw [decoded] at read
        cases read
      | ok registration =>
        rw [decoded] at read
        cases read
        exact ⟨rfl, told, nonempty, decoded⟩
  · rintro ⟨rfl, told, nonempty, decoded⟩
    rw [readClient_of_identifier told nonempty, Call.readBody, decoded]
    rfl

/-- It is not read for want of an identifier, or because the body is no registration. -/
lemma readClient_eq_error_iff {error : CallError} :
    readClient address response = .error error ↔ Misreads response error := by
  constructor
  · intro read
    cases found : (response.header? Client.identifierHeader).filter (!·.isEmpty) with
    | none =>
      have unidentified := identifier?_eq_none_iff.mp found
      rw [readClient_unidentified unidentified] at read
      cases read
      exact .unidentified unidentified
    | some identifier =>
      obtain ⟨told, nonempty⟩ := identifier?_eq_some_iff.mp found
      rw [readClient_of_identifier told nonempty, Call.readBody] at read
      cases decoded : Registration.codec.decode response.body with
      | error fault =>
        rw [decoded] at read
        cases read
        exact .unreadable told nonempty decoded
      | ok registration =>
        rw [decoded] at read
        cases read
  · rintro (unidentified | ⟨told, nonempty, decoded⟩)
    · exact readClient_unidentified unidentified
    · rw [readClient_of_identifier told nonempty, Call.readBody, decoded]
      rfl

/-- How registering fails, if not for want of an address: no request can be made to the address, or the call
fails that is made there. -/
inductive Fails (r : Registering) (address program : String) (stopped : Option Stop)
    (exchange : Exchange) : CallError → Prop where
  | unmade :
    r.takesAddress address = false →
    Fails r address program stopped exchange (Call.unmade stopped)
  | called {error : CallError} :
    r.takesAddress address = true →
    (r.call address program).Fails 200 Misreads stopped exchange error →
    Fails r address program stopped exchange error

/-- Which result registering has, and whether a request is sent for it. -/
structure Outcomes (r : Registering) (env : Environment) (program : String) (stopped : Option Stop)
    (exchange : Exchange) : Prop where
  ok_iff : ∀ client, (r.register env program stopped exchange).1 = .ok client ↔
    ∃ address response, r.address? env = some address ∧ r.takesAddress address = true ∧
      (r.call address program).Receives stopped exchange response ∧ response.status = 200 ∧
        Accepts address response client
  error_iff : ∀ error, (r.register env program stopped exchange).1 = .error error ↔
    r.address? env = none ∧ error = .missingAddress ∨
      ∃ address, r.address? env = some address ∧ r.Fails address program stopped exchange error
  sent_iff : ∀ request, (r.register env program stopped exchange).2 = some request ↔
    ∃ address, r.address? env = some address ∧ r.takesAddress address = true ∧
      (r.call address program).IsSent stopped ∧ request = (r.call address program).request

/-- Without an address registering fails before anything else. -/
lemma register_of_unknown (unknown : r.address? env = none) :
    r.register env program stopped exchange = (.error .missingAddress, none) := by
  simp only [register, unknown]

/-- At an address that is taken registering is one call. -/
lemma register_of_taken (known : r.address? env = some address)
    (taken : r.takesAddress address = true) :
    r.register env program stopped exchange = (r.call address program).perform stopped exchange := by
  simp only [register, known, taken, if_true]

/-- At an address that is not taken nothing is sent. -/
lemma register_of_untaken (known : r.address? env = some address)
    (untaken : r.takesAddress address = false) :
    r.register env program stopped exchange = (.error (Call.unmade stopped), none) := by
  simp only [register, known, untaken, Bool.false_eq_true, if_false]

/-- At an address that is taken registering fails as its call does. -/
lemma fails_iff_of_taken {error : CallError} (taken : r.takesAddress address = true) :
    r.Fails address program stopped exchange error ↔
      (r.call address program).Fails 200 Misreads stopped exchange error := by
  constructor
  · rintro (untaken | ⟨-, fails⟩)
    · rw [taken] at untaken
      cases untaken
    · exact fails
  · exact .called taken

/-- At an address that is not taken registering fails as a call whose request cannot be made. -/
lemma fails_iff_of_untaken {error : CallError} (untaken : r.takesAddress address = false) :
    r.Fails address program stopped exchange error ↔ error = Call.unmade stopped := by
  constructor
  · rintro (- | ⟨taken, -⟩)
    · rfl
    · rw [untaken] at taken
      cases taken
  · rintro rfl
    exact .unmade untaken

/-- What comes of registering is told apart for every address, context and exchange. -/
lemma outcomes (r : Registering) (env : Environment) (program : String) (stopped : Option Stop)
    (exchange : Exchange) : r.Outcomes env program stopped exchange := by
  cases known : r.address? env with
  | none =>
    constructor
    case ok_iff => simp [register_of_unknown known, known]
    case error_iff => simp [register_of_unknown known, known, @eq_comm _ CallError.missingAddress]
    case sent_iff => simp [register_of_unknown known, known]
  | some address =>
    cases taken : r.takesAddress address with
    | false =>
      constructor
      case ok_iff => simp [register_of_untaken known taken, known, taken]
      case error_iff =>
        simp [register_of_untaken known taken, known, fails_iff_of_untaken taken,
          @eq_comm _ (Call.unmade stopped)]
      case sent_iff => simp [register_of_untaken known taken, known, taken]
    | true =>
      have called : (r.call address program).Outcomes 200 (Accepts address) Misreads stopped exchange :=
        Call.outcomes (fun _ _ => readClient_eq_ok_iff) (fun _ _ => readClient_eq_error_iff) ..
      constructor
      case ok_iff => simp [register_of_taken known taken, known, taken, called.ok_iff]
      case error_iff =>
        simp [register_of_taken known taken, known, fails_iff_of_taken taken, called.error_iff]
      case sent_iff => simp [register_of_taken known taken, known, taken, called.sent_iff]

/-- The identifier of a registered client may stand in a header. -/
lemma isHeaderChar_identifier (h : (r.register env program stopped exchange).1 = .ok client) :
    client.identifier.toList.all Request.isHeaderChar = true := by
  obtain ⟨_, response, -, -, -, -, accepts⟩ := ((r.outcomes ..).ok_iff client).mp h
  exact Response.isHeaderChar_of_header? (Response.header?_eq_some_iff.mpr accepts.identifier)

end Registering

/-! ## The client -/

/-- The values of a header. -/
def Request.values (r : Request) (name : String) : List String :=
  (r.headers.filter (·.1 = name)).map Prod.snd

/-- A body is read as what it decodes to. -/
lemma Call.readBody_eq_ok_iff {α : Type} {codec : Json.Codec α} {response : Response} {value : α} :
    readBody codec response = .ok value ↔ codec.decode response.body = .ok value := by
  rw [readBody]
  cases codec.decode response.body <;> simp

/-- A body that is not decoded is unreadable, and the error holds its text. -/
lemma Call.readBody_eq_error_iff {α : Type} {codec : Json.Codec α} {response : Response}
    {error : CallError} :
    readBody codec response = .error error ↔ ∃ fault, codec.decode response.body = .error fault ∧
      error = .unreadable (Utf8.lossy response.body) fault := by
  rw [readBody]
  cases codec.decode response.body <;> simp [eq_comm]

namespace Client

section Sendable

variable {c : Client} (printable : c.identifier.toList.all Request.isHeaderChar = true)
include printable

/-- A poll can always be written. -/
lemma isSendable_next : c.next.request.isSendable = true := by
  simp only [Request.isSendable, next, request, List.all_cons, List.all_nil, printable, Bool.and_self]

/-- A report can be written just if the type of its error may stand in a header. -/
lemma isSendable_report_iff {action type text : String} :
    (c.report action type text).request.isSendable = true ↔
      type.toList.all Request.isHeaderChar = true := by
  have content : jsonContent.2.toList.all Request.isHeaderChar = true := by decide
  simp only [Request.isSendable, report, request, List.all_cons, List.all_nil, printable, content,
    Bool.and_true, Bool.true_and]

/-- A subscription can always be written. -/
lemma isSendable_subscribe {path : String} {body : Json} :
    (c.subscribe path body).request.isSendable = true := by
  have content : jsonContent.2.toList.all Request.isHeaderChar = true := by decide
  simp only [Request.isSendable, subscribe, List.all_cons, List.all_nil, printable, content,
    Bool.and_self]

end Sendable

/-- What a client is used for. -/
inductive Operation where
  | next
  | initError (type text : String)
  | exitError (type text : String)
  | subscribeLogs (s : LogsSubscription)
  | subscribeTelemetry (s : TelemetrySubscription)

namespace Operation

/-- What an operation gives when it succeeds. -/
def Answer : Operation → Type
  | next => Event
  | initError .. | exitError .. => Acknowledgement
  | subscribeLogs _ | subscribeTelemetry _ => Unit

def call (c : Client) : (op : Operation) → Call op.Answer
  | next => c.next
  | initError type text => c.initError type text
  | exitError type text => c.exitError type text
  | subscribeLogs s => c.subscribeLogs s
  | subscribeTelemetry s => c.subscribeTelemetry s

/-- The status of an answer that takes the operation. -/
def expected : Operation → UInt16
  | next => 200
  | initError .. | exitError .. => 202
  | subscribeLogs _ | subscribeTelemetry _ => 200

/-- Reads the body of such an answer; that of an answer to a subscription may be anything. -/
def decode : (op : Operation) → List UInt8 → Except Json.Fault op.Answer
  | next => Event.codec.decode
  | initError .. | exitError .. => Acknowledgement.codec.decode
  | subscribeLogs _ | subscribeTelemetry _ => fun _ => .ok ()

def Accepts (op : Operation) (response : Response) (answer : op.Answer) : Prop :=
  op.decode response.body = .ok answer

/-- The body of a response is not what the operation wants, and this is the error that says so. -/
def Misreads (op : Operation) (response : Response) (error : CallError) : Prop :=
  ∃ fault, op.decode response.body = .error fault ∧
    error = .unreadable (Utf8.lossy response.body) fault

/-- The type of the error can be written, if one is reported. -/
def IsWritable : Operation → Prop
  | initError type _ | exitError type _ => type.toList.all Request.isHeaderChar = true
  | next | subscribeLogs _ | subscribeTelemetry _ => True

variable {op : Operation} {c : Client} {response : Response}

/-- The response of an operation is read as the answer that it accepts. -/
lemma read_eq_ok_iff {answer : op.Answer} :
    (op.call c).read response = .ok answer ↔ op.Accepts response answer := by
  cases op with
  | next | initError | exitError => exact Call.readBody_eq_ok_iff
  | subscribeLogs | subscribeTelemetry => exact ⟨fun _ => rfl, fun _ => rfl⟩

/-- It is not read for the reasons for which the operation misreads it. -/
lemma read_eq_error_iff {error : CallError} :
    (op.call c).read response = .error error ↔ op.Misreads response error := by
  cases op with
  | next | initError | exitError => exact Call.readBody_eq_error_iff
  | subscribeLogs | subscribeTelemetry =>
    constructor
    · rintro ⟨⟩
    · rintro ⟨_, ⟨⟩, -⟩

/-- Each operation expects its own status. -/
lemma expected_call : (op.call c).expected = op.expected := by
  cases op <;> rfl

/-- What comes of an operation is told apart for every context and exchange. -/
lemma outcomes (op : Operation) (c : Client) (stopped : Option Stop) (exchange : Exchange) :
    (op.call c).Outcomes op.expected op.Accepts op.Misreads stopped exchange := by
  rw [← expected_call (c := c)]
  exact Call.outcomes (fun _ _ => read_eq_ok_iff) (fun _ _ => read_eq_error_iff) stopped exchange

/-- Every request says once who sends it. -/
lemma values_identifierHeader :
    (op.call c).request.values identifierHeader = [c.identifier] := by
  cases op <;> rfl

/-- Nothing but the type of a reported error can keep a request from being written. -/
lemma isSendable_iff (printable : c.identifier.toList.all Request.isHeaderChar = true) :
    (op.call c).request.isSendable = true ↔ op.IsWritable := by
  cases op with
  | next => simp only [call, isSendable_next printable, IsWritable]
  | initError | exitError => exact isSendable_report_iff printable
  | subscribeLogs | subscribeTelemetry => exact iff_true_intro (isSendable_subscribe printable)

end Operation

/-- One use of a client: what for, whether its context has stopped, and what comes of the request. -/
structure Use where
  operation : Operation
  stopped : Option Stop
  exchange : Exchange

/-- The requests that a client sends, use after use. -/
def requests (c : Client) (uses : List Use) : List Request :=
  uses.filterMap fun use => ((use.operation.call c).perform use.stopped use.exchange).2

/-- The requests of a client are those of the uses that are sent. -/
lemma mem_requests_iff {c : Client} {uses : List Use} {request : Request} :
    request ∈ c.requests uses ↔ ∃ use ∈ uses, (use.operation.call c).IsSent use.stopped ∧
      request = (use.operation.call c).request := by
  simp only [requests, List.mem_filterMap, (Operation.outcomes _ c _ _).sent_iff]

end Client

/-- Registering, and the client that comes of it, keep to the protocol of the platform. -/
structure KeepsProtocol (r : Registering) (env : Environment) (program : String) : Prop where
  registers : ∀ stopped exchange, r.Outcomes env program stopped exchange
  operates : ∀ (c : Client) (op : Client.Operation) stopped exchange,
    (op.call c).Outcomes op.expected op.Accepts op.Misreads stopped exchange
  /-- Every request of a client says who sends it: the one that the answer to its registration named. -/
  identified : ∀ stopped exchange c, (r.register env program stopped exchange).1 = .ok c →
    ∃ response, exchange = .answered response ∧
      response.Says Client.identifierHeader c.identifier ∧
      ∀ uses, ∀ request ∈ c.requests uses, request.values Client.identifierHeader = [c.identifier]
  /-- In a context that goes on it is sent, unless it is to report a type that cannot be written. -/
  sends : ∀ stopped exchange c, (r.register env program stopped exchange).1 = .ok c →
    ∀ op : Client.Operation, (op.call c).IsSent none ↔ op.IsWritable

/-- Registering and all that comes after it keep to the protocol. -/
theorem client_keepsProtocol (r : Registering) (env : Environment) (program : String) :
    KeepsProtocol r env program where
  registers := r.outcomes env program
  operates c op := op.outcomes c
  identified stopped exchange c registered := by
    obtain ⟨_, response, -, -, received, -, accepts⟩ := ((r.outcomes ..).ok_iff c).mp registered
    refine ⟨response, received.answered, accepts.identifier, fun uses request mem => ?_⟩
    obtain ⟨use, -, -, rfl⟩ := Client.mem_requests_iff.mp mem
    exact Client.Operation.values_identifierHeader
  sends stopped exchange c registered op := by
    rw [← Client.Operation.isSendable_iff (Registering.isHeaderChar_identifier registered)]
    exact ⟨fun sent => sent.sendable, fun sendable => ⟨rfl, sendable⟩⟩

end Sidecar
