import Sidecar.Platform.MediaType
import Sidecar.Platform.State

/-!
# Answers of a stand-in

Each request is answered at once, except for a poll, which waits until there is an event. A request
that is turned down leaves no trace.

Of the headers of a response only those are given that a client looks at. What carries the responses adds
others, and to a poll that asks for the head alone it sends no body.
-/

namespace Sidecar

/-- What comes of a request to a stand-in. -/
inductive StandIn.Reply where
  | response (r : Response)
  /-- The poll waits for an event. -/
  | waiting
  deriving DecidableEq, Repr

namespace StandIn

/-- The value of a header, if all of it can be printed. -/
def header? (r : Request) (name : String) : Option String :=
  (r.headers.lookup name).filter
    (·.toList.all fun c => c = '\t' || (0x20 ≤ c.toNat && c.toNat < 0x7F))

/-! ## Responses -/

/-- A response without a body of its own. -/
def empty (status : UInt16) : Response := ⟨status, [], []⟩

def plain (status : UInt16) (text : String) : Response := ⟨status, [], Utf8.encode text⟩

def json (status : UInt16) (value : Json) : Response :=
  ⟨status, [("content-type", Utf8.encode "application/json")], value.toBytes⟩

def rejection (status : UInt16) (type details : String) : Response :=
  json status ((Rejection.codec status).write ⟨status, type, details⟩)

/-- A canned response. A status that is none becomes that of a bad request. -/
def canned (answer : CannedAnswer) : Response :=
  let status := if 100 ≤ answer.status ∧ answer.status ≤ 999 then answer.status else 400
  plain (UInt16.ofNat status) answer.body

def missingIdentifier : Response :=
  rejection 403 "Extension.MissingExtensionIdentifier"
    "Missing Lambda-Extension-Identifier header"

/-! ## Bodies -/

/-- Whether a request says that its body is JSON. -/
def hasJsonContent (r : Request) : Bool :=
  ((header? r "content-type").bind fun value => MediaType.parse? value.toList).any MediaType.isJson

/-- The most bytes that the body of a request may have. -/
def bodyLimit : Nat := 2097152

/-- Takes in the body of a request, unless it is too long. -/
def takeBody (r : Request) : Except Response (List UInt8) :=
  if bodyLimit < r.body.length then .error (empty 413) else .ok r.body

/-- Reads the body of a request as text. -/
def readText (r : Request) : Except Response String := do
  match Utf8.decode? (← takeBody r) with
  | some text => return text
  | none => .error (empty 400)

/-- Reads the body of a request, or says why it cannot be read. What it says of itself is looked at first.
-/
def readBody (codec : Json.Codec α) (r : Request) : Except Response α :=
  if !hasJsonContent r then .error (empty 415)
  else do
    match codec.decode (← takeBody r) with
    | .ok value => return value
    | .error .mismatched => .error (empty 422)
    | .error _ => .error (empty 400)

def eventsForm : Json.Form (List String) (List String) :=
  Json.Form.make id
    |>.field "events" (.list .string) id

/-! ## Requests -/

def register (p : StandIn) (r : Request) : Response × StandIn :=
  match readBody (.record eventsForm) r with
  | .error response => (response, p)
  | .ok events =>
    match p.setup.registerFailure, header? r Client.nameHeader with
    | some failure, _ => (canned failure, p)
    | none, none =>
      (rejection 400 "InvalidRequest" "Missing Lambda-Extension-Name header", p)
    | none, some extensionName =>
      let identifier := p.identifierAt p.registrations.length
      let recorded : RecordedRegistration :=
        { identifier, extensionName, events, feature := header? r Client.featureHeader }
      let answer := json 200 (Registration.codec.write
        { functionName := p.setup.functionName
          functionVersion := p.setup.functionVersion
          handler := p.setup.handler
          accountId := p.setup.accountId })
      let given :=
        if p.setup.givesIdentifier then [(Client.identifierHeader, Utf8.encode identifier)] else []
      ({ answer with headers := given ++ answer.headers },
        { p with registrations := p.registrations ++ [recorded] })

/-- Whether an identifier belongs to a registration. -/
def knows (p : StandIn) (identifier : String) : Bool :=
  p.registrations.any (·.identifier = identifier)

/-- Answers a poll that waits, if there is an event. -/
def answerPoll (p : StandIn) : Reply × StandIn :=
  match p.deliver? with
  | some (event, p) => (.response (json 200 event), p)
  | none => (.waiting, p)

/-- Lets a poll through to the queue. -/
def poll (p : StandIn) (r : Request) : Reply × StandIn :=
  match header? r Client.identifierHeader with
  | none => (.response missingIdentifier, p)
  | some identifier =>
    if p.knows identifier then answerPoll { p with polls := p.polls + 1, isPolled := true }
    else
      (.response (rejection 403 "Extension.UnknownExtensionIdentifier"
        "Extension not registered"), p)

def report (p : StandIn) (kind : ReportKind) (r : Request) : Response × StandIn :=
  match readText r with
  | .error response => (response, p)
  | .ok body =>
    let recorded : RecordedReport :=
      { kind
        identifier := header? r Client.identifierHeader
        type := (header? r Client.errorTypeHeader).getD ""
        body }
    (json 202 (Acknowledgement.codec.write ⟨"OK"⟩), { p with reports := p.reports ++ [recorded] })

/-- The destination in the body of a subscription. -/
def destination? (body : Json) : Except Response String :=
  let destination := (body.get? "destination").getD .null
  match destination.get? "protocol", destination.get? "URI" with
  | some (.string "HTTP"), some (.string uri) => .ok uri
  | some (.string "HTTP"), _ =>
    .error (rejection 400 "ValidationError" "Destination URI is required")
  | _, _ => .error (rejection 400 "ValidationError" "Only HTTP protocol is supported")

def subscribe (p : StandIn) (api : PushApi) (r : Request) : Response × StandIn :=
  match readBody .anything r with
  | .error response => (response, p)
  | .ok body =>
    match p.setup.subscribeFailure, header? r Client.identifierHeader with
    | some failure, _ => (canned failure, p)
    | none, none => (missingIdentifier, p)
    -- any identifier will do here, also one that was never given away
    | none, some identifier =>
      match destination? body with
      | .error response => (response, p)
      | .ok uri =>
        let recorded : RecordedSubscription := { api, identifier, uri, body }
        (plain 200 "OK", { p with subscriptions := p.subscriptions ++ [recorded] })

/-- What can be asked of a stand-in. -/
inductive Route where
  | register
  | next
  | report (kind : ReportKind)
  | subscribe (api : PushApi)
  deriving DecidableEq, Repr

/-- The route of a path, and the methods with which it is asked. -/
def route? : String → Option (Route × List String)
  | "/2020-01-01/extension/register" => some (.register, ["POST"])
  | "/2020-01-01/extension/event/next" => some (.next, ["GET", "HEAD"])
  | "/2020-01-01/extension/init/error" => some (.report .init, ["POST"])
  | "/2020-01-01/extension/exit/error" => some (.report .exit, ["POST"])
  | "/2020-08-15/logs" => some (.subscribe .logs, ["PUT"])
  | "/2022-07-01/telemetry" => some (.subscribe .telemetry, ["PUT"])
  | _ => none

def respond (p : StandIn) (r : Request) : Reply × StandIn :=
  let atOnce : Response × StandIn → Reply × StandIn := fun (response, p) => (.response response, p)
  match route? r.path with
  | none => (.response (empty 404), p)
  | some (route, methods) =>
    if r.method ∉ methods then (.response (empty 405), p)
    else match route with
      | .register => atOnce (p.register r)
      | .next => p.poll r
      | .report kind => atOnce (p.report kind r)
      | .subscribe api => atOnce (p.subscribe api r)

end StandIn

end Sidecar
