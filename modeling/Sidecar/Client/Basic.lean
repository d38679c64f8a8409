import Sidecar.Api.Event
import Sidecar.Api.Subscription
import Sidecar.Client.Call
import Sidecar.Config.Environment
import Sidecar.Config.Settings
import Sidecar.Json.Printer

/-!
# The client of the platform

An extension registers under a name and gets an identifier, which goes with every later call. The
client that registering makes is a value that no later answer changes.
-/

namespace Sidecar

namespace Client

/-! ## Headers -/

def nameHeader : String := "lambda-extension-name"

def identifierHeader : String := "lambda-extension-identifier"

/-- The header that asks for more in the answer to a registration. -/
def featureHeader : String := "lambda-extension-accept-feature"

def errorTypeHeader : String := "lambda-extension-function-error-type"

def jsonContent : String × String := ("content-type", "application/json")

end Client

structure Client where
  address : String
  identifier : String
  registration : Registration
  deriving DecidableEq, Repr

/-- What an extension registers with. -/
structure Registering where
  /-- The name to register under, unless it is that of the program. -/
  extensionName : Option String := none
  /-- The address of the platform, unless it is that of the environment. -/
  address : Option String := none
  events : List EventKind := [.invoke, .shutdown]
  /-- Whether what carries the requests can make one to an address. All requests go to the same. -/
  takesAddress : String → Bool := fun _ => true

namespace Registering

/-- Takes over what settings say about the name and the address. -/
def configured (r : Registering) (s : Settings) : Registering where
  extensionName := s.extensionName <|> r.extensionName
  address := s.runtimeApi <|> r.address
  events := r.events
  takesAddress := r.takesAddress

/-- The address of the platform, if it is known. -/
def address? (r : Registering) (env : Environment) : Option String :=
  r.address <|> env.runtimeApi

def body (r : Registering) : Json :=
  .object [("events", (Json.Codec.list EventKind.codec).write r.events)]

/-- Reads the answer: first the identifier, then what it says about the function. -/
def readClient (address : String) (r : Response) : Except CallError Client :=
  match (r.header? Client.identifierHeader).filter (!·.isEmpty) with
  | none => .error .missingIdentifier
  | some identifier => do
    let registration ← Call.readBody Registration.codec r
    return ⟨address, identifier, registration⟩

/-- The call that registers an extension of a program. -/
def call (r : Registering) (address program : String) : Call Client where
  request :=
    { method := "POST"
      path := "/2020-01-01/extension/register"
      headers := [(Client.nameHeader, r.extensionName.getD program),
        (Client.featureHeader, "accountId"), Client.jsonContent]
      body := r.body.toBytes }
  expected := 200
  read := readClient address

/-- Registers an extension of a program, in a context that has stopped or goes on: the client, and
the request if it was sent. Without an address to which a request can be made nothing is sent. -/
def register (r : Registering) (env : Environment) (program : String) (stopped : Option Stop)
    (exchange : Exchange) : Except CallError Client × Option Request :=
  match r.address? env with
  | none => (.error .missingAddress, none)
  | some address =>
    if r.takesAddress address then (r.call address program).perform stopped exchange
    else (.error (Call.unmade stopped), none)

end Registering

namespace Client

def request (c : Client) (method action : String) (headers : List (String × String))
    (body : List UInt8) : Request where
  method := method
  path := "/2020-01-01/extension" ++ action
  headers := (identifierHeader, c.identifier) :: headers
  body := body

def next (c : Client) : Call Event where
  request := c.request "GET" "/event/next" [] []
  expected := 200
  read := Call.readBody Event.codec

/-- Reports an error of a type. -/
def report (c : Client) (action type text : String) : Call Acknowledgement where
  request := c.request "POST" action [jsonContent, (errorTypeHeader, type)] (Utf8.encode text)
  expected := 202
  read := Call.readBody Acknowledgement.codec

/-- Reports that the extension could not start. -/
def initError (c : Client) (type text : String) : Call Acknowledgement :=
  c.report "/init/error" type text

/-- Reports an error before the extension ends. -/
def exitError (c : Client) (type text : String) : Call Acknowledgement :=
  c.report "/exit/error" type text

/-- Asks for batches. -/
def subscribe (c : Client) (path : String) (body : Json) : Call Unit where
  request :=
    { method := "PUT"
      path := path
      headers := [(identifierHeader, c.identifier), jsonContent]
      body := body.toBytes }
  expected := 200
  read _ := .ok ()

def subscribeLogs (c : Client) (s : LogsSubscription) : Call Unit :=
  c.subscribe "/2020-08-15/logs" (LogsSubscription.codec.write s)

def subscribeTelemetry (c : Client) (s : TelemetrySubscription) : Call Unit :=
  c.subscribe "/2022-07-01/telemetry" (TelemetrySubscription.codec.write s)

end Client

end Sidecar
