import Sidecar.Client.Push

/-!
# A stand-in for the platform

To rehearse an extension, a stand-in takes the place of the platform: it registers extensions, hands
out the events that have been queued for them, takes their reports and subscriptions, and keeps a
record of all this.
-/

namespace Sidecar

/-- An answer that is given whatever is asked. -/
structure CannedAnswer where
  status : Nat
  body : String
  deriving DecidableEq, Repr

structure StandIn.Setup where
  functionName : String := "helloWorld"
  functionVersion : String := "$LATEST"
  handler : String := "lambda_function.lambda_handler"
  accountId : String := "123456789012"
  /-- Whether the answer to a registration carries an identifier. -/
  givesIdentifier : Bool := true
  registerFailure : Option CannedAnswer := none
  subscribeFailure : Option CannedAnswer := none
  deriving DecidableEq, Repr

structure StandIn.RecordedRegistration where
  identifier : String
  extensionName : String
  events : List String
  feature : Option String
  deriving DecidableEq, Repr

inductive ReportKind where
  | init
  | exit
  deriving DecidableEq, Repr

structure StandIn.RecordedReport where
  kind : ReportKind
  identifier : Option String
  type : String
  body : String
  deriving DecidableEq, Repr

structure StandIn.RecordedSubscription where
  api : PushApi
  identifier : String
  uri : String
  body : Json

structure StandIn where
  setup : StandIn.Setup
  /-- The identifiers in the order in which they are given out. -/
  identifierAt : Nat → String
  /-- The events that have been queued and not yet delivered. -/
  queue : List Json := []
  delivered : List Json := []
  registrations : List StandIn.RecordedRegistration := []
  reports : List StandIn.RecordedReport := []
  subscriptions : List StandIn.RecordedSubscription := []
  /-- The number of polls that were let through to the queue. -/
  polls : Nat := 0
  /-- Whether a poll waits for an event. -/
  isPolled : Bool := false
  pushes : Nat := 0

namespace StandIn

def enqueue (p : StandIn) (event : Json) : StandIn :=
  { p with queue := p.queue ++ [event] }

def invocation (p : StandIn) (requestId : String) (deadlineMs : Int64) : Json :=
  Event.codec.write (.invoke
    { deadlineMs
      requestId
      functionArn := "arn:aws:lambda:us-east-1:" ++ p.setup.accountId ++ ":function:" ++
        p.setup.functionName
      trace :=
        { kind := "X-Amzn-Trace-Id"
          value :=
            "Root=1-5f35ae12-0c0fec141ab77a00bc047aa2;Parent=2be948a625588e32;Sampled=1" } })

def enqueueInvoke (p : StandIn) (requestId : String) (deadlineMs : Int64) : StandIn :=
  p.enqueue (p.invocation requestId deadlineMs)

/-- Queues a shutdown, for any reason. -/
def enqueueShutdown (p : StandIn) (reason : String) (deadlineMs : Int64) : StandIn :=
  p.enqueue (.object [("eventType", .string EventKind.shutdown.name),
    ("shutdownReason", .string reason), ("deadlineMs", .ofInt deadlineMs.toInt)])

/-- Takes the next event off the queue for a poll that waits. -/
def deliver? (p : StandIn) : Option (Json × StandIn) :=
  match p.isPolled, p.queue with
  | true, event :: queue =>
    some (event, { p with queue, delivered := p.delivered ++ [event], isPolled := false })
  | _, _ => none

end StandIn

end Sidecar
