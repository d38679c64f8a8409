import Sidecar.Batch.Whole
import Sidecar.Config.Layers
import Sidecar.Platform.Answer
import Sidecar.Platform.Push
import Sidecar.Proofs.Batch.Channel
import Sidecar.Proofs.Batch.Outcome
import Sidecar.Proofs.Batch.Scanning
import Sidecar.Receiver.Run
import Sidecar.Stream.Logs
import Sidecar.Stream.Telemetry
import Sidecar.Proofs.Batch.Schedule
import Sidecar.Proofs.Batch.Safety
import Sidecar.Proofs.Batch.Whole
import Sidecar.Proofs.Json.Grammar
import Sidecar.Proofs.Batch.ArrayText
import Sidecar.Proofs.Receiver.Processing
import Sidecar.Proofs.Receiver.Pushing
import Sidecar.Proofs.Batch.Acceptance
import Sidecar.Proofs.Receiver.Marks
import Sidecar.Proofs.Receiver.Serving
import Sidecar.Proofs.Receiver.Faithful
import Sidecar.Proofs.Lifecycle.Race
import Sidecar.Proofs.Lifecycle.Loop
import Sidecar.Proofs.Lifecycle.Outcome
import Sidecar.Proofs.Lifecycle.Order
import Sidecar.Proofs.Receiver.Core
import Sidecar.Proofs.Receiver.Draining
import Sidecar.Proofs.Receiver.Failing
import Sidecar.Proofs.Signal.Delivery
import Sidecar.Proofs.Context.Stop
import Sidecar.Proofs.Context.Forest
import Sidecar.Proofs.Context.Tree
import Sidecar.Proofs.Lifecycle.Scoping
import Sidecar.Proofs.Lifecycle.Reporting
import Sidecar.Proofs.Json.Form
import Sidecar.Proofs.Time.Reading
import Sidecar.Proofs.Json.Rereading
import Sidecar.Proofs.Stream.Records
import Sidecar.Proofs.Stream.RoundTrip
import Sidecar.Proofs.Lifecycle.Bounding
import Sidecar.Proofs.Receiver.Steps
import Sidecar.Proofs.Receiver.Standing
import Sidecar.Proofs.Receiver.LifeCycle
import Sidecar.Proofs.Receiver.Progress
import Sidecar.Proofs.Json.Scalars
import Sidecar.Proofs.Json.Spelling
import Sidecar.Proofs.Json.Order
import Sidecar.Proofs.Json.Printing
import Sidecar.Proofs.Api.Wire
import Sidecar.Proofs.Json.Fields
import Sidecar.Proofs.Stream.Classification
import Sidecar.Proofs.Client.Calls
import Sidecar.Proofs.Client.Conversation
import Sidecar.Proofs.Config.Merging
import Sidecar.Proofs.Config.Sources
import Sidecar.Proofs.Config.Layering
import Sidecar.Proofs.Platform.Account
import Sidecar.Proofs.Batch.Consumption
import Sidecar.Proofs.Stream.Listing
import Sidecar.Proofs.Json.Values
import Sidecar.Proofs.Json.Growth
import Sidecar.Proofs.Stream.Growth
import Sidecar.Proofs.Stream.Agreement
import Sidecar.Proofs.Config.Thresholds
import Sidecar.Proofs.Batch.InPlace
