import ControlRelay.Main
import ControlRelay.Scenario.Observation
import ControlRelay.Proofs.Interest.AttributeSet
import ControlRelay.Proofs.Interest.Composite
import ControlRelay.Proofs.Frame.Segment
import ControlRelay.Proofs.Frame.Stream
import ControlRelay.Proofs.Control.Dialogue
import ControlRelay.Proofs.Registry.Run
import ControlRelay.Proofs.Registry.Moves
import ControlRelay.Proofs.Registry.Synced
import ControlRelay.Proofs.Registry.Held
import ControlRelay.Proofs.Scheduler.System
import ControlRelay.Proofs.Scheduler.Routine
import ControlRelay.Proofs.Scheduler.Moves
import ControlRelay.Proofs.Scheduler.Loading
import ControlRelay.Proofs.Scheduler.Spent
import ControlRelay.Proofs.Scheduler.Pausing
import ControlRelay.Proofs.Scheduler.Readiness
import ControlRelay.Proofs.Scheduler.Loss
import ControlRelay.Proofs.Queue.Jobs
import ControlRelay.Proofs.Scheduler.Holding
import ControlRelay.Proofs.Scheduler.Places
import ControlRelay.Proofs.Scheduler.Order
import ControlRelay.Proofs.Scheduler.Resting
import ControlRelay.Proofs.Scheduler.Acknowledging
import ControlRelay.Proofs.Scheduler.Standing
import ControlRelay.Proofs.Scheduler.Overtaking
import ControlRelay.Proofs.Scheduler.Telling
import ControlRelay.Proofs.Scheduler.Storing
import ControlRelay.Proofs.Link.System
import ControlRelay.Proofs.Link.Answering
import ControlRelay.Proofs.Link.Losing
import ControlRelay.Proofs.Link.Serving
import ControlRelay.Proofs.Link.Reporting
import ControlRelay.Proofs.Link.Disconnecting
import ControlRelay.Proofs.Link.Reading
import ControlRelay.Proofs.Link.Wired
import ControlRelay.Proofs.Interest.Cache
import ControlRelay.Proofs.Interest.Slice
import ControlRelay.Proofs.Interest.Request
import ControlRelay.Proofs.Registry.Effects
import ControlRelay.Proofs.Registry.Viewing
import ControlRelay.Proofs.Rpc.Opening
import ControlRelay.Proofs.Process.Keeping
import ControlRelay.Proofs.Hub.Delivering
import ControlRelay.Proofs.Relay.Sparing
import ControlRelay.Proofs.Relay.Bystanders
import ControlRelay.Proofs.Relay.Handing
import ControlRelay.Proofs.Relay.Accounts
import ControlRelay.Proofs.Relay.Pool
import ControlRelay.Proofs.Relay.FanOut
import ControlRelay.Proofs.Registry.Latest
import ControlRelay.Proofs.Process.Yielding
import ControlRelay.Proofs.Relay.Linking
import ControlRelay.Proofs.Relay.Evicting
import ControlRelay.Proofs.Relay.Access
import ControlRelay.Proofs.Relay.Carrying
import ControlRelay.Proofs.Relay.Authority
import ControlRelay.Proofs.Relay.Releasing
import ControlRelay.Proofs.Relay.Locking
import ControlRelay.Proofs.Relay.Tidying
import ControlRelay.Proofs.Relay.Turns
import ControlRelay.Proofs.Relay.Leftovers
import ControlRelay.Proofs.Relay.Replying
import ControlRelay.Proofs.Scheduler.Gating
import ControlRelay.Proofs.Hub.Overlapping
import ControlRelay.Proofs.Relay.Refusing
import ControlRelay.Proofs.Frame.RoundTrip
import ControlRelay.Proofs.Interest.History
import ControlRelay.Proofs.Interest.Routing
import ControlRelay.Proofs.Registry.Subscribing
import ControlRelay.Proofs.Registry.Querying
import ControlRelay.Proofs.Relay.Querying
import ControlRelay.Proofs.Interest.Writing
import ControlRelay.Proofs.Interest.Payload
import ControlRelay.Proofs.Interest.ReadBack
import ControlRelay.Proofs.Scheduler.Origins
import ControlRelay.Proofs.Scheduler.Scripting
import ControlRelay.Proofs.Interest.Agreement
import ControlRelay.Proofs.Queue.History
import ControlRelay.Proofs.Rpc.Reading
import ControlRelay.Proofs.Relay.Responding
import ControlRelay.Proofs.Toml.Quoted
import ControlRelay.Proofs.Toml.Number
import ControlRelay.Proofs.Toml.Document
import ControlRelay.Proofs.Queue.JobId
import ControlRelay.Proofs.Storage.FileSystem
import ControlRelay.Proofs.Queue.File
import ControlRelay.Proofs.Config.Delay
import ControlRelay.Proofs.Interest.Covering
import ControlRelay.Proofs.Queue.Interrupting
import ControlRelay.Proofs.Queue.JobIdText
import ControlRelay.Proofs.Queue.JobJson
import ControlRelay.Proofs.Scheduler.Delaying
