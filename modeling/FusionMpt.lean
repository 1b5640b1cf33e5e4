import FusionMpt.Wire.LittleEndian
import FusionMpt.Wire.Flags
import FusionMpt.Duration
import FusionMpt.Error.Basic
import FusionMpt.Frame.InitRequest
import FusionMpt.Frame.InitReply
import FusionMpt.Frame.ErrorReply
import FusionMpt.Frame.IoRequest
import FusionMpt.Platform.Adapter
import FusionMpt.Platform.HostMemory
import FusionMpt.Region.Basic
import FusionMpt.Channel.Doorbell
import FusionMpt.Channel.Queue
import FusionMpt.Topology.Enumeration
import FusionMpt.Transfer.Placement
import FusionMpt.Transfer.Completion
import FusionMpt.Controller.PassThrough
import FusionMpt.Binding.Basic
import FusionMpt.Binding.Name
import FusionMpt.Platform.Script
import FusionMpt.Platform.Trace
import FusionMpt.Proofs.Platform.Path
import FusionMpt.Proofs.Platform.StraightLine
import FusionMpt.Proofs.Transfer.Admission
import FusionMpt.Proofs.Transfer.Exchange
import FusionMpt.Proofs.Transfer.Placement
import FusionMpt.Proofs.Channel.Queue
import FusionMpt.Proofs.Transfer.Completion
import FusionMpt.Proofs.Controller.Course
import FusionMpt.Proofs.Controller.Report
import FusionMpt.Proofs.Controller.EmptyQueue
import FusionMpt.Proofs.Device.Desk
import FusionMpt.Proofs.Controller.BringUp
import FusionMpt.Proofs.Device.Stage
import FusionMpt.Proofs.Device.Matching
import FusionMpt.Proofs.Platform.HostMemory
import FusionMpt.Proofs.Platform.Playing
import FusionMpt.Proofs.Frame.IoRequest
import FusionMpt.Proofs.Channel.Waiting
import FusionMpt.Proofs.Transfer.Layout
import FusionMpt.Proofs.Transfer.Sharing
import FusionMpt.Proofs.Controller.Delivery
import FusionMpt.Proofs.Transfer.Requirement
import FusionMpt.Proofs.Controller.Sequence
import FusionMpt.Proofs.Controller.Handover
import FusionMpt.Proofs.Controller.Refusal
import FusionMpt.Proofs.Controller.Session
import FusionMpt.Proofs.Controller.Faults
import FusionMpt.Proofs.Controller.HalfDone
import FusionMpt.Proofs.Controller.Itinerary
import FusionMpt.Proofs.Controller.Containment
import FusionMpt.Proofs.Controller.Staging
import FusionMpt.Proofs.Controller.Reissue
import FusionMpt.Proofs.Controller.WholeWrite
import FusionMpt.Proofs.Controller.Discretion
import FusionMpt.Proofs.Channel.Polling
import FusionMpt.Proofs.Transfer.SameRequest
import FusionMpt.Proofs.Controller.Mishap
import FusionMpt.Proofs.Platform.Parallel
import FusionMpt.Proofs.Device.Conduct
import FusionMpt.Proofs.Device.Tacit
import FusionMpt.Proofs.Controller.Residue
import FusionMpt.Proofs.Frame.RoundTrip
import FusionMpt.Proofs.Binding.Registry
import FusionMpt.Proofs.Binding.Acquisition
import FusionMpt.Proofs.Binding.Chronicle
import FusionMpt.Proofs.Binding.Lifecycle
import FusionMpt.Proofs.Binding.Custody
import FusionMpt.Proofs.Binding.Independence
import FusionMpt.Proofs.Frame.Reserved
import FusionMpt.Proofs.Topology.Naming
import FusionMpt.Proofs.Channel.Rounds
import FusionMpt.Proofs.Controller.Classification
import FusionMpt.Proofs.Region.Extent
import FusionMpt.Proofs.Channel.Deadline
import FusionMpt.Proofs.Controller.Leftover
import FusionMpt.Proofs.Controller.Dialogue
import FusionMpt.Proofs.Platform.Log
import FusionMpt.Proofs.Region.Guard
import FusionMpt.Proofs.Region.Operation
import FusionMpt.Proofs.Region.Isolation
import FusionMpt.Proofs.Binding.Ledger
import FusionMpt.Proofs.Topology.Grammar
import FusionMpt.Proofs.Topology.Walk
import FusionMpt.Proofs.Topology.Addressing
