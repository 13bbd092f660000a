import ProcessorHost.Main
import ProcessorHost.Proofs.Session.ContextStack
import ProcessorHost.Proofs.Session.Attribution
import ProcessorHost.Proofs.Session.Exits
import ProcessorHost.Proofs.Session.Isolation
import ProcessorHost.Proofs.Call.LeasesClosed
import ProcessorHost.Proofs.Worker.Drain
import ProcessorHost.Proofs.Timing.Accounting
import ProcessorHost.Proofs.Timing.Unharmed
import ProcessorHost.Proofs.Building.Working
import ProcessorHost.Proofs.Service.CallTimings
import ProcessorHost.Proofs.Event.LeaseAccounts
import ProcessorHost.Proofs.Serving.Admission
import ProcessorHost.Proofs.Serving.Registrations
import ProcessorHost.Proofs.Serving.Plan
import ProcessorHost.Proofs.Serving.Standing
import ProcessorHost.Proofs.Serving.Undisturbed
import ProcessorHost.Proofs.Serving.Moments
import ProcessorHost.Proofs.Serving.Course
import ProcessorHost.Proofs.Serving.Announced
import ProcessorHost.Proofs.Serving.InOrder
import ProcessorHost.Proofs.Building.Reachable
import ProcessorHost.Proofs.Serving.Gate
import ProcessorHost.Proofs.Service.CallCounts
import ProcessorHost.Proofs.Session.Forgotten
import ProcessorHost.Proofs.Call.Stretches
import ProcessorHost.Proofs.Call.Outcome
import ProcessorHost.Proofs.Text.ByteOrder
import ProcessorHost.Proofs.Timing.ByKey
import ProcessorHost.Proofs.Service.Sequence
import ProcessorHost.Proofs.Session.Timekeeping
import ProcessorHost.Proofs.Service.Lookup
import ProcessorHost.Proofs.Building.Refusals
import ProcessorHost.Proofs.Timing.MemberNames
import ProcessorHost.Proofs.Serving.NamedHealth
import ProcessorHost.Proofs.Worker.Ticks
import ProcessorHost.Proofs.Net.Hosts
import ProcessorHost.Proofs.Json.WireTypes
