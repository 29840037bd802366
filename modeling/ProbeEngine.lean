import ProbeEngine.Instrumentation.Entry
import ProbeEngine.Instrumentation.Exit
import ProbeEngine.Config.Basic
import ProbeEngine.Host.OfJson
import ProbeEngine.Json.Compact
import ProbeEngine.Proofs.Instrumentation.Calls
import ProbeEngine.Proofs.Instrumentation.Removal
import ProbeEngine.Proofs.Expr.Built
import ProbeEngine.Proofs.Expr.Getters
import ProbeEngine.Proofs.Instrumentation.Getters
import ProbeEngine.Proofs.Capture.Bounds
import ProbeEngine.Proofs.Capture.Fields
import ProbeEngine.Proofs.Sampling.Exact
import ProbeEngine.Proofs.Sampling.History
import ProbeEngine.Proofs.Sampling.Ceilings
import ProbeEngine.Proofs.Instrumentation.Admissions
import ProbeEngine.Proofs.Capture.Steady
import ProbeEngine.Proofs.Instrumentation.Sites
import ProbeEngine.Proofs.Expr.Additions
import ProbeEngine.Proofs.Instrumentation.Transparency
import ProbeEngine.Proofs.Expr.Grammar
import ProbeEngine.Proofs.Expr.Scoping
import ProbeEngine.Proofs.Expr.Conversions
import ProbeEngine.Proofs.Probe.Entries
import ProbeEngine.Proofs.Host.Building
import ProbeEngine.Proofs.Host.Loops
import ProbeEngine.Proofs.Capture.FieldLimit
import ProbeEngine.Proofs.Capture.Pruning
import ProbeEngine.Proofs.Json.Compact
import ProbeEngine.Proofs.Capture.Wire
import ProbeEngine.Proofs.Capture.Monotone
import ProbeEngine.Proofs.Expr.Duality
import ProbeEngine.Proofs.Expr.Order
import ProbeEngine.Proofs.Capture.Lossless
import ProbeEngine.Proofs.Expr.Filters
import ProbeEngine.Proofs.Number.Exact
import ProbeEngine.Proofs.Number.Rounding
import ProbeEngine.Proofs.Expr.Indices
import ProbeEngine.Proofs.Expr.Membership
import ProbeEngine.Proofs.Expr.NumericOrder
import ProbeEngine.Proofs.Expr.Sequences
import ProbeEngine.Proofs.Host.Hierarchy
import ProbeEngine.Proofs.Message.Segments
import ProbeEngine.Proofs.Instrumentation.EntryContext
import ProbeEngine.Proofs.Instrumentation.Variables
import ProbeEngine.Proofs.Snapshot.Frames
import ProbeEngine.Proofs.Number.Grammar
import ProbeEngine.Proofs.Number.RoundTrip
import ProbeEngine.Proofs.Instrumentation.FirstCall
import ProbeEngine.Proofs.Inspect.Quoting
import ProbeEngine.Proofs.Inspect.Shallow
import ProbeEngine.Proofs.Time.Shared
import ProbeEngine.Proofs.Host.Definitions
import ProbeEngine.Proofs.Json.Canonical
import ProbeEngine.Proofs.Json.Record
import ProbeEngine.Proofs.Probe.RoundTrip
