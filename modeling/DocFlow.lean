import DocFlow.Json.Reader
import DocFlow.LogLevel
import DocFlow.Pipeline
import DocFlow.Proofs.Calendar.Range
import DocFlow.Proofs.Chain.Atomic
import DocFlow.Proofs.Chain.Batch
import DocFlow.Proofs.Chain.Limit
import DocFlow.Proofs.Chain.Reachable
import DocFlow.Proofs.Chain.Unwind
import DocFlow.Proofs.Complete.Chain
import DocFlow.Proofs.Document.Deleting
import DocFlow.Proofs.Document.Laws
import DocFlow.Proofs.Document.Route
import DocFlow.Proofs.Document.Thinning
import DocFlow.Proofs.Expr.DatePart
import DocFlow.Proofs.Expr.Refusal
import DocFlow.Proofs.Expr.Timestamp
import DocFlow.Proofs.Group.Cap
import DocFlow.Proofs.Group.Extremum
import DocFlow.Proofs.Group.Failure
import DocFlow.Proofs.Group.Result
import DocFlow.Proofs.Group.Sorted
import DocFlow.Proofs.Group.Stage
import DocFlow.Proofs.Key.Alike
import DocFlow.Proofs.Order.Total
import DocFlow.Proofs.Pipeline.Again
import DocFlow.Proofs.Pipeline.Errors
import DocFlow.Proofs.Pipeline.Fit
import DocFlow.Proofs.Pipeline.LifeCycle
import DocFlow.Proofs.Projection.Excluding
import DocFlow.Proofs.Projection.Including
import DocFlow.Proofs.Query.Candidates
import DocFlow.Proofs.Query.Itemwise
import DocFlow.Proofs.Query.Mirror
import DocFlow.Proofs.Query.Paths
import DocFlow.Proofs.Query.Rearranged
import DocFlow.Proofs.Query.Shorthand
import DocFlow.Proofs.Sort.Stage
import DocFlow.Proofs.Text.Substring
import DocFlow.Proofs.Value.RoundTrip
