import IndexPlanner.Cluster.Memory
import IndexPlanner.Engine.Session
import IndexPlanner.Main
import IndexPlanner.Regex.Atom
import IndexPlanner.Regex.Basic
import IndexPlanner.Proofs.Outcome
import IndexPlanner.Proofs.Text.Pieces
import IndexPlanner.Proofs.Text.Trim
import IndexPlanner.Proofs.Qualifier.Meaning
import IndexPlanner.Proofs.Filter.Leaf
import IndexPlanner.Proofs.Plan.Compile
import IndexPlanner.Proofs.Plan.Cut
import IndexPlanner.Proofs.Plan.Answer
import IndexPlanner.Proofs.Engine.Advance
import IndexPlanner.Proofs.Engine.Explanation
import IndexPlanner.Proofs.Engine.Life
import IndexPlanner.Proofs.Engine.Drain
import IndexPlanner.Proofs.Engine.Answer
import IndexPlanner.Proofs.Index.Entry
import IndexPlanner.Proofs.Index.Info
import IndexPlanner.Proofs.Cluster.Refresh
import IndexPlanner.Proofs.Cluster.Run
import IndexPlanner.Proofs.Cluster.Names
import IndexPlanner.Proofs.Engine.Run
import IndexPlanner.Proofs.Engine.Scan
import IndexPlanner.Proofs.Engine.Cursors
import IndexPlanner.Proofs.Qualifier.Fault
import IndexPlanner.Proofs.Plan.Refusal
import IndexPlanner.Proofs.Json.Ordered
import IndexPlanner.Proofs.Json.Same
import IndexPlanner.Proofs.Qualifier.Written
import IndexPlanner.Proofs.Binary64.Nearest
import IndexPlanner.Proofs.Predicate.Numbers
import IndexPlanner.Proofs.Predicate.Consistency
import IndexPlanner.Proofs.Index.Coverage
import IndexPlanner.Proofs.Filter.Bounds
import IndexPlanner.Proofs.Plan.Candidates
import IndexPlanner.Proofs.Plan.Constrained
import IndexPlanner.Proofs.Engine.Guard
import IndexPlanner.Proofs.Predicate.Absence
import IndexPlanner.Proofs.Index.Views
import IndexPlanner.Proofs.Index.Fields
import IndexPlanner.Proofs.Index.Grammar
import IndexPlanner.Proofs.Index.Merge
import IndexPlanner.Proofs.Qualifier.Canonical
import IndexPlanner.Proofs.Store.Puts
import IndexPlanner.Proofs.Predicate.Maps
import IndexPlanner.Proofs.Predicate.Patterns
import IndexPlanner.Proofs.Json.Quoted
import IndexPlanner.Proofs.Region.Layers
import IndexPlanner.Proofs.Region.Ring
