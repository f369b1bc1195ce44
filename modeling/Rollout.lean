import Rollout.Engine.Parallel
import Rollout.Generation.Listing
import Rollout.Generation.Patch
import Rollout.Main
import Rollout.Record.Failure
import Rollout.Record.Project
import Rollout.Record.Workspace
import Rollout.Release.Call
import Rollout.Report.Plan
import Rollout.Store.Location
import Rollout.Store.Memory
import Rollout.Proofs.Graph.Order
import Rollout.Proofs.Graph.Accepted
import Rollout.Proofs.Execution.Schedule
import Rollout.Proofs.Execution.Steps
import Rollout.Proofs.Execution.Ended
import Rollout.Proofs.Execution.Executor
import Rollout.Proofs.Execution.Counted
import Rollout.Proofs.Execution.Confluence
import Rollout.Proofs.Assoc
import Rollout.Proofs.Plan.Changes
import Rollout.Proofs.Execution.State
import Rollout.Proofs.Execution.Replan
import Rollout.Proofs.Store.Reliable
import Rollout.Proofs.Generation.Stages
import Rollout.Proofs.Engine.Finished
import Rollout.Proofs.Engine.Performed
import Rollout.Proofs.Engine.History
import Rollout.Proofs.Plan.Difference
import Rollout.Proofs.Execution.Backend
import Rollout.Proofs.Execution.Tracking
import Rollout.Proofs.Engine.Tracking
import Rollout.Proofs.Execution.Records
import Rollout.Proofs.Execution.Interrupted
import Rollout.Proofs.Execution.Accounted
import Rollout.Proofs.Execution.Gating
import Rollout.Proofs.Execution.Applied
import Rollout.Proofs.Execution.Resume
import Rollout.Proofs.Engine.Interrupted
import Rollout.Proofs.Execution.Replay
import Rollout.Proofs.Store.FileName
import Rollout.Proofs.Store.Numbered
import Rollout.Proofs.Store.Mirror
import Rollout.Proofs.Store.Failing
import Rollout.Proofs.Store.Names
import Rollout.Proofs.Store.Shared
import Rollout.Proofs.Store.Interchange
import Rollout.Proofs.Release.Lives
import Rollout.Proofs.Release.Calls
import Rollout.Proofs.Store.Recording
import Rollout.Proofs.Engine.Journal
import Rollout.Proofs.Execution.Succeeded
import Rollout.Proofs.Engine.Succeeded
import Rollout.Proofs.Graph.Build
import Rollout.Proofs.Graph.Countdown
import Rollout.Proofs.Graph.Least
import Rollout.Proofs.Execution.Course
import Rollout.Proofs.Execution.Starts
import Rollout.Proofs.Store.Ledger
import Rollout.Proofs.Store.Lawful
import Rollout.Proofs.Store.Dependable
import Rollout.Proofs.Store.History
import Rollout.Proofs.Engine.Preview
import Rollout.Proofs.Execution.InOrder
import Rollout.Proofs.Engine.InOrder
import Rollout.Proofs.DateTime
import Rollout.Proofs.Record.RoundTrip
import Rollout.Proofs.Record.Reread
import Rollout.Proofs.Record.Stored
import Rollout.Proofs.Plan.Classified
import Rollout.Proofs.Execution.Ordering
import Rollout.Proofs.Engine.Unordered
import Rollout.Proofs.Workspace.Validation
import Rollout.Proofs.Workspace.Read
import Rollout.Proofs.Engine.Locks
import Rollout.Proofs.Engine.Fleet
import Rollout.Proofs.Engine.Serialized
import Rollout.Proofs.Value.Reordered
import Rollout.Proofs.Value.Equality
import Rollout.Proofs.Plan.Swapped
import Rollout.Proofs.Execution.Destroyed
import Rollout.Proofs.Engine.Destroyed
import Rollout.Proofs.Execution.Explained
import Rollout.Proofs.Store.Faithful
import Rollout.Proofs.Engine.Agreed
import Rollout.Proofs.Plan.Entries
import Rollout.Proofs.Plan.Relisted
import Rollout.Proofs.Text.Segments
import Rollout.Proofs.Resource.Identity
import Rollout.Proofs.Generation.Workbench
import Rollout.Proofs.Generation.Moved
import Rollout.Proofs.Graph.Renamed
import Rollout.Proofs.Generation.Relocated
import Rollout.Proofs.Generation.Regrouped
import Rollout.Proofs.Generation.Scoped
import Rollout.Proofs.Secret.Resolve
import Rollout.Proofs.Engine.Generated
import Rollout.Proofs.Store.Unchanged
import Rollout.Proofs.Workspace.Inline
