import ScopeChain.Dialogue.Basic
import ScopeChain.Proofs.Binary64.Rounding
import ScopeChain.Proofs.Binary64.Shortest
import ScopeChain.Proofs.Binary64.Literal
import ScopeChain.Proofs.Binary64.Spelling
import ScopeChain.Proofs.Json.ReadBack
import ScopeChain.Proofs.Value.Distinct
import ScopeChain.Proofs.Snapshot.ValueTree
import ScopeChain.Proofs.Snapshot.Written
import ScopeChain.Proofs.Scope.Growth
import ScopeChain.Proofs.Snapshot.Restore
import ScopeChain.Proofs.Snapshot.Capture
import ScopeChain.Proofs.Snapshot.Load
import ScopeChain.Proofs.Session.Configured
import ScopeChain.Proofs.Session.RoundTrip
import ScopeChain.Proofs.Session.Writes
import ScopeChain.Proofs.Session.Effect
import ScopeChain.Proofs.Json.Names
import ScopeChain.Proofs.Session.Reach
import ScopeChain.Proofs.Session.Faithful
import ScopeChain.Proofs.Session.History
import ScopeChain.Proofs.Scope.Paired
import ScopeChain.Proofs.Session.Twins
import ScopeChain.Proofs.Scope.Partner
import ScopeChain.Proofs.Session.Restored
import ScopeChain.Proofs.Scope.Visible
import ScopeChain.Proofs.Scope.Sight
import ScopeChain.Proofs.Scope.Overlay
import ScopeChain.Proofs.Session.Seen
import ScopeChain.Proofs.Scope.Chain
import ScopeChain.Proofs.Session.Merged
import ScopeChain.Proofs.Session.Lasting
import ScopeChain.Proofs.Session.Kept
import ScopeChain.Proofs.Session.Rebuilt
import ScopeChain.Proofs.Session.Isolated
import ScopeChain.Proofs.Snapshot.Described
import ScopeChain.Proofs.Session.Accepted
import ScopeChain.Proofs.Session.WellShaped
import ScopeChain.Proofs.Session.Asking
import ScopeChain.Proofs.Session.Failed
import ScopeChain.Proofs.Session.InForce
import ScopeChain.Proofs.Session.Built
import ScopeChain.Proofs.Value.Nesting
import ScopeChain.Proofs.Value.Copies
import ScopeChain.Proofs.Snapshot.Cycles
import ScopeChain.Proofs.Snapshot.Nested
import ScopeChain.Proofs.Session.Sharing
import ScopeChain.Proofs.Session.Lexical
import ScopeChain.Proofs.Value.Changed
import ScopeChain.Proofs.Snapshot.Taken
import ScopeChain.Proofs.Session.Stored
import ScopeChain.Proofs.Dialogue.Closed
import ScopeChain.Proofs.Dialogue.Mutation
import ScopeChain.Proofs.Snapshot.Scalars
import ScopeChain.Proofs.Session.Limits
import ScopeChain.Proofs.Snapshot.Regular
import ScopeChain.Proofs.Value.Equal
import ScopeChain.Proofs.Snapshot.Returned
import ScopeChain.Proofs.Session.Returned
import ScopeChain.Proofs.Session.Order
import ScopeChain.Proofs.Session.Canonical
import ScopeChain.Proofs.Session.Derived
import ScopeChain.Proofs.Json.Grammar
import ScopeChain.Proofs.Json.Strict
import ScopeChain.Proofs.Session.Strict
import ScopeChain.Proofs.Session.Captured
import ScopeChain.Proofs.Session.Keyed
import ScopeChain.Proofs.Snapshot.Findings
import ScopeChain.Proofs.Snapshot.Misshapen
import ScopeChain.Proofs.Session.Refused
import ScopeChain.Proofs.Session.Endings
import ScopeChain.Proofs.Session.Logged
import ScopeChain.Proofs.Text.Delimited
import ScopeChain.Proofs.Text.Quoted
import ScopeChain.Proofs.Session.Reported
import ScopeChain.Proofs.Snapshot.Given
import ScopeChain.Proofs.Session.Passed
import ScopeChain.Proofs.Snapshot.Edited
import ScopeChain.Proofs.Session.Reworded
import ScopeChain.Proofs.Settings.Chosen
import ScopeChain.Proofs.Settings.Accepted
import ScopeChain.Proofs.Session.Resolved
