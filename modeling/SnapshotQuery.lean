import SnapshotQuery.CommandLine.Arguments
import SnapshotQuery.CommandLine.Error
import SnapshotQuery.CommandLine.Program
import SnapshotQuery.Log.Entry
import SnapshotQuery.Log.Event
import SnapshotQuery.Log.EventKind
import SnapshotQuery.Log.Severity
import SnapshotQuery.Main
import SnapshotQuery.Number.Basic
import SnapshotQuery.Number.Binary64
import SnapshotQuery.Number.Literal
import SnapshotQuery.Number.Shortest
import SnapshotQuery.OrderedMap
import SnapshotQuery.Predicate
import SnapshotQuery.Query.Callback
import SnapshotQuery.Query.Config
import SnapshotQuery.Query.Error
import SnapshotQuery.Query.Metrics
import SnapshotQuery.Query.Request
import SnapshotQuery.Query.RequestCell
import SnapshotQuery.Query.Retry
import SnapshotQuery.Retention.Floor
import SnapshotQuery.Retention.Snapshot
import SnapshotQuery.Schema
import SnapshotQuery.Service.Access
import SnapshotQuery.Service.Action
import SnapshotQuery.Service.Origin
import SnapshotQuery.Service.Reconciliation
import SnapshotQuery.Service.Schedule
import SnapshotQuery.Service.Setup
import SnapshotQuery.Service.State
import SnapshotQuery.Service.Worker
import SnapshotQuery.Session.Basic
import SnapshotQuery.Session.Command
import SnapshotQuery.Simulation
import SnapshotQuery.Store.Basic
import SnapshotQuery.Store.Collection
import SnapshotQuery.Store.Error
import SnapshotQuery.Store.RowSet
import SnapshotQuery.Store.Transaction
import SnapshotQuery.Text.Decode
import SnapshotQuery.Text.Escape
import SnapshotQuery.Text.Outline
import SnapshotQuery.Text.Printable
import SnapshotQuery.Value.Basic
import SnapshotQuery.Value.Text
import SnapshotQuery.Version.Authority
import SnapshotQuery.Version.Chain
import SnapshotQuery.Version.Stamp
import SnapshotQuery.Proofs.OrderedMap
import SnapshotQuery.Proofs.Retention.Accounts
import SnapshotQuery.Proofs.Version.Visibility
import SnapshotQuery.Proofs.Store.Changes
import SnapshotQuery.Proofs.Store.Isolation
import SnapshotQuery.Proofs.Service.Interlude
import SnapshotQuery.Proofs.Service.Keeping
import SnapshotQuery.Proofs.Service.Run
import SnapshotQuery.Proofs.Service.Attempts
import SnapshotQuery.Proofs.Service.Requests
import SnapshotQuery.Proofs.Service.Handling
import SnapshotQuery.Proofs.Service.Ownership
import SnapshotQuery.Proofs.Service.Moves
import SnapshotQuery.Proofs.Service.Identity
import SnapshotQuery.Proofs.Service.Outcome
import SnapshotQuery.Proofs.Service.Tickets
import SnapshotQuery.Proofs.Service.Custody
import SnapshotQuery.Proofs.Service.Answers
import SnapshotQuery.Proofs.Service.Delivery
import SnapshotQuery.Proofs.Version.Order
import SnapshotQuery.Proofs.Store.Staging
import SnapshotQuery.Proofs.Store.Histories
import SnapshotQuery.Proofs.Store.Backing
import SnapshotQuery.Proofs.Store.Bodies
import SnapshotQuery.Proofs.Store.Client
import SnapshotQuery.Proofs.Store.Representation
import SnapshotQuery.Proofs.Store.Table
import SnapshotQuery.Proofs.Store.Thinning
import SnapshotQuery.Proofs.Service.Exchange
import SnapshotQuery.Proofs.Service.Provision
import SnapshotQuery.Proofs.Service.Bystanders
import SnapshotQuery.Proofs.Service.Evaluation
import SnapshotQuery.Proofs.Service.Convergence
import SnapshotQuery.Proofs.Store.Descent
import SnapshotQuery.Proofs.Store.Refusals
import SnapshotQuery.Proofs.Service.Proceedings
import SnapshotQuery.Proofs.Service.Course
import SnapshotQuery.Proofs.Service.Development
import SnapshotQuery.Proofs.Service.Transparency
import SnapshotQuery.Proofs.Service.Turns
import SnapshotQuery.Proofs.Service.Provenance
import SnapshotQuery.Proofs.Service.Failures
import SnapshotQuery.Proofs.Service.Views
import SnapshotQuery.Proofs.Service.Beginnings
import SnapshotQuery.Proofs.Service.Workers
import SnapshotQuery.Proofs.Service.Postings
import SnapshotQuery.Proofs.Service.Registers
import SnapshotQuery.Proofs.Service.LiveRequests
import SnapshotQuery.Proofs.Service.Launches
import SnapshotQuery.Proofs.Service.Books
import SnapshotQuery.Proofs.Retention.Census
import SnapshotQuery.Proofs.Store.Atomicity
import SnapshotQuery.Proofs.Store.RowIds
import SnapshotQuery.Proofs.Service.Pins
import SnapshotQuery.Proofs.Service.Lines
import SnapshotQuery.Proofs.Service.Stories
import SnapshotQuery.Proofs.Service.Chronicle
import SnapshotQuery.Proofs.Service.Log
import SnapshotQuery.Proofs.Number.Rounding
import SnapshotQuery.Proofs.Number.Order
import SnapshotQuery.Proofs.Predicate.Conditions
import SnapshotQuery.Proofs.Predicate.Numbers
import SnapshotQuery.Proofs.Text.Reading
import SnapshotQuery.Proofs.Log.Reading
import SnapshotQuery.Proofs.Log.RoundTrip
import SnapshotQuery.Proofs.Session.Threshold
import SnapshotQuery.Proofs.Version.Pruning
import SnapshotQuery.Proofs.Store.Imports
import SnapshotQuery.Proofs.Store.Reclamation
import SnapshotQuery.Proofs.Service.Rederivation
import SnapshotQuery.Proofs.Query.Lifecycle
import SnapshotQuery.Proofs.Query.Encoding
import SnapshotQuery.Proofs.Simulation.Refills
import SnapshotQuery.Proofs.Simulation.Rounds
import SnapshotQuery.Proofs.Simulation.ClosedForm
import SnapshotQuery.Proofs.Service.Reports
import SnapshotQuery.Proofs.Service.Resting
import SnapshotQuery.Proofs.Service.Arming
import SnapshotQuery.Proofs.Service.Hooks
import SnapshotQuery.Proofs.Session.Dispatchers
import SnapshotQuery.Proofs.Retention.Ledger
