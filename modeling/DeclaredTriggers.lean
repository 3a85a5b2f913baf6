import DeclaredTriggers.Act
import DeclaredTriggers.Command.Configuration
import DeclaredTriggers.Command.Expansion
import DeclaredTriggers.Command.Fault
import DeclaredTriggers.Command.Help
import DeclaredTriggers.Command.Listing
import DeclaredTriggers.Command.Plan
import DeclaredTriggers.Command.Request
import DeclaredTriggers.Command.Run
import DeclaredTriggers.Command.Variables
import DeclaredTriggers.Condition.Basic
import DeclaredTriggers.Condition.Change
import DeclaredTriggers.Condition.Lookup
import DeclaredTriggers.Condition.Value
import DeclaredTriggers.Connection.Address
import DeclaredTriggers.Connection.Channel
import DeclaredTriggers.Connection.Isolation
import DeclaredTriggers.Connection.Parameters
import DeclaredTriggers.Connection.Pool
import DeclaredTriggers.Connection.Script
import DeclaredTriggers.Connection.Server
import DeclaredTriggers.Connection.Spelling
import DeclaredTriggers.Decimal.Binary
import DeclaredTriggers.Decimal.Reading
import DeclaredTriggers.Decimal.Shortest
import DeclaredTriggers.Digest.Sha1
import DeclaredTriggers.Entity
import DeclaredTriggers.Entity.Derive
import DeclaredTriggers.Error
import DeclaredTriggers.Event
import DeclaredTriggers.Hook.Basic
import DeclaredTriggers.Hook.Context
import DeclaredTriggers.Install.Compiled
import DeclaredTriggers.Install.Persisted
import DeclaredTriggers.Install.Template
import DeclaredTriggers.Json.Basic
import DeclaredTriggers.Json.Number
import DeclaredTriggers.Json.Reader
import DeclaredTriggers.Keyed
import DeclaredTriggers.Main
import DeclaredTriggers.Proofs.Act
import DeclaredTriggers.Proofs.Backend.Basic
import DeclaredTriggers.Proofs.Backend.Ledger
import DeclaredTriggers.Proofs.Backend.Phase
import DeclaredTriggers.Proofs.Backend.Run
import DeclaredTriggers.Proofs.Backend.Span
import DeclaredTriggers.Proofs.Command.Expansion
import DeclaredTriggers.Proofs.Command.Plans
import DeclaredTriggers.Proofs.Command.Spellings
import DeclaredTriggers.Proofs.Condition.Patterns
import DeclaredTriggers.Proofs.Condition.Selection
import DeclaredTriggers.Proofs.Database.Basic
import DeclaredTriggers.Proofs.Database.Catalog
import DeclaredTriggers.Proofs.Database.Dispatches
import DeclaredTriggers.Proofs.Database.Isolated
import DeclaredTriggers.Proofs.Database.Namespace
import DeclaredTriggers.Proofs.Database.Requests
import DeclaredTriggers.Proofs.Database.Willing
import DeclaredTriggers.Proofs.Entity.Described
import DeclaredTriggers.Proofs.Hook.Composition
import DeclaredTriggers.Proofs.Hook.Truncation
import DeclaredTriggers.Proofs.Install.Canonical
import DeclaredTriggers.Proofs.Install.Containment
import DeclaredTriggers.Proofs.Install.Persisted
import DeclaredTriggers.Proofs.Install.Script
import DeclaredTriggers.Proofs.Install.When
import DeclaredTriggers.Proofs.Json.RoundTrip
import DeclaredTriggers.Proofs.Reconcile.Bookkeeping
import DeclaredTriggers.Proofs.Reconcile.Bulk
import DeclaredTriggers.Proofs.Reconcile.Guarded
import DeclaredTriggers.Proofs.Reconcile.Pruning
import DeclaredTriggers.Proofs.Reconcile.Qualified
import DeclaredTriggers.Proofs.Reconcile.Standing
import DeclaredTriggers.Proofs.Reconcile.Stopping
import DeclaredTriggers.Proofs.Reconcile.Untouched
import DeclaredTriggers.Proofs.Registry.Bootstrap
import DeclaredTriggers.Proofs.Registry.Guards
import DeclaredTriggers.Proofs.Registry.Places
import DeclaredTriggers.Proofs.Routine.Basic
import DeclaredTriggers.Proofs.Session.Accounting
import DeclaredTriggers.Proofs.Session.Books
import DeclaredTriggers.Proofs.Session.Calls
import DeclaredTriggers.Proofs.Session.Closing
import DeclaredTriggers.Proofs.Session.Composed
import DeclaredTriggers.Proofs.Session.Concurrent
import DeclaredTriggers.Proofs.Session.Counts
import DeclaredTriggers.Proofs.Session.Dues
import DeclaredTriggers.Proofs.Session.Events
import DeclaredTriggers.Proofs.Session.Executions
import DeclaredTriggers.Proofs.Session.FailedEntry
import DeclaredTriggers.Proofs.Session.Groups
import DeclaredTriggers.Proofs.Session.HandOver
import DeclaredTriggers.Proofs.Session.Link
import DeclaredTriggers.Proofs.Session.Lookalikes
import DeclaredTriggers.Proofs.Session.Nesting
import DeclaredTriggers.Proofs.Session.Orderly
import DeclaredTriggers.Proofs.Session.Requests
import DeclaredTriggers.Proofs.Session.Restoring
import DeclaredTriggers.Proofs.Session.Rewriting
import DeclaredTriggers.Proofs.Session.Roster
import DeclaredTriggers.Proofs.Session.Savepoints
import DeclaredTriggers.Proofs.Session.SchemaNames
import DeclaredTriggers.Proofs.Session.Searching
import DeclaredTriggers.Proofs.Session.Suppression
import DeclaredTriggers.Proofs.Session.Tracking
import DeclaredTriggers.Proofs.Session.Undoings
import DeclaredTriggers.Proofs.Sql.ArrayLiteral
import DeclaredTriggers.Proofs.Sql.CommonTables
import DeclaredTriggers.Proofs.Sql.Concurrent
import DeclaredTriggers.Proofs.Sql.Constants
import DeclaredTriggers.Proofs.Sql.ControlWords
import DeclaredTriggers.Proofs.Sql.FirstWord
import DeclaredTriggers.Proofs.Sql.Grammar
import DeclaredTriggers.Proofs.Sql.NameList
import DeclaredTriggers.Proofs.Sql.Quoting
import DeclaredTriggers.Proofs.Sql.Splitting
import DeclaredTriggers.Proofs.Sql.Terminators
import DeclaredTriggers.Proofs.Trigger.Building
import DeclaredTriggers.Proofs.Trigger.CatalogName
import DeclaredTriggers.Proofs.Trigger.Clause
import DeclaredTriggers.Proofs.Trigger.Identifier
import DeclaredTriggers.Proofs.Trigger.Machine
import DeclaredTriggers.Proofs.Trigger.Sameness
import DeclaredTriggers.Reconcile.Alter
import DeclaredTriggers.Reconcile.Basic
import DeclaredTriggers.Reconcile.Catalog
import DeclaredTriggers.Registry.Basic
import DeclaredTriggers.Registry.Scoped
import DeclaredTriggers.Session.Basic
import DeclaredTriggers.Session.Client
import DeclaredTriggers.Session.Group
import DeclaredTriggers.Session.Overrides
import DeclaredTriggers.Session.Scope
import DeclaredTriggers.Session.Setting
import DeclaredTriggers.Session.Targets
import DeclaredTriggers.Settings
import DeclaredTriggers.Settings.Document
import DeclaredTriggers.Sql.Control
import DeclaredTriggers.Sql.Identifier
import DeclaredTriggers.Sql.Keyword
import DeclaredTriggers.Sql.Quoting
import DeclaredTriggers.Sql.Scan
import DeclaredTriggers.Sql.StatementKind
import DeclaredTriggers.Storage
import DeclaredTriggers.Text.Alphanumeric
import DeclaredTriggers.Text.Blank
import DeclaredTriggers.Text.Bytes
import DeclaredTriggers.Text.Hexadecimal
import DeclaredTriggers.Text.LetterCase
import DeclaredTriggers.Text.PercentCoded
import DeclaredTriggers.Text.Search
import DeclaredTriggers.Text.Shown
import DeclaredTriggers.Text.SnakeCase
import DeclaredTriggers.Text.Visible
import DeclaredTriggers.Toml.Basic
import DeclaredTriggers.Toml.Plain
import DeclaredTriggers.Toml.Quoted
import DeclaredTriggers.Toml.Reader
import DeclaredTriggers.Trigger.Basic
import DeclaredTriggers.Trigger.Builder
import DeclaredTriggers.Trigger.Kind
import DeclaredTriggers.Trigger.Operation
