import SqlToolkit.Calendar
import SqlToolkit.CommandLine.Arguments
import SqlToolkit.CommandLine.Commands
import SqlToolkit.CommandLine.Options
import SqlToolkit.Connection.Basic
import SqlToolkit.Connection.Config
import SqlToolkit.Connection.Connections
import SqlToolkit.Connection.Database
import SqlToolkit.Connection.Link
import SqlToolkit.Connection.Script
import SqlToolkit.Description.Blueprint
import SqlToolkit.Description.Config
import SqlToolkit.Description.Instruction
import SqlToolkit.Description.Page
import SqlToolkit.Description.Script
import SqlToolkit.Description.Step
import SqlToolkit.Description.Value
import SqlToolkit.Dialect
import SqlToolkit.Dialect.NumberedMarkers
import SqlToolkit.Document.Basic
import SqlToolkit.Document.Json
import SqlToolkit.Document.Toml
import SqlToolkit.Document.Toml.Scalar
import SqlToolkit.Document.Toml.Tables
import SqlToolkit.Document.Toml.Text
import SqlToolkit.Error
import SqlToolkit.Expression
import SqlToolkit.Fault
import SqlToolkit.Main
import SqlToolkit.Migration.Basic
import SqlToolkit.Migration.Creation
import SqlToolkit.Migration.Files
import SqlToolkit.Migration.History
import SqlToolkit.Migration.Migrator
import SqlToolkit.Number.Double
import SqlToolkit.Number.Integer
import SqlToolkit.Number.Shortest
import SqlToolkit.Program
import SqlToolkit.Proofs.Alterations.Commands
import SqlToolkit.Proofs.Alterations.Composition
import SqlToolkit.Proofs.Alterations.Declarations
import SqlToolkit.Proofs.Alterations.Reading
import SqlToolkit.Proofs.Alterations.Spelling
import SqlToolkit.Proofs.Alterations.Statements
import SqlToolkit.Proofs.Alterations.Tables
import SqlToolkit.Proofs.Caching.Cache
import SqlToolkit.Proofs.Caching.Kept
import SqlToolkit.Proofs.Chains.Calls
import SqlToolkit.Proofs.Chains.Interleaving
import SqlToolkit.Proofs.Chains.Refusals
import SqlToolkit.Proofs.Chains.Terminals
import SqlToolkit.Proofs.Changes.Basic
import SqlToolkit.Proofs.Columns.Clauses
import SqlToolkit.Proofs.Columns.Definitions
import SqlToolkit.Proofs.CommandLines.Pretending
import SqlToolkit.Proofs.Creation.Keys
import SqlToolkit.Proofs.Draft.Agreement
import SqlToolkit.Proofs.Draft.Basic
import SqlToolkit.Proofs.Draft.Calls
import SqlToolkit.Proofs.Draft.Changes
import SqlToolkit.Proofs.Draft.Reads
import SqlToolkit.Proofs.Draft.Simulation
import SqlToolkit.Proofs.Draft.Spelling
import SqlToolkit.Proofs.Draft.Steps
import SqlToolkit.Proofs.Enforcement.Brackets
import SqlToolkit.Proofs.Enforcement.Runs
import SqlToolkit.Proofs.Filing.NewMigrations
import SqlToolkit.Proofs.Filing.Places
import SqlToolkit.Proofs.Filing.Stamps
import SqlToolkit.Proofs.Histories.Completion
import SqlToolkit.Proofs.Histories.Course
import SqlToolkit.Proofs.Histories.InForce
import SqlToolkit.Proofs.Histories.Inversion
import SqlToolkit.Proofs.Histories.Ledger
import SqlToolkit.Proofs.Histories.Progress
import SqlToolkit.Proofs.Histories.Refresh
import SqlToolkit.Proofs.Histories.Reversal
import SqlToolkit.Proofs.Histories.Statements
import SqlToolkit.Proofs.Histories.Steps
import SqlToolkit.Proofs.Histories.Table
import SqlToolkit.Proofs.Histories.Twins
import SqlToolkit.Proofs.Identifiers.Lookups
import SqlToolkit.Proofs.Identifiers.Names
import SqlToolkit.Proofs.Identifiers.Qualified
import SqlToolkit.Proofs.Identifiers.References
import SqlToolkit.Proofs.Identifiers.Targets
import SqlToolkit.Proofs.Inserts.Records
import SqlToolkit.Proofs.Inserts.Rows
import SqlToolkit.Proofs.Inserts.Trees
import SqlToolkit.Proofs.Literals.Statements
import SqlToolkit.Proofs.Literals.Strings
import SqlToolkit.Proofs.Markers.Basic
import SqlToolkit.Proofs.Markers.Names
import SqlToolkit.Proofs.Markers.Spelling
import SqlToolkit.Proofs.Numbering.Changes
import SqlToolkit.Proofs.Numbering.Enrollment
import SqlToolkit.Proofs.Numbering.Entries
import SqlToolkit.Proofs.Numbering.Lexemes
import SqlToolkit.Proofs.Numbering.Parameters
import SqlToolkit.Proofs.Numbering.Rolls
import SqlToolkit.Proofs.Operators.Admitted
import SqlToolkit.Proofs.Operators.Stored
import SqlToolkit.Proofs.Operators.Written
import SqlToolkit.Proofs.Pages.Chunks
import SqlToolkit.Proofs.Pages.Counting
import SqlToolkit.Proofs.Pages.Partition
import SqlToolkit.Proofs.Pages.Windows
import SqlToolkit.Proofs.Placement.Change
import SqlToolkit.Proofs.Placement.Fetch
import SqlToolkit.Proofs.Placement.Requests
import SqlToolkit.Proofs.Placement.Select
import SqlToolkit.Proofs.Placement.Unions
import SqlToolkit.Proofs.Precedence.Branches
import SqlToolkit.Proofs.Precedence.Chains
import SqlToolkit.Proofs.Precedence.Joins
import SqlToolkit.Proofs.Precedence.Keys
import SqlToolkit.Proofs.Precedence.Predicates
import SqlToolkit.Proofs.Precedence.Scopes
import SqlToolkit.Proofs.Precedence.Signs
import SqlToolkit.Proofs.Preparation.Commands
import SqlToolkit.Proofs.Reading.Chains
import SqlToolkit.Proofs.Reading.Clauses
import SqlToolkit.Proofs.Reading.Conditions
import SqlToolkit.Proofs.Reading.Lexing
import SqlToolkit.Proofs.Reading.Phrases
import SqlToolkit.Proofs.Reading.Predicates
import SqlToolkit.Proofs.Reading.RoundTrip
import SqlToolkit.Proofs.Reading.Statements
import SqlToolkit.Proofs.Reading.Trees
import SqlToolkit.Proofs.Rebuilds.Changes
import SqlToolkit.Proofs.Rebuilds.KeyOrder
import SqlToolkit.Proofs.Rebuilds.Relations
import SqlToolkit.Proofs.Rebuilds.Survival
import SqlToolkit.Proofs.Records.Assembly
import SqlToolkit.Proofs.Records.ByteOrder
import SqlToolkit.Proofs.Rehearsal.Blueprints
import SqlToolkit.Proofs.Rehearsal.Forecast
import SqlToolkit.Proofs.Rehearsal.Programs
import SqlToolkit.Proofs.Rehearsal.Runs
import SqlToolkit.Proofs.Renewal.Exchanges
import SqlToolkit.Proofs.Renewal.QueryLog
import SqlToolkit.Proofs.Renewal.Resumption
import SqlToolkit.Proofs.Routines.Basic
import SqlToolkit.Proofs.Routines.Directives
import SqlToolkit.Proofs.Routines.Effects
import SqlToolkit.Proofs.Routines.Harmless
import SqlToolkit.Proofs.Routines.Holding
import SqlToolkit.Proofs.Routines.Managed
import SqlToolkit.Proofs.Routines.Ownership
import SqlToolkit.Proofs.Routines.Pretending
import SqlToolkit.Proofs.Routines.Sessions
import SqlToolkit.Proofs.Routines.Writer
import SqlToolkit.Proofs.Transactions.Boundaries
import SqlToolkit.Proofs.Transactions.Operations
import SqlToolkit.Proofs.Transactions.Recording
import SqlToolkit.Proofs.Transactions.Scopes
import SqlToolkit.Proofs.Transactions.Work
import SqlToolkit.Query.Basic
import SqlToolkit.Query.Bindings
import SqlToolkit.Query.Builder
import SqlToolkit.Query.Change
import SqlToolkit.Query.Fetch
import SqlToolkit.Query.Page
import SqlToolkit.Query.Select
import SqlToolkit.Query.Step
import SqlToolkit.Query.Write
import SqlToolkit.Record
import SqlToolkit.Row
import SqlToolkit.Schema.Blueprint
import SqlToolkit.Schema.Build
import SqlToolkit.Schema.Column
import SqlToolkit.Schema.Definition
import SqlToolkit.Schema.Inspection
import SqlToolkit.Schema.Statements
import SqlToolkit.Text.Blank
import SqlToolkit.Text.Case
import SqlToolkit.Text.Case.Table
import SqlToolkit.Text.Quoted
import SqlToolkit.Text.Quoted.Table
import SqlToolkit.Text.Search
import SqlToolkit.Text.WordClass
import SqlToolkit.Text.WordClass.Table
import SqlToolkit.Value
