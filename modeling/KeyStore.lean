import KeyStore.Action
import KeyStore.Binary64
import KeyStore.Coding
import KeyStore.Conditions
import KeyStore.Config
import KeyStore.Config.Format
import KeyStore.Config.Load
import KeyStore.Decimal.Shortest
import KeyStore.Document
import KeyStore.Document.Coding
import KeyStore.Document.Reader
import KeyStore.Document.Writer
import KeyStore.Entries
import KeyStore.Entries.Writing
import KeyStore.Error
import KeyStore.FieldMap
import KeyStore.FileTree
import KeyStore.Filter
import KeyStore.Keyring
import KeyStore.Keyring.Collection
import KeyStore.Keyring.Search
import KeyStore.Keyring.Signatures
import KeyStore.Path
import KeyStore.Query
import KeyStore.Record
import KeyStore.Relation
import KeyStore.Relation.Catalogue
import KeyStore.Schema.Bootstrap
import KeyStore.Schema.Object
import KeyStore.Schema.Script
import KeyStore.Schema.Structure
import KeyStore.Sequence
import KeyStore.Streams
import KeyStore.ResultSequence
import KeyStore.Session
import KeyStore.Sql.Arguments
import KeyStore.Sql.ByteText
import KeyStore.Sql.Condition
import KeyStore.Sql.Dialect
import KeyStore.Sql.Identifier
import KeyStore.Sql.Pattern
import KeyStore.Statement
import KeyStore.Store
import KeyStore.Text.Blank
import KeyStore.Text.Case
import KeyStore.Text.Case.Context
import KeyStore.Text.Case.Lowercase
import KeyStore.Text.Case.Uppercase
import KeyStore.Text.CodePoints
import KeyStore.Text.Combining
import KeyStore.Text.Lines
import KeyStore.Text.Quoted
import KeyStore.Text.Replace
import KeyStore.Text.Search
import KeyStore.Text.Unprintable
import KeyStore.Transaction.Command
import KeyStore.Transaction.Coordinator
import KeyStore.Transaction.Run
import KeyStore.Value
import KeyStore.Value.Description
import KeyStore.Proofs.Filter.Binding
import KeyStore.Proofs.Filter.Agreement
import KeyStore.Proofs.Conditions.Split
import KeyStore.Proofs.Conditions.Agreement
import KeyStore.Proofs.Sql.Grammar
import KeyStore.Proofs.Sql.Writing
import KeyStore.Proofs.Sql.Matching
import KeyStore.Proofs.Sql.Meaning
import KeyStore.Proofs.Sql.Blanks
import KeyStore.Proofs.Sql.Placeholders
import KeyStore.Proofs.Sql.Numbering
import KeyStore.Proofs.Sequence.Gives
import KeyStore.Proofs.Sequence.Only
import KeyStore.Proofs.Sequence.Relays
import KeyStore.Proofs.Sequence.Halts
import KeyStore.Proofs.Transaction.Invariant
import KeyStore.Proofs.Transaction.Stranding
import KeyStore.Proofs.Transaction.Ledger
import KeyStore.Proofs.Transaction.History
import KeyStore.Proofs.Transaction.Opened
import KeyStore.Proofs.Transaction.Withdrawn
import KeyStore.Proofs.Entries.Plain
import KeyStore.Proofs.Entries.Reading
import KeyStore.Proofs.Entries.Requests
import KeyStore.Proofs.Entries.Tables
import KeyStore.Proofs.Entries.Replacing
import KeyStore.Proofs.Entries.Keys
import KeyStore.Proofs.Entries.Targets
import KeyStore.Proofs.Entries.Exact
import KeyStore.Proofs.Session.Transact
import KeyStore.Proofs.Session.Transactional
import KeyStore.Proofs.Session.Writers
import KeyStore.Proofs.Keyring.Calls
import KeyStore.Proofs.Keyring.Bodies
import KeyStore.Proofs.Keyring.Revert
import KeyStore.Proofs.Entries.Faults
import KeyStore.Proofs.Keyring.References
import KeyStore.Proofs.Keyring.Scopes
import KeyStore.Proofs.Keyring.Removal
import KeyStore.Proofs.Keyring.Discipline
import KeyStore.Proofs.Sequence.Deliveries
import KeyStore.Proofs.Sequence.ItemByItem
import KeyStore.Proofs.Sequence.Scripts
import KeyStore.Proofs.Sequence.Simulation
import KeyStore.Proofs.Sequence.Outcomes
import KeyStore.Proofs.Keyring.Failing
import KeyStore.Proofs.Conditions.Narrowing
import KeyStore.Proofs.Entries.Streaming
import KeyStore.Proofs.Entries.First
import KeyStore.Proofs.Keyring.Faithful
import KeyStore.Proofs.Keyring.Coverage
import KeyStore.Proofs.Keyring.Listings
import KeyStore.Proofs.Keyring.Searching
import KeyStore.Proofs.Keyring.Adding
import KeyStore.Proofs.Keyring.Blocking
import KeyStore.Proofs.Keyring.Changing
import KeyStore.Proofs.Keyring.RoundTrip
import KeyStore.Proofs.Entries.Unread
import KeyStore.Proofs.Document.RoundTrip
import KeyStore.Proofs.Document.Coding
import KeyStore.Proofs.Config.RoundTrip
import KeyStore.Proofs.Schema.Creating
import KeyStore.Proofs.Text.Lines
import KeyStore.Proofs.Schema.Layout
import KeyStore.Proofs.Sql.Tokens
import KeyStore.Proofs.Sql.Resolving
import KeyStore.Proofs.Value.Rounding
import KeyStore.Proofs.Value.Order
import KeyStore.Proofs.Conditions.Rendering
import KeyStore.Proofs.Filter.Kleene
import KeyStore.Proofs.Text.Sigma
import KeyStore.Proofs.Filter.Containing
import KeyStore.Proofs.Sql.Wildcards
import KeyStore.Proofs.Sql.Columns
import KeyStore.Proofs.Sql.Bytes
