import EntityCatalog.Address.Email
import EntityCatalog.Address.Email.Fault
import EntityCatalog.Address.Email.Host
import EntityCatalog.Address.Email.Mailbox
import EntityCatalog.Address.Label
import EntityCatalog.Address.Label.Table
import EntityCatalog.Address.Literal
import EntityCatalog.Address.Mapping
import EntityCatalog.Address.Mapping.Table
import EntityCatalog.Address.Punycode
import EntityCatalog.Address.Url
import EntityCatalog.Calendar.Date
import EntityCatalog.Calendar.Iso
import EntityCatalog.Calendar.Moment
import EntityCatalog.Catalog.Basic
import EntityCatalog.Catalog.Entities
import EntityCatalog.Catalog.Records
import EntityCatalog.Catalog.Request
import EntityCatalog.Command.Arguments
import EntityCatalog.Command.Fault
import EntityCatalog.Command.FieldText
import EntityCatalog.Command.Job
import EntityCatalog.Command.Question
import EntityCatalog.Command.Similar
import EntityCatalog.Command.Usage
import EntityCatalog.Command.Verbs
import EntityCatalog.Entity
import EntityCatalog.Error
import EntityCatalog.Field.Basic
import EntityCatalog.Field.Reader
import EntityCatalog.Field.Type
import EntityCatalog.Files.Path
import EntityCatalog.Files.Tree
import EntityCatalog.Filter.Check
import EntityCatalog.Filter.Condition
import EntityCatalog.Filter.Operator
import EntityCatalog.Filter.Parser
import EntityCatalog.Filter.Shape
import EntityCatalog.Json.Reader
import EntityCatalog.Json.Writer
import EntityCatalog.Layout.Screen
import EntityCatalog.Layout.Table
import EntityCatalog.Layout.Width
import EntityCatalog.Layout.Width.Table
import EntityCatalog.Layout.Wrap
import EntityCatalog.Listing
import EntityCatalog.Log.Entry
import EntityCatalog.Log.Line
import EntityCatalog.Log.Template
import EntityCatalog.Main
import EntityCatalog.Numeric.Binary64
import EntityCatalog.Numeric.Fixed
import EntityCatalog.Numeric.Notation
import EntityCatalog.Numeric.Reader
import EntityCatalog.Numeric.Shortest
import EntityCatalog.Pattern.Basic
import EntityCatalog.Pattern.Fault
import EntityCatalog.Pattern.Matcher
import EntityCatalog.Pattern.Parser
import EntityCatalog.Predicate.Basic
import EntityCatalog.Predicate.Compile
import EntityCatalog.Predicate.Tree
import EntityCatalog.Proofs.Calendar.Canonical
import EntityCatalog.Proofs.Calendar.Date
import EntityCatalog.Proofs.Calendar.Instant
import EntityCatalog.Proofs.Calendar.Order
import EntityCatalog.Proofs.Catalog.Definition
import EntityCatalog.Proofs.Catalog.Effect
import EntityCatalog.Proofs.Catalog.Ending
import EntityCatalog.Proofs.Catalog.History
import EntityCatalog.Proofs.Catalog.Isolation
import EntityCatalog.Proofs.Catalog.Naming
import EntityCatalog.Proofs.Catalog.Newest
import EntityCatalog.Proofs.Catalog.Opening
import EntityCatalog.Proofs.Catalog.Reachable
import EntityCatalog.Proofs.Catalog.Tracing
import EntityCatalog.Proofs.Catalog.Transparency
import EntityCatalog.Proofs.Catalog.Validity
import EntityCatalog.Proofs.Field.Stored
import EntityCatalog.Proofs.Filter.Dates
import EntityCatalog.Proofs.Filter.Integers
import EntityCatalog.Proofs.Filter.Search
import EntityCatalog.Proofs.Filter.Shape
import EntityCatalog.Proofs.Filter.Stages
import EntityCatalog.Proofs.Filter.Texts
import EntityCatalog.Proofs.Filter.Written
import EntityCatalog.Proofs.Identifier
import EntityCatalog.Proofs.Listing
import EntityCatalog.Proofs.Lookup
import EntityCatalog.Proofs.Numeric.Integer
import EntityCatalog.Proofs.Numeric.Nearest
import EntityCatalog.Proofs.Numeric.Quotient
import EntityCatalog.Proofs.Numeric.Worth
import EntityCatalog.Proofs.Pattern.Run
import EntityCatalog.Proofs.Predicate.Consistency
import EntityCatalog.Proofs.Predicate.Expansion
import EntityCatalog.Proofs.Predicate.Relation
import EntityCatalog.Proofs.Predicate.Selection
import EntityCatalog.Proofs.Predicate.Typing
import EntityCatalog.Proofs.Query
import EntityCatalog.Proofs.Query.Names
import EntityCatalog.Proofs.Settings.Layers
import EntityCatalog.Proofs.Settings.Priority
import EntityCatalog.Proofs.Settings.Variables
import EntityCatalog.Proofs.Store.Cell
import EntityCatalog.Proofs.Store.Chronology
import EntityCatalog.Proofs.Store.Clause
import EntityCatalog.Proofs.Store.Finite
import EntityCatalog.Proofs.Store.Integrity
import EntityCatalog.Proofs.Store.Like
import EntityCatalog.Proofs.Store.Literal
import EntityCatalog.Proofs.Store.Order
import EntityCatalog.Proofs.Store.Paging
import EntityCatalog.Proofs.Store.Path
import EntityCatalog.Proofs.Store.Scope
import EntityCatalog.Proofs.Store.Search
import EntityCatalog.Proofs.Store.Transaction
import EntityCatalog.Proofs.Telemetry.Nesting
import EntityCatalog.Proofs.Text.Ascii
import EntityCatalog.Proofs.Text.Blank
import EntityCatalog.Proofs.Text.Context
import EntityCatalog.Proofs.Text.Digit
import EntityCatalog.Proofs.Text.Split
import EntityCatalog.Proofs.Text.Words
import EntityCatalog.Proofs.Validation.Admission
import EntityCatalog.Proofs.Validation.Apply
import EntityCatalog.Proofs.Validation.Bounds
import EntityCatalog.Proofs.Validation.Cache
import EntityCatalog.Proofs.Validation.Fixpoint
import EntityCatalog.Proofs.Validation.Generate
import EntityCatalog.Proofs.Validation.Overflow
import EntityCatalog.Proofs.Validation.Reuse
import EntityCatalog.Proofs.Value.Document
import EntityCatalog.Proofs.Value.Same
import EntityCatalog.Query
import EntityCatalog.Reply
import EntityCatalog.Reply.Screen
import EntityCatalog.Settings.Basic
import EntityCatalog.Settings.Reader
import EntityCatalog.Settings.Sources
import EntityCatalog.Store.Cell
import EntityCatalog.Store.Clause
import EntityCatalog.Store.File
import EntityCatalog.Store.Like
import EntityCatalog.Store.Path
import EntityCatalog.Store.Selection
import EntityCatalog.Store.Tables
import EntityCatalog.Store.Transaction
import EntityCatalog.Telemetry.Span
import EntityCatalog.Telemetry.Tracer
import EntityCatalog.Text.Blank
import EntityCatalog.Text.Case
import EntityCatalog.Text.Case.Table
import EntityCatalog.Text.Category
import EntityCatalog.Text.Category.Table
import EntityCatalog.Text.Cursor
import EntityCatalog.Text.Digit
import EntityCatalog.Text.Identifier
import EntityCatalog.Text.Lines
import EntityCatalog.Text.Name
import EntityCatalog.Text.Name.Table
import EntityCatalog.Text.Normal
import EntityCatalog.Text.Normal.Table
import EntityCatalog.Text.Quoted
import EntityCatalog.Text.Split
import EntityCatalog.Text.Table
import EntityCatalog.Toml.Fault
import EntityCatalog.Toml.Reader
import EntityCatalog.Toml.Scalar
import EntityCatalog.Toml.Sections
import EntityCatalog.Toml.Text
import EntityCatalog.Validation.Cache
import EntityCatalog.Validation.Rule
import EntityCatalog.Validation.Validator
import EntityCatalog.Value
import EntityCatalog.Value.Display
import EntityCatalog.Value.Plain
import EntityCatalog.Value.Reads
