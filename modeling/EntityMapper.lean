import EntityMapper.Binding
import EntityMapper.Calendar.Basic
import EntityMapper.Calendar.Reading
import EntityMapper.Catalog
import EntityMapper.DatabaseUrl
import EntityMapper.Dialect
import EntityMapper.Dict
import EntityMapper.Document
import EntityMapper.Double.Basic
import EntityMapper.Double.Extended
import EntityMapper.Double.Reading
import EntityMapper.Double.Shortest
import EntityMapper.Engine.Basic
import EntityMapper.Engine.Document
import EntityMapper.Engine.Exchange
import EntityMapper.Engine.Reading
import EntityMapper.Engine.Stitching
import EntityMapper.Engine.Writing
import EntityMapper.Entity.Basic
import EntityMapper.Entity.Document
import EntityMapper.Entity.Draft
import EntityMapper.Entity.Rows
import EntityMapper.Error
import EntityMapper.Field.Basic
import EntityMapper.Field.Document
import EntityMapper.Field.Rules
import EntityMapper.Field.Value
import EntityMapper.Filter.Basic
import EntityMapper.Filter.Operator
import EntityMapper.Filter.Validator
import EntityMapper.Index
import EntityMapper.Json.Basic
import EntityMapper.Json.Number
import EntityMapper.Json.Parser
import EntityMapper.Json.Printer
import EntityMapper.Keys
import EntityMapper.Pattern.Basic
import EntityMapper.Pattern.CharClass
import EntityMapper.Pattern.Parser
import EntityMapper.Proofs.Binding
import EntityMapper.Proofs.Call
import EntityMapper.Proofs.Call.Replies
import EntityMapper.Proofs.Catalog.Backing
import EntityMapper.Proofs.Catalog.Consistency
import EntityMapper.Proofs.Catalog.Growth
import EntityMapper.Proofs.Catalog.Named
import EntityMapper.Proofs.Catalog.Names
import EntityMapper.Proofs.Catalog.Paths
import EntityMapper.Proofs.Catalog.Reachable
import EntityMapper.Proofs.Catalog.Registration
import EntityMapper.Proofs.Catalog.Storage
import EntityMapper.Proofs.Dict
import EntityMapper.Proofs.Engine.Defaults
import EntityMapper.Proofs.Engine.Levels
import EntityMapper.Proofs.Engine.Members
import EntityMapper.Proofs.Engine.Names
import EntityMapper.Proofs.Engine.Nested
import EntityMapper.Proofs.Engine.Objects
import EntityMapper.Proofs.Engine.Stitching
import EntityMapper.Proofs.Engine.Visible
import EntityMapper.Proofs.Engine.Writes
import EntityMapper.Proofs.Entity.Acceptance
import EntityMapper.Proofs.Entity.Declarations
import EntityMapper.Proofs.Entity.Equality
import EntityMapper.Proofs.Entity.Extends
import EntityMapper.Proofs.Entity.Primary
import EntityMapper.Proofs.Entity.Stored
import EntityMapper.Proofs.Field.Numerals
import EntityMapper.Proofs.Filter.Agreement
import EntityMapper.Proofs.Filter.Predicates
import EntityMapper.Proofs.Filter.Validator
import EntityMapper.Proofs.Keyed
import EntityMapper.Proofs.Query.Limits
import EntityMapper.Proofs.Result
import EntityMapper.Proofs.Schema.Convergence
import EntityMapper.Proofs.Schema.Effect
import EntityMapper.Proofs.Schema.Live
import EntityMapper.Proofs.Schema.Order
import EntityMapper.Proofs.Schema.Planned
import EntityMapper.Proofs.Schema.Running
import EntityMapper.Proofs.Schema.Undeclared
import EntityMapper.Proofs.Sql.Piece
import EntityMapper.Proofs.Sql.Buffer
import EntityMapper.Proofs.Sql.Alignment
import EntityMapper.Proofs.Sql.Condition
import EntityMapper.Proofs.Sql.Lexing
import EntityMapper.Proofs.Sql.Phrase
import EntityMapper.Proofs.Sql.Placeholder
import EntityMapper.Proofs.Sql.Reading
import EntityMapper.Proofs.Sql.SelectList
import EntityMapper.Proofs.Sql.Text
import EntityMapper.Proofs.Sql.Truth
import EntityMapper.Proofs.Text.Decimal
import EntityMapper.Proofs.Text.Split
import EntityMapper.Query.Basic
import EntityMapper.Query.Document
import EntityMapper.Query.NameList
import EntityMapper.Query.Sort
import EntityMapper.Registration
import EntityMapper.Relation.Basic
import EntityMapper.Relation.Document
import EntityMapper.Schema.Change
import EntityMapper.Schema.Live
import EntityMapper.Schema.Order
import EntityMapper.Schema.Plan
import EntityMapper.Schema.Sync
import EntityMapper.Settings
import EntityMapper.Sql.Buffer
import EntityMapper.Sql.Command
import EntityMapper.Sql.Condition
import EntityMapper.Sql.Scope
import EntityMapper.Sql.Statement
import EntityMapper.Sqlite.Cell
import EntityMapper.Text.Blank
import EntityMapper.Text.CaseFolding
import EntityMapper.Text.Category
import EntityMapper.Text.Decimal
import EntityMapper.Text.Hex
import EntityMapper.Text.Identifier
import EntityMapper.Text.Quoted
import EntityMapper.Text.Script
import EntityMapper.Text.Split
import EntityMapper.Text.Wildcard
import EntityMapper.Proofs.Document
import EntityMapper.Proofs.Field.Document
import EntityMapper.Proofs.Entity.Document
import EntityMapper.Proofs.Json.Number
import EntityMapper.Proofs.Json.Strings
import EntityMapper.Proofs.Json.Reading
import EntityMapper.Proofs.Dialect.Stored
import EntityMapper.Proofs.Double.Integers
import EntityMapper.Proofs.Field.Rules
import EntityMapper.Proofs.Entity.Rows
import EntityMapper.Proofs.Engine.Rules
import EntityMapper.Proofs.Engine.Loads
import EntityMapper.Proofs.Engine.PrimaryKeys
import EntityMapper.Proofs.Engine.GeneratedKeys
import EntityMapper.Proofs.Engine.Plans
import EntityMapper.Proofs.Engine.Refusals
import EntityMapper.Proofs.Schema.Dependencies
import EntityMapper.Proofs.Filter.Canonical
import EntityMapper.Proofs.Sql.Counting
import EntityMapper.Proofs.Sql.Qualifiers
import EntityMapper.Proofs.Engine.Totals
import EntityMapper.Proofs.Engine.Aliases
import EntityMapper.Proofs.Schema.References
import EntityMapper.Proofs.Filter.Grammar
import EntityMapper.Proofs.Double.Nearest
import EntityMapper.Proofs.Filter.Integers
import EntityMapper.Proofs.Pattern.Matching
import EntityMapper.Proofs.Text.Wildcard
import EntityMapper.Proofs.Pattern.Wildcard
import EntityMapper.Proofs.Filter.Translation
import EntityMapper.Proofs.Sql.Outline
import EntityMapper.Proofs.Calendar.RoundTrip
import EntityMapper.Proofs.Calendar.Order
import EntityMapper.Proofs.Field.Stored
import EntityMapper.Proofs.Field.Datetimes
import EntityMapper.Proofs.Call.Alike
import EntityMapper.Proofs.Engine.Batches
import EntityMapper.Proofs.Engine.JoinedRows
import EntityMapper.Proofs.Sql.Meaning
import EntityMapper.Proofs.Engine.FirstRow
import EntityMapper.Proofs.Text.Blank
import EntityMapper.Proofs.Schema.Sync
import EntityMapper.Proofs.Query.Levels
import EntityMapper.Proofs.Query.Document
import EntityMapper.Proofs.Query.Sort
import EntityMapper.Proofs.Query.Written
import EntityMapper.Proofs.Text.Hex
import EntityMapper.Proofs.Field.Bytes
import EntityMapper.Proofs.Text.Quoted
import EntityMapper.Proofs.Sql.Legible
import EntityMapper.Proofs.Schema.Names
import EntityMapper.Proofs.Query.NameList
