import SqlBuilder.Config
import SqlBuilder.Database
import SqlBuilder.Dialect
import SqlBuilder.Error
import SqlBuilder.Expression
import SqlBuilder.Json.Basic
import SqlBuilder.Json.Number
import SqlBuilder.Json.Token
import SqlBuilder.Json.Tree
import SqlBuilder.Keyword
import SqlBuilder.Number.Binary
import SqlBuilder.Number.Decimal
import SqlBuilder.OrderedMap
import SqlBuilder.Proofs.Agreement
import SqlBuilder.Proofs.Aliases
import SqlBuilder.Proofs.Apart
import SqlBuilder.Proofs.Assignments
import SqlBuilder.Proofs.Built
import SqlBuilder.Proofs.ByteOrder
import SqlBuilder.Proofs.BytePlaces
import SqlBuilder.Proofs.Clamping
import SqlBuilder.Proofs.ConditionTree
import SqlBuilder.Proofs.Conditions
import SqlBuilder.Proofs.Documents
import SqlBuilder.Proofs.Entries
import SqlBuilder.Proofs.Filtering
import SqlBuilder.Proofs.FirstRow
import SqlBuilder.Proofs.Flattening
import SqlBuilder.Proofs.Gives
import SqlBuilder.Proofs.Identifiers
import SqlBuilder.Proofs.Independence
import SqlBuilder.Proofs.InsertRows
import SqlBuilder.Proofs.Joins
import SqlBuilder.Proofs.Keys
import SqlBuilder.Proofs.KeywordTexts
import SqlBuilder.Proofs.Masked
import SqlBuilder.Proofs.Misspellings
import SqlBuilder.Proofs.Mistakes
import SqlBuilder.Proofs.Numerals
import SqlBuilder.Proofs.Orders
import SqlBuilder.Proofs.Parameters
import SqlBuilder.Proofs.Piece
import SqlBuilder.Proofs.Pieces
import SqlBuilder.Proofs.Precedence
import SqlBuilder.Proofs.Pruning
import SqlBuilder.Proofs.Quoting
import SqlBuilder.Proofs.Rewrite
import SqlBuilder.Proofs.RowsKept
import SqlBuilder.Proofs.Saturation
import SqlBuilder.Proofs.Scan
import SqlBuilder.Proofs.Shaping
import SqlBuilder.Proofs.Simulation
import SqlBuilder.Proofs.Spellings
import SqlBuilder.Proofs.Supplied
import SqlBuilder.Proofs.Tables
import SqlBuilder.Proofs.Terminal
import SqlBuilder.Proofs.Unions
import SqlBuilder.Proofs.Views
import SqlBuilder.Proofs.Violations
import SqlBuilder.Proofs.WellFormed
import SqlBuilder.Proofs.Windows
import SqlBuilder.Proofs.Words
import SqlBuilder.Query.Basic
import SqlBuilder.Query.Filter
import SqlBuilder.Query.Insert
import SqlBuilder.Query.Select
import SqlBuilder.Query.Update
import SqlBuilder.Result.Fetched
import SqlBuilder.Result.Key
import SqlBuilder.Result.Read
import SqlBuilder.Result.Row
import SqlBuilder.Result.Session
import SqlBuilder.Result.Terminal
import SqlBuilder.Result.User
import SqlBuilder.Sql.Query
import SqlBuilder.Sql.Select
import SqlBuilder.Sql.Writing
import SqlBuilder.Target
import SqlBuilder.Text.Alias
import SqlBuilder.Text.Blank
import SqlBuilder.Text.Hidden
import SqlBuilder.Text.Letter
import SqlBuilder.Text.Literal
import SqlBuilder.Text.Numeral
import SqlBuilder.Text.Order
import SqlBuilder.Value.Basic
import SqlBuilder.Value.Json
import SqlBuilder.Value.Textual
