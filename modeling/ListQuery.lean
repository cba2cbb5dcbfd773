import ListQuery.LogLevel
import ListQuery.Service.Session
import ListQuery.Verdict
import ListQuery.Proofs.Except
import ListQuery.Proofs.Dictionary
import ListQuery.Proofs.Leftmost
import ListQuery.Proofs.Text.Run
import ListQuery.Proofs.Text.Trim
import ListQuery.Proofs.Text.Pieces
import ListQuery.Proofs.Text.Digit
import ListQuery.Proofs.Text.Numeral
import ListQuery.Proofs.Text.Quoted
import ListQuery.Proofs.Text.Replacement
import ListQuery.Proofs.Text.Case
import ListQuery.Proofs.Text.Capital
import ListQuery.Proofs.Text.LowerCase
import ListQuery.Proofs.Text.Order
import ListQuery.Proofs.Text.Encodable
import ListQuery.Proofs.Number.Integer
import ListQuery.Proofs.Number.IntegerText
import ListQuery.Proofs.Number.Decimal
import ListQuery.Proofs.Number.DecimalText
import ListQuery.Proofs.Number.Positional
import ListQuery.Proofs.Number.Range
import ListQuery.Proofs.Number.Value
import ListQuery.Proofs.Number.Classification
import ListQuery.Proofs.AllowList
import ListQuery.Proofs.Gate
import ListQuery.Proofs.Reasons
import ListQuery.Proofs.Fields
import ListQuery.Proofs.Fields.Grammar
import ListQuery.Proofs.Sort
import ListQuery.Proofs.Sort.Part
import ListQuery.Proofs.Sort.Grammar
import ListQuery.Proofs.Sort.Direction
import ListQuery.Proofs.Sort.Precedence
import ListQuery.Proofs.Filter.Lexeme
import ListQuery.Proofs.Filter.Scan
import ListQuery.Proofs.Filter.Placement
import ListQuery.Proofs.Filter.Adjacency
import ListQuery.Proofs.Filter.Respacing
import ListQuery.Proofs.Filter.Literal
import ListQuery.Proofs.Filter.StringLiteral
import ListQuery.Proofs.Filter.StringToken
import ListQuery.Proofs.Filter.Grammar
import ListQuery.Proofs.Filter.Descent
import ListQuery.Proofs.Filter.Fault
import ListQuery.Proofs.Filter.Tree
import ListQuery.Proofs.Filter.Recognition
import ListQuery.Proofs.Filter.WellFormed
import ListQuery.Proofs.Filter.Rendering
import ListQuery.Proofs.Filter.TokenSequence
import ListQuery.Proofs.Filter.Nesting
import ListQuery.Proofs.Filter.Combination
import ListQuery.Proofs.Filter.BrokenCombination
import ListQuery.Proofs.Filter.Precedence
import ListQuery.Proofs.Filter.Value
import ListQuery.Proofs.Filter.ExactNumber
import ListQuery.Proofs.Filter.LiteralValue
import ListQuery.Proofs.Stepwise.Lexer
import ListQuery.Proofs.Stepwise.Descent
import ListQuery.Proofs.Stepwise.Reader
import ListQuery.Proofs.Limit
import ListQuery.Proofs.Query
import ListQuery.Proofs.Examination
import ListQuery.Proofs.FirstFault
import ListQuery.Proofs.Encoding
import ListQuery.Proofs.Json.Leaf
import ListQuery.Proofs.Json.Descent
import ListQuery.Proofs.Json.Room
import ListQuery.Proofs.Json.Limits
import ListQuery.Proofs.Settings
import ListQuery.Proofs.Limit.Reading
import ListQuery.Proofs.Registry
import ListQuery.Proofs.Configuration
import ListQuery.Proofs.Service.Run
import ListQuery.Proofs.Service.Answer
import ListQuery.Proofs.Service.Query
import ListQuery.Proofs.Service.Echo
import ListQuery.Proofs.Service.Accounting
import ListQuery.Proofs.Service.History
import ListQuery.Proofs.Service.Availability
import ListQuery.Proofs.Service.Labels
import ListQuery.Proofs.Service.Limits
