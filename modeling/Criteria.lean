import Criteria.CommandLine
import Criteria.Context
import Criteria.Datum.Basic
import Criteria.Datum.Json
import Criteria.Datum.Validity
import Criteria.Error.Basic
import Criteria.Error.Cause
import Criteria.Evaluation.Basic
import Criteria.Evaluation.Expression
import Criteria.Expression.Basic
import Criteria.Expression.Outline
import Criteria.Expression.Parser
import Criteria.Fields
import Criteria.Function.Builtin
import Criteria.Function.Table
import Criteria.Json.Basic
import Criteria.Json.Printer
import Criteria.Json.Reader
import Criteria.Json.Token
import Criteria.Main
import Criteria.Number.Binary64
import Criteria.Number.Layout
import Criteria.Number.Numeral
import Criteria.Number.Shortest
import Criteria.Number.Stepwise
import Criteria.Operator
import Criteria.Operator.Apply
import Criteria.Path.Basic
import Criteria.Path.Reader
import Criteria.Path.Resolve
import Criteria.Pattern.Basic
import Criteria.Pattern.CharSet
import Criteria.Pattern.Class
import Criteria.Pattern.Escape
import Criteria.Pattern.Fault
import Criteria.Pattern.Match
import Criteria.Pattern.Reader
import Criteria.Prepared
import Criteria.Proofs.Context.Building
import Criteria.Proofs.Context.Calling
import Criteria.Proofs.Context.Registration
import Criteria.Proofs.Context.Sharing
import Criteria.Proofs.Datum.Conversion
import Criteria.Proofs.Datum.Exactness
import Criteria.Proofs.Datum.Interchange
import Criteria.Proofs.Datum.Keys
import Criteria.Proofs.Datum.Parts
import Criteria.Proofs.Datum.Place
import Criteria.Proofs.Datum.Validity
import Criteria.Proofs.Evaluation.Arguments
import Criteria.Proofs.Evaluation.Blame
import Criteria.Proofs.Evaluation.Calls
import Criteria.Proofs.Evaluation.Chains
import Criteria.Proofs.Evaluation.Defects
import Criteria.Proofs.Evaluation.Dependence
import Criteria.Proofs.Evaluation.Extent
import Criteria.Proofs.Evaluation.Filtering
import Criteria.Proofs.Evaluation.Fusion
import Criteria.Proofs.Evaluation.Guards
import Criteria.Proofs.Evaluation.IntegerData
import Criteria.Proofs.Evaluation.Invocations
import Criteria.Proofs.Evaluation.Membership
import Criteria.Proofs.Evaluation.Negation
import Criteria.Proofs.Evaluation.Numbers
import Criteria.Proofs.Evaluation.Openings
import Criteria.Proofs.Evaluation.Order
import Criteria.Proofs.Evaluation.Outcome
import Criteria.Proofs.Evaluation.Reentry
import Criteria.Proofs.Evaluation.Results
import Criteria.Proofs.Evaluation.Selection
import Criteria.Proofs.Evaluation.Shape
import Criteria.Proofs.Evaluation.Universe
import Criteria.Proofs.Evaluation.Written
import Criteria.Proofs.Grammar.Composition
import Criteria.Proofs.Grammar.Counter
import Criteria.Proofs.Grammar.Exact
import Criteria.Proofs.Grammar.Failure
import Criteria.Proofs.Grammar.Flattening
import Criteria.Proofs.Grammar.Literals
import Criteria.Proofs.Grammar.Spacing
import Criteria.Proofs.Grammar.Step
import Criteria.Proofs.Grammar.Stream
import Criteria.Proofs.Grammar.Viability
import Criteria.Proofs.Number.Integers
import Criteria.Proofs.Number.Monotone
import Criteria.Proofs.Operator.Laws
import Criteria.Proofs.Path.Composition
import Criteria.Proofs.Path.Display
import Criteria.Proofs.Path.Grammar
import Criteria.Proofs.Token.Cutting
import Criteria.Proofs.Token.Faults
import Criteria.Proofs.Token.Joining
import Criteria.Proofs.Token.Numerals
import Criteria.Proofs.Token.Patterns
import Criteria.Proofs.Token.Requests
import Criteria.Proofs.Token.Respelling
import Criteria.Proofs.Token.Words
import Criteria.Proofs.Writing.Decimals
import Criteria.Proofs.Writing.Lexemes
import Criteria.Proofs.Writing.Paths
import Criteria.Proofs.Writing.RoundTrip
import Criteria.Proofs.Writing.Spelling
import Criteria.Text.Blank
import Criteria.Text.CodePoint
import Criteria.Text.Folding
import Criteria.Text.Letter
import Criteria.Text.Outline
import Criteria.Text.Printable
import Criteria.Text.Quoted
import Criteria.Text.Ranges
import Criteria.Text.Word
import Criteria.Token.Basic
import Criteria.Token.Lexeme
import Criteria.Token.Lexer
import Criteria.Value
