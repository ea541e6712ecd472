import Dashboard.Component
import Dashboard.Conversation
import Dashboard.Counter
import Dashboard.Dataset
import Dashboard.Error
import Dashboard.Filter.Basic
import Dashboard.Filter.Wire
import Dashboard.Hosted.Service
import Dashboard.Hosted.Stage
import Dashboard.Http.Form
import Dashboard.Http.Header
import Dashboard.Http.MediaType
import Dashboard.Http.Message
import Dashboard.Http.Status
import Dashboard.Interpretation.Basic
import Dashboard.Interpretation.Caption
import Dashboard.Interpretation.Wire
import Dashboard.Json.Basic
import Dashboard.Json.Printer
import Dashboard.Json.Raw
import Dashboard.Json.RawShape
import Dashboard.Json.Reader
import Dashboard.Json.Shape
import Dashboard.Lexicon
import Dashboard.Model.Backend
import Dashboard.Model.Exchange
import Dashboard.Model.Ollama
import Dashboard.Model.OpenAi
import Dashboard.Model.Provider
import Dashboard.Model.Retry
import Dashboard.Number.Binary
import Dashboard.Number.Decimal
import Dashboard.Number.Literal
import Dashboard.Number.Notation
import Dashboard.Number.Numeral
import Dashboard.Number.Rounding
import Dashboard.Pattern
import Dashboard.Prompt.Assertion
import Dashboard.Prompt.Basic
import Dashboard.Prompt.Comparison
import Dashboard.Prompt.Criteria
import Dashboard.Prompt.Interpreter
import Dashboard.Prompt.Presentation
import Dashboard.Prompt.Subject
import Dashboard.Proofs.Filter.Algebra
import Dashboard.Proofs.Filter.Operand
import Dashboard.Proofs.Filter.Wire
import Dashboard.Proofs.Hosted.Service
import Dashboard.Proofs.Interpretation.Repair
import Dashboard.Proofs.Interpretation.Shown
import Dashboard.Proofs.Interpretation.Validity
import Dashboard.Proofs.Interpretation.Wire
import Dashboard.Proofs.Json.Member
import Dashboard.Proofs.Json.Number
import Dashboard.Proofs.Json.RoundTrip
import Dashboard.Proofs.Json.String
import Dashboard.Proofs.Json.Value
import Dashboard.Proofs.Lexicon.Addition
import Dashboard.Proofs.Lexicon.Entry
import Dashboard.Proofs.Lexicon.Extension
import Dashboard.Proofs.Lexicon.Mask
import Dashboard.Proofs.Lexicon.Nearest
import Dashboard.Proofs.Lexicon.Table
import Dashboard.Proofs.Model.Retry
import Dashboard.Proofs.Model.TokenLimit
import Dashboard.Proofs.Number.Amount
import Dashboard.Proofs.Number.Based
import Dashboard.Proofs.Number.Digits
import Dashboard.Proofs.Number.Grammar
import Dashboard.Proofs.Number.Integer
import Dashboard.Proofs.Number.Literal
import Dashboard.Proofs.Number.Notation
import Dashboard.Proofs.Number.Numeral
import Dashboard.Proofs.Number.Order
import Dashboard.Proofs.Number.Overflow
import Dashboard.Proofs.Number.Prefix
import Dashboard.Proofs.Number.Prose
import Dashboard.Proofs.Number.Rounding
import Dashboard.Proofs.Number.Shortest
import Dashboard.Proofs.Number.Whole
import Dashboard.Proofs.Pattern.First
import Dashboard.Proofs.Pattern.Follow
import Dashboard.Proofs.Pattern.Mask
import Dashboard.Proofs.Pattern.Seam
import Dashboard.Proofs.Pattern.Search
import Dashboard.Proofs.Pattern.Standing
import Dashboard.Proofs.Pattern.Taken
import Dashboard.Proofs.Prompt.Assertion
import Dashboard.Proofs.Prompt.Comparison
import Dashboard.Proofs.Prompt.Criteria
import Dashboard.Proofs.Prompt.Description
import Dashboard.Proofs.Prompt.Echo
import Dashboard.Proofs.Prompt.EchoAssertion
import Dashboard.Proofs.Prompt.EchoComparison
import Dashboard.Proofs.Prompt.EchoStatus
import Dashboard.Proofs.Prompt.Filters
import Dashboard.Proofs.Prompt.Given
import Dashboard.Proofs.Prompt.Interpreter
import Dashboard.Proofs.Prompt.LetterCase
import Dashboard.Proofs.Prompt.Numeral
import Dashboard.Proofs.Prompt.Passage
import Dashboard.Proofs.Prompt.Phrase
import Dashboard.Proofs.Prompt.Question
import Dashboard.Proofs.Prompt.Sort
import Dashboard.Proofs.Prompt.Subject
import Dashboard.Proofs.Prompt.Symbol
import Dashboard.Proofs.Prompt.Vocabulary
import Dashboard.Proofs.Prompt.Wire
import Dashboard.Proofs.Query.Arrangement
import Dashboard.Proofs.Query.IntegerLimit
import Dashboard.Proofs.Query.Leniency
import Dashboard.Proofs.Query.Limit
import Dashboard.Proofs.Query.Number
import Dashboard.Proofs.Query.Parameters
import Dashboard.Proofs.Query.Preorder
import Dashboard.Proofs.Query.Question
import Dashboard.Proofs.Query.Reading
import Dashboard.Proofs.Query.Rows
import Dashboard.Proofs.Reply.Acceptance
import Dashboard.Proofs.Reply.Balance
import Dashboard.Proofs.Reply.Classification
import Dashboard.Proofs.Reply.Object
import Dashboard.Proofs.Reply.Reader
import Dashboard.Proofs.Reply.Recovery
import Dashboard.Proofs.Reply.Shape
import Dashboard.Proofs.Reply.Single
import Dashboard.Proofs.Reply.Span
import Dashboard.Proofs.Reply.Tally
import Dashboard.Proofs.Server.Counters
import Dashboard.Proofs.Server.CrossOrigin
import Dashboard.Proofs.Server.Data
import Dashboard.Proofs.Server.Leniency
import Dashboard.Proofs.Server.Reload
import Dashboard.Proofs.Server.Request
import Dashboard.Proofs.Settings.Apart
import Dashboard.Proofs.Settings.Assigned
import Dashboard.Proofs.Settings.DatasetWord
import Dashboard.Proofs.Settings.LastWord
import Dashboard.Proofs.Settings.Leaf
import Dashboard.Proofs.Settings.Loading
import Dashboard.Proofs.Settings.Overlay
import Dashboard.Proofs.Settings.Precedence
import Dashboard.Proofs.Settings.Scalar
import Dashboard.Proofs.Settings.Section
import Dashboard.Proofs.Settings.Validity
import Dashboard.Proofs.Store.Column
import Dashboard.Proofs.Store.Typed
import Dashboard.Proofs.Summary.Status
import Dashboard.Proofs.Summary.Total
import Dashboard.Proofs.Text.Blank
import Dashboard.Proofs.Text.LetterCase
import Dashboard.Proofs.Text.Lowercase
import Dashboard.Proofs.Text.Mask
import Dashboard.Proofs.Text.Order
import Dashboard.Proofs.Text.Search
import Dashboard.Query.Basic
import Dashboard.Query.Engine
import Dashboard.Query.Parameters
import Dashboard.Record.Basic
import Dashboard.Record.Typed
import Dashboard.Reply.Reader
import Dashboard.Reply.Shape
import Dashboard.Reply.Span
import Dashboard.Schema
import Dashboard.Server.Basic
import Dashboard.Server.CrossOrigin
import Dashboard.Server.Endpoint
import Dashboard.Server.Route
import Dashboard.Server.State
import Dashboard.Settings.Basic
import Dashboard.Settings.KeyPath
import Dashboard.Settings.Layers
import Dashboard.Settings.Lenient
import Dashboard.Settings.Loading
import Dashboard.Settings.Reader
import Dashboard.Settings.Writer
import Dashboard.Sorting
import Dashboard.Store.Basic
import Dashboard.Store.Bundled
import Dashboard.Summary
import Dashboard.Text.Blank
import Dashboard.Text.CasedTable
import Dashboard.Text.Lowercase
import Dashboard.Text.LowercaseTable
import Dashboard.Text.Order
import Dashboard.Text.Search
import Dashboard.Text.Utf8
import Dashboard.Text.Word
import Dashboard.Text.WordTable
