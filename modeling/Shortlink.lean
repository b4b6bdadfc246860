import Shortlink.Base62
import Shortlink.Clock
import Shortlink.CommandLine.Error
import Shortlink.CommandLine.Help
import Shortlink.CommandLine.Parse
import Shortlink.CommandLine.Setting
import Shortlink.CommandLine.Value
import Shortlink.Decimal.Numeral
import Shortlink.Decimal.Plain
import Shortlink.Decimal.Shortest
import Shortlink.Gateway.Failure
import Shortlink.Gateway.Handlers
import Shortlink.Gateway.Probe
import Shortlink.Gateway.Refusal
import Shortlink.Gateway.Service
import Shortlink.Gateway.Settings
import Shortlink.Gateway.ShortenRequest
import Shortlink.Gateway.Site
import Shortlink.Gateway.Work
import Shortlink.Http.Message
import Shortlink.Http.PercentEncoding
import Shortlink.Http.Target
import Shortlink.Http.Wire
import Shortlink.Json.Fault
import Shortlink.Json.Number
import Shortlink.Json.Rejection
import Shortlink.Json.Skip
import Shortlink.Json.Text
import Shortlink.Json.Writer
import Shortlink.Log.Directive
import Shortlink.Log.Event
import Shortlink.Log.Filter
import Shortlink.Log.Level
import Shortlink.Log.Line
import Shortlink.Log.Logger
import Shortlink.Main
import Shortlink.Net.Address
import Shortlink.Pattern
import Shortlink.Pattern.CharSet
import Shortlink.Pattern.Class
import Shortlink.Pattern.Cursor
import Shortlink.Pattern.Escape
import Shortlink.Pattern.Expression
import Shortlink.Pattern.Fault
import Shortlink.Pattern.Meaning
import Shortlink.Pattern.Nesting
import Shortlink.Pattern.Parse
import Shortlink.Pattern.Program
import Shortlink.Pattern.Search
import Shortlink.Pattern.Span
import Shortlink.Pattern.Syntax
import Shortlink.Program
import Shortlink.Proofs.Base62.Codec
import Shortlink.Proofs.Base62.Digit
import Shortlink.Proofs.Base62.Leading
import Shortlink.Proofs.Base62.Numeral
import Shortlink.Proofs.Base62.Order
import Shortlink.Proofs.CommandLine.Precedence
import Shortlink.Proofs.CommandLine.Rendering
import Shortlink.Proofs.CommandLine.Soundness
import Shortlink.Proofs.CommandLine.Spellings
import Shortlink.Proofs.CommandLine.Values
import Shortlink.Proofs.Concurrent.Completion
import Shortlink.Proofs.Concurrent.Confluence
import Shortlink.Proofs.Concurrent.Guarantee
import Shortlink.Proofs.Concurrent.History
import Shortlink.Proofs.Concurrent.Linear
import Shortlink.Proofs.Concurrent.Machine
import Shortlink.Proofs.Concurrent.Progress
import Shortlink.Proofs.Concurrent.Rest
import Shortlink.Proofs.Decimal.Numerals
import Shortlink.Proofs.Gateway.Acceptance
import Shortlink.Proofs.Gateway.Deadlines
import Shortlink.Proofs.Gateway.Echo
import Shortlink.Proofs.Gateway.Failures
import Shortlink.Proofs.Gateway.Forgery
import Shortlink.Proofs.Gateway.Receipts
import Shortlink.Proofs.Gateway.Recovery
import Shortlink.Proofs.Gateway.Redirect
import Shortlink.Proofs.Gateway.RequestBody
import Shortlink.Proofs.Gateway.Run
import Shortlink.Proofs.Gateway.Serve
import Shortlink.Proofs.Gateway.Shorten
import Shortlink.Proofs.Gateway.Tracing
import Shortlink.Proofs.Http.Path
import Shortlink.Proofs.Json.Documents
import Shortlink.Proofs.Json.Grammar
import Shortlink.Proofs.Json.Numbers
import Shortlink.Proofs.Json.Objects
import Shortlink.Proofs.Json.Skipping
import Shortlink.Proofs.Json.Spelling
import Shortlink.Proofs.Json.Values
import Shortlink.Proofs.Json.Written
import Shortlink.Proofs.Log.Boundaries
import Shortlink.Proofs.Log.Directives
import Shortlink.Proofs.Log.Filtering
import Shortlink.Proofs.Log.Lines
import Shortlink.Proofs.Log.Precedence
import Shortlink.Proofs.Log.Receipts
import Shortlink.Proofs.Log.Thresholds
import Shortlink.Proofs.Net.Addresses
import Shortlink.Proofs.Sequence.Lineage
import Shortlink.Proofs.Session.Audit
import Shortlink.Proofs.Session.Causes
import Shortlink.Proofs.Session.IssueOrder
import Shortlink.Proofs.Session.Output
import Shortlink.Proofs.ShortCode
import Shortlink.Proofs.ShortCode.Views
import Shortlink.Proofs.Store.Exhaustion
import Shortlink.Proofs.Store.Growth
import Shortlink.Proofs.Store.Keys
import Shortlink.Proofs.Store.Ledger
import Shortlink.Proofs.Store.Refinement
import Shortlink.Proofs.Store.Renaming
import Shortlink.Proofs.Store.Runs
import Shortlink.Proofs.Store.Trail
import Shortlink.Proofs.Text.Cutting
import Shortlink.Proofs.Text.Digits
import Shortlink.Proofs.Text.Lines
import Shortlink.Proofs.Text.Splitting
import Shortlink.Proofs.Text.Utf8
import Shortlink.Sequence
import Shortlink.Sequence.Script
import Shortlink.Session
import Shortlink.ShortCode
import Shortlink.ShortCode.Json
import Shortlink.Store.Basic
import Shortlink.Store.Call
import Shortlink.Store.Counter
import Shortlink.Store.Memory
import Shortlink.Text.Alphanumeric
import Shortlink.Text.Blank
import Shortlink.Text.Cut
import Shortlink.Text.Displayed
import Shortlink.Text.Formless
import Shortlink.Text.Quoted
import Shortlink.Text.Similarity
import Shortlink.Text.Split
import Shortlink.Text.Utf8
