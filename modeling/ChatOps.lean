import ChatOps.Address
import ChatOps.Assistant
import ChatOps.Command
import ChatOps.Command.Argument
import ChatOps.Command.Misspelling
import ChatOps.Command.Parser
import ChatOps.Command.Printer
import ChatOps.Command.Token
import ChatOps.Context
import ChatOps.Dispatch
import ChatOps.Engine
import ChatOps.ExecutionId
import ChatOps.Executions
import ChatOps.Failure
import ChatOps.Feed
import ChatOps.Generation
import ChatOps.History
import ChatOps.IssueKey
import ChatOps.Json.Member
import ChatOps.Json.Printer
import ChatOps.Json.Reader
import ChatOps.Json.Record
import ChatOps.Json.Value
import ChatOps.Newest
import ChatOps.Number.Binary64
import ChatOps.Number.Shortest
import ChatOps.Output
import ChatOps.Plugin
import ChatOps.PluginStore
import ChatOps.Preferences
import ChatOps.Refresher
import ChatOps.Registry
import ChatOps.Registry.Builtin
import ChatOps.Registry.Tables
import ChatOps.Reply
import ChatOps.Repository
import ChatOps.Routine
import ChatOps.Script
import ChatOps.Script.Reader
import ChatOps.Session
import ChatOps.Settings
import ChatOps.Setup
import ChatOps.SortedMap
import ChatOps.Template
import ChatOps.Text.Blank
import ChatOps.Text.Digit
import ChatOps.Text.EditDistance
import ChatOps.Text.FileName
import ChatOps.Text.Letter
import ChatOps.Text.Nearest
import ChatOps.Text.Printable
import ChatOps.Text.Quoted
import ChatOps.Text.Split
import ChatOps.Text.WordChar
import ChatOps.Ticker
import ChatOps.Time.Instant
import ChatOps.Usage
import ChatOps.Proofs.Command.Addressed
import ChatOps.Proofs.Command.Rendering
import ChatOps.Proofs.Command.Line
import ChatOps.Proofs.Command.Written
import ChatOps.Proofs.Command.RoundTrip
import ChatOps.Proofs.Json.Weight
import ChatOps.Proofs.Command.ScanWeight
import ChatOps.Proofs.Json.Bracketed
import ChatOps.Proofs.Json.Reading
import ChatOps.Proofs.Command.ReadWeight
import ChatOps.Proofs.Command.Faithful
import ChatOps.Proofs.Execution.Log
import ChatOps.Proofs.Execution.Traced
import ChatOps.Proofs.Execution.Account
import ChatOps.Proofs.Execution.Run
import ChatOps.Proofs.Registry.Namespaces
import ChatOps.Proofs.Registry.Agreement
import ChatOps.Proofs.Registry.Reachable
import ChatOps.Proofs.Plugin.Store
import ChatOps.Proofs.Registry.Rebuild
import ChatOps.Proofs.Execution.Ending
import ChatOps.Proofs.Registry.Lookup
import ChatOps.Proofs.Registry.Qualified
import ChatOps.Proofs.Dispatch.Choice
import ChatOps.Proofs.Dispatch.Arguments
import ChatOps.Proofs.Dispatch.Availability
import ChatOps.Proofs.Registry.Precedence
import ChatOps.Proofs.Reply.Reading
import ChatOps.Proofs.Reply.Outcome
import ChatOps.Proofs.Command.Inference
import ChatOps.Proofs.IssueKey.Form
import ChatOps.Proofs.Generation.Line
import ChatOps.Proofs.Generation.Composed
import ChatOps.Proofs.Generation.Carried
import ChatOps.Proofs.Dispatch.Routing
import ChatOps.Proofs.Registry.Canonical
import ChatOps.Proofs.Session.Watching
import ChatOps.Proofs.Json.Equality
import ChatOps.Proofs.Preferences
import ChatOps.Proofs.Assistant.Conversation
import ChatOps.Proofs.Execution.Sharing
import ChatOps.Proofs.Assistant.Refreshing
import ChatOps.Proofs.Session.Generating
import ChatOps.Proofs.Session.IssueKeys
import ChatOps.Proofs.Command.Spacing
import ChatOps.Proofs.Json.Written
import ChatOps.Proofs.Registry.Announcements
import ChatOps.Proofs.Execution.Cancellation
import ChatOps.Proofs.Text.Alignment
import ChatOps.Proofs.Text.EditDistance
import ChatOps.Proofs.Number.Rounding
import ChatOps.Proofs.Text.Likeness
import ChatOps.Proofs.Command.Accepted
import ChatOps.Proofs.Command.Decimal
import ChatOps.Proofs.Command.Joined
import ChatOps.Proofs.Text.Ranking
import ChatOps.Proofs.Command.Misspelling
import ChatOps.Proofs.Repetitions
import ChatOps.Proofs.Registry.Suggestions
import ChatOps.Proofs.Dispatch.Siblings
import ChatOps.Proofs.Dispatch.Recognition
import ChatOps.Proofs.Refreshers
import ChatOps.Proofs.Session.Ticking
import ChatOps.Proofs.Plugin.Journal
import ChatOps.Proofs.IssueKey.Places
import ChatOps.Proofs.Generation.Checkout
