import HomeAgents.Action.Basic
import HomeAgents.Action.Summary
import HomeAgents.Agent.Basic
import HomeAgents.Agent.Builtin
import HomeAgents.Agent.Config
import HomeAgents.Agent.ConfigText
import HomeAgents.Agent.Error
import HomeAgents.Agent.Override
import HomeAgents.Agent.Prompt
import HomeAgents.Agent.Roster
import HomeAgents.Agent.Validation
import HomeAgents.Backend.Answer
import HomeAgents.Binary.Basic
import HomeAgents.Binary.Shortest
import HomeAgents.Collection.Ordered
import HomeAgents.Collection.Sorted
import HomeAgents.CommandLine.Arguments
import HomeAgents.CommandLine.Conversation
import HomeAgents.CommandLine.Household
import HomeAgents.CommandLine.Listing
import HomeAgents.CommandLine.Program
import HomeAgents.CommandLine.Replay
import HomeAgents.Dispatch.Basic
import HomeAgents.Dispatch.Block
import HomeAgents.Dispatch.Completion
import HomeAgents.Dispatch.EventRecord
import HomeAgents.Dispatch.Hop
import HomeAgents.Dispatch.Result
import HomeAgents.Dispatch.State
import HomeAgents.Files.Directories
import HomeAgents.Files.Path
import HomeAgents.Files.Tree
import HomeAgents.Glob.Match
import HomeAgents.Glob.Pattern
import HomeAgents.House.ListDirectory
import HomeAgents.House.Now
import HomeAgents.House.ReadFile
import HomeAgents.House.Sandbox
import HomeAgents.Http.Exchange
import HomeAgents.Http.Host
import HomeAgents.Http.Percent
import HomeAgents.Http.Status
import HomeAgents.Http.Url
import HomeAgents.Http.Wire
import HomeAgents.Json.Basic
import HomeAgents.Json.Fault
import HomeAgents.Json.Lexeme
import HomeAgents.Json.Print
import HomeAgents.Json.Read
import HomeAgents.Json.Record
import HomeAgents.Json.Skip
import HomeAgents.Json.Tree
import HomeAgents.Log.Line
import HomeAgents.Main
import HomeAgents.Model.Basic
import HomeAgents.Model.Message
import HomeAgents.Proofs.Dispatch.Ledger
import HomeAgents.Proofs.Dispatch.Stretch
import HomeAgents.Provider.Client
import HomeAgents.Provider.Config
import HomeAgents.Provider.Credentials
import HomeAgents.Rehearsal.Double
import HomeAgents.Rehearsal.Stage
import HomeAgents.Reply.Basic
import HomeAgents.Reply.Decode
import HomeAgents.Reply.Fence
import HomeAgents.Reply.Segment
import HomeAgents.Reply.Tag
import HomeAgents.Routing.Keyword
import HomeAgents.Routing.Router
import HomeAgents.Service.Basic
import HomeAgents.Session.Edit
import HomeAgents.Session.Identity
import HomeAgents.Session.Scratchpad
import HomeAgents.Session.Store
import HomeAgents.Setting.DotEnv
import HomeAgents.Setting.Fault
import HomeAgents.Setting.Places
import HomeAgents.Setting.Settings
import HomeAgents.Telemetry.Folder
import HomeAgents.Telemetry.Store
import HomeAgents.Text.Blank
import HomeAgents.Text.Excerpt
import HomeAgents.Text.Lines
import HomeAgents.Text.Quoted
import HomeAgents.Text.Search
import HomeAgents.Text.Split
import HomeAgents.Time.Civil
import HomeAgents.Time.Timestamp
import HomeAgents.Tool.Basic
import HomeAgents.Unicode.Case
import HomeAgents.Unicode.CaseTable
import HomeAgents.Unicode.VisibleTable
import HomeAgents.Unicode.Word
import HomeAgents.Unicode.WordTable
import HomeAgents.Yaml.Block
import HomeAgents.Yaml.Cursor
import HomeAgents.Yaml.Decode
import HomeAgents.Yaml.Fault
import HomeAgents.Yaml.Node
import HomeAgents.Yaml.Plain
import HomeAgents.Yaml.Property
import HomeAgents.Yaml.Quoted
import HomeAgents.Yaml.Scalar
import HomeAgents.Yaml.Token
import HomeAgents.Yaml.Tokens
import HomeAgents.Proofs.Dispatch.Errand
import HomeAgents.Proofs.Dispatch.Course
import HomeAgents.Proofs.Dispatch.Growth
import HomeAgents.Proofs.Dispatch.Tour
import HomeAgents.Proofs.Dispatch.Confinement
import HomeAgents.Proofs.Dispatch.Execution
import HomeAgents.Proofs.Dispatch.Memory
import HomeAgents.Proofs.Dispatch.Cancellation
import HomeAgents.Proofs.Dispatch.Budget
import HomeAgents.Proofs.Reply.Grammar
import HomeAgents.Proofs.Json.Token
import HomeAgents.Proofs.Json.RoundTrip
import HomeAgents.Proofs.Reply.Ask
import HomeAgents.Proofs.Json.Printed
import HomeAgents.Proofs.Reply.RoundTrip
import HomeAgents.Proofs.Reply.Injection
import HomeAgents.Proofs.Text.Trim
import HomeAgents.Proofs.Json.Quotes
import HomeAgents.Proofs.Dispatch.Agreement
import HomeAgents.Proofs.Reply.Display
import HomeAgents.Proofs.Files.Resolution
import HomeAgents.Proofs.House.Sandbox
import HomeAgents.Proofs.House.Listing
import HomeAgents.Proofs.Reply.Truncation
import HomeAgents.Proofs.Dispatch.Conversation
import HomeAgents.Proofs.Dispatch.Offers
import HomeAgents.Proofs.Collection.Sorted
import HomeAgents.Proofs.Json.Spelling
import HomeAgents.Proofs.Json.Numeral
import HomeAgents.Proofs.Json.Grammar
import HomeAgents.Proofs.Json.Recognition
import HomeAgents.Proofs.Json.Passing
import HomeAgents.Proofs.Json.Records
import HomeAgents.Proofs.Reply.Shape
import HomeAgents.Proofs.Dispatch.Reason
import HomeAgents.Proofs.Dispatch.Prose
import HomeAgents.Proofs.Dispatch.Stream
import HomeAgents.Proofs.Provider.Key
import HomeAgents.Proofs.Provider.Precedence
import HomeAgents.Proofs.Dispatch.Failure
import HomeAgents.Proofs.Dispatch.Readiness
import HomeAgents.Proofs.Json.Messages
import HomeAgents.Proofs.Telemetry.Writes
import HomeAgents.Proofs.Dispatch.Audit
import HomeAgents.Proofs.Routing.Score
import HomeAgents.Proofs.Routing.Selection
import HomeAgents.Proofs.Dispatch.Delegation
import HomeAgents.Proofs.Dispatch.Summary
import HomeAgents.Proofs.Collection.Ordered
import HomeAgents.Proofs.Agent.Construction
import HomeAgents.Proofs.Agent.Prompt
import HomeAgents.Proofs.Agent.Layers
import HomeAgents.Proofs.Json.Values
import HomeAgents.Proofs.Agent.ConfigText
import HomeAgents.Proofs.Text.Lines
import HomeAgents.Proofs.Text.Excerpt
import HomeAgents.Proofs.Action.Feedback
import HomeAgents.Proofs.House.Paging
import HomeAgents.Proofs.Files.Preorder
import HomeAgents.Proofs.House.Walk
import HomeAgents.Proofs.Reply.Tags
import HomeAgents.Proofs.Reply.Isolation
import HomeAgents.Proofs.Text.Digits
import HomeAgents.Proofs.Time.Calendar
import HomeAgents.Proofs.Time.Timestamp
import HomeAgents.Proofs.Telemetry.Recent
import HomeAgents.Proofs.Session.Lifetime
import HomeAgents.Proofs.Session.Isolation
import HomeAgents.Proofs.CommandLine.Services
