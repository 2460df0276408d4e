import Deskhand.Agent.Basic
import Deskhand.Agent.Workplace
import Deskhand.Command.Access
import Deskhand.Command.Argument
import Deskhand.Command.Cache
import Deskhand.Command.Parser
import Deskhand.Command.Strategy
import Deskhand.CommandLine.Flag
import Deskhand.CommandLine.Invocation
import Deskhand.CommandLine.Program
import Deskhand.Csv
import Deskhand.Desk.BrowserCommand
import Deskhand.Desk.Chord
import Deskhand.Desk.DesktopCommand
import Deskhand.Desk.Device
import Deskhand.Desk.Key
import Deskhand.Desk.Launch
import Deskhand.Desk.Surroundings
import Deskhand.Desk.Timing
import Deskhand.Duration
import Deskhand.Error
import Deskhand.Execution.Executor
import Deskhand.Execution.Log
import Deskhand.Files.Path
import Deskhand.Files.Tree
import Deskhand.Http.CrossOrigin
import Deskhand.Http.MediaType
import Deskhand.Http.Message
import Deskhand.Http.Status
import Deskhand.Http.Url
import Deskhand.Json.Basic
import Deskhand.Json.Outline
import Deskhand.Json.Reader
import Deskhand.Json.Writer
import Deskhand.Keyed
import Deskhand.Main
import Deskhand.Model.Error
import Deskhand.Model.Gemini
import Deskhand.Model.Replay
import Deskhand.Model.Settings
import Deskhand.Number.Binary
import Deskhand.Number.Reading
import Deskhand.Number.Shortest
import Deskhand.Number.Style
import Deskhand.Plan.Basic
import Deskhand.Plan.Extraction
import Deskhand.Prompt
import Deskhand.Proofs.Command.Agreement
import Deskhand.Proofs.Command.CacheHistory
import Deskhand.Proofs.Command.Coverage
import Deskhand.Proofs.Command.Form
import Deskhand.Proofs.Command.InnerQuotes
import Deskhand.Proofs.Command.Kinds
import Deskhand.Proofs.Command.QuoteStability
import Deskhand.Proofs.Command.SharedCache
import Deskhand.Proofs.Command.Spelling
import Deskhand.Proofs.Command.Tokens
import Deskhand.Proofs.Command.TrailingComma
import Deskhand.Proofs.Command.UnescapedQuotes
import Deskhand.Proofs.CommandLine.Precedence
import Deskhand.Proofs.Csv
import Deskhand.Proofs.Desk.ChordGrammar
import Deskhand.Proofs.Desk.Keys
import Deskhand.Proofs.Desk.Outcomes
import Deskhand.Proofs.Desk.Parts
import Deskhand.Proofs.Desk.Refusal
import Deskhand.Proofs.Desk.SavedFiles
import Deskhand.Proofs.Desk.Tables
import Deskhand.Proofs.Desk.Titles
import Deskhand.Proofs.Desk.Typing
import Deskhand.Proofs.Execution.Attempts
import Deskhand.Proofs.Execution.Deadline
import Deskhand.Proofs.Execution.Dispatch
import Deskhand.Proofs.Execution.Isolation
import Deskhand.Proofs.Execution.Items
import Deskhand.Proofs.Execution.Lockstep
import Deskhand.Proofs.Files.Frame
import Deskhand.Proofs.Files.Saving
import Deskhand.Proofs.Json.Content
import Deskhand.Proofs.Json.Grammar
import Deskhand.Proofs.Json.Integers
import Deskhand.Proofs.Json.Items
import Deskhand.Proofs.Json.Literal
import Deskhand.Proofs.Json.Members
import Deskhand.Proofs.Json.Numerals
import Deskhand.Proofs.Json.Objectless
import Deskhand.Proofs.Json.RoundTrip
import Deskhand.Proofs.Json.TrailingCommas
import Deskhand.Proofs.Plan.BacktickRuns
import Deskhand.Proofs.Plan.Comments
import Deskhand.Proofs.Plan.Compact
import Deskhand.Proofs.Plan.Decoration
import Deskhand.Proofs.Plan.Fences
import Deskhand.Proofs.Plan.LineEndings
import Deskhand.Proofs.Plan.Lines
import Deskhand.Proofs.Plan.Outcomes
import Deskhand.Proofs.Plan.Rendering
import Deskhand.Proofs.Plan.TrailingComma
import Deskhand.Proofs.Plan.Verdicts
import Deskhand.Proofs.Prompt
import Deskhand.Proofs.Redaction.Credentials
import Deskhand.Proofs.Redaction.Leads
import Deskhand.Proofs.Redaction.Names
import Deskhand.Proofs.Redaction.Passes
import Deskhand.Proofs.Redaction.QueryKeys
import Deskhand.Proofs.Redaction.Stages
import Deskhand.Proofs.Redaction.Words
import Deskhand.Proofs.Registry
import Deskhand.Proofs.Script
import Deskhand.Proofs.Script.Always
import Deskhand.Proofs.Server.Endpoints
import Deskhand.Proofs.Server.Gating
import Deskhand.Proofs.Server.History
import Deskhand.Proofs.Server.Requests
import Deskhand.Proofs.Settings.Layers
import Deskhand.Proofs.Settings.NormalForm
import Deskhand.Proofs.Settings.Overlay
import Deskhand.Proofs.Settings.Variables
import Deskhand.Proofs.Text.LineEndings
import Deskhand.Proofs.Text.Literals
import Deskhand.Proofs.Text.Pieces
import Deskhand.Proofs.Text.Substitution
import Deskhand.Proofs.Text.TrailingCommas
import Deskhand.Proofs.Text.Utf8
import Deskhand.Registry
import Deskhand.Script
import Deskhand.Server
import Deskhand.Settings.Address
import Deskhand.Settings.Agent
import Deskhand.Settings.Document
import Deskhand.Settings.Environment
import Deskhand.Settings.Error
import Deskhand.Text.Blank
import Deskhand.Text.CaseTable
import Deskhand.Text.Classes
import Deskhand.Text.Commas
import Deskhand.Text.HiddenTable
import Deskhand.Text.Identifier
import Deskhand.Text.Quoted
import Deskhand.Text.Redaction
import Deskhand.Text.Search
import Deskhand.Text.Utf8
import Deskhand.Text.WordTable
import Deskhand.Version
import Deskhand.Yaml.Basic
import Deskhand.Yaml.Reader
import Deskhand.Yaml.Shape
