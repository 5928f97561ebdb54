import ClipCadence.Clipboard.Backend
import ClipCadence.Clipboard.Memory
import ClipCadence.Clipboard.Session
import ClipCadence.Clipboard.Tool
import ClipCadence.Command.Desk
import ClipCadence.Command.Execute
import ClipCadence.Command.Grammar
import ClipCadence.Command.Options
import ClipCadence.Console.Action.Expression
import ClipCadence.Console.Action.Form
import ClipCadence.Console.Action.Literal
import ClipCadence.Console.Action.Reading
import ClipCadence.Console.Action.Token
import ClipCadence.Console.Highlight
import ClipCadence.Console.Markup
import ClipCadence.Console.Messages
import ClipCadence.Console.Numbered
import ClipCadence.Console.Panel
import ClipCadence.Console.Progress
import ClipCadence.Console.Row
import ClipCadence.Console.StyleName
import ClipCadence.Console.Styled
import ClipCadence.Console.Table
import ClipCadence.Console.Wrap
import ClipCadence.Event.ContentType
import ClipCadence.Event.Payload
import ClipCadence.Event.Record
import ClipCadence.Files.Path
import ClipCadence.Files.Tree
import ClipCadence.Files.UserSettings
import ClipCadence.Json.Lexeme
import ClipCadence.Json.Reader
import ClipCadence.Json.Value
import ClipCadence.Json.Writer
import ClipCadence.Log
import ClipCadence.Main
import ClipCadence.Moment
import ClipCadence.Number.Argument
import ClipCadence.Number.Binary64
import ClipCadence.Number.Decimal
import ClipCadence.Number.Numeral
import ClipCadence.Proofs.Command.Actions
import ClipCadence.Proofs.Command.ExitStatus
import ClipCadence.Proofs.Command.UnusableFile
import ClipCadence.Proofs.Console.Layout
import ClipCadence.Proofs.Console.Markup
import ClipCadence.Proofs.Console.Templates
import ClipCadence.Proofs.Fallible
import ClipCadence.Proofs.Run.Accounting
import ClipCadence.Proofs.Run.Cancellation
import ClipCadence.Proofs.Run.Completion
import ClipCadence.Proofs.Run.Course
import ClipCadence.Proofs.Run.Prefixes
import ClipCadence.Proofs.Run.Script
import ClipCadence.Proofs.Run.Surroundings
import ClipCadence.Proofs.Run.Trace
import ClipCadence.Proofs.Run.Undisturbed
import ClipCadence.Proofs.Settings.Depth
import ClipCadence.Proofs.Settings.History
import ClipCadence.Proofs.Settings.Loading
import ClipCadence.Proofs.Settings.Sources
import ClipCadence.Proofs.Settings.Usable
import ClipCadence.Report
import ClipCadence.Run.Clock
import ClipCadence.Run.Loop
import ClipCadence.Run.Ports
import ClipCadence.Run.Rehearsal
import ClipCadence.Settings.Basic
import ClipCadence.Settings.Document
import ClipCadence.Settings.Rules
import ClipCadence.Settings.Store
import ClipCadence.Settings.Validate
import ClipCadence.Text.Blank
import ClipCadence.Text.Glyph
import ClipCadence.Text.Hexadecimal
import ClipCadence.Text.LineEnd
import ClipCadence.Text.LowerCase
import ClipCadence.Text.Pattern
import ClipCadence.Text.Printable
import ClipCadence.Text.Quoted
import ClipCadence.Text.Span
import ClipCadence.Text.Utf8
import ClipCadence.Text.Width
import ClipCadence.Text.Word
import ClipCadence.Validation.Checked
import ClipCadence.Validation.Issue
import ClipCadence.Proofs.Settings.Spelling
import ClipCadence.Proofs.Settings.Accepted
import ClipCadence.Proofs.Settings.Overrides
import ClipCadence.Proofs.Number.Rounding
import ClipCadence.Proofs.Number.Shortest
import ClipCadence.Proofs.Json.Numbers
import ClipCadence.Proofs.Json.Strings
import ClipCadence.Proofs.Json.RoundTrip
import ClipCadence.Proofs.Json.Sizes
import ClipCadence.Proofs.Settings.Representable
import ClipCadence.Proofs.Settings.Shown
import ClipCadence.Proofs.Run.Refusal
import ClipCadence.Proofs.Event.Decoding
import ClipCadence.Proofs.Run.RefusedPause
import ClipCadence.Proofs.Run.Rehearsed
import ClipCadence.Proofs.Clipboard.Deliveries
import ClipCadence.Proofs.Clipboard.Starts
import ClipCadence.Proofs.Clipboard.Copies
import ClipCadence.Proofs.Clipboard.Sessions
import ClipCadence.Proofs.Event.Kind
import ClipCadence.Proofs.Clipboard.Choice
import ClipCadence.Proofs.Run.Breakdown
import ClipCadence.Proofs.Calendar
import ClipCadence.Proofs.Number.Nearest
import ClipCadence.Proofs.Run.Timing
import ClipCadence.Proofs.Command.Listing
import ClipCadence.Proofs.Command.NewSettings
import ClipCadence.Proofs.Command.CheckedSettings
import ClipCadence.Proofs.Run.Transcript
import ClipCadence.Proofs.Clipboard.Kept
import ClipCadence.Proofs.Settings.Fields
import ClipCadence.Proofs.Console.Marks
import ClipCadence.Proofs.Console.Verbatim
import ClipCadence.Proofs.Clipboard.Diagnostics
import ClipCadence.Proofs.Number.Arguments
