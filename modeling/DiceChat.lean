import DiceChat.Binary64
import DiceChat.Chat.Bot
import DiceChat.Chat.Command
import DiceChat.Chat.Message
import DiceChat.Chat.Room
import DiceChat.CommandLine.Flag
import DiceChat.CommandLine.Invocation
import DiceChat.CommandLine.Program
import DiceChat.CommandLine.Scan
import DiceChat.CommandLine.Usage
import DiceChat.CommandLine.Word
import DiceChat.Config.Basic
import DiceChat.Config.Edit
import DiceChat.Config.Store
import DiceChat.Die
import DiceChat.Failure
import DiceChat.Display.Layout
import DiceChat.Display.Limit
import DiceChat.Display.Markup
import DiceChat.Display.Rendered
import DiceChat.Disk
import DiceChat.Disk.Body
import DiceChat.Disk.Path
import DiceChat.Json.Basic
import DiceChat.Json.Draft
import DiceChat.Json.Reader
import DiceChat.Json.Text
import DiceChat.Json.Writer
import DiceChat.Log.Logger
import DiceChat.Log.Record
import DiceChat.Log.Threshold
import DiceChat.Main
import DiceChat.Mode
import DiceChat.Notation.Journal
import DiceChat.Notation.Reader
import DiceChat.Numeral
import DiceChat.Ordered
import DiceChat.Proofs.Chat.Budgets
import DiceChat.Proofs.Chat.Displays
import DiceChat.Proofs.Chat.Draws
import DiceChat.Proofs.Chat.Embed
import DiceChat.Proofs.Chat.Run
import DiceChat.Proofs.CommandLine.Roll
import DiceChat.Proofs.Disk
import DiceChat.Proofs.Config.Reopen
import DiceChat.Proofs.Config.Store
import DiceChat.Proofs.Die
import DiceChat.Proofs.Display.Fit
import DiceChat.Proofs.Display.Lines
import DiceChat.Proofs.Display.Winner
import DiceChat.Proofs.Json.Depth
import DiceChat.Proofs.Json.Draft
import DiceChat.Proofs.Json.Number
import DiceChat.Proofs.Json.Reader
import DiceChat.Proofs.Json.RoundTrip
import DiceChat.Proofs.Json.Text
import DiceChat.Proofs.Json.Throughout
import DiceChat.Proofs.Notation.Bounds
import DiceChat.Proofs.Notation.Faults
import DiceChat.Proofs.Notation.Grammar
import DiceChat.Proofs.Notation.Parameters
import DiceChat.Proofs.Notation.Parse
import DiceChat.Proofs.Notation.Trim
import DiceChat.Proofs.Numeral
import DiceChat.Proofs.Outcome
import DiceChat.Proofs.Record.RoundTrip
import DiceChat.Proofs.Roll
import DiceChat.Proofs.Text.Blank
import DiceChat.Proofs.Text.Collection
import DiceChat.Proofs.Text.Join
import DiceChat.Proofs.Text.Kind
import DiceChat.Record.Decode
import DiceChat.Record.Encode
import DiceChat.Roll
import DiceChat.Session
import DiceChat.Settings
import DiceChat.Text.Basic
import DiceChat.Text.Blank
import DiceChat.Text.Digit
import DiceChat.Text.Format.Basic
import DiceChat.Text.Format.Layout
import DiceChat.Text.Format.Whole
import DiceChat.Text.Format.Words
import DiceChat.Text.Kind
import DiceChat.Text.Kind.Catalogue
import DiceChat.Text.Kind.Entry
import DiceChat.Text.Member
import DiceChat.Text.Printable
import DiceChat.Text.Quoted
import DiceChat.Text.Template
import DiceChat.Text.Template.BuiltIns
import DiceChat.Text.Template.Code
import DiceChat.Text.Template.Flag
import DiceChat.Text.Template.Hint
import DiceChat.Text.Template.Holdings
import DiceChat.Text.Template.Place
import DiceChat.Text.Template.Steps
import DiceChat.Text.Template.Subject
import DiceChat.Text.Template.Surroundings
import DiceChat.Text.Utf8
import DiceChat.Token
import DiceChat.Proofs.Display.Bound
import DiceChat.Proofs.Display.Reserve
import DiceChat.Proofs.Json.Flawed
import DiceChat.Proofs.Config.Values
import DiceChat.Proofs.Config.Saving
import DiceChat.Proofs.Config.Steps
import DiceChat.Proofs.Notation.Spacing
import DiceChat.Proofs.Notation.Spelling
import DiceChat.Proofs.Session
import DiceChat.Proofs.Log.Console
import DiceChat.Proofs.Chat.Delivery
import DiceChat.Proofs.Display.Readback
import DiceChat.Proofs.Chat.Refusal
import DiceChat.Proofs.Config.Reload
import DiceChat.Proofs.CommandLine.Line
import DiceChat.Proofs.CommandLine.Start
import DiceChat.Proofs.Record.Malformed
import DiceChat.Proofs.Text.Quoted
import DiceChat.Proofs.Notation.Journal
import DiceChat.Proofs.CommandLine.Position
import DiceChat.Proofs.Log.Routing
import DiceChat.Proofs.CommandLine.Preparation
import DiceChat.Proofs.CommandLine.Token
