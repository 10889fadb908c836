import Birl.Character.Blank
import Birl.Character.Case
import Birl.Character.CombiningClass
import Birl.Character.Decomposition
import Birl.Character.Follower
import Birl.Character.Letter
import Birl.Character.Mark
import Birl.Character.Printable
import Birl.Character.Span
import Birl.Command
import Birl.Command.Parse
import Birl.Command.Phrase
import Birl.Command.Render
import Birl.CommandLine
import Birl.CommandLine.Options
import Birl.CommandLine.Report
import Birl.Comparison
import Birl.Compiler
import Birl.Compiler.Expression
import Birl.Compiler.Statement
import Birl.Expression
import Birl.Fault
import Birl.Files
import Birl.Frame
import Birl.Host
import Birl.Host.Function
import Birl.Host.Type
import Birl.Host.Value
import Birl.Keyword
import Birl.Library
import Birl.Log
import Birl.Log.Line
import Birl.Machine
import Birl.Machine.Arithmetic
import Birl.Machine.Run
import Birl.Machine.Step
import Birl.Main
import Birl.Number
import Birl.Number.Reading
import Birl.Number.Shortest
import Birl.Number.Writing
import Birl.Program
import Birl.Program.Listing
import Birl.Proofs.Command
import Birl.Proofs.CommandLine.Place
import Birl.Proofs.Compiler.Arguments
import Birl.Proofs.Compiler.Block
import Birl.Proofs.Compiler.Call
import Birl.Proofs.Compiler.Command
import Birl.Proofs.Compiler.Effect
import Birl.Proofs.Compiler.Expression
import Birl.Proofs.Compiler.Growth
import Birl.Proofs.Compiler.InPlace
import Birl.Proofs.Compiler.Layout
import Birl.Proofs.Compiler.Lines
import Birl.Proofs.Compiler.Matching
import Birl.Proofs.Compiler.Meaning
import Birl.Proofs.Compiler.Numbering
import Birl.Proofs.Compiler.Operands
import Birl.Proofs.Compiler.Ownership
import Birl.Proofs.Compiler.Quiet
import Birl.Proofs.Compiler.Reachable
import Birl.Proofs.Compiler.Refusal
import Birl.Proofs.Compiler.Representation
import Birl.Proofs.Compiler.Safety
import Birl.Proofs.Compiler.Slots
import Birl.Proofs.Compiler.Submission
import Birl.Proofs.Compiler.Temporaries
import Birl.Proofs.Compiler.Validation
import Birl.Proofs.Compiler.Values
import Birl.Proofs.Conditional
import Birl.Proofs.Expression
import Birl.Proofs.Frame
import Birl.Proofs.Frame.History
import Birl.Proofs.Host
import Birl.Proofs.Machine.Arithmetic
import Birl.Proofs.Machine.Block
import Birl.Proofs.Machine.Bounds
import Birl.Proofs.Machine.Call
import Birl.Proofs.Machine.Control
import Birl.Proofs.Machine.Finite
import Birl.Proofs.Machine.Flow
import Birl.Proofs.Machine.GlobalFrame
import Birl.Proofs.Machine.Guard
import Birl.Proofs.Machine.Identities
import Birl.Proofs.Machine.Output
import Birl.Proofs.Machine.Placement
import Birl.Proofs.Machine.Refit
import Birl.Proofs.Machine.Registers
import Birl.Proofs.Machine.Resume
import Birl.Proofs.Machine.Roster
import Birl.Proofs.Machine.Safety
import Birl.Proofs.Machine.Sound
import Birl.Proofs.Machine.Stack
import Birl.Proofs.Machine.Termination
import Birl.Proofs.Program
import Birl.Proofs.Result
import Birl.Proofs.Run
import Birl.Proofs.Session.Attribution
import Birl.Proofs.Session.Call
import Birl.Proofs.Session.Clean
import Birl.Proofs.Session.FailedLine
import Birl.Proofs.Session.History
import Birl.Proofs.Session.HostValues
import Birl.Proofs.Session.Incremental
import Birl.Proofs.Session.Ledger
import Birl.Proofs.Session.Operations
import Birl.Proofs.Session.ReadOnly
import Birl.Proofs.Session.Safety
import Birl.Proofs.Session.Setup
import Birl.Proofs.Source.Acceptance
import Birl.Proofs.Source.Balance
import Birl.Proofs.Source.Command
import Birl.Proofs.Source.Comment
import Birl.Proofs.Source.Decimal
import Birl.Proofs.Source.Derivation
import Birl.Proofs.Source.Digits
import Birl.Proofs.Source.Expression
import Birl.Proofs.Source.Formatting
import Birl.Proofs.Source.Grammar
import Birl.Proofs.Source.Idempotence
import Birl.Proofs.Source.Inline
import Birl.Proofs.Source.Rounding
import Birl.Proofs.Source.Rune
import Birl.Proofs.Source.Tiling
import Birl.Proofs.Source.Token
import Birl.Proofs.TextStore
import Birl.Proofs.TextStore.History
import Birl.Proofs.Trace
import Birl.Session
import Birl.Settings
import Birl.Settings.Date
import Birl.Settings.Entry
import Birl.Settings.Search
import Birl.Settings.Toml
import Birl.Settings.Yaml
import Birl.Settings.Yaml.Cursor
import Birl.Settings.Yaml.Meaning
import Birl.Settings.Yaml.Node
import Birl.Settings.Yaml.Scalar
import Birl.Settings.Yaml.Token
import Birl.Source.Extension
import Birl.Source.Format
import Birl.Stream
import Birl.SyntaxError
import Birl.Text
import Birl.Text.Case
import Birl.Text.Lower
import Birl.Text.Normal
import Birl.Text.Quoted
import Birl.Text.Rune
import Birl.TextStore
import Birl.Token
import Birl.Value
