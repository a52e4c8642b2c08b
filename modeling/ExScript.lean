import ExScript.Application
import ExScript.Command.Descriptor
import ExScript.Command.Line
import ExScript.Command.Registry
import ExScript.Command.Spec
import ExScript.Engine.Builtins
import ExScript.Engine.Conditional
import ExScript.Engine.Dispatch
import ExScript.Engine.Driving
import ExScript.Engine.Plugins
import ExScript.Engine.Program
import ExScript.Engine.Prompted
import ExScript.Engine.Sourcing
import ExScript.Engine.State
import ExScript.Expr.Arithmetic
import ExScript.Expr.Evaluation
import ExScript.Expr.Evaluator
import ExScript.Expr.Function
import ExScript.Expr.Method
import ExScript.Expr.Mistake
import ExScript.Expr.Names
import ExScript.Expr.Numeral
import ExScript.Expr.Numerals
import ExScript.Expr.Parse
import ExScript.Expr.Program
import ExScript.Expr.Quotation
import ExScript.Expr.Relation
import ExScript.Expr.Scan
import ExScript.Expr.Sequence
import ExScript.Expr.Target
import ExScript.Expr.Token
import ExScript.Expr.Tree
import ExScript.Expr.Value
import ExScript.Expr.Written
import ExScript.Fault
import ExScript.Files
import ExScript.Invocation
import ExScript.Logging
import ExScript.Main
import ExScript.Message
import ExScript.Number.Dyadic
import ExScript.Number.FloatText
import ExScript.Number.Shortest
import ExScript.Path
import ExScript.Prompt.Desk
import ExScript.Script.Assembly
import ExScript.Script.LineSource
import ExScript.Script.Stream
import ExScript.Session
import ExScript.Settings
import ExScript.Shell.Capture
import ExScript.Shell.Command
import ExScript.Shell.Parse
import ExScript.Shell.Printf
import ExScript.Shell.Run
import ExScript.Table
import ExScript.Text.Arguments
import ExScript.Text.Case
import ExScript.Text.Compatibility
import ExScript.Text.Composite
import ExScript.Text.Digit
import ExScript.Text.Encoding
import ExScript.Text.Identifier
import ExScript.Text.Lines
import ExScript.Text.Normal
import ExScript.Text.Printable
import ExScript.Text.Quoted
import ExScript.Text.Split
import ExScript.Text.Word
import ExScript.Proofs.Running
import ExScript.Proofs.Aside
import ExScript.Proofs.Ordinary
import ExScript.Proofs.Cursor
import ExScript.Proofs.Extent
import ExScript.Proofs.BlockExtent
import ExScript.Proofs.ScriptTree
import ExScript.Proofs.ScriptTreeRun
import ExScript.Proofs.Throughout
import ExScript.Proofs.Pulling
import ExScript.Proofs.ScriptReading
import ExScript.Proofs.Completion
import ExScript.Proofs.Layout
import ExScript.Proofs.Passes
import ExScript.Proofs.Answering
import ExScript.Proofs.Unread
import ExScript.Proofs.Routing
import ExScript.Proofs.Unaware
import ExScript.Proofs.Sealing
import ExScript.Proofs.Supply
import ExScript.Proofs.Asking
import ExScript.Proofs.StreamUses
import ExScript.Proofs.SharedCursor
import ExScript.Proofs.Halting
import ExScript.Proofs.TypedLines
import ExScript.Proofs.Trailing
import ExScript.Proofs.Isolation
import ExScript.Proofs.Course
import ExScript.Proofs.Standing
import ExScript.Proofs.Scripted
import ExScript.Proofs.Blame
import ExScript.Proofs.BrokenScripts
import ExScript.Proofs.Ownership
import ExScript.Proofs.Abbreviations
import ExScript.Proofs.WorldTables
import ExScript.Proofs.Confinement
import ExScript.Proofs.TextFiles
import ExScript.Proofs.LogConfiguring
import ExScript.Proofs.ScopedRuns
import ExScript.Proofs.Scopes
import ExScript.Proofs.Abreast
import ExScript.Proofs.Muting
import ExScript.Proofs.Coupling
import ExScript.Proofs.TypedConstructs
import ExScript.Proofs.BoundedPrompting
import ExScript.Proofs.CommandGrammar
import ExScript.Proofs.Assembling
import ExScript.Proofs.Heredocs
import ExScript.Proofs.ShellRepeat
import ExScript.Proofs.PluginLoading
import ExScript.Proofs.Reloading
import ExScript.Proofs.NumberedLines
import ExScript.Proofs.Recalling
import ExScript.Proofs.ShellHistory
import ExScript.Proofs.Occurrences
import ExScript.Proofs.ScriptNames
import ExScript.Proofs.NameSources
import ExScript.Proofs.ReadableNames
import ExScript.Proofs.NameSpecifications
import ExScript.Proofs.RuntimeSearch
import ExScript.Proofs.Interchange
import ExScript.Proofs.Respelling
import ExScript.Proofs.LogRows
import ExScript.Proofs.CallRows
import ExScript.Proofs.CallNesting
