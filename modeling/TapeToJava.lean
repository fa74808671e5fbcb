import TapeToJava.Bracket.Balance
import TapeToJava.Bracket.Dyck
import TapeToJava.Bracket.Matching
import TapeToJava.Build.Basic
import TapeToJava.Build.Emission
import TapeToJava.Build.Error
import TapeToJava.Build.Exit
import TapeToJava.Build.Options
import TapeToJava.Build.Toolchain
import TapeToJava.Command.Arguments
import TapeToJava.Command.Run
import TapeToJava.Diagnostic.Basic
import TapeToJava.Diagnostic.Report
import TapeToJava.Files.Fault
import TapeToJava.Files.Listing
import TapeToJava.Files.Path
import TapeToJava.Files.Request
import TapeToJava.Files.Staged
import TapeToJava.Files.Volume
import TapeToJava.Generation
import TapeToJava.Hash.Sha256
import TapeToJava.Java.Block
import TapeToJava.Java.Body
import TapeToJava.Java.ClassName
import TapeToJava.Java.CompilationUnit
import TapeToJava.Java.LineMap
import TapeToJava.Java.Scaffold
import TapeToJava.Java.Statement
import TapeToJava.Java.TypeName
import TapeToJava.Json.LineMap
import TapeToJava.Json.Literal
import TapeToJava.Json.Numeral
import TapeToJava.Json.Printer
import TapeToJava.Json.Reader
import TapeToJava.Json.Record
import TapeToJava.Json.Report
import TapeToJava.Json.Source
import TapeToJava.Json.Storable
import TapeToJava.Json.Token
import TapeToJava.Json.Tree
import TapeToJava.Json.Verdict
import TapeToJava.Log.Event
import TapeToJava.Log.Filter
import TapeToJava.Machine.Direct
import TapeToJava.Machine.State
import TapeToJava.Machine.Structured
import TapeToJava.Main
import TapeToJava.Operator
import TapeToJava.Shell.Arithmetic
import TapeToJava.Shell.Builtin
import TapeToJava.Shell.Expansion
import TapeToJava.Shell.Image
import TapeToJava.Shell.Interpreter
import TapeToJava.Shell.Job
import TapeToJava.Shell.Launch
import TapeToJava.Shell.Pattern
import TapeToJava.Shell.Reading
import TapeToJava.Shell.Redirection
import TapeToJava.Shell.Regex
import TapeToJava.Shell.Run
import TapeToJava.Shell.Session
import TapeToJava.Shell.Stream
import TapeToJava.Shell.System
import TapeToJava.Shell.Tree
import TapeToJava.Shell.Utility.Basic
import TapeToJava.Shell.Utility.Condition
import TapeToJava.Shell.Utility.Entries
import TapeToJava.Shell.Utility.Format
import TapeToJava.Shell.Utility.Lines
import TapeToJava.Shell.Utility.Names
import TapeToJava.Shell.Utility.Search
import TapeToJava.Shell.Utility.Table
import TapeToJava.Shell.Utility.Texts
import TapeToJava.Shell.Wrapper
import TapeToJava.Source.File
import TapeToJava.Source.Span
import TapeToJava.Source.Token
import TapeToJava.Text.Alphabetic
import TapeToJava.Text.Blank
import TapeToJava.Text.CharSet
import TapeToJava.Text.Lines
import TapeToJava.Text.Numeric
import TapeToJava.Text.Pieces
import TapeToJava.Text.Printable
import TapeToJava.Text.Quoted
import TapeToJava.Text.Slice
import TapeToJava.Text.Utf8
import TapeToJava.Verdict
import TapeToJava.Proofs.Bracket.Balance
import TapeToJava.Proofs.Java.Body
import TapeToJava.Proofs.Java.Block
import TapeToJava.Proofs.Machine.Jump
import TapeToJava.Proofs.Machine.Simulation
import TapeToJava.Proofs.Text.Place
import TapeToJava.Proofs.Text.WellFormed
import TapeToJava.Proofs.Source.File
import TapeToJava.Proofs.Source.Token
import TapeToJava.Proofs.Bracket.Matching
import TapeToJava.Proofs.Diagnostic.Blame
import TapeToJava.Proofs.Java.LineMap
import TapeToJava.Proofs.Java.Scaffold
import TapeToJava.Proofs.Java.Trace
import TapeToJava.Proofs.Files.Volume
import TapeToJava.Proofs.Files.Path
import TapeToJava.Proofs.Files.Staged
import TapeToJava.Proofs.Files.Staging
import TapeToJava.Proofs.Build.Emission
import TapeToJava.Proofs.Build.Run
import TapeToJava.Proofs.Json.Numeral
import TapeToJava.Proofs.Json.Token
import TapeToJava.Proofs.Json.Tree
import TapeToJava.Proofs.Json.Record
import TapeToJava.Proofs.Json.Report
import TapeToJava.Proofs.Json.Verdict
import TapeToJava.Proofs.Json.LineMap
import TapeToJava.Proofs.Command.Run
import TapeToJava.Proofs.Java.Injective
import TapeToJava.Proofs.Source.Bytes
import TapeToJava.Proofs.Source.Lookup
import TapeToJava.Proofs.Java.Normalized
import TapeToJava.Proofs.Build.Completion
import TapeToJava.Proofs.Files.Replacement
import TapeToJava.Proofs.Build.Frame
import TapeToJava.Proofs.Command.Toolchain
import TapeToJava.Proofs.Bracket.Repair
import TapeToJava.Proofs.Diagnostic.Capacity
import TapeToJava.Proofs.Command.Part
import TapeToJava.Proofs.Command.Order
import TapeToJava.Proofs.Json.Fields
import TapeToJava.Proofs.Java.TypeName
import TapeToJava.Proofs.Java.ClassName
