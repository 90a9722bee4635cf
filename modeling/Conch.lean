import Conch.Action
import Conch.Builtin.Basic
import Conch.Builtin.Control
import Conch.Builtin.Names
import Conch.Builtin.Output
import Conch.Builtin.Utility
import Conch.Cancel
import Conch.Config
import Conch.Context
import Conch.Error.Basic
import Conch.Error.Io
import Conch.Error.Usage
import Conch.Eval
import Conch.Flags
import Conch.Front.Arguments
import Conch.Front.Completion
import Conch.Front.History
import Conch.Front.Shell
import Conch.Front.Typed
import Conch.Host.Change
import Conch.Host.Channel
import Conch.Host.Layout
import Conch.Host.Volume
import Conch.Host.World
import Conch.Main
import Conch.Process.Course
import Conch.Process.Launch
import Conch.Process.Pool
import Conch.Process.Task
import Conch.Program.Cat
import Conch.Program.Format
import Conch.Program.Head
import Conch.Program.Options
import Conch.Program.Printf
import Conch.Program.Quote
import Conch.Program.Script.Arithmetic
import Conch.Program.Script.Builtin
import Conch.Program.Script.Expansion
import Conch.Program.Script.Formatted
import Conch.Program.Script.Parser
import Conch.Program.Script.Pattern
import Conch.Program.Script.Reader
import Conch.Program.Script.Run
import Conch.Program.Script.Shorthand
import Conch.Program.Script.Source
import Conch.Program.Script.State
import Conch.Program.Script.Test
import Conch.Program.Script.Tree
import Conch.Program.Search
import Conch.Program.Sleep
import Conch.Program.Table
import Conch.Program.Tr
import Conch.Proofs.Absorption
import Conch.Proofs.Aliases
import Conch.Proofs.Assembly
import Conch.Proofs.Bindings
import Conch.Proofs.Bodies
import Conch.Proofs.Calling
import Conch.Proofs.Capture
import Conch.Proofs.Channels
import Conch.Proofs.Commands
import Conch.Proofs.Completing
import Conch.Proofs.Composition
import Conch.Proofs.Conservation
import Conch.Proofs.Cutting
import Conch.Proofs.Deepening
import Conch.Proofs.Enclosing
import Conch.Proofs.Exclusivity
import Conch.Proofs.Expression
import Conch.Proofs.FiniteMaps
import Conch.Proofs.Flattening
import Conch.Proofs.Following
import Conch.Proofs.Grouping
import Conch.Proofs.Indifference
import Conch.Proofs.Interrupts
import Conch.Proofs.Isolation
import Conch.Proofs.Launching
import Conch.Proofs.Lengths
import Conch.Proofs.Levels
import Conch.Proofs.Lexing
import Conch.Proofs.Occurrences
import Conch.Proofs.Piping
import Conch.Proofs.Programs
import Conch.Proofs.Resolution
import Conch.Proofs.Respacing
import Conch.Proofs.Retention
import Conch.Proofs.Returning
import Conch.Proofs.Rewrapping
import Conch.Proofs.RoundTrip
import Conch.Proofs.RouteGrammar
import Conch.Proofs.Routes
import Conch.Proofs.Routing
import Conch.Proofs.Scanning
import Conch.Proofs.Scripts
import Conch.Proofs.Searching
import Conch.Proofs.Sequencing
import Conch.Proofs.Settings
import Conch.Proofs.Settling
import Conch.Proofs.Sinks
import Conch.Proofs.Slots
import Conch.Proofs.Spelling
import Conch.Proofs.Tables
import Conch.Proofs.Termination
import Conch.Proofs.Tokens
import Conch.Proofs.Untouched
import Conch.Proofs.Utf8
import Conch.Proofs.Verbatim
import Conch.Proofs.Words
import Conch.Proofs.Wrapping
import Conch.Route
import Conch.Scope.Alias
import Conch.Scope.Basic
import Conch.Scope.CallStack
import Conch.Scope.Variables
import Conch.Table
import Conch.Text.Basic
import Conch.Text.Blank
import Conch.Text.Captured
import Conch.Text.Case
import Conch.Text.Cluster
import Conch.Text.ClusterTable
import Conch.Text.Distinct
import Conch.Text.Extender
import Conch.Text.Letter
import Conch.Text.Needle
import Conch.Text.Numeral
import Conch.Text.Octets
import Conch.Text.Quoted
import Conch.Text.Search
import Conch.Text.Unprintable
import Conch.Text.Utf8
import Conch.Token.Basic
import Conch.Token.Group
import Conch.Token.Lexer
import Conch.Token.Parser
