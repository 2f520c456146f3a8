import NodeLaunch.CommandLine.Arguments
import NodeLaunch.CommandLine.LogFilter
import NodeLaunch.CommandLine.Run
import NodeLaunch.Description.Basic
import NodeLaunch.Description.Config
import NodeLaunch.Description.Decode
import NodeLaunch.Description.Encode
import NodeLaunch.Description.OutputMode
import NodeLaunch.Files.Snapshot
import NodeLaunch.Files.Tree
import NodeLaunch.Json.Basic
import NodeLaunch.Json.Decode
import NodeLaunch.Json.Fault
import NodeLaunch.Json.Lexeme
import NodeLaunch.Json.Reading
import NodeLaunch.Main
import NodeLaunch.NameMap
import NodeLaunch.Notice
import NodeLaunch.Number.Basic
import NodeLaunch.Number.Binary64
import NodeLaunch.Number.Shortest
import NodeLaunch.Package.Locator
import NodeLaunch.Package.Search
import NodeLaunch.Parameters.Basic
import NodeLaunch.Parameters.Document
import NodeLaunch.Parameters.LoadError
import NodeLaunch.Parameters.NodeName
import NodeLaunch.Path
import NodeLaunch.Record.Basic
import NodeLaunch.Record.Decode
import NodeLaunch.Record.Encode
import NodeLaunch.Record.Generate
import NodeLaunch.Regex.Basic
import NodeLaunch.Regex.Bracket
import NodeLaunch.Regex.CharSet
import NodeLaunch.Regex.Cursor
import NodeLaunch.Regex.Escape
import NodeLaunch.Regex.Fault
import NodeLaunch.Regex.Read
import NodeLaunch.Regex.Tree
import NodeLaunch.Text.Blank
import NodeLaunch.Text.Hexadecimal
import NodeLaunch.Text.Letter
import NodeLaunch.Text.Pieces
import NodeLaunch.Text.Printable
import NodeLaunch.Text.Quoted
import NodeLaunch.Text.Ranges
import NodeLaunch.Text.System
import NodeLaunch.Wording
import NodeLaunch.Yaml.Convert
import NodeLaunch.Yaml.Cursor
import NodeLaunch.Yaml.Fault
import NodeLaunch.Yaml.Inspect
import NodeLaunch.Yaml.Node
import NodeLaunch.Yaml.Scalar
import NodeLaunch.Yaml.Token.Basic
import NodeLaunch.Yaml.Token.Name
import NodeLaunch.Yaml.Token.Scalar
import NodeLaunch.Yaml.Token.Scan
import NodeLaunch.Yaml.Value
import NodeLaunch.Proofs.CommandLine.Isolation
import NodeLaunch.Proofs.CommandLine.PrefixOption
import NodeLaunch.Proofs.CommandLine.PrefixPaths
import NodeLaunch.Proofs.CommandLine.Run
import NodeLaunch.Proofs.Description.Arrangement
import NodeLaunch.Proofs.Description.BelowShare
import NodeLaunch.Proofs.Description.RoundTrip
import NodeLaunch.Proofs.Except
import NodeLaunch.Proofs.Files.Writing
import NodeLaunch.Proofs.Json.Arrangement
import NodeLaunch.Proofs.Json.Compact
import NodeLaunch.Proofs.Json.Decoding
import NodeLaunch.Proofs.Json.Grammar
import NodeLaunch.Proofs.Json.Indented
import NodeLaunch.Proofs.Json.Lexeme
import NodeLaunch.Proofs.NameMap
import NodeLaunch.Proofs.Package.FirstRoot
import NodeLaunch.Proofs.Package.Program
import NodeLaunch.Proofs.Package.SearchOrder
import NodeLaunch.Proofs.Parameters.LeafNames
import NodeLaunch.Proofs.Parameters.Overriding
import NodeLaunch.Proofs.Parameters.OwnSection
import NodeLaunch.Proofs.Parameters.Pattern
import NodeLaunch.Proofs.Parameters.SequenceText
import NodeLaunch.Proofs.Parameters.Tags
import NodeLaunch.Proofs.Parameters.Walk
import NodeLaunch.Proofs.Path.Components
import NodeLaunch.Proofs.Path.Shown
import NodeLaunch.Proofs.Path.Spelling
import NodeLaunch.Proofs.Record.Composition
import NodeLaunch.Proofs.Record.ExecName
import NodeLaunch.Proofs.Record.FileData
import NodeLaunch.Proofs.Record.Loading
import NodeLaunch.Proofs.Record.Merging
import NodeLaunch.Proofs.Record.Outcome
import NodeLaunch.Proofs.Record.RoundTrip
import NodeLaunch.Proofs.Text.Bytes
import NodeLaunch.Proofs.Text.System
import NodeLaunch.Proofs.Yaml.WellFormed
