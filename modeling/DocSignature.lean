import DocSignature.CommandLine.Arguments
import DocSignature.CommandLine.Run
import DocSignature.Disk.Ancestors
import DocSignature.Disk.Basic
import DocSignature.Disk.FileTree
import DocSignature.Disk.Path
import DocSignature.Grammar.Alphabet
import DocSignature.Grammar.Automaton
import DocSignature.Grammar.CharSet
import DocSignature.Grammar.Item
import DocSignature.Grammar.Lexer
import DocSignature.Grammar.Merging
import DocSignature.Grammar.Pattern
import DocSignature.Grammar.Production
import DocSignature.Grammar.Recogniser
import DocSignature.Grammar.Rule
import DocSignature.Grammar.Table
import DocSignature.Grammar.TokenSet
import DocSignature.Grammar.Vocabulary
import DocSignature.Json.Text
import DocSignature.Json.Value
import DocSignature.Listening.Claims
import DocSignature.Listening.Network
import DocSignature.Listening.Registry
import DocSignature.Parsing.Engine
import DocSignature.Parsing.Lexing
import DocSignature.Parsing.Position
import DocSignature.Parsing.Recovery
import DocSignature.Parsing.Reveal
import DocSignature.Parsing.Scanner
import DocSignature.Parsing.Stack
import DocSignature.Parsing.Tree
import DocSignature.Python.Grammar
import DocSignature.Python.Identifier
import DocSignature.Python.Parse
import DocSignature.Python.Scanner
import DocSignature.Python.Tables
import DocSignature.Rpc.Error
import DocSignature.Rpc.Message
import DocSignature.Rpc.Params
import DocSignature.Rpc.Server
import DocSignature.Rpc.Shape
import DocSignature.Settings.Basic
import DocSignature.Settings.Discovery
import DocSignature.Signature.Definition
import DocSignature.Signature.Event
import DocSignature.Signature.Extraction
import DocSignature.Signature.Lookup
import DocSignature.Signature.Record
import DocSignature.Signature.RecordJson
import DocSignature.Signature.Resolution
import DocSignature.Signature.Uuid
import DocSignature.Syntax.ConcreteTree
import DocSignature.Syntax.Cursor
import DocSignature.Syntax.Kind
import DocSignature.Syntax.LineSpan
import DocSignature.Syntax.Lowering
import DocSignature.Syntax.Tree
import DocSignature.Text.Blank
import DocSignature.Text.Digits
import DocSignature.Text.Utf8
import DocSignature.Toml.Document
import DocSignature.Toml.Lexical
import DocSignature.Toml.Scalar
import DocSignature.Toml.Value
import DocSignature.Url.Basic
import DocSignature.Url.DomainNames
import DocSignature.Url.FilePath
import DocSignature.Url.Host
import DocSignature.Url.Parser
import DocSignature.Url.Percent
import DocSignature.Url.Punycode
import DocSignature.Workspace.Document
import DocSignature.Workspace.Location
import DocSignature.Workspace.Session
import DocSignature.Disk.Snapshot
import DocSignature.Main
import DocSignature.Proofs.Syntax.Copying
import DocSignature.Proofs.Syntax.Paths
import DocSignature.Proofs.Syntax.Spans
import DocSignature.Proofs.Signature.Forest
import DocSignature.Proofs.Signature.Innermost
import DocSignature.Proofs.Syntax.Placement
import DocSignature.Proofs.Signature.Scopes
import DocSignature.Proofs.Syntax.ParameterLists
import DocSignature.Proofs.Signature.Parameters
import DocSignature.Proofs.Workspace.Documents
import DocSignature.Proofs.Workspace.Answers
import DocSignature.Proofs.Workspace.FileUrls
import DocSignature.Proofs.Signature.Continuations
import DocSignature.Proofs.Signature.RaiseLines
import DocSignature.Proofs.Listening.LiveClaims
import DocSignature.Proofs.Signature.Identifiers
import DocSignature.Proofs.Signature.Spellings
import DocSignature.Proofs.Url.PercentEncoding
import DocSignature.Proofs.Url.FileSegments
import DocSignature.Proofs.Workspace.PathRequests
import DocSignature.Proofs.Disk.TidyPaths
import DocSignature.Proofs.Workspace.ContentChanges
import DocSignature.Proofs.Workspace.NamedFiles
import DocSignature.Proofs.Signature.Descent
import DocSignature.Proofs.Signature.ScopeRegion
import DocSignature.Proofs.Signature.ReturnAnnotation
import DocSignature.Proofs.Signature.LookupOutcomes
import DocSignature.Proofs.Signature.Correspondence
import DocSignature.Proofs.Signature.OwnScope
import DocSignature.Proofs.Signature.Comments
import DocSignature.Proofs.Signature.ShiftedLines
import DocSignature.Proofs.Settings.NearestFile
import DocSignature.Proofs.Text.Verbatim
import DocSignature.Proofs.Signature.SourceOrder
import DocSignature.Proofs.Signature.RaiseForms
import DocSignature.Proofs.Syntax.PreorderWalk
import DocSignature.Proofs.Workspace.FixedRoot
