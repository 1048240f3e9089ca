import ModuleBindings.CommandLine.Arguments
import ModuleBindings.CommandLine.Run
import ModuleBindings.Constraint.Basic
import ModuleBindings.Constraint.Descent
import ModuleBindings.Constraint.Lexer
import ModuleBindings.Constraint.Parser
import ModuleBindings.Constraint.Scanner
import ModuleBindings.Constraint.Token
import ModuleBindings.Decimal.Shortest
import ModuleBindings.Entity
import ModuleBindings.FileTree.Basic
import ModuleBindings.FileTree.Glob
import ModuleBindings.FileTree.Path
import ModuleBindings.FileTree.Pattern
import ModuleBindings.Go.Source
import ModuleBindings.Hcl.Body
import ModuleBindings.Hcl.Expression
import ModuleBindings.Hcl.Literal
import ModuleBindings.Hcl.Trivia
import ModuleBindings.Json.Basic
import ModuleBindings.Json.Decoder
import ModuleBindings.Json.Fault
import ModuleBindings.Json.Lexeme
import ModuleBindings.Json.Numeral
import ModuleBindings.Location
import ModuleBindings.Main
import ModuleBindings.Module.Basic
import ModuleBindings.Module.Configuration
import ModuleBindings.Module.JsonManifest
import ModuleBindings.Module.Load
import ModuleBindings.Module.LoadError
import ModuleBindings.Proofs.ArgumentLists
import ModuleBindings.Proofs.BuilderRuns
import ModuleBindings.Proofs.Declarations
import ModuleBindings.Proofs.Directories
import ModuleBindings.Proofs.Documents
import ModuleBindings.Proofs.Drafting
import ModuleBindings.Proofs.Entries
import ModuleBindings.Proofs.Erasure
import ModuleBindings.Proofs.Except
import ModuleBindings.Proofs.Failures
import ModuleBindings.Proofs.FieldKeys
import ModuleBindings.Proofs.Flattening
import ModuleBindings.Proofs.GoText
import ModuleBindings.Proofs.Grammar
import ModuleBindings.Proofs.Ignoring
import ModuleBindings.Proofs.Independence
import ModuleBindings.Proofs.JsonDecoding
import ModuleBindings.Proofs.JsonText
import ModuleBindings.Proofs.JsonValues
import ModuleBindings.Proofs.LexemeFronts
import ModuleBindings.Proofs.Lexemes
import ModuleBindings.Proofs.Listings
import ModuleBindings.Proofs.Loading
import ModuleBindings.Proofs.Lookahead
import ModuleBindings.Proofs.ModuleNames
import ModuleBindings.Proofs.Nesting
import ModuleBindings.Proofs.Nodes
import ModuleBindings.Proofs.Nullability
import ModuleBindings.Proofs.Objects
import ModuleBindings.Proofs.Outlines
import ModuleBindings.Proofs.ParsedTypes
import ModuleBindings.Proofs.Parsing
import ModuleBindings.Proofs.Pipeline
import ModuleBindings.Proofs.Places
import ModuleBindings.Proofs.Printing
import ModuleBindings.Proofs.References
import ModuleBindings.Proofs.Refusals
import ModuleBindings.Proofs.Slices
import ModuleBindings.Proofs.SourceLayout
import ModuleBindings.Proofs.StructTags
import ModuleBindings.Proofs.TagKeys
import ModuleBindings.Proofs.Tokenization
import ModuleBindings.Proofs.ViablePrefixes
import ModuleBindings.Proofs.Walks
import ModuleBindings.Proofs.Writing
import ModuleBindings.Record.Basic
import ModuleBindings.Record.Builder
import ModuleBindings.Record.Json
import ModuleBindings.Rest
import ModuleBindings.Text.Alphanumeric
import ModuleBindings.Text.Blank
import ModuleBindings.Text.CodeRanges
import ModuleBindings.Text.Grapheme
import ModuleBindings.Text.GraphemeExtend
import ModuleBindings.Text.Identifier
import ModuleBindings.Text.LetterCase
import ModuleBindings.Text.Lines
import ModuleBindings.Text.Printable
import ModuleBindings.Text.Quoted
import ModuleBindings.Text.Slice
import ModuleBindings.Text.WordCase
