import SwiftDecl.Attribute
import SwiftDecl.Code
import SwiftDecl.CommandLine
import SwiftDecl.CommandLine.Arguments
import SwiftDecl.Config
import SwiftDecl.Data
import SwiftDecl.Data.Calendar
import SwiftDecl.Data.Key
import SwiftDecl.Data.Shown
import SwiftDecl.Decimal.Shortest
import SwiftDecl.Declaration
import SwiftDecl.Declaration.Layout
import SwiftDecl.Declaration.Shown
import SwiftDecl.Document
import SwiftDecl.Document.Build
import SwiftDecl.Document.Schema
import SwiftDecl.Fault
import SwiftDecl.FileTree
import SwiftDecl.FunctionDecl.Draft
import SwiftDecl.FunctionKind
import SwiftDecl.Layout
import SwiftDecl.Main
import SwiftDecl.Modifier
import SwiftDecl.Part
import SwiftDecl.Proofs.Code.Alignment
import SwiftDecl.Proofs.Code.Building
import SwiftDecl.Proofs.Draft.Calls
import SwiftDecl.Proofs.Draft.Changes
import SwiftDecl.Proofs.Draft.Grammar
import SwiftDecl.Proofs.Draft.Refusal
import SwiftDecl.Proofs.Draft.Reopening
import SwiftDecl.Proofs.Outcome
import SwiftDecl.Proofs.Signature
import SwiftDecl.Reserved
import SwiftDecl.Signature
import SwiftDecl.Template
import SwiftDecl.Template.NamedToken
import SwiftDecl.Template.Token
import SwiftDecl.Text.Blank
import SwiftDecl.Text.Cased
import SwiftDecl.Text.Hexadecimal
import SwiftDecl.Text.LowerCase
import SwiftDecl.Text.Numeral
import SwiftDecl.Text.Printable
import SwiftDecl.Text.Quoted
import SwiftDecl.Text.Ranges
import SwiftDecl.Text.Repeated
import SwiftDecl.Text.StringLiteral
import SwiftDecl.Text.Word
import SwiftDecl.TypeDecl.Draft
import SwiftDecl.TypeName
import SwiftDecl.TypeName.Parser
import SwiftDecl.TypeName.Token
import SwiftDecl.Validation
import SwiftDecl.Validation.TypeName
import SwiftDecl.Writer
import SwiftDecl.Writer.Bounded
import SwiftDecl.Writer.Call
import SwiftDecl.Yaml.Cursor
import SwiftDecl.Yaml.Fault
import SwiftDecl.Yaml.Node
import SwiftDecl.Yaml.Node.Merge
import SwiftDecl.Yaml.Node.Parser
import SwiftDecl.Yaml.Scalar.Binary
import SwiftDecl.Yaml.Scalar.Implicit
import SwiftDecl.Yaml.Scalar.Number
import SwiftDecl.Yaml.Scalar.Timestamp
import SwiftDecl.Yaml.Token
import SwiftDecl.Yaml.Token.Block
import SwiftDecl.Yaml.Token.Plain
import SwiftDecl.Yaml.Token.Property
import SwiftDecl.Yaml.Token.Quoted
import SwiftDecl.Yaml.Token.Scanner
import SwiftDecl.Yaml.Value
import SwiftDecl.Proofs.TypeName.Grammar
import SwiftDecl.Proofs.TypeName.Tokens
import SwiftDecl.Proofs.TypeName.Reading
import SwiftDecl.Proofs.TypeName.Acceptance
import SwiftDecl.Proofs.Layout.Page
import SwiftDecl.Proofs.Layout.Place
import SwiftDecl.Proofs.TypeName.Printing
import SwiftDecl.Proofs.Layout.Getter
import SwiftDecl.Proofs.Layout.Blocks
import SwiftDecl.Proofs.Template.Taking
import SwiftDecl.Proofs.Code.Filling
import SwiftDecl.Proofs.Code.Flow
import SwiftDecl.Proofs.Declaration.Indentation
import SwiftDecl.Proofs.Draft.Nesting
import SwiftDecl.Proofs.Modifier
import SwiftDecl.Proofs.Document.Reading
import SwiftDecl.Proofs.Document.Replay
import SwiftDecl.Proofs.Declaration.Header
import SwiftDecl.Proofs.Document.Rendering
import SwiftDecl.Proofs.Document.Kind
import SwiftDecl.Proofs.Configuration
import SwiftDecl.Proofs.Template.Addressing
import SwiftDecl.Proofs.Draft.Arguments
import SwiftDecl.Proofs.Draft.Independence
import SwiftDecl.Proofs.CommandLine.Render
import SwiftDecl.Proofs.Layout.Levels
import SwiftDecl.Proofs.Code.Emission
import SwiftDecl.Proofs.Layout.InTurn
import SwiftDecl.Proofs.Code.Concatenation
import SwiftDecl.Proofs.Declaration.Parts
import SwiftDecl.Proofs.Declaration.Restoring
import SwiftDecl.Proofs.Declaration.Comments
import SwiftDecl.Proofs.Code.Documentation
import SwiftDecl.Proofs.Declaration.Members
import SwiftDecl.Proofs.TypeName.Progress
import SwiftDecl.Proofs.TypeName.ErrorColumn
import SwiftDecl.Proofs.Text.Delimited
import SwiftDecl.Proofs.TypeName.Delimited
import SwiftDecl.Proofs.Signature.Unambiguous
import SwiftDecl.Proofs.Code.StringSlot
import SwiftDecl.Proofs.Template.Scanning
import SwiftDecl.Proofs.Code.Framing
import SwiftDecl.Proofs.Document.Attributes
import SwiftDecl.Proofs.Draft.LineComments
import SwiftDecl.Proofs.FunctionKind
import SwiftDecl.Proofs.Declaration.References
import SwiftDecl.Proofs.Draft.Batches
import SwiftDecl.Proofs.Layout.Pieces
import SwiftDecl.Proofs.Layout.Sessions
