import DataContract.Config
import DataContract.Console.Arguments
import DataContract.Console.Code
import DataContract.Console.Emoji
import DataContract.Console.Emoji.NamesAtoB
import DataContract.Console.Emoji.NamesC
import DataContract.Console.Emoji.NamesDtoE
import DataContract.Console.Emoji.NamesF
import DataContract.Console.Emoji.NamesGtoL
import DataContract.Console.Emoji.NamesM
import DataContract.Console.Emoji.NamesNtoO
import DataContract.Console.Emoji.NamesOthers
import DataContract.Console.Emoji.NamesPtoR
import DataContract.Console.Emoji.NamesS
import DataContract.Console.Emoji.NamesTtoV
import DataContract.Console.Emoji.NamesWtoZ
import DataContract.Console.Help
import DataContract.Console.Layout
import DataContract.Console.Literal
import DataContract.Console.Markup
import DataContract.Console.Run
import DataContract.Console.Style
import DataContract.Disk
import DataContract.Document.Fault
import DataContract.Document.Linked
import DataContract.Document.Outline
import DataContract.Document.Source
import DataContract.Failure
import DataContract.Generator
import DataContract.Generator.Limit
import DataContract.Java.Companion
import DataContract.Java.Contract
import DataContract.Java.Draft
import DataContract.Java.Identifier
import DataContract.Java.Initializer
import DataContract.Java.Javadoc
import DataContract.Java.Limit
import DataContract.Java.Loose
import DataContract.Java.Page
import DataContract.Java.Source
import DataContract.Java.TypeTable
import DataContract.Java.Writer
import DataContract.Json.Printer
import DataContract.Json.Reader
import DataContract.Main
import DataContract.Model.ContractType
import DataContract.Model.Limit
import DataContract.Model.Loose
import DataContract.Model.Member
import DataContract.Model.Reading
import DataContract.Model.TypeObject
import DataContract.Model.TypeRef
import DataContract.Notice
import DataContract.Number.Binary64
import DataContract.Number.Numeral
import DataContract.Number.Reading
import DataContract.Number.Shortest
import DataContract.Path
import DataContract.Proofs.Disk.Places
import DataContract.Proofs.Disk.Texts
import DataContract.Proofs.Disk.Writing
import DataContract.Proofs.Document.Loading
import DataContract.Proofs.Failure
import DataContract.Proofs.Generator.Agreement
import DataContract.Proofs.Generator.Batch
import DataContract.Proofs.Generator.Files
import DataContract.Proofs.Java.ArrayRank
import DataContract.Proofs.Java.Balance
import DataContract.Proofs.Java.BlockLines
import DataContract.Proofs.Java.Clash
import DataContract.Proofs.Java.ClosedTags
import DataContract.Proofs.Java.Closing
import DataContract.Proofs.Java.ConstantLiterals
import DataContract.Proofs.Java.DeclaredNames
import DataContract.Proofs.Java.Drafting
import DataContract.Proofs.Java.EnumTags
import DataContract.Proofs.Java.Exclusion
import DataContract.Proofs.Java.Fragments
import DataContract.Proofs.Java.Imports
import DataContract.Proofs.Java.InitializerChanges
import DataContract.Proofs.Java.InitializerForms
import DataContract.Proofs.Java.InitializerTexts
import DataContract.Proofs.Java.InitializerWarnings
import DataContract.Proofs.Java.Initializers
import DataContract.Proofs.Java.InlineTags
import DataContract.Proofs.Java.JoinedLines
import DataContract.Proofs.Java.Layout
import DataContract.Proofs.Java.Loosening
import DataContract.Proofs.Java.Markings
import DataContract.Proofs.Java.MemberWords
import DataContract.Proofs.Java.Notices
import DataContract.Proofs.Java.Parameters
import DataContract.Proofs.Java.Placement
import DataContract.Proofs.Java.QuotedInitializers
import DataContract.Proofs.Java.Rendering
import DataContract.Proofs.Java.SectionOrder
import DataContract.Proofs.Java.Sections
import DataContract.Proofs.Java.Segments
import DataContract.Proofs.Java.SourcePath
import DataContract.Proofs.Java.Tokens
import DataContract.Proofs.Java.TypeNames
import DataContract.Proofs.Java.TypeTable
import DataContract.Proofs.Java.Unsupported
import DataContract.Proofs.Java.Writing
import DataContract.Proofs.Json.Reader
import DataContract.Proofs.Model.Acceptance
import DataContract.Proofs.Model.Display
import DataContract.Proofs.Model.Language
import DataContract.Proofs.Model.Loosening
import DataContract.Proofs.Model.Mirror
import DataContract.Proofs.Model.Names
import DataContract.Proofs.Model.Nesting
import DataContract.Proofs.Model.Origin
import DataContract.Proofs.Model.Reading
import DataContract.Proofs.Model.Structure
import DataContract.Proofs.Model.StructureRules
import DataContract.Proofs.Model.TypeSites
import DataContract.Proofs.Path
import DataContract.Proofs.Path.Normal
import DataContract.Proofs.Schema.Admission
import DataContract.Proofs.Schema.Issues
import DataContract.Proofs.Schema.Locality
import DataContract.Proofs.Schema.Pattern
import DataContract.Proofs.Schema.Places
import DataContract.Proofs.Text.Blank
import DataContract.Proofs.Text.Braces
import DataContract.Proofs.Text.Closing
import DataContract.Proofs.Text.GreedyFill
import DataContract.Proofs.Text.Lowercase
import DataContract.Proofs.Text.Occurrence
import DataContract.Proofs.Text.Passes
import DataContract.Proofs.Text.Range
import DataContract.Proofs.Text.Substitution
import DataContract.Proofs.Text.Words
import DataContract.Proofs.Text.Wrap
import DataContract.Proofs.Value.Json
import DataContract.Schema.Basic
import DataContract.Schema.Check
import DataContract.Schema.Export
import DataContract.Schema.Issue
import DataContract.Schema.Nesting
import DataContract.Text.Base64
import DataContract.Text.Blank
import DataContract.Text.Cell
import DataContract.Text.CodePoint
import DataContract.Text.Hexadecimal
import DataContract.Text.LowerText
import DataContract.Text.Lowercase
import DataContract.Text.Occurrence
import DataContract.Text.Printable
import DataContract.Text.Quoted
import DataContract.Text.Range
import DataContract.Text.Word
import DataContract.Text.Wrap
import DataContract.Value.Basic
import DataContract.Value.Calendar
import DataContract.Value.Text
import DataContract.Yaml.Content
import DataContract.Yaml.Cursor
import DataContract.Yaml.Filling
import DataContract.Yaml.Merge
import DataContract.Yaml.Node
import DataContract.Yaml.Scalar
import DataContract.Yaml.Stream
import DataContract.Yaml.Tag
import DataContract.Yaml.Timestamp
import DataContract.Yaml.Token
