import InlineChoice.Choice
import InlineChoice.Choice.Edit
import InlineChoice.Choice.State
import InlineChoice.Choice.Validity
import InlineChoice.Command
import InlineChoice.Command.Arguments
import InlineChoice.Command.Checking
import InlineChoice.Command.Editing
import InlineChoice.Command.Listing
import InlineChoice.Command.Outcome
import InlineChoice.Command.Run
import InlineChoice.Command.Session
import InlineChoice.CommentSyntax
import InlineChoice.Config
import InlineChoice.Config.Lookup
import InlineChoice.Config.Reader
import InlineChoice.Dictionary
import InlineChoice.Document
import InlineChoice.Document.Edit
import InlineChoice.Document.LineTable
import InlineChoice.FilePath
import InlineChoice.FileTree
import InlineChoice.Glyph
import InlineChoice.Issue
import InlineChoice.Json.Reader
import InlineChoice.Json.Value
import InlineChoice.Language
import InlineChoice.Main
import InlineChoice.Marker
import InlineChoice.NameFilter
import InlineChoice.Pattern
import InlineChoice.Pattern.Assertion
import InlineChoice.Pattern.CharSet
import InlineChoice.Pattern.CharSet.Reader
import InlineChoice.Pattern.Engine
import InlineChoice.Pattern.Escape
import InlineChoice.Pattern.Flag
import InlineChoice.Pattern.Reader
import InlineChoice.Pattern.Token
import InlineChoice.Pattern.Ways
import InlineChoice.Proofs.Annotation
import InlineChoice.Proofs.Checking
import InlineChoice.Proofs.CleanEdit
import InlineChoice.Proofs.Concatenation
import InlineChoice.Proofs.ConfigSearch
import InlineChoice.Proofs.ConfigText
import InlineChoice.Proofs.ConfigTokens
import InlineChoice.Proofs.Creation
import InlineChoice.Proofs.Cycle
import InlineChoice.Proofs.DisplayWidth
import InlineChoice.Proofs.Document
import InlineChoice.Proofs.Edit
import InlineChoice.Proofs.EditCommand
import InlineChoice.Proofs.EditRoutes
import InlineChoice.Proofs.Excerpt
import InlineChoice.Proofs.FileTree
import InlineChoice.Proofs.Grammar
import InlineChoice.Proofs.History
import InlineChoice.Proofs.IssueOrder
import InlineChoice.Proofs.JsonText
import InlineChoice.Proofs.LineEnding
import InlineChoice.Proofs.LineTable
import InlineChoice.Proofs.Lines
import InlineChoice.Proofs.Listing
import InlineChoice.Proofs.LowerCase
import InlineChoice.Proofs.Marker
import InlineChoice.Proofs.MarkerPattern
import InlineChoice.Proofs.NameFilter
import InlineChoice.Proofs.Orbit
import InlineChoice.Proofs.Overrides
import InlineChoice.Proofs.PatternText
import InlineChoice.Proofs.ReadBack
import InlineChoice.Proofs.Rendering
import InlineChoice.Proofs.Replacement
import InlineChoice.Proofs.Report
import InlineChoice.Proofs.Runs
import InlineChoice.Proofs.Scan
import InlineChoice.Proofs.Text
import InlineChoice.Proofs.Underline
import InlineChoice.Proofs.WireFormat
import InlineChoice.Report
import InlineChoice.Terminal
import InlineChoice.Text
import InlineChoice.Text.Quoted
import InlineChoice.Unicode.BinaryProperty
import InlineChoice.Unicode.CaseMapping
import InlineChoice.Unicode.Category
import InlineChoice.Unicode.DisplayWidth
import InlineChoice.Unicode.Property
import InlineChoice.Unicode.Runs
import InlineChoice.Unicode.Script
