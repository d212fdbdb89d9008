import NoteSearch.Command.Files
import NoteSearch.Command.Filters
import NoteSearch.Command.Init
import NoteSearch.Command.Option
import NoteSearch.Command.Outcome
import NoteSearch.Command.Pager
import NoteSearch.Command.Program
import NoteSearch.Command.Search
import NoteSearch.Config.Basic
import NoteSearch.Config.File
import NoteSearch.Config.Value
import NoteSearch.Console.Argument
import NoteSearch.Console.Color
import NoteSearch.Console.ColorTable
import NoteSearch.Console.Columns
import NoteSearch.Console.Echo
import NoteSearch.Console.Emoji
import NoteSearch.Console.EmojiTable
import NoteSearch.Console.Json
import NoteSearch.Console.Layout
import NoteSearch.Console.Markup
import NoteSearch.Console.Style
import NoteSearch.Console.StyleSheet
import NoteSearch.Console.Table
import NoteSearch.File.Path
import NoteSearch.File.Tree
import NoteSearch.Main
import NoteSearch.Proofs.Command.Ending
import NoteSearch.Proofs.Command.Exit
import NoteSearch.Proofs.Command.Listing
import NoteSearch.Proofs.Command.Notice
import NoteSearch.Proofs.Command.Pasting
import NoteSearch.Proofs.Command.TagOrder
import NoteSearch.Proofs.Computation
import NoteSearch.Proofs.Config.Document
import NoteSearch.Proofs.Config.Entries
import NoteSearch.Proofs.Config.Loading
import NoteSearch.Proofs.Config.Saving
import NoteSearch.Proofs.Console.Echo
import NoteSearch.Proofs.Console.Json
import NoteSearch.Proofs.Console.Layout
import NoteSearch.Proofs.Console.Markup
import NoteSearch.Proofs.Console.Printing
import NoteSearch.Proofs.File.Path
import NoteSearch.Proofs.File.Tree
import NoteSearch.Proofs.Query.Casing
import NoteSearch.Proofs.Query.ChipRow
import NoteSearch.Proofs.Query.Consumption
import NoteSearch.Proofs.Query.Grammar
import NoteSearch.Proofs.Query.Joining
import NoteSearch.Proofs.Query.Progress
import NoteSearch.Proofs.Query.Punctuation
import NoteSearch.Proofs.Query.Reading
import NoteSearch.Proofs.Query.Recovery
import NoteSearch.Proofs.Query.Lockstep
import NoteSearch.Proofs.Query.RoundTrip
import NoteSearch.Proofs.Query.Scanning
import NoteSearch.Proofs.Query.Spans
import NoteSearch.Proofs.Query.Spelling
import NoteSearch.Proofs.Search.Agreement
import NoteSearch.Proofs.Search.Algebra
import NoteSearch.Proofs.Search.Answer
import NoteSearch.Proofs.Search.Casing
import NoteSearch.Proofs.Search.Lowering
import NoteSearch.Proofs.Search.Pattern
import NoteSearch.Proofs.Search.Row
import NoteSearch.Proofs.Search.Run
import NoteSearch.Proofs.Search.Size
import NoteSearch.Proofs.Search.Switching
import NoteSearch.Proofs.Search.Toggling
import NoteSearch.Proofs.Search.Words
import NoteSearch.Proofs.Snippet.Ink
import NoteSearch.Proofs.Snippet.Markup
import NoteSearch.Proofs.Snippet.OneLine
import NoteSearch.Proofs.Snippet.Unwrapping
import NoteSearch.Proofs.Store.Descent
import NoteSearch.Proofs.Store.Edit
import NoteSearch.Proofs.Store.Keys
import NoteSearch.Proofs.Store.Opening
import NoteSearch.Proofs.Store.Order
import NoteSearch.Proofs.Store.References
import NoteSearch.Proofs.Store.Script
import NoteSearch.Proofs.Text.Blank
import NoteSearch.Proofs.Text.Character
import NoteSearch.Proofs.Text.FoldCase
import NoteSearch.Proofs.Text.Lowercase
import NoteSearch.Proofs.Text.Numeral
import NoteSearch.Proofs.Text.Run
import NoteSearch.Proofs.Text.Split
import NoteSearch.Proofs.Toml.Document
import NoteSearch.Proofs.Toml.Number
import NoteSearch.Proofs.Toml.Scalar
import NoteSearch.Query.Chip
import NoteSearch.Query.Expr
import NoteSearch.Query.Parse
import NoteSearch.Query.Render
import NoteSearch.Query.Scan
import NoteSearch.Query.Sketch
import NoteSearch.Query.Token
import NoteSearch.Search.Bound
import NoteSearch.Search.Condition
import NoteSearch.Search.Like
import NoteSearch.Search.Predicate
import NoteSearch.Search.Read
import NoteSearch.Search.Session
import NoteSearch.Search.Statement
import NoteSearch.Snippet.Basic
import NoteSearch.Snippet.Rules
import NoteSearch.Snippet.Substitution
import NoteSearch.Store.Basic
import NoteSearch.Store.Database
import NoteSearch.Store.Edit
import NoteSearch.Store.Image
import NoteSearch.Store.Moment
import NoteSearch.Store.Opening
import NoteSearch.Store.Page
import NoteSearch.Store.Script
import NoteSearch.Store.View
import NoteSearch.Store.Visit
import NoteSearch.Text.Blank
import NoteSearch.Text.CasingTable
import NoteSearch.Text.CharSet
import NoteSearch.Text.Decimal
import NoteSearch.Text.Digit
import NoteSearch.Text.FoldCase
import NoteSearch.Text.Hexadecimal
import NoteSearch.Text.Infix
import NoteSearch.Text.Lowercase
import NoteSearch.Text.Quoted
import NoteSearch.Text.Similar
import NoteSearch.Text.Split
import NoteSearch.Text.UnprintableTable
import NoteSearch.Text.Width
import NoteSearch.Text.WidthTable
import NoteSearch.Text.Word
import NoteSearch.Text.WordTable
import NoteSearch.Toml.Basic
import NoteSearch.Toml.Calendar
import NoteSearch.Toml.Document
import NoteSearch.Toml.Number
import NoteSearch.Toml.Quoted
import NoteSearch.Toml.Value
import NoteSearch.Toml.Write
