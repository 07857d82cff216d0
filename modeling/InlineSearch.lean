import InlineSearch.CodeBlock
import InlineSearch.CommandLine.Arguments
import InlineSearch.CommandLine.Help
import InlineSearch.CommandLine.Run
import InlineSearch.CommandLine.Session
import InlineSearch.Config.Basic
import InlineSearch.Config.Environment
import InlineSearch.Config.Key
import InlineSearch.Config.Load
import InlineSearch.Config.Shortcut
import InlineSearch.Config.Source
import InlineSearch.Directive.Basic
import InlineSearch.Directive.Flag
import InlineSearch.Directive.Span
import InlineSearch.Document.Draft
import InlineSearch.Document.Linking
import InlineSearch.Document.Plan
import InlineSearch.Document.Query
import InlineSearch.Edit
import InlineSearch.Json.Basic
import InlineSearch.Json.Decode
import InlineSearch.Json.Parser
import InlineSearch.Json.Printer
import InlineSearch.Main
import InlineSearch.Match
import InlineSearch.Proofs.CodeBlock
import InlineSearch.Proofs.Comments
import InlineSearch.Proofs.Directive.OptionLine
import InlineSearch.Proofs.Directive.Rescan
import InlineSearch.Proofs.Directive.Splice
import InlineSearch.Proofs.Document.Again
import InlineSearch.Proofs.Document.AtRest
import InlineSearch.Proofs.Document.Body
import InlineSearch.Proofs.Document.Calls
import InlineSearch.Proofs.Document.Closure
import InlineSearch.Proofs.Document.Errors
import InlineSearch.Proofs.Document.Failure
import InlineSearch.Proofs.Document.Fences
import InlineSearch.Proofs.Document.Footnotes
import InlineSearch.Proofs.Document.Freshness
import InlineSearch.Proofs.Document.Logs
import InlineSearch.Proofs.Document.Notes
import InlineSearch.Proofs.Document.Output
import InlineSearch.Proofs.Document.Place
import InlineSearch.Proofs.Document.QueryMode
import InlineSearch.Proofs.Document.References
import InlineSearch.Proofs.Document.Reports
import InlineSearch.Proofs.Document.Rewritten
import InlineSearch.Proofs.Document.Settings
import InlineSearch.Proofs.Document.Titles
import InlineSearch.Proofs.Document.Trace
import InlineSearch.Proofs.Query
import InlineSearch.Proofs.Reference.Digits
import InlineSearch.Proofs.Reference.Footer
import InlineSearch.Proofs.Reference.Footnote
import InlineSearch.Proofs.Reference.Spelling
import InlineSearch.Proofs.Reference.Table
import InlineSearch.Proofs.Reference.Visible
import InlineSearch.Proofs.Report
import InlineSearch.Proofs.Scope
import InlineSearch.Proofs.Scope.Restore
import InlineSearch.Proofs.Scope.Journal
import InlineSearch.Proofs.Scope.History
import InlineSearch.Proofs.Search.Outcome
import InlineSearch.Proofs.Search.Steady
import InlineSearch.Proofs.Text.Chars
import InlineSearch.Proofs.Text.Cut
import InlineSearch.Proofs.Text.Hits
import InlineSearch.Proofs.Text.Lines
import InlineSearch.Proofs.Text.Phrase
import InlineSearch.Proofs.Text.Trim
import InlineSearch.Provider.Bookmarks
import InlineSearch.Provider.Dictionary
import InlineSearch.Provider.Encyclopedia
import InlineSearch.Provider.Film
import InlineSearch.Provider.Gist
import InlineSearch.Provider.InstantAnswer
import InlineSearch.Provider.LinkCheck
import InlineSearch.Provider.Listening
import InlineSearch.Provider.PageTitle
import InlineSearch.Provider.Pinboard
import InlineSearch.Provider.Profile
import InlineSearch.Provider.Repository
import InlineSearch.Provider.Spelling
import InlineSearch.Provider.Standard
import InlineSearch.Provider.Store
import InlineSearch.Provider.Web
import InlineSearch.Reference.Definition
import InlineSearch.Reference.Footer
import InlineSearch.Reference.Link
import InlineSearch.Reference.Marker
import InlineSearch.Reference.Table
import InlineSearch.Report
import InlineSearch.Scope
import InlineSearch.Search.Kind
import InlineSearch.Search.Problem
import InlineSearch.Search.Provider
import InlineSearch.Search.Registry
import InlineSearch.Search.Resolve
import InlineSearch.Search.Shortcut
import InlineSearch.Search.Trigger
import InlineSearch.Text.Alphabetic
import InlineSearch.Text.Basic
import InlineSearch.Text.Blank
import InlineSearch.Text.CodeRange
import InlineSearch.Text.ControlSequence
import InlineSearch.Text.DoubleRange
import InlineSearch.Text.FoldCase
import InlineSearch.Text.LetterCase
import InlineSearch.Text.Numeral
import InlineSearch.Text.OneEdit
import InlineSearch.Text.Percent
import InlineSearch.Text.Quoted
import InlineSearch.Text.Reader
import InlineSearch.Text.Scan
import InlineSearch.Text.Utf8
import InlineSearch.Text.Word
import InlineSearch.Toml.Moment
import InlineSearch.Toml.Parser
import InlineSearch.Toml.Scalar
import InlineSearch.Toml.Value
import InlineSearch.World.Basic
import InlineSearch.World.Files
import InlineSearch.World.Http
import InlineSearch.Proofs.Search.Exchange
import InlineSearch.Proofs.Search.Validation
import InlineSearch.Proofs.Search.Expansion
import InlineSearch.Proofs.Config.Validity
import InlineSearch.Proofs.Document.Triggers
import InlineSearch.Proofs.Document.Validity
import InlineSearch.Proofs.Directive.Insertion
import InlineSearch.Proofs.Document.InertLinks
import InlineSearch.Proofs.Json.RoundTrip
import InlineSearch.Proofs.World
import InlineSearch.Proofs.Provider.Pinboard
import InlineSearch.Proofs.Provider.PinboardHistory
import InlineSearch.Proofs.Directive.Decomposition
import InlineSearch.Proofs.Directive.Written
import InlineSearch.Proofs.Document.Brackets
import InlineSearch.Proofs.CommandLine.Passes
import InlineSearch.Proofs.CommandLine.Surfacing
import InlineSearch.Proofs.CodeBlock.Tracking
import InlineSearch.Proofs.Directive.InlineCode
import InlineSearch.Proofs.Directive.SoleTrigger
import InlineSearch.Proofs.Document.InlineCode
import InlineSearch.Proofs.Document.ListItems
import InlineSearch.Proofs.Directive.Flag
import InlineSearch.Proofs.Directive.Flag.Seam
import InlineSearch.Proofs.Search.HistoryTrigger
import InlineSearch.Proofs.Document.LeadingCode
import InlineSearch.Proofs.Text.FoldCase
import InlineSearch.Proofs.Text.OneEdit
import InlineSearch.Proofs.Search.Suggestions
import InlineSearch.Proofs.Text.Utf8
import InlineSearch.Proofs.Text.Percent
import InlineSearch.Proofs.Text.Words
import InlineSearch.Proofs.Search.Template
import InlineSearch.Proofs.Search.Placeholder
import InlineSearch.Proofs.Text.Origin
import InlineSearch.Proofs.Reference.Title
import InlineSearch.Proofs.Query.TypedUrl
import InlineSearch.Proofs.Document.FinalFeed
import InlineSearch.Proofs.Directive.LinkTarget
import InlineSearch.Proofs.Document.WrittenLinks
import InlineSearch.Proofs.Reference.PlainTitle
import InlineSearch.Proofs.Reference.Draws
import InlineSearch.Proofs.Document.RandomPrefix
import InlineSearch.Proofs.Reference.Paragraphs
import InlineSearch.Proofs.Document.Separation
import InlineSearch.Proofs.Match.Words
import InlineSearch.Proofs.Match.Occurrence
import InlineSearch.Proofs.Match.Phrase
import InlineSearch.Proofs.Match.Agreement
import InlineSearch.Proofs.Match.Spacing
import InlineSearch.Proofs.Provider.BestMatch
import InlineSearch.Proofs.Text.Search
import InlineSearch.Proofs.Provider.Redirect
import InlineSearch.Proofs.Provider.PageTitle
import InlineSearch.Proofs.Provider.Ranking
import InlineSearch.Proofs.Provider.Gist
import InlineSearch.Proofs.Provider.ProductPage
import InlineSearch.Proofs.Provider.QuietHost
import InlineSearch.Proofs.Provider.Sources
import InlineSearch.Proofs.Provider.PageOrder
import InlineSearch.Proofs.Json.Record
import InlineSearch.Proofs.Config.WellFormed
import InlineSearch.Proofs.Provider.PinboardFile
import InlineSearch.Proofs.Edit
import InlineSearch.Proofs.Text.EditDistance
import InlineSearch.Proofs.Text.Runs
import InlineSearch.Proofs.Search.Slug
import InlineSearch.Proofs.Provider.Spelling
import InlineSearch.Reference.IndexedTable
import InlineSearch.Proofs.Reference.IndexedTable
