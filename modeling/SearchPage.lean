import SearchPage.Text.Blank
import SearchPage.Text.Digit
import SearchPage.Text.RangeTable
import SearchPage.Text.Unicode
import SearchPage.Text.Double
import SearchPage.Text.Case
import SearchPage.Text.Direction
import SearchPage.Text.NameData
import SearchPage.Text.Name
import SearchPage.Value
import SearchPage.Markup.Reference
import SearchPage.Markup.Scan
import SearchPage.Markup.Event
import SearchPage.Markup.Tag
import SearchPage.Markup.Reader
import SearchPage.Document.Basic
import SearchPage.Document.Build
import SearchPage.Document.Tree
import SearchPage.Selector.Syntax
import SearchPage.Selector.Lexer
import SearchPage.Selector.Token
import SearchPage.Selector.Parser
import SearchPage.Selector.Position
import SearchPage.Selector.Range
import SearchPage.Selector.Match
import SearchPage.Query.Basic
import SearchPage.Query.Select
import SearchPage.Query.Text
import SearchPage.Query.Read
import SearchPage.Text.Quote
import SearchPage.Fault
import SearchPage.Extract.Basic
import SearchPage.Extract.Read
import SearchPage.Extract.Apply
import SearchPage.Config.Chains
import SearchPage.Page.Segment
import SearchPage.Pattern.Syntax
import SearchPage.Pattern.Read
import SearchPage.Pattern.Match
import SearchPage.Config.Settings
import SearchPage.Page.Features
import SearchPage.Page.Result
import SearchPage.Page.Parser
import SearchPage.Page.Pipeline
import SearchPage.Proofs.ReadOrder
import SearchPage.Proofs.BuilderShape
import SearchPage.Proofs.Spans
import SearchPage.Proofs.Outcomes
import SearchPage.Proofs.Selection
import SearchPage.Proofs.Survivors
import SearchPage.Proofs.Forest
import SearchPage.Proofs.Yields
import SearchPage.Proofs.CandidateFilter
import SearchPage.Proofs.Fallback
import SearchPage.Proofs.Total
import SearchPage.Proofs.PageRuns
import SearchPage.Proofs.DefaultParser
import SearchPage.Proofs.DocumentOrder
import SearchPage.Proofs.TextPieces
import SearchPage.Proofs.StackWalks
import SearchPage.Proofs.SpanEnds
import SearchPage.Proofs.AdNumbering
import SearchPage.Proofs.EmptyResults
import SearchPage.Proofs.FeatureUnits
import SearchPage.Proofs.PipeFields
import SearchPage.Proofs.ResultCount
import SearchPage.Proofs.ConfigReading
import SearchPage.Proofs.PlainPatterns
import SearchPage.Proofs.DateSearch
