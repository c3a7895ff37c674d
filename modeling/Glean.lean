import Glean.Config
import Glean.Config.Decode
import Glean.Config.Key
import Glean.Config.Render
import Glean.Convert
import Glean.Css.Component
import Glean.Css.Numeric
import Glean.Css.Selector
import Glean.Css.Selector.Error
import Glean.Css.Selector.Match
import Glean.Css.Selector.Nth
import Glean.Css.Selector.Parse
import Glean.Css.Token
import Glean.Extraction
import Glean.Extraction.Error
import Glean.Extraction.Source
import Glean.Html.Construction.Adoption
import Glean.Html.Construction.Body
import Glean.Html.Construction.Foreign
import Glean.Html.Construction.Head
import Glean.Html.Construction.Name
import Glean.Html.Construction.State
import Glean.Html.Construction.Table
import Glean.Html.Draft
import Glean.Html.Node
import Glean.Html.Parse
import Glean.Html.Quirks
import Glean.Html.Reference
import Glean.Html.Reference.Names
import Glean.Html.Source
import Glean.Html.Token
import Glean.Html.Token.Lexer
import Glean.Json.Cursor
import Glean.Json.Document
import Glean.Json.Fault
import Glean.Json.Numeral
import Glean.Json.Shape
import Glean.Json.Skip
import Glean.Json.Text
import Glean.Number.Arithmetic
import Glean.Number.Decimal
import Glean.Number.Integer
import Glean.Number.Shortest
import Glean.Proofs.Config.Inert
import Glean.Proofs.Config.Mirror
import Glean.Proofs.Config.Reported
import Glean.Proofs.Config.Translation
import Glean.Proofs.Config.Written
import Glean.Proofs.Convert.Blanks
import Glean.Proofs.Convert.Spelling
import Glean.Proofs.Extraction.Agreement
import Glean.Proofs.Extraction.Collecting
import Glean.Proofs.Extraction.Determined
import Glean.Proofs.Extraction.Distinct
import Glean.Proofs.Extraction.EachMatch
import Glean.Proofs.Extraction.FailFast
import Glean.Proofs.Extraction.Fallback
import Glean.Proofs.Extraction.Listed
import Glean.Proofs.Extraction.Lookup
import Glean.Proofs.Extraction.Modes
import Glean.Proofs.Extraction.Nested
import Glean.Proofs.Extraction.Normalised
import Glean.Proofs.Extraction.Outcome
import Glean.Proofs.Extraction.Parallel
import Glean.Proofs.Extraction.Refusal
import Glean.Proofs.Extraction.Relaxed
import Glean.Proofs.Extraction.Renamed
import Glean.Proofs.Extraction.Rendered
import Glean.Proofs.Extraction.Reordered
import Glean.Proofs.Extraction.Report
import Glean.Proofs.Extraction.Satisfaction
import Glean.Proofs.Extraction.Shape
import Glean.Proofs.Html.Accepted
import Glean.Proofs.Html.Below
import Glean.Proofs.Html.Inside
import Glean.Proofs.Html.Roots
import Glean.Proofs.Json.Reading
import Glean.Proofs.Json.Shape
import Glean.Proofs.Json.Unambiguous
import Glean.Proofs.Number.Integer
import Glean.Proofs.Record.Readings
import Glean.Proofs.Schema.Checked
import Glean.Proofs.Schema.Declared
import Glean.Proofs.Schema.Flaw
import Glean.Proofs.Schema.Normal
import Glean.Proofs.Schema.Obtained
import Glean.Proofs.Text.Bytes
import Glean.Proofs.Text.Quoted
import Glean.Proofs.Text.Separate
import Glean.Proofs.Value.Displayed
import Glean.Proofs.Value.Documents
import Glean.Proofs.Value.Renderings
import Glean.Proofs.Value.Reordered
import Glean.Proofs.Value.Sorted
import Glean.Record
import Glean.Schema
import Glean.Schema.Builder
import Glean.Schema.Error
import Glean.Text.Ascii
import Glean.Text.Blank
import Glean.Text.Cased
import Glean.Text.Lowercase
import Glean.Text.Printable
import Glean.Text.Quoted
import Glean.Value
import Glean.Value.Display
import Glean.Value.Json
