import DistrictAtlas.Atlas
import DistrictAtlas.Atlas.Session
import DistrictAtlas.Command.Arguments
import DistrictAtlas.Command.Footprint
import DistrictAtlas.Command.Options
import DistrictAtlas.Command.Run
import DistrictAtlas.Command.Scene
import DistrictAtlas.Entries
import DistrictAtlas.Failure
import DistrictAtlas.Fetch.Client
import DistrictAtlas.Fetch.Location
import DistrictAtlas.Fetch.Payload
import DistrictAtlas.Fetch.Source
import DistrictAtlas.Files.Path
import DistrictAtlas.Files.Store
import DistrictAtlas.Journal
import DistrictAtlas.Json.Printer
import DistrictAtlas.Json.Reader
import DistrictAtlas.Main
import DistrictAtlas.Number.Binary64
import DistrictAtlas.Number.Digits
import DistrictAtlas.Number.Shortest
import DistrictAtlas.Proofs.Command.Alike
import DistrictAtlas.Proofs.Command.Delivery
import DistrictAtlas.Proofs.Command.ExitCodes
import DistrictAtlas.Proofs.Command.FailedRuns
import DistrictAtlas.Proofs.Command.HardFailures
import DistrictAtlas.Proofs.Command.KeptErrors
import DistrictAtlas.Proofs.Command.Loading
import DistrictAtlas.Proofs.Command.SameOwners
import DistrictAtlas.Proofs.Command.Traces
import DistrictAtlas.Proofs.Entries
import DistrictAtlas.Proofs.Fetch.Attempts
import DistrictAtlas.Proofs.Fetch.ContentType
import DistrictAtlas.Proofs.Fetch.Manifests
import DistrictAtlas.Proofs.Fetch.SameTable
import DistrictAtlas.Proofs.Fetch.TypedFailures
import DistrictAtlas.Proofs.Files.Keeping
import DistrictAtlas.Proofs.Files.Writing
import DistrictAtlas.Proofs.Json.Documents
import DistrictAtlas.Proofs.Json.Parts
import DistrictAtlas.Proofs.Json.Quoting
import DistrictAtlas.Proofs.Json.SavedDocuments
import DistrictAtlas.Proofs.Json.Scalars
import DistrictAtlas.Proofs.Json.Showing
import DistrictAtlas.Proofs.Json.Stopping
import DistrictAtlas.Proofs.Json.Written
import DistrictAtlas.Proofs.LogLines
import DistrictAtlas.Proofs.Number.DigitValues
import DistrictAtlas.Proofs.Number.Doubles
import DistrictAtlas.Proofs.Number.Grouping
import DistrictAtlas.Proofs.Number.LongCounts
import DistrictAtlas.Proofs.Number.TextLength
import DistrictAtlas.Proofs.Number.Values
import DistrictAtlas.Proofs.Outcome
import DistrictAtlas.Proofs.Report.Agreement
import DistrictAtlas.Proofs.Report.CrowdedTable
import DistrictAtlas.Proofs.Report.Describing
import DistrictAtlas.Proofs.Report.ReadBack
import DistrictAtlas.Proofs.Report.TokenLines
import DistrictAtlas.Proofs.Rules.Accounts
import DistrictAtlas.Proofs.Rules.AnyCase
import DistrictAtlas.Proofs.Rules.Coherence
import DistrictAtlas.Proofs.Rules.Continuation
import DistrictAtlas.Proofs.Rules.Counts
import DistrictAtlas.Proofs.Rules.Declared
import DistrictAtlas.Proofs.Rules.Exchange
import DistrictAtlas.Proofs.Rules.Loading
import DistrictAtlas.Proofs.Rules.OwnTokens
import DistrictAtlas.Proofs.Rules.Ownership
import DistrictAtlas.Proofs.Rules.Stems
import DistrictAtlas.Proofs.Rules.TokenSpellings
import DistrictAtlas.Proofs.Rules.TokenTexts
import DistrictAtlas.Proofs.Session
import DistrictAtlas.Proofs.Settings.FurtherKeys
import DistrictAtlas.Proofs.Settings.Loading
import DistrictAtlas.Proofs.Settings.Overlaid
import DistrictAtlas.Proofs.Settings.PathLaw
import DistrictAtlas.Proofs.Settings.WellFormed
import DistrictAtlas.Proofs.Style.Meaning
import DistrictAtlas.Proofs.Style.Preservation
import DistrictAtlas.Proofs.Style.Tiers
import DistrictAtlas.Proofs.Table.AnyText
import DistrictAtlas.Proofs.Table.ColumnOrder
import DistrictAtlas.Proofs.Table.HeadLine
import DistrictAtlas.Proofs.Table.HeaderNames
import DistrictAtlas.Proofs.Table.HeaderRow
import DistrictAtlas.Proofs.Table.Layout
import DistrictAtlas.Proofs.Table.LineByLine
import DistrictAtlas.Proofs.Table.LogicalLines
import DistrictAtlas.Proofs.Table.LongCells
import DistrictAtlas.Proofs.Table.MinimalQuoting
import DistrictAtlas.Proofs.Table.Reading
import DistrictAtlas.Proofs.Table.Resolution
import DistrictAtlas.Proofs.Table.RoundTrip
import DistrictAtlas.Proofs.Table.Sniffing
import DistrictAtlas.Proofs.Table.Stretches
import DistrictAtlas.Proofs.Table.Ties
import DistrictAtlas.Proofs.Text.Caseless
import DistrictAtlas.Proofs.Text.CodeOrder
import DistrictAtlas.Proofs.Text.Cutting
import DistrictAtlas.Proofs.Text.Joining
import DistrictAtlas.Proofs.Text.LowerCase
import DistrictAtlas.Proofs.Text.LowerForms
import DistrictAtlas.Proofs.Text.Tidying
import DistrictAtlas.Proofs.Text.UpperCase
import DistrictAtlas.Proofs.Text.Utf8
import DistrictAtlas.Proofs.Text.Utf8Strict
import DistrictAtlas.Report.Classification
import DistrictAtlas.Report.Description
import DistrictAtlas.Report.Inspection
import DistrictAtlas.Report.PaintSheet
import DistrictAtlas.Rules.Count
import DistrictAtlas.Rules.Draft
import DistrictAtlas.Rules.Loading
import DistrictAtlas.Rules.Lookup
import DistrictAtlas.Rules.Notice
import DistrictAtlas.Rules.Palette
import DistrictAtlas.Rules.Rulebook
import DistrictAtlas.Rules.Status
import DistrictAtlas.Rules.Territory
import DistrictAtlas.Rules.Token
import DistrictAtlas.Settings.Fault
import DistrictAtlas.Settings.Loading
import DistrictAtlas.Settings.Overlay
import DistrictAtlas.Settings.Theme
import DistrictAtlas.Style.Painting
import DistrictAtlas.Style.Renderer
import DistrictAtlas.Style.Theme
import DistrictAtlas.Style.Tree
import DistrictAtlas.Table.Columns
import DistrictAtlas.Table.Delimiter
import DistrictAtlas.Table.Listing
import DistrictAtlas.Table.Records
import DistrictAtlas.Table.Rows
import DistrictAtlas.Table.Writing
import DistrictAtlas.Text.Alphanumeric
import DistrictAtlas.Text.Blank
import DistrictAtlas.Text.Casing
import DistrictAtlas.Text.Casing.Tables
import DistrictAtlas.Text.Charset
import DistrictAtlas.Text.CodeOrder
import DistrictAtlas.Text.CodePage.Basic
import DistrictAtlas.Text.CodePage.Dos
import DistrictAtlas.Text.CodePage.Iso
import DistrictAtlas.Text.CodePage.Mac
import DistrictAtlas.Text.CodePage.Mainframe
import DistrictAtlas.Text.CodePage.National
import DistrictAtlas.Text.CodePage.Windows
import DistrictAtlas.Text.CodeSpan
import DistrictAtlas.Text.DecimalDigit
import DistrictAtlas.Text.EastAsian
import DistrictAtlas.Text.EastAsian.Big5
import DistrictAtlas.Text.EastAsian.Big5Cells
import DistrictAtlas.Text.EastAsian.Grid
import DistrictAtlas.Text.EastAsian.Guobiao
import DistrictAtlas.Text.EastAsian.GuobiaoCells
import DistrictAtlas.Text.EastAsian.HongKongCells
import DistrictAtlas.Text.EastAsian.Japanese
import DistrictAtlas.Text.EastAsian.JapaneseCells
import DistrictAtlas.Text.EastAsian.JapaneseExtended
import DistrictAtlas.Text.EastAsian.JapaneseFirstPlane
import DistrictAtlas.Text.EastAsian.JapaneseSecondPlane
import DistrictAtlas.Text.EastAsian.JapaneseSupplement
import DistrictAtlas.Text.EastAsian.Korean
import DistrictAtlas.Text.EastAsian.KoreanCells
import DistrictAtlas.Text.EastAsian.Lead
import DistrictAtlas.Text.EastAsian.Switching
import DistrictAtlas.Text.Escaped
import DistrictAtlas.Text.Lines
import DistrictAtlas.Text.Printable
import DistrictAtlas.Text.Punycode
import DistrictAtlas.Text.Quoted
import DistrictAtlas.Text.Split
import DistrictAtlas.Text.Utf16
import DistrictAtlas.Text.Utf7
import DistrictAtlas.Text.Utf8
import DistrictAtlas.Value
import DistrictAtlas.Yaml.Cursor
import DistrictAtlas.Yaml.Fault
import DistrictAtlas.Yaml.Node
import DistrictAtlas.Yaml.Reader
import DistrictAtlas.Yaml.Scalar
import DistrictAtlas.Yaml.Supply
import DistrictAtlas.Yaml.Text
import DistrictAtlas.Yaml.Token
