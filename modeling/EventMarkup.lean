import EventMarkup.Attributes
import EventMarkup.Attributes.Edit
import EventMarkup.Cause
import EventMarkup.Command.Arguments
import EventMarkup.Command.Flag
import EventMarkup.Command.Run
import EventMarkup.Construct
import EventMarkup.Decimal
import EventMarkup.Disk
import EventMarkup.Disk.Path
import EventMarkup.Event
import EventMarkup.Fault
import EventMarkup.Guard
import EventMarkup.Host
import EventMarkup.Link
import EventMarkup.Log
import EventMarkup.Log.Threshold
import EventMarkup.Main
import EventMarkup.Notice
import EventMarkup.Options
import EventMarkup.OrderedMap
import EventMarkup.Outcome
import EventMarkup.Output.Codec
import EventMarkup.Output.Destination
import EventMarkup.Output.Target
import EventMarkup.Proofs.Accepted
import EventMarkup.Proofs.Accounts
import EventMarkup.Proofs.Agreement
import EventMarkup.Proofs.AngleBrackets
import EventMarkup.Proofs.AttributeNames
import EventMarkup.Proofs.Blocks
import EventMarkup.Proofs.Brackets
import EventMarkup.Proofs.Buffer
import EventMarkup.Proofs.Closing
import EventMarkup.Proofs.CommandRuns
import EventMarkup.Proofs.Comments
import EventMarkup.Proofs.Decoding
import EventMarkup.Proofs.Deliveries
import EventMarkup.Proofs.EditHistory
import EventMarkup.Proofs.Enclosure
import EventMarkup.Proofs.Entities
import EventMarkup.Proofs.Escaping
import EventMarkup.Proofs.ExitCodes
import EventMarkup.Proofs.FaultFree
import EventMarkup.Proofs.FigureEnds
import EventMarkup.Proofs.FigureForms
import EventMarkup.Proofs.Files
import EventMarkup.Proofs.FragmentLinks
import EventMarkup.Proofs.Fragments
import EventMarkup.Proofs.Grammar
import EventMarkup.Proofs.HeadText
import EventMarkup.Proofs.Identifiers
import EventMarkup.Proofs.InsertionOrder
import EventMarkup.Proofs.JoinedPages
import EventMarkup.Proofs.LegacyParts
import EventMarkup.Proofs.LetterCase
import EventMarkup.Proofs.LineEndings
import EventMarkup.Proofs.LineRuns
import EventMarkup.Proofs.Links
import EventMarkup.Proofs.LogFile
import EventMarkup.Proofs.Lookup
import EventMarkup.Proofs.Marks
import EventMarkup.Proofs.MergedAttributes
import EventMarkup.Proofs.Mirror
import EventMarkup.Proofs.NestedTables
import EventMarkup.Proofs.Nesting
import EventMarkup.Proofs.Octets
import EventMarkup.Proofs.OpenHeads
import EventMarkup.Proofs.OpenTags
import EventMarkup.Proofs.Output
import EventMarkup.Proofs.PageMarkup
import EventMarkup.Proofs.Parts
import EventMarkup.Proofs.PlainSession
import EventMarkup.Proofs.Provenance
import EventMarkup.Proofs.PushBack
import EventMarkup.Proofs.Qualifiers
import EventMarkup.Proofs.Reader
import EventMarkup.Proofs.Reading
import EventMarkup.Proofs.RefusedRuns
import EventMarkup.Proofs.Renewal
import EventMarkup.Proofs.RepeatedGuards
import EventMarkup.Proofs.RunCourse
import EventMarkup.Proofs.RunFaults
import EventMarkup.Proofs.RunPages
import EventMarkup.Proofs.RunProgress
import EventMarkup.Proofs.RunSettings
import EventMarkup.Proofs.Separators
import EventMarkup.Proofs.Shape
import EventMarkup.Proofs.Simulation
import EventMarkup.Proofs.SinkUse
import EventMarkup.Proofs.SplitTexts
import EventMarkup.Proofs.StartTags
import EventMarkup.Proofs.Steps
import EventMarkup.Proofs.TableElements
import EventMarkup.Proofs.TableRows
import EventMarkup.Proofs.TableState
import EventMarkup.Proofs.TableTags
import EventMarkup.Proofs.TagNames
import EventMarkup.Proofs.Transition
import EventMarkup.Proofs.Transparency
import EventMarkup.Proofs.Trimmed
import EventMarkup.Proofs.UniformLines
import EventMarkup.Proofs.UrlOctets
import EventMarkup.Proofs.VerbatimTags
import EventMarkup.Reaction
import EventMarkup.Render
import EventMarkup.Render.Block
import EventMarkup.Render.Figure
import EventMarkup.Render.Inline
import EventMarkup.Render.Table
import EventMarkup.Report
import EventMarkup.Scope
import EventMarkup.Session
import EventMarkup.Sink
import EventMarkup.Source
import EventMarkup.State
import EventMarkup.Style
import EventMarkup.Tag
import EventMarkup.Text.Blank
import EventMarkup.Text.Charset
import EventMarkup.Text.CodeRange
import EventMarkup.Text.Digit
import EventMarkup.Text.Escape
import EventMarkup.Text.Identifier
import EventMarkup.Text.Letter
import EventMarkup.Text.LetterTable
import EventMarkup.Text.LineEnding
import EventMarkup.Text.Lines
import EventMarkup.Text.Lowercase
import EventMarkup.Text.LowercaseTable
import EventMarkup.Text.Percent
import EventMarkup.Text.Quoted
import EventMarkup.Text.UnprintableTable
import EventMarkup.Token
import EventMarkup.Value
import EventMarkup.Wiki.Block
import EventMarkup.Wiki.Cursor
import EventMarkup.Wiki.Page
import EventMarkup.Wiki.Reader
import EventMarkup.Word
