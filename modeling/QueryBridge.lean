import QueryBridge.Clipboard
import QueryBridge.Command.Options
import QueryBridge.Command.Run
import QueryBridge.Command.Usage
import QueryBridge.Conversion
import QueryBridge.Dialect
import QueryBridge.Failure
import QueryBridge.Folder
import QueryBridge.Journal.Basic
import QueryBridge.Journal.Program
import QueryBridge.Journal.Reporting
import QueryBridge.Journal.Severity
import QueryBridge.Main
import QueryBridge.Metabase.Clause
import QueryBridge.Metabase.OfPowerBI
import QueryBridge.Metabase.Token
import QueryBridge.Number.Basic
import QueryBridge.Number.Reading
import QueryBridge.Number.Rounding
import QueryBridge.Number.Writing
import QueryBridge.Parameters
import QueryBridge.PowerBI.Draft
import QueryBridge.PowerBI.Mark
import QueryBridge.PowerBI.OfMetabase
import QueryBridge.PowerBI.Quote
import QueryBridge.PowerBI.Reference
import QueryBridge.PowerBI.Wrapper
import QueryBridge.Settings.Audit
import QueryBridge.Settings.Basic
import QueryBridge.Settings.File
import QueryBridge.Terminal.Plain
import QueryBridge.Terminal.Style
import QueryBridge.Text.Alphanumeric
import QueryBridge.Text.Basic
import QueryBridge.Text.Blank
import QueryBridge.Text.Caseless
import QueryBridge.Text.Cut
import QueryBridge.Text.Scan
import QueryBridge.Text.Similarity
import QueryBridge.Text.Word
import QueryBridge.Proofs.PowerBI.Extraction
import QueryBridge.Proofs.PowerBI.Escaping
import QueryBridge.Proofs.Parameters
import QueryBridge.Proofs.PowerBI.Drafting
import QueryBridge.Proofs.Metabase.Segment
import QueryBridge.Proofs.PowerBI.Translation
import QueryBridge.Proofs.PowerBI.Marking
import QueryBridge.Proofs.Metabase.Referencing
import QueryBridge.Proofs.Metabase.Fragment
import QueryBridge.Proofs.PowerBI.Recognition
import QueryBridge.Proofs.Metabase.Stretch
import QueryBridge.Proofs.PowerBI.Spelling
import QueryBridge.Proofs.Metabase.Returning
import QueryBridge.Proofs.RoundTrip
import QueryBridge.Proofs.Metabase.Renaming
import QueryBridge.Proofs.PowerBI.Literal
import QueryBridge.Proofs.PowerBI.Detection
import QueryBridge.Proofs.PowerBI.Lines
import QueryBridge.Proofs.Alternation
import QueryBridge.Proofs.Journal.Observation
import QueryBridge.Proofs.Clipboard
import QueryBridge.Proofs.PowerBI.Finding
import QueryBridge.Proofs.Text.Balance
import QueryBridge.Proofs.Metabase.Delimiting
import QueryBridge.Proofs.PowerBI.Clauses
import QueryBridge.Proofs.Metabase.Removal
import QueryBridge.Proofs.PowerBI.Resizing
import QueryBridge.Proofs.Metabase.Naming
import QueryBridge.Proofs.PowerBI.Breaks
import QueryBridge.Proofs.Metabase.Replacement
import QueryBridge.Proofs.Dialect
import QueryBridge.Proofs.Journal.Media
import QueryBridge.Proofs.Journal.Nesting
import QueryBridge.Proofs.Failure
import QueryBridge.Proofs.Number.Value
import QueryBridge.Proofs.Settings.Fault
import QueryBridge.Proofs.Settings.Loading
import QueryBridge.Proofs.Number.Digits
import QueryBridge.Proofs.Number.Reading
