import Flowchart.Command.Execution
import Flowchart.Editor.Session
import Flowchart.Fix.Summary
import Flowchart.Main
import Flowchart.Record.Model
import Flowchart.Service
import Flowchart.Proofs.Editor.Coherence
import Flowchart.Proofs.Blank
import Flowchart.Proofs.Identifier
import Flowchart.Proofs.Prepared
import Flowchart.Proofs.Shape
import Flowchart.Proofs.Chain.Line
import Flowchart.Proofs.Chain.Prepared
import Flowchart.Proofs.Chain.Arrow
import Flowchart.Proofs.Chain.Stretch
import Flowchart.Proofs.LowerCase
import Flowchart.Proofs.Header
import Flowchart.Proofs.Document
import Flowchart.Proofs.Chain.Front
import Flowchart.Proofs.Chain.Names
import Flowchart.Proofs.Chain.Tagged
import Flowchart.Proofs.Chain.Quoted
import Flowchart.Proofs.Lines
import Flowchart.Proofs.Balance
import Flowchart.Proofs.Fix.Budget
import Flowchart.Proofs.Reference
import Flowchart.Proofs.Fix.Direction
import Flowchart.Proofs.Fix.Progress
import Flowchart.Proofs.Fix.Termination
import Flowchart.Proofs.Place
import Flowchart.Proofs.Fix.Closing
import Flowchart.Proofs.Chain.Inscribed
import Flowchart.Proofs.Fix.Redirect
import Flowchart.Proofs.Issues
import Flowchart.Proofs.Direction
import Flowchart.Proofs.Height
import Flowchart.Proofs.Moved
import Flowchart.Proofs.Typo
import Flowchart.Proofs.Fix.Define
import Flowchart.Proofs.Distance
import Flowchart.Proofs.Indent
import Flowchart.Proofs.Pointing
import Flowchart.Proofs.Carried
import Flowchart.Proofs.Indented
import Flowchart.Proofs.Silent
import Flowchart.Proofs.Fix.Joined
import Flowchart.Proofs.Overlong
import Flowchart.Proofs.Utf8
import Flowchart.Proofs.Command.Directory
import Flowchart.Proofs.Fix.Changing
import Flowchart.Proofs.Json.Reading
import Flowchart.Proofs.Report
import Flowchart.Proofs.Agreement
import Flowchart.Proofs.Record
import Flowchart.Proofs.Fix.Late
import Flowchart.Proofs.Json.Spacing
import Flowchart.Proofs.Export
import Flowchart.Proofs.Fix.Commuting
import Flowchart.Proofs.Linewise
import Flowchart.Proofs.Endpoint
import Flowchart.Proofs.Fix.Summary
import Flowchart.Proofs.Scan
import Flowchart.Proofs.Source
import Flowchart.Proofs.Close
import Flowchart.Proofs.Group
import Flowchart.Proofs.Opening
import Flowchart.Proofs.Clean.Fence
import Flowchart.Proofs.Clean.Innermost
import Flowchart.Proofs.Clean.Label
import Flowchart.Proofs.Clean.Settled
import Flowchart.Proofs.Clean.Nested
import Flowchart.Proofs.Chain.Cleaned
import Flowchart.Proofs.Masking
import Flowchart.Proofs.Scanner
import Flowchart.Proofs.Command.Outcome
import Flowchart.Proofs.Command.Logging
import Flowchart.Proofs.Command.Logging
