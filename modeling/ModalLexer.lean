import ModalLexer.Main
import ModalLexer.Session.Calls
import ModalLexer.Table.Offsets
import ModalLexer.Table.Declarations
import ModalLexer.Proofs.Step
import ModalLexer.Proofs.Seek
import ModalLexer.Proofs.Peeking
import ModalLexer.Proofs.History
import ModalLexer.Proofs.Tiling
import ModalLexer.Proofs.Nesting
import ModalLexer.Proofs.Balancing
import ModalLexer.Proofs.Opening
import ModalLexer.Proofs.Preference
import ModalLexer.Proofs.Separation
import ModalLexer.Proofs.Beside
import ModalLexer.Proofs.ScanAll
import ModalLexer.Proofs.Openings
import ModalLexer.Proofs.Failing
import ModalLexer.Proofs.Building
import ModalLexer.Proofs.Disambiguation
import ModalLexer.Proofs.Matching
import ModalLexer.Proofs.Running
import ModalLexer.Proofs.Comments
import ModalLexer.Proofs.Templates
import ModalLexer.Proofs.Unclosed
import ModalLexer.Proofs.Skipping
import ModalLexer.Proofs.Pausing
import ModalLexer.Proofs.Ends
import ModalLexer.Proofs.Bounds
import ModalLexer.Proofs.Displacement
import ModalLexer.Proofs.Movers
import ModalLexer.Proofs.Shapes
import ModalLexer.Proofs.Delimiters
import ModalLexer.Proofs.Actions
import ModalLexer.Proofs.Resolution
import ModalLexer.Proofs.Expanding
import ModalLexer.Proofs.Agreement
import ModalLexer.Proofs.Refusals
import ModalLexer.Proofs.Lines
import ModalLexer.Proofs.Progress
import ModalLexer.Proofs.Declaring
import ModalLexer.Proofs.Defects
import ModalLexer.Proofs.Beginnings
import ModalLexer.Proofs.Openers
import ModalLexer.Proofs.Backticks
import ModalLexer.Proofs.Terminators
import ModalLexer.Proofs.Quotes
import ModalLexer.Proofs.Backtracking
import ModalLexer.Proofs.Readings
import ModalLexer.Proofs.LogicalLines
import ModalLexer.Proofs.Directives
import ModalLexer.Proofs.Slashes
