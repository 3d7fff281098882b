import Rulefold.Session
import Rulefold.Proofs.Layout
import Rulefold.Proofs.Likeness
import Rulefold.Proofs.Tests
import Rulefold.Proofs.Runs
import Rulefold.Proofs.Checked
import Rulefold.Proofs.Cells
import Rulefold.Proofs.Survivor
import Rulefold.Proofs.Scan
import Rulefold.Proofs.Rewriting
import Rulefold.Proofs.Progress
import Rulefold.Proofs.Passing
import Rulefold.Proofs.Folding
import Rulefold.Proofs.Packet
import Rulefold.Proofs.Cases
import Rulefold.Proofs.Matching
import Rulefold.Proofs.Verdicts
import Rulefold.Proofs.FixedPoint
import Rulefold.Proofs.Commands
import Rulefold.Proofs.Capacity
import Rulefold.Proofs.Variety
import Rulefold.Proofs.Decomposition
import Rulefold.Proofs.Grouping
import Rulefold.Proofs.Detection
import Rulefold.Proofs.Pieces
import Rulefold.Proofs.Reordering
import Rulefold.Proofs.Gathering
import Rulefold.Proofs.Frame
import Rulefold.Proofs.Locality
import Rulefold.Proofs.Blindness
import Rulefold.Proofs.Delivery
import Rulefold.Proofs.Nesting
import Rulefold.Proofs.Shapes
import Rulefold.Proofs.Placement
import Rulefold.Proofs.Lines
import Rulefold.Proofs.Quoting
import Rulefold.Proofs.Reporting
import Rulefold.Proofs.Reading
import Rulefold.Proofs.Documents
import Rulefold.Proofs.Settings
import Rulefold.Proofs.Configuration
