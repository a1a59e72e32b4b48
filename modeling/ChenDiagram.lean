import ChenDiagram.Main
import ChenDiagram.Proofs.Command.Arguments
import ChenDiagram.Proofs.Command.Environment
import ChenDiagram.Proofs.Command.FileSystem
import ChenDiagram.Proofs.Command.Run
import ChenDiagram.Proofs.Command.Verbosity
import ChenDiagram.Proofs.Dot.Dangling
import ChenDiagram.Proofs.Dot.Growth
import ChenDiagram.Proofs.Dot.Identifiers
import ChenDiagram.Proofs.Dot.Order
import ChenDiagram.Proofs.Dot.Recovery
import ChenDiagram.Proofs.Dot.Redeclaration
import ChenDiagram.Proofs.Dot.RoundTrip
import ChenDiagram.Proofs.Dot.Sections
import ChenDiagram.Proofs.Dot.Triangles
import ChenDiagram.Proofs.Log.Account
import ChenDiagram.Proofs.Model.Replay
import ChenDiagram.Proofs.Model.Sections
import ChenDiagram.Proofs.Source.Acceptance
import ChenDiagram.Proofs.Source.Classify
import ChenDiagram.Proofs.Source.Composition
import ChenDiagram.Proofs.Source.EdgeGrammars
import ChenDiagram.Proofs.Source.Image
import ChenDiagram.Proofs.Source.Invariant
import ChenDiagram.Proofs.Source.Lines
import ChenDiagram.Proofs.Source.Margins
import ChenDiagram.Proofs.Source.Numbering
import ChenDiagram.Proofs.Source.Spacing
import ChenDiagram.Proofs.Source.Tokens
import ChenDiagram.Proofs.Source.Writing
import ChenDiagram.Proofs.Strictness
import ChenDiagram.Proofs.Text.Runs
import ChenDiagram.Proofs.Text.Scanners
