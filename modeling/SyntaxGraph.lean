import SyntaxGraph.Graph.Document.Reader
import SyntaxGraph.CommandLine.Workspace
import SyntaxGraph.Main
import SyntaxGraph.Word.Raw
import SyntaxGraph.Proofs.Drawing.Shared
import SyntaxGraph.Proofs.Frontend
import SyntaxGraph.Proofs.Drawing.OneWay
import SyntaxGraph.Proofs.Drawing.Numbering
import SyntaxGraph.Proofs.Frontend.Numbering
import SyntaxGraph.Proofs.Source.Schema
import SyntaxGraph.Proofs.Drawing.Stock
import SyntaxGraph.Proofs.Source.Fitting
import SyntaxGraph.Proofs.Source.Visible
import SyntaxGraph.Proofs.Frontend.Visible
import SyntaxGraph.Proofs.CommandLine.Paths
import SyntaxGraph.Proofs.CommandLine.Writing
import SyntaxGraph.Proofs.CommandLine.Delivery
import SyntaxGraph.Proofs.CommandLine.Execution
import SyntaxGraph.Proofs.CommandLine.Batch
import SyntaxGraph.Proofs.Settings.Kinds
import SyntaxGraph.Proofs.Drawing.Registration
import SyntaxGraph.Proofs.Graph.Records
import SyntaxGraph.Proofs.Tree.ReadBack
import SyntaxGraph.Proofs.Graph.Dot
import SyntaxGraph.Proofs.Graph.Document
import SyntaxGraph.Proofs.Source.Parentheses
import SyntaxGraph.Proofs.Drawing.Faults
import SyntaxGraph.Proofs.Drawing.Onto
import SyntaxGraph.Proofs.Drawing.Presentation
import SyntaxGraph.Proofs.Frontend.Hidden
import SyntaxGraph.Proofs.Kind.Extending
import SyntaxGraph.Proofs.Frontend.MoreKinds
import SyntaxGraph.Proofs.CommandLine.Sources
import SyntaxGraph.Proofs.CommandLine.Alone
import SyntaxGraph.Proofs.CommandLine.Absolute
import SyntaxGraph.Proofs.Frontend.Refusal
import SyntaxGraph.Proofs.Kind.Moving
import SyntaxGraph.Proofs.Drawing.Reordering
import SyntaxGraph.Proofs.Frontend.Shapes
import SyntaxGraph.Proofs.Graph.Lines
import SyntaxGraph.Proofs.Drawing.SingleNode
import SyntaxGraph.Proofs.Frontend.Integers
