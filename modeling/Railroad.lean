import Railroad.Main
import Railroad.Proofs.Grammar.PhraseReading
import Railroad.Proofs.Grammar.StatementReading
import Railroad.Proofs.Grammar.Soundness
import Railroad.Proofs.Grammar.Completeness
import Railroad.Proofs.Recovery.Scanning
import Railroad.Proofs.Grammar.Nesting
import Railroad.Proofs.Grammar.Acceptance
import Railroad.Proofs.Grammar.Literal
import Railroad.Proofs.Grammar.BrokenRule
import Railroad.Proofs.Grammar.Locality
import Railroad.Proofs.Assembly.Turns
import Railroad.Proofs.Recovery.Confinement
import Railroad.Proofs.Assembly.Isolation
import Railroad.Proofs.Assembly.Refinement
import Railroad.Proofs.Grammar.BrokenStatement
import Railroad.Proofs.Recovery.Progress
import Railroad.Proofs.Assembly.Segments
import Railroad.Proofs.Grammar.Completion
import Railroad.Proofs.Grammar.FailurePosition
import Railroad.Proofs.Layout.Exact
import Railroad.Proofs.Layout.Drawing
import Railroad.Proofs.Layout.Placement
import Railroad.Proofs.Layout.Part
import Railroad.Proofs.Layout.Containment
import Railroad.Proofs.Layout.Track
import Railroad.Proofs.Layout.Joints
import Railroad.Proofs.Layout.Continuity
import Railroad.Proofs.Layout.Reach
import Railroad.Proofs.Text.Lines
import Railroad.Proofs.Text.Place
import Railroad.Proofs.Action
import Railroad.Proofs.Assembly.Verdict
import Railroad.Proofs.Command.Agreement
import Railroad.Proofs.GrammarFile.Comments
import Railroad.Proofs.Recovery.Agreement
import Railroad.Proofs.Settings.Validation
import Railroad.Proofs.Settings.Exact
import Railroad.Proofs.Layout.Stack
import Railroad.Proofs.Layout.Sequence
import Railroad.Proofs.Layout.Figures
import Railroad.Proofs.Layout.Flattening
import Railroad.Proofs.Rule.Nodes
import Railroad.Proofs.Layout.Mirroring
import Railroad.Proofs.Layout.Monotone
import Railroad.Proofs.Grammar.Level
import Railroad.Proofs.Grammar.Spelling
import Railroad.Proofs.Grammar.Consumption
import Railroad.Proofs.Grammar.Concatenation
import Railroad.Proofs.Settings.Merging
import Railroad.Proofs.Settings.Stubs
import Railroad.Proofs.GrammarFile.Hashes
import Railroad.Proofs.Assembly.Policies
import Railroad.Proofs.Export.Payload
import Railroad.Proofs.Export.Decoding
import Railroad.Proofs.Export.Atomicity
import Railroad.Proofs.Outline
import Railroad.Proofs.Text.Position
