import TurtleScene.Main
import TurtleScene.Scene.Agreement
import TurtleScene.Session
import TurtleScene.Proofs.Concatenation
import TurtleScene.Proofs.FirstOffence
import TurtleScene.Proofs.History
import TurtleScene.Proofs.Layout
import TurtleScene.Proofs.Lookahead
import TurtleScene.Proofs.Repetition
import TurtleScene.Proofs.Repair
import TurtleScene.Proofs.Spelling
import TurtleScene.Proofs.Rearrangement
import TurtleScene.Proofs.Adjacency
import TurtleScene.Proofs.Excerpt
import TurtleScene.Proofs.Geometry
import TurtleScene.Proofs.Spacing
import TurtleScene.Proofs.TokenDump
import TurtleScene.Proofs.OutlineReading
import TurtleScene.Proofs.ScopeHistory
import TurtleScene.Proofs.ColorOptions
import TurtleScene.Proofs.NameResolution
import TurtleScene.Proofs.IntegerOperands
import TurtleScene.Proofs.DecimalOperands
