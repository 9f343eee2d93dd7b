import GameOfLife.Main
import GameOfLife.Output
import GameOfLife.Proofs.Colors
import GameOfLife.Proofs.Grid.Equality
import GameOfLife.Proofs.Grid.Rectangles
import GameOfLife.Proofs.Grid.Ring
import GameOfLife.Proofs.Input.Chunks
import GameOfLife.Proofs.Input.Diagnosis
import GameOfLife.Proofs.Input.Faults
import GameOfLife.Proofs.Input.HeaderPattern
import GameOfLife.Proofs.Input.Layouts
import GameOfLife.Proofs.Input.RowLanguage
import GameOfLife.Proofs.Input.Spacing
import GameOfLife.Proofs.Input.Succession
import GameOfLife.Proofs.Options.Grammar
import GameOfLife.Proofs.Placement
import GameOfLife.Proofs.Population
import GameOfLife.Proofs.Session.Command
import GameOfLife.Proofs.Session.Feedback
import GameOfLife.Proofs.Session.Flags
import GameOfLife.Proofs.Session.Story
import GameOfLife.Proofs.Strip
import GameOfLife.Proofs.Symmetry
import GameOfLife.Proofs.Report.History
import GameOfLife.Proofs.Output
