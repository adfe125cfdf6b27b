import Stencil.Proofs.Braces
import Stencil.Proofs.SeparatedArms
import Stencil.Proofs.Suite
import Stencil.Session.Run
import Stencil.Proofs.LineOrder
import Stencil.Proofs.LineReading
import Stencil.Proofs.ScriptLines
import Stencil.Proofs.Relocation
import Stencil.Proofs.Clauses
import Stencil.Proofs.DirectRun
import Stencil.Proofs.QuotedText
import Stencil.Proofs.RoutineLines
import Stencil.Proofs.Pieces
import Stencil.Proofs.Lowering
import Stencil.Proofs.SourcePieces
import Stencil.Proofs.WholeRoutine
import Stencil.Proofs.Veil
import Stencil.Proofs.VeiledReads
import Stencil.Proofs.VeiledOperations
import Stencil.Proofs.VeiledErrors
import Stencil.Proofs.VeiledScripts
import Stencil.Proofs.VeiledCalls
import Stencil.Proofs.LineMoves
import Stencil.Proofs.Effects
import Stencil.Proofs.OwnNames
import Stencil.Proofs.LeftmostMarkers
import Stencil.Proofs.Renumbering
import Stencil.Proofs.Trimming
import Stencil.Proofs.PrintedTree
import Stencil.Proofs.DisplayHistory
import Stencil.Proofs.RoutineCalls
import Stencil.Proofs.PlainSources
import Stencil.Proofs.AcceptedScripts
import Stencil.Proofs.LiteralSources
import Stencil.Proofs.LoweredRuns
import Stencil.Proofs.TreeRendering
import Stencil.Proofs.Additions
import Stencil.Proofs.DisplayedClasses
import Stencil.Proofs.FileExtensions
import Stencil.Proofs.DeclaredSuffixes
import Stencil.Proofs.WrittenLines
import Stencil.Proofs.LineMap
import Stencil.Proofs.ErrorPaths
import Stencil.Proofs.GrowingWorlds
import Stencil.Proofs.NestedMarkup
import Stencil.Proofs.NestedFailures
import Stencil.Proofs.FilePlaces
import Stencil.Proofs.LoaderNestings
import Stencil.Proofs.FreshDisplays
import Stencil.Proofs.LineLocality
import Stencil.Proofs.PhysicalLines
import Stencil.Proofs.FrameOwners
import Stencil.Proofs.FragmentFailures
import Stencil.Proofs.Entities
import Stencil.Proofs.PlanBrackets
import Stencil.Proofs.MissingClosers
import Stencil.Proofs.SnippetLines
import Stencil.Proofs.StrippedPaint
import Stencil.Proofs.CaretColumns
import Stencil.Proofs.RefusedDisplays
import Stencil.Proofs.PolicyHistory
import Stencil.Proofs.RecoveredNames
import Stencil.Proofs.EscapingDecisions
