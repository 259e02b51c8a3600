import Traceability.Agent.Tools
import Traceability.Main
import Traceability.Mark.Written
import Traceability.Proofs.Issue.FilePairing
import Traceability.Proofs.Tag.Position
import Traceability.Proofs.Check.SourceFile
import Traceability.Proofs.Issue.ProjectPairing
import Traceability.Proofs.Project.Verdict
import Traceability.Proofs.Project.FileOrder
import Traceability.Proofs.Tag.Coverage
import Traceability.Proofs.Check.Concatenation
import Traceability.Proofs.Mark.Form
import Traceability.Proofs.Comment.MarkedComment
import Traceability.Proofs.Language.Marks
import Traceability.Proofs.Check.Repetition
import Traceability.Proofs.Check.LineEnds
import Traceability.Proofs.Language.SourceOrder
import Traceability.Proofs.FileTree.Listing
import Traceability.Proofs.Issue.Restriction
import Traceability.Proofs.Project.Selection
import Traceability.Proofs.Project.Initialization
import Traceability.Proofs.Agent.Paging
import Traceability.Proofs.Check.SharedDuplicates
import Traceability.Proofs.Check.SourceLine
import Traceability.Proofs.Tag.Segmentation
import Traceability.Proofs.Comment.Delimiter
import Traceability.Proofs.Tag.IdPart
import Traceability.Proofs.Tag.KeywordForm
import Traceability.Proofs.Tag.Display
import Traceability.Proofs.Tag.Layout
import Traceability.Proofs.Language.Union
import Traceability.Proofs.Config.Discovery
import Traceability.Proofs.Project.ChosenFiles
import Traceability.Proofs.Issue.Counts
import Traceability.Proofs.Agent.Overview
import Traceability.Proofs.Mark.Search
import Traceability.Proofs.Tag.LeftmostKeyword
import Traceability.Proofs.Report.Decoration
import Traceability.Proofs.Text.Boundary
