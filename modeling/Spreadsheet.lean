import Spreadsheet.Document.Write
import Spreadsheet.Formula.Render
import Spreadsheet.Proofs.Address.Canonical
import Spreadsheet.Proofs.Document.Circularity
import Spreadsheet.Proofs.Document.Commutation
import Spreadsheet.Proofs.Document.Frame
import Spreadsheet.Proofs.Document.Height
import Spreadsheet.Proofs.Document.Labels
import Spreadsheet.Proofs.Document.NewSheet
import Spreadsheet.Proofs.Document.Staleness
import Spreadsheet.Proofs.Document.Transparency
import Spreadsheet.Proofs.Document.Unwritten
import Spreadsheet.Proofs.Document.Visibility
import Spreadsheet.Proofs.Evaluation.Aggregate
import Spreadsheet.Proofs.Evaluation.Block
import Spreadsheet.Proofs.Evaluation.Coverage
import Spreadsheet.Proofs.Evaluation.Finite
import Spreadsheet.Proofs.Formula.Depth
import Spreadsheet.Proofs.Formula.Places
import Spreadsheet.Proofs.Formula.Tiling
import Spreadsheet.Proofs.Function.Between
import Spreadsheet.Proofs.Function.Boundary
import Spreadsheet.Proofs.Function.Finite
import Spreadsheet.Proofs.Function.Index
import Spreadsheet.Proofs.Function.Mode
import Spreadsheet.Proofs.Function.Moment
import Spreadsheet.Proofs.Function.Rolling
import Spreadsheet.Proofs.Function.Search
import Spreadsheet.Proofs.Function.Selection
import Spreadsheet.Proofs.Function.Substitute
import Spreadsheet.Proofs.Number.Finite
import Spreadsheet.Proofs.Number.RoundTrip
import Spreadsheet.Proofs.Stored.Document
import Spreadsheet.Proofs.Value.Error
import Spreadsheet.Proofs.Workbook.WellFormed
import Spreadsheet.Stored.Settings
