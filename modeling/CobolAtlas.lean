import CobolAtlas.FileTree
import CobolAtlas.Main
import CobolAtlas.Proofs.Distinct
import CobolAtlas.Proofs.Reachability
import CobolAtlas.Proofs.Scan.Step
import CobolAtlas.Proofs.Sql.Block
import CobolAtlas.Proofs.Words
import CobolAtlas.Proofs.Scan.Layout
import CobolAtlas.Proofs.Scan.Ownership
import CobolAtlas.Proofs.PrintedLine
import CobolAtlas.Proofs.Conditions
import CobolAtlas.Proofs.Scan.Guards
import CobolAtlas.Proofs.Resolution
import CobolAtlas.Proofs.Structure.Unfolding
import CobolAtlas.Proofs.Structure.Liveness
import CobolAtlas.Proofs.Collapse
import CobolAtlas.Proofs.NormalForm
import CobolAtlas.Proofs.Sql.Text
import CobolAtlas.Proofs.Scan.SqlText
import CobolAtlas.Proofs.Scan.Action
import CobolAtlas.Proofs.Scan.Tables
import CobolAtlas.Proofs.Scan.Columns
import CobolAtlas.Proofs.Scan.Isolation
import CobolAtlas.Proofs.Scan.Cursors
import CobolAtlas.Proofs.Scan.BlockFrame
import CobolAtlas.Proofs.Scan.ExitLine
import CobolAtlas.Proofs.Report.Operations
import CobolAtlas.Proofs.Scan.DetachedPeriod
import CobolAtlas.Proofs.Sql.NamedTables
import CobolAtlas.Proofs.ArmLabels
import CobolAtlas.Proofs.Balance
import CobolAtlas.Proofs.Scan.BlockRecord
import CobolAtlas.Proofs.Sql.QualifiedNames
import CobolAtlas.Proofs.Sql.Continuation
import CobolAtlas.Proofs.Sql.VerbTargets
import CobolAtlas.Proofs.ResolvedCalls
import CobolAtlas.Proofs.StaleMarks
import CobolAtlas.Proofs.TableUsage
import CobolAtlas.Proofs.Dictionary
import CobolAtlas.Proofs.FormattedLine
import CobolAtlas.Proofs.Scan.CalledModules
import CobolAtlas.Proofs.WordPlaces
import CobolAtlas.Proofs.Scan.OpenIndex
import CobolAtlas.Proofs.FileTree
import CobolAtlas.Proofs.Command
import CobolAtlas.Proofs.Json
import CobolAtlas.Proofs.Report.Forms
