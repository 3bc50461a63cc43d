import DialogCodemod.Batch
import DialogCodemod.CommandLine.Arguments
import DialogCodemod.CommandLine.Environment
import DialogCodemod.CommandLine.Run
import DialogCodemod.Conversion
import DialogCodemod.Dialog.Basic
import DialogCodemod.Dialog.Call
import DialogCodemod.Dialog.Statement
import DialogCodemod.File.Disk
import DialogCodemod.File.Error
import DialogCodemod.File.Fault
import DialogCodemod.File.Path
import DialogCodemod.File.Store
import DialogCodemod.File.System
import DialogCodemod.Import.Block
import DialogCodemod.Import.Clause
import DialogCodemod.Import.Placement
import DialogCodemod.Log
import DialogCodemod.Main
import DialogCodemod.Notifier
import DialogCodemod.Report.Batch
import DialogCodemod.Report.ControlSequence
import DialogCodemod.Report.Outcome
import DialogCodemod.Report.Style
import DialogCodemod.Rule.Basic
import DialogCodemod.Rule.Replacement
import DialogCodemod.Rule.Site
import DialogCodemod.Text.Basic
import DialogCodemod.Text.Line
import DialogCodemod.Text.Literal
import DialogCodemod.Text.Reader
import DialogCodemod.Text.Space
import DialogCodemod.Text.Word
import DialogCodemod.Proofs.Grammar
import DialogCodemod.Proofs.Scan
import DialogCodemod.Proofs.Rendering
import DialogCodemod.Proofs.Pieces
import DialogCodemod.Proofs.PieceCount
import DialogCodemod.Proofs.Occurrences
import DialogCodemod.Proofs.Insertion
import DialogCodemod.Proofs.ImportOnce
import DialogCodemod.Proofs.CallPosition
import DialogCodemod.Proofs.StatementOrigin
import DialogCodemod.Proofs.SitesApart
import DialogCodemod.Proofs.Rerun
import DialogCodemod.Proofs.SupportedText
import DialogCodemod.Proofs.Undetected
import DialogCodemod.Proofs.LineLocality
import DialogCodemod.Proofs.FileConversion
import DialogCodemod.Proofs.LiteralSites
import DialogCodemod.Proofs.MessageSurvival
import DialogCodemod.Proofs.LineEndings
import DialogCodemod.Proofs.ImportApart
import DialogCodemod.Proofs.BatchRun
import DialogCodemod.Proofs.BatchIndependence
import DialogCodemod.Proofs.FileBytes
import DialogCodemod.Proofs.ProgramRun
import DialogCodemod.Proofs.StoreHistory
import DialogCodemod.Proofs.LeftmostSites
import DialogCodemod.Proofs.LeadingBlock
import DialogCodemod.Proofs.ImportPosition
import DialogCodemod.Proofs.FaithfulReport
import DialogCodemod.Proofs.BlockExtension
import DialogCodemod.Proofs.FrameworkImport
import DialogCodemod.Proofs.BraceList
import DialogCodemod.Proofs.ElseBranch
import DialogCodemod.Proofs.ConsistentEndings
import DialogCodemod.Proofs.DelimiterBalance
