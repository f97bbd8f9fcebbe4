import Readiness.Decimal.Fixed
import Readiness.Main
import Readiness.Service
import Readiness.Proofs.EditSplice
import Readiness.Proofs.EditShift
import Readiness.Proofs.SimultaneousEdits
import Readiness.Proofs.EditFrame
import Readiness.Proofs.TreeWalk
import Readiness.Proofs.StableSort
import Readiness.Proofs.RepairRun
import Readiness.Proofs.RepairReadable
import Readiness.Proofs.RepairLedger
import Readiness.Proofs.RepairErasure
import Readiness.Proofs.ScriptRepair
import Readiness.Proofs.Findings
import Readiness.Proofs.IssueDrift
import Readiness.Proofs.QueryParameters
import Readiness.Proofs.SecretRead
import Readiness.Proofs.VariableWords
import Readiness.Proofs.SecretDigest
import Readiness.Proofs.ChainRepair
import Readiness.Proofs.Utf8Bytes
import Readiness.Proofs.DiskFrame
import Readiness.Proofs.WrittenBytes
import Readiness.Proofs.DiffSame
import Readiness.Proofs.PreviewAgreement
import Readiness.Proofs.ReportedCall
import Readiness.Proofs.DiscoveredFiles
import Readiness.Proofs.ScanComposition
import Readiness.Proofs.TextOrder
import Readiness.Proofs.ScanOutcome
import Readiness.Proofs.CategoryFilter
import Readiness.Proofs.InertFiles
import Readiness.Proofs.SchemaMeaning
import Readiness.Proofs.DocumentContracts
import Readiness.Proofs.PlainDisk
import Readiness.Proofs.SavedFile
import Readiness.Proofs.FileAccount
import Readiness.Proofs.ProjectAccount
import Readiness.Proofs.ListedOrder
import Readiness.Proofs.QueryAssembly
import Readiness.Proofs.PlaceholderOrder
import Readiness.Proofs.TemplateText
import Readiness.Proofs.QueryValue
import Readiness.Proofs.QuotedLiteral
import Readiness.Proofs.SumValue
import Readiness.Proofs.StringText
import Readiness.Proofs.ConstantQuery
import Readiness.Proofs.QuerySpellings
import Readiness.Proofs.PatternText
import Readiness.Proofs.CredentialSpellings
import Readiness.Proofs.ParserSteps
import Readiness.Proofs.ExpressionEnds
import Readiness.Proofs.ExpressionReading
import Readiness.Proofs.VariableAccess
import Readiness.Proofs.CursorSteps
import Readiness.Proofs.TemplateLayout
import Readiness.Proofs.ParserPlaces
import Readiness.Proofs.FunctionTrees
import Readiness.Proofs.MarkupTrees
import Readiness.Proofs.ExpressionTrees
import Readiness.Proofs.StatementTrees
import Readiness.Proofs.TemplateChunks
import Readiness.Proofs.ListReading
import Readiness.Proofs.TemplateReading
import Readiness.Proofs.ParameterList
import Readiness.Proofs.WrittenLiterals
import Readiness.Proofs.EnclosingParens
import Readiness.Proofs.ParameterPlace
import Readiness.Proofs.TextLines
import Readiness.Proofs.IndentedLines
import Readiness.Proofs.WrappedLiterals
import Readiness.Proofs.WrappedLines
import Readiness.Proofs.TreeOutline
import Readiness.Proofs.OutsideView
import Readiness.Proofs.UnplacedIssues
import Readiness.Proofs.WrappedBody
import Readiness.Proofs.SilencedFunction
import Readiness.Proofs.PromiseChain
import Readiness.Proofs.UntouchedLines
import Readiness.Proofs.LinesAbove
import Readiness.Proofs.CommonRuns
import Readiness.Proofs.DiffHunks
import Readiness.Proofs.PatchReading
import Readiness.Proofs.DiffText
import Readiness.Proofs.ReportedChange
import Readiness.Proofs.IssueNumbers
import Readiness.Proofs.CanonicalDocument
import Readiness.Proofs.PageMarkup
import Readiness.Proofs.SettingsFile
import Readiness.Proofs.ScoreOrder
import Readiness.Proofs.OwnCode
import Readiness.Proofs.HuggingParens
import Readiness.Proofs.SourceIndex
import Readiness.Proofs.NumberedLines
