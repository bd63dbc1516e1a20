import TreeLint.CommandLine.Run
import TreeLint.Data.Held
import TreeLint.Data.Json
import TreeLint.Linter
import TreeLint.Main
import TreeLint.Report
import TreeLint.Rules.Scripted
import TreeLint.Severity.Comparison
import TreeLint.Tree.Document
import TreeLint.Proofs.Edits
import TreeLint.Proofs.ContentSpan
import TreeLint.Proofs.Walks
import TreeLint.Proofs.ImportFindings
import TreeLint.Proofs.ImportFixes
import TreeLint.Proofs.RuleFailures
import TreeLint.Proofs.Traversal
import TreeLint.Proofs.ImportTokens
import TreeLint.Proofs.Registration
import TreeLint.Proofs.RuleChoice
import TreeLint.Proofs.Attribution
import TreeLint.Proofs.Selection
import TreeLint.Proofs.LintCommand
import TreeLint.Proofs.TokenEdges
import TreeLint.Proofs.RegistrationOrder
import TreeLint.Proofs.SettingsEffect
import TreeLint.Proofs.Drawing
import TreeLint.Proofs.Normalisation
import TreeLint.Proofs.Wrapping
import TreeLint.Proofs.FileGroups
import TreeLint.Proofs.ReportLines
import TreeLint.Proofs.ReportText
import TreeLint.Proofs.ImportPlaces
import TreeLint.Proofs.ReportRows
import TreeLint.Proofs.ImportSeparators
import TreeLint.Proofs.Positions
import TreeLint.Proofs.Addresses
import TreeLint.Proofs.VisitOrder
import TreeLint.Proofs.SettingsInForce
import TreeLint.Proofs.ModulePaths
import TreeLint.Proofs.MarkerGrammar
import TreeLint.Proofs.NodeCount
