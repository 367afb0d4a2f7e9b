import DiagnosticHints.Main
import DiagnosticHints.Proofs.GroupedLexing
import DiagnosticHints.Proofs.Segmentation
import DiagnosticHints.Proofs.Wording
import DiagnosticHints.Proofs.TokenPlaces
import DiagnosticHints.Proofs.JsonReading
import DiagnosticHints.Proofs.LoadedOnce
import DiagnosticHints.Proofs.ExplainRun
import DiagnosticHints.Proofs.JsonLines
import DiagnosticHints.Proofs.DocumentRun
import DiagnosticHints.Proofs.InputChannels
import DiagnosticHints.Proofs.CanonicalLines
import DiagnosticHints.Proofs.ErasedEmphasis
import DiagnosticHints.Proofs.CompleteSuggestion
import DiagnosticHints.Proofs.TokenInfluence
import DiagnosticHints.Proofs.OutputPieces
import DiagnosticHints.Proofs.AgreeingReports
import DiagnosticHints.Proofs.FailedRuns
import DiagnosticHints.Proofs.ExactPlaces
import DiagnosticHints.Proofs.LongestLexeme
import DiagnosticHints.Proofs.LexemesAlone
import DiagnosticHints.Proofs.BlankedGaps
import DiagnosticHints.Proofs.LineEndings
import DiagnosticHints.Proofs.TemplateHoles
import DiagnosticHints.Proofs.RenderedProperties
import DiagnosticHints.Proofs.DifferingProperties
import DiagnosticHints.Proofs.AssignedTypes
import DiagnosticHints.Proofs.TemplateLiterals
import DiagnosticHints.Proofs.GroupPasses
import DiagnosticHints.Proofs.LineSearch
