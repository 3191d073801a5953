import Worksheet.Main
import Worksheet.Proofs.Formula.Evaluation
import Worksheet.Proofs.Formula.Derivation
import Worksheet.Proofs.Sheet.Acceptance
import Worksheet.Proofs.Sheet.Reopening
import Worksheet.Formula.Hash
import Worksheet.Proofs.Formula.Canonical
import Worksheet.Proofs.Sheet.Closure
import Worksheet.Proofs.SavedSheet.Lines
import Worksheet.Proofs.Sheet.RecordOrder
import Worksheet.Proofs.Files.Writing
import Worksheet.Proofs.CommandLine.Reopening
import Worksheet.Proofs.CommandLine.Outcome
import Worksheet.Proofs.Dependency.Recalculation
import Worksheet.Proofs.Dependency.RecursiveVisit
import Worksheet.Proofs.Sheet.Provenance
import Worksheet.Proofs.Sheet.Undo
import Worksheet.Proofs.Formula.Runs
import Worksheet.Proofs.Formula.Viability
import Worksheet.Proofs.Number.Overflow
import Worksheet.Proofs.Formula.Cleaning
import Worksheet.Proofs.Text.Lines
import Worksheet.Proofs.SavedSheet.LineForms
import Worksheet.Proofs.SavedSheet.FirstFault
import Worksheet.Proofs.Sheet.WrittenKinds
import Worksheet.Proofs.Sheet.VersionLine
import Worksheet.Proofs.Name.Coordinates
import Worksheet.Proofs.Sheet.Listing
import Worksheet.Proofs.SavedSheet.Layout
import Worksheet.Proofs.SavedSheet.QuotedText
import Worksheet.Proofs.Sheet.LetterCase
