import LineSpecials.Main
import LineSpecials.Proofs.BindingRows
import LineSpecials.Proofs.BlockGrammar
import LineSpecials.Proofs.EntryFields
import LineSpecials.Proofs.EntryOrder
import LineSpecials.Proofs.RepeatedWarnings
import LineSpecials.Proofs.ReportAgreement
import LineSpecials.Proofs.RunOutcome
import LineSpecials.Proofs.ScannerAgreement
import LineSpecials.Proofs.TableReading
import LineSpecials.Proofs.TableState
import LineSpecials.Proofs.Text.Bytes
import LineSpecials.Proofs.Text.Splitting
import LineSpecials.Proofs.Text.Trimming
import LineSpecials.Proofs.Text.Words
import LineSpecials.Proofs.StepOrder
import LineSpecials.Proofs.Text.TrimmedLines
import LineSpecials.Proofs.TrimmedSources
import LineSpecials.Proofs.EchoReading
import LineSpecials.Proofs.Findings
import LineSpecials.Proofs.BlockRestart
import LineSpecials.Proofs.RowIndex
import LineSpecials.Proofs.WrittenTables
import LineSpecials.Proofs.SessionOutcome
import LineSpecials.Proofs.ExitStatus
import LineSpecials.Proofs.ResolvedReferences
import LineSpecials.Proofs.ReferenceGrammar
import LineSpecials.Proofs.NumeralOrder
import LineSpecials.Proofs.EmptyPathLabel
import LineSpecials.Proofs.TableDeclaration
import LineSpecials.Proofs.Text.Segments
import LineSpecials.Proofs.KeySpan
import LineSpecials.Proofs.MarkerColumn
import LineSpecials.Proofs.GroupFolds
import LineSpecials.Proofs.SettingsSchema
import LineSpecials.Proofs.Pattern.Leads
import LineSpecials.Proofs.Pattern.Steps
import LineSpecials.Proofs.Pattern.Stretches
import LineSpecials.Proofs.Pattern.Walk
import LineSpecials.Proofs.DeclarationPattern
