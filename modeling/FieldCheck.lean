import FieldCheck.Binding
import FieldCheck.Datum
import FieldCheck.Decimal.Nearest
import FieldCheck.Journal.Operation
import FieldCheck.Settings.File
import FieldCheck.Validator.Session
import FieldCheck.Proofs.FirstSuch
import FieldCheck.Proofs.RuleMeaning
import FieldCheck.Proofs.ExpressionReading
import FieldCheck.Proofs.VerdictAdequacy
import FieldCheck.Proofs.PassAdequacy
import FieldCheck.Proofs.PassCorrectness
import FieldCheck.Proofs.PassNotes
import FieldCheck.Proofs.AddressGrammar
import FieldCheck.Proofs.SessionReplay
import FieldCheck.Proofs.TokenGrammar
import FieldCheck.Proofs.ExpressionWriting
import FieldCheck.Proofs.KeyLocality
import FieldCheck.Proofs.WordingIndependence
import FieldCheck.Proofs.LastSuch
import FieldCheck.Proofs.TemplateResolution
import FieldCheck.Proofs.DictionaryReading
import FieldCheck.Proofs.JsonRoundTrip
import FieldCheck.Proofs.ReportViews
import FieldCheck.Proofs.BindingAdequacy
import FieldCheck.Proofs.SettingsAcceptance
import FieldCheck.Proofs.JournalThreshold
import FieldCheck.Proofs.ExpressionSequence
import FieldCheck.Proofs.RuleConjunction
import FieldCheck.Proofs.PresenceRelaxation
import FieldCheck.Proofs.TokenPatterns
import FieldCheck.Proofs.BoundReading
import FieldCheck.Proofs.TemplateFilling
import FieldCheck.Proofs.OwnChecks
import FieldCheck.Proofs.BoundComparison
import FieldCheck.Proofs.ArgumentRearrangement
import FieldCheck.Proofs.FirstComplaint
import FieldCheck.Proofs.VariableReading
import FieldCheck.Proofs.DocumentAgreement
import FieldCheck.Proofs.TokenJoining
import FieldCheck.Proofs.RuleCoverage
import FieldCheck.Proofs.JournalSetup
import FieldCheck.Proofs.JournalLines
