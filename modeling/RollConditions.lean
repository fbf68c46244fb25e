import RollConditions.Main
import RollConditions.Proofs.Lookup
import RollConditions.Proofs.ExactNumber
import RollConditions.Proofs.Shape
import RollConditions.Proofs.Grammar
import RollConditions.Proofs.RoundTrip
import RollConditions.Proofs.ErrorPlace
import RollConditions.Proofs.FirstMisfit
import RollConditions.Proofs.Meaning
import RollConditions.Proofs.ByteOrder
import RollConditions.Proofs.RunSteps
import RollConditions.Proofs.ConfigAgreement
import RollConditions.Proofs.TestOutcome
import RollConditions.Proofs.Relocation
import RollConditions.Proofs.Relevance
import RollConditions.Proofs.NormalForm
import RollConditions.Proofs.WrittenNumber
import RollConditions.Proofs.WrittenJson
import RollConditions.Proofs.PrintedOutput
import RollConditions.Proofs.OutputAgreement
import RollConditions.Proofs.CarriedNumber
import RollConditions.Proofs.FieldValue
import RollConditions.Proofs.RoundedOrder
import RollConditions.Proofs.ComparisonOrder
import RollConditions.Proofs.Conjunction
import RollConditions.Proofs.Verification
import RollConditions.Proofs.OptionsHistory
import RollConditions.Proofs.Suggestion
import RollConditions.Proofs.Growth
