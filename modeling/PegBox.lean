import PegBox.Session
import PegBox.Main
import PegBox.Proofs.Binary64.Nearest
import PegBox.Proofs.Binary64.Reading
import PegBox.Proofs.Binary64.Arithmetic
import PegBox.Proofs.Binary64.Extended
import PegBox.Proofs.Binary64.Accuracy
import PegBox.Proofs.Binary64.Order
import PegBox.Proofs.Storing
import PegBox.Proofs.CountCapture
import PegBox.Proofs.SinkHistory
import PegBox.Proofs.SessionHistory
import PegBox.Proofs.RunOutcome
import PegBox.Proofs.Renderings
import PegBox.Proofs.PayloadCodec
import PegBox.Proofs.CaptureForms
import PegBox.Proofs.InputVerdict
import PegBox.Proofs.InlineAndFile
import PegBox.Proofs.OneLine
import PegBox.Proofs.SettingsLayers
import PegBox.Proofs.ProgramOutcome
import PegBox.Proofs.WeightedMidpoint
import PegBox.Proofs.MidpointAccuracy
import PegBox.Proofs.MidpointOrder
import PegBox.Proofs.ThresholdRange
import PegBox.Proofs.DecimalLine
import PegBox.Proofs.ThresholdCount
import PegBox.Proofs.DocumentNames
import PegBox.Proofs.RecordReading
import PegBox.Proofs.CaptureRoutes
import PegBox.Proofs.PegNumbers
import PegBox.Proofs.ReadingsFile
import PegBox.Proofs.FormsReadBack
import PegBox.Proofs.JoinedCaptures
import PegBox.Proofs.AcceptedNames
import PegBox.Proofs.MovedNames
