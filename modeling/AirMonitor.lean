import AirMonitor.Node.Event
import AirMonitor.Settings
import AirMonitor.Node.Boot
import AirMonitor.Json.Reader
import AirMonitor.Proofs.Frame
import AirMonitor.Proofs.Turns
import AirMonitor.Proofs.PendingReaders
import AirMonitor.Proofs.InFlight
import AirMonitor.Proofs.ConfigMirror
import AirMonitor.Proofs.Independence
import AirMonitor.Proofs.AllOrNothing
import AirMonitor.Proofs.Asleep
import AirMonitor.Proofs.Provenance
import AirMonitor.Proofs.ConcurrentScores
import AirMonitor.Proofs.StatusCode
import AirMonitor.Proofs.FetchedFields
import AirMonitor.Proofs.WaitCovers
import AirMonitor.Proofs.FaithfulPayload
import AirMonitor.Proofs.HonestReports
import AirMonitor.Proofs.NeverStops
import AirMonitor.Proofs.OverI2c
import AirMonitor.Proofs.StartedMode
import AirMonitor.Proofs.HeaterProgram
import AirMonitor.Proofs.BusyWait
import AirMonitor.Proofs.Connection
import AirMonitor.Proofs.CalibrationLayout
import AirMonitor.Proofs.FieldLayout
import AirMonitor.Proofs.HeatingCodes
import AirMonitor.Proofs.FrameChecksum
import AirMonitor.Proofs.PairFraming
import AirMonitor.Proofs.ShownScores
import AirMonitor.Proofs.AppliedSettings
import AirMonitor.Proofs.Boot
import AirMonitor.Proofs.DecimalTexts
