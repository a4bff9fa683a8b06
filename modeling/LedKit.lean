import LedKit.Json.Codec
import LedKit.Proofs.BuildStep.HandOver
import LedKit.Proofs.BuildStep.Precedence
import LedKit.Proofs.Firmware.BlinkRun
import LedKit.Proofs.Firmware.Boot
import LedKit.Proofs.Firmware.ForcedInputs
import LedKit.Proofs.Session.Confinement
import LedKit.Proofs.Session.Handles
import LedKit.Proofs.Session.Independence
import LedKit.Proofs.Session.PinHistory
import LedKit.Proofs.Session.RegisterAccess
import LedKit.Proofs.Hardware.Commands
import LedKit.Proofs.Hardware.PinAccess
import LedKit.Proofs.Millis.Reading
import LedKit.Proofs.Board.Columns
import LedKit.Proofs.Hardware.Checked
import LedKit.Proofs.Session.Malformed
import LedKit.Proofs.BuildStep.LinkerReport
import LedKit.Proofs.Session.Routes
import LedKit.Proofs.Json.RoundTrip
