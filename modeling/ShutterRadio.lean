import ShutterRadio.Bench.BufferScript
import ShutterRadio.Bench.ChipScript
import ShutterRadio.Bench.Session.Play
import ShutterRadio.Bench.Trial
import ShutterRadio.Proofs.Loopback
import ShutterRadio.Proofs.Service.OnAir
import ShutterRadio.Proofs.Service.Shutdown
import ShutterRadio.Proofs.Program.Intake
import ShutterRadio.Proofs.Service.Hearing
import ShutterRadio.Proofs.Chip.Contents
import ShutterRadio.Proofs.Chip.Imprint
import ShutterRadio.Proofs.Chip.Patience
import ShutterRadio.Proofs.Chip.Tuning
import ShutterRadio.Proofs.Chip.Scripts
import ShutterRadio.Proofs.Chip.Keeping
import ShutterRadio.Proofs.Program.Return
import ShutterRadio.Proofs.Service.Listening
import ShutterRadio.Proofs.Program.Spare
import ShutterRadio.Proofs.Service.Crew
import ShutterRadio.Proofs.Service.Endless
import ShutterRadio.Proofs.Service.Terminal
import ShutterRadio.Proofs.Frame.Image
import ShutterRadio.Proofs.Frame.Parity
import ShutterRadio.Proofs.Reception.Settling
import ShutterRadio.Proofs.Remote.Gapless
import ShutterRadio.Proofs.Remote.Following
import ShutterRadio.Proofs.Service.Complaints
import ShutterRadio.Proofs.Remote.Annals
import ShutterRadio.Proofs.Remote.Routing
import ShutterRadio.Proofs.Program.Credit
import ShutterRadio.Proofs.Service.Solvency
import ShutterRadio.Proofs.Service.Announcements
import ShutterRadio.Proofs.Program.Amid
import ShutterRadio.Proofs.Service.Agenda
import ShutterRadio.Proofs.Service.Ending
import ShutterRadio.Proofs.Reception.Order
import ShutterRadio.Proofs.Burst.Refusal
import ShutterRadio.Proofs.Chip.Exchange
import ShutterRadio.Proofs.Chip.Transmission
import ShutterRadio.Proofs.Program.Posture
import ShutterRadio.Proofs.Service.Likeness
import ShutterRadio.Proofs.Service.Lights
import ShutterRadio.Proofs.Service.Indicator
import ShutterRadio.Proofs.Time.Waiting
import ShutterRadio.Proofs.Reception.Overflow
import ShutterRadio.Proofs.Remote.Pursuit
import ShutterRadio.Proofs.Remote.Refusals
import ShutterRadio.Proofs.Frame.Chaining
import ShutterRadio.Proofs.Frame.Errors
import ShutterRadio.Proofs.Chip.Rates
import ShutterRadio.Proofs.Remote.Pairing
