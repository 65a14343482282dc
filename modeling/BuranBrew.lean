import BuranBrew.Host.ControlLoop
import BuranBrew.Host.IdleDecision
import BuranBrew.Host.Interlock
import BuranBrew.Host.ReportedState
import BuranBrew.Host.Shutdown
import BuranBrew.Host.Reversal
import BuranBrew.Host.UpdateInterval
import BuranBrew.Host.SteadyDuty
import BuranBrew.Host.SlowCommands
import BuranBrew.Host.NonInterference
import BuranBrew.Telemetry.InOrder
import BuranBrew.Telemetry.BadEntry
import BuranBrew.Observer.Arbitration
import BuranBrew.Observer.StaleStops
import BuranBrew.Observer.Capture
import BuranBrew.Observer.Samples
import BuranBrew.Telemetry.RedisPort
import BuranBrew.Telemetry.AlertTest
import BuranBrew.Host.AntiWindup
import BuranBrew.Host.IntegralJump
import BuranBrew.Host.EffortOrder
import BuranBrew.Host.ReversalProtocol
import BuranBrew.Host.MinimumPulse
import BuranBrew.Host.Symmetry
import BuranBrew.Host.SensorFailures
import BuranBrew.Host.Heartbeat
import BuranBrew.Telemetry.RoundTrip
import BuranBrew.Telemetry.Ownership
import BuranBrew.Telemetry.OneArchiver
import BuranBrew.Device.Gate
import BuranBrew.Device.Bursts
import BuranBrew.Host.Endings
import BuranBrew.Host.Pacing
import BuranBrew.Brewery.Archive
