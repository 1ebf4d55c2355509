import OrbitBhyve.Foundation.Parsing
import OrbitBhyve.Foundation.CounterMode
import OrbitBhyve.Foundation.Utf8
import OrbitBhyve.Foundation.Runs
import OrbitBhyve.Foundation.Effect
import OrbitBhyve.Foundation.Crc
import OrbitBhyve.Foundation.LastWriter
import OrbitBhyve.Foundation.Propagation
import OrbitBhyve.Python.Errors
import OrbitBhyve.Python.DateTime
import OrbitBhyve.Wire.Varint
import OrbitBhyve.Python.Rounding
import OrbitBhyve.Python.Floats
import OrbitBhyve.Python.Repr
import OrbitBhyve.Wire.Protobuf
import OrbitBhyve.Wire.Message
import OrbitBhyve.Wire.Stream
import OrbitBhyve.Wire.Scan
import OrbitBhyve.Wire.Checksum
import OrbitBhyve.Connection.Cipher
import OrbitBhyve.Connection.Notify
import OrbitBhyve.Connection.Reassembly
import OrbitBhyve.Connection.SelfHeal
import OrbitBhyve.Connection.Tasks
import OrbitBhyve.Connection.Orphans
import OrbitBhyve.Connection.IdleClose
import OrbitBhyve.Connection.Opening
import OrbitBhyve.Connection.TxCounter
import OrbitBhyve.Devices.State
import OrbitBhyve.Devices.Status
import OrbitBhyve.Devices.Observer
import OrbitBhyve.Devices.Conversions
import OrbitBhyve.Devices.Forgetting
import OrbitBhyve.Devices.Messages
import OrbitBhyve.Devices.Written
import OrbitBhyve.Devices.Programs
import OrbitBhyve.Devices.Schedule
import OrbitBhyve.Devices.World
import OrbitBhyve.Devices.Protobuf
import OrbitBhyve.Devices.Traffic
import OrbitBhyve.Devices.Registers
import OrbitBhyve.Devices.Settings
import OrbitBhyve.Devices.Packing
import OrbitBhyve.Devices.SyncDump
import OrbitBhyve.Devices.DumpOrder
import OrbitBhyve.Devices.Storing
import OrbitBhyve.Devices.EnableMask
import OrbitBhyve.Python.Text
import OrbitBhyve.Python.Value
import OrbitBhyve.Service.ProgramCall
import OrbitBhyve.Service.RoundTrip
import OrbitBhyve.Service.Totality
import OrbitBhyve.Devices.Silence
import OrbitBhyve.Devices.Confirmation
import OrbitBhyve.Devices.RainDelay
import OrbitBhyve.Devices.RainConfirmation
import OrbitBhyve.Devices.RainAnchor
import OrbitBhyve.Devices.ModeConfirmation
import OrbitBhyve.Devices.LinkFailure
import OrbitBhyve.Devices.Mesh
import OrbitBhyve.Devices.RunReport
import OrbitBhyve.Devices.Ht25
import OrbitBhyve.Devices.RunTraffic
import OrbitBhyve.Devices.MeasuredRuns
import OrbitBhyve.Coordinator.Update
import OrbitBhyve.Coordinator.Invariant
import OrbitBhyve.Coordinator.AutoClose
import OrbitBhyve.Coordinator.OffTimer
import OrbitBhyve.Coordinator.Bookkeeping
import OrbitBhyve.Entry.Merge
import OrbitBhyve.Entry.Flows
import OrbitBhyve.Entry.Histories
import OrbitBhyve.Entry.Shown
import OrbitBhyve.Entry.Diagnostics
import OrbitBhyve.Connection.Atomic
import OrbitBhyve.Devices.MeshFailure
import OrbitBhyve.Entry.Defaults
import OrbitBhyve.Devices.PollCount
import OrbitBhyve.Coordinator.Zones
import OrbitBhyve.Devices.FlowMeter
import OrbitBhyve.Foundation.WrapCounter
import OrbitBhyve.Devices.FlowCorruption
import OrbitBhyve.Devices.OffDrift
import OrbitBhyve.Coordinator.Cadence
import OrbitBhyve.Service.ProgramSize
import OrbitBhyve.Entry.Idempotence
import OrbitBhyve.Wire.FieldCalls
import OrbitBhyve.Entities.WaterUsed
import OrbitBhyve.Connection.Timers
import OrbitBhyve.Entities.Duration
import OrbitBhyve.Python.Case
import OrbitBhyve.Python.IntLiteral
import OrbitBhyve.Service.StartTimes
import OrbitBhyve.Devices.HubMesh
import OrbitBhyve.Cloud.Join
import OrbitBhyve.Cloud.Client
import OrbitBhyve.Cloud.Caching
import OrbitBhyve.Cloud.Outcomes
import OrbitBhyve.Entry.Build
import OrbitBhyve.Entry.Setup
import OrbitBhyve.Entry.InPlace
import OrbitBhyve.Entry.SetupRuns
import OrbitBhyve.Entry.Keys
import OrbitBhyve.Entry.Credentials
import OrbitBhyve.Entities.Platforms
import OrbitBhyve.Connection.Drain
import OrbitBhyve.Connection.Actuation
import OrbitBhyve.Devices.Repertoire
import OrbitBhyve.Wire.Scalars
import OrbitBhyve.Devices.Faults
import OrbitBhyve.Entities.FaultSensors
import OrbitBhyve.Devices.NextStart
import OrbitBhyve.Entities.NextRun
import OrbitBhyve.Devices.Battery
import OrbitBhyve.Entities.BatterySensors
import OrbitBhyve.Devices.Echoes
import OrbitBhyve.Foundation.Following
import OrbitBhyve.Devices.Valve
import OrbitBhyve.Coordinator.ValveLink
import OrbitBhyve.Foundation.Arcs
import OrbitBhyve.Connection.PadReuse
import OrbitBhyve.Foundation.Leases
import OrbitBhyve.Devices.FlowCoverage
import OrbitBhyve.Devices.Renewal
