import EthercatSimulator.Adapter.Copley
import EthercatSimulator.Adapter.CopleyLaws
import EthercatSimulator.Adapter.Errors
import EthercatSimulator.Adapter.FKrCmmt
import EthercatSimulator.Adapter.FKrCmmtLaws
import EthercatSimulator.Adapter.ProcessData
import EthercatSimulator.Adapter.SdoAccess
import EthercatSimulator.Adapter.SubSteps
import EthercatSimulator.Adapter.UnitLaws
import EthercatSimulator.Base.Approach
import EthercatSimulator.Base.AtomicReplace
import EthercatSimulator.Base.Bytes
import EthercatSimulator.Base.Channel
import EthercatSimulator.Base.Climb
import EthercatSimulator.Base.Dict
import EthercatSimulator.Base.Exec
import EthercatSimulator.Base.Family
import EthercatSimulator.Base.Float
import EthercatSimulator.Base.Lines
import EthercatSimulator.Base.Log
import EthercatSimulator.Base.Progress
import EthercatSimulator.Base.Run
import EthercatSimulator.Base.Text
import EthercatSimulator.Base.TwoRuns
import EthercatSimulator.Behaviour.Acknowledge
import EthercatSimulator.Behaviour.Alike
import EthercatSimulator.Behaviour.AlikeCommands
import EthercatSimulator.Behaviour.CommandLaws
import EthercatSimulator.Behaviour.CycleTime
import EthercatSimulator.Behaviour.DemandLaws
import EthercatSimulator.Behaviour.Envelope
import EthercatSimulator.Behaviour.FeedbackLaws
import EthercatSimulator.Behaviour.FiniteLaws
import EthercatSimulator.Behaviour.Halt
import EthercatSimulator.Behaviour.HomingLaws
import EthercatSimulator.Behaviour.Interruption
import EthercatSimulator.Behaviour.MotionLaws
import EthercatSimulator.Behaviour.Moves
import EthercatSimulator.Behaviour.Positioning
import EthercatSimulator.Behaviour.Reference
import EthercatSimulator.Behaviour.RestLaws
import EthercatSimulator.Behaviour.Servo
import EthercatSimulator.Behaviour.ServoLaws
import EthercatSimulator.Behaviour.SetpointLatch
import EthercatSimulator.Behaviour.SoundLaws
import EthercatSimulator.Behaviour.StateMachine
import EthercatSimulator.Behaviour.StatusLaws
import EthercatSimulator.Behaviour.TargetWindow
import EthercatSimulator.Behaviour.Tracking
import EthercatSimulator.Behaviour.UpdateLaws
import EthercatSimulator.Behaviour.WindowTime
import EthercatSimulator.Configuration.Environment
import EthercatSimulator.Configuration.EnvironmentLaws
import EthercatSimulator.Configuration.Rearrangement
import EthercatSimulator.Diagnostics.Fault
import EthercatSimulator.Diagnostics.FaultLaws
import EthercatSimulator.Diagnostics.LifeCycle
import EthercatSimulator.FKr.Requests
import EthercatSimulator.FKr.Resumption
import EthercatSimulator.FKr.StatuswordViews
import EthercatSimulator.FKr.TargetInfluence
import EthercatSimulator.FKr.VoltageRemoval
import EthercatSimulator.FKr.WireForms
import EthercatSimulator.Fleet.CycleTimes
import EthercatSimulator.Fleet.Drive
import EthercatSimulator.Fleet.FeedbackRange
import EthercatSimulator.Fleet.Host
import EthercatSimulator.Fleet.HostLaws
import EthercatSimulator.Fleet.HostSession
import EthercatSimulator.Fleet.Migration
import EthercatSimulator.Fleet.ModelFleet
import EthercatSimulator.Fleet.ProcessImage
import EthercatSimulator.Fleet.Protocol
import EthercatSimulator.Fleet.SavedRestores
import EthercatSimulator.Fleet.SdoRequests
import EthercatSimulator.Fleet.SdoTransfer
import EthercatSimulator.Fleet.Session
import EthercatSimulator.Fleet.StartUp
import EthercatSimulator.Fleet.WireForms
import EthercatSimulator.Ipc.AsyncModelClient
import EthercatSimulator.Ipc.AsyncModelClientLaws
import EthercatSimulator.Ipc.ClientSteps
import EthercatSimulator.Ipc.Hex
import EthercatSimulator.Ipc.Json
import EthercatSimulator.Ipc.ModelClient
import EthercatSimulator.Ipc.ModelRpc
import EthercatSimulator.Profile.Bridge
import EthercatSimulator.Profile.Codec
import EthercatSimulator.Profile.Numeric
import EthercatSimulator.Profile.Objects
import EthercatSimulator.Profile.PdoImage
import EthercatSimulator.Profile.RoleIndex
import EthercatSimulator.Profile.RoleIndexLaws
import EthercatSimulator.Profile.Sound
import EthercatSimulator.Profile.Units
import EthercatSimulator.Profile.VirtualOd
import EthercatSimulator.Profile.WireRange
import EthercatSimulator.Runtime.Axis
import EthercatSimulator.Runtime.AxisLaws
import EthercatSimulator.Runtime.Containment
import EthercatSimulator.Runtime.FaultLifeCycle
import EthercatSimulator.Runtime.FmiRunner
import EthercatSimulator.Runtime.FmiRunnerLaws
import EthercatSimulator.Runtime.ModelLaws
import EthercatSimulator.Runtime.PlainCycle
import EthercatSimulator.Runtime.Recovery
import EthercatSimulator.Runtime.Run
import EthercatSimulator.Runtime.SdoWrite
import EthercatSimulator.Slave.Delegation
import EthercatSimulator.Slave.FixedMapping
import EthercatSimulator.Slave.Fixture
import EthercatSimulator.Slave.FixtureLaws
import EthercatSimulator.Slave.FrameRouting
import EthercatSimulator.Slave.HostFailure
import EthercatSimulator.Slave.MainLoop
import EthercatSimulator.Slave.PdoTarget
import EthercatSimulator.Slave.SdoExchange
import EthercatSimulator.Slave.SdoGateway
import EthercatSimulator.Slave.SdoGatewayLaws
import EthercatSimulator.Slave.SdoReplies
import EthercatSimulator.Slave.ServedDictionary
import EthercatSimulator.Storage.CrashRecovery
import EthercatSimulator.Storage.FailedSave
import EthercatSimulator.Storage.LoadLaws
import EthercatSimulator.Storage.Migrate
import EthercatSimulator.Storage.MigrationLaws
import EthercatSimulator.Storage.MigrationRun
import EthercatSimulator.Storage.ParameterStore
import EthercatSimulator.Storage.RestoreLaws
import EthercatSimulator.Storage.SaveLaws
import EthercatSimulator.Storage.SnapshotLaws
