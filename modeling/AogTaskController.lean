import AogTaskController.Framework.Loop
import AogTaskController.Framework.Machine
import AogTaskController.Framework.BlockLoop
import AogTaskController.Framework.BoundedWalk
import AogTaskController.Framework.Edges
import AogTaskController.Framework.Since
import AogTaskController.Framework.Episodes
import AogTaskController.Framework.LossyQueue
import AogTaskController.Framework.PackedFields
import AogTaskController.Framework.JsonValue
import AogTaskController.Framework.LongestPrefix
import AogTaskController.Framework.LeadBlocks
import AogTaskController.Framework.MaximalRuns
import AogTaskController.Framework.Replay
import AogTaskController.Framework.PeriodicGate
import AogTaskController.Framework.KeyedCache
import AogTaskController.Framework.Relay
import AogTaskController.Framework.DottedText
import AogTaskController.Framework.Announcements
import AogTaskController.Framework.DecimalText
import AogTaskController.Framework.AsciiText
import AogTaskController.Framework.FrontMoves
import AogTaskController.Framework.Reminders
import AogTaskController.Udp.ReceiveLoop
import AogTaskController.Udp.Termination
import AogTaskController.Udp.Bounds
import AogTaskController.Udp.Frame
import AogTaskController.Udp.ShownBytes
import AogTaskController.Udp.Delivery
import AogTaskController.Udp.ReceivedBytes
import AogTaskController.Udp.Framing
import AogTaskController.Udp.Rebinding
import AogTaskController.TaskController.ObjectPool
import AogTaskController.TaskController.ElementHierarchy
import AogTaskController.TaskController.ClientState
import AogTaskController.TaskController.Ancestors
import AogTaskController.TaskController.Activation
import AogTaskController.TaskController.MeasurementCommands
import AogTaskController.TaskController.SetpointCommands
import AogTaskController.TaskController.ValueCommands
import AogTaskController.TaskController.Server
import AogTaskController.TaskController.Sessions
import AogTaskController.TaskController.SetpointUpdate
import AogTaskController.TaskController.Setup
import AogTaskController.TaskController.ActualStates
import AogTaskController.TaskController.Geometry
import AogTaskController.TaskController.ActivationEffects
import AogTaskController.TaskController.ChunkErrors
import AogTaskController.TaskController.CondensedRoundTrip
import AogTaskController.TaskController.ActiveSessions
import AogTaskController.TaskController.Uploads
import AogTaskController.TaskController.WorkStatePulse
import AogTaskController.TaskController.LostUpdates
import AogTaskController.TaskController.SectionControl
import AogTaskController.TaskController.Addressing
import AogTaskController.TaskController.Subscriptions
import AogTaskController.TaskController.GnssQuality
import AogTaskController.TaskController.ElementMaps
import AogTaskController.TaskController.Representation
import AogTaskController.TaskController.ClosedLoop
import AogTaskController.TaskController.Settling
import AogTaskController.Application.PacketHandler
import AogTaskController.Application.SectionDemand
import AogTaskController.Application.Heartbeat
import AogTaskController.Application.HeartbeatFormat
import AogTaskController.Application.Speed
import AogTaskController.Application.DemandAlarm
import AogTaskController.Application.GnssFreshness
import AogTaskController.Application.DemandDescription
import AogTaskController.Application.HardwareMessage
import AogTaskController.Application.PeriodicTransmits
import AogTaskController.Application.DemandLog
import AogTaskController.Application.GuidanceDeviation
import AogTaskController.Application.ImplementDetails
import AogTaskController.Application.ImplementScan
import AogTaskController.Application.AddressConflict
import AogTaskController.Application.DemandLoop
import AogTaskController.VirtualTerminal.Texts
import AogTaskController.VirtualTerminal.Lengths
import AogTaskController.VirtualTerminal.SectionMap
import AogTaskController.VirtualTerminal.Client
import AogTaskController.VirtualTerminal.Screen
import AogTaskController.VirtualTerminal.Connection
import AogTaskController.AsyncLog.Queue
import AogTaskController.AsyncLog.LineBuffer
import AogTaskController.AsyncLog.Accounting
import AogTaskController.Configuration.Document
import AogTaskController.Configuration.Store
import AogTaskController.Configuration.SavedSettings
import AogTaskController.Configuration.Loading
import AogTaskController.Configuration.Rollback
