import TcpSim.Engine.EndToEnd
import TcpSim.Engine.DelimitedReplay
import TcpSim.Engine.JsonLines
import TcpSim.Engine.SinkSizes
import TcpSim.Engine.RotationFailures
import TcpSim.Engine.Backpressure
import TcpSim.Engine.SinkDrops
import TcpSim.Engine.SinkAccount
import TcpSim.Engine.SchedulerRuns
import TcpSim.Engine.SwapEras
import TcpSim.Gui.RecordFrames
import TcpSim.Gui.FileBytes
import TcpSim.Gui.StartFailures
import TcpSim.Engine.ReceiverReleases
import TcpSim.Gui.RoleRuns
import TcpSim.Gui.SenderOrphans
import TcpSim.Transport.TcpClientPayloads
import TcpSim.Transport.Reconnects
import TcpSim.Transport.RecipientWindow
import TcpSim.Transport.SlowClients
import TcpSim.Transport.LateJoiners
import TcpSim.Transport.Isolation
import TcpSim.Transport.Teardowns
import TcpSim.Transport.ReadyClients
import TcpSim.Gui.WaitingLoop
import TcpSim.Gui.SendOrder
import TcpSim.Gui.FileGenerations
import TcpSim.Config.ConfigFile
import TcpSim.Engine.BufferedBytes
import TcpSim.Engine.Jumps
import TcpSim.Engine.ScanProgress
import TcpSim.Transport.BackoffSchedule
import TcpSim.Engine.QueueItems
import TcpSim.Gui.LineControlRuns
import TcpSim.Engine.Timestamp
import TcpSim.Gui.LogPanel
import TcpSim.Engine.FilteredPeers
import TcpSim.Engine.DatagramPath
import TcpSim.Transport.Subscriptions
import TcpSim.Transport.CacheSweeps
import TcpSim.Engine.ClientReception
import TcpSim.Engine.ClientPauses
import TcpSim.Engine.LineDelivery
import TcpSim.Gui.FileDelivery
import TcpSim.Engine.AutoLoop
import TcpSim.Gui.LogFiles
import TcpSim.Gui.FilePush
import TcpSim.Gui.StatusWindow
import TcpSim.Engine.SubscribedPath
