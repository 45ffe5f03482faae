import PssAsio.PacketFraming
import PssAsio.TcpSessionClose
import PssAsio.TcpSessionOrder
import PssAsio.KcpServerDelivery
import PssAsio.CommunicationRegistry
import PssAsio.ServerLinksMarker
import PssAsio.ServerLinksUnique
import PssAsio.IoBridgeAdmission
import PssAsio.WebSocketFragments
import PssAsio.WebSocketStream
import PssAsio.HttpDelivery
import PssAsio.DisconnectFence
import PssAsio.SessionLocksDeadlock
import PssAsio.UdpEndpointMaps
import PssAsio.TcpBridgeStream
import PssAsio.TmsStartup
import PssAsio.PluginThreadsAgree
import PssAsio.TmsShutdown
import PssAsio.ModuleTables
import PssAsio.ReadBufferSafety
import PssAsio.ReadBufferSeeking
import PssAsio.DatagramPackets
import PssAsio.NetSvrListeners
import PssAsio.NetSvrStarts
import PssAsio.SessionWithdrawals
import PssAsio.LateCloses
import PssAsio.FailedWrites
import PssAsio.UdpServerSends
import PssAsio.UdpClientSends
import PssAsio.ParserStream
import PssAsio.BridgeLoss
import PssAsio.IoBridgeDeletion
import PssAsio.SessionAddrMap
import PssAsio.TimerPunctuality
import PssAsio.IoContextPool
import PssAsio.DeadLockAlarm
import PssAsio.IdleDetection
import PssAsio.FrameTimerCancel
import PssAsio.KcpCreation
import PssAsio.TtySends
import PssAsio.ParserIds
import PssAsio.FrameTimerRegistry
import PssAsio.SessionBufferQueue
import PssAsio.LogicMakerTemplates
import PssAsio.SyncLogicSplit
import PssAsio.KcpReleases
import PssAsio.LogicMakerMessages
import PssAsio.ThreadQueue
import PssAsio.WebSocketHandshake
