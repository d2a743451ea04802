import SmallServer.ListScan
import SmallServer.Feeding
import SmallServer.HttpValues
import SmallServer.RequestParser
import SmallServer.RequestGrammar
import SmallServer.RequestSegmentation
import SmallServer.RequestErrors
import SmallServer.OrderedDict
import SmallServer.Http2Frames
import SmallServer.Http2Protocol
import SmallServer.Runs
import SmallServer.Http2Effects
import SmallServer.Http2Outbound
import SmallServer.Http2Tables
import SmallServer.Http2Batches
import SmallServer.Http2Dispatch
import SmallServer.Http2Admission
import SmallServer.KernelTransport
import SmallServer.Http2Wire
import SmallServer.Server
import SmallServer.ServerEffects
import SmallServer.ServerOperations
import SmallServer.ServerSteps
import SmallServer.ServerOwnership
import SmallServer.ServerFinalization
import SmallServer.WebSocketFrames
import SmallServer.WebSocket
import SmallServer.WebSocketTasks
import SmallServer.WebSocketEffects
import SmallServer.WebSocketSteps
import SmallServer.WebSocketHandshake
import SmallServer.WebSocketClosing
import SmallServer.WebSocketSenders
import SmallServer.WebSocketWire
import SmallServer.Http2Watchdog
import SmallServer.Routing
import SmallServer.RoutingTables
import SmallServer.RoutingDispatch
import SmallServer.RoutingDeadlines
import SmallServer.RoutingOrder
import SmallServer.RoutingRegistration
import SmallServer.RouteObserver
import SmallServer.CleanupTransaction
import SmallServer.Adapters
import SmallServer.SendDelivery
import SmallServer.ResponseWire
import SmallServer.Http2Guarantees
import SmallServer.Http2Isolation
import SmallServer.ServerCleanup
import SmallServer.ServerTasks
import SmallServer.WebSocketMail
import SmallServer.WebSocketMoves
import SmallServer.WebSocketMailboxes
import SmallServer.WebSocketPings
import SmallServer.WebSocketDeadlines
import SmallServer.WebSocketFragments
import SmallServer.WebSocketDelivery
import SmallServer.Http2Recording
import SmallServer.Http2Delivery
import SmallServer.Http2Drain
import SmallServer.Http2Splitting
import SmallServer.WebSocketGuard
import SmallServer.WebSocketSources
import SmallServer.WebSocketHearing
import SmallServer.WebSocketListening
import SmallServer.WebSocketSegmentation
import SmallServer.RequestTargets
import SmallServer.ResponseFraming
import SmallServer.Raising
import SmallServer.ServerStartup
import SmallServer.StartupCleanup
import SmallServer.StartupStages
import SmallServer.StartupAtomicity
import SmallServer.Base64
import SmallServer.Sha1
import SmallServer.WebSocketUpgrade
import SmallServer.Http1Connection
import SmallServer.Http1Exchange
import SmallServer.RoutePatterns
import SmallServer.Http1Service
import SmallServer.ServerCapacity
import SmallServer.ServerLifetime
import SmallServer.TransportStreams
