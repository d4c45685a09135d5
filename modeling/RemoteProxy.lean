import RemoteProxy.Common.FrameCodec
import RemoteProxy.Common.JsonObjects
import RemoteProxy.Common.JsonPackets
import RemoteProxy.Common.SlipDataProcessor
import RemoteProxy.Foundation.Conduits
import RemoteProxy.Foundation.Delimited
import RemoteProxy.Foundation.Probe
import RemoteProxy.Foundation.Runs
import RemoteProxy.Foundation.Sessions
import RemoteProxy.Foundation.Stuffing
import RemoteProxy.Foundation.Switchboard
import RemoteProxy.Foundation.Utf8
import RemoteProxy.Foundation.Watchdog
import RemoteProxy.Library.ClientSwitch
import RemoteProxy.Library.Correlation
import RemoteProxy.Library.Following
import RemoteProxy.Library.FrameStream
import RemoteProxy.Library.Handshake
import RemoteProxy.Library.JsonReassembly
import RemoteProxy.Library.JsonRpcClient
import RemoteProxy.Library.JsonSplitting
import RemoteProxy.Library.KeepAlive
import RemoteProxy.Library.Mirror
import RemoteProxy.Library.Network
import RemoteProxy.Library.Notifications
import RemoteProxy.Library.Passage
import RemoteProxy.Library.ProxyConnection
import RemoteProxy.Library.Reconnection
import RemoteProxy.Library.ServerHost
import RemoteProxy.Library.ServerMessages
import RemoteProxy.Library.ServerSession
import RemoteProxy.Library.ServerSwitch
import RemoteProxy.Library.Session
import RemoteProxy.Library.SlipMessages
import RemoteProxy.Library.SlipSessions
import RemoteProxy.Library.Superseded
import RemoteProxy.Library.SupersededClient
import RemoteProxy.Library.SupersededServer
import RemoteProxy.Library.TunnelProxyRemoteConnection
import RemoteProxy.Library.TunnelProxySocket
import RemoteProxy.Library.TunnelProxySocketServer
import RemoteProxy.Library.TunnelSockets
import RemoteProxy.Library.Uplink
import RemoteProxy.Library.WebSocket
import RemoteProxy.Monitor.MonitorClient
import RemoteProxy.Monitor.MonitorServer
import RemoteProxy.Proxy.Accounts
import RemoteProxy.Proxy.Acts
import RemoteProxy.Proxy.AddressAllocation
import RemoteProxy.Proxy.AddressCollision
import RemoteProxy.Proxy.Answers
import RemoteProxy.Proxy.Arrivals
import RemoteProxy.Proxy.AsyncReplies
import RemoteProxy.Proxy.Attribution
import RemoteProxy.Proxy.Client
import RemoteProxy.Proxy.Connections
import RemoteProxy.Proxy.Departures
import RemoteProxy.Proxy.Deployment
import RemoteProxy.Proxy.Description
import RemoteProxy.Proxy.DisconnectClient
import RemoteProxy.Proxy.Downlink
import RemoteProxy.Proxy.Effects
import RemoteProxy.Proxy.Engine
import RemoteProxy.Proxy.FailedRequests
import RemoteProxy.Proxy.Framing
import RemoteProxy.Proxy.Handlers
import RemoteProxy.Proxy.Handshake
import RemoteProxy.Proxy.InactiveTimer
import RemoteProxy.Proxy.Isolation
import RemoteProxy.Proxy.JsonHandler
import RemoteProxy.Proxy.JsonTypes
import RemoteProxy.Proxy.KilledConnection
import RemoteProxy.Proxy.Leaving
import RemoteProxy.Proxy.Limits
import RemoteProxy.Proxy.Messages
import RemoteProxy.Proxy.Microsteps
import RemoteProxy.Proxy.Orphans
import RemoteProxy.Proxy.Packets
import RemoteProxy.Proxy.ProtocolSwitch
import RemoteProxy.Proxy.Registered
import RemoteProxy.Proxy.Registry
import RemoteProxy.Proxy.ServerConnection
import RemoteProxy.Proxy.ServerStream
import RemoteProxy.Proxy.SlipRecovery
import RemoteProxy.Proxy.Statistics
import RemoteProxy.Proxy.Switchboard
import RemoteProxy.Proxy.Templates
import RemoteProxy.Proxy.Throughput
import RemoteProxy.Proxy.Transports
import RemoteProxy.Proxy.TunnelProxyServer
import RemoteProxy.Qt.ByteArray
import RemoteProxy.Qt.Json
import RemoteProxy.Qt.Types
import RemoteProxy.TunnelClient.ServerConnection
