import VntClient.GaloisField
import VntClient.ErasureCode
import VntClient.FecPacket
import VntClient.Compression
import VntClient.EnhancedInbound
import VntClient.FecBatch
import VntClient.FecDelivery
import VntClient.Inbound
import VntClient.P2pInbound
import VntClient.ServerInbound
import VntClient.FecDispatch
import VntClient.NonceOrders
import VntClient.PeerNetwork
import VntClient.ProfileSessions
import VntClient.ProfileEditing
import VntClient.Reconnect
import VntClient.RelayProbe
import VntClient.RouteConcurrency
import VntClient.Broadcast
import VntClient.HttpService
import VntClient.InternalNat
import VntClient.PayloadRoundTrip
import VntClient.PeerTraffic
import VntClient.Noninterference
import VntClient.HeaderBinding
import VntClient.CompressionSettings
import VntClient.RouteOrder
import VntClient.RouteInvariant
import VntClient.RouteOwners
import VntClient.RouteLoops
import VntClient.FecRejection
import VntClient.FecTotality
import VntClient.FecOnce
import VntClient.FecExpiry
import VntClient.FecGroups
import VntClient.RttArithmetic
import VntClient.TaskGroup
import VntClient.RpcMatching
import VntClient.PunchBackoff
import VntClient.UdpNat
import VntClient.SubnetRoutes
import VntClient.DashboardSummary
import VntClient.BatchConnect
import VntClient.IcmpNat
import VntClient.QuicInbound
import VntClient.PacketLoss
import VntClient.PunchInfo
import VntClient.Addresses
import VntClient.ConfigLoaders
import VntClient.ProfileCreation
import VntClient.ProfileToml
import VntClient.TransmissionInvariant
import VntClient.ControlMessage
import VntClient.TunnelStreams
import VntClient.ServerLinks
import VntClient.PunchProtocol
import VntClient.Statistics
import VntClient.StunConnections
import VntClient.ServerRpc
import VntClient.FilePaths
import VntClient.StaticFiles
import VntClient.WebRestart
