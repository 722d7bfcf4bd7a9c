import MediasoupCpp.Client.Downlink
import MediasoupCpp.Client.Drain
import MediasoupCpp.Client.Sources
import MediasoupCpp.Client.WsReader
import MediasoupCpp.Client.WsRequests
import MediasoupCpp.Media.Depacketizer
import MediasoupCpp.Media.RecorderTimes
import MediasoupCpp.Media.Recording
import MediasoupCpp.Ortc.Negotiation
import MediasoupCpp.Qos.Admission
import MediasoupCpp.Qos.DemandSum
import MediasoupCpp.Qos.Levels
import MediasoupCpp.Qos.OverrideStore
import MediasoupCpp.Qos.PlanningPass
import MediasoupCpp.Qos.Policy
import MediasoupCpp.Qos.Visibility
import MediasoupCpp.Registry.Ownership
import MediasoupCpp.Registry.Redirect
import MediasoupCpp.Room.JoinFailure
import MediasoupCpp.Room.OverrideHold
import MediasoupCpp.Room.PublishFailure
import MediasoupCpp.Room.Recordings
import MediasoupCpp.Signaling.RateLimit
import MediasoupCpp.Signaling.SocketMaps
import MediasoupCpp.Worker.ChannelEnd
import MediasoupCpp.Worker.EventEmitter
import MediasoupCpp.Worker.Respawn
import MediasoupCpp.Worker.TaskLoop
