import SigmaMedia.Base.Exec
import SigmaMedia.Base.Avoids
import SigmaMedia.Base.Trace
import SigmaMedia.Base.Bytes
import SigmaMedia.Base.Text
import SigmaMedia.Base.Reader
import SigmaMedia.Base.Paths
import SigmaMedia.Base.Net
import SigmaMedia.Base.IpText
import SigmaMedia.Base.BufWriter
import SigmaMedia.Base.Tlv
import SigmaMedia.Base.Store
import SigmaMedia.Base.Leases
import SigmaMedia.Base.Talk
import SigmaMedia.Base.Mailbox
import SigmaMedia.Core.Sdp.Lines
import SigmaMedia.Core.Sdp.Resolver
import SigmaMedia.Core.Sdp.Format
import SigmaMedia.Core.Http
import SigmaMedia.Core.Response
import SigmaMedia.Core.Stun
import SigmaMedia.Core.Rtp
import SigmaMedia.Core.Thumbnail
import SigmaMedia.Core.Client
import SigmaMedia.Core.Registry
import SigmaMedia.Core.Server
import SigmaMedia.Core.MainLoop
import SigmaMedia.Core.Config
import SigmaMedia.Core.HttpServer
import SigmaMedia.Core.System
import SigmaMedia.Theory.HttpBody
import SigmaMedia.Theory.HttpMessages
import SigmaMedia.Theory.Negotiation
import SigmaMedia.Theory.Stun.Decode
import SigmaMedia.Theory.Stun.Encode
import SigmaMedia.Theory.Stun.Response
import SigmaMedia.Theory.Stun.Trailing
import SigmaMedia.Theory.Stun.Peer
import SigmaMedia.Theory.Stun.Requests
import SigmaMedia.Theory.Sdp.Sections
import SigmaMedia.Theory.Sdp.Search
import SigmaMedia.Theory.Sdp.Roles
import SigmaMedia.Theory.Sdp.Credentials
import SigmaMedia.Theory.Sdp.Unknown
import SigmaMedia.Theory.Sdp.Viewer
import SigmaMedia.Theory.Sdp.Permuted
import SigmaMedia.Theory.Sdp.Printed
import SigmaMedia.Theory.Sdp.RoundTrip
import SigmaMedia.Theory.Sdp.Answer
import SigmaMedia.Theory.Rtp
import SigmaMedia.Theory.Thumbnail.Collect
import SigmaMedia.Theory.Thumbnail.Packets
import SigmaMedia.Theory.Thumbnail.Fragments
import SigmaMedia.Theory.Thumbnail.Stream
import SigmaMedia.Theory.Thumbnail.Blocks
import SigmaMedia.Theory.Thumbnail.Bearings
import SigmaMedia.Theory.Registry.Directory
import SigmaMedia.Theory.Registry.Refine
import SigmaMedia.Theory.Expects
import SigmaMedia.Theory.Registry.Safety
import SigmaMedia.Theory.Registry.Routing
import SigmaMedia.Theory.Registry.Indexes
import SigmaMedia.Theory.Registry.Sweep
import SigmaMedia.Theory.Forwarding
import SigmaMedia.Theory.Integrity
import SigmaMedia.Theory.Handshake
import SigmaMedia.Theory.Registry.Roll
import SigmaMedia.Theory.Registry.Lifetimes
import SigmaMedia.Theory.Registry.Origins
import SigmaMedia.Theory.Registry.Sessions
import SigmaMedia.Theory.Registry.Destinations
import SigmaMedia.Theory.Registry.Connections
import SigmaMedia.Theory.Registry.Thumbnails
import SigmaMedia.Theory.System.Jobs
import SigmaMedia.Theory.System.Runs
import SigmaMedia.Theory.System.Alone
import SigmaMedia.Theory.System.Serving
import SigmaMedia.Theory.System.Access
import SigmaMedia.Theory.System.Reports
import SigmaMedia.Theory.System.Responses
import SigmaMedia.Theory.System.Storage
