import SiphonHttp.Text
import SiphonHttp.Template
import SiphonHttp.Parse
import SiphonHttp.Http
import SiphonHttp.Net
import SiphonHttp.PathParams
import SiphonHttp.Request
import SiphonHttp.Dispatch
import SiphonHttp.Guards
import SiphonHttp.Chain
import SiphonHttp.Cursor
import SiphonHttp.Der
import SiphonHttp.X509
import SiphonHttp.Certificate
import SiphonHttp.Config
import SiphonHttp.Routes
import SiphonHttp.Server
import SiphonHttp.Isolation
import SiphonHttp.BodyLimit
import SiphonHttp.Settings
import SiphonHttp.PoolReload
import SiphonHttp.ListenerReload
import SiphonHttp.Percent
import SiphonHttp.Decoding
import SiphonHttp.Forwarded
import SiphonHttp.Matching
import SiphonHttp.PathValues
import SiphonHttp.Patterns
import SiphonHttp.Memo
import SiphonHttp.Outbound
import SiphonHttp.Tls
import SiphonHttp.LastGood
import SiphonHttp.Tasks
import SiphonHttp.Admission
import SiphonHttp.Limit
import SiphonHttp.Rfc4514
import SiphonHttp.DistinguishedName
import SiphonHttp.Overwrite
import SiphonHttp.Query
import SiphonHttp.NameReader
import SiphonHttp.ObjectIdentifier
import SiphonHttp.Uri
import SiphonHttp.Origin
import SiphonHttp.ClientFiles
import SiphonHttp.Recovery
import SiphonHttp.Creation
import SiphonHttp.Validation
import SiphonHttp.Startup
import SiphonHttp.Sockets
import SiphonHttp.Listening
import SiphonHttp.Raising
import SiphonHttp.Walk
import SiphonHttp.Slices
import SiphonHttp.Trust
import SiphonHttp.Relay
import SiphonHttp.Oneshot
import SiphonHttp.Delivery
import SiphonHttp.Flight
import SiphonHttp.Accounts
import SiphonHttp.Landing
import SiphonHttp.Lifecycle
import SiphonHttp.Exchanges
import SiphonHttp.Script
import SiphonHttp.Boundary
import SiphonHttp.Addresses
import SiphonHttp.Dscp
import SiphonHttp.Identity
import SiphonHttp.Crossing
import SiphonHttp.Traffic
import SiphonHttp.Steady
import SiphonHttp.Documented
