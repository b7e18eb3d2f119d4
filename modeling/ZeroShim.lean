import ZeroShim.Classify
import ZeroShim.Config
import ZeroShim.Hub
import ZeroShim.Intercept.GetTransaction
import ZeroShim.Intercept.Inspect
import ZeroShim.Intercept.LocalTxid
import ZeroShim.Intercept.Replay
import ZeroShim.Intercept.Send
import ZeroShim.Intercept.Unframe
import ZeroShim.Library.Budget
import ZeroShim.Library.Bytes
import ZeroShim.Library.Channel
import ZeroShim.Library.Cycle
import ZeroShim.Library.FiniteMap
import ZeroShim.Library.FixedFrame
import ZeroShim.Library.Holder
import ZeroShim.Library.Oneshot
import ZeroShim.Library.Protobuf
import ZeroShim.Library.Purge
import ZeroShim.Library.Reader
import ZeroShim.Library.Segment
import ZeroShim.Library.Traced
import ZeroShim.Library.Transition
import ZeroShim.Library.Trim
import ZeroShim.Library.Unwinding
import ZeroShim.Library.WritesBack
import ZeroShim.Nym.Accounting
import ZeroShim.Nym.Calls
import ZeroShim.Nym.Carriage
import ZeroShim.Nym.Correlate
import ZeroShim.Nym.Counters
import ZeroShim.Nym.Deadlines
import ZeroShim.Nym.Deadlock
import ZeroShim.Nym.Dispatch
import ZeroShim.Nym.Driver
import ZeroShim.Nym.Embedded
import ZeroShim.Nym.Faithful
import ZeroShim.Nym.Gateways
import ZeroShim.Nym.Identity
import ZeroShim.Nym.Lifecycle
import ZeroShim.Nym.Liveness
import ZeroShim.Nym.Lookup
import ZeroShim.Nym.Mixnet
import ZeroShim.Nym.Outbound
import ZeroShim.Nym.Pacing
import ZeroShim.Nym.Patience
import ZeroShim.Nym.Polled
import ZeroShim.Nym.Published
import ZeroShim.Nym.Rebuild
import ZeroShim.Nym.Replies
import ZeroShim.Nym.Rotation
import ZeroShim.Nym.Safety
import ZeroShim.Nym.Shutdown
import ZeroShim.Nym.SizeHiding
import ZeroShim.Nym.Status
import ZeroShim.Nym.Submit
import ZeroShim.Nym.Supervisor
import ZeroShim.Nym.Sweep
import ZeroShim.Nym.Teardown
import ZeroShim.Nym.Timed
import ZeroShim.Nym.Transport
import ZeroShim.Nym.Turns
import ZeroShim.Nym.Window
import ZeroShim.Proxy.AccessLog
import ZeroShim.Proxy.Answers
import ZeroShim.Proxy.Connection
import ZeroShim.Proxy.Drain
import ZeroShim.Proxy.Errand
import ZeroShim.Proxy.Handle
import ZeroShim.Proxy.Http
import ZeroShim.Proxy.Listener
import ZeroShim.Proxy.Lookups
import ZeroShim.Proxy.Pool
import ZeroShim.Proxy.Routes
import ZeroShim.Proxy.Served
import ZeroShim.Proxy.Upstream
import ZeroShim.Proxy.VerdictLog
import ZeroShim.Relay.Reports
import ZeroShim.Relay.Seats
import ZeroShim.Relay.Sides
import ZeroShim.Startup
import ZeroShim.Wire.Codec
import ZeroShim.Wire.Frames
import ZeroShim.Zcash.Canonical
import ZeroShim.Zcash.Encoding
import ZeroShim.Zcash.Shielded
import ZeroShim.Zcash.Transaction
import ZeroShim.Zcash.Transparent
import ZeroShim.Zcash.Written
