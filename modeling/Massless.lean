import Massless.Python.Bytes
import Massless.Python.Dict
import Massless.Python.Effect
import Massless.Python.Futures
import Massless.Python.Layers
import Massless.Python.Simulation
import Massless.Transition.Machine
import Massless.Transition.Rank
import Massless.Transition.Refinement
import Massless.Search.FirstMatch
import Massless.Router.Refinement
import Massless.Router.Patterns
import Massless.Router.Urlconf
import Massless.Router.Metadata
import Massless.Router.Translation
import Massless.Request.Promotion
import Massless.Request.Attributes
import Massless.Request.Failure
import Massless.Request.Target
import Massless.Request.Proxy
import Massless.Request.Headers
import Massless.Response.Fold
import Massless.Response.Lazy
import Massless.Response.Framing
import Massless.Response.RoundTrip
import Massless.Json.Text
import Massless.Response.JsonBody
import Massless.Protocol.Teardown
import Massless.Protocol.Segmentation
import Massless.Protocol.Sentinel
import Massless.Protocol.Order
import Massless.Protocol.Graceful
import Massless.Protocol.Reassembly
import Massless.Protocol.Inflight
import Massless.Protocol.Interim
import Massless.Protocol.Progress
import Massless.Protocol.Closing
import Massless.Protocol.Transcript
import Massless.Protocol.Refinement
import Massless.Supervisor.Reap
import Massless.Chain.Agreement
import Massless.Chain.Transparent
import Massless.Middleware.Layers
import Massless.Middleware.Hooks
import Massless.Middleware.Anywhere
import Massless.Middleware.Passed
import Massless.Middleware.Representation
import Massless.Middleware.Secured
import Massless.Middleware.Redirects
import Massless.Middleware.Sent
import Massless.Middleware.Served
import Massless.Request.Reads
import Massless.Request.Forwarded
