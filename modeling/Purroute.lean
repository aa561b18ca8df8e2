import Purroute.StickySession
import Purroute.HopOrder
import Purroute.Handlers
import Purroute.Carriers
import Purroute.Gate
import Purroute.WireUsername
import Purroute.Allowance
import Purroute.Metering
import Purroute.Gauge
import Purroute.Cuttings
import Purroute.Destination
import Purroute.Encoding
import Purroute.Passage
import Purroute.Admission
import Purroute.Login
import Purroute.Rejection
import Purroute.OwnRoute
import Purroute.DefaultRoute
import Purroute.Bodies
import Purroute.Forwarding
import Purroute.CompareExchange
import Purroute.Debits
import Purroute.Refresh
import Purroute.Tokens
import Purroute.Rounding
import Purroute.Splicing
import Purroute.Replies
import Purroute.Outcomes
import Purroute.Payload
import Purroute.Rebuilding
import Purroute.Delivery
import Purroute.Search
import Purroute.Verdict
import Purroute.Bounds
import Purroute.Malformed
import Purroute.ChainModes
import Purroute.Accounts
import Purroute.Rewriting
import Purroute.AbsoluteForm
import Purroute.Commands
import Purroute.BaseName
import Purroute.Assignments
import Purroute.Constraints
import Purroute.ConfiguredUsers
import Purroute.Identity
import Purroute.Negotiation
import Purroute.Pipes
import Purroute.Cascade
import Purroute.Database
import Purroute.TwoBackends
import Purroute.Bookkeeping
import Purroute.Lifetimes
import Purroute.Upstreams
import Purroute.Engine
import Purroute.Costs
import Purroute.Effort
import Purroute.Work
