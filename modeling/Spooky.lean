import Spooky.Lib.KeyedList
import Spooky.Lib.LongestPrefix
import Spooky.Lib.BinarySearch
import Spooky.Lib.Text
import Spooky.Lib.Fallible
import Spooky.Lib.Ordered
import Spooky.Lib.IndexCache
import Spooky.Lib.UniqueKeys
import Spooky.Lib.Counters
import Spooky.Lib.Rotation
import Spooky.Config.BackendEndpoint
import Spooky.Lb.Backend
import Spooky.Lb.HealthRun
import Spooky.Lb.BackendPool
import Spooky.Lb.PoolInvariants
import Spooky.Lb.Hash
import Spooky.Lb.ConsistentHash
import Spooky.Lb.Disruption
import Spooky.Lb.Picks
import Spooky.Lb.Alternate
import Spooky.Lb.Primary
import Spooky.Lb.UpstreamRun
import Spooky.Edge.TokenBucket
import Spooky.Edge.CidRadix
import Spooky.Edge.ConnectionRoutes
import Spooky.Edge.Limiters
import Spooky.Edge.Admission
import Spooky.Edge.CircuitBreaker
import Spooky.Edge.LbKey
import Spooky.Edge.Watchdog
import Spooky.Edge.RequestEnvelope
import Spooky.Edge.Routing.Matcher
import Spooky.Edge.Routing.Trie
import Spooky.Edge.Routing.Scan
import Spooky.Edge.Routing.Index
import Spooky.Config.RouteMatch
import Spooky.Bridge.Headers
import Spooky.Bridge.Request
import Spooky.Bridge.HeaderFlow
import Spooky.Errors.Retry
import Spooky.Edge.RetryBudget
import Spooky.Edge.Dispatch
import Spooky.Edge.ScopedRateLimit
import Spooky.Edge.PreAdmission
import Spooky.Edge.DnsRefresh
