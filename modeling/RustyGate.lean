import RustyGate.App.Throttling
import RustyGate.Auth.Rotation
import RustyGate.Cache.Sqlite
import RustyGate.Gateway.Probes
import RustyGate.Providers.AnthropicRequest
import RustyGate.Providers.Chunking
import RustyGate.Providers.ToolAttribution
import RustyGate.Providers.Usage
import RustyGate.RateLimit.Redis
import RustyGate.RateLimit.RetryAfter
import RustyGate.Routes.CacheSharing
import RustyGate.Routes.Chained
import RustyGate.Routes.FailedAttempts
import RustyGate.Routes.InFlight
import RustyGate.Routes.ModelTruth
import RustyGate.Routes.RequestCounts
import RustyGate.Routes.Stats
import RustyGate.Routing.AffinityIndex
import RustyGate.Routing.Backoff
import RustyGate.Routing.BreakerRuns
import RustyGate.Routing.CircuitInvariant
import RustyGate.Routing.Latency
import RustyGate.Routing.RecentErrors
import RustyGate.Routing.Rendezvous
import RustyGate.Routing.StreamAgreement
import RustyGate.Storage.Agreement
import RustyGate.Storage.Retention
import RustyGate.Telemetry.Gauges
import RustyGate.Telemetry.NearestRank
import RustyGate.Telemetry.PrometheusText
