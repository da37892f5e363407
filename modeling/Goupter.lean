import Goupter.Cache.Errors
import Goupter.Cache.Json
import Goupter.Cache.Interface
import Goupter.Cache.Memory.Basic
import Goupter.Cache.Memory.Live
import Goupter.Cache.Memory.Semantics
import Goupter.Cache.Memory.Counter
import Goupter.Cache.Memory.Exclusion
import Goupter.Cache.Multi.Prog
import Goupter.Cache.Multi.Basic
import Goupter.Cache.Multi.Get
import Goupter.Cache.Multi.Memory
import Goupter.Cache.Multi.Backfill
import Goupter.Cache.Multi.Calls
import Goupter.Cache.Multi.MGet
import Goupter.Cache.Multi.Effects
import Goupter.Cache.Multi.Coherence
import Goupter.Cache.Multi.Shared
import Goupter.Cache.Redis
import Goupter.Middleware.TokenBucket
import Goupter.Middleware.RateLimiter
import Goupter.Middleware.Sequential
import Goupter.Middleware.SlidingWindow
import Goupter.Middleware.Auth
import Goupter.Log.Sampler
import Goupter.Log.Regex
import Goupter.Log.Masker
import Goupter.Log.MaskAgreement
import Goupter.Discovery.Health
import Goupter.Interceptor.Auth
import Goupter.Middleware.Metrics
import Goupter.Middleware.Cors
import Goupter.Config.Duration
import Goupter.Config.Validator
import Goupter.Log.WindowSampler
import Goupter.Middleware.Timeout
import Goupter.Discovery.Balancer
import Goupter.Config.ConsulCenter
import Goupter.MQ.NATS
import Goupter.Auth.JWT
import Goupter.App.Lifecycle
