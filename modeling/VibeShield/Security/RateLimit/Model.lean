import VibeShield.Lib.Machine
import VibeShield.Lib.PyDict
import VibeShield.Python.Arith
import VibeShield.Python.Runtime

/-!
# The rate limiter

A token bucket holds up to `burst_size` tokens, is refilled at a constant rate, and
gives one to every request as long as there is one (`TokenBucket`). The limiter
keeps a bucket for every agent and address, and one for all requests together
(`RateLimiter`); once it keeps more than 10000, it drops those that have not been
used for five minutes.

Both are machines. The inputs are the readings of the clock (`bucket`), and the
checks with the readings of the clock during them (`limiter`).
-/

namespace VibeShield

/-- The rate limit of a single scope. -/
structure RateLimitConfig (F : Type*) where
  requestsPerSecond : F
  burstSize : ℤ
  cooldownSeconds : F

/-! ## Token buckets -/

/-- A token bucket. -/
structure TokenBucket (F : Type*) where
  config : RateLimitConfig F
  tokens : F
  lastRefill : F
  maxTokens : F
  rate : F

variable {F : Type*} [PyNum F]

open PyArith PyNum

namespace TokenBucket

/-- A full bucket. -/
def new (config : RateLimitConfig F) (now : F) : TokenBucket F where
  config := config
  tokens := lit config.burstSize
  lastRefill := now
  maxTokens := lit config.burstSize
  rate := config.requestsPerSecond

/-- Adding the tokens for the time since the last refill. -/
def refill (b : TokenBucket F) (now : F) : TokenBucket F :=
  { b with
    tokens := pyMin b.maxTokens (add b.tokens (mul (sub now b.lastRefill) b.rate))
    lastRefill := now }

/-- Trying to consume one token. -/
def consume (b : TokenBucket F) (now : F) : TokenBucket F × Bool :=
  let b := b.refill now
  if le (lit 1) b.tokens then ({ b with tokens := sub b.tokens (lit 1) }, true) else (b, false)

end TokenBucket

/-- A bucket as a machine, which tells if it had a token. -/
def bucket (F : Type*) [PyNum F] : Machine (TokenBucket F) F Bool where
  step b now := b.consume now

/-! ## The limiter -/

/-- What is limited. -/
inductive RateLimitScope
  | agent
  | ip
  | global
deriving DecidableEq, Repr

/-- The name of a scope. -/
def RateLimitScope.name : RateLimitScope → String
  | agent => "agent"
  | ip => "ip"
  | global => "global"

/-- Who is limited: an agent, an address, or all together. -/
structure Identity where
  scope : RateLimitScope
  identifier : String
deriving DecidableEq, Repr

/-- The result of a rate limit check. -/
structure RateLimitResult (F : Type*) where
  allowed : Bool
  retryAfter : F
  remaining : ℤ
  limit : ℤ
  scope : String

/-- The limiter. `onRatelimit` is the alert callback: the exception that it ends
    in, if any. -/
structure RateLimiter (F : Type*) where
  agentConfig : RateLimitConfig F
  ipConfig : RateLimitConfig F
  globalConfig : RateLimitConfig F
  onRatelimit : Option (String → String → F → Option PyErr)
  buckets : PyDict String (TokenBucket F)

/-- A key of the buckets. -/
def bucketKey (py : Python) (i : Identity) : String :=
  slice (py.sha256 s!"{i.scope.name}:{i.identifier}") 16

namespace RateLimiter

variable (l : RateLimiter F)

/-- The configuration of a scope. -/
def config : RateLimitScope → RateLimitConfig F
  | .agent => l.agentConfig
  | .ip => l.ipConfig
  | .global => l.globalConfig

/-- Removing the buckets that have not been used recently. -/
def cleanupStaleBuckets (now : F) : RateLimiter F :=
  { l with buckets := l.buckets.filter fun _ b => !lt (lit 300) (sub now b.lastRefill) }

/-- The bucket of a key, created if there is none. Creating one may trigger a
    cleanup, which may remove it again if the clock has jumped. -/
def getBucket (key : String) (config : RateLimitConfig F) (created cleaned : F) :
    RateLimiter F × Except PyErr (TokenBucket F) :=
  match l.buckets.get? key with
  | some b => (l, .ok b)
  | none =>
    let l := { l with buckets := l.buckets.set key (.new config created) }
    let l := if 10000 < l.buckets.size then l.cleanupStaleBuckets cleaned else l
    match l.buckets.get? key with
    | some b => (l, .ok b)
    | none => (l, .error ⟨.otherException "KeyError", s!"'{key}'"⟩)

/-- The result of a check, given the bucket after it. -/
def result (i : Identity) (b : TokenBucket F) (allowed : Bool) :
    Except PyErr (RateLimitResult F) :=
  if allowed then
    match trunc b.tokens with
    | .ok remaining => .ok {
      allowed := true
      retryAfter := lit 0
      remaining := max 0 remaining
      limit := (l.config i.scope).burstSize
      scope := i.scope.name }
    | .error x => .error x.err
  else
    let retryAfter := pyMax
      (if lt (lit 0) b.rate then div (sub (lit 1) b.tokens) b.rate
        else (l.config i.scope).cooldownSeconds) (lit (1 / 10))
    let denied : RateLimitResult F := {
      allowed := false
      retryAfter := round retryAfter 2
      remaining := 0
      limit := (l.config i.scope).burstSize
      scope := i.scope.name }
    match l.onRatelimit.bind fun callback => callback i.scope.name i.identifier retryAfter with
    | some err => if err.isException then .ok denied else .error err
    | none => .ok denied

/-- The check of an identity. -/
def check (py : Python) (i : Identity) (created cleaned consumed : F) :
    RateLimiter F × Except PyErr (RateLimitResult F) :=
  let key := bucketKey py i
  match l.getBucket key (l.config i.scope) created cleaned with
  | (l, .error err) => (l, .error err)
  | (l, .ok b) =>
    let (b, allowed) := b.consume consumed
    ({ l with buckets := l.buckets.set key b }, l.result i b allowed)

end RateLimiter

/-- The checks. -/
inductive CheckOp
  | checkAgent (agentId : String)
  | checkIp (ipAddress : String)
  | checkGlobal

/-- Who is checked. -/
def CheckOp.identity : CheckOp → Identity
  | checkAgent agentId => ⟨.agent, agentId⟩
  | checkIp ipAddress => ⟨.ip, ipAddress⟩
  | checkGlobal => ⟨.global, "_"⟩

/-- A call: a check and the readings of the clock when a bucket is created, when
    stale buckets are removed, and when the token is consumed, as far as it comes
    to that. A check made by the alert callback is listed after the one that
    fires it, which by then is done with the buckets. -/
structure CheckCall (F : Type*) where
  op : CheckOp
  created : F
  cleaned : F
  consumed : F

/-- The limiter as a machine. -/
def limiter (F : Type*) [PyNum F] (py : Python) :
    Machine (RateLimiter F) (CheckCall F) (Except PyErr (RateLimitResult F)) where
  step l c := l.check py c.op.identity c.created c.cleaned c.consumed

end VibeShield
