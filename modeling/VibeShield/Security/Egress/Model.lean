import VibeShield.Lib.Machine
import VibeShield.Lib.PyDict
import VibeShield.Python.Arith
import VibeShield.Python.Runtime

/-!
# The egress proxy

Outbound connections of the agents are evaluated against an allowlist of domains,
each with its rule, and of wildcard patterns; every request of an agent to an
allowed domain is counted for its rate limit, and every decision is logged.

The proxy is a `Machine` (`egress`): a call is an operation (`EgressOp`) with the
readings of the clock during it.
-/

namespace VibeShield

/-- The protocols a rule may allow. -/
inductive Protocol
  | https
  | wss
  | http
deriving DecidableEq, Repr

/-- `protocol.value`. -/
def Protocol.value : Protocol → String
  | https => "https"
  | wss => "wss"
  | http => "http"

/-- The decisions about a connection. -/
inductive EgressDecision
  | allow
  | denyDomain
  | denyProtocol
  | denyRateLimit
  | denySizeLimit
  | denyOffline
deriving DecidableEq, Repr

/-- `decision.value`. -/
def EgressDecision.value : EgressDecision → String
  | allow => "allow"
  | denyDomain => "deny_domain"
  | denyProtocol => "deny_protocol"
  | denyRateLimit => "deny_rate_limit"
  | denySizeLimit => "deny_size_limit"
  | denyOffline => "deny_offline"

/-- An allowed outbound connection. -/
structure EgressRule where
  host : String
  port : ℤ := 443
  protocol : Protocol := .https
  maxRequestSizeBytes : ℤ := 1024 * 1024
  maxRequestsPerMinute : ℤ := 60
  description : String := ""
deriving DecidableEq

/-- The record of an egress attempt. -/
structure EgressEvent (F : Type*) where
  timestamp : F
  agentId : String
  taskId : String
  host : String
  port : ℤ
  protocol : String
  decision : String
  reason : String := ""
  bytesSent : ℤ := 0
  bytesReceived : ℤ := 0

/-- The volumes of a connection: the bytes that were sent and received. -/
def EgressEvent.volume {F : Type*} (e : EgressEvent F) : ℤ × ℤ := (e.bytesSent, e.bytesReceived)

/-- The proxy. -/
structure EgressProxy (F : Type*) where
  allowedDomains : PyDict String EgressRule
  domainPatterns : List String
  /-- The times of the requests of each agent. -/
  requestHistory : PyDict String (List F)
  events : List (EgressEvent F)
  defaultMaxRequestSize : ℤ
  defaultRateLimit : ℤ

/-- The counts that the proxy reports. -/
structure EgressStatistics where
  totalEvents : ℕ
  allowed : ℕ
  denied : ℕ
  /-- The number of denied requests for each decision. -/
  denialReasons : PyDict String ℕ
  allowedDomains : ℕ
  wildcardPatterns : ℕ
  activeAgents : ℕ

/-- `TRUSTED_AI_APIS`. -/
def trustedAiApis : List (String × ℤ) := [
  ("api.openai.com", 443),
  ("api.anthropic.com", 443),
  ("generativelanguage.googleapis.com", 443),
  ("api.cohere.ai", 443),
  ("api.mistral.ai", 443)]

/-- `n or default`. -/
def orDefault (n : Option ℤ) (default : ℤ) : ℤ :=
  match n with
  | some n => if n = 0 then default else n
  | none => default

namespace EgressProxy

variable {F : Type*}

/-- The proxy with an empty allowlist. -/
def new (defaultMaxRequestSize defaultRateLimit : ℤ) : EgressProxy F where
  allowedDomains := PyDict.empty
  domainPatterns := []
  requestHistory := PyDict.empty
  events := []
  defaultMaxRequestSize := defaultMaxRequestSize
  defaultRateLimit := defaultRateLimit

/-! ## The allowlist -/

/-- Adding a domain to the allowlist. -/
def addDomain (p : EgressProxy F) (host : String) (port : ℤ) (protocol : Protocol)
    (maxRequestSize rateLimit : Option ℤ) (description : String) : EgressProxy F :=
  let rule : EgressRule := {
    host := host
    port := port
    protocol := protocol
    maxRequestSizeBytes := orDefault maxRequestSize p.defaultMaxRequestSize
    maxRequestsPerMinute := orDefault rateLimit p.defaultRateLimit
    description := description }
  { p with allowedDomains := p.allowedDomains.set host rule }

/-- Adding a wildcard domain pattern. The port is not kept. -/
def addWildcard (p : EgressProxy F) (pattern : String) (_port : ℤ) : EgressProxy F :=
  { p with domainPatterns := p.domainPatterns ++ [pattern] }

/-- Adding all pre-built trusted domains. -/
def addTrustedApis (p : EgressProxy F) : EgressProxy F :=
  trustedAiApis.foldl
    (fun p (host, port) => p.addDomain host port .https none none "Trusted AI API") p

/-- Removing a domain, or a pattern, from the allowlist. -/
def removeDomain (p : EgressProxy F) (host : String) : EgressProxy F :=
  { p with
    allowedDomains := p.allowedDomains.erase host
    domainPatterns := p.domainPatterns.filter (· ≠ host) }

/-! ## Connections -/

/-- Recording a request for rate limiting. -/
def recordRequest (p : EgressProxy F) (now : F) (agentId : String) : EgressProxy F :=
  { p with requestHistory :=
      p.requestHistory.set agentId ((p.requestHistory.get? agentId).getD [] ++ [now]) }

/-- Dropping the requests of an agent that are older than a minute, and whether
    the others are within the limit. -/
def checkRateLimit [PyArith F] (p : EgressProxy F) (now : F) (agentId : String)
    (rule : EgressRule) : EgressProxy F × Bool :=
  let minuteAgo := PyArith.sub now (PyArith.lit 60)
  let recent := ((p.requestHistory.get? agentId).getD []).filter fun t => PyArith.lt minuteAgo t
  ({ p with requestHistory := p.requestHistory.set agentId recent },
    recent.length < rule.maxRequestsPerMinute)

/-- Recording an event; the buffer keeps at least the last 5000. -/
def recordEvent (p : EgressProxy F) (now : F) (agentId taskId host : String) (port : ℤ)
    (protocol : String) (decision : EgressDecision) (reason : String) : EgressProxy F :=
  let event : EgressEvent F := {
    timestamp := now
    agentId := agentId
    taskId := taskId
    host := host
    port := port
    protocol := protocol
    decision := decision.value
    reason := reason }
  let events := p.events ++ [event]
  { p with events := if 10000 < events.length then events.drop (events.length - 5000) else events }

/-- The rule for a host: the one of its domain, else a default rule if some
    pattern matches. -/
def ruleFor (py : Python) (p : EgressProxy F) (host : String) : Option EgressRule :=
  match p.allowedDomains.get? host with
  | some rule => some rule
  | none =>
    -- A rule with the default port and protocol, of which only the latter matters.
    if p.domainPatterns.any (py.fnmatch host) then
      some {
        host := host
        maxRequestSizeBytes := p.defaultMaxRequestSize
        maxRequestsPerMinute := p.defaultRateLimit }
    else none

/-- Evaluating whether an outbound connection should be allowed. -/
def evaluate [PyArith F] (py : Python) (p : EgressProxy F) (now : ℕ → F)
    (agentId taskId host : String) (port : ℤ) (protocol : String) (requestSize : ℤ) :
    EgressProxy F × EgressDecision :=
  let record (p : EgressProxy F) (now : F) (d : EgressDecision) (reason : String) :
      EgressProxy F × EgressDecision :=
    (p.recordEvent now agentId taskId host port protocol d reason, d)
  match p.ruleFor py host with
  | none => record p (now 0) .denyDomain s!"Domain not allowed: {host}"
  | some rule =>
    -- Also the requests that are denied from here on count for the rate limit.
    let p := p.recordRequest (now 0) agentId
    if py.lower protocol ≠ rule.protocol.value then
      record p (now 1) .denyProtocol
        s!"Protocol not allowed: {protocol} (expected {rule.protocol.value})"
    else
      match p.checkRateLimit (now 1) agentId rule with
      | (p, false) => record p (now 2) .denyRateLimit "Rate limit exceeded"
      | (p, true) =>
        if rule.maxRequestSizeBytes < requestSize then
          record p (now 2) .denySizeLimit s!"Request too large: {requestSize} bytes"
        else record p (now 2) .allow ""

/-- Logging a completed connection. -/
def logConnection (p : EgressProxy F) (now : ℕ → F) (agentId host : String) (port bytesSent
    bytesReceived : ℤ) (taskId : String) : EgressProxy F :=
  (p.recordRequest (now 0) agentId).recordEvent (now 1) agentId taskId host port "https" .allow
    s!"sent={bytesSent}, recv={bytesReceived}"

/-- Whether a value passes a filter of a query. There is none if it is empty. -/
def passesFilter (filter : Option String) (value : String) : Bool :=
  match filter with
  | some filter => filter = "" ∨ value = filter
  | none => true

/-- Adding the events that pass `q` to the results, until these are as many as the limit. -/
def findEvents (q : EgressEvent F → Bool) (limit : ℤ) (results : List (EgressEvent F)) :
    List (EgressEvent F) → List (EgressEvent F)
  | [] => results
  | event :: events =>
    if limit ≤ results.length then results
    else if q event then findEvents q limit (results ++ [event]) events
    else findEvents q limit results events

/-- Querying the events, the last one first, with all of their fields. -/
def getEvents (p : EgressProxy F) (agentId decision : Option String) (limit : ℤ) :
    List (EgressEvent F) :=
  findEvents (fun e => passesFilter agentId e.agentId && passesFilter decision e.decision) limit []
    p.events.reverse

/-- The statistics of the proxy. -/
def getStatistics (p : EgressProxy F) : EgressStatistics where
  totalEvents := p.events.length
  allowed := p.events.countP fun e => e.decision = "allow"
  denied := p.events.countP fun e => e.decision ≠ "allow"
  denialReasons := p.events.foldl
    (fun reasons e => if e.decision ≠ "allow" then reasons.count e.decision else reasons)
    PyDict.empty
  allowedDomains := p.allowedDomains.size
  wildcardPatterns := p.domainPatterns.length
  activeAgents := p.requestHistory.size

end EgressProxy

/-! ## The machine -/

/-- The operations of the proxy. -/
inductive EgressOp
  | addDomain (host : String) (port : ℤ) (protocol : Protocol)
      (maxRequestSize rateLimit : Option ℤ) (description : String)
  | addWildcard (pattern : String) (port : ℤ)
  | addTrustedApis
  | removeDomain (host : String)
  | evaluate (agentId taskId host : String) (port : ℤ) (protocol : String) (requestSize : ℤ)
  | logConnection (agentId host : String) (port bytesSent bytesReceived : ℤ) (taskId : String)

/-- A call: an operation and the readings of the clock during it. -/
structure EgressCall (F : Type*) where
  op : EgressOp
  now : ℕ → F

/-- The proxy as a machine, which answers an evaluation with its decision. -/
def egress (F : Type*) [PyArith F] (py : Python) :
    Machine (EgressProxy F) (EgressCall F) (Option EgressDecision) where
  step p c :=
    match c.op with
    | .addDomain host port protocol maxRequestSize rateLimit description =>
      (p.addDomain host port protocol maxRequestSize rateLimit description, none)
    | .addWildcard pattern port => (p.addWildcard pattern port, none)
    | .addTrustedApis => (p.addTrustedApis, none)
    | .removeDomain host => (p.removeDomain host, none)
    | .evaluate agentId taskId host port protocol requestSize =>
      (p.evaluate py c.now agentId taskId host port protocol requestSize).map id some
    | .logConnection agentId host port bytesSent bytesReceived taskId =>
      (p.logConnection c.now agentId host port bytesSent bytesReceived taskId, none)

end VibeShield
