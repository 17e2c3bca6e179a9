import Mathlib.Data.Set.Insert
import VibeShield.Python.Json
import VibeShield.Security.Egress.Model

/-!
# The allowlist of the egress proxy

What the operations mean is said of a set of entries, each with a port
(`AllowEntry`): adding a domain replaces the entry of its host, adding a wildcard
adds one, and removing a host removes its entry and the wildcards spelled like it
(`allowlistStep`). An entry covers a connection if it matches its host, port and
protocol (`AllowEntry.Covers`).

The proxy implements this set except for the ports (`Implements`): the one of a
rule is kept but never compared, the one of a wildcard is not kept. So what is
allowed is covered exactly if the port happens to be listed
(`egress_allows_covered`).
-/

namespace VibeShield

/-- An entry of the allowlist. -/
inductive AllowEntry
  | domain (host : String) (port : ℤ) (protocol : Protocol)
  | wildcard (pattern : String) (port : ℤ)

/-- A connection that is asked for. -/
structure Connection where
  host : String
  port : ℤ
  protocol : String

/-- The entry allows the connection. -/
def AllowEntry.Covers (py : Python) (conn : Connection) : AllowEntry → Prop
  | domain host port protocol =>
    conn.host = host ∧ conn.port = port ∧ py.lower conn.protocol = protocol.value
  | wildcard pattern port =>
    py.fnmatch conn.host pattern ∧ conn.port = port ∧
      py.lower conn.protocol = Protocol.https.value

/-- Replacing the entry of a domain. -/
def insertDomain (A : Set AllowEntry) (host : String) (port : ℤ) (protocol : Protocol) :
    Set AllowEntry :=
  insert (.domain host port protocol) {e ∈ A | ∀ port protocol, e ≠ .domain host port protocol}

/-- The allowlist after an operation. -/
def allowlistStep (A : Set AllowEntry) : EgressOp → Set AllowEntry
  | .addDomain host port protocol _ _ _ => insertDomain A host port protocol
  | .addWildcard pattern port => insert (.wildcard pattern port) A
  | .addTrustedApis =>
    trustedAiApis.foldl (fun A (host, port) => insertDomain A host port .https) A
  | .removeDomain host =>
    {e ∈ A | (∀ port protocol, e ≠ .domain host port protocol) ∧ ∀ port, e ≠ .wildcard host port}
  | .evaluate .. => A
  | .logConnection .. => A

variable {F : Type*}

/-- The entries in force after the calls. -/
def inForce (cs : List (EgressCall F)) : Set AllowEntry :=
  cs.foldl (fun A c => allowlistStep A c.op) ∅

/-! ## The proxy implements it, but for the ports -/

/-- The proxy holds the domain entries, with their ports and protocols, and the
    patterns of the wildcard entries. -/
structure Implements (p : EgressProxy F) (A : Set AllowEntry) : Prop where
  domain : ∀ host port protocol, .domain host port protocol ∈ A ↔
    ∃ rule, p.allowedDomains.get? host = some rule ∧ rule.port = port ∧ rule.protocol = protocol
  wildcard : ∀ pattern, (∃ port, .wildcard pattern port ∈ A) ↔ pattern ∈ p.domainPatterns

theorem Implements.new (maxSize rate : ℤ) :
    Implements (EgressProxy.new maxSize rate : EgressProxy F) ∅ where
  domain _ _ _ := ⟨fun h => absurd h (Set.notMem_empty _), fun ⟨_, h, _⟩ => absurd h nofun⟩
  wildcard _ := ⟨fun ⟨_, h⟩ => absurd h (Set.notMem_empty _), fun h => absurd h List.not_mem_nil⟩

/-- Only the domains and the patterns matter. -/
theorem Implements.congr {p q : EgressProxy F} {A : Set AllowEntry} (h : Implements p A)
    (hd : q.allowedDomains = p.allowedDomains) (hp : q.domainPatterns = p.domainPatterns) :
    Implements q A where
  domain := hd ▸ h.domain
  wildcard := hp ▸ h.wildcard

theorem Implements.addDomain {p : EgressProxy F} {A : Set AllowEntry} (h : Implements p A)
    (host : String) (port : ℤ) (protocol : Protocol) (maxSize rate : Option ℤ)
    (description : String) :
    Implements (p.addDomain host port protocol maxSize rate description)
      (insertDomain A host port protocol) where
  domain host' port' protocol' := by
    simp only [EgressProxy.addDomain, PyDict.get?_set, insertDomain, Set.mem_insert_iff,
      Set.mem_ofPred_eq, h.domain, AllowEntry.domain.injEq]
    by_cases hh : host' = host
    · simp [hh, eq_comm]
    · simp [hh]
  wildcard pattern := by
    simp only [insertDomain, Set.mem_insert_iff, Set.mem_ofPred_eq, EgressProxy.addDomain]
    rw [← h.wildcard]
    simp

theorem Implements.addWildcard {p : EgressProxy F} {A : Set AllowEntry} (h : Implements p A)
    (pattern : String) (port : ℤ) :
    Implements (p.addWildcard pattern port) (insert (.wildcard pattern port) A) where
  domain host' port' protocol' := by
    simp only [EgressProxy.addWildcard, Set.mem_insert_iff, ← h.domain]
    simp
  wildcard pattern' := by
    simp only [EgressProxy.addWildcard, Set.mem_insert_iff, List.mem_append, List.mem_singleton,
      AllowEntry.wildcard.injEq, ← h.wildcard]
    constructor
    · rintro ⟨port', ⟨h, _⟩ | h⟩
      · exact .inr h
      · exact .inl ⟨port', h⟩
    · rintro (⟨port', h⟩ | h)
      · exact ⟨port', .inr h⟩
      · exact ⟨port, .inl ⟨h, rfl⟩⟩

theorem Implements.addTrustedApis {p : EgressProxy F} {A : Set AllowEntry} (h : Implements p A) :
    Implements p.addTrustedApis (allowlistStep A .addTrustedApis) := by
  rw [EgressProxy.addTrustedApis, allowlistStep]
  induction trustedAiApis generalizing p A with
  | nil => exact h
  | cons api apis ih => exact ih (h.addDomain api.1 api.2 .https none none "Trusted AI API")

theorem Implements.removeDomain {p : EgressProxy F} {A : Set AllowEntry} (h : Implements p A)
    (host : String) :
    Implements (p.removeDomain host) (allowlistStep A (.removeDomain host)) where
  domain host' port' protocol' := by
    simp only [EgressProxy.removeDomain, allowlistStep, Set.mem_ofPred_eq, PyDict.get?_erase,
      h.domain]
    by_cases hh : host' = host
    · simp [hh]
    · simp [hh]
  wildcard pattern := by
    simp only [EgressProxy.removeDomain, allowlistStep, Set.mem_ofPred_eq, List.mem_filter,
      ← h.wildcard]
    by_cases hp : pattern = host
    · simp [hp]
    · simp [hp]

/-! ## Evaluations -/

namespace EgressProxy

variable [PyArith F] (py : Python) (p : EgressProxy F) (now : ℕ → F)

/-- An evaluation changes neither the domains nor the patterns. -/
theorem allowlist_evaluate (agentId taskId host : String) (port : ℤ) (protocol : String)
    (requestSize : ℤ) :
    let q := (p.evaluate py now agentId taskId host port protocol requestSize).1
    q.allowedDomains = p.allowedDomains ∧ q.domainPatterns = p.domainPatterns := by
  dsimp only [evaluate]
  split
  · exact ⟨rfl, rfl⟩
  · split
    · exact ⟨rfl, rfl⟩
    · split
      · next q h =>
        obtain rfl := congrArg Prod.fst h
        exact ⟨rfl, rfl⟩
      · next q h =>
        obtain rfl := congrArg Prod.fst h
        split <;> exact ⟨rfl, rfl⟩

/-- What is allowed has a rule, of its protocol. -/
theorem ruleFor_of_allow {agentId taskId host : String} {port : ℤ} {protocol : String}
    {requestSize : ℤ}
    (h : (p.evaluate py now agentId taskId host port protocol requestSize).2 = .allow) :
    ∃ rule, p.ruleFor py host = some rule ∧ py.lower protocol = rule.protocol.value := by
  dsimp only [evaluate] at h
  split at h
  · exact absurd h nofun
  · next rule hrule =>
    split at h
    · exact absurd h nofun
    · next hprotocol => exact ⟨rule, hrule, not_not.1 hprotocol⟩

end EgressProxy

/-- The connection an operation evaluates. -/
def EgressOp.connection? : EgressOp → Option Connection
  | .evaluate _ _ host port protocol _ => some ⟨host, port, protocol⟩
  | _ => none

/-- Some entry covers the connection. -/
def Covered (py : Python) (A : Set AllowEntry) (conn : Connection) : Prop :=
  ∃ e ∈ A, e.Covers py conn

/-- Some entry matches the connection, whatever its port: the one of its host or,
    without one, a wildcard; and its protocol is the one of that entry. -/
def Matched (py : Python) (A : Set AllowEntry) (conn : Connection) : Prop :=
  (∃ port protocol, .domain conn.host port protocol ∈ A ∧
      py.lower conn.protocol = protocol.value) ∨
    ((∀ port protocol, .domain conn.host port protocol ∉ A) ∧
      (∃ pattern port, .wildcard pattern port ∈ A ∧ py.fnmatch conn.host pattern) ∧
      py.lower conn.protocol = Protocol.https.value)

/-- The port is the one of the entry of the domain, or one that a matching
    wildcard was added with, if the protocol is the one of wildcards. -/
def PortListed (py : Python) (A : Set AllowEntry) (conn : Connection) : Prop :=
  (∃ protocol, .domain conn.host conn.port protocol ∈ A) ∨
    (py.lower conn.protocol = Protocol.https.value ∧
      ∃ pattern, .wildcard pattern conn.port ∈ A ∧ py.fnmatch conn.host pattern)

variable {py : Python}

/-- A connection that is allowed is covered exactly if its port is listed: its
    host and its protocol have been compared. -/
theorem Implements.covered_iff {p : EgressProxy F} {A : Set AllowEntry} (h : Implements p A)
    {conn : Connection} {rule : EgressRule} (hrule : p.ruleFor py conn.host = some rule)
    (hprotocol : py.lower conn.protocol = rule.protocol.value) :
    Covered py A conn ↔ PortListed py A conn := by
  constructor
  · rintro ⟨e, he, hcovers⟩
    cases e with
    | domain host port protocol =>
      obtain ⟨rfl, rfl, _⟩ := hcovers
      exact .inl ⟨protocol, he⟩
    | wildcard pattern port =>
      obtain ⟨hmatch, rfl, hhttps⟩ := hcovers
      exact .inr ⟨hhttps, pattern, he, hmatch⟩
  · rintro (⟨protocol, he⟩ | ⟨hhttps, pattern, he, hmatch⟩)
    · -- The entry of the domain is the rule that was used.
      refine ⟨_, he, rfl, rfl, ?_⟩
      obtain ⟨rule', hget, _, rfl⟩ := (h.domain _ _ _).1 he
      rw [EgressProxy.ruleFor, hget] at hrule
      exact Option.some.inj hrule ▸ hprotocol
    · exact ⟨_, he, hmatch, rfl, hhttps⟩

/-- A connection is matched if it has a rule, of its protocol. -/
theorem Implements.matched {p : EgressProxy F} {A : Set AllowEntry} (h : Implements p A)
    {conn : Connection} {rule : EgressRule} (hrule : p.ruleFor py conn.host = some rule)
    (hprotocol : py.lower conn.protocol = rule.protocol.value) : Matched py A conn := by
  rw [EgressProxy.ruleFor] at hrule
  split at hrule
  · next rule' hget =>
    obtain rfl := Option.some.inj hrule
    exact .inl ⟨_, _, (h.domain _ _ _).2 ⟨rule', hget, rfl, rfl⟩, hprotocol⟩
  · next hget =>
    split at hrule
    · next hany =>
      obtain rfl := Option.some.inj hrule
      obtain ⟨pattern, hpattern, hmatch⟩ := List.any_eq_true.1 hany
      obtain ⟨port, he⟩ := (h.wildcard pattern).2 hpattern
      refine .inr ⟨?_, ⟨pattern, port, he, hmatch⟩, hprotocol⟩
      -- An entry of the host would have been its rule.
      intro port' protocol' hmem
      obtain ⟨rule', hrule', _⟩ := (h.domain _ _ _).1 hmem
      exact absurd (hget.symm.trans hrule') nofun
    · exact absurd hrule nofun

variable [PyArith F]

theorem Implements.step {p : EgressProxy F} {A : Set AllowEntry} (h : Implements p A)
    (c : EgressCall F) : Implements ((egress F py).step p c).1 (allowlistStep A c.op) := by
  obtain ⟨op, now⟩ := c
  cases op with
  | addDomain host port protocol maxSize rate description =>
    exact h.addDomain host port protocol maxSize rate description
  | addWildcard pattern port => exact h.addWildcard pattern port
  | addTrustedApis => exact h.addTrustedApis
  | removeDomain host => exact h.removeDomain host
  | evaluate agentId taskId host port protocol requestSize =>
    have hp := p.allowlist_evaluate py now agentId taskId host port protocol requestSize
    exact h.congr hp.1 hp.2
  | logConnection agentId host port bytesSent bytesReceived taskId => exact h.congr rfl rfl

/-- After any calls, the proxy implements the entries in force. -/
theorem implements_run (maxSize rate : ℤ) (cs : List (EgressCall F)) :
    Implements ((egress F py).run (EgressProxy.new maxSize rate) cs) (inForce cs) := by
  induction cs using List.reverseRecOn with
  | nil => exact .new maxSize rate
  | append_singleton cs c ih =>
    rw [Machine.run_concat, inForce, List.foldl_append]
    exact ih.step c

/-- The call `c` of the run `cs`, made after the calls `js`, evaluates `conn`. -/
def Evaluates (cs js : List (EgressCall F)) (c : EgressCall F) (conn : Connection) : Prop :=
  (∃ ks, cs = js ++ c :: ks) ∧ c.op.connection? = some conn

/-- What is allowed is matched, and it is covered exactly if its port is listed. -/
theorem covered_iff_of_allow {maxSize rate : ℤ} {js : List (EgressCall F)} {c : EgressCall F}
    {conn : Connection} (hconn : c.op.connection? = some conn)
    (hallow : ((egress F py).step ((egress F py).run (.new maxSize rate) js) c).2 = some .allow) :
    Matched py (inForce js) conn ∧
      (Covered py (inForce js) conn ↔ PortListed py (inForce js) conn) := by
  have himpl : Implements ((egress F py).run (.new maxSize rate) js) (inForce js) :=
    implements_run maxSize rate js
  obtain ⟨op, now⟩ := c
  cases op with
  | evaluate agentId taskId host port protocol requestSize =>
    obtain rfl := Option.some.inj hconn
    obtain ⟨rule, hrule, hprotocol⟩ :=
      EgressProxy.ruleFor_of_allow py _ now (Option.some.inj hallow)
    exact ⟨himpl.matched hrule hprotocol, himpl.covered_iff hrule hprotocol⟩
  | _ => exact absurd hconn nofun

/-- If the ports of the matched connections that are evaluated in a run are listed,
    everything allowed is covered by an entry then in force; and nothing else that
    is allowed is. -/
theorem egress_allows_covered (py : Python) (maxSize rate : ℤ) (cs : List (EgressCall F)) :
    let allowed (js : List (EgressCall F)) (c : EgressCall F) : Prop :=
      ((egress F py).step ((egress F py).run (EgressProxy.new maxSize rate) js) c).2 = some .allow
    ((∀ js c conn, Evaluates cs js c conn → Matched py (inForce js) conn →
        PortListed py (inForce js) conn) →
      ∀ js c conn, Evaluates cs js c conn → allowed js c → Covered py (inForce js) conn) ∧
    ∀ js c conn, Evaluates cs js c conn → allowed js c →
      (Covered py (inForce js) conn ↔ PortListed py (inForce js) conn) := by
  intro allowed
  constructor
  · intro hlisted js c conn hc hallow
    obtain ⟨hmatched, hcovered⟩ := covered_iff_of_allow hc.2 hallow
    exact hcovered.2 (hlisted js c conn hc hmatched)
  · intro js c conn hc hallow
    exact (covered_iff_of_allow hc.2 hallow).2

namespace Sample

def domainLib : Python := .plain [] ""

/-- The domain is added with port 443. -/
def addCall : EgressCall ℚ := ⟨.addDomain "api.test.com" 443 .https none none "", fun _ => 0⟩

/-- The connection asked for is to port 22. -/
def evaluateCall : EgressCall ℚ := ⟨.evaluate "a1" "t1" "api.test.com" 22 "https" 0, fun k => k⟩

/-- A connection to a port that was never added is allowed. -/
theorem other_port_allowed :
    ((egress ℚ domainLib).step ((egress ℚ domainLib).run (.new 1048576 60) [addCall])
        evaluateCall).2 = some .allow ∧
      ¬Covered domainLib (inForce [addCall]) ⟨"api.test.com", 22, "https"⟩ := by
  refine ⟨by decide +kernel, ?_⟩
  rintro ⟨e, he | he, hcovers⟩
  · obtain rfl := he
    exact absurd hcovers.2.1 (by decide)
  · exact absurd he.1 (Set.notMem_empty e)

end Sample

end VibeShield
