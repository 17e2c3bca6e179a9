import Mathlib.Algebra.Order.Group.Multiset
import VibeShield.Layer1.Refusals

/-!
# The policy of an OpenShell sandbox

The policy of a sandbox is the base policy (`OpenShellSandbox.basePolicy`) with an entry for
each egress rule of the configuration. It is written to the file that the command line of
the sandbox names. The egress rules of a call of `execute_task` are not used
(`OpenShellSandbox.launchWith`).

The endpoints in the policy are compared as multisets. Adding an entry adds its endpoints, and
takes away those of the entry that it replaces (`allEndpoints_addRules`). So the policy grants
what the call asks for exactly if the configuration asks for the same, together with what its
entries replace (`policy_grants_iff`).
-/

namespace VibeShield

/-- `d[key] = v`. -/
def PyVal.dictSet (key : String) (v : PyVal) : List (PyVal × PyVal) → List (PyVal × PyVal)
  | [] => [(.str key, v)]
  | (k, w) :: items =>
    if k.toStr? = some key then (k, v) :: items else (k, w) :: dictSet key v items

/-- What the policy of a sandbox is made with. -/
structure PolicyLib where
  /-- Opening a file and `yaml.safe_load`. -/
  load : String → Except PyErr PyVal
  /-- Opening a file and `yaml.safe_dump`. -/
  dump : String → PyVal → Except PyErr Unit
  /-- `int(v)`. -/
  int : PyVal → Except PyErr ℤ

namespace OpenShellSandbox

/-! ## The base policy -/

/-- The host of a rule, which is the rule itself if it is not a dictionary. -/
def ruleHost : PyVal → PyVal
  | .dict items => (PyVal.dictGet? items "host").getD .none
  | rule => rule

/-- The port of a rule: 443 if it has none. -/
def rulePort : PyVal → PyVal
  | .dict items =>
    let port := (PyVal.dictGet? items "port").getD .none
    if port.truthy then port else .int 443
  | _ => .int 443

def endpointOf (host : PyVal) (port : ℤ) : PyVal :=
  .dict [(.str "host", host), (.str "port", .int port)]

/-- The key of the entry for the rule number `i`. -/
def egressKey (i : ℕ) : String := s!"vs_egress_{i}"

/-- The entry for the rule number `i`. -/
def egressPolicy (i : ℕ) (host : PyVal) (port : ℤ) : PyVal :=
  .dict [
    (.str "name", .str s!"vibeshield egress {i}"),
    (.str "endpoints", .list [endpointOf host port]),
    (.str "binaries", .list (["/usr/bin/python3.12", "/usr/bin/python3.11",
      "/usr/local/bin/python3", "/usr/bin/python3"].map fun p => .dict [(.str "path", .str p)]))]

variable (lib : PolicyLib)

/-- Adding an entry for the rule number `i`, if it has a host. -/
def addRule (i : ℕ) (network rule : PyVal) : Except PyErr PyVal :=
  if (ruleHost rule).truthy then do
    let port ← lib.int (rulePort rule)
    match network with
    | .dict items =>
      return .dict (PyVal.dictSet (egressKey i) (egressPolicy i (ruleHost rule) port) items)
    | _ => throw ⟨.typeError, "object does not support item assignment"⟩
  else return network

/-- Adding entries for the rules from number `i` on. -/
def addRules (i : ℕ) (network : PyVal) : List PyVal → Except PyErr PyVal
  | [] => return network
  | rule :: rules => do
    let network ← addRule lib i network rule
    addRules (i + 1) network rules

/-- The `network_policies` of a policy. -/
def networkOf (items : List (PyVal × PyVal)) : PyVal :=
  (PyVal.dictGet? items "network_policies").getD (.dict [])

/-- Adding the egress rules of the configuration to a policy. -/
def addEgress (configRules : List PyVal) : PyVal → Except PyErr PyVal
  | .dict items => do
    let network ← addRules lib 0 (networkOf items) configRules
    return .dict (PyVal.dictSet "network_policies" network items)
  | _ => throw ⟨.attributeError, "object has no attribute 'setdefault'"⟩

/-- Loading the policy and adding the egress rules of the configuration. -/
def basePolicy (configRules : List PyVal) (policyPath : String) : Except PyErr PyVal := do
  let loaded ← lib.load policyPath
  addEgress lib configRules (if loaded.truthy then loaded else .dict [])

/-- The host, on which the policy of a sandbox is made with the rules of the configuration. -/
def hostWith (host : Host) (configRules : List PyVal) : Host :=
  { host with
    writePolicy := fun policyPath path => do
      let policy ← basePolicy lib configRules policyPath
      lib.dump path policy }

/-! ## The call -/

/-- An egress rule of a call. -/
structure EgressTarget where
  host : String
  port : Option ℤ := none

/-- The endpoint of a rule, if it has a host. -/
def EgressTarget.endpoint? (t : EgressTarget) : Option PyVal :=
  if t.host ≠ "" then some (endpointOf (.str t.host) (t.port.getD 443)) else none

/-- `execute_task` with egress rules, up to the start of the sandbox: nothing reads the rules. -/
def launchWith (host : Host) (configRules : List PyVal) (sb : OpenShellSandbox)
    (_egressRules : List EgressTarget) (a : DeployArgs) : EStateM PyErr AuditLog Launch :=
  sb.launch (hostWith lib host configRules) a

/-- The file for the policy. -/
def policyFile (sb : OpenShellSandbox) : String := s!"/tmp/vs-policy-{sb.sandboxName}.yaml"

end OpenShellSandbox

/-! ## Endpoints -/

namespace OpenShellSandbox

/-- The endpoints of an entry. -/
def entryEndpoints : PyVal → List PyVal
  | .dict items =>
    match PyVal.dictGet? items "endpoints" with
    | some (.list vs) => vs
    | _ => []
  | _ => []

/-- The endpoints of all entries. -/
def itemsEndpoints (items : List (PyVal × PyVal)) : List PyVal :=
  items.flatMap fun p => entryEndpoints p.2

/-- The endpoints in the `network_policies` of a policy. -/
def allEndpoints : PyVal → Multiset PyVal
  | .dict items => itemsEndpoints items
  | _ => 0

/-- The endpoints of the entry with the key, if there is one. -/
def endpointsAt (key : String) : PyVal → Multiset PyVal
  | .dict items => ((PyVal.dictGet? items key).elim [] entryEndpoints : List PyVal)
  | _ => 0

/-- The endpoints in a policy. -/
def policyEndpoints : PyVal → Multiset PyVal
  | .dict items => allEndpoints (networkOf items)
  | _ => 0

variable (lib : PolicyLib)

/-- The endpoint of a rule of the configuration, if it has a host. -/
def ruleEndpoint? (rule : PyVal) : Option PyVal :=
  if (ruleHost rule).truthy then
    match lib.int (rulePort rule) with
    | .ok port => some (endpointOf (ruleHost rule) port)
    | .error _ => none
  else none

/-- The endpoints that the entries for the rules from number `i` on replace. -/
def replaced (network : PyVal) (i : ℕ) : List PyVal → Multiset PyVal
  | [] => 0
  | rule :: rules =>
    (if (ruleHost rule).truthy then endpointsAt (egressKey i) network else 0) +
      replaced network (i + 1) rules

end OpenShellSandbox

namespace PyVal

theorem dictGet?_cons_of_eq {k v : PyVal} {key : String} (items : List (PyVal × PyVal))
    (h : k.toStr? = some key) : dictGet? ((k, v) :: items) key = some v := by
  simp [dictGet?, h]

theorem dictGet?_cons_of_ne {k v : PyVal} {key : String} (items : List (PyVal × PyVal))
    (h : k.toStr? ≠ some key) : dictGet? ((k, v) :: items) key = dictGet? items key := by
  simp [dictGet?, h]

theorem dictGet?_dictSet (key k : String) (v : PyVal) (items : List (PyVal × PyVal)) :
    dictGet? (dictSet key v items) k = if key = k then some v else dictGet? items k := by
  induction items with
  | nil => exact dictGet?_cons key v [] k
  | cons p items ih =>
    obtain ⟨j, w⟩ := p
    rw [dictSet]
    by_cases hj : j.toStr? = some key
    · rw [if_pos hj]
      by_cases hk : key = k
      · rw [if_pos hk, dictGet?_cons_of_eq _ (hk ▸ hj)]
      · have hne : j.toStr? ≠ some k := fun h => hk (Option.some.inj (hj.symm.trans h))
        rw [if_neg hk, dictGet?_cons_of_ne _ hne, dictGet?_cons_of_ne _ hne]
    · rw [if_neg hj]
      by_cases hk : j.toStr? = some k
      · have hne : key ≠ k := fun h => hj (h ▸ hk)
        rw [if_neg hne, dictGet?_cons_of_eq _ hk, dictGet?_cons_of_eq _ hk]
      · rw [dictGet?_cons_of_ne _ hk, dictGet?_cons_of_ne _ hk, ih]

end PyVal

namespace OpenShellSandbox

theorem itemsEndpoints_cons (k v : PyVal) (items : List (PyVal × PyVal)) :
    ((itemsEndpoints ((k, v) :: items) : List PyVal) : Multiset PyVal) =
      (entryEndpoints v : List PyVal) + (itemsEndpoints items : List PyVal) := rfl

/-- An entry that is set adds its endpoints, and takes away those that it replaces. -/
theorem itemsEndpoints_dictSet (key : String) (v : PyVal) (items : List (PyVal × PyVal)) :
    ((itemsEndpoints (PyVal.dictSet key v items) : List PyVal) : Multiset PyVal) +
        endpointsAt key (.dict items) =
      (itemsEndpoints items : List PyVal) + (entryEndpoints v : List PyVal) := by
  induction items with
  | nil => simp [itemsEndpoints, endpointsAt, PyVal.dictSet, PyVal.dictGet?]
  | cons p items ih =>
    obtain ⟨j, w⟩ := p
    rw [PyVal.dictSet, endpointsAt]
    by_cases hj : j.toStr? = some key
    · rw [if_pos hj, PyVal.dictGet?_cons_of_eq _ hj, itemsEndpoints_cons, itemsEndpoints_cons]
      change (entryEndpoints v : Multiset PyVal) + itemsEndpoints items + entryEndpoints w =
        entryEndpoints w + itemsEndpoints items + entryEndpoints v
      rw [add_right_comm, add_comm (entryEndpoints v : Multiset PyVal), add_right_comm]
    · rw [if_neg hj, PyVal.dictGet?_cons_of_ne _ hj, itemsEndpoints_cons, itemsEndpoints_cons,
        add_assoc, add_assoc]
      exact congrArg _ ih

/-- The keys of the entries are different. -/
theorem egressKey_injective : Function.Injective egressKey := by
  intro i j h
  have hrepr : i.repr = j.repr := by
    have htext : "vs_egress_" ++ i.repr = "vs_egress_" ++ j.repr := h
    exact (String.append_right_inj _).1 htext
  have hdigits : Nat.toDigits 10 i = Nat.toDigits 10 j := by
    rw [← Nat.toList_repr, hrepr, Nat.toList_repr]
  rw [← Nat.ofDigitChars_toDigits (b := 10) (n := i) (by decide) (by decide), hdigits,
    Nat.ofDigitChars_toDigits (by decide) (by decide)]

/-- Setting an entry leaves those with other keys as they are. -/
theorem endpointsAt_dictSet {key k : String} (h : key ≠ k) (v : PyVal)
    (items : List (PyVal × PyVal)) :
    endpointsAt k (.dict (PyVal.dictSet key v items)) = endpointsAt k (.dict items) := by
  rw [endpointsAt, endpointsAt, PyVal.dictGet?_dictSet, if_neg h]

/-! ## Adding the rules -/

section Rules

variable {lib : PolicyLib}

/-- What adding an entry does to the endpoints: the step of the loop. -/
theorem allEndpoints_addRule {i : ℕ} {network rule network' : PyVal}
    (h : addRule lib i network rule = .ok network') :
    allEndpoints network' +
        (if (ruleHost rule).truthy then endpointsAt (egressKey i) network else 0) =
      allEndpoints network + (ruleEndpoint? lib rule).toList ∧
    ∀ j, i ≠ j → endpointsAt (egressKey j) network' = endpointsAt (egressKey j) network := by
  rw [addRule] at h
  rw [ruleEndpoint?]
  by_cases hhost : (ruleHost rule).truthy = true
  · rw [if_pos hhost] at h
    rw [if_pos hhost, if_pos hhost]
    obtain ⟨port, hport, h⟩ := Except.exists_of_bind_eq_ok h
    rw [hport]
    cases network with
    | dict items =>
      cases h
      exact ⟨itemsEndpoints_dictSet _ _ _, fun j hj =>
        endpointsAt_dictSet (fun hkey => hj (egressKey_injective hkey)) _ _⟩
    | _ => cases h
  · rw [if_neg hhost] at h
    rw [if_neg hhost, if_neg hhost]
    cases h
    exact ⟨rfl, fun _ _ => rfl⟩

theorem replaced_congr {network network' : PyVal} {rules : List PyVal} {i : ℕ}
    (h : ∀ j, i ≤ j → endpointsAt (egressKey j) network = endpointsAt (egressKey j) network') :
    replaced network i rules = replaced network' i rules := by
  induction rules generalizing i with
  | nil => rfl
  | cons rule rules ih =>
    rw [replaced, replaced, h i le_rfl, ih fun j hj => h j (Nat.le_of_succ_le hj)]

/-- What adding entries does to the endpoints: the loop. -/
theorem allEndpoints_addRules {rules : List PyVal} {i : ℕ} {network network' : PyVal}
    (h : addRules lib i network rules = .ok network') :
    allEndpoints network' + replaced network i rules =
      allEndpoints network + (rules.filterMap (ruleEndpoint? lib) : List PyVal) := by
  induction rules generalizing i network with
  | nil =>
    cases h
    rfl
  | cons rule rules ih =>
    rw [addRules] at h
    obtain ⟨next, hrule, h⟩ := Except.exists_of_bind_eq_ok h
    obtain ⟨hstep, hothers⟩ := allEndpoints_addRule hrule
    have hreplaced : replaced next (i + 1) rules = replaced network (i + 1) rules :=
      replaced_congr fun j hj => hothers j (Nat.ne_of_lt hj)
    have hcons : (((rule :: rules).filterMap (ruleEndpoint? lib) : List PyVal) :
        Multiset PyVal) = (ruleEndpoint? lib rule).toList +
          (rules.filterMap (ruleEndpoint? lib) : List PyVal) := by
      rw [List.filterMap_cons]
      cases ruleEndpoint? lib rule <;> rfl
    rw [replaced, ← hreplaced, hcons, ← add_assoc, ← add_assoc, ← hstep,
      add_right_comm (allEndpoints next), ← ih h, add_right_comm]

end Rules

/-! ## What the policy grants -/

variable (lib : PolicyLib)

/-- The network policies of what is loaded. -/
def loadedNetwork : PyVal → PyVal
  | .dict items => networkOf items
  | _ => .dict []

theorem loadedNetwork_of_not_truthy {loaded : PyVal} (h : loaded.truthy = false) :
    loadedNetwork loaded = .dict [] := by
  cases loaded with
  | dict items =>
    cases items with
    | nil => rfl
    | cons p items => cases h
  | _ => rfl

/-- The endpoints of a policy with the rules of the configuration, with those that are
    replaced, are those of the policy and of the rules. -/
theorem policyEndpoints_addEgress {configRules : List PyVal} {v policy : PyVal}
    (h : addEgress lib configRules v = .ok policy) :
    policyEndpoints policy + replaced (loadedNetwork v) 0 configRules =
      allEndpoints (loadedNetwork v) +
        (configRules.filterMap (ruleEndpoint? lib) : List PyVal) := by
  cases v with
  | dict items =>
    rw [addEgress] at h
    obtain ⟨network, hnetwork, h⟩ := Except.exists_of_bind_eq_ok h
    cases h
    rw [policyEndpoints, networkOf, PyVal.dictGet?_dictSet, if_pos rfl, Option.getD_some]
    exact allEndpoints_addRules hnetwork
  | _ => cases h

/-- The same for the policy that is loaded. -/
theorem policyEndpoints_basePolicy {configRules : List PyVal} {policyPath : String}
    {loaded policy : PyVal} (hloaded : lib.load policyPath = .ok loaded)
    (h : basePolicy lib configRules policyPath = .ok policy) :
    policyEndpoints policy + replaced (loadedNetwork loaded) 0 configRules =
      policyEndpoints loaded + (configRules.filterMap (ruleEndpoint? lib) : List PyVal) := by
  have hendpoints : policyEndpoints loaded = allEndpoints (loadedNetwork loaded) := by
    cases loaded <;> rfl
  have hnetwork : loadedNetwork (if loaded.truthy then loaded else .dict []) =
      loadedNetwork loaded := by
    cases htruthy : loaded.truthy with
    | true => rfl
    | false => exact (loadedNetwork_of_not_truthy htruthy).symm
  rw [basePolicy, hloaded] at h
  rw [hendpoints, ← hnetwork]
  exact policyEndpoints_addEgress lib h

theorem of_writePolicy_eq_ok {host : Host} {configRules : List PyVal} {sb : OpenShellSandbox}
    {path : String} (h : sb.writePolicy (hostWith lib host configRules) = .ok path) :
    path = policyFile sb ∧ ∃ loaded policy, lib.load sb.policyPath = .ok loaded ∧
      basePolicy lib configRules sb.policyPath = .ok policy ∧
      lib.dump (policyFile sb) policy = .ok () := by
  rw [writePolicy] at h
  obtain ⟨_, hwrite, hpath⟩ := Except.exists_of_bind_eq_ok h
  obtain ⟨policy, hpolicy, hdump⟩ := Except.exists_of_bind_eq_ok hwrite
  rw [basePolicy] at hpolicy
  obtain ⟨loaded, hload, hegress⟩ := Except.exists_of_bind_eq_ok hpolicy
  cases hpath
  refine ⟨rfl, loaded, policy, hload, ?_, hdump⟩
  rw [basePolicy, hload]
  exact hegress

/-- The command line names the policy that is written. -/
theorem ensures_launch (host : Host) (sb : OpenShellSandbox) (a : DeployArgs) :
    Ensures (sb.launch host a) fun l =>
      ∃ path, sb.writePolicy host = .ok path ∧ ["--policy", path] <:+: l.command := by
  rw [launch]
  refine Ensures.any.bind fun _ _ => Ensures.any.bind fun _ _ => Ensures.any.bind fun _ _ => ?_
  refine (Ensures.ofExcept fun path hpath => hpath).bind fun path hpath => ?_
  refine Ensures.any.bind fun _ _ => Ensures.ofExcept fun l hl => ?_
  refine ⟨path, hpath, ?_⟩
  rw [startProcess] at hl
  split at hl
  · cases hl
    exact ⟨["openshell", "sandbox", "create", "--name", sb.sandboxName, "--no-keep", "--from",
      (host.getenv "VIBESHIELD_OPENSHELL_IMAGE").getD "vibeshield/task:24.04"],
      ["--", a.entrypoint, "-c", script a], rfl⟩
  · cases hl

/-- The rules of the call have the endpoints that the rules of the configuration add. -/
def RulesAgree (configRules : List PyVal) (loaded : PyVal) (egressRules : List EgressTarget) :
    Prop :=
  (egressRules.filterMap EgressTarget.endpoint? : List PyVal) +
      replaced (loadedNetwork loaded) 0 configRules =
    (configRules.filterMap (ruleEndpoint? lib) : List PyVal)

/-- When `execute_task` reaches the start of the sandbox, the policy that the command names is
    the base policy with the rules of the configuration. Its endpoints are those of the base
    policy and of the rules of the call exactly if the two lists of rules agree. -/
theorem policy_grants_iff (host : Host) (configRules : List PyVal) (sb : OpenShellSandbox)
    (egressRules : List EgressTarget) (a : DeployArgs) {audit audit' : AuditLog} {l : Launch}
    (h : launchWith lib host configRules sb egressRules a audit = .ok l audit') :
    ∃ loaded policy, lib.load sb.policyPath = .ok loaded ∧
      basePolicy lib configRules sb.policyPath = .ok policy ∧
      lib.dump (policyFile sb) policy = .ok () ∧
      ["--policy", policyFile sb] <:+: l.command ∧
      (policyEndpoints policy = policyEndpoints loaded +
          (egressRules.filterMap EgressTarget.endpoint? : List PyVal) ↔
        RulesAgree lib configRules loaded egressRules) := by
  obtain ⟨path, hpath, hcommand⟩ := ensures_launch (hostWith lib host configRules) sb a _ _ _ h
  obtain ⟨rfl, loaded, policy, hloaded, hpolicy, hdump⟩ := of_writePolicy_eq_ok lib hpath
  refine ⟨loaded, policy, hloaded, hpolicy, hdump, hcommand, ?_⟩
  have hendpoints := policyEndpoints_basePolicy lib hloaded hpolicy
  rw [RulesAgree]
  constructor
  · intro hgrants
    rw [hgrants, add_assoc] at hendpoints
    exact add_left_cancel hendpoints
  · intro hagree
    rw [← hagree, ← add_assoc] at hendpoints
    exact add_right_cancel hendpoints

end OpenShellSandbox

namespace Sample

open OpenShellSandbox

/-- A policy without endpoints. -/
def denyAll : PyVal := .dict [(.str "version", .int 1), (.str "network_policies", .dict [])]

/-- A library that loads this policy. -/
def policyLib : PolicyLib where
  load _ := .ok denyAll
  dump _ _ := .ok ()
  int
    | .int n => .ok n
    | _ => .error ⟨.valueError, "invalid literal for int()"⟩

/-- The egress rules of a call. -/
def apiRules : List EgressTarget := [{ host := "api.example.com" }]

/-- The same rules in a configuration. -/
def apiConfig : List PyVal := [.dict [(.str "host", .str "api.example.com")]]

/-- Starting the sandbox with these rules of the call. -/
def launchSample (configRules : List PyVal) : EStateM.Result PyErr AuditLog Launch :=
  launchWith policyLib deployHost configRules ⟨"task-1", "vs-0123", "policy.yaml"⟩ apiRules
    (deployArgs "MODE" "test") newAuditLog

/-- If the policy is written, no gate refuses the task. -/
theorem exists_launchSample {configRules : List PyVal} (hpolicy : ∀ policyPath path,
    (hostWith policyLib deployHost configRules).writePolicy policyPath path = .ok ()) :
    ∃ l audit', launchSample configRules = .ok l audit' := by
  have hready : (hostWith policyLib deployHost configRules).Ready :=
    { deployHost_ready with policy := hpolicy }
  have hname : NoNul "vs-0123" := by decide +kernel
  have hrefuses : Refuses (OpenShellSandbox.launch (hostWith policyLib deployHost configRules)
      ⟨"task-1", "vs-0123", "policy.yaml"⟩ (deployArgs "MODE" "test")) newAuditLog ↔ _ :=
    (launch_refusesIff hready hname).refuses_iff trivial
  cases h : launchSample configRules with
  | ok l audit' => exact ⟨l, audit', rfl⟩
  | error err audit' =>
    rcases hrefuses.1 ⟨err, audit', h⟩ with hentry | hkey | hscan
    · exact absurd (by decide +kernel) hentry
    · exact absurd rfl hkey.1
    · exact absurd (hscan.2 _ rfl) nofun

/-- The endpoint that the call asks for is not in the policy. -/
theorem endpoint_not_granted :
    (∃ l audit', launchSample [] = .ok l audit') ∧
    ∃ policy, basePolicy policyLib [] "policy.yaml" = .ok policy ∧
      policyEndpoints policy ≠ policyEndpoints denyAll +
        (apiRules.filterMap EgressTarget.endpoint? : List PyVal) := by
  refine ⟨exists_launchSample fun _ _ => rfl, _, rfl, fun h => ?_⟩
  exact absurd (congrArg Multiset.card h) (by decide)

/-- The endpoint is in the policy if the configuration asks for it as well. -/
theorem endpoint_granted :
    ∃ policy, basePolicy policyLib apiConfig "policy.yaml" = .ok policy ∧
      policyEndpoints policy = policyEndpoints denyAll +
        (apiRules.filterMap EgressTarget.endpoint? : List PyVal) := by
  obtain ⟨l, audit', h⟩ : ∃ l audit', launchSample apiConfig = .ok l audit' :=
    exists_launchSample fun _ _ => rfl
  obtain ⟨loaded, policy, hloaded, hpolicy, -, -, hgrants⟩ := policy_grants_iff policyLib
    deployHost apiConfig ⟨"task-1", "vs-0123", "policy.yaml"⟩ apiRules (deployArgs "MODE" "test") h
  cases hloaded
  exact ⟨policy, hpolicy, hgrants.2 rfl⟩

end Sample

end VibeShield
