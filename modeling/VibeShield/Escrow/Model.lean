import VibeShield.Lib.Machine
import VibeShield.Lib.PyDict
import VibeShield.Python.Arith
import VibeShield.Python.Runtime

/-!
# The escrow engine

Clients post bounties, agents claim them and submit work, clients approve or
dispute it; a settled bounty adds an entry to the history of the agent's
reputation, and the score computed from the history decides who may claim.

The engine is a `Machine` (`escrow`): a call (`EscrowCall`) is one of the
operations (`EscrowOp`) with the readings of the clock during it. The argument of
`now` only tells the readings of a call apart: they need not be taken in its
order, and not every call takes all of them.
-/

namespace VibeShield

/-- The states of a bounty. -/
inductive BountyState
  | opened
  | claimed
  | inProgress
  | submitted
  | underReview
  | approved
  | disputed
  | settled
  | cancelled
deriving DecidableEq, Repr

/-- How a dispute is resolved. -/
inductive DisputeResolution
  | clientFavor
  | agentFavor
  | split
deriving DecidableEq, Repr

/-- A task posted on the marketplace. -/
structure Bounty (F : Type*) where
  bountyId : String
  clientId : String
  title : String
  description : String
  reward : F
  requirements : PyVal := .dict []
  state : BountyState := .opened
  claimedBy : Option String := none
  submittedAt : Option F := none
  settledAt : Option F := none
  createdAt : F
  /-- The hash of the deliverable. -/
  outputSnapshot : Option String := none

/-- The result of a task, in the history of an agent. -/
structure HistoryEntry (F : Type*) where
  score : F
  verified : Bool
  disputed : Bool
  timestamp : F

/-- The reputation of an agent. A bounty that is settled unclaimed is counted
    for the agent `None`. -/
structure Reputation (F : Type*) where
  agentId : Option String
  score : F
  totalTasks : ℕ := 0
  completedTasks : ℕ := 0
  disputedCount : ℕ := 0
  verified : Bool := false
  history : List (HistoryEntry F) := []
  lastUpdated : F

/-- The settings of the engine. -/
structure EscrowConfig (F : Type*) where
  consensusAgents : ℤ
  reputationDecayFactor : F
  verifiedMultiplier : F
  minReputation : F

/-- A vote of the consensus panel. -/
structure ConsensusVote where
  agentId : String
  decision : DisputeResolution
  reasoning : String

/-- The engine. -/
structure EscrowEngine (F : Type*) where
  config : EscrowConfig F
  bounties : PyDict String (Bounty F)
  reputations : PyDict (Option String) (Reputation F)

/-- What `get_agent_reputation` returns. -/
structure ReputationSummary (F : Type*) where
  agentId : String
  rsScore : F
  totalTasks : ℕ
  completedTasks : ℕ
  disputedCount : ℕ
  verified : Bool
  bountyMultiplier : F
  eligible : Bool

variable {F : Type*} [PyArith F]

open PyArith

/-! ## Reputation -/

namespace Reputation

/-- The reputation an agent starts with. -/
def new (agentId : Option String) (now : F) : Reputation F where
  agentId := agentId
  score := lit (1 / 2)
  lastUpdated := now

/-- The weights of `n` results, the most recent one last. -/
def weights (decayFactor : F) (n : ℕ) : Except PyErr (List F) :=
  (List.range n).mapM fun i => pow decayFactor (n - 1 - i)

/-- The weighted mean of the scores of the history. -/
def calculateRs (r : Reputation F) (decayFactor : F) : Except PyErr F := do
  if r.history = [] then return r.score
  let weights ← weights decayFactor r.history.length
  let totalWeight := sum weights
  if isZero totalWeight then return r.score
  let rs := div (sum (List.zipWith mul weights (r.history.map HistoryEntry.score))) totalWeight
  return round rs 4

/-- Adding a new task result; the clock is read at the entry and at the end. -/
def update (r : Reputation F) (taskScore : F) (wasVerified wasDisputed : Bool) (t₁ t₂ : F) :
    Reputation F :=
  { r with
    history := r.history ++ [⟨taskScore, wasVerified, wasDisputed, t₁⟩]
    totalTasks := r.totalTasks + 1
    disputedCount := if wasDisputed then r.disputedCount + 1 else r.disputedCount
    completedTasks :=
      if !wasDisputed && le (lit (4 / 5)) taskScore then r.completedTasks + 1
      else r.completedTasks
    lastUpdated := t₂ }

end Reputation

/-! ## Operations -/

namespace EscrowEngine

/-- The engine without bounties and reputations. -/
def new (config : EscrowConfig F) : EscrowEngine F where
  config := config
  bounties := PyDict.empty
  reputations := PyDict.empty

/-- The reputation of an agent, created if there is none. -/
def getOrCreateReputation (s : EscrowEngine F) (agentId : Option String) (now : F) :
    EscrowEngine F × Reputation F :=
  match s.reputations.get? agentId with
  | some r => (s, r)
  | none =>
    let r := Reputation.new agentId now
    ({ s with reputations := s.reputations.set agentId r }, r)

/-- Replacing a bounty. -/
def setBounty (s : EscrowEngine F) (bountyId : String) (b : Bounty F) : EscrowEngine F :=
  { s with bounties := s.bounties.set bountyId b }

/-- Updating the reputation of an agent with a result. -/
def updateReputation (s : EscrowEngine F) (agentId : Option String) (taskScore : F)
    (wasVerified wasDisputed : Bool) (now t₁ t₂ : F) : EscrowEngine F :=
  let (s, r) := s.getOrCreateReputation agentId now
  { s with
    reputations := s.reputations.set agentId (r.update taskScore wasVerified wasDisputed t₁ t₂) }

/-- Creating a bounty; `freshId` is the id that was drawn for it. -/
def createBounty (s : EscrowEngine F) (now : ℕ → F) (freshId clientId title description : String)
    (reward : F) (requirements : PyVal) : EscrowEngine F × Bounty F :=
  let b : Bounty F := {
    bountyId := freshId
    clientId := clientId
    title := title
    description := description
    reward := reward
    requirements := if requirements.truthy then requirements else .dict []
    createdAt := now 0 }
  (s.setBounty freshId b, b)

/-- An agent claims an open bounty. -/
def claimBounty (s : EscrowEngine F) (now : ℕ → F) (bountyId agentId : String) :
    EscrowEngine F × Except PyErr Bool :=
  match s.bounties.get? bountyId with
  | none => (s, .ok false)
  | some b =>
    if b.state ≠ .opened then (s, .ok false)
    else
      let (s, reputation) := s.getOrCreateReputation (some agentId) (now 0)
      match reputation.calculateRs s.config.reputationDecayFactor with
      | .error err => (s, .error err)
      | .ok rs =>
        if lt rs s.config.minReputation then (s, .ok false)
        else
          (s.setBounty bountyId { b with state := .claimed, claimedBy := some agentId }, .ok true)

/-- An agent submits completed work, of which the hash is kept. -/
def submitWork (py : Python) (s : EscrowEngine F) (now : ℕ → F)
    (bountyId agentId output : String) : EscrowEngine F × Except PyErr Bool :=
  match s.bounties.get? bountyId with
  | none => (s, .ok false)
  | some b =>
    if b.claimedBy ≠ some agentId then (s, .ok false)
    else
      -- Whatever the state of the bounty is.
      (s.setBounty bountyId { b with
        outputSnapshot := some (py.sha256 output)
        state := .submitted
        submittedAt := some (now 0) }, .ok true)

/-- The client approves the submitted work. -/
def approveBounty (s : EscrowEngine F) (now : ℕ → F) (bountyId clientId : String) :
    EscrowEngine F × Except PyErr Bool :=
  match s.bounties.get? bountyId with
  | none => (s, .ok false)
  | some b =>
    if b.clientId ≠ clientId then (s, .ok false)
    else if b.state ≠ .submitted then (s, .ok false)
    else
      let s := s.updateReputation b.claimedBy (lit 1) true false (now 0) (now 1) (now 2)
      (s.setBounty bountyId { b with state := .settled, settledAt := some (now 3) }, .ok true)

/-- The votes of the consensus panel. -/
def votes (consensusAgents : ℤ) : List ConsensusVote :=
  (List.range consensusAgents.toNat).map fun i => {
    agentId := s!"consensus_agent_{i}"
    decision := .agentFavor
    reasoning := "Output matches bounty requirements." }

/-- Counting the votes for each decision. -/
def tally (votes : List ConsensusVote) : PyDict DisputeResolution ℕ :=
  votes.foldl (fun t v => t.set v.decision ((t.get? v.decision).getD 0 + 1)) PyDict.empty

/-- `max(tallies, key=tallies.get)`: the first key with the greatest value. -/
def maxKey (tallies : PyDict DisputeResolution ℕ) : Except PyErr DisputeResolution :=
  match tallies.items with
  | [] => .error ⟨.valueError, "max() arg is an empty sequence"⟩
  | p :: ps => .ok (ps.foldl (fun best q => if best.2 < q.2 then q else best) p).1

/-- The decision of the consensus panel. -/
def runConsensus (s : EscrowEngine F) : Except PyErr DisputeResolution :=
  maxKey (tally (votes s.config.consensusAgents))

/-- The client disputes the submitted work, and the consensus panel decides. -/
def disputeBounty (s : EscrowEngine F) (now : ℕ → F) (bountyId clientId _reason : String) :
    EscrowEngine F × Except PyErr Bool :=
  match s.bounties.get? bountyId with
  | none => (s, .ok false)
  | some b =>
    if b.clientId ≠ clientId then (s, .ok false)
    else
      -- Whatever the state of the bounty is. It stays disputed if the panel raises.
      let s := s.setBounty bountyId { b with state := .disputed }
      match s.runConsensus with
      | .error err => (s, .error err)
      | .ok resolution =>
        let s := s.setBounty bountyId { b with state := .settled, settledAt := some (now 0) }
        let (score, wasVerified, wasDisputed) : F × Bool × Bool :=
          match resolution with
          | .agentFavor => (lit 1, true, false)
          | .clientFavor => (lit 0, false, true)
          | .split => (lit (1 / 2), false, false)
        (s.updateReputation b.claimedBy score wasVerified wasDisputed (now 1) (now 2) (now 3),
          .ok true)

/-- The summary of the reputation of an agent. -/
def getAgentReputation (s : EscrowEngine F) (now : ℕ → F) (agentId : String) :
    EscrowEngine F × Except PyErr (ReputationSummary F) :=
  let (s, rep) := s.getOrCreateReputation (some agentId) (now 0)
  match rep.calculateRs s.config.reputationDecayFactor with
  | .error err => (s, .error err)
  | .ok rs =>
    (s, .ok {
      agentId := agentId
      rsScore := rs
      totalTasks := rep.totalTasks
      completedTasks := rep.completedTasks
      disputedCount := rep.disputedCount
      verified := rep.verified
      bountyMultiplier := if rep.verified then s.config.verifiedMultiplier else lit 1
      eligible := le s.config.minReputation rs })

end EscrowEngine

/-! ## The machine -/

/-- The operations of the engine. -/
inductive EscrowOp (F : Type*)
  | createBounty (freshId clientId title description : String) (reward : F) (requirements : PyVal)
  | claimBounty (bountyId agentId : String)
  | submitWork (bountyId agentId output : String)
  | approveBounty (bountyId clientId : String)
  | disputeBounty (bountyId clientId reason : String)
  | getAgentReputation (agentId : String)

/-- A call: an operation and the readings of the clock during it. -/
structure EscrowCall (F : Type*) where
  op : EscrowOp F
  now : ℕ → F

/-- What a call returns. -/
inductive EscrowReply (F : Type*)
  | bounty (b : Bounty F)
  | bool (b : Bool)
  | reputation (r : ReputationSummary F)

/-- The engine as a machine. -/
def escrow (F : Type*) [PyArith F] (py : Python) :
    Machine (EscrowEngine F) (EscrowCall F) (Except PyErr (EscrowReply F)) where
  step s c :=
    match c.op with
    | .createBounty freshId clientId title description reward requirements =>
      (s.createBounty c.now freshId clientId title description reward requirements).map id
        fun b => .ok (.bounty b)
    | .claimBounty bountyId agentId => (s.claimBounty c.now bountyId agentId).map id (·.map .bool)
    | .submitWork bountyId agentId output =>
      (s.submitWork py c.now bountyId agentId output).map id (·.map .bool)
    | .approveBounty bountyId clientId =>
      (s.approveBounty c.now bountyId clientId).map id (·.map .bool)
    | .disputeBounty bountyId clientId reason =>
      (s.disputeBounty c.now bountyId clientId reason).map id (·.map .bool)
    | .getAgentReputation agentId => (s.getAgentReputation c.now agentId).map id (·.map .reputation)

end VibeShield
