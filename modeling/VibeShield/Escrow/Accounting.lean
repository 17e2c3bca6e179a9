import VibeShield.Escrow.Claims

/-!
# Frames and accounts of the escrow

A call that returns `False` changes nothing, except that a reputation may be created
(`AddsRecord`); one that returns `True` changes one bounty, and no reputation but that of the
agent who has claimed it (`ChangesOnly`). The counters of every reputation agree with its
history (`Reputation.Balanced`), and together they count the bounties that were approved or
disputed: `escrow_accounts`.
-/

namespace VibeShield

variable {F : Type*}

/-- The counters of a reputation agree with its history. -/
structure Reputation.Balanced (r : Reputation F) : Prop where
  total_eq : r.totalTasks = r.history.length
  le_total : r.completedTasks + r.disputedCount ≤ r.totalTasks

/-- Nothing changes, except that a new reputation may be there for an agent who had none. -/
def AddsRecord [PyArith F] (s s' : EscrowEngine F) : Prop :=
  s' = s ∨ ∃ agent t, s.reputations.get? agent = none ∧
    s' = { s with reputations := s.reputations.set agent (.new agent t) }

/-- Only the bounty `id` changes, and no reputation but that of the agent who has claimed it
    then. An entry is added to its history only if the agent had claimed it before. -/
structure ChangesOnly (s s' : EscrowEngine F) (id : String) (b b' : Bounty F) : Prop where
  pre : s.bounty id = some b
  post : s'.bounty id = some b'
  bounty : ∀ k, k ≠ id → s'.bounty k = s.bounty k
  reputation : ∀ a, a ≠ b'.claimedBy → s'.reputations.get? a = s.reputations.get? a
  history : s'.history b'.claimedBy = s.history b'.claimedBy ∨
    (b'.claimedBy = b.claimedBy ∧ ∃ e, s'.history b'.claimedBy = s.history b'.claimedBy ++ [e])

/-- The operation approves or disputes a bounty. -/
def EscrowOp.settles : EscrowOp F → Bool
  | .approveBounty _ _ => true
  | .disputeBounty _ _ _ => true
  | _ => false

/-- The number of bounties approved and disputed with success. -/
def settlements (evs : List (EscrowEvent F)) : ℕ :=
  evs.countP fun ev => ev.input.op.settles && succeeds ev.output

variable [PyArith F] {py : Python}

/-! ## Reputations -/

theorem Reputation.balanced_new (agent : Option String) (t : F) :
    (Reputation.new agent t).Balanced :=
  ⟨rfl, Nat.zero_le _⟩

/-- A result counts as completed, as disputed, or as neither. -/
theorem Reputation.Balanced.update {r : Reputation F} (h : r.Balanced) (x : F) (v d : Bool)
    (t₁ t₂ : F) : (r.update x v d t₁ t₂).Balanced where
  total_eq := by
    rw [Reputation.update, List.length_append, List.length_singleton, ← h.total_eq]
  le_total := by
    have hle := h.le_total
    rw [Reputation.update]
    cases d with
    | true =>
      simp only [Bool.not_true, Bool.false_and, Bool.false_eq_true, if_false, if_true]
      omega
    | false =>
      simp only [Bool.not_false, Bool.true_and, Bool.false_eq_true, if_false]
      split <;> omega

/-- A new reputation has no tasks. -/
theorem AddsRecord.sumOf_totalTasks {s s' : EscrowEngine F}
    (h : AddsRecord s s') :
    s'.reputations.sumOf Reputation.totalTasks = s.reputations.sumOf Reputation.totalTasks := by
  obtain rfl | ⟨agent, t, hnone, rfl⟩ := h
  · rfl
  · have hsum := s.reputations.sumOf_set Reputation.totalTasks agent (.new agent t)
    rwa [hnone] at hsum

namespace EscrowEngine

variable (s : EscrowEngine F) (agent : Option String) (t : F)

theorem addsRecord_getOrCreateReputation :
    AddsRecord s (s.getOrCreateReputation agent t).1 := by
  rw [getOrCreateReputation]
  split
  · exact .inl rfl
  · next h => exact .inr ⟨agent, t, h, rfl⟩

theorem get?_getOrCreateReputation (a : Option String) :
    (s.getOrCreateReputation agent t).1.reputations.get? a =
      if a = agent then some (s.getOrCreateReputation agent t).2 else s.reputations.get? a := by
  rw [getOrCreateReputation]
  split
  · next r h =>
    split
    · next ha => rw [ha, h]
    · rfl
  · exact s.reputations.get?_set agent a _

theorem get?_updateReputation (x : F) (v d : Bool) (t₁ t₂ : F) (a : Option String) :
    (s.updateReputation agent x v d t t₁ t₂).reputations.get? a =
      if a = agent then some ((s.getOrCreateReputation agent t).2.update x v d t₁ t₂)
      else s.reputations.get? a := by
  rw [updateReputation, PyDict.get?_set, get?_getOrCreateReputation]
  split <;> rfl

theorem reputations_updateReputation_setBounty (id : String) (b : Bounty F) (x : F) (v d : Bool)
    (t₁ t₂ : F) : ((s.setBounty id b).updateReputation agent x v d t t₁ t₂).reputations =
      (s.updateReputation agent x v d t t₁ t₂).reputations := by
  have hget : (s.setBounty id b).reputations.get? agent = s.reputations.get? agent := rfl
  rw [updateReputation, updateReputation, getOrCreateReputation, getOrCreateReputation, hget]
  cases s.reputations.get? agent <;> rfl

/-- A result is one more task. -/
theorem sumOf_totalTasks_updateReputation (x : F) (v d : Bool) (t₁ t₂ : F) :
    (s.updateReputation agent x v d t t₁ t₂).reputations.sumOf Reputation.totalTasks =
      s.reputations.sumOf Reputation.totalTasks + 1 := by
  have hsum := (s.getOrCreateReputation agent t).1.reputations.sumOf_set Reputation.totalTasks agent
    ((s.getOrCreateReputation agent t).2.update x v d t₁ t₂)
  rw [get?_getOrCreateReputation, if_pos rfl, Option.map_some, Option.getD_some,
    (s.addsRecord_getOrCreateReputation agent t).sumOf_totalTasks] at hsum
  have hupdate : ((s.getOrCreateReputation agent t).2.update x v d t₁ t₂).totalTasks =
      (s.getOrCreateReputation agent t).2.totalTasks + 1 := rfl
  have hset : (s.updateReputation agent x v d t t₁ t₂).reputations =
      (s.getOrCreateReputation agent t).1.reputations.set agent
        ((s.getOrCreateReputation agent t).2.update x v d t₁ t₂) := rfl
  rw [hset]
  omega

end EscrowEngine

/-! ## Steps -/

omit [PyArith F] in
theorem map_bool_eq_ok_iff {r : Except PyErr Bool} {x : Bool} :
    r.map (EscrowReply.bool (F := F)) = .ok (.bool x) ↔ r = .ok x := by
  cases r with
  | error err => exact ⟨nofun, nofun⟩
  | ok y => exact ⟨fun h => congrArg Except.ok (EscrowReply.bool.inj (Except.ok.inj h)), fun h => by
      rw [Except.ok.inj h]; rfl⟩

omit [PyArith F] in
theorem map_reputation_ne_bool {r : Except PyErr (ReputationSummary F)} {x : Bool} :
    r.map EscrowReply.reputation ≠ .ok (.bool x) := by
  cases r with
  | error err => exact nofun
  | ok y => exact nofun

/-- A call that returns `False` adds a reputation at most. -/
theorem addsRecord_of_false (s : EscrowEngine F) (c : EscrowCall F)
    (h : ((escrow F py).step s c).2 = .ok (.bool false)) :
    AddsRecord s ((escrow F py).step s c).1 := by
  obtain ⟨op, now⟩ := c
  cases op with
  | createBounty id client title description reward requirements => cases h
  | claimBounty id agent =>
    have hfalse : (s.claimBounty now id agent).2 = .ok false := map_bool_eq_ok_iff.1 h
    change AddsRecord s (s.claimBounty now id agent).1
    obtain ⟨b, _, _, _, heq⟩ | ⟨heq | heq, _⟩ := s.claimBounty_spec now id agent
    · rw [heq] at hfalse
      cases hfalse
    · exact .inl heq
    · rw [heq]
      exact s.addsRecord_getOrCreateReputation _ _
  | submitWork id agent output =>
    have hfalse : (s.submitWork py now id agent output).2 = .ok false := map_bool_eq_ok_iff.1 h
    change AddsRecord s (s.submitWork py now id agent output).1
    obtain ⟨b, _, _, heq⟩ | ⟨heq, _⟩ := s.submitWork_spec now py id agent output
    · rw [heq] at hfalse
      cases hfalse
    · exact .inl (congrArg Prod.fst heq)
  | approveBounty id client =>
    have hfalse : (s.approveBounty now id client).2 = .ok false := map_bool_eq_ok_iff.1 h
    change AddsRecord s (s.approveBounty now id client).1
    obtain ⟨b, _, _, _, heq⟩ | heq := s.approveBounty_spec now id client
    · rw [heq] at hfalse
      cases hfalse
    · exact .inl (congrArg Prod.fst heq)
  | disputeBounty id client reason =>
    have hfalse : (s.disputeBounty now id client reason).2 = .ok false := map_bool_eq_ok_iff.1 h
    change AddsRecord s (s.disputeBounty now id client reason).1
    obtain ⟨b, _, _, ⟨_, heq⟩ | ⟨_, heq⟩⟩ | ⟨heq, _⟩ := s.disputeBounty_spec now id client reason
    · rw [heq] at hfalse
      cases hfalse
    · rw [heq] at hfalse
      cases hfalse
    · exact .inl (congrArg Prod.fst heq)
  | getAgentReputation agent => exact absurd h map_reputation_ne_bool

open EscrowEngine in
/-- A call that returns `True` changes one bounty and the reputation of who has claimed it. -/
theorem changesOnly_of_true (s : EscrowEngine F) (c : EscrowCall F)
    (h : ((escrow F py).step s c).2 = .ok (.bool true)) :
    ∃ id b b', c.op.bountyId? = some id ∧
      ChangesOnly s ((escrow F py).step s c).1 id b b' := by
  obtain ⟨op, now⟩ := c
  cases op with
  | createBounty id client title description reward requirements => cases h
  | claimBounty id agent =>
    have htrue : (s.claimBounty now id agent).2 = .ok true := map_bool_eq_ok_iff.1 h
    change ∃ id' b b', some id = some id' ∧ ChangesOnly s (s.claimBounty now id agent).1 id' b b'
    obtain ⟨b, hget, _, _, heq⟩ | ⟨_, hnot, _⟩ := s.claimBounty_spec now id agent
    · rw [heq]
      refine ⟨id, b, { b with state := .claimed, claimedBy := some agent }, rfl, hget, ?_,
        fun k hk => ?_, fun a ha => ?_, .inl ?_⟩
      · rw [bounty_setBounty, if_pos rfl]
      · rw [bounty_setBounty, if_neg hk, bounty_getOrCreateReputation]
      · exact (s.get?_getOrCreateReputation _ _ a).trans (if_neg ha)
      · exact s.history_getOrCreateReputation _ _ _
    · exact absurd htrue hnot
  | submitWork id agent output =>
    have htrue : (s.submitWork py now id agent output).2 = .ok true := map_bool_eq_ok_iff.1 h
    change ∃ id' b b', some id = some id' ∧
      ChangesOnly s (s.submitWork py now id agent output).1 id' b b'
    obtain ⟨b, hget, _, heq⟩ | ⟨heq, _⟩ := s.submitWork_spec now py id agent output
    · rw [heq]
      refine ⟨id, b, { b with
        outputSnapshot := some (py.sha256 output)
        state := .submitted
        submittedAt := some (now 0) }, rfl, hget, ?_, fun k hk => ?_, fun _ _ => rfl, .inl rfl⟩
      · rw [bounty_setBounty, if_pos rfl]
      · rw [bounty_setBounty, if_neg hk]
    · rw [heq] at htrue
      cases htrue
  | approveBounty id client =>
    have htrue : (s.approveBounty now id client).2 = .ok true := map_bool_eq_ok_iff.1 h
    change ∃ id' b b', some id = some id' ∧
      ChangesOnly s (s.approveBounty now id client).1 id' b b'
    obtain ⟨b, hget, _, _, heq⟩ | heq := s.approveBounty_spec now id client
    · rw [heq]
      refine ⟨id, b, { b with state := .settled, settledAt := some (now 3) }, rfl, hget, ?_,
        fun k hk => ?_, fun a ha => ?_, .inr ⟨rfl, ⟨PyArith.lit 1, true, false, now 1⟩, ?_⟩⟩
      · rw [bounty_setBounty, if_pos rfl]
      · rw [bounty_setBounty, if_neg hk, bounty_updateReputation]
      · exact (s.get?_updateReputation _ _ _ _ _ _ _ a).trans (if_neg ha)
      · exact (s.history_updateReputation _ _ _ _ _ _ _ _).trans (if_pos rfl)
    · rw [heq] at htrue
      cases htrue
  | disputeBounty id client reason =>
    have htrue : (s.disputeBounty now id client reason).2 = .ok true := map_bool_eq_ok_iff.1 h
    change ∃ id' b b', some id = some id' ∧
      ChangesOnly s (s.disputeBounty now id client reason).1 id' b b'
    obtain ⟨b, hget, _, ⟨_, heq⟩ | ⟨_, heq⟩⟩ | ⟨heq, _⟩ := s.disputeBounty_spec now id client reason
    · rw [heq]
      refine ⟨id, b, { b with state := .settled, settledAt := some (now 0) }, rfl, hget, ?_,
        fun k hk => ?_, fun a ha => ?_, .inr ⟨rfl, ⟨PyArith.lit 1, true, false, now 2⟩, ?_⟩⟩
      · rw [bounty_updateReputation, bounty_setBounty, if_pos rfl]
      · rw [bounty_updateReputation, bounty_setBounty, if_neg hk, bounty_setBounty, if_neg hk]
      · exact (get?_updateReputation _ _ _ _ _ _ _ _ a).trans (if_neg ha)
      · exact (history_updateReputation _ _ _ _ _ _ _ _ _).trans (if_pos rfl)
    · rw [heq] at htrue
      cases htrue
    · rw [heq] at htrue
      cases htrue
  | getAgentReputation agent => exact absurd h map_reputation_ne_bool

/-! ## Accounts -/

/-- What a step does to the reputations: a result is added exactly if a bounty is approved or
    disputed. -/
theorem reputations_step (py : Python) (s : EscrowEngine F) (c : EscrowCall F) :
    let r := (escrow F py).step s c
    ((∃ s', AddsRecord s s' ∧ r.1.reputations = s'.reputations) ∧
        (c.op.settles && succeeds r.2) = false) ∨
      ((∃ agent t x v d t₁ t₂,
          r.1.reputations = (s.updateReputation agent x v d t t₁ t₂).reputations) ∧
        (c.op.settles && succeeds r.2) = true) := by
  obtain ⟨op, now⟩ := c
  cases op with
  | createBounty id client title description reward requirements =>
    exact .inl ⟨⟨s, .inl rfl, rfl⟩, rfl⟩
  | claimBounty id agent =>
    refine .inl ⟨?_, rfl⟩
    change ∃ s', AddsRecord s s' ∧ (s.claimBounty now id agent).1.reputations = s'.reputations
    obtain ⟨b, _, _, _, heq⟩ | ⟨heq | heq, _⟩ := s.claimBounty_spec now id agent
    · rw [heq]
      exact ⟨_, s.addsRecord_getOrCreateReputation _ _, rfl⟩
    · rw [heq]
      exact ⟨s, .inl rfl, rfl⟩
    · rw [heq]
      exact ⟨_, s.addsRecord_getOrCreateReputation _ _, rfl⟩
  | submitWork id agent output =>
    refine .inl ⟨⟨s, .inl rfl, ?_⟩, rfl⟩
    change (s.submitWork py now id agent output).1.reputations = _
    obtain ⟨b, _, _, heq⟩ | ⟨heq, _⟩ := s.submitWork_spec now py id agent output
    · rw [heq]
      rfl
    · rw [heq]
  | approveBounty id client =>
    have hstep : (escrow F py).step s ⟨.approveBounty id client, now⟩ =
        (s.approveBounty now id client).map (fun s => s) (·.map .bool) := rfl
    rw [hstep]
    obtain ⟨b, _, _, _, heq⟩ | heq := s.approveBounty_spec now id client
    · rw [heq]
      exact .inr ⟨⟨b.claimedBy, now 0, PyArith.lit 1, true, false, now 1, now 2, rfl⟩, rfl⟩
    · rw [heq]
      exact .inl ⟨⟨s, .inl rfl, rfl⟩, rfl⟩
  | disputeBounty id client reason =>
    have hstep : (escrow F py).step s ⟨.disputeBounty id client reason, now⟩ =
        (s.disputeBounty now id client reason).map (fun s => s) (·.map .bool) := rfl
    rw [hstep]
    obtain ⟨b, _, _, ⟨_, heq⟩ | ⟨_, heq⟩⟩ | ⟨heq, _⟩ := s.disputeBounty_spec now id client reason
    · rw [heq]
      refine .inr ⟨⟨b.claimedBy, now 1, PyArith.lit 1, true, false, now 2, now 3, ?_⟩, rfl⟩
      refine (EscrowEngine.reputations_updateReputation_setBounty _ _ _ _ _ _ _ _ _ _).trans ?_
      exact s.reputations_updateReputation_setBounty _ _ _ _ _ _ _ _ _
    · rw [heq]
      exact .inl ⟨⟨s, .inl rfl, rfl⟩, rfl⟩
    · rw [heq]
      exact .inl ⟨⟨s, .inl rfl, rfl⟩, rfl⟩
  | getAgentReputation agent =>
    refine .inl ⟨⟨_, s.addsRecord_getOrCreateReputation (some agent) (now 0), ?_⟩, rfl⟩
    exact congrArg EscrowEngine.reputations (s.fst_getAgentReputation now agent)

/-- What holds of all runs: every reputation is balanced, and together they count the
    settlements. -/
structure Accounts (evs : List (EscrowEvent F)) (s : EscrowEngine F) : Prop where
  balanced : ∀ a r, s.reputations.get? a = some r → r.Balanced
  sum : s.reputations.sumOf Reputation.totalTasks = settlements evs

theorem AddsRecord.balanced {s s' : EscrowEngine F} (h : AddsRecord s s')
    (hs : ∀ a r, s.reputations.get? a = some r → r.Balanced) :
    ∀ a r, s'.reputations.get? a = some r → r.Balanced := by
  obtain rfl | ⟨agent, t, _, rfl⟩ := h
  · exact hs
  · intro a r hr
    have hr : (s.reputations.set agent (.new agent t)).get? a = some r := hr
    rw [PyDict.get?_set] at hr
    split at hr
    · rw [← Option.some.inj hr]
      exact Reputation.balanced_new agent t
    · exact hs a r hr

theorem balanced_updateReputation {s : EscrowEngine F}
    (hs : ∀ a r, s.reputations.get? a = some r → r.Balanced) (agent : Option String) (t x : F)
    (v d : Bool) (t₁ t₂ : F) :
    ∀ a r, (s.updateReputation agent x v d t t₁ t₂).reputations.get? a = some r → r.Balanced := by
  intro a r hr
  rw [EscrowEngine.get?_updateReputation] at hr
  split at hr
  · rw [← Option.some.inj hr]
    refine Reputation.Balanced.update ?_ x v d t₁ t₂
    refine (s.addsRecord_getOrCreateReputation agent t).balanced hs agent _ ?_
    rw [EscrowEngine.get?_getOrCreateReputation, if_pos rfl]
  · exact hs a r hr

theorem Accounts.step {evs : List (EscrowEvent F)} {s : EscrowEngine F} (h : Accounts evs s)
    (c : EscrowCall F) :
    Accounts (evs ++ [(escrow F py).event s c]) ((escrow F py).step s c).1 := by
  have hcount : settlements (evs ++ [(escrow F py).event s c]) = settlements evs +
      if (c.op.settles && succeeds ((escrow F py).step s c).2) = true then 1 else 0 := by
    rw [settlements, List.countP_append, List.countP_singleton]
    rfl
  obtain ⟨⟨s', hadds, heq⟩, hnot⟩ | ⟨⟨agent, t, x, v, d, t₁, t₂, heq⟩, hsettles⟩ :=
    reputations_step py s c
  · refine ⟨?_, ?_⟩
    · rw [heq]
      exact hadds.balanced h.balanced
    · rw [heq, hadds.sumOf_totalTasks, h.sum, hcount, if_neg (Bool.not_eq_true _ ▸ hnot)]
      rfl
  · refine ⟨?_, ?_⟩
    · rw [heq]
      exact balanced_updateReputation h.balanced agent t x v d t₁ t₂
    · rw [heq, EscrowEngine.sumOf_totalTasks_updateReputation, h.sum, hcount, if_pos hsettles]

/-- Frames and accounts of the escrow, in every state that calls lead to. -/
theorem escrow_accounts (py : Python) (config : EscrowConfig F) (cs : List (EscrowCall F)) :
    let s := (escrow F py).run (.new config) cs
    (∀ c, ((escrow F py).step s c).2 = .ok (.bool false) →
      AddsRecord s ((escrow F py).step s c).1) ∧
    (∀ c, ((escrow F py).step s c).2 = .ok (.bool true) →
      ∃ id b b', c.op.bountyId? = some id ∧
        ChangesOnly s ((escrow F py).step s c).1 id b b') ∧
    (∀ a r, s.reputations.get? a = some r → r.totalTasks = r.history.length ∧
      r.completedTasks + r.disputedCount ≤ r.totalTasks) ∧
    s.reputations.sumOf Reputation.totalTasks =
      settlements ((escrow F py).events (.new config) cs) := by
  intro s
  have haccounts : Accounts ((escrow F py).events (.new config) cs) s :=
    Machine.history_induction (G := fun _ _ => True)
      ⟨fun _ _ h => absurd h (by simp [EscrowEngine.new]), rfl⟩
      (fun _ _ c _ h => h.step c) cs fun _ _ => trivial
  exact ⟨addsRecord_of_false s, changesOnly_of_true s,
    fun a r hr => ⟨(haccounts.balanced a r hr).total_eq, (haccounts.balanced a r hr).le_total⟩,
    haccounts.sum⟩

end VibeShield
