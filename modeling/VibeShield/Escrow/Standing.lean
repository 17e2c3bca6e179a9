import VibeShield.Escrow.Accounting
import VibeShield.Escrow.Disputes
import VibeShield.Escrow.Reputation

/-!
# The standing of an agent

Every settlement is in favour of the agent: an approval counts as a success, and so does a
dispute, as the consensus panel decides. In exact arithmetic, what the engine tells of an agent
(`get_agent_reputation`) is therefore a function of the number of settlements of its bounties
(`escrow_summary`), and an agent that is told to be eligible remains so
(`eligible_agent_claims`).
-/

namespace VibeShield

open PyArith

/-- The number of settlements of bounties that are claimed by `a`. -/
def settledFor {F : Type*} (a : Option String) (evs : List (EscrowEvent F)) : ℕ :=
  evs.countP fun ev => (ev.input.op.settles && succeeds ev.output) &&
    decide (ev.input.op.bountyId?.bind ev.pre.holder = a)

/-- The score after `n` successes. -/
def standing (n : ℕ) : ℚ := if n = 0 then 1 / 2 else 1

/-- The reputation of an agent with `n` successes, and nothing else in its history. -/
structure Reputation.Credited (r : Reputation ℚ) (n : ℕ) : Prop where
  score : r.score = 1 / 2
  scores : r.scores = List.replicate n 1
  totalTasks : r.totalTasks = n
  completedTasks : r.completedTasks = n
  disputedCount : r.disputedCount = 0
  verified : r.verified = false

theorem standing_le {m n : ℕ} (h : m ≤ n) : standing m ≤ standing n := by
  rw [standing, standing]
  split
  · split <;> norm_num
  · next hm => rw [if_neg (by omega)]

/-! ## Reputations -/

namespace Reputation

theorem credited_new (agent : Option String) (t : ℚ) : (new agent t).Credited 0 where
  score := rfl
  scores := rfl
  totalTasks := rfl
  completedTasks := rfl
  disputedCount := rfl
  verified := rfl

variable {r : Reputation ℚ} {n : ℕ}

/-- One more success. -/
theorem Credited.update (h : r.Credited n) (t₁ t₂ : ℚ) :
    (r.update 1 true false t₁ t₂).Credited (n + 1) where
  score := h.score
  scores := by rw [scores_update, h.scores, List.replicate_succ']
  totalTasks := congrArg (· + 1) h.totalTasks
  completedTasks := by
    have hle : PyArith.le (4 / 5 : ℚ) 1 = true := decide_eq_true (by norm_num)
    simp [Reputation.update, hle, h.completedTasks]
  disputedCount := by simp [Reputation.update, h.disputedCount]
  verified := h.verified

/-- The mean of successes. -/
theorem Credited.calculateRs (h : r.Credited n) {d : ℚ} (hd : 0 < d) :
    r.calculateRs d = .ok (standing n) := by
  have hlen : r.history.length = n := by
    have hlen := congrArg List.length h.scores
    rwa [Reputation.scores, List.length_map, List.length_replicate] at hlen
  rw [standing]
  split
  · next hn =>
    have hnil : r.history = [] := List.length_eq_zero_iff.1 (hlen.trans hn)
    rw [Reputation.calculateRs, if_pos hnil, h.score]
    rfl
  · next hn =>
    have hne : r.history ≠ [] := fun hnil => hn (hlen ▸ congrArg List.length hnil)
    have hround : PyArith.round (1 : ℚ) 4 = 1 := by
      have hfour : roundHalfEven ((10 : ℚ) ^ 4) = 10 ^ 4 :=
        le_antisymm (roundHalfEven_le (by norm_num)) (le_roundHalfEven (by norm_num))
      change (roundHalfEven (1 * 10 ^ 4) : ℚ) / 10 ^ 4 = 1
      rw [one_mul, hfour]
      norm_num
    rw [calculateRs_eq_ok hd hne, unroundedRs_eq_mean, h.scores,
      RecencyMean.mean_replicate hd.le _ hn, hround]

end Reputation

/-! ## Runs -/

/-- Every reputation has the successes that `n` counts. -/
def Credits (n : Option String → ℕ) (s : EscrowEngine ℚ) : Prop :=
  ∀ a, (∀ r, s.reputations.get? a = some r → r.Credited (n a)) ∧
    (s.reputations.get? a = none → n a = 0)

variable {py : Python} {n : Option String → ℕ} {s s' : EscrowEngine ℚ}

theorem Credits.getOrCreateReputation (h : Credits n s) (a : Option String) (t : ℚ) :
    (s.getOrCreateReputation a t).2.Credited (n a) := by
  rw [EscrowEngine.getOrCreateReputation]
  split
  · next r hr => exact (h a).1 r hr
  · next hr =>
    rw [(h a).2 hr]
    exact Reputation.credited_new a t

theorem Credits.addsRecord (h : Credits n s) (hs' : AddsRecord s s') : Credits n s' := by
  obtain rfl | ⟨agent, t, hnone, rfl⟩ := hs'
  · exact h
  · intro a
    simp only [PyDict.get?_set]
    split
    · next ha =>
      subst ha
      refine ⟨fun r hr => ?_, fun hnone => absurd hnone (Option.some_ne_none _)⟩
      rw [(h a).2 hnone, ← Option.some.inj hr]
      exact Reputation.credited_new a t
    · exact h a

theorem Credits.updateReputation (h : Credits n s) (agent : Option String) (t t₁ t₂ : ℚ) :
    Credits (fun a => n a + if agent = a then 1 else 0)
      (s.updateReputation agent 1 true false t t₁ t₂) := by
  intro a
  rw [EscrowEngine.get?_updateReputation]
  by_cases ha : a = agent
  · subst ha
    simp only [if_true]
    refine ⟨fun r hr => ?_, fun hnone => absurd hnone (Option.some_ne_none _)⟩
    rw [← Option.some.inj hr]
    exact (h.getOrCreateReputation a t).update t₁ t₂
  · simp only [if_neg ha, if_neg (Ne.symm ha)]
    exact h a

/-- What a step does to the reputations: a settlement is a success of the agent who has claimed
    the bounty, and nothing else adds a result. -/
theorem reputations_step_success (py : Python) (s : EscrowEngine ℚ) (c : EscrowCall ℚ) :
    let r := (escrow ℚ py).step s c
    ((∃ s', AddsRecord s s' ∧ r.1.reputations = s'.reputations) ∧
        (c.op.settles && succeeds r.2) = false) ∨
      ((∃ t t₁ t₂, r.1.reputations = (s.updateReputation (c.op.bountyId?.bind s.holder) 1 true false
          t t₁ t₂).reputations) ∧ (c.op.settles && succeeds r.2) = true) := by
  obtain hadds | ⟨_, hsettles⟩ := reputations_step py s c
  · exact .inl hadds
  refine .inr ⟨?_, hsettles⟩
  obtain ⟨hop, hsucceeds⟩ := Bool.and_eq_true_iff.1 hsettles
  obtain ⟨op, now⟩ := c
  cases op with
  | createBounty id client title description reward requirements =>
    exact absurd hop Bool.false_ne_true
  | claimBounty id agent => exact absurd hop Bool.false_ne_true
  | submitWork id agent output => exact absurd hop Bool.false_ne_true
  | approveBounty id client =>
    change ∃ t t₁ t₂, (s.approveBounty now id client).1.reputations = _
    have htrue := (succeeds_map_bool (s.approveBounty now id client).2).1 hsucceeds
    obtain ⟨b, hget, _, _, heq⟩ | heq := s.approveBounty_spec now id client
    · refine ⟨now 0, now 1, now 2, ?_⟩
      have hholder : s.holder id = b.claimedBy := congrArg (Option.bind · Bounty.claimedBy) hget
      rw [heq, EscrowOp.bountyId?, Option.bind_some, hholder]
      rfl
    · rw [heq] at htrue
      exact absurd htrue (by simp)
  | disputeBounty id client reason =>
    change ∃ t t₁ t₂, (s.disputeBounty now id client reason).1.reputations = _
    have htrue := (succeeds_map_bool (s.disputeBounty now id client reason).2).1 hsucceeds
    obtain ⟨b, hget, _, ⟨_, heq⟩ | ⟨_, heq⟩⟩ | ⟨heq, _⟩ := s.disputeBounty_spec now id client reason
    · refine ⟨now 1, now 2, now 3, ?_⟩
      have hholder : s.holder id = b.claimedBy := congrArg (Option.bind · Bounty.claimedBy) hget
      rw [heq, EscrowOp.bountyId?, Option.bind_some, hholder]
      refine (EscrowEngine.reputations_updateReputation_setBounty _ _ _ _ _ _ _ _ _ _).trans ?_
      exact s.reputations_updateReputation_setBounty _ _ _ _ _ _ _ _ _
    · rw [heq] at htrue
      exact absurd htrue (by simp)
    · rw [heq] at htrue
      exact absurd htrue (by simp)
  | getAgentReputation agent => exact absurd hop Bool.false_ne_true

theorem Credits.congr (h : Credits n s) (hs' : s'.reputations = s.reputations) : Credits n s' := by
  intro a
  rw [hs']
  exact h a

theorem Credits.step {evs : List (EscrowEvent ℚ)} (h : Credits (settledFor · evs) s)
    (c : EscrowCall ℚ) :
    Credits (settledFor · (evs ++ [(escrow ℚ py).event s c])) ((escrow ℚ py).step s c).1 := by
  have hcount (a : Option String) :
      settledFor a (evs ++ [(escrow ℚ py).event s c]) = settledFor a evs +
        if ((c.op.settles && succeeds ((escrow ℚ py).step s c).2) &&
          decide (c.op.bountyId?.bind s.holder = a)) = true then 1 else 0 := by
    rw [settledFor, List.countP_append, List.countP_singleton]
    rfl
  simp only [hcount]
  obtain ⟨⟨s', hadds, heq⟩, hnot⟩ | ⟨⟨t, t₁, t₂, heq⟩, hsettles⟩ := reputations_step_success py s c
  · rw [hnot]
    exact (h.addsRecord hadds).congr heq
  · rw [hsettles]
    simp only [Bool.true_and, decide_eq_true_iff]
    exact (h.updateReputation _ t t₁ t₂).congr heq

theorem credits_run (py : Python) (config : EscrowConfig ℚ) (cs : List (EscrowCall ℚ)) :
    Credits (settledFor · ((escrow ℚ py).events (.new config) cs))
      ((escrow ℚ py).run (.new config) cs) :=
  Machine.history_induction (G := fun _ _ => True)
    (P := fun evs s => Credits (settledFor · evs) s)
    (fun _ => ⟨fun _ h => absurd h (by simp [EscrowEngine.new]), fun _ => rfl⟩)
    (fun _ _ c _ h => h.step c) cs fun _ _ => trivial

/-- Who may claim a bounty. -/
theorem Credits.eligible_iff (h : Credits n s) (hd : 0 < s.config.reputationDecayFactor)
    (a : String) (t : ℚ) :
    s.Eligible a t ↔ s.config.minReputation ≤ standing (n (some a)) := by
  have hrs := (h.getOrCreateReputation (some a) t).calculateRs hd
  constructor
  · rintro ⟨rs, hok, hlt⟩
    obtain rfl := Except.ok.inj (hrs.symm.trans hok)
    exact not_lt.1 (of_decide_eq_false hlt)
  · intro hle
    exact ⟨_, hrs, decide_eq_false (not_lt.2 hle)⟩

theorem Credits.snd_getAgentReputation (h : Credits n s) (hd : 0 < s.config.reputationDecayFactor)
    (now : ℕ → ℚ) (a : String) :
    (s.getAgentReputation now a).2 = .ok {
      agentId := a
      rsScore := standing (n (some a))
      totalTasks := n (some a)
      completedTasks := n (some a)
      disputedCount := 0
      verified := false
      bountyMultiplier := 1
      eligible := s.config.minReputation ≤ standing (n (some a)) } := by
  have hcredited := h.getOrCreateReputation (some a) (now 0)
  rw [EscrowEngine.getAgentReputation]
  simp only [EscrowEngine.config_getOrCreateReputation, hcredited.calculateRs hd,
    hcredited.totalTasks, hcredited.completedTasks, hcredited.disputedCount, hcredited.verified]
  rfl

/-- In exact arithmetic, what the engine tells of an agent in any state that calls lead to is
    determined by the number of settlements of its bounties, approved or disputed: all of them
    are completed and none is disputed, the score is 1/2 before the first one and 1 from then on,
    and the verified multiplier is never applied. -/
theorem escrow_summary (py : Python) (config : EscrowConfig ℚ)
    (hd : 0 < config.reputationDecayFactor) (cs : List (EscrowCall ℚ)) (now : ℕ → ℚ)
    (a : String) :
    let n := settledFor (some a) ((escrow ℚ py).events (.new config) cs)
    (((escrow ℚ py).run (.new config) cs).getAgentReputation now a).2 = .ok {
      agentId := a
      rsScore := if n = 0 then 1 / 2 else 1
      totalTasks := n
      completedTasks := n
      disputedCount := 0
      verified := false
      bountyMultiplier := 1
      eligible := config.minReputation ≤ if n = 0 then 1 / 2 else 1 } := by
  intro n
  have h := (credits_run py config cs).snd_getAgentReputation (by rwa [config_run_new]) now a
  rwa [config_run_new] at h

namespace Sample

/-- The agent of the approved bounty. -/
theorem agent_summary :
    (((escrow ℚ escrowLib).run (.new escrowConfig) approvedRun).getAgentReputation
      (fun _ => 50) "agent").2 = .ok {
        agentId := "agent"
        rsScore := 1
        totalTasks := 1
        completedTasks := 1
        disputedCount := 0
        verified := false
        bountyMultiplier := 1
        eligible := true } := by
  have hn : settledFor (some "agent")
      ((escrow ℚ escrowLib).events (.new escrowConfig) approvedRun) = 1 := by decide +kernel
  have h := escrow_summary escrowLib escrowConfig (by decide +kernel) approvedRun (fun _ => 50)
    "agent"
  rw [hn] at h
  have helig : decide (escrowConfig.minReputation ≤ (if 1 = 0 then 1 / 2 else 1 : ℚ)) = true := by
    decide +kernel
  exact h.trans (congrArg (fun e => Except.ok (ReputationSummary.mk _ _ _ _ _ _ _ e)) helig)

end Sample

/-- In exact arithmetic, an agent that is told to be eligible remains so: from then on, every
    claim of an open bounty that it makes succeeds, whatever has happened in between. -/
theorem eligible_agent_claims (py : Python) (config : EscrowConfig ℚ)
    (hd : 0 < config.reputationDecayFactor) (cs ds : List (EscrowCall ℚ)) (now now' : ℕ → ℚ)
    (a id : String) (told : ReputationSummary ℚ) (b : Bounty ℚ)
    (htold : (((escrow ℚ py).run (.new config) cs).getAgentReputation now a).2 = .ok told)
    (heligible : told.eligible = true)
    (hget : ((escrow ℚ py).run (.new config) (cs ++ ds)).bounty id = some b)
    (hopen : b.state = .opened) :
    (((escrow ℚ py).run (.new config) (cs ++ ds)).claimBounty now' id a).2 = .ok true := by
  have hmono : settledFor (some a) ((escrow ℚ py).events (.new config) cs) ≤
      settledFor (some a) ((escrow ℚ py).events (.new config) (cs ++ ds)) := by
    rw [Machine.events_append, settledFor, settledFor, List.countP_append]
    exact Nat.le_add_right _ _
  have hmin : config.minReputation ≤
      standing (settledFor (some a) ((escrow ℚ py).events (.new config) cs)) := by
    rw [(credits_run py config cs).snd_getAgentReputation (by rwa [config_run_new])] at htold
    rw [← Except.ok.inj htold, config_run_new] at heligible
    exact of_decide_eq_true heligible
  have hclaim : ((escrow ℚ py).run (.new config) (cs ++ ds)).Eligible a (now' 0) := by
    rw [(credits_run py config (cs ++ ds)).eligible_iff (by rwa [config_run_new]), config_run_new]
    exact hmin.trans (standing_le hmono)
  obtain ⟨_, _, _, _, hreply, _⟩ | ⟨_, _, hnot⟩ :=
    EscrowEngine.claimBounty_cases ((escrow ℚ py).run (.new config) (cs ++ ds)) now' id a
  · exact hreply
  · exact absurd hclaim (hnot b hget hopen)

namespace Sample

/-- What a newcomer is told by the default settings. -/
def newcomer : ReputationSummary ℚ where
  agentId := "agent"
  rsScore := 1 / 2
  totalTasks := 0
  completedTasks := 0
  disputedCount := 0
  verified := false
  bountyMultiplier := 1
  eligible := (3 / 10 : ℚ) ≤ 1 / 2

theorem newcomer_claims :
    (((escrow ℚ escrowLib).run (.new escrowConfig) [createCall]).claimBounty (fun _ => 10)
      "bounty" "agent").2 = .ok true :=
  eligible_agent_claims escrowLib escrowConfig (by decide +kernel) [] [createCall] (fun _ => 0)
    (fun _ => 10) "agent" "bounty" newcomer _ rfl (by decide +kernel) rfl rfl

end Sample

end VibeShield
