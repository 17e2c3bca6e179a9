import VibeShield.Escrow.Model

/-!
# What a call does to the bounties and the histories

`escrow_effect` lists it once for all operations: nothing, or one bounty is
created, claimed, submitted, settled, or left disputed (`Effect`). Only settling
touches a history, namely of the agent who claimed the bounty, and adds one entry
to it.
-/

namespace VibeShield

variable {F : Type*}

namespace EscrowEngine

/-- The bounty with the given id. -/
def bounty (s : EscrowEngine F) (bountyId : String) : Option (Bounty F) :=
  s.bounties.get? bountyId

/-- The history of an agent; empty if there is no reputation yet. -/
def history (s : EscrowEngine F) (agentId : Option String) : List (HistoryEntry F) :=
  ((s.reputations.get? agentId).map Reputation.history).getD []

@[simp] theorem bounty_new (config : EscrowConfig F) (k : String) :
    (new config).bounty k = none := rfl

@[simp] theorem bounty_setBounty (s : EscrowEngine F) (id : String) (b : Bounty F) (k : String) :
    (s.setBounty id b).bounty k = if k = id then some b else s.bounty k :=
  s.bounties.get?_set id k b

@[simp] theorem history_setBounty (s : EscrowEngine F) (id : String) (b : Bounty F)
    (a : Option String) : (s.setBounty id b).history a = s.history a := rfl

@[simp] theorem config_setBounty (s : EscrowEngine F) (id : String) (b : Bounty F) :
    (s.setBounty id b).config = s.config := rfl

variable [PyArith F]

@[simp] theorem bounty_getOrCreateReputation (s : EscrowEngine F) (agent : Option String) (t : F)
    (k : String) : (s.getOrCreateReputation agent t).1.bounty k = s.bounty k := by
  rw [getOrCreateReputation]
  split <;> rfl

@[simp] theorem config_getOrCreateReputation (s : EscrowEngine F) (agent : Option String) (t : F) :
    (s.getOrCreateReputation agent t).1.config = s.config := by
  rw [getOrCreateReputation]
  split <;> rfl

/-- A reputation that is created has no history yet. -/
@[simp] theorem history_getOrCreateReputation (s : EscrowEngine F) (agent : Option String) (t : F)
    (a : Option String) : (s.getOrCreateReputation agent t).1.history a = s.history a := by
  rw [getOrCreateReputation]
  split
  · rfl
  · next h =>
    simp only [history, PyDict.get?_set]
    split
    · next ha => rw [ha, h]; rfl
    · rfl

theorem snd_getOrCreateReputation (s : EscrowEngine F) (agent : Option String) (t : F) :
    (s.getOrCreateReputation agent t).2.history = s.history agent := by
  rw [getOrCreateReputation, history]
  split
  · next h => rw [h]; rfl
  · next h => rw [h]; rfl

@[simp] theorem bounty_updateReputation (s : EscrowEngine F) (agent : Option String) (x : F)
    (v d : Bool) (t t₁ t₂ : F) (k : String) :
    (s.updateReputation agent x v d t t₁ t₂).bounty k = s.bounty k :=
  s.bounty_getOrCreateReputation agent t k

@[simp] theorem config_updateReputation (s : EscrowEngine F) (agent : Option String) (x : F)
    (v d : Bool) (t t₁ t₂ : F) :
    (s.updateReputation agent x v d t t₁ t₂).config = s.config :=
  s.config_getOrCreateReputation agent t

@[simp] theorem history_updateReputation (s : EscrowEngine F) (agent : Option String) (x : F)
    (v d : Bool) (t t₁ t₂ : F) (a : Option String) :
    (s.updateReputation agent x v d t t₁ t₂).history a =
      if a = agent then s.history a ++ [⟨x, v, d, t₁⟩] else s.history a := by
  rw [updateReputation, history]
  simp only [PyDict.get?_set]
  split
  · next h =>
    rw [Option.map_some, Option.getD_some, Reputation.update, snd_getOrCreateReputation, h]
  · exact s.history_getOrCreateReputation agent t a

end EscrowEngine

/-! ## The consensus -/

theorem mem_keys_tally (vs : List ConsensusVote) (k : DisputeResolution) :
    k ∈ (EscrowEngine.tally vs).keys ↔ ∃ v ∈ vs, v.decision = k := by
  induction vs using List.reverseRecOn with
  | nil => exact ⟨fun h => absurd h List.not_mem_nil, fun ⟨_, h, _⟩ => absurd h List.not_mem_nil⟩
  | append_singleton vs v ih =>
    rw [EscrowEngine.tally, List.foldl_append, List.foldl_cons, List.foldl_nil, PyDict.mem_keys_iff]
    simp only [PyDict.get?_set, List.mem_append, List.mem_singleton, or_and_right, exists_or,
      exists_eq_left, ← ih, PyDict.mem_keys_iff, EscrowEngine.tally]
    by_cases hk : k = v.decision
    · simp [hk]
    · simp [hk, Ne.symm hk]

theorem foldl_best_mem (p : DisputeResolution × ℕ) (ps : List (DisputeResolution × ℕ)) :
    ps.foldl (fun best q => if best.2 < q.2 then q else best) p ∈ p :: ps := by
  induction ps generalizing p with
  | nil => exact List.mem_cons_self
  | cons q ps ih =>
    rw [List.foldl_cons]
    split
    · exact List.mem_cons_of_mem _ (ih q)
    · rcases List.mem_cons.1 (ih p) with h | h
      · rw [h]
        exact List.mem_cons_self
      · exact .tail _ (.tail _ h)

/-- The panel decides for something that was voted for, if there was a vote. -/
theorem maxKey_tally {vs : List ConsensusVote} (h : vs ≠ []) :
    ∃ v ∈ vs, EscrowEngine.maxKey (EscrowEngine.tally vs) = .ok v.decision := by
  have hkeys := mem_keys_tally vs
  rw [EscrowEngine.maxKey]
  split
  · next hnil =>
    obtain ⟨v, vs, rfl⟩ := List.exists_cons_of_ne_nil h
    have := (hkeys v.decision).2 ⟨v, List.mem_cons_self, rfl⟩
    rw [PyDict.keys, hnil] at this
    exact absurd this List.not_mem_nil
  · next p ps hcons =>
    have hmem := foldl_best_mem p ps
    rw [← hcons] at hmem
    obtain ⟨v, hv, hdec⟩ := (hkeys _).1 (List.mem_map_of_mem hmem)
    exact ⟨v, hv, by rw [hdec]⟩

/-- The panel decides for the agent, as all of its votes do; without members it
    does not decide. -/
theorem runConsensus_eq (s : EscrowEngine F) : s.runConsensus =
    if 1 ≤ s.config.consensusAgents then .ok .agentFavor
    else .error ⟨.valueError, "max() arg is an empty sequence"⟩ := by
  rw [EscrowEngine.runConsensus]
  split
  · next h =>
    -- The decision is one that was voted for, and all votes are the same.
    have hne : EscrowEngine.votes s.config.consensusAgents ≠ [] := by
      rw [EscrowEngine.votes, ← List.length_pos_iff, List.length_map, List.length_range]
      omega
    obtain ⟨v, hv, hdec⟩ := maxKey_tally hne
    obtain ⟨_, _, rfl⟩ := List.mem_map.1 hv
    exact hdec
  · next h =>
    rw [EscrowEngine.votes, show s.config.consensusAgents.toNat = 0 by omega]
    rfl

/-! ## The operations -/

/-- After the step, the bounty `id` is `b`, and the others are as before. -/
def Writes (s s' : EscrowEngine F) (id : String) (b : Bounty F) : Prop :=
  ∀ k, s'.bounty k = if k = id then some b else s.bounty k

/-- Every history is as before the step. -/
def KeepsHistories (s s' : EscrowEngine F) : Prop := ∀ a, s'.history a = s.history a

/-- The bounties are as before the step, and so are the histories. -/
structure Unchanged (s s' : EscrowEngine F) : Prop where
  bounty : ∀ k, s'.bounty k = s.bounty k
  history : KeepsHistories s s'

/-- The step adds an entry to the history of the agent. -/
def AddsEntry (s s' : EscrowEngine F) (agent : Option String) (e : HistoryEntry F) : Prop :=
  ∀ a, s'.history a = if a = agent then s.history a ++ [e] else s.history a

theorem Unchanged.rfl {s : EscrowEngine F} : Unchanged s s :=
  ⟨fun _ => Eq.refl _, fun _ => Eq.refl _⟩

namespace EscrowEngine

variable (s : EscrowEngine F) (now : ℕ → F)

theorem submitWork_spec (py : Python) (id agent output : String) :
    (∃ b, s.bounty id = some b ∧ b.claimedBy = some agent ∧
        s.submitWork py now id agent output = (s.setBounty id { b with
          outputSnapshot := some (py.sha256 output)
          state := .submitted
          submittedAt := some (now 0) }, .ok true)) ∨
      (s.submitWork py now id agent output = (s, .ok false) ∧
        ∀ b, s.bounty id = some b → b.claimedBy ≠ some agent) := by
  rw [submitWork]
  split
  · next hget => exact .inr ⟨rfl, fun b hb => absurd (hget.symm.trans hb) nofun⟩
  · next b hget =>
    split
    · next hclaim =>
      refine .inr ⟨rfl, fun b' hb' => ?_⟩
      rwa [Option.some.inj (hb'.symm.trans hget)]
    · next hclaim => exact .inl ⟨b, hget, not_not.1 hclaim, rfl⟩

theorem submitWork_cases (py : Python) (id agent output : String) :
    let r := s.submitWork py now id agent output
    (∃ b, s.bounty id = some b ∧ b.claimedBy = some agent ∧ r.2 = .ok true ∧
        Writes s r.1 id { b with
          outputSnapshot := some (py.sha256 output)
          state := .submitted
          submittedAt := some (now 0) } ∧ KeepsHistories s r.1) ∨
      (Unchanged s r.1 ∧ r.2 ≠ .ok true ∧
        ∀ b, s.bounty id = some b → b.claimedBy ≠ some agent) := by
  obtain ⟨b, hget, hclaim, heq⟩ | ⟨heq, hnot⟩ := s.submitWork_spec now py id agent output
  · rw [heq]
    exact .inl ⟨b, hget, hclaim, rfl, s.bounty_setBounty id _, fun _ => rfl⟩
  · rw [heq]
    exact .inr ⟨.rfl, nofun, hnot⟩

variable [PyArith F]

/-- The agent's reputation suffices to claim a bounty. -/
def Eligible (s : EscrowEngine F) (agent : String) (now : F) : Prop :=
  ∃ rs, (s.getOrCreateReputation (some agent) now).2.calculateRs
    s.config.reputationDecayFactor = .ok rs ∧ PyArith.lt rs s.config.minReputation = false

theorem claimBounty_spec (id agent : String) :
    let s' := (s.getOrCreateReputation (some agent) (now 0)).1
    (∃ b, s.bounty id = some b ∧ b.state = .opened ∧ s.Eligible agent (now 0) ∧
        s.claimBounty now id agent =
          (s'.setBounty id { b with state := .claimed, claimedBy := some agent }, .ok true)) ∨
      (((s.claimBounty now id agent).1 = s ∨ (s.claimBounty now id agent).1 = s') ∧
        (s.claimBounty now id agent).2 ≠ .ok true ∧
        ∀ b, s.bounty id = some b → b.state = .opened → ¬s.Eligible agent (now 0)) := by
  rw [claimBounty]
  split
  · next hget => exact .inr ⟨.inl rfl, nofun, fun b hb => absurd (hget.symm.trans hb) nofun⟩
  · next b hget =>
    have hsame {b'} (hb' : s.bounty id = some b') : b' = b :=
      Option.some.inj (hb'.symm.trans hget)
    split
    · next hstate =>
      exact .inr ⟨.inl rfl, nofun, fun b' hb' h => absurd (hsame hb' ▸ h) hstate⟩
    · next hstate =>
      dsimp only
      rw [config_getOrCreateReputation]
      split
      · next err hrs =>
        refine .inr ⟨.inr rfl, nofun, fun _ _ _ ⟨rs, hok, _⟩ => ?_⟩
        exact absurd (hrs.symm.trans hok) nofun
      · next rs hrs =>
        split
        · next hlt =>
          refine .inr ⟨.inr rfl, nofun, fun _ _ _ ⟨rs', hok, hge⟩ => ?_⟩
          obtain rfl := Except.ok.inj (hrs.symm.trans hok)
          exact absurd (hlt.symm.trans hge) nofun
        · next hlt =>
          exact .inl ⟨b, hget, not_not.1 hstate, ⟨rs, hrs, Bool.not_eq_true _ ▸ hlt⟩, rfl⟩

theorem claimBounty_cases (id agent : String) :
    let r := s.claimBounty now id agent
    (∃ b, s.bounty id = some b ∧ b.state = .opened ∧ s.Eligible agent (now 0) ∧ r.2 = .ok true ∧
        Writes s r.1 id { b with state := .claimed, claimedBy := some agent } ∧
        KeepsHistories s r.1) ∨
      (Unchanged s r.1 ∧ r.2 ≠ .ok true ∧
        ∀ b, s.bounty id = some b → b.state = .opened → ¬s.Eligible agent (now 0)) := by
  obtain ⟨b, hget, hstate, heligible, heq⟩ | ⟨hsame, hreply, hnot⟩ :=
    s.claimBounty_spec now id agent
  · rw [heq]
    exact .inl ⟨b, hget, hstate, heligible, rfl, fun k => by simp, fun a => by simp⟩
  · refine .inr ⟨?_, hreply, hnot⟩
    rcases hsame with hsame | hsame
    · rw [hsame]
      exact .rfl
    · rw [hsame]
      exact ⟨s.bounty_getOrCreateReputation _ _, s.history_getOrCreateReputation _ _⟩

theorem approveBounty_spec (id client : String) :
    (∃ b, s.bounty id = some b ∧ b.clientId = client ∧ b.state = .submitted ∧
        s.approveBounty now id client =
          ((s.updateReputation b.claimedBy (PyArith.lit 1) true false (now 0) (now 1)
            (now 2)).setBounty id { b with state := .settled, settledAt := some (now 3) },
            .ok true)) ∨
      s.approveBounty now id client = (s, .ok false) := by
  rw [approveBounty]
  split
  · exact .inr rfl
  · next b hget =>
    split
    · exact .inr rfl
    · next hclient =>
      split
      · exact .inr rfl
      · next hstate => exact .inl ⟨b, hget, not_not.1 hclient, not_not.1 hstate, rfl⟩

theorem approveBounty_cases (id client : String) :
    let r := s.approveBounty now id client
    (∃ b, s.bounty id = some b ∧ b.clientId = client ∧ b.state = .submitted ∧ r.2 = .ok true ∧
        Writes s r.1 id { b with state := .settled, settledAt := some (now 3) } ∧
        AddsEntry s r.1 b.claimedBy ⟨PyArith.lit 1, true, false, now 1⟩) ∨
      (Unchanged s r.1 ∧ r.2 ≠ .ok true) := by
  obtain ⟨b, hget, hclient, hstate, heq⟩ | heq := s.approveBounty_spec now id client
  · rw [heq]
    exact .inl ⟨b, hget, hclient, hstate, rfl, fun k => by simp, fun a => by simp⟩
  · rw [heq]
    exact .inr ⟨.rfl, nofun⟩

theorem disputeBounty_spec (id client reason : String) :
    (∃ b, s.bounty id = some b ∧ b.clientId = client ∧
        ((1 ≤ s.config.consensusAgents ∧ s.disputeBounty now id client reason =
            (((s.setBounty id { b with state := .disputed }).setBounty id
              { b with state := .settled, settledAt := some (now 0) }).updateReputation
              b.claimedBy (PyArith.lit 1) true false (now 1) (now 2) (now 3), .ok true)) ∨
          (s.config.consensusAgents < 1 ∧ s.disputeBounty now id client reason =
            (s.setBounty id { b with state := .disputed },
              .error ⟨.valueError, "max() arg is an empty sequence"⟩)))) ∨
      (s.disputeBounty now id client reason = (s, .ok false) ∧
        ∀ b, s.bounty id = some b → b.clientId ≠ client) := by
  rw [disputeBounty]
  split
  · next hget => exact .inr ⟨rfl, fun b hb => absurd (hget.symm.trans hb) nofun⟩
  · next b hget =>
    split
    · next hclient =>
      refine .inr ⟨rfl, fun b' hb' => ?_⟩
      rwa [Option.some.inj (hb'.symm.trans hget)]
    · next hclient =>
      refine .inl ⟨b, hget, not_not.1 hclient, ?_⟩
      dsimp only
      rw [runConsensus_eq, config_setBounty]
      by_cases hconsensus : 1 ≤ s.config.consensusAgents
      · rw [if_pos hconsensus]
        exact .inl ⟨hconsensus, rfl⟩
      · rw [if_neg hconsensus]
        exact .inr ⟨not_le.1 hconsensus, rfl⟩

theorem disputeBounty_cases (id client reason : String) :
    let r := s.disputeBounty now id client reason
    (∃ b, s.bounty id = some b ∧ b.clientId = client ∧
        ((1 ≤ s.config.consensusAgents ∧ r.2 = .ok true ∧
            Writes s r.1 id { b with state := .settled, settledAt := some (now 0) } ∧
            AddsEntry s r.1 b.claimedBy ⟨PyArith.lit 1, true, false, now 2⟩) ∨
          (s.config.consensusAgents < 1 ∧ r.2 ≠ .ok true ∧
            Writes s r.1 id { b with state := .disputed } ∧ KeepsHistories s r.1))) ∨
      (Unchanged s r.1 ∧ r.2 ≠ .ok true ∧ ∀ b, s.bounty id = some b → b.clientId ≠ client) := by
  obtain ⟨b, hget, hclient, ⟨hconsensus, heq⟩ | ⟨hconsensus, heq⟩⟩ | ⟨heq, hnot⟩ :=
    s.disputeBounty_spec now id client reason
  · rw [heq]
    refine .inl ⟨b, hget, hclient, .inl ⟨hconsensus, rfl, fun k => ?_, fun a => by simp⟩⟩
    -- Between the two writes to the bounty, nothing reads it.
    simp only [bounty_updateReputation, bounty_setBounty]
    split <;> rfl
  · rw [heq]
    refine .inl ⟨b, hget, hclient, .inr ⟨hconsensus, nofun, ?_, fun _ => rfl⟩⟩
    exact s.bounty_setBounty id _
  · rw [heq]
    exact .inr ⟨.rfl, nofun, hnot⟩

theorem fst_getAgentReputation (agent : String) :
    (s.getAgentReputation now agent).1 = (s.getOrCreateReputation (some agent) (now 0)).1 := by
  rw [getAgentReputation]
  dsimp only
  split <;> rfl

theorem getAgentReputation_unchanged (agent : String) :
    Unchanged s (s.getAgentReputation now agent).1 := by
  rw [fst_getAgentReputation]
  exact ⟨s.bounty_getOrCreateReputation _ _, s.history_getOrCreateReputation _ _⟩

end EscrowEngine

/-! ## Effects -/

/-- A step of the engine. -/
abbrev EscrowEvent (F : Type*) :=
  Machine.Event (EscrowEngine F) (EscrowCall F) (Except PyErr (EscrowReply F))

/-- What a step does to the bounties and the histories. -/
inductive Effect (py : Python) (ev : EscrowEvent F) : Prop
  | idle (hb : ∀ k, ev.post.bounty k = ev.pre.bounty k) (hh : KeepsHistories ev.pre ev.post)
  | created {id client title description : String} {reward : F} {requirements : PyVal}
      {b : Bounty F}
      (hop : ev.input.op = .createBounty id client title description reward requirements)
      (hw : Writes ev.pre ev.post id b) (hstate : b.state = .opened) (hclaim : b.claimedBy = none)
      (hh : KeepsHistories ev.pre ev.post)
  | claimed {id agent : String} {b : Bounty F} (hop : ev.input.op = .claimBounty id agent)
      (hreply : ev.output = .ok (.bool true)) (hget : ev.pre.bounty id = some b)
      (hstate : b.state = .opened)
      (hw : Writes ev.pre ev.post id { b with state := .claimed, claimedBy := some agent })
      (hh : KeepsHistories ev.pre ev.post)
  | submitted {id agent output : String} {b : Bounty F}
      (hop : ev.input.op = .submitWork id agent output) (hreply : ev.output = .ok (.bool true))
      (hget : ev.pre.bounty id = some b) (hclaim : b.claimedBy = some agent)
      (hw : Writes ev.pre ev.post id { b with
        outputSnapshot := some (py.sha256 output), state := .submitted,
        submittedAt := some (ev.input.now 0) })
      (hh : KeepsHistories ev.pre ev.post)
  | settled {id client : String} {b : Bounty F} (t : F) (e : HistoryEntry F)
      (hop : (ev.input.op = .approveBounty id client ∧ b.state = .submitted) ∨
        ∃ reason, ev.input.op = .disputeBounty id client reason ∧
          1 ≤ ev.pre.config.consensusAgents)
      (hget : ev.pre.bounty id = some b) (hclient : b.clientId = client)
      (hw : Writes ev.pre ev.post id { b with state := .settled, settledAt := some t })
      (hh : ∀ a, ev.post.history a =
        if a = b.claimedBy then ev.pre.history a ++ [e] else ev.pre.history a)
  | stuck {id client reason : String} {b : Bounty F}
      (hop : ev.input.op = .disputeBounty id client reason)
      (hconsensus : ev.pre.config.consensusAgents < 1) (hget : ev.pre.bounty id = some b)
      (hclient : b.clientId = client)
      (hw : Writes ev.pre ev.post id { b with state := .disputed })
      (hh : KeepsHistories ev.pre ev.post)

variable [PyArith F] (py : Python) (s : EscrowEngine F) (now : ℕ → F)

theorem effect_claimBounty (id agent : String) :
    Effect py ((escrow F py).event s ⟨.claimBounty id agent, now⟩) := by
  obtain ⟨b, hget, hstate, _, hreply, hw, hh⟩ | ⟨hkeeps, _⟩ := s.claimBounty_cases now id agent
  · exact .claimed rfl (congrArg (Except.map EscrowReply.bool) hreply) hget hstate hw hh
  · exact .idle hkeeps.bounty hkeeps.history

theorem effect_submitWork (id agent output : String) :
    Effect py ((escrow F py).event s ⟨.submitWork id agent output, now⟩) := by
  obtain ⟨b, hget, hclaim, hreply, hw, hh⟩ | ⟨hkeeps, _⟩ :=
    s.submitWork_cases now py id agent output
  · exact .submitted rfl (congrArg (Except.map EscrowReply.bool) hreply) hget hclaim hw hh
  · exact .idle hkeeps.bounty hkeeps.history

theorem effect_approveBounty (id client : String) :
    Effect py ((escrow F py).event s ⟨.approveBounty id client, now⟩) := by
  obtain ⟨b, hget, hclient, hstate, _, hw, hh⟩ | ⟨hkeeps, _⟩ := s.approveBounty_cases now id client
  · exact .settled _ _ (.inl ⟨rfl, hstate⟩) hget hclient hw hh
  · exact .idle hkeeps.bounty hkeeps.history

theorem effect_disputeBounty (id client reason : String) :
    Effect py ((escrow F py).event s ⟨.disputeBounty id client reason, now⟩) := by
  obtain ⟨b, hget, hclient, ⟨hconsensus, _, hw, hh⟩ | ⟨hconsensus, _, hw, hh⟩⟩ | ⟨hkeeps, _⟩ :=
    s.disputeBounty_cases now id client reason
  · exact .settled _ _ (.inr ⟨reason, rfl, hconsensus⟩) hget hclient hw hh
  · exact .stuck rfl hconsensus hget hclient hw hh
  · exact .idle hkeeps.bounty hkeeps.history

theorem effect_getAgentReputation (agent : String) :
    Effect py ((escrow F py).event s ⟨.getAgentReputation agent, now⟩) :=
  have hkeeps := s.getAgentReputation_unchanged now agent
  .idle hkeeps.bounty hkeeps.history

/-- Every step has one of the effects. -/
theorem escrow_effect (c : EscrowCall F) : Effect py ((escrow F py).event s c) := by
  obtain ⟨op, now⟩ := c
  cases op with
  | createBounty id client title description reward requirements =>
    exact .created rfl (s.bounty_setBounty id _) rfl rfl (s.history_setBounty id _)
  | claimBounty id agent => exact effect_claimBounty py s now id agent
  | submitWork id agent output => exact effect_submitWork py s now id agent output
  | approveBounty id client => exact effect_approveBounty py s now id client
  | disputeBounty id client reason => exact effect_disputeBounty py s now id client reason
  | getAgentReputation agent => exact effect_getAgentReputation py s now agent

/-- The settings never change. -/
theorem config_step (c : EscrowCall F) : ((escrow F py).step s c).1.config = s.config := by
  obtain ⟨op, now⟩ := c
  cases op with
  | createBounty id client title description reward requirements => rfl
  | claimBounty id agent =>
    change (s.claimBounty now id agent).1.config = _
    obtain ⟨b, _, _, _, heq⟩ | ⟨heq | heq, _⟩ := s.claimBounty_spec now id agent
    · rw [heq]
      exact s.config_getOrCreateReputation _ _
    · rw [heq]
    · rw [heq]
      exact s.config_getOrCreateReputation _ _
  | submitWork id agent output =>
    change (s.submitWork py now id agent output).1.config = _
    obtain ⟨b, _, _, heq⟩ | ⟨heq, _⟩ := s.submitWork_spec now py id agent output
    · rw [heq]
      rfl
    · rw [heq]
  | approveBounty id client =>
    change (s.approveBounty now id client).1.config = _
    obtain ⟨b, _, _, _, heq⟩ | heq := s.approveBounty_spec now id client
    · rw [heq]
      exact s.config_updateReputation b.claimedBy (PyArith.lit 1) true false (now 0) (now 1) (now 2)
    · rw [heq]
  | disputeBounty id client reason =>
    change (s.disputeBounty now id client reason).1.config = _
    obtain ⟨b, _, _, ⟨_, heq⟩ | ⟨_, heq⟩⟩ | ⟨heq, _⟩ := s.disputeBounty_spec now id client reason
    · rw [heq, EscrowEngine.config_updateReputation]
      rfl
    · rw [heq]
      rfl
    · rw [heq]
  | getAgentReputation agent =>
    change (s.getAgentReputation now agent).1.config = _
    rw [s.fst_getAgentReputation]
    exact s.config_getOrCreateReputation _ _

end VibeShield
