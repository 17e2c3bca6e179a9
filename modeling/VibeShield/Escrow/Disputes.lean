import VibeShield.Escrow.Claims

/-!
# Disputes that end halfway

A bounty is marked as disputed before the consensus panel is asked. A panel without members
cannot decide: the call raises, and the bounty stays disputed. So disputes are all or nothing
exactly if the panel has members, or nobody gets as far as disputing a bounty:
`dispute_all_or_nothing_iff`.
-/

namespace VibeShield

variable {F : Type*}

/-- No bounty is disputed. -/
def NoneDisputed (s : EscrowEngine F) : Prop := ∀ k b, s.bounty k = some b → b.state ≠ .disputed

/-- The bounty `id` is settled and a result added to the history of the agent who has claimed
    it, or the call fails and leaves them as they were; and no bounty is left disputed. -/
structure AllOrNothing (s s' : EscrowEngine F) (id : String) (reply : Except PyErr Bool) :
    Prop where
  outcome : (reply = .ok true ∧ ∃ b b' e, s.bounty id = some b ∧ s'.bounty id = some b' ∧
      b'.state = .settled ∧ s'.history b.claimedBy = s.history b.claimedBy ++ [e]) ∨
    (reply ≠ .ok true ∧ s'.bounty id = s.bounty id ∧ s'.reputations = s.reputations)
  noneDisputed : NoneDisputed s'

/-- There is no bounty `id` of this client. -/
def RefusesDispute (s : EscrowEngine F) (id client : String) : Prop :=
  ∀ b, s.bounty id = some b → b.clientId ≠ client

/-- The panel has members, or the call does not dispute a bounty. -/
def DisputesDecided (s : EscrowEngine F) (c : EscrowCall F) : Prop :=
  1 ≤ s.config.consensusAgents ∨
    ∀ id client reason, c.op = .disputeBounty id client reason → RefusesDispute s id client

theorem noneDisputed_new (config : EscrowConfig F) : NoneDisputed (.new config) :=
  fun _ _ h => absurd h nofun

variable [PyArith F] {py : Python}

/-- Only a panel without members leaves a bounty disputed. -/
theorem noneDisputed_step {s : EscrowEngine F} {c : EscrowCall F} (hG : DisputesDecided s c)
    (h : NoneDisputed s) : NoneDisputed ((escrow F py).step s c).1 := by
  cases escrow_effect py s c with
  | idle hb _ => exact fun k b hk => h k b ((hb k).symm.trans hk)
  | created _ hw hstate _ _ => exact hw.forall h (hstate ▸ nofun)
  | claimed _ _ _ _ hw _ => exact hw.forall h nofun
  | submitted _ _ _ _ hw _ => exact hw.forall h nofun
  | settled _ _ _ _ _ hw _ => exact hw.forall h nofun
  | stuck hop hconsensus hget hclient _ _ =>
    rcases hG with hmembers | hrefuses
    · exact absurd hmembers (not_le.2 hconsensus)
    · exact absurd hclient (hrefuses _ _ _ hop _ hget)

theorem config_run_new (config : EscrowConfig F) (cs : List (EscrowCall F)) :
    ((escrow F py).run (.new config) cs).config = config :=
  Machine.invariant (G := fun _ _ => True) (P := fun s => s.config = config) rfl
    (fun s c _ h => (config_step py s c).trans h) cs fun _ _ => trivial

theorem disputeBounty_of_refuses {s : EscrowEngine F} {id client : String}
    (h : RefusesDispute s id client) (now : ℕ → F) (reason : String) :
    s.disputeBounty now id client reason = (s, .ok false) := by
  obtain ⟨b, hget, hclient, _⟩ | ⟨heq, _⟩ := s.disputeBounty_spec now id client reason
  · exact absurd hclient (h b hget)
  · exact heq

/-- Disputes are all or nothing if there is a panel, as no bounty is disputed then; without
    one, the call has to be refused. -/
theorem allOrNothing_iff (s : EscrowEngine F) (now : ℕ → F) (id client reason : String)
    (hs : 1 ≤ s.config.consensusAgents → NoneDisputed s) :
    let r := s.disputeBounty now id client reason
    AllOrNothing s r.1 id r.2 ↔
      1 ≤ s.config.consensusAgents ∨ (RefusesDispute s id client ∧ NoneDisputed s) := by
  intro r
  obtain ⟨b, hget, hclient, ⟨hmembers, hreply, hw, hh⟩ | ⟨hmembers, _, hw, _⟩⟩ |
    ⟨_, _, hrefuses⟩ := s.disputeBounty_cases now id client reason
  · have hhistory := (hh b.claimedBy).trans (if_pos rfl)
    exact iff_of_true ⟨.inl ⟨hreply, b, _, _, hget, hw.bounty_self, rfl, hhistory⟩,
      hw.forall (hs hmembers) nofun⟩ (.inl hmembers)
  · refine iff_of_false (fun h => h.noneDisputed id _ hw.bounty_self rfl) ?_
    rintro (hmembers' | ⟨hrefuses, _⟩)
    · exact absurd hmembers' (not_le.2 hmembers)
    · exact hrefuses b hget hclient
  · have hr : r = (s, .ok false) := disputeBounty_of_refuses hrefuses now reason
    rw [hr]
    constructor
    · exact fun h => .inr ⟨hrefuses, h.noneDisputed⟩
    · exact fun h => ⟨.inr ⟨nofun, rfl, rfl⟩, h.elim hs And.right⟩

theorem disputesDecided_of_members {config : EscrowConfig F} (h : 1 ≤ config.consensusAgents)
    (cs : List (EscrowCall F)) : (escrow F py).Guarded DisputesDecided (.new config) cs := by
  intro ev hev
  obtain ⟨js, c, _, _, rfl⟩ := Machine.exists_prefix_of_mem_events hev
  exact .inl ((config_run_new config js).symm ▸ h)

/-- A dispute of a run is all or nothing exactly if the panel has members, or the dispute is
    refused and no bounty is disputed already; and all disputes of a run are so exactly if the
    panel has members, or all are refused. -/
theorem dispute_all_or_nothing_iff (py : Python) (config : EscrowConfig F)
    (cs : List (EscrowCall F)) :
    (∀ now id client reason,
      let s := (escrow F py).run (.new config) cs
      let r := s.disputeBounty now id client reason
      AllOrNothing s r.1 id r.2 ↔
        1 ≤ config.consensusAgents ∨ (RefusesDispute s id client ∧ NoneDisputed s)) ∧
    ((∀ ev ∈ (escrow F py).events (.new config) cs, ∀ id client reason,
      ev.input.op = .disputeBounty id client reason →
        AllOrNothing ev.pre ev.post id
          (ev.pre.disputeBounty ev.input.now id client reason).2) ↔
      1 ≤ config.consensusAgents ∨ ∀ ev ∈ (escrow F py).events (.new config) cs,
        ∀ id client reason, ev.input.op = .disputeBounty id client reason →
          RefusesDispute ev.pre id client) := by
  have hnone (js : List (EscrowCall F))
      (hG : (escrow F py).Guarded DisputesDecided (.new config) js) :
      NoneDisputed ((escrow F py).run (.new config) js) :=
    Machine.invariant (noneDisputed_new config) (fun _ _ => noneDisputed_step) js hG
  have hstate (js : List (EscrowCall F)) (now : ℕ → F) (id client reason : String) := by
    have hiff := allOrNothing_iff ((escrow F py).run (.new config) js) now id client reason
    rw [config_run_new] at hiff
    exact hiff fun hmembers => hnone js (disputesDecided_of_members hmembers js)
  refine ⟨hstate cs, fun h => ?_, fun h ev hev id client reason hop => ?_⟩
  · by_cases hmembers : 1 ≤ config.consensusAgents
    · exact .inl hmembers
    refine .inr fun ev hev id client reason hop => ?_
    have hev' := h ev hev id client reason hop
    obtain ⟨js, ⟨_, now⟩, ks, _, rfl⟩ := Machine.exists_prefix_of_mem_events hev
    obtain rfl := hop
    exact ((hstate js now id client reason).1 hev').elim (fun h => absurd h hmembers) And.left
  · have hG : (escrow F py).Guarded DisputesDecided (.new config) cs :=
      h.elim (fun hmembers => disputesDecided_of_members hmembers cs)
        fun h ev hev => .inr (h ev hev)
    obtain ⟨js, ⟨_, now⟩, ks, rfl, rfl⟩ := Machine.exists_prefix_of_mem_events hev
    obtain rfl := hop
    refine (hstate js now id client reason).2 ?_
    rcases h with hmembers | h
    · exact .inl hmembers
    · exact .inr ⟨h _ hev id client reason rfl, hnone js (Machine.guarded_append.1 hG).1⟩

namespace Sample

/-- The settings without a consensus panel. -/
def panelless : EscrowConfig ℚ := { escrowConfig with consensusAgents := 0 }

/-- The calls until the work is submitted. -/
def submittedRun : List (EscrowCall ℚ) := [createCall, claimCall, submitCall]

/-- Without a panel, the dispute raises, and leaves the bounty disputed. -/
theorem dispute_halfway :
    let s := (escrow ℚ escrowLib).run (.new panelless) submittedRun
    let r := s.disputeBounty disputeCall.now "bounty" "client" "reason"
    (s.bounty "bounty").map Bounty.state = some .submitted ∧
      r.2 = .error ⟨.valueError, "max() arg is an empty sequence"⟩ ∧
      (r.1.bounty "bounty").map Bounty.state = some .disputed ∧
      ¬AllOrNothing s r.1 "bounty" r.2 := by
  intro s r
  have hdisputed : (r.1.bounty "bounty").map Bounty.state = some .disputed := by decide +kernel
  refine ⟨by decide +kernel, by decide +kernel, hdisputed, fun h => ?_⟩
  obtain ⟨b, hb, hstate⟩ := Option.map_eq_some_iff.1 hdisputed
  exact h.noneDisputed "bounty" b hb hstate

end Sample

end VibeShield
