import VibeShield.Escrow.Settlement

/-!
# Who holds a bounty

A bounty is claimed at most once, and then belongs to the agent who claimed it: nobody
else can submit work to it, and nobody but its client can approve or dispute it
(`escrow_claim_exclusive`). An agent may hold many bounties, though. The contract of
`claim_bounty` allows only one that is active; this holds exactly in the runs in which no
agent takes on a bounty, or takes one up again, while another one is active
(`escrow_one_active_iff`).
-/

namespace VibeShield

variable {F : Type*}

/-! ## Exclusive claims -/

/-- Whether a call returns `True`. -/
def succeeds : Except PyErr (EscrowReply F) → Bool
  | .ok (.bool b) => b
  | _ => false

theorem succeeds_map_bool (r : Except PyErr Bool) :
    succeeds (F := F) (r.map .bool) = true ↔ r = .ok true := by
  cases r with
  | error err => exact ⟨nofun, nofun⟩
  | ok b => exact ⟨congrArg Except.ok, Except.ok.inj⟩

/-- The agent whose claim of a bounty succeeds in a step, if there is one. -/
def claimOf (id : String) (ev : EscrowEvent F) : Option String :=
  match ev.input.op with
  | .claimBounty bountyId agent =>
    if bountyId = id ∧ succeeds ev.output then some agent else none
  | _ => none

/-- The agents whose claims of a bounty succeed, in this order. -/
def claims (id : String) (evs : List (EscrowEvent F)) : List String :=
  evs.filterMap (claimOf id)

/-- The agent who holds a bounty. -/
def EscrowEngine.holder (s : EscrowEngine F) (id : String) : Option String :=
  (s.bounty id).bind Bounty.claimedBy

/-- The call creates a bounty with this id. -/
def EscrowOp.creates (id : String) : EscrowOp F → Prop
  | .createBounty freshId _ _ _ _ _ => freshId = id
  | _ => False

/-- The bounty `id` of a client since its creation: the agent who holds it is the one
    whose claim has succeeded, and it is not open any more once there is one. -/
structure Held (id client : String) (evs : List (EscrowEvent F)) (s : EscrowEngine F)
    (b : Bounty F) : Prop where
  bounty : s.bounty id = some b
  client : b.clientId = client
  claimed : claims id evs = b.claimedBy.toList
  opened : b.state = .opened → b.claimedBy = none

theorem Held.holder {id client : String} {evs : List (EscrowEvent F)} {s : EscrowEngine F}
    {b : Bounty F} (h : Held id client evs s b) : s.holder id = (claims id evs).head? := by
  rw [EscrowEngine.holder, h.bounty, h.claimed, Option.bind_some]
  cases b.claimedBy <;> rfl

variable [PyArith F] {py : Python}

theorem claims_concat (id : String) (evs : List (EscrowEvent F)) (s : EscrowEngine F)
    (c : EscrowCall F) : claims id (evs ++ [(escrow F py).event s c]) =
      claims id evs ++ (claimOf id ((escrow F py).event s c)).toList := by
  rw [claims, List.filterMap_append, List.filterMap_cons, List.filterMap_nil, claims]
  cases claimOf id ((escrow F py).event s c) <;> rfl

variable (py) in
/-- A call that does not create the bounty claims it, or leaves it to who holds it. -/
theorem step_of_bounty {id : String} {s : EscrowEngine F} {b : Bounty F} {c : EscrowCall F}
    (hget : s.bounty id = some b) (hc : ¬c.op.creates id) :
    (∃ agent, b.state = .opened ∧ claimOf id ((escrow F py).event s c) = some agent ∧
      ((escrow F py).step s c).1.bounty id =
        some { b with state := .claimed, claimedBy := some agent }) ∨
    (claimOf id ((escrow F py).event s c) = none ∧ ∃ b',
      ((escrow F py).step s c).1.bounty id = some b' ∧ b'.clientId = b.clientId ∧
        b'.claimedBy = b.claimedBy ∧ (b'.state = .opened → b.state = .opened)) := by
  have hsame {s' : EscrowEngine F} (hs' : s'.bounty id = s.bounty id) : ∃ b',
      s'.bounty id = some b' ∧ b'.clientId = b.clientId ∧ b'.claimedBy = b.claimedBy ∧
        (b'.state = .opened → b.state = .opened) :=
    ⟨b, hs'.trans hget, rfl, rfl, fun h => h⟩
  -- What is written keeps the client and the agent, and is not open.
  have hwrites {s' : EscrowEngine F} {k : String} {b₀ b₁ : Bounty F} (hw : Writes s s' k b₁)
      (hget₀ : s.bounty k = some b₀) (hclient : b₁.clientId = b₀.clientId)
      (hclaim : b₁.claimedBy = b₀.claimedBy) (hstate : b₁.state ≠ .opened) : ∃ b',
      s'.bounty id = some b' ∧ b'.clientId = b.clientId ∧ b'.claimedBy = b.claimedBy ∧
        (b'.state = .opened → b.state = .opened) := by
    by_cases hid : id = k
    · subst hid
      obtain rfl := Option.some.inj (hget.symm.trans hget₀)
      exact ⟨b₁, hw.bounty_self, hclient, hclaim, fun h => absurd h hstate⟩
    · exact hsame (hw.bounty_of_ne hid)
  obtain ⟨op, now⟩ := c
  cases op with
  | createBounty freshId client title description reward requirements =>
    exact .inr ⟨rfl, hsame ((s.bounty_setBounty freshId _ id).trans (if_neg fun h => hc h.symm))⟩
  | claimBounty bountyId agent =>
    have hclaimOf : claimOf id ((escrow F py).event s ⟨.claimBounty bountyId agent, now⟩) =
        if bountyId = id ∧ succeeds (F := F) ((s.claimBounty now bountyId agent).2.map .bool)
        then some agent else none := rfl
    rw [hclaimOf]
    obtain ⟨b₀, hget₀, hstate, _, hreply, hw, _⟩ | ⟨hkeeps, hreply, _⟩ :=
      s.claimBounty_cases now bountyId agent
    · by_cases hid : bountyId = id
      · subst hid
        obtain rfl := Option.some.inj (hget.symm.trans hget₀)
        exact .inl ⟨agent, hstate, if_pos ⟨rfl, (succeeds_map_bool _).2 hreply⟩, hw.bounty_self⟩
      · exact .inr ⟨if_neg fun h => hid h.1, hsame (hw.bounty_of_ne (Ne.symm hid))⟩
    · exact .inr ⟨if_neg fun h => hreply ((succeeds_map_bool _).1 h.2), hsame (hkeeps.bounty id)⟩
  | submitWork bountyId agent output =>
    obtain ⟨b₀, hget₀, _, _, hw, _⟩ | ⟨hkeeps, _⟩ := s.submitWork_cases now py bountyId agent output
    · exact .inr ⟨rfl, hwrites hw hget₀ rfl rfl nofun⟩
    · exact .inr ⟨rfl, hsame (hkeeps.bounty id)⟩
  | approveBounty bountyId client =>
    obtain ⟨b₀, hget₀, _, _, _, hw, _⟩ | ⟨hkeeps, _⟩ := s.approveBounty_cases now bountyId client
    · exact .inr ⟨rfl, hwrites hw hget₀ rfl rfl nofun⟩
    · exact .inr ⟨rfl, hsame (hkeeps.bounty id)⟩
  | disputeBounty bountyId client reason =>
    obtain ⟨b₀, hget₀, _, ⟨_, _, hw, _⟩ | ⟨_, _, hw, _⟩⟩ | ⟨hkeeps, _⟩ :=
      s.disputeBounty_cases now bountyId client reason
    · exact .inr ⟨rfl, hwrites hw hget₀ rfl rfl nofun⟩
    · exact .inr ⟨rfl, hwrites hw hget₀ rfl rfl nofun⟩
    · exact .inr ⟨rfl, hsame (hkeeps.bounty id)⟩
  | getAgentReputation agent =>
    exact .inr ⟨rfl, hsame ((s.getAgentReputation_unchanged now agent).bounty id)⟩

theorem Held.step {id client : String} {evs : List (EscrowEvent F)} {s : EscrowEngine F}
    {b : Bounty F} {c : EscrowCall F} (h : Held id client evs s b) (hc : ¬c.op.creates id) :
    ∃ b', Held id client (evs ++ [(escrow F py).event s c]) ((escrow F py).step s c).1 b' := by
  obtain ⟨agent, hstate, hclaims, hpost⟩ | ⟨hclaims, b', hpost, hclient, hclaim, hstate⟩ :=
    step_of_bounty py h.bounty hc
  · refine ⟨_, hpost, h.client, ?_, nofun⟩
    rw [claims_concat, hclaims, h.claimed, h.opened hstate]
    rfl
  · refine ⟨b', hpost, hclient.trans h.client, ?_, fun hb' => ?_⟩
    · rw [claims_concat, hclaims, h.claimed, Option.toList_none, List.append_nil, hclaim]
    · exact hclaim.trans (h.opened (hstate hb'))

/-- From its creation on, who holds a bounty is who has claimed it. -/
theorem exists_held {id client : String} {s : EscrowEngine F} {b : Bounty F}
    (h : Held id client [] s b) (after : List (EscrowCall F))
    (hafter : ∀ c ∈ after, ¬c.op.creates id) :
    ∃ b', Held id client ((escrow F py).events s after) ((escrow F py).run s after) b' :=
  Machine.history_induction (G := fun _ c => ¬c.op.creates id)
    (P := fun evs s => ∃ b, Held id client evs s b) ⟨b, h⟩
    (fun _ _ _ hc ⟨_, h⟩ => h.step hc) after
    fun _ hev => hafter _ (Machine.input_mem_of_mem_events hev)

variable (py) in
/-- Nobody holds a bounty that has just been created. -/
theorem held_created (config : EscrowConfig F) (before : List (EscrowCall F))
    {create : EscrowCall F} {id client title description : String} {reward : F}
    {requirements : PyVal}
    (hcreate : create.op = .createBounty id client title description reward requirements) :
    ∃ b, Held id client [] ((escrow F py).run (.new config) (before ++ [create])) b := by
  obtain ⟨op, now⟩ := create
  obtain rfl := hcreate
  rw [Machine.run_concat]
  have hget : ((escrow F py).step ((escrow F py).run (.new config) before)
      ⟨.createBounty id client title description reward requirements, now⟩).1.bounty id =
        some (((escrow F py).run (.new config) before).createBounty now id
          client title description reward requirements).2 :=
    (EscrowEngine.bounty_setBounty _ id _ id).trans (if_pos rfl)
  exact ⟨_, hget, rfl, rfl, fun _ => rfl⟩

/-- Only who has claimed a bounty submits work to it, and only its client approves or disputes
    it. -/
theorem Held.authorized {id client : String} {evs : List (EscrowEvent F)} {s : EscrowEngine F}
    {b : Bounty F} {c : EscrowCall F} (h : Held id client evs s b)
    (hreply : succeeds ((escrow F py).step s c).2 = true) :
    (∀ agent output, c.op = .submitWork id agent output → claims id evs = [agent]) ∧
      (∀ client', c.op = .approveBounty id client' → client' = client) ∧
      ∀ client' reason, c.op = .disputeBounty id client' reason → client' = client := by
  obtain ⟨op, now⟩ := c
  refine ⟨fun agent output hop => ?_, fun client' hop => ?_, fun client' reason hop => ?_⟩
  · obtain rfl := hop
    obtain ⟨b', hget, hclaim, _⟩ | ⟨_, hnot, _⟩ := s.submitWork_cases now py id agent output
    · obtain rfl := Option.some.inj (h.bounty.symm.trans hget)
      rw [h.claimed, hclaim]
      rfl
    · exact absurd ((succeeds_map_bool _).1 hreply) hnot
  · obtain rfl := hop
    obtain ⟨b', hget, hclient, _⟩ | ⟨_, hnot⟩ := s.approveBounty_cases now id client'
    · obtain rfl := Option.some.inj (h.bounty.symm.trans hget)
      exact hclient.symm.trans h.client
    · exact absurd ((succeeds_map_bool _).1 hreply) hnot
  · obtain rfl := hop
    obtain ⟨b', hget, hclient, _⟩ | ⟨_, hnot, _⟩ := s.disputeBounty_cases now id client' reason
    · obtain rfl := Option.some.inj (h.bounty.symm.trans hget)
      exact hclient.symm.trans h.client
    · exact absurd ((succeeds_map_bool _).1 hreply) hnot

/-- Since a client has created a bounty, at most one claim of it has succeeded; nobody holds
    it before this claim, and who made the claim holds it from then on. Only this agent
    submits work to it, and only the client approves or disputes it. -/
theorem escrow_claim_exclusive (py : Python) (config : EscrowConfig F)
    (before after : List (EscrowCall F)) (create : EscrowCall F)
    (id client title description : String) (reward : F) (requirements : PyVal)
    (hcreate : create.op = .createBounty id client title description reward requirements)
    (hafter : ∀ c ∈ after, ¬c.op.creates id) :
    let s := (escrow F py).run (.new config) (before ++ [create])
    (claims id ((escrow F py).events s after)).length ≤ 1 ∧
    (∀ js, js <+: after →
      ((escrow F py).run s js).holder id = (claims id ((escrow F py).events s js)).head?) ∧
    ∀ js c ks, after = js ++ c :: ks →
      succeeds ((escrow F py).step ((escrow F py).run s js) c).2 = true →
      (∀ agent output, c.op = .submitWork id agent output →
        claims id ((escrow F py).events s js) = [agent]) ∧
      (∀ client', c.op = .approveBounty id client' → client' = client) ∧
      ∀ client' reason, c.op = .disputeBounty id client' reason → client' = client := by
  intro s
  have hprefix (js : List (EscrowCall F)) (hjs : js <+: after) :
      ∃ b, Held id client ((escrow F py).events s js) ((escrow F py).run s js) b := by
    obtain ⟨b, hb⟩ := held_created py config before hcreate
    exact exists_held hb js fun c hc => hafter c (hjs.subset hc)
  refine ⟨?_, fun js hjs => ?_, fun js c ks hsplit hreply => ?_⟩
  · obtain ⟨b, hb⟩ := hprefix after (List.prefix_refl _)
    rw [hb.claimed]
    cases b.claimedBy <;> simp
  · obtain ⟨b, hb⟩ := hprefix js hjs
    exact hb.holder
  · obtain ⟨b, hb⟩ := hprefix js ⟨c :: ks, hsplit.symm⟩
    exact hb.authorized hreply

namespace Sample

/-- In the run that ends with the approval, the bounty is claimed once. -/
theorem claimed_once : (claims "bounty" ((escrow ℚ escrowLib).events
    ((escrow ℚ escrowLib).run engine ([] ++ [createCall]))
      [claimCall, submitCall, approveCall])).length ≤ 1 :=
  (escrow_claim_exclusive escrowLib escrowConfig [] [claimCall, submitCall, approveCall] createCall
    "bounty" "client" "title" "description" 100 .none rfl
    (by simp [claimCall, submitCall, approveCall, call, EscrowOp.creates])).1

end Sample

/-! ## One active bounty -/

/-- The states in which an agent works on a bounty, or waits for what becomes of it. -/
def BountyState.active : BountyState → Bool
  | claimed => true
  | inProgress => true
  | submitted => true
  | underReview => true
  | disputed => true
  | _ => false

/-- No agent holds two active bounties. -/
def OneActive (s : EscrowEngine F) : Prop :=
  ∀ agent k b k' b', s.bounty k = some b → s.bounty k' = some b' →
    b.claimedBy = some agent → b'.claimedBy = some agent →
    b.state.active = true → b'.state.active = true → k = k'

/-- The agent holds an active bounty besides `id`. -/
def Busy (s : EscrowEngine F) (agent id : String) : Prop :=
  ∃ k b, k ≠ id ∧ s.bounty k = some b ∧ b.claimedBy = some agent ∧ b.state.active = true

/-- The call neither lets an agent take on a bounty while another one is active, nor takes
    one up again, by submitting to it or by a dispute without a panel. -/
def LeavesOneActive (s : EscrowEngine F) (c : EscrowCall F) : Prop :=
  match c.op with
  | .claimBounty id agent =>
    ∀ b, s.bounty id = some b → b.state = .opened → s.Eligible agent (c.now 0) → ¬Busy s agent id
  | .submitWork id agent _ =>
    ∀ b, s.bounty id = some b → b.claimedBy = some agent → ¬Busy s agent id
  | .disputeBounty id client _ =>
    s.config.consensusAgents < 1 → ∀ b, s.bounty id = some b → b.clientId = client →
      ∀ agent, b.claimedBy = some agent → ¬Busy s agent id
  | _ => True

omit [PyArith F] in
theorem oneActive_congr {s s' : EscrowEngine F} (h : ∀ k, s'.bounty k = s.bounty k) :
    OneActive s' ↔ OneActive s := by
  simp only [OneActive, h]

omit [PyArith F] in
/-- Writing an active bounty is all right if its agent is not busy with another one. -/
theorem Writes.oneActive_iff {s s' : EscrowEngine F} {id : String} {b : Bounty F}
    (hw : Writes s s' id b) (h : OneActive s) : OneActive s' ↔
      ∀ agent, b.claimedBy = some agent → b.state.active = true → ¬Busy s agent id := by
  constructor
  · rintro h' agent hclaim hactive ⟨k, b', hk, hget, hclaim', hactive'⟩
    rw [← hw.bounty_of_ne hk] at hget
    exact hk (h' agent k b' id b hget hw.bounty_self hclaim' hclaim hactive' hactive)
  · intro hbusy agent k c k' c' hk hk' hclaim hclaim' hactive hactive'
    by_cases hid : k = id <;> by_cases hid' : k' = id
    · rw [hid, hid']
    · rw [hid, hw.bounty_self] at hk
      obtain rfl := Option.some.inj hk
      rw [hw.bounty_of_ne hid'] at hk'
      exact absurd ⟨k', c', hid', hk', hclaim', hactive'⟩ (hbusy agent hclaim hactive)
    · rw [hid', hw.bounty_self] at hk'
      obtain rfl := Option.some.inj hk'
      rw [hw.bounty_of_ne hid] at hk
      exact absurd ⟨k, c, hid, hk, hclaim, hactive⟩ (hbusy agent hclaim' hactive')
    · rw [hw.bounty_of_ne hid] at hk
      rw [hw.bounty_of_ne hid'] at hk'
      exact h agent k c k' c' hk hk' hclaim hclaim' hactive hactive'

/-- One step, from a state in which no agent holds two active bounties. -/
theorem oneActive_step_iff (s : EscrowEngine F) (c : EscrowCall F) (h : OneActive s) :
    OneActive ((escrow F py).step s c).1 ↔ LeavesOneActive s c := by
  have hkept {s' : EscrowEngine F} (hs' : Unchanged s s') : OneActive s' :=
    (oneActive_congr hs'.bounty).2 h
  have hidle {s' : EscrowEngine F} {k : String} {b : Bounty F} (hw : Writes s s' k b)
      (hb : b.state.active = false) : OneActive s' :=
    (hw.oneActive_iff h).2 fun _ _ hactive => absurd (hb.symm.trans hactive) nofun
  obtain ⟨op, now⟩ := c
  cases op with
  | createBounty freshId client title description reward requirements =>
    exact iff_of_true (hidle (s.bounty_setBounty freshId _) rfl) trivial
  | claimBounty id agent =>
    obtain ⟨b, hget, hstate, heligible, _, hw, _⟩ | ⟨hkeeps, _, hnot⟩ :=
      s.claimBounty_cases now id agent
    · refine (hw.oneActive_iff h).trans ⟨fun hbusy _ _ _ _ => hbusy agent rfl rfl, ?_⟩
      rintro hbusy _ hagent _
      exact Option.some.inj hagent ▸ hbusy b hget hstate heligible
    · exact iff_of_true (hkept hkeeps) fun b hget hstate heligible =>
        absurd heligible (hnot b hget hstate)
  | submitWork id agent output =>
    obtain ⟨b, hget, hclaim, _, hw, _⟩ | ⟨hkeeps, _, hnot⟩ :=
      s.submitWork_cases now py id agent output
    · refine (hw.oneActive_iff h).trans ⟨fun hbusy _ _ _ => hbusy agent hclaim rfl, ?_⟩
      rintro hbusy agent' hagent _
      obtain rfl := Option.some.inj (hclaim.symm.trans hagent)
      exact hbusy b hget hclaim
    · exact iff_of_true (hkept hkeeps) fun b hget hclaim => absurd hclaim (hnot b hget)
  | approveBounty id client =>
    obtain ⟨b, _, _, _, _, hw, _⟩ | ⟨hkeeps, _⟩ := s.approveBounty_cases now id client
    · exact iff_of_true (hidle hw rfl) trivial
    · exact iff_of_true (hkept hkeeps) trivial
  | disputeBounty id client reason =>
    obtain ⟨b, hget, hclient, ⟨hconsensus, _, hw, _⟩ | ⟨hconsensus, _, hw, _⟩⟩ |
      ⟨hkeeps, _, hnot⟩ := s.disputeBounty_cases now id client reason
    · exact iff_of_true (hidle hw rfl) fun hlt => absurd hlt (not_lt.2 hconsensus)
    · refine (hw.oneActive_iff h).trans ⟨fun hbusy _ b' hget' _ agent hclaim => ?_, ?_⟩
      · obtain rfl := Option.some.inj (hget.symm.trans hget')
        exact hbusy agent hclaim rfl
      · exact fun hbusy agent hclaim _ => hbusy hconsensus b hget hclient agent hclaim
    · exact iff_of_true (hkept hkeeps) fun _ b hget hclient => absurd hclient (hnot b hget)
  | getAgentReputation agent =>
    refine iff_of_true ((oneActive_congr fun k => ?_).2 h) trivial
    exact (s.getAgentReputation_unchanged now agent).bounty k

/-- All along a run, no agent holds two active bounties, exactly if no call lets an agent
    take on a bounty, or take one up again, while another one is active. -/
theorem escrow_one_active_iff (py : Python) (config : EscrowConfig F) (cs : List (EscrowCall F)) :
    (∀ js, js <+: cs → OneActive ((escrow F py).run (.new config) js)) ↔
      (escrow F py).Guarded LeavesOneActive (.new config) cs :=
  Machine.invariant_iff_guarded (fun _ _ _ _ _ hk => absurd hk nofun)
    (fun s c h => oneActive_step_iff s c h) cs

namespace Sample

/-- Two bounties, and one agent who claims both. -/
def greedyRun : List (EscrowCall ℚ) := [
  call 0 (.createBounty "b1" "client" "title" "description" 100 .none),
  call 10 (.createBounty "b2" "client" "title" "description" 100 .none),
  call 20 (.claimBounty "b1" "agent"),
  call 30 (.claimBounty "b2" "agent")]

/-- The agent holds two bounties that are claimed. -/
theorem two_active : ¬OneActive ((escrow ℚ escrowLib).run engine greedyRun) := by
  have hclaimed : ∀ k ∈ ["b1", "b2"],
      (((escrow ℚ escrowLib).run engine greedyRun).bounty k).map
        (fun b => (b.claimedBy, b.state)) = some (some "agent", .claimed) := by decide +kernel
  intro h
  obtain ⟨b, hb, hb'⟩ := Option.map_eq_some_iff.1 (hclaimed "b1" (by simp))
  obtain ⟨c, hc, hc'⟩ := Option.map_eq_some_iff.1 (hclaimed "b2" (by simp))
  have heq := h "agent" "b1" b "b2" c hb hc (congrArg Prod.fst hb') (congrArg Prod.fst hc')
    (congrArg (BountyState.active ∘ Prod.snd) hb') (congrArg (BountyState.active ∘ Prod.snd) hc')
  exact absurd heq (by decide)

end Sample

end VibeShield
