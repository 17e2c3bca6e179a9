import VibeShield.Escrow.Effect
import VibeShield.Python.Json

/-!
# Settling bounties

The flow of a bounty ends with its settlement, and it is settled for a delivered
piece of work. The operations do not enforce this: `submit_work` does not look at
the state of the bounty, and `dispute_bounty` accepts any. What holds is proved
for runs in which no call makes use of this:

* `escrow_settles_once`: if no call submits to, disputes or overwrites a settled
  bounty (`LeavesSettledAlone`), settled bounties stay as they are, and a bounty
  adds at most one entry to the histories;
* `escrow_settles_delivered`: if the client does not dispute a bounty that is
  only open or claimed (`DisputesDelivered`), every settled bounty has been
  claimed, and its work submitted, by one and the same agent.

`Sample` runs break the two conclusions where the conditions fail.
-/

namespace VibeShield

variable {F : Type*}

theorem Writes.bounty_self {s s' : EscrowEngine F} {id : String} {b : Bounty F}
    (h : Writes s s' id b) : s'.bounty id = some b := by
  rw [h id, if_pos rfl]

theorem Writes.bounty_of_ne {s s' : EscrowEngine F} {id k : String} {b : Bounty F}
    (h : Writes s s' id b) (hk : k ≠ id) : s'.bounty k = s.bounty k := by
  rw [h k, if_neg hk]

/-- What holds of all bounties and of the one that is written holds of all
    bounties afterwards. -/
theorem Writes.forall {s s' : EscrowEngine F} {id : String} {b : Bounty F} (h : Writes s s' id b)
    {P : String → Bounty F → Prop} (hs : ∀ k c, s.bounty k = some c → P k c) (hb : P id b) :
    ∀ k c, s'.bounty k = some c → P k c := by
  intro k c hc
  by_cases hk : k = id
  · subst hk
    exact Option.some.inj (h.bounty_self.symm.trans hc) ▸ hb
  · exact hs k c (h.bounty_of_ne hk ▸ hc)

/-! ## At most once -/

/-- The bounty an operation names. -/
def EscrowOp.bountyId? : EscrowOp F → Option String
  | createBounty freshId _ _ _ _ _ => some freshId
  | claimBounty bountyId _ => some bountyId
  | submitWork bountyId _ _ => some bountyId
  | approveBounty bountyId _ => some bountyId
  | disputeBounty bountyId _ _ => some bountyId
  | getAgentReputation _ => none

/-- The entries that the step adds to the history of an agent on account of a
    bounty. -/
def entriesOf (id : String) (agent : Option String) (ev : EscrowEvent F) : ℕ :=
  if ev.input.op.bountyId? = some id then
    (ev.post.history agent).length - (ev.pre.history agent).length
  else 0

/-- The entries added in a run. -/
def entriesOnAccount (id : String) (agent : Option String) (evs : List (EscrowEvent F)) : ℕ :=
  (evs.map (entriesOf id agent)).sum

/-- The call does not overwrite a settled bounty with a new one of the same id, and
    neither does the agent submit to, nor the client dispute, a settled bounty. -/
def LeavesSettledAlone (s : EscrowEngine F) (c : EscrowCall F) : Prop :=
  match c.op with
  | .createBounty freshId _ _ _ _ _ => ∀ b, s.bounty freshId = some b → b.state ≠ .settled
  | .submitWork bountyId agentId _ =>
    ∀ b, s.bounty bountyId = some b → b.state = .settled → b.claimedBy ≠ some agentId
  | .disputeBounty bountyId clientId _ =>
    ∀ b, s.bounty bountyId = some b → b.state = .settled → b.clientId ≠ clientId
  | _ => True

/-- A bounty that such a call settles was not settled before. -/
theorem Effect.not_settled_of_settled {s : EscrowEngine F} {c : EscrowCall F} {id client : String}
    {b : Bounty F} (hG : LeavesSettledAlone s c)
    (hop : (c.op = .approveBounty id client ∧ b.state = .submitted) ∨
      ∃ reason, c.op = .disputeBounty id client reason ∧ 1 ≤ s.config.consensusAgents)
    (hget : s.bounty id = some b) (hclient : b.clientId = client) : b.state ≠ .settled := by
  intro hsettled
  rcases hop with ⟨_, hstate⟩ | ⟨reason, hop, _⟩
  · rw [hstate] at hsettled
    exact absurd hsettled nofun
  · rw [LeavesSettledAlone, hop] at hG
    exact hG b hget hsettled hclient

variable [PyArith F] {py : Python}

/-- Such a call leaves a settled bounty as it is. -/
theorem bounty_step_of_settled {s : EscrowEngine F} {c : EscrowCall F}
    (hG : LeavesSettledAlone s c) {id : String} {b : Bounty F} (hget : s.bounty id = some b)
    (hsettled : b.state = .settled) : ((escrow F py).step s c).1.bounty id = some b := by
  -- Writing to the bounty takes a state it does not have, or is excluded.
  have hkeep {id' : String} {b' : Bounty F} (hw : Writes s ((escrow F py).step s c).1 id' b')
      (hne : id = id' → False) : ((escrow F py).step s c).1.bounty id = some b := by
    rw [hw.bounty_of_ne hne, hget]
  cases escrow_effect py s c with
  | idle hb _ => exact (hb id).trans hget
  | created hop hw _ _ _ =>
    refine hkeep hw ?_
    rintro rfl
    rw [LeavesSettledAlone, show c.op = _ from hop] at hG
    exact hG b hget hsettled
  | claimed _ _ hget' hstate hw _ =>
    refine hkeep hw ?_
    rintro rfl
    rw [← Option.some.inj (hget.symm.trans hget'), hsettled] at hstate
    exact absurd hstate nofun
  | submitted hop _ hget' hclaim hw _ =>
    refine hkeep hw ?_
    rintro rfl
    rw [LeavesSettledAlone, show c.op = _ from hop] at hG
    obtain rfl := Option.some.inj (hget.symm.trans hget')
    exact hG b hget hsettled hclaim
  | settled _ _ hop hget' hclient hw _ =>
    refine hkeep hw ?_
    rintro rfl
    obtain rfl := Option.some.inj (hget.symm.trans hget')
    exact Effect.not_settled_of_settled hG hop hget hclient hsettled
  | stuck hop _ hget' hclient hw _ =>
    refine hkeep hw ?_
    rintro rfl
    rw [LeavesSettledAlone, show c.op = _ from hop] at hG
    obtain rfl := Option.some.inj (hget.symm.trans hget')
    exact hG b hget hsettled hclient

/-- Such a call adds at most one entry on account of a bounty, and only when it
    settles it. -/
theorem entriesOf_event {s : EscrowEngine F} {c : EscrowCall F} (hG : LeavesSettledAlone s c)
    (id : String) (agent : Option String) :
    entriesOf id agent ((escrow F py).event s c) = 0 ∨
      (entriesOf id agent ((escrow F py).event s c) = 1 ∧
        (∀ b, s.bounty id = some b → b.state ≠ .settled) ∧
        ∃ b, ((escrow F py).step s c).1.bounty id = some b ∧ b.state = .settled) := by
  have hzero (hh : KeepsHistories s ((escrow F py).step s c).1) :
      entriesOf id agent ((escrow F py).event s c) = 0 := by
    rw [entriesOf]
    split
    · exact Nat.sub_eq_zero_of_le (Nat.le_of_eq (congrArg List.length (hh agent)))
    · rfl
  -- Only settling adds an entry, and the bounty it settles was not settled before.
  cases escrow_effect py s c with
  | idle _ hh => exact .inl (hzero hh)
  | created _ _ _ _ hh => exact .inl (hzero hh)
  | claimed _ _ _ _ _ hh => exact .inl (hzero hh)
  | submitted _ _ _ _ _ hh => exact .inl (hzero hh)
  | stuck _ _ _ _ _ hh => exact .inl (hzero hh)
  | @settled id' client b t e hop hget hclient hw hh =>
    have hnamed : ((escrow F py).event s c).input.op.bountyId? = some id' := by
      rcases hop with ⟨hop, _⟩ | ⟨_, hop, _⟩ <;> exact congrArg EscrowOp.bountyId? hop
    have hnew : b.state ≠ .settled := Effect.not_settled_of_settled hG hop hget hclient
    by_cases hid : id' = id
    · subst hid
      have hlen := congrArg List.length (hh agent)
      by_cases ha : agent = b.claimedBy
      · refine .inr ⟨?_, fun b' hb' => Option.some.inj (hget.symm.trans hb') ▸ hnew,
          _, hw.bounty_self, rfl⟩
        rw [if_pos ha, List.length_append, List.length_singleton] at hlen
        rw [entriesOf, if_pos hnamed, hlen, Nat.add_sub_cancel_left]
      · rw [if_neg ha] at hlen
        refine .inl ?_
        rw [entriesOf, hlen, Nat.sub_self, ite_self]
    · refine .inl (if_neg fun h => hid (Option.some.inj (hnamed.symm.trans h)))

/-- The invariant of the entries: at most one for each bounty, and none before it
    is settled. -/
def EntriesBounded (evs : List (EscrowEvent F)) (s : EscrowEngine F) : Prop :=
  ∀ id agent, entriesOnAccount id agent evs = 0 ∨
    (entriesOnAccount id agent evs = 1 ∧ ∃ b, s.bounty id = some b ∧ b.state = .settled)

theorem entriesBounded_step {evs : List (EscrowEvent F)} {s : EscrowEngine F} {c : EscrowCall F}
    (hG : LeavesSettledAlone s c) (h : EntriesBounded evs s) :
    EntriesBounded (evs ++ [(escrow F py).event s c]) ((escrow F py).step s c).1 := by
  intro id agent
  have hsum : entriesOnAccount id agent (evs ++ [(escrow F py).event s c]) =
      entriesOnAccount id agent evs + entriesOf id agent ((escrow F py).event s c) := by
    rw [entriesOnAccount, List.map_append, List.sum_append, List.map_singleton, List.sum_singleton]
    rfl
  rw [hsum]
  have hevent : entriesOf id agent ((escrow F py).event s c) = 0 ∨ _ := entriesOf_event hG id agent
  rcases h id agent with h₀ | ⟨h₁, b, hget, hsettled⟩
  · rw [h₀, Nat.zero_add]
    exact hevent.imp_right fun h => ⟨h.1, h.2.2⟩
  · -- With an entry already there, the bounty is settled, and the step adds none.
    rcases hevent with h₀ | ⟨_, hnot, _⟩
    · exact .inr ⟨by rw [h₀, h₁], b, bounty_step_of_settled hG hget hsettled, hsettled⟩
    · exact absurd hsettled (hnot b hget)

/-- In a run of calls that leave settled bounties alone, a bounty does not change
    once it is settled, and each agent gets at most one entry on account of it. -/
theorem escrow_settles_once (py : Python) (config : EscrowConfig F) (cs : List (EscrowCall F))
    (hG : (escrow F py).Guarded LeavesSettledAlone (EscrowEngine.new config) cs) :
    (∀ js ks, cs = js ++ ks → ∀ id b,
      ((escrow F py).run (EscrowEngine.new config) js).bounty id = some b → b.state = .settled →
      ((escrow F py).run (EscrowEngine.new config) cs).bounty id = some b) ∧
    ∀ id agent,
      entriesOnAccount id agent ((escrow F py).events (EscrowEngine.new config) cs) ≤ 1 := by
  constructor
  · rintro js ks rfl id b hget hsettled
    rw [Machine.run_append]
    exact Machine.invariant (P := fun s => s.bounty id = some b) hget
      (fun _ _ hG h => bounty_step_of_settled hG h hsettled) ks (Machine.guarded_append.1 hG).2
  · intro id agent
    have h : EntriesBounded _ _ := Machine.history_induction (P := EntriesBounded)
      (fun _ _ => .inl rfl) (fun _ _ _ hG h => entriesBounded_step hG h) cs hG
    rcases h id agent with h | ⟨h, _⟩ <;> omega

namespace Sample

/-- The library, with the digest of the work that is submitted. -/
def escrowLib : Python :=
  .plain [("output", "e0ee8bb50685e05fa0f47ed04203ae953fdfd055f5bd2892ea186504254f8c3a")] ""

/-- The default settings, in exact arithmetic. -/
def escrowConfig : EscrowConfig ℚ := ⟨3, 19 / 20, 21 / 20, 3 / 10⟩

def engine : EscrowEngine ℚ := .new escrowConfig

/-- A call at the time `t`; the clock ticks at every reading. -/
def call (t : ℕ) (op : EscrowOp ℚ) : EscrowCall ℚ := ⟨op, fun k => t + k⟩

/-- The state of the bounty after the calls. -/
def stateAfter (cs : List (EscrowCall ℚ)) : Option BountyState :=
  (((escrow ℚ escrowLib).run engine cs).bounty "bounty").map Bounty.state

theorem state_eq_of_stateAfter {cs : List (EscrowCall ℚ)} {st : BountyState}
    (h : stateAfter cs = some st) {b : Bounty ℚ}
    (hb : ((escrow ℚ escrowLib).run engine cs).bounty "bounty" = some b) : b.state = st := by
  rw [stateAfter, hb] at h
  exact Option.some.inj h

def createCall : EscrowCall ℚ :=
  call 0 (.createBounty "bounty" "client" "title" "description" 100 .none)

def claimCall : EscrowCall ℚ := call 10 (.claimBounty "bounty" "agent")

def submitCall : EscrowCall ℚ := call 20 (.submitWork "bounty" "agent" "output")

def approveCall : EscrowCall ℚ := call 30 (.approveBounty "bounty" "client")

def disputeCall : EscrowCall ℚ := call 40 (.disputeBounty "bounty" "client" "reason")

/-- A bounty is claimed, its work submitted and approved. -/
def approvedRun : List (EscrowCall ℚ) := [createCall, claimCall, submitCall, approveCall]

theorem leavesSettledAlone_approvedRun :
    (escrow ℚ escrowLib).Guarded LeavesSettledAlone engine approvedRun := by
  intro ev hev
  simp only [approvedRun, Machine.events, List.mem_cons, List.not_mem_nil, or_false] at hev
  rcases hev with rfl | rfl | rfl | rfl
  · intro b hb
    cases hb
  · trivial
  · intro b hb hsettled
    have hclaimed : stateAfter [createCall, claimCall] = some .claimed := by decide +kernel
    cases (state_eq_of_stateAfter hclaimed hb).symm.trans hsettled
  · trivial

/-- An agent gets one entry for a bounty that is approved. -/
theorem settled_once :
    entriesOnAccount "bounty" (some "agent") ((escrow ℚ escrowLib).events engine approvedRun) ≤ 1 :=
  (escrow_settles_once escrowLib escrowConfig approvedRun leavesSettledAlone_approvedRun).2 _ _

/-- A dispute settles a settled bounty again, at another time and with another
    entry for the agent. -/
theorem settled_twice :
    let s := (escrow ℚ escrowLib).run engine approvedRun
    let s' := (escrow ℚ escrowLib).run engine (approvedRun ++ [disputeCall])
    (s.bounty "bounty").map Bounty.state = some .settled ∧
      (s.bounty "bounty").map Bounty.settledAt = some (some 33) ∧
      (s'.bounty "bounty").map Bounty.settledAt = some (some 40) ∧
      entriesOnAccount "bounty" (some "agent")
        ((escrow ℚ escrowLib).events engine (approvedRun ++ [disputeCall])) = 2 := by
  decide +kernel

end Sample

/-! ## Only for delivered work -/

/-- In the steps taken, the agent has claimed the bounty. -/
def HasClaimed (evs : List (EscrowEvent F)) (id agent : String) : Prop :=
  ∃ ev ∈ evs, ev.input.op = .claimBounty id agent ∧ ev.output = .ok (.bool true)

/-- In the steps taken, the agent has submitted work with the given hash at the
    given time. -/
def HasSubmitted (py : Python) (evs : List (EscrowEvent F)) (id agent hash : String) (t : F) :
    Prop :=
  ∃ ev ∈ evs, ∃ output, ev.input.op = .submitWork id agent output ∧
    ev.output = .ok (.bool true) ∧ py.sha256 output = hash ∧ ev.input.now 0 = t

/-- The bounty has been claimed by an agent who has submitted the work that it
    records. -/
def Delivered (py : Python) (evs : List (EscrowEvent F)) (id : String) (b : Bounty F) : Prop :=
  ∃ agent, b.claimedBy = some agent ∧ HasClaimed evs id agent ∧
    ∃ hash t, b.outputSnapshot = some hash ∧ b.submittedAt = some t ∧
      HasSubmitted py evs id agent hash t

/-- The client does not dispute a bounty that is only open or claimed, if the
    consensus panel has members. -/
def DisputesDelivered (s : EscrowEngine F) (c : EscrowCall F) : Prop :=
  match c.op with
  | .disputeBounty bountyId clientId _ => 1 ≤ s.config.consensusAgents →
    ∀ b, s.bounty bountyId = some b → b.clientId = clientId →
      b.state ≠ .opened ∧ b.state ≠ .claimed
  | _ => True

/-- The invariant of a bounty: who has claimed it is on record, so is its
    delivery once it is submitted, and only an empty panel leaves it disputed. -/
structure Recorded (py : Python) (evs : List (EscrowEvent F)) (consensusAgents : ℤ) (id : String)
    (b : Bounty F) : Prop where
  claimed : ∀ agent, b.claimedBy = some agent → HasClaimed evs id agent
  delivered : b.state = .submitted ∨ b.state = .settled → Delivered py evs id b
  state : b.state = .opened ∨ b.state = .claimed ∨ b.state = .submitted ∨ b.state = .settled ∨
    (b.state = .disputed ∧ consensusAgents < 1)

section Recorded

variable {F : Type*} {evs fs : List (EscrowEvent F)} {n : ℤ} {id : String} {b : Bounty F}

theorem HasClaimed.append {agent : String} (h : HasClaimed evs id agent) :
    HasClaimed (evs ++ fs) id agent := by
  obtain ⟨ev, hev, h⟩ := h
  exact ⟨ev, List.mem_append_left _ hev, h⟩

theorem HasSubmitted.append {agent hash : String} {t : F}
    (h : HasSubmitted py evs id agent hash t) : HasSubmitted py (evs ++ fs) id agent hash t := by
  obtain ⟨ev, hev, h⟩ := h
  exact ⟨ev, List.mem_append_left _ hev, h⟩

theorem Delivered.append (h : Delivered py evs id b) : Delivered py (evs ++ fs) id b := by
  obtain ⟨agent, hb, hc, hash, t, hhash, ht, hs⟩ := h
  exact ⟨agent, hb, hc.append, hash, t, hhash, ht, hs.append⟩

theorem Recorded.append (h : Recorded py evs n id b) : Recorded py (evs ++ fs) n id b where
  claimed agent ha := (h.claimed agent ha).append
  delivered hs := (h.delivered hs).append
  state := h.state

/-- A bounty is settled by approval after its submission, or by a dispute, which
    it takes a panel for. -/
theorem Recorded.settle (h : Recorded py evs n id b) (t : F)
    (hsub : b.state = .submitted ∨ (b.state ≠ .opened ∧ b.state ≠ .claimed ∧ 1 ≤ n)) :
    Recorded py evs n id { b with state := .settled, settledAt := some t } where
  claimed := h.claimed
  delivered _ := by
    refine h.delivered ?_
    rcases hsub with hsub | ⟨h₁, h₂, hn⟩
    · exact .inl hsub
    · rcases h.state with h' | h' | h' | h' | ⟨_, hn'⟩
      · exact absurd h' h₁
      · exact absurd h' h₂
      · exact .inl h'
      · exact .inr h'
      · exact absurd hn (not_le.2 hn')
  state := .inr (.inr (.inr (.inl rfl)))

end Recorded

/-- Every bounty is on record, and the settings are the ones at the start. -/
def AllRecorded (py : Python) (n : ℤ) (evs : List (EscrowEvent F)) (s : EscrowEngine F) : Prop :=
  s.config.consensusAgents = n ∧ ∀ id b, s.bounty id = some b → Recorded py evs n id b

theorem allRecorded_step {n : ℤ} {evs : List (EscrowEvent F)} {s : EscrowEngine F}
    {c : EscrowCall F} (hG : DisputesDelivered s c) (h : AllRecorded py n evs s) :
    AllRecorded py n (evs ++ [(escrow F py).event s c]) ((escrow F py).step s c).1 := by
  obtain ⟨hn, h⟩ := h
  have hev : (escrow F py).event s c ∈ evs ++ [(escrow F py).event s c] := by simp
  have hold : ∀ id b, s.bounty id = some b →
      Recorded py (evs ++ [(escrow F py).event s c]) n id b := fun id b hb => (h id b hb).append
  refine ⟨(congrArg _ (config_step py s c)).trans hn, ?_⟩
  cases escrow_effect py s c with
  | idle hb _ => exact fun id b hget => hold id b (hb id ▸ hget)
  | created _ hw hstate hclaim _ =>
    refine hw.forall hold ⟨fun a ha => ?_, fun hs => ?_, .inl hstate⟩
    · exact absurd (hclaim.symm.trans ha) nofun
    · rw [hstate] at hs
      exact absurd hs (by simp)
  | @claimed id agent b hop hreply hget _ hw _ =>
    refine hw.forall hold ⟨fun a ha => ?_, fun hs => absurd hs (by simp), .inr (.inl rfl)⟩
    obtain rfl : agent = a := Option.some.inj ha
    exact ⟨_, hev, hop, hreply⟩
  | @submitted id agent output b hop hreply hget hclaim hw _ =>
    have hb := hold id b hget
    refine hw.forall hold ⟨hb.claimed, fun _ => ?_, .inr (.inr (.inl rfl))⟩
    exact ⟨agent, hclaim, hb.claimed agent hclaim, _, _, rfl, rfl, _, hev, output, hop, hreply,
      rfl, rfl⟩
  | @settled id client b t e hop hget hclient hw _ =>
    -- Submitted before: approved, or disputed by a client who waited for the work.
    refine hw.forall hold ((hold id b hget).settle t ?_)
    rcases hop with ⟨_, hstate⟩ | ⟨reason, hop, hpanel⟩
    · exact .inl hstate
    · rw [DisputesDelivered, show c.op = _ from hop] at hG
      obtain ⟨h₁, h₂⟩ := hG hpanel b hget hclient
      exact .inr ⟨h₁, h₂, hn ▸ hpanel⟩
  | @stuck id client reason b _ hpanel hget _ hw _ =>
    have hb := hold id b hget
    exact hw.forall hold ⟨hb.claimed, fun hs => absurd hs (by simp),
      .inr (.inr (.inr (.inr ⟨rfl, hn ▸ hpanel⟩)))⟩

/-- Such a call does not settle a bounty that is open or claimed. -/
theorem not_settled_step {s : EscrowEngine F} {c : EscrowCall F} (hG : DisputesDelivered s c)
    {id : String} {b : Bounty F} (hget : s.bounty id = some b)
    (hstate : b.state = .opened ∨ b.state = .claimed) :
    ∀ b', ((escrow F py).step s c).1.bounty id = some b' → b'.state ≠ .settled := by
  have hb : b.state ≠ .settled := by
    rintro h
    rw [h] at hstate
    exact absurd hstate (by simp)
  have hkeep {id' : String} {c' : Bounty F} (hw : Writes s ((escrow F py).step s c).1 id' c')
      (hc : id = id' → c'.state ≠ .settled) :
      ∀ b', ((escrow F py).step s c).1.bounty id = some b' → b'.state ≠ .settled := by
    intro b' hb'
    by_cases hid : id = id'
    · subst hid
      exact Option.some.inj (hw.bounty_self.symm.trans hb') ▸ hc rfl
    · exact Option.some.inj ((hget.symm.trans (hw.bounty_of_ne hid).symm).trans hb') ▸ hb
  cases escrow_effect py s c with
  | idle hkept _ =>
    exact fun b' hb' => Option.some.inj ((hget.symm.trans (hkept id).symm).trans hb') ▸ hb
  | created _ hw hnew _ _ => exact hkeep hw fun _ h => absurd (hnew.symm.trans h) nofun
  | claimed _ _ _ _ hw _ => exact hkeep hw fun _ => nofun
  | submitted _ _ _ _ hw _ => exact hkeep hw fun _ => nofun
  | stuck _ _ _ _ hw _ => exact hkeep hw fun _ => nofun
  | settled _ _ hop hget' hclient hw _ =>
    refine hkeep hw ?_
    rintro rfl
    obtain rfl := Option.some.inj (hget.symm.trans hget')
    rcases hop with ⟨_, hsub⟩ | ⟨reason, hop, hpanel⟩
    · rw [hsub] at hstate
      exact absurd hstate (by simp)
    · rw [DisputesDelivered, show c.op = _ from hop] at hG
      obtain ⟨h₁, h₂⟩ := hG hpanel b hget hclient
      exact absurd hstate (by simp [h₁, h₂])

/-- In a run in which only delivered work is disputed, a settled bounty has been
    claimed and its work submitted by the same agent, and no call settles a
    bounty that is open or claimed. -/
theorem escrow_settles_delivered (py : Python) (config : EscrowConfig F) (cs : List (EscrowCall F))
    (hG : (escrow F py).Guarded DisputesDelivered (EscrowEngine.new config) cs) :
    (∀ id b, ((escrow F py).run (EscrowEngine.new config) cs).bounty id = some b →
      b.state = .settled →
      Delivered py ((escrow F py).events (EscrowEngine.new config) cs) id b) ∧
    ∀ ev ∈ (escrow F py).events (EscrowEngine.new config) cs, ∀ id b b',
      ev.pre.bounty id = some b → b.state = .opened ∨ b.state = .claimed →
      ev.post.bounty id = some b' → b'.state ≠ .settled := by
  constructor
  · intro id b hget hsettled
    have h : AllRecorded py config.consensusAgents _ _ :=
      Machine.history_induction (P := AllRecorded py config.consensusAgents)
        ⟨rfl, fun _ _ h => absurd ((EscrowEngine.bounty_new config _).symm.trans h) nofun⟩
        (fun _ _ _ hG h => allRecorded_step hG h) cs hG
    exact (h.2 id b hget).delivered (.inr hsettled)
  · intro ev hev id b b' hget hstate
    obtain ⟨js, c, _, _, rfl⟩ := Machine.exists_prefix_of_mem_events hev
    exact not_settled_step (hG _ hev) hget hstate b'

namespace Sample

theorem disputesDelivered_approvedRun :
    (escrow ℚ escrowLib).Guarded DisputesDelivered engine (approvedRun ++ [disputeCall]) := by
  intro ev hev
  simp only [approvedRun, List.cons_append, List.nil_append, Machine.events, List.mem_cons,
    List.not_mem_nil, or_false] at hev
  rcases hev with rfl | rfl | rfl | rfl | rfl
  · trivial
  · trivial
  · trivial
  · trivial
  · intro _ b hb _
    have hsettled : stateAfter approvedRun = some .settled := by decide +kernel
    rw [state_eq_of_stateAfter hsettled hb]
    exact ⟨by decide, by decide⟩

/-- The bounty that is approved, and disputed later, has been delivered. -/
theorem settled_delivered : ∃ b, ((escrow ℚ escrowLib).run engine
      (approvedRun ++ [disputeCall])).bounty "bounty" = some b ∧ b.state = .settled ∧
    Delivered escrowLib ((escrow ℚ escrowLib).events engine (approvedRun ++ [disputeCall]))
      "bounty" b := by
  have hsettled : stateAfter (approvedRun ++ [disputeCall]) = some .settled := by decide +kernel
  obtain ⟨b, hb, hstate⟩ := Option.map_eq_some_iff.1 hsettled
  exact ⟨b, hb, hstate, (escrow_settles_delivered escrowLib escrowConfig
    (approvedRun ++ [disputeCall]) disputesDelivered_approvedRun).1 "bounty" b hb hstate⟩

/-- A dispute settles an open bounty, which nobody has claimed. -/
theorem settled_open :
    let s := (escrow ℚ escrowLib).run engine [createCall, disputeCall]
    stateAfter [createCall] = some .opened ∧ stateAfter [createCall, disputeCall] = some .settled ∧
      (s.bounty "bounty").map Bounty.claimedBy = some none ∧
      (s.bounty "bounty").map Bounty.outputSnapshot = some none ∧
      (s.bounty "bounty").map Bounty.submittedAt = some none := by
  decide +kernel

end Sample

end VibeShield
