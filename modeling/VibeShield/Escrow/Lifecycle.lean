import VibeShield.Escrow.Accounting
import VibeShield.Escrow.Disputes

/-!
# The states that bounties are in

Of the nine states of a bounty, the engine uses the open, claimed, submitted, settled and
disputed one. Which of these occur depends on two settings: an agent without a history must
reach the minimal reputation to claim anything (`EscrowConfig.Admits`), as the score of an agent
only ever changes through bounties that it has claimed; and a dispute settles the bounty exactly
if the consensus panel has members. Altogether, `bounty_state_iff`.
-/

namespace VibeShield

variable {F : Type*} [PyArith F]

namespace EscrowConfig

/-- An agent without a history may claim bounties. -/
def Admits (config : EscrowConfig F) : Prop :=
  PyArith.lt (PyArith.lit (1 / 2)) config.minReputation = false

/-- The states that bounties are in at some time. -/
def Occurs (config : EscrowConfig F) : BountyState → Prop
  | .opened => True
  | .claimed => config.Admits
  | .submitted => config.Admits
  | .settled => 1 ≤ config.consensusAgents ∨ config.Admits
  | .disputed => config.consensusAgents < 1
  | .inProgress => False
  | .underReview => False
  | .approved => False
  | .cancelled => False

end EscrowConfig

variable {py : Python} {s s' : EscrowEngine F}

/-! ## Reputations -/

/-- What holds of new reputations and of updated ones holds of all after a step. -/
theorem forall_reputations_step {P : Reputation F → Prop} (hnew : ∀ a t, P (.new a t))
    (hupdate : ∀ r x v d t₁ t₂, P r → P (r.update x v d t₁ t₂))
    (hs : ∀ a r, s.reputations.get? a = some r → P r) (c : EscrowCall F) :
    ∀ a r, ((escrow F py).step s c).1.reputations.get? a = some r → P r := by
  have hcreate (agent : Option String) (t : F) : P (s.getOrCreateReputation agent t).2 := by
    rw [EscrowEngine.getOrCreateReputation]
    split
    · next r hr => exact hs agent r hr
    · exact hnew agent t
  intro a r hr
  obtain ⟨⟨s', hadds, heq⟩, _⟩ | ⟨⟨agent, t, x, v, d, t₁, t₂, heq⟩, _⟩ := reputations_step py s c
  · rw [heq] at hr
    obtain rfl | ⟨agent, t, _, rfl⟩ := hadds
    · exact hs a r hr
    · simp only [PyDict.get?_set] at hr
      split at hr
      · exact Option.some.inj hr ▸ hnew agent t
      · exact hs a r hr
  · rw [heq, EscrowEngine.get?_updateReputation] at hr
    split at hr
    · exact Option.some.inj hr ▸ hupdate _ x v d t₁ t₂ (hcreate agent t)
    · exact hs a r hr

/-- An agent without a history has the score it starts with. -/
theorem calculateRs_of_history_eq_nil
    (hs : ∀ a r, s.reputations.get? a = some r → r.score = PyArith.lit (1 / 2)) {a : Option String}
    (ha : s.history a = []) (t d : F) :
    (s.getOrCreateReputation a t).2.calculateRs d = .ok (PyArith.lit (1 / 2)) := by
  have hnil : (s.getOrCreateReputation a t).2.history = [] :=
    (s.snd_getOrCreateReputation a t).trans ha
  rw [Reputation.calculateRs, if_pos hnil, EscrowEngine.getOrCreateReputation]
  split
  · next r hr => exact congrArg Except.ok (hs a r hr)
  · rfl

/-! ## What occurs -/

/-- What holds of all runs: scores are not touched, no other states occur, and nobody has claimed
    anything if newcomers cannot. -/
structure InLifecycle (config : EscrowConfig F) (s : EscrowEngine F) : Prop where
  config_eq : s.config = config
  score : ∀ a r, s.reputations.get? a = some r → r.score = PyArith.lit (1 / 2)
  occurs : ∀ id b, s.bounty id = some b → config.Occurs b.state
  claimed : ∀ id b, s.bounty id = some b → b.claimedBy ≠ none → config.Admits
  history : ¬config.Admits → ∀ a, s.history (some a) = []

variable {config : EscrowConfig F}

theorem InLifecycle.admits_of_eligible (h : InLifecycle config s) {agent : String} {t : F}
    (helig : s.Eligible agent t) : config.Admits := by
  obtain ⟨rs, hok, hlt⟩ := helig
  by_contra hnot
  rw [calculateRs_of_history_eq_nil h.score (h.history hnot agent)] at hok
  obtain rfl := Except.ok.inj hok
  exact hnot (h.config_eq ▸ hlt)

theorem InLifecycle.step (h : InLifecycle config s) (c : EscrowCall F) :
    InLifecycle config ((escrow F py).step s c).1 := by
  have hscore : ∀ a r, ((escrow F py).step s c).1.reputations.get? a = some r →
      r.score = PyArith.lit (1 / 2) :=
    forall_reputations_step (fun _ _ => rfl) (fun _ _ _ _ _ _ hr => hr) h.score c
  have hconfig := (config_step py s c).trans h.config_eq
  cases escrow_effect py s c with
  | idle hb hh =>
    refine ⟨hconfig, hscore, ?_, ?_, fun hnot a => (hh _).trans (h.history hnot a)⟩
    · exact fun id b hget => h.occurs id b ((hb id).symm.trans hget)
    · exact fun id b hget => h.claimed id b ((hb id).symm.trans hget)
  | created _ hw hstate hclaim hh =>
    refine ⟨hconfig, hscore, hw.forall h.occurs ?_, hw.forall h.claimed ?_,
      fun hnot a => (hh _).trans (h.history hnot a)⟩
    · rw [hstate]
      trivial
    · exact fun hne => absurd hclaim hne
  | @claimed id agent b hop hreply hget hstate hw hh =>
    -- The claim has been checked against the minimal reputation.
    have hadmits : config.Admits := by
      obtain ⟨op, now⟩ := c
      obtain rfl : op = .claimBounty id agent := hop
      obtain ⟨_, _, _, helig, _⟩ | ⟨_, hne, _⟩ := s.claimBounty_cases now id agent
      · exact h.admits_of_eligible helig
      · exact absurd (map_bool_eq_ok_iff.1 hreply) hne
    exact ⟨hconfig, hscore, hw.forall h.occurs hadmits, hw.forall h.claimed fun _ => hadmits,
      fun hnot => absurd hadmits hnot⟩
  | submitted _ _ hget hclaim hw hh =>
    have hadmits : config.Admits := h.claimed _ _ hget (by rw [hclaim]; simp)
    exact ⟨hconfig, hscore, hw.forall h.occurs hadmits, hw.forall h.claimed fun _ => hadmits,
      fun hnot => absurd hadmits hnot⟩
  | @settled id client b t e hop hget hclient hw hh =>
    refine ⟨hconfig, hscore, hw.forall h.occurs ?_, hw.forall h.claimed (h.claimed _ b hget),
      fun hnot a => ?_⟩
    · rcases hop with ⟨_, hstate⟩ | ⟨_, _, hmembers⟩
      · have hoccurs := h.occurs _ _ hget
        rw [hstate] at hoccurs
        exact .inr hoccurs
      · exact .inl (h.config_eq ▸ hmembers)
    · have hne : some a ≠ b.claimedBy := fun heq =>
        hnot (h.claimed _ _ hget (by rw [← heq]; simp))
      exact ((hh _).trans (if_neg hne)).trans (h.history hnot a)
  | stuck hop hconsensus hget hclient hw hh =>
    have hclaimed := h.claimed _ _ hget
    exact ⟨hconfig, hscore, hw.forall h.occurs (h.config_eq ▸ hconsensus),
      hw.forall h.claimed hclaimed, fun hnot a => (hh _).trans (h.history hnot a)⟩

theorem inLifecycle_run (py : Python) (config : EscrowConfig F) (cs : List (EscrowCall F)) :
    InLifecycle config ((escrow F py).run (.new config) cs) :=
  Machine.invariant (G := fun _ _ => True)
    ⟨rfl, fun _ _ h => absurd h (by simp [EscrowEngine.new]), fun _ _ h => absurd h (by simp),
      fun _ _ h => absurd h (by simp), fun _ _ => rfl⟩
    (fun _ c _ h => h.step c) cs fun _ _ => trivial

/-! ## What is reached -/

/-- Some run leads to a bounty of the client that is in the given state, and held by `holder`. -/
def Reached (py : Python) (config : EscrowConfig F) (st : BountyState) (holder : Option String) :
    Prop :=
  ∃ cs b, ((escrow F py).run (.new config) cs).bounty "bounty" = some b ∧ b.clientId = "client" ∧
    b.state = st ∧ b.claimedBy = holder

/-- A call at the time 0. -/
def EscrowOp.atZero (op : EscrowOp F) : EscrowCall F := ⟨op, fun _ => PyArith.lit 0⟩

theorem reached_concat (py : Python) (config : EscrowConfig F) (cs : List (EscrowCall F))
    (op : EscrowOp F) {b : Bounty F}
    (h : ((escrow F py).step ((escrow F py).run (.new config) cs) op.atZero).1.bounty "bounty" =
      some b) (hclient : b.clientId = "client") : Reached py config b.state b.claimedBy :=
  ⟨cs ++ [op.atZero], b, by rw [Machine.run_concat]; exact h, hclient, rfl, rfl⟩

/-- The creation of the bounty. -/
def posting (F : Type*) [PyArith F] : EscrowCall F :=
  (EscrowOp.createBounty "bounty" "client" "" "" (PyArith.lit 0) .none).atZero

theorem reached_opened (py : Python) (config : EscrowConfig F) :
    Reached py config .opened none :=
  ⟨[posting F], _, rfl, rfl, rfl, rfl⟩

theorem reached_claimed (py : Python) (h : config.Admits) :
    Reached py config .claimed (some "agent") := by
  obtain ⟨b, hget, _, _, _, hw, _⟩ | ⟨_, _, hnot⟩ :=
    ((escrow F py).run (.new config) [posting F]).claimBounty_cases (fun _ => PyArith.lit 0)
      "bounty" "agent"
  · obtain rfl := Option.some.inj hget
    exact reached_concat py config [posting F] (.claimBounty "bounty" "agent") hw.bounty_self rfl
  · exact absurd ⟨_, rfl, h⟩ (hnot _ rfl rfl)

theorem reached_submitted (py : Python) (h : config.Admits) :
    Reached py config .submitted (some "agent") := by
  obtain ⟨cs, b, hget, hclient, _, hholder⟩ := reached_claimed py h
  obtain ⟨b', hget', hclaim, _, hw, _⟩ | ⟨_, _, hnot⟩ :=
    ((escrow F py).run (.new config) cs).submitWork_cases (fun _ => PyArith.lit 0) py
      "bounty" "agent" ""
  · obtain rfl := Option.some.inj (hget.symm.trans hget')
    rw [← hholder]
    exact reached_concat py config cs (.submitWork "bounty" "agent" "") hw.bounty_self hclient
  · exact absurd hholder (hnot b hget)

theorem bounty_approveBounty {id client : String} {b : Bounty F} (now : ℕ → F)
    (hget : s.bounty id = some b) (hclient : b.clientId = client) (hstate : b.state = .submitted) :
    (s.approveBounty now id client).1.bounty id =
      some { b with state := .settled, settledAt := some (now 3) } := by
  have hget' : s.bounties.get? id = some b := hget
  simp [EscrowEngine.approveBounty, hget', hclient, hstate]

theorem exists_reached_settled (py : Python) (h : config.Occurs .settled) :
    ∃ holder, Reached py config .settled holder := by
  rcases h with hmembers | hadmits
  · obtain ⟨cs, b, hget, hclient, _⟩ := reached_opened py config
    obtain ⟨b', _, hclient', ⟨_, _, hw, _⟩ | ⟨hnone, _⟩⟩ | ⟨_, _, hnot⟩ :=
      ((escrow F py).run (.new config) cs).disputeBounty_cases (fun _ => PyArith.lit 0)
        "bounty" "client" ""
    · exact ⟨_, reached_concat py config cs (.disputeBounty "bounty" "client" "") hw.bounty_self
        hclient'⟩
    · rw [config_run_new] at hnone
      exact absurd hmembers (not_le.2 hnone)
    · exact absurd hclient (hnot b hget)
  · obtain ⟨cs, b, hget, hclient, hstate, _⟩ := reached_submitted py hadmits
    exact ⟨_, reached_concat py config cs (.approveBounty "bounty" "client")
      (bounty_approveBounty (fun _ => PyArith.lit 0) hget hclient hstate) hclient⟩

theorem exists_reached_disputed (py : Python) (h : config.consensusAgents < 1) :
    ∃ holder, Reached py config .disputed holder := by
  obtain ⟨cs, b, hget, hclient, _⟩ := reached_opened py config
  obtain ⟨b', _, hclient', ⟨hmembers, _⟩ | ⟨_, _, hw, _⟩⟩ | ⟨_, _, hnot⟩ :=
    ((escrow F py).run (.new config) cs).disputeBounty_cases (fun _ => PyArith.lit 0)
      "bounty" "client" ""
  · rw [config_run_new] at hmembers
    exact absurd hmembers (not_le.2 h)
  · exact ⟨_, reached_concat py config cs (.disputeBounty "bounty" "client" "") hw.bounty_self
      hclient'⟩
  · exact absurd hclient (hnot b hget)

/-- A state of a bounty occurs in some run exactly if the settings make it occur: open always;
    claimed and submitted if agents without a history reach the minimal reputation; settled if
    they do, or the consensus panel has members; disputed if it has none; the others never. -/
theorem bounty_state_iff (py : Python) (config : EscrowConfig F) (st : BountyState) :
    (∃ cs id b, ((escrow F py).run (.new config) cs).bounty id = some b ∧ b.state = st) ↔
      config.Occurs st := by
  constructor
  · rintro ⟨cs, id, b, hget, rfl⟩
    exact (inLifecycle_run py config cs).occurs id b hget
  · intro h
    have hreached : ∃ holder, Reached py config st holder := by
      cases st with
      | opened => exact ⟨_, reached_opened py config⟩
      | claimed => exact ⟨_, reached_claimed py h⟩
      | submitted => exact ⟨_, reached_submitted py h⟩
      | settled => exact exists_reached_settled py h
      | disputed => exact exists_reached_disputed py h
      | inProgress => exact h.elim
      | underReview => exact h.elim
      | approved => exact h.elim
      | cancelled => exact h.elim
    obtain ⟨_, cs, b, hget, _, hstate, _⟩ := hreached
    exact ⟨cs, "bounty", b, hget, hstate⟩

end VibeShield
