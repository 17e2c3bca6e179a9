import VibeShield.Escrow.Settlement
import VibeShield.Lib.StableSort

/-!
# The bounty board

The board (`EscrowEngine.getBountyBoard`) lists the bounties, all of them or those in a state, with
the newest first. No operation touches what a bounty offers (`Offer`) after its creation,
so that the board of all bounties is, at any time, a list of the creations so far:
`escrow_board`.
-/

namespace VibeShield

variable {F : Type*}

/-- `state.value`. -/
def BountyState.value : BountyState → String
  | opened => "open"
  | claimed => "claimed"
  | inProgress => "in_progress"
  | submitted => "submitted"
  | underReview => "under_review"
  | approved => "approved"
  | disputed => "disputed"
  | settled => "settled"
  | cancelled => "cancelled"

/-- A row of the board. -/
structure BoardRow (F : Type*) where
  bountyId : String
  title : String
  reward : F
  state : String
  claimedBy : Option String
  createdAt : F

/-- The row of a bounty. -/
def Bounty.row (b : Bounty F) : BoardRow F where
  bountyId := b.bountyId
  title := b.title
  reward := b.reward
  state := b.state.value
  claimedBy := b.claimedBy
  createdAt := b.createdAt

/-- Available bounties for the marketplace board. Bounties of the same time stay in the order of
    the dictionary. -/
def EscrowEngine.getBountyBoard [PyArith F] (s : EscrowEngine F) (state : Option BountyState) :
    List (BoardRow F) :=
  let bounties := (s.bounties.items.map Prod.snd).filter fun b =>
    match state with
    | some state => b.state = state
    | none => true
  (bounties.map Bounty.row).mergeSort fun a b => !PyArith.lt a.createdAt b.createdAt

/-- What the creation of a bounty offers. -/
structure Offer (F : Type*) where
  bountyId : String
  title : String
  reward : F
  createdAt : F

/-- What is offered in a row. -/
def BoardRow.offer (row : BoardRow F) : Offer F :=
  ⟨row.bountyId, row.title, row.reward, row.createdAt⟩

/-- The offer of a call, if it creates a bounty. -/
def EscrowCall.offer? (c : EscrowCall F) : Option (Offer F) :=
  match c.op with
  | .createBounty freshId _ title _ reward _ => some ⟨freshId, title, reward, c.now 0⟩
  | _ => none

/-- The offers of the calls, in order. -/
def offers (cs : List (EscrowCall F)) : List (Offer F) := cs.filterMap EscrowCall.offer?

theorem BountyState.value_injective : Function.Injective BountyState.value := by
  intro a b
  cases a <;> cases b <;> simp [value]

/-! ## What is offered -/

namespace EscrowEngine

/-- The bounties by their ids, of each what it offers. -/
def listing (s : EscrowEngine F) : List (String × Offer F) :=
  s.bounties.items.map fun p => (p.1, p.2.row.offer)

/-- A bounty that offers the same replaces another one without a trace in the listing. -/
theorem listing_setBounty {s : EscrowEngine F} {id : String} {b : Bounty F}
    (hget : s.bounty id = some b) {b' : Bounty F} (h : b'.row.offer = b.row.offer) :
    (s.setBounty id b').listing = s.listing :=
  PyDict.map_items_set hget (congrArg (Prod.mk id) h)

theorem listing_setBounty_of_none {s : EscrowEngine F} {id : String} (hget : s.bounty id = none)
    (b : Bounty F) : (s.setBounty id b).listing = s.listing ++ [(id, b.row.offer)] := by
  have hitems : (s.setBounty id b).bounties.items = s.bounties.items ++ [(id, b)] :=
    PyDict.items_set_of_get?_eq_none hget b
  rw [listing, hitems, List.map_append]
  rfl

theorem bounty_eq_none_iff (s : EscrowEngine F) (id : String) :
    s.bounty id = none ↔ id ∉ s.listing.map Prod.fst := by
  have hkeys : s.listing.map Prod.fst = s.bounties.keys := by
    simp only [listing, PyDict.keys, List.map_map]
    rfl
  rw [hkeys, PyDict.mem_keys_iff, Option.eq_none_iff_forall_ne_some, not_exists]
  rfl

variable [PyArith F]

theorem bounties_getOrCreateReputation (s : EscrowEngine F) (agent : Option String) (t : F) :
    (s.getOrCreateReputation agent t).1.bounties = s.bounties := by
  rw [getOrCreateReputation]
  split <;> rfl

theorem listing_getOrCreateReputation (s : EscrowEngine F) (agent : Option String) (t : F) :
    (s.getOrCreateReputation agent t).1.listing = s.listing := by
  rw [listing, bounties_getOrCreateReputation, listing]

theorem listing_updateReputation (s : EscrowEngine F) (agent : Option String) (x : F)
    (v d : Bool) (t t₁ t₂ : F) :
    (s.updateReputation agent x v d t t₁ t₂).listing = s.listing :=
  s.listing_getOrCreateReputation agent t

end EscrowEngine

variable [PyArith F]

/-- Only a creation changes what is offered. -/
theorem listing_step (py : Python) (s : EscrowEngine F) {c : EscrowCall F} (hc : c.offer? = none) :
    ((escrow F py).step s c).1.listing = s.listing := by
  obtain ⟨op, now⟩ := c
  cases op with
  | createBounty id client title description reward requirements => simp [EscrowCall.offer?] at hc
  | claimBounty id agent =>
    change (s.claimBounty now id agent).1.listing = _
    obtain ⟨b, hget, _, _, heq⟩ | ⟨heq | heq, _⟩ := s.claimBounty_spec now id agent
    · rw [heq]
      have hget' : (s.getOrCreateReputation (some agent) (now 0)).1.bounty id = some b := by
        rw [EscrowEngine.bounty_getOrCreateReputation, hget]
      exact (EscrowEngine.listing_setBounty hget' (by rfl)).trans
        (s.listing_getOrCreateReputation _ _)
    · rw [heq]
    · rw [heq]
      exact s.listing_getOrCreateReputation _ _
  | submitWork id agent output =>
    change (s.submitWork py now id agent output).1.listing = _
    obtain ⟨b, hget, _, heq⟩ | ⟨heq, _⟩ := s.submitWork_spec now py id agent output
    · rw [heq]
      exact EscrowEngine.listing_setBounty hget rfl
    · rw [heq]
  | approveBounty id client =>
    change (s.approveBounty now id client).1.listing = _
    obtain ⟨b, hget, _, _, heq⟩ | heq := s.approveBounty_spec now id client
    · rw [heq]
      exact (EscrowEngine.listing_setBounty
        ((s.bounty_updateReputation _ _ _ _ _ _ _ id).trans hget) (by rfl)).trans
        (s.listing_updateReputation _ _ _ _ _ _ _)
    · rw [heq]
  | disputeBounty id client reason =>
    change (s.disputeBounty now id client reason).1.listing = _
    obtain ⟨b, hget, _, ⟨_, heq⟩ | ⟨_, heq⟩⟩ | ⟨heq, _⟩ := s.disputeBounty_spec now id client reason
    · rw [heq, EscrowEngine.listing_updateReputation]
      have hget' : (s.setBounty id { b with state := .disputed }).bounty id =
          some { b with state := .disputed } := by
        rw [EscrowEngine.bounty_setBounty, if_pos rfl]
      exact (EscrowEngine.listing_setBounty hget' (by rfl)).trans
        (EscrowEngine.listing_setBounty hget (by rfl))
    · rw [heq]
      exact EscrowEngine.listing_setBounty hget rfl
    · rw [heq]
  | getAgentReputation agent =>
    change (s.getAgentReputation now agent).1.listing = _
    rw [s.fst_getAgentReputation]
    exact s.listing_getOrCreateReputation _ _

/-- A creation with a new id appends its offer. -/
theorem listing_step_create (py : Python) {s : EscrowEngine F} {c : EscrowCall F} {o : Offer F}
    (hc : c.offer? = some o) (hnew : s.bounty o.bountyId = none) :
    ((escrow F py).step s c).1.listing = s.listing ++ [(o.bountyId, o)] := by
  obtain ⟨op, now⟩ := c
  cases op with
  | createBounty id client title description reward requirements =>
    obtain rfl := Option.some.inj hc
    exact EscrowEngine.listing_setBounty_of_none hnew _
  | claimBounty id agent => simp [EscrowCall.offer?] at hc
  | submitWork id agent output => simp [EscrowCall.offer?] at hc
  | approveBounty id client => simp [EscrowCall.offer?] at hc
  | disputeBounty id client reason => simp [EscrowCall.offer?] at hc
  | getAgentReputation agent => simp [EscrowCall.offer?] at hc

/-- The listing of a run: its creations. -/
theorem listing_run (py : Python) (config : EscrowConfig F) (cs : List (EscrowCall F))
    (hfresh : ((offers cs).map Offer.bountyId).Nodup) :
    ((escrow F py).run (.new config) cs).listing = (offers cs).map fun o => (o.bountyId, o) := by
  induction cs using List.reverseRecOn with
  | nil => rfl
  | append_singleton cs c ih =>
    rw [Machine.run_concat]
    rw [offers, List.filterMap_append, ← offers] at hfresh ⊢
    cases hc : c.offer? with
    | none =>
      simp only [List.filterMap_cons, hc, List.filterMap_nil, List.append_nil] at hfresh ⊢
      rw [listing_step py _ hc, ih hfresh]
    | some o =>
      simp only [List.filterMap_cons, hc, List.filterMap_nil, List.map_append, List.map_cons,
        List.map_nil] at hfresh ⊢
      obtain ⟨hcs, _, hdisjoint⟩ := List.nodup_append.1 hfresh
      rw [listing_step_create py hc, ih hcs]
      rw [EscrowEngine.bounty_eq_none_iff, ih hcs, List.map_map]
      exact fun hmem => hdisjoint _ hmem _ (List.mem_singleton.2 rfl) rfl

/-! ## The board -/

variable [LinearOrder F] [PyArith.Ordered F]

/-- The board is sorted by the times of creation. -/
theorem getBountyBoard_eq (s : EscrowEngine F) (state : Option BountyState) :
    s.getBountyBoard state = StableSort.sortDesc BoardRow.createdAt
      (((s.bounties.items.map Prod.snd).filter fun b => state.all (b.state = ·)).map
        Bounty.row) := by
  have hle (a b : BoardRow F) :
      (!PyArith.lt a.createdAt b.createdAt) = decide (b.createdAt ≤ a.createdAt) := by
    rw [Bool.eq_iff_iff, Bool.not_eq_true', decide_eq_true_iff, ← not_lt,
      ← PyArith.Ordered.lt_iff, Bool.not_eq_true]
  rw [EscrowEngine.getBountyBoard, StableSort.sortDesc]
  simp only [hle]
  cases state <;> rfl

theorem getBountyBoard_some (s : EscrowEngine F) (st : BountyState) :
    s.getBountyBoard (some st) =
      (s.getBountyBoard none).filter fun row => row.state = st.value := by
  have hstate : ((fun row : BoardRow F => decide (row.state = st.value)) ∘ Bounty.row) =
      fun b : Bounty F => decide (b.state = st) := by
    funext b
    exact decide_eq_decide.2 BountyState.value_injective.eq_iff
  have hnone : ((s.bounties.items.map Prod.snd).filter fun b => (none : Option BountyState).all
      (b.state = ·)) = s.bounties.items.map Prod.snd :=
    List.filter_eq_self.2 fun _ _ => rfl
  rw [getBountyBoard_eq, getBountyBoard_eq, StableSort.filter_sortDesc, hnone,
    List.filter_map (f := Bounty.row), hstate]
  rfl

/-- In every state that calls lead to, when no two bounties draw the same id, the board of all
    bounties is the list of the creations: none is lost, the newest come first, and those of the
    same time in their order. The board of a state is the part of it in that state. -/
theorem escrow_board (py : Python) (config : EscrowConfig F) (cs : List (EscrowCall F))
    (hfresh : ((offers cs).map Offer.bountyId).Nodup) :
    let s := (escrow F py).run (.new config) cs
    let board := s.getBountyBoard none
    (board.map BoardRow.offer).Perm (offers cs) ∧
      board.Pairwise (fun a b => b.createdAt ≤ a.createdAt) ∧
      (∀ t, ((board.map BoardRow.offer).filter fun o => o.createdAt = t) =
        (offers cs).filter fun o => o.createdAt = t) ∧
      (∀ st, s.getBountyBoard (some st) = board.filter fun row => row.state = st.value) ∧
      ∀ row ∈ board, ∃ b, s.bounty row.bountyId = some b ∧ row = b.row := by
  intro s board
  have hlisting := listing_run py config cs hfresh
  have hoffers : s.bounties.items.map (fun p => p.2.row.offer) = offers cs := by
    have h := congrArg (List.map Prod.snd) hlisting
    simpa [EscrowEngine.listing, Function.comp_def] using h
  have hrows : board = StableSort.sortDesc BoardRow.createdAt
      (s.bounties.items.map fun p => p.2.row) := by
    change s.getBountyBoard none = _
    rw [getBountyBoard_eq]
    simp [Function.comp_def]
  have hsorted : board.map BoardRow.offer = StableSort.sortDesc Offer.createdAt (offers cs) := by
    rw [hrows, ← hoffers]
    refine (StableSort.map_sortDesc _ BoardRow.offer Offer.createdAt).trans ?_
    rw [List.map_map]
    rfl
  refine ⟨?_, ?_, fun t => ?_, getBountyBoard_some s, fun row hrow => ?_⟩
  · rw [hsorted]
    exact StableSort.sortDesc_perm _ _
  · rw [hrows]
    exact StableSort.pairwise_sortDesc _ _
  · rw [hsorted]
    exact StableSort.filter_key_sortDesc _ _ t
  · rw [hrows, (StableSort.sortDesc_perm _ _).mem_iff, List.mem_map] at hrow
    obtain ⟨⟨id, b⟩, hmem, rfl⟩ := hrow
    refine ⟨b, ?_, rfl⟩
    -- The bounty is filed under its own id.
    have hfiled : (id, b.row.offer) ∈ (offers cs).map fun o => (o.bountyId, o) := by
      rw [← hlisting]
      exact List.mem_map.2 ⟨(id, b), hmem, rfl⟩
    obtain ⟨o, _, ho⟩ := List.mem_map.1 hfiled
    obtain ⟨hid, hrow⟩ := Prod.mk.inj ho
    have hfiled : b.row.bountyId = id := by rw [← hid, hrow]; rfl
    rw [hfiled]
    exact (s.bounties.mem_items_iff id b).1 hmem

namespace Sample

/-- Three bounties are posted, two of them at the same time; one is claimed. -/
def postedRun : List (EscrowCall ℚ) := [
  createCall,
  call 0 (.createBounty "second" "client" "title" "description" 50 .none),
  call 5 (.createBounty "third" "client" "title" "description" 70 .none),
  claimCall]

theorem posted_listed :
    let board := ((escrow ℚ escrowLib).run engine postedRun).getBountyBoard none
    (board.map BoardRow.offer).Perm (offers postedRun) ∧
      board.Pairwise fun a b => b.createdAt ≤ a.createdAt :=
  have h := escrow_board escrowLib escrowConfig postedRun (by decide)
  ⟨h.1, h.2.1⟩

end Sample

end VibeShield
