import VibeShield.Lib.Counts
import VibeShield.Lib.StableSort
import VibeShield.Security.Audit.Query

/-!
# Statistics about an audit log

* The statistics of a log count its entries rightly by category, severity, event and agent, and
  the top events and agents are the ten most frequent ones (`statistics_exact`).
* The rate of critical events counts all those in the window, 10000 at most, if the clock is not
  set back or the log has no more critical events than that (`critical_rate_exact`).
-/

namespace VibeShield

open Counts Paging StableSort

/-! ## Counts -/

/-- Two values are one key: as texts, or as numbers. NaN is not. -/
inductive PyVal.OneKey : PyVal → PyVal → Prop
  | none : OneKey .none .none
  | str (s : String) : OneKey (.str s) (.str s)
  | object (repr : String) : OneKey (.object repr) (.object repr)
  | number {v w : PyVal} {x : PyFloat} (hx : x ≠ .nan) (hv : v.toNumber? = some x)
      (hw : w.toNumber? = some x) : OneKey v w

namespace PyVal

theorem sameKey_iff {v w : PyVal} : v.sameKey w = true ↔ OneKey v w := by
  constructor
  · intro h
    unfold sameKey at h
    split at h
    · exact .none
    · obtain rfl := of_decide_eq_true h
      exact .str _
    · obtain rfl := of_decide_eq_true h
      exact .object _
    · split at h
      · next x y hv hw =>
        obtain ⟨rfl, hx⟩ := of_decide_eq_true h
        exact .number hx hv hw
      · exact absurd h Bool.false_ne_true
  · rintro (_ | s | repr | ⟨hx, hv, hw⟩)
    · rfl
    · exact decide_eq_true rfl
    · exact decide_eq_true rfl
    · unfold sameKey
      split
      · rfl
      · exact absurd hv (by simp [toNumber?])
      · exact absurd hv (by simp [toNumber?])
      · rw [hv, hw]
        exact decide_eq_true ⟨rfl, hx⟩

theorem sameKey_symm (v w : PyVal) (h : v.sameKey w = true) : w.sameKey v = true := by
  rw [sameKey_iff] at h ⊢
  obtain _ | s | repr | ⟨hx, hv, hw⟩ := h
  · exact .none
  · exact .str s
  · exact .object repr
  · exact .number hx hw hv

theorem sameKey_trans (u v w : PyVal) (h : u.sameKey v = true) (h' : v.sameKey w = true) :
    u.sameKey w = true := by
  rw [sameKey_iff] at h h' ⊢
  obtain _ | s | repr | ⟨hx, hu, hv⟩ := h
  · exact h'
  · exact h'
  · exact h'
  · obtain _ | s | repr | ⟨hx', hv', hw⟩ := h'
    · exact absurd hv (by simp [toNumber?])
    · exact absurd hv (by simp [toNumber?])
    · exact absurd hv (by simp [toNumber?])
    · obtain rfl := Option.some.inj (hv.symm.trans hv')
      exact .number hx hu hw

end PyVal

theorem countKeys_eq (keys : List PyVal) : countKeys keys = ofKeys PyVal.sameKey keys := by
  have hadd (key : PyVal) (counts : List (PyVal × ℕ)) :
      countKey key counts = add PyVal.sameKey key counts := by
    induction counts with
    | nil => rfl
    | cons p counts ih => rw [countKey, add, ih]
  rw [countKeys, ofKeys, funext fun counts => funext fun key => hadd key counts]

theorem isCount_countKeys (keys : List PyVal) :
    IsCount PyVal.sameKey keys (countKeys keys) := by
  rw [countKeys_eq]
  exact isCount_ofKeys PyVal.sameKey_symm PyVal.sameKey_trans keys

/-! ## The statistics -/

/-- What the statistics tell about a field: the counts of its values, in a dictionary. -/
def CountsOf (values : List PyVal) (v : PyVal) : Prop :=
  ∃ counts, v = countsDict counts ∧ IsCount PyVal.sameKey values counts

/-- What they tell about the most frequent values of a field. -/
def TopOf (values : List PyVal) (v : PyVal) : Prop :=
  ∃ counts top, v = countsDict top ∧ IsCount PyVal.sameKey values counts ∧
    Greatest Prod.snd 10 counts top

/-- The statistics of the log. -/
structure StatisticsOf (l : AuditLog) (items : List (PyVal × PyVal)) : Prop where
  total : PyVal.dictGet? items "total" = some (.int l.length)
  categories : ∃ v, PyVal.dictGet? items "categories" = some v ∧
    CountsOf (l.entries.map AuditEntry.category) v
  severities : ∃ v, PyVal.dictGet? items "severities" = some v ∧
    CountsOf (l.entries.map AuditEntry.severity) v
  topEvents : ∃ v, PyVal.dictGet? items "top_events" = some v ∧
    TopOf (l.entries.map AuditEntry.event) v
  /-- Only of the entries that have an agent. -/
  topAgents : ∃ v, PyVal.dictGet? items "top_agents" = some v ∧
    TopOf ((l.entries.map AuditEntry.agentId).filter PyVal.truthy) v

theorem countsOf_countKeys (values : List PyVal) :
    CountsOf values (countsDict (countKeys values)) :=
  ⟨_, rfl, isCount_countKeys values⟩

theorem topOf_topTen (values : List PyVal) :
    TopOf values (countsDict (topTen (countKeys values))) :=
  ⟨_, _, rfl, isCount_countKeys values, greatest_take Prod.snd _ 10⟩

/-- The statistics of a log that is not empty count its entries by category and severity, and tell
    the ten most frequent events and agents. Those of an empty log tell that it is empty. -/
theorem statistics_exact (lib : ExportLib) (l : AuditLog) (stats : PyVal)
    (h : l.statistics lib = .ok stats) :
    if l.entries = [] then stats = .dict [(.str "total", .int 0)]
    else ∃ items, stats = .dict items ∧ StatisticsOf l items := by
  rw [AuditLog.statistics] at h
  cases hhead : l.entries.head? with
  | none =>
    rw [hhead] at h
    rw [if_pos (List.head?_eq_none_iff.1 hhead)]
    exact (Except.ok.inj h).symm
  | some first =>
    have hne : l.entries ≠ [] := by
      rintro hnil
      simp [hnil] at hhead
    rw [hhead, List.getLast?_eq_some_getLast hne] at h
    rw [if_neg hne]
    dsimp only at h
    split at h
    · exact absurd h (by simp)
    · cases hhours : lib.hoursBetween first.timestamp (l.entries.getLast hne).timestamp with
      | error err =>
        rw [hhours] at h
        exact absurd h (by simp [bind, Except.bind])
      | ok hours =>
        rw [hhours] at h
        refine ⟨_, (Except.ok.inj h).symm, ?_⟩
        constructor
        · simp [PyVal.dictGet?_cons]
        · exact ⟨_, by simp [PyVal.dictGet?_cons], countsOf_countKeys _⟩
        · exact ⟨_, by simp [PyVal.dictGet?_cons], countsOf_countKeys _⟩
        · exact ⟨_, by simp [PyVal.dictGet?_cons], topOf_topTen _⟩
        · exact ⟨_, by simp [PyVal.dictGet?_cons], topOf_topTen _⟩

/-! ## The rate of critical events -/

/-- `v >= x`. -/
def PyVal.isAtLeast (v : PyVal) (x : PyFloat) : Except PyErr Bool :=
  match v.toNumber? with
  | some y => .ok (x.le y)
  | Option.none => .error ⟨.typeError, "'>=' not supported between these types"⟩

/-- `e["timestamp"]` of an event. -/
def eventTimestamp : PyVal → PyVal
  | .dict items => (PyVal.dictGet? items "timestamp").getD .none
  | _ => .none

/-- The events that are not from before the cutoff. -/
def recentEvents (windowCutoff : PyFloat) : List PyVal → Except PyErr (List PyVal)
  | [] => .ok []
  | e :: es => do
    let isRecent ← (eventTimestamp e).isAtLeast windowCutoff
    let recent ← recentEvents windowCutoff es
    return if isRecent then e :: recent else recent

/-- The rate of critical events since `windowCutoff`, the reading of the clock less the length of
    the window. `perHour n` is the rate of `n` events in this window. -/
def AuditLog.criticalRate (py : Python) (l : AuditLog) (windowCutoff : PyFloat)
    (perHour : ℕ → Except PyErr PyFloat) : Except PyErr PyFloat := do
  let criticals ← l.getCriticalEvents py 10000
  let recentCriticals ← recentEvents windowCutoff criticals
  perHour recentCriticals.length

/-- The entry is critical, and not from before a time. -/
def AuditEntry.isRecentCritical (cutoff : WithBot (WithTop ℚ)) (e : AuditEntry) : Bool :=
  e.severity.toStr? = some "critical" ∧ e.time?.any fun t => cutoff ≤ t

theorem recentEvents_eq {windowCutoff : PyFloat} {cutoff : WithBot (WithTop ℚ)}
    (hcutoff : windowCutoff.place? = some cutoff) {es : List AuditEntry}
    (htimes : ∀ e ∈ es, e.time?.isSome = true) :
    recentEvents windowCutoff (es.map AuditEntry.toDict) =
      .ok ((es.filter fun e => e.time?.any fun t => cutoff ≤ t).map AuditEntry.toDict) := by
  induction es with
  | nil => rfl
  | cons e es ih =>
    rw [List.forall_mem_cons] at htimes
    obtain ⟨t, ht⟩ := Option.isSome_iff_exists.1 htimes.1
    obtain ⟨x, hx, hplace⟩ := Option.bind_eq_some_iff.1 ht
    have htimestamp : eventTimestamp e.toDict = e.timestamp := by
      simp [eventTimestamp, AuditEntry.toDict, PyVal.dictGet?_cons]
    have hrecent : (eventTimestamp e.toDict).isAtLeast windowCutoff =
        .ok (e.time?.any fun t => cutoff ≤ t) := by
      rw [htimestamp, PyVal.isAtLeast, hx]
      simp [PyFloat.le, hcutoff, hplace, ht]
    rw [List.map_cons, recentEvents, hrecent, ih htimes.2, List.filter_cons]
    cases e.time?.any fun t => cutoff ≤ t <;> rfl

/-- If what has the property comes first, the first elements with it are those of the first
    elements. -/
theorem filter_take_of_pairwise {α : Type*} {q : α → Bool} {as : List α}
    (h : as.Pairwise fun a b => q b = true → q a = true) (n : ℕ) :
    (as.take n).filter q = (as.filter q).take n := by
  induction as generalizing n with
  | nil => simp
  | cons a as ih =>
    obtain ⟨ha, has⟩ := List.pairwise_cons.1 h
    cases n with
    | zero => simp
    | succ n =>
      cases hq : q a with
      | true => simp [hq, ih has]
      | false =>
        have hnone : ∀ b ∈ as, q b = false := fun b hb => by
          by_contra hqb
          rw [Bool.not_eq_false] at hqb
          exact absurd (ha b hb hqb) (by simp [hq])
        have hfilter : as.filter q = [] := List.filter_eq_nil_iff.2 fun b hb => by simp [hnone b hb]
        have htake : (as.take n).filter q = [] :=
          List.filter_eq_nil_iff.2 fun b hb => by simp [hnone b (List.mem_of_mem_take hb)]
        simp [hq, hfilter, htake]

/-- The rate is that of all critical events in the window, 10000 at most, if the clock is not set
    back or the log has no more critical events than that. -/
theorem critical_rate_exact (py : Python) (l : AuditLog) (hl : l.Reachable py)
    (windowCutoff : PyFloat) (cutoff : WithBot (WithTop ℚ))
    (hcutoff : windowCutoff.place? = some cutoff) (perHour : ℕ → Except PyErr PyFloat)
    (htimes : ∀ e ∈ l.entries, e.time?.isSome = true)
    (hclock : Clocked l.entries ∨
      l.entries.countP (fun e => e.severity.toStr? = some "critical") ≤ 10000) :
    l.criticalRate py windowCutoff perHour =
      perHour (min 10000 (l.entries.countP (AuditEntry.isRecentCritical cutoff))) := by
  have hcriticals := AuditLog.getCriticalEvents_eq hl 10000
  have htimes' : ∀ e ∈ page (fun e : AuditEntry => e.severity.toStr? = some "critical") 0 10000
      l.entries.reverse, e.time?.isSome = true := fun e he =>
    htimes e (List.mem_reverse.1 (List.mem_of_mem_filter (List.mem_of_mem_take he)))
  rw [Nat.cast_ofNat] at hcriticals
  rw [AuditLog.criticalRate, hcriticals]
  refine (congrArg (· >>= fun recent => perHour recent.length)
    (recentEvents_eq hcutoff htimes')).trans (congrArg perHour ?_)
  rw [List.length_map, page, List.drop_zero]
  have hcount : l.entries.countP (AuditEntry.isRecentCritical cutoff) =
      ((l.entries.reverse.filter fun e => e.severity.toStr? = some "critical").filter fun e =>
        e.time?.any fun t => cutoff ≤ t).length := by
    rw [List.filter_filter, ← List.countP_eq_length_filter, List.countP_reverse]
    refine List.countP_congr fun e _ => ?_
    simp [AuditEntry.isRecentCritical, and_comm]
  rw [hcount]
  rcases hclock with hclock | hfew
  · rw [filter_take_of_pairwise, List.length_take]
    -- The entries are in reverse, so the recent ones come first.
    refine List.Pairwise.filter _ ((List.pairwise_reverse.2 hclock.ordered).imp_of_mem ?_)
    intro e e' he _ hle hrecent
    obtain ⟨t, ht⟩ := Option.isSome_iff_exists.1 (htimes e (List.mem_reverse.1 he))
    obtain ⟨t', ht', hcutoff⟩ := Option.any_eq_true _ _ |>.1 hrecent
    rw [ht, Option.any_some, decide_eq_true_eq]
    exact (of_decide_eq_true hcutoff).trans (hle t' ht' t ht)
  · have hlength : (l.entries.reverse.filter fun e =>
        e.severity.toStr? = some "critical").length ≤ 10000 := by
      rwa [← List.countP_eq_length_filter, List.countP_reverse]
    rw [List.take_of_length_le hlength, min_eq_right ((List.length_filter_le _ _).trans hlength)]

namespace Sample

/-- The statistics of two events. -/
theorem log_statistics : ∃ items, StatisticsOf log items := by
  have hstats : ∃ stats, log.statistics (exportLib []) = .ok stats := ⟨_, rfl⟩
  obtain ⟨stats, h⟩ := hstats
  obtain ⟨items, -, hitems⟩ := statistics_exact (exportLib []) log stats h
  exact ⟨items, hitems⟩

def breachArgs : RecordArgs where
  category := .inl .securityViolation
  severity := .inl .critical
  event := .str "breach"
  now := .fin 10

def breachHash : String := "7e4867edcd0a39a17c1f03120a0b777574bd8fda31d3ec61d6f2e6e2a0269109"

def breachText : String :=
  "\x7b\"agent_id\":null,\"category\":\"security_violation\",\"details\":\x7b\x7d," ++
  "\"event\":\"breach\",\"prev_hash\":\"GENESISGENESISGENESISGENESIS\"," ++
  "\"severity\":\"critical\",\"task_id\":null,\"timestamp\":10.0\x7d"

/-- The library, with the digest of this text. -/
def breachLib : Python := .plain [(breachText, breachHash)]
  "e3b0c44298fc1c149afbf4c8996fb92427ae41e4649b934ca495991b7852b855"

def breachEntry : AuditEntry := { emptyLog.newEntry breachArgs with entryHash := breachHash }

def breachLog : AuditLog := { emptyLog.append 1 breachEntry with dirty := true }

theorem breachLog_reachable : breachLog.Reachable breachLib := by
  have htext : jsonText (emptyLog.newEntry breachArgs).content = some breachText := by
    decide +kernel
  have hhash : (emptyLog.newEntry breachArgs).computeHash breachLib = .ok breachHash :=
    AuditEntry.computeHash_eq_ok.2 ⟨_, jsonDumps_eq_ok.2 htext, by decide +kernel⟩
  have hbreach : (Call.record breachArgs [] none).exec breachLib emptyLog = breachLog :=
    Call.exec_record_nil hhash
  refine ⟨"/var/lib/vibeshield/audit", false, [.record breachArgs [] none], ?_⟩
  rw [execAll, execAll, ← hbreach]
  rfl

/-- One critical event an hour since 7 s. -/
theorem breach_rate :
    breachLog.criticalRate breachLib (.fin 7) (fun n => .ok (.fin n)) = .ok (.fin 1) := by
  refine (critical_rate_exact breachLib breachLog breachLog_reachable (.fin 7)
    ((7 : ℚ) : WithTop ℚ) rfl _ ?_ (.inr ?_)).trans ?_
  · exact List.forall_mem_singleton.2 rfl
  · decide +kernel
  · have hcount : breachLog.entries.countP
        (AuditEntry.isRecentCritical (((7 : ℚ) : WithTop ℚ) : WithBot (WithTop ℚ))) = 1 := by
      decide +kernel
    rw [hcount]
    rfl

end Sample

end VibeShield
