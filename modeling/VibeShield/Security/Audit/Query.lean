import Mathlib.Algebra.Order.Ring.Unbundled.Rat
import Mathlib.Order.WithBot
import VibeShield.Lib.Paging
import VibeShield.Security.Audit.Atomicity

/-!
# Querying an audit log

`AuditLog.query` makes a page of the entries that pass the filters (`Filters`), in one pass over
the log or the reversed log. It takes the entries to be ordered by time: in the reversed log it
stops at the first one before `since`, in the log at the first one after `until`
(`Filters.examine`).

The time of an entry is a reading of the clock, which may be set back, so this is not always
the page of the entries that satisfy the filters (`Filters.accepts`): `query_eq_page_iff` says
when it is. The critical events are always found (`getCriticalEvents_eq`), and the recent ones
if the clock is not set back (`getRecent_eq`).
-/

namespace VibeShield

open Paging

/-! ## Comparing with a float -/

namespace PyFloat

/-- The place of a float among the numbers and the infinities; NaN has none. -/
def place? : PyFloat → Option (WithBot (WithTop ℚ))
  | .fin q => some ((q : WithTop ℚ) : WithBot (WithTop ℚ))
  | .negZero => some (((0 : ℚ) : WithTop ℚ) : WithBot (WithTop ℚ))
  | .inf => some ((⊤ : WithTop ℚ) : WithBot (WithTop ℚ))
  | .negInf => some ⊥
  | .nan => none

/-- `x < y`. -/
def lt (x y : PyFloat) : Bool := x.place?.any fun a => y.place?.any fun b => a < b

/-- `x <= y`. -/
def le (x y : PyFloat) : Bool := x.place?.any fun a => y.place?.any fun b => a ≤ b

end PyFloat

namespace PyVal

/-- `v < x`. -/
def isBelow (v : PyVal) (x : PyFloat) : Except PyErr Bool :=
  match v.toNumber? with
  | some y => .ok (y.lt x)
  | Option.none => .error ⟨.typeError, "'<' not supported between these types"⟩

/-- `v > x`. -/
def isAbove (v : PyVal) (x : PyFloat) : Except PyErr Bool :=
  match v.toNumber? with
  | some y => .ok (x.lt y)
  | Option.none => .error ⟨.typeError, "'>' not supported between these types"⟩

end PyVal

/-! ## Filters -/

/-- The filters of a query. -/
structure Filters where
  category : Option String := none
  severity : Option String := none
  agentId : Option String := none
  eventContains : Option String := none
  since : Option PyFloat := none
  /-- `until`. -/
  upTo : Option PyFloat := none

namespace Filters

/-- `filter and field != filter`. -/
def differs (field : PyVal) (filter : Option String) : Bool :=
  filter.any fun s => s ≠ "" ∧ field.toStr? ≠ some s

/-- `event_contains and event_contains.lower() not in entry.event.lower()`. -/
def lacksEvent (py : Python) (f : Filters) (entry : AuditEntry) : Except PyErr Bool :=
  match f.eventContains.filter (· ≠ "") with
  | none => .ok false
  | some part =>
    match entry.event.toStr? with
    | some event => .ok !contains (py.lower event) (py.lower part)
    | none => .error ⟨.attributeError, "object has no attribute 'lower'"⟩

/-- `since and entry.timestamp < since`. -/
def isBefore (f : Filters) (entry : AuditEntry) : Except PyErr Bool :=
  match f.since.filter fun t => (PyVal.float t).truthy with
  | none => .ok false
  | some t => entry.timestamp.isBelow t

/-- `until and entry.timestamp > until`. -/
def isAfter (f : Filters) (entry : AuditEntry) : Except PyErr Bool :=
  match f.upTo.filter fun t => (PyVal.float t).truthy with
  | none => .ok false
  | some t => entry.timestamp.isAbove t

/-- What the loop of `query` does with an entry: `continue`, `break`, or count it. -/
def examine (py : Python) (f : Filters) (sortOrder : String) (entry : AuditEntry) :
    Except PyErr Verdict :=
  if differs entry.category f.category then .ok .skip
  else if differs entry.severity f.severity then .ok .skip
  else if differs entry.agentId f.agentId then .ok .skip
  else
    match f.lacksEvent py entry with
    | .error err => .error err
    | .ok true => .ok .skip
    | .ok false =>
      match f.isBefore entry with
      | .error err => .error err
      | .ok true => .ok (if sortOrder = "asc" then .skip else .stop)
      | .ok false =>
        match f.isAfter entry with
        | .error err => .error err
        | .ok true => .ok (if sortOrder = "desc" then .skip else .stop)
        | .ok false => .ok .count

/-- The entry satisfies all filters that are given. -/
def accepts (py : Python) (f : Filters) (e : AuditEntry) : Bool :=
  f.category.all (fun c => e.category.toStr? = some c) &&
    f.severity.all (fun s => e.severity.toStr? = some s) &&
    f.agentId.all (fun a => e.agentId.toStr? = some a) &&
    f.eventContains.all (fun part =>
      e.event.toStr?.any fun event => contains (py.lower event) (py.lower part)) &&
    f.since.all (fun t => e.timestamp.toNumber?.any fun x => t.le x) &&
    f.upTo.all (fun t => e.timestamp.toNumber?.any fun x => x.le t)

end Filters

/-- The place of an entry's time, if it is a number. -/
def AuditEntry.time? (e : AuditEntry) : Option (WithBot (WithTop ℚ)) :=
  e.timestamp.toNumber?.bind PyFloat.place?

/-- The entries have times, in the order of the log. -/
structure Clocked (es : List AuditEntry) : Prop where
  isSome : ∀ e ∈ es, e.time?.isSome = true
  ordered : es.Pairwise fun e e' => ∀ t ∈ e.time?, ∀ t' ∈ e'.time?, t ≤ t'

/-! ## The query -/

namespace AuditLog

/-- The loop of `query`. -/
def queryLoop (py : Python) (f : Filters) (limit offset : ℤ) (sortOrder : String) :
    List PyVal → ℕ → List AuditEntry → Except PyErr (List PyVal)
  | results, _, [] => .ok results
  | results, skipCount, entry :: entries =>
    if limit ≤ results.length then .ok results
    else
      match f.examine py sortOrder entry with
      | .error err => .error err
      | .ok .skip => queryLoop py f limit offset sortOrder results skipCount entries
      | .ok .stop => .ok results
      | .ok .count =>
        if skipCount < offset then
          queryLoop py f limit offset sortOrder results (skipCount + 1) entries
        else queryLoop py f limit offset sortOrder (results ++ [entry.toDict]) skipCount entries

/-- Querying the log with filters and pagination. -/
def query (py : Python) (l : AuditLog) (f : Filters) (limit offset : ℤ) (sortOrder : String) :
    Except PyErr (List PyVal) :=
  queryLoop py f limit offset sortOrder [] 0
    (if sortOrder = "asc" then l.entries else l.entries.reverse)

/-- All events that are critical. -/
def getCriticalEvents (py : Python) (l : AuditLog) (limit : ℤ) : Except PyErr (List PyVal) :=
  l.query py { severity := some "critical" } limit 0 "desc"

/-- The events since a time, which is the reading of the clock less the given seconds. -/
def getRecent (py : Python) (l : AuditLog) (since : PyFloat) (limit : ℤ) :
    Except PyErr (List PyVal) :=
  l.query py { since := some since } limit 0 "desc"

end AuditLog

/-! ## What is counted -/

theorem PyFloat.not_lt_of_le {x y : PyFloat} (h : x.le y = true) : y.lt x = false := by
  rw [le, Option.any_eq_true] at h
  obtain ⟨a, ha, h⟩ := h
  rw [Option.any_eq_true] at h
  obtain ⟨b, hb, h⟩ := h
  have hle : a ≤ b := of_decide_eq_true h
  rw [lt, hb, ha]
  exact decide_eq_false (not_lt.2 hle)

namespace Filters

variable {py : Python} {f : Filters} {sortOrder : String} {e : AuditEntry}

theorem differs_of_all {field : PyVal} {filter : Option String}
    (h : filter.all (fun s => field.toStr? = some s) = true) : differs field filter = false := by
  cases filter with
  | none => rfl
  | some s =>
    have hs : field.toStr? = some s := by simpa using h
    simp [differs, hs]

/-- An entry that satisfies all filters is counted. -/
theorem examine_of_accepts (h : f.accepts py e = true) : f.examine py sortOrder e = .ok .count := by
  simp only [accepts, Bool.and_eq_true] at h
  obtain ⟨⟨⟨⟨⟨hcategory, hseverity⟩, hagent⟩, hevent⟩, hsince⟩, hupTo⟩ := h
  have hlacks : f.lacksEvent py e = .ok false := by
    rw [lacksEvent]
    split
    · rfl
    · next part hpart =>
      obtain ⟨hsome, _⟩ := Option.filter_eq_some_iff.1 hpart
      rw [hsome, Option.all_some, Option.any_eq_true] at hevent
      obtain ⟨event, htext, hcontains⟩ := hevent
      rw [htext]
      dsimp only
      rw [hcontains]
      rfl
  have hbefore : f.isBefore e = .ok false := by
    rw [isBefore]
    split
    · rfl
    · next t ht =>
      rw [(Option.filter_eq_some_iff.1 ht).1, Option.all_some, Option.any_eq_true] at hsince
      obtain ⟨x, hx, hle⟩ := hsince
      rw [PyVal.isBelow, hx]
      exact congrArg Except.ok (PyFloat.not_lt_of_le hle)
  have hafter : f.isAfter e = .ok false := by
    rw [isAfter]
    split
    · rfl
    · next t ht =>
      rw [(Option.filter_eq_some_iff.1 ht).1, Option.all_some, Option.any_eq_true] at hupTo
      obtain ⟨x, hx, hle⟩ := hupTo
      rw [PyVal.isAbove, hx]
      exact congrArg Except.ok (PyFloat.not_lt_of_le hle)
  rw [examine, differs_of_all hcategory, differs_of_all hseverity, differs_of_all hagent, hlacks,
    hbefore, hafter]
  rfl

end Filters

/-! ## The query as a scan -/

theorem AuditEntry.toDict_injective : Function.Injective AuditEntry.toDict := by
  intro e f h
  cases e
  cases f
  simpa [toDict] using h

namespace AuditLog

variable {py : Python} {f : Filters} {sortOrder : String}

/-- The loop adds what a scan finds. -/
theorem queryLoop_eq_scan (limit offset : ℕ) (results : List PyVal) (skipCount : ℕ)
    (entries : List AuditEntry) :
    queryLoop py f limit offset sortOrder results skipCount entries =
      (scan (f.examine py sortOrder) (offset - skipCount) (limit - results.length) entries).map
        fun found => results ++ found.map AuditEntry.toDict := by
  induction entries generalizing results skipCount with
  | nil =>
    rw [queryLoop, scan_nil]
    exact congrArg Except.ok (List.append_nil results).symm
  | cons entry entries ih =>
    rw [queryLoop]
    split
    · -- The page is full.
      next hfull =>
      have hzero : limit - results.length = 0 := by omega
      rw [hzero, scan_limit_zero]
      exact congrArg Except.ok (List.append_nil results).symm
    · next hmore =>
      obtain ⟨k, hk⟩ : ∃ k, limit - results.length = k + 1 :=
        Nat.exists_eq_succ_of_ne_zero (by omega)
      rcases hentry : f.examine py sortOrder entry with err | (_ | _ | _)
      · rw [hk, scan_cons_of_error hentry]
        rfl
      · rw [hk, scan_cons_of_skip hentry, ← hk]
        exact ih results skipCount
      · rw [hk, scan_cons_of_stop hentry]
        exact congrArg Except.ok (List.append_nil results).symm
      · dsimp only
        split
        · next hskip =>
          obtain ⟨o, ho⟩ : ∃ o, offset - skipCount = o + 1 :=
            Nat.exists_eq_succ_of_ne_zero (by omega)
          have ho' : offset - (skipCount + 1) = o := by omega
          rw [hk, ho, scan_succ_cons_of_count hentry, ← hk, ← ho', ih]
        · next htake =>
          have ho : offset - skipCount = 0 := by omega
          have hk' : limit - (results ++ [entry.toDict]).length = k := by
            rw [List.length_append, List.length_singleton]
            omega
          rw [hk, ho, scan_zero_cons_of_count hentry, ih, hk', ho]
          cases scan (f.examine py sortOrder) 0 k entries with
          | error err => rfl
          | ok found => exact congrArg Except.ok (List.append_assoc results _ _)

theorem query_eq_scan (l : AuditLog) (limit offset : ℕ) :
    l.query py f limit offset sortOrder =
      (scan (f.examine py sortOrder) offset limit
        (if sortOrder = "asc" then l.entries else l.entries.reverse)).map
        (List.map AuditEntry.toDict) := by
  rw [query, queryLoop_eq_scan]
  rfl

theorem nodup_of_numbered {i : ℕ} {es : List AuditEntry} (h : Numbered i es) : es.Nodup := by
  induction es generalizing i with
  | nil => exact List.nodup_nil
  | cons e es ih =>
    refine List.nodup_cons.2 ⟨fun he => ?_, ih h.2⟩
    -- A second occurrence would have a greater number.
    obtain ⟨k, hk, rfl⟩ := List.getElem_of_mem he
    have hnumber := Option.some.inj (h.1.symm.trans (h.2.getElem hk))
    omega

/-- The dictionaries of a scan and of a page are equal only if both have the same entries. -/
theorem query_eq_ok_iff (l : AuditLog) (limit offset : ℕ) (es : List AuditEntry) :
    l.query py f limit offset sortOrder = .ok (es.map AuditEntry.toDict) ↔
      scan (f.examine py sortOrder) offset limit
        (if sortOrder = "asc" then l.entries else l.entries.reverse) = .ok es := by
  rw [query_eq_scan]
  generalize scan (f.examine py sortOrder) offset limit _ = found
  cases found with
  | error err => exact iff_of_false nofun nofun
  | ok found =>
    refine ⟨fun h => ?_, fun h => congrArg _ h⟩
    exact congrArg Except.ok
      (List.map_injective_iff.2 AuditEntry.toDict_injective (Except.ok.inj h))

/-- A query finds its page if and only if nothing disturbs it. -/
theorem query_eq_ok_page_iff {l : AuditLog} (hl : l.Reachable py) (limit offset : ℕ) :
    let es := if sortOrder = "asc" then l.entries else l.entries.reverse
    l.query py f limit offset sortOrder =
        .ok ((page (f.accepts py) offset limit es).map AuditEntry.toDict) ↔
      Undisturbed (f.examine py sortOrder) (f.accepts py) offset limit es := by
  intro es
  have hnodup : es.Nodup := by
    have hentries : l.entries.Nodup := nodup_of_numbered hl.sound.numbered
    by_cases h : sortOrder = "asc"
    · rwa [show es = l.entries from if_pos h]
    · rw [show es = l.entries.reverse from if_neg h]
      exact List.nodup_reverse.2 hentries
  rw [query_eq_ok_iff]
  exact scan_eq_page_iff (fun e he => Filters.examine_of_accepts he) hnodup

/-- The critical events are found whatever the clock does. -/
theorem getCriticalEvents_eq {l : AuditLog} (hl : l.Reachable py) (limit : ℕ) :
    l.getCriticalEvents py limit =
      .ok ((page (fun e => e.severity.toStr? = some "critical") 0 limit l.entries.reverse).map
        AuditEntry.toDict) := by
  have haccepts (e : AuditEntry) : decide (e.severity.toStr? = some "critical") =
      Filters.accepts py { severity := some "critical" } e := by
    simp [Filters.accepts]
  have hexamine (e : AuditEntry) :
      Filters.examine py { severity := some "critical" } "desc" e =
        .ok (if e.severity.toStr? = some "critical" then .count else .skip) := by
    by_cases he : e.severity.toStr? = some "critical" <;>
      simp [Filters.examine, Filters.differs, Filters.lacksEvent, Filters.isBefore,
        Filters.isAfter, he]
  rw [funext haccepts]
  refine (query_eq_ok_page_iff (f := { severity := some "critical" }) hl limit 0).2 ?_
  refine undisturbed_of_pairwise (fun e he => Filters.examine_of_accepts he)
    (fun e _ err herr => ?_) (fun e _ hcount => ?_)
    (List.pairwise_of_forall fun e e' hstop => ?_)
  · cases (hexamine e).symm.trans herr
  · rw [← haccepts, decide_eq_true_iff]
    by_contra he
    rw [hexamine, if_neg he] at hcount
    cases hcount
  · rw [hexamine] at hstop
    split at hstop <;> cases hstop

/-- With a clock that is not set back, the recent events are found. -/
theorem getRecent_eq {l : AuditLog} (hl : l.Reachable py) (hclock : Clocked l.entries)
    {since : PyFloat} (htruthy : (PyVal.float since).truthy = true)
    {p : WithBot (WithTop ℚ)} (hsince : since.place? = some p) (limit : ℕ) :
    l.getRecent py since limit =
      .ok ((page (fun e => e.time?.any fun t => p ≤ t) 0 limit l.entries.reverse).map
        AuditEntry.toDict) := by
  have haccepts (e : AuditEntry) : (e.time?.any fun t => p ≤ t) =
      Filters.accepts py { since := some since } e := by
    cases hnumber : e.timestamp.toNumber? with
    | none => simp [Filters.accepts, AuditEntry.time?, hnumber]
    | some x => simp [Filters.accepts, AuditEntry.time?, hnumber, PyFloat.le, hsince]
  have htime {e : AuditEntry} (he : e ∈ l.entries) : ∃ t, e.time? = some t ∧
      Filters.examine py { since := some since } "desc" e =
        .ok (if t < p then .stop else .count) := by
    obtain ⟨t, ht⟩ := Option.isSome_iff_exists.1 (hclock.isSome e he)
    obtain ⟨x, hx, hplace⟩ := Option.bind_eq_some_iff.1 ht
    refine ⟨t, ht, ?_⟩
    by_cases hlt : t < p <;>
      simp [Filters.examine, Filters.differs, Filters.lacksEvent, Filters.isBefore,
        Filters.isAfter, Option.filter_some, htruthy, PyVal.isBelow, hx, PyFloat.lt, hplace, hsince,
        hlt]
  rw [funext haccepts]
  refine (query_eq_ok_page_iff (f := { since := some since }) hl limit 0).2 ?_
  refine undisturbed_of_pairwise (fun e he => Filters.examine_of_accepts he)
    (fun e he err herr => ?_) (fun e he hcount => ?_) ?_
  · obtain ⟨t, _, hexamine⟩ := htime (List.mem_reverse.1 he)
    cases hexamine.symm.trans herr
  · obtain ⟨t, ht, hexamine⟩ := htime (List.mem_reverse.1 he)
    rw [← haccepts, ht, Option.any_some, decide_eq_true_iff]
    by_contra hlt
    rw [hexamine, if_pos (not_le.1 hlt)] at hcount
    cases hcount
  · refine (List.pairwise_reverse.2 hclock.ordered).imp_of_mem fun {e e'} he he' hle hstop => ?_
    obtain ⟨t, ht, hexamine⟩ := htime (List.mem_reverse.1 he)
    obtain ⟨t', ht', _⟩ := htime (List.mem_reverse.1 he')
    have hlt : t < p := by
      by_contra hlt
      rw [hexamine, if_neg hlt] at hstop
      cases hstop
    rw [← haccepts, ht', Option.any_some, decide_eq_false_iff_not, not_le]
    exact (hle t' ht' t ht).trans_lt hlt

end AuditLog

/-- A query returns the entries at the positions from `offset` on, `limit` at most, among those
    that satisfy all given filters in the order asked for, if and only if nothing disturbs the
    scan. Consecutive pages that are not disturbed are one page. -/
theorem query_eq_page_iff (py : Python) (l : AuditLog) (hl : l.Reachable py) (f : Filters)
    (ascending : Bool) (limit offset : ℕ) :
    let sortOrder := if ascending then "asc" else "desc"
    let es := if ascending then l.entries else l.entries.reverse
    (l.query py f limit offset sortOrder =
        .ok ((page (f.accepts py) offset limit es).map AuditEntry.toDict) ↔
      Undisturbed (f.examine py sortOrder) (f.accepts py) offset limit es) ∧
    ∀ limit' : ℕ, Undisturbed (f.examine py sortOrder) (f.accepts py) offset limit es →
      Undisturbed (f.examine py sortOrder) (f.accepts py) (offset + limit) limit' es →
      ∃ first second, l.query py f limit offset sortOrder = .ok first ∧
        l.query py f limit' (offset + limit : ℕ) sortOrder = .ok second ∧
        first ++ second =
          (page (f.accepts py) offset (limit + limit') es).map AuditEntry.toDict := by
  intro sortOrder es
  have hes : es = if sortOrder = "asc" then l.entries else l.entries.reverse := by
    cases ascending <;> rfl
  rw [hes]
  refine ⟨AuditLog.query_eq_ok_page_iff hl limit offset, fun limit' h h' => ?_⟩
  refine ⟨_, _, (AuditLog.query_eq_ok_page_iff hl limit offset).2 h,
    (AuditLog.query_eq_ok_page_iff hl limit' (offset + limit)).2 h', ?_⟩
  rw [← List.map_append, page_append_page]

/-! ## A clock that is set back -/

namespace Sample

def lateHash : String := "2c7a51486f7dc91245ce1374ba45073ac2b2d4dfbdf574bae8c73b629f1e0277"

def earlyHash : String := "3db1e7b610ecf33ba8d84514633f65157c23d2286ecf6b39c637b41cd5ba76c1"

def lateArgs : RecordArgs := { startArgs with now := .fin 10 }

def earlyArgs : RecordArgs := { stopArgs with now := .fin 5 }

def lateText : String :=
  "\x7b\"agent_id\":null,\"category\":\"agent_command\",\"details\":\x7b\x7d," ++
  "\"event\":\"start\",\"prev_hash\":\"GENESISGENESISGENESISGENESIS\"," ++
  "\"severity\":\"info\",\"task_id\":null,\"timestamp\":10.0\x7d"

def earlyText : String :=
  "\x7b\"agent_id\":null,\"category\":\"agent_command\",\"details\":\x7b\x7d," ++
  "\"event\":\"stop\"," ++
  "\"prev_hash\":\"2c7a51486f7dc91245ce1374ba45073ac2b2d4dfbdf574bae8c73b629f1e0277\"," ++
  "\"severity\":\"info\",\"task_id\":null,\"timestamp\":5.0\x7d"

/-- The library, with the digests of both texts. -/
def clockLib : Python := .plain [(lateText, lateHash), (earlyText, earlyHash)]
  "e3b0c44298fc1c149afbf4c8996fb92427ae41e4649b934ca495991b7852b855"

def lateEntry : AuditEntry := { emptyLog.newEntry lateArgs with entryHash := lateHash }

def lateLog : AuditLog := { emptyLog.append 1 lateEntry with dirty := true }

def earlyEntry : AuditEntry := { lateLog.newEntry earlyArgs with entryHash := earlyHash }

/-- The log of an event at 10 s and, after the clock has been set back, of one at 5 s. -/
def clockLog : AuditLog := { lateLog.append 2 earlyEntry with dirty := true }

theorem isSealed_lateEntry : IsSealed clockLib lateEntry := by
  have htext : jsonText lateEntry.content = some lateText := by decide +kernel
  exact AuditEntry.computeHash_eq_ok.2 ⟨lateText, jsonDumps_eq_ok.2 htext, by decide +kernel⟩

theorem isSealed_earlyEntry : IsSealed clockLib earlyEntry := by
  have htext : jsonText earlyEntry.content = some earlyText := by decide +kernel
  exact AuditEntry.computeHash_eq_ok.2 ⟨earlyText, jsonDumps_eq_ok.2 htext, by decide +kernel⟩

theorem clockLog_reachable : clockLog.Reachable clockLib := by
  have hlate : (Call.record lateArgs [] none).exec clockLib emptyLog = lateLog :=
    Call.exec_record_nil isSealed_lateEntry
  have hearly : (Call.record earlyArgs [] none).exec clockLib lateLog = clockLog :=
    Call.exec_record_nil isSealed_earlyEntry
  refine ⟨"/var/lib/vibeshield/audit", false,
    [.record lateArgs [] none, .record earlyArgs [] none], ?_⟩
  rw [execAll, execAll, execAll, ← hearly, ← hlate]
  rfl

/-- The events since 7 s. -/
def sinceSeven : Filters := { since := some (.fin 7) }

theorem examine_earlyEntry : sinceSeven.examine clockLib "desc" earlyEntry = .ok .stop := by
  decide +kernel

/-- The query of the events since 7 s, newest first, ends at the second event, and misses the
    first one. -/
theorem clockLog_missed :
    clockLog.Reachable clockLib ∧
      clockLog.query clockLib sinceSeven (100 : ℕ) (0 : ℕ) "desc" ≠
        .ok ((page (sinceSeven.accepts clockLib) 0 100 clockLog.entries.reverse).map
          AuditEntry.toDict) := by
  refine ⟨clockLog_reachable, fun h => ?_⟩
  have hentries : clockLog.entries.reverse = [earlyEntry, lateEntry] := rfl
  rw [AuditLog.query_eq_ok_iff, if_neg (by decide), hentries,
    scan_cons_of_stop examine_earlyEntry,
    page_cons_of_neg (a := earlyEntry) (by decide +kernel),
    page_zero_cons_of_pos (a := lateEntry) (by decide +kernel)] at h
  exact absurd (Except.ok.inj h).symm (List.cons_ne_nil _ _)

/-- The oldest event first, the query finds it. -/
theorem clockLog_found :
    clockLog.query clockLib sinceSeven (1 : ℕ) (0 : ℕ) "asc" =
      .ok ((page (sinceSeven.accepts clockLib) 0 1 clockLog.entries).map AuditEntry.toDict) := by
  refine (query_eq_page_iff clockLib clockLog clockLog_reachable sinceSeven true 1 0).1.2 ?_
  have hentries : clockLog.entries = [lateEntry, earlyEntry] := rfl
  have hcount : sinceSeven.examine clockLib "asc" lateEntry = .ok .count := by decide +kernel
  rw [if_pos rfl, if_pos rfl, hentries]
  exact (undisturbed_zero_cons hcount (by decide +kernel)).2 undisturbed_limit_zero

end Sample

end VibeShield
