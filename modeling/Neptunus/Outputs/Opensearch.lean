import Mathlib.Data.List.Forall2
import Mathlib.Data.List.Perm.Basic
import Neptunus.Core.Event

/-!
  Neptunus.Outputs.Opensearch

  The opensearch output's indexer (`plugins/outputs/opensearch/indexer.go`): the flush
  callback the batcher calls on a batch, and `perform`, the bulk request with retries.

  The flush prepares every event of the batch in order: it is serialised
  (`json.Marshal` of the payload or of the whole event), and its bulk operation is
  written into the body (`BulkBody.CreateOp` or `IndexOp`); an event whose
  serialisation or write fails is reported failed and skipped. The others are kept
  in `sentEvents`, and the answer to the bulk request is matched to them by position.
  The library calls are parameters (`Lib`), so every pattern of outcomes is covered;
  the body is the list of operations written to it.

  A report is one `e.Done()` and one observed status (`Core.Report`).
  `flush_reports` is the flush's contract: every event of the batch is reported
  once, and the `j`-th item of the response is reported for the event whose operation
  was the `j`-th written, failed with the item's error when it carries one, else
  accepted.

  `perform` records the body each `client.Bulk` call read. Every call reads the same
  bytes, and the loop answers as its counter says: the first success within
  `maxAttempts` attempts, else the last error after exactly `maxAttempts` calls, and
  with `maxAttempts` not positive the first success whenever it comes
  (`perform_attempts`).
-/

namespace Neptunus.Outputs.Opensearch

open Neptunus.Core

/-- Serialised bytes. -/
abbrev Raw := List UInt8

/-- `esopensearch.BulkOp`. -/
structure BulkOp where
  index : String
  id : String
  routing : String

/-- One operation of a bulk body: its action (`create` or `index`), the document and
    the operation's metadata. -/
structure BulkAction where
  action : String
  raw : Raw
  op : BulkOp

/-- `ErrorCause` of a bulk response item. -/
structure ErrorCause where
  type : String
  reason : String

/-- A bulk response item: the error it carries, if any. -/
structure BulkRespItem where
  error : Option ErrorCause

/-- `BulkResp.Items`: per operation, the item under each action name. -/
abbrev BulkResp := List (List (String × BulkRespItem))

/-- The library calls the flush makes: `json.Marshal` of a payload and of an event,
    and `BulkBody.CreateOp` / `IndexOp`, which write an operation into the body or
    return an error. -/
structure Lib where
  marshalData : Value → Except String Raw
  marshalEvent : Event → Except String Raw
  createOp : Raw → BulkOp → Option String
  indexOp : Raw → BulkOp → Option String

/-- The indexer's settings the flush reads. `Init` admits only the operations `create`
    and `index`, and every indexer takes its operation from the checked settings. -/
structure indexer where
  pipeline : String
  dataOnly : Bool
  operation : String
  routingLabel : String
  maxAttempts : Int
  operation_valid : operation = "create" ∨ operation = "index"

/-- `Init`'s check of `operation`. -/
def checkOperation (operation : String) : Except String Unit :=
  match operation with
  | "create" | "index" => .ok ()
  | _ => .error ("unknown operation: " ++ operation ++ "; expected one of: create, index")

/-! ## Preparing the batch -/

/-- The loop's state: the events whose operation was written, the body, and the
    reports made so far. -/
structure Prepared where
  sentEvents : List Event
  body : List BulkAction
  reports : List Report

/-- `json.Marshal(e.Data)` or `json.Marshal(e)`. -/
def marshal (lib : Lib) (i : indexer) (e : Event) : Except String Raw :=
  if i.dataOnly then lib.marshalData e.data else lib.marshalEvent e

/-- The routing: the `routingLabel` label when it is configured and present, else `""`. -/
def routingOf (i : indexer) (e : Event) : String :=
  if 0 < i.routingLabel.length then (e.getLabel i.routingLabel).getD "" else ""

/-- The operation written for an event. -/
def bulkOpOf (i : indexer) (e : Event) : BulkOp := ⟨e.routingKey, e.id, routingOf i e⟩

/-- The `switch i.operation`: the write's error, or the body with the operation. -/
def writeOp (lib : Lib) (i : indexer) (body : List BulkAction) (raw : Raw) (op : BulkOp) :
    Option String × List BulkAction :=
  match i.operation with
  | "create" => match lib.createOp raw op with
    | some err => (some err, body)
    | none => (none, body ++ [⟨"create", raw, op⟩])
  | "index" => match lib.indexOp raw op with
    | some err => (some err, body)
    | none => (none, body ++ [⟨"index", raw, op⟩])
  | _ => (none, body)

/-- A failed report for a skipped or unsent event. -/
def failed (e : Event) (msg err : String) : Report := ⟨e, .failed, msg, some err⟩

/-- One iteration of `for _, e := range buf`. -/
def prepare (lib : Lib) (i : indexer) (s : Prepared) (e : Event) : Prepared :=
  match marshal lib i e with
  | .error err =>
    { s with reports := s.reports ++ [failed e "event serialization failed, event skipped" err] }
  | .ok raw =>
    match writeOp lib i s.body raw (bulkOpOf i e) with
    | (some err, _) =>
      { s with reports := s.reports ++ [failed e "operation serialization failed, event skipped" err] }
    | (none, body) => { s with sentEvents := s.sentEvents ++ [e], body }

/-- The whole preparation loop. -/
def prepareAll (lib : Lib) (i : indexer) (buf : List Event) : Prepared :=
  buf.foldl (prepare lib i) ⟨[], [], []⟩

/-! ## The answer -/

/-- The report for a sent event and its response item: `v[i.operation].Error`, where a
    missing action reads as an item without error. -/
def itemReport (operation : String) (e : Event) (v : List (String × BulkRespItem)) : Report :=
  match (lookup operation v).bind BulkRespItem.error with
  | some cause => failed e "event send failed" (cause.type ++ ": " ++ cause.reason)
  | none => ⟨e, .accepted, "event sent", none⟩

/-- `for j, v := range res.Items { e := sentEvents[j]; ... }`; indexing past
    `sentEvents` panics. -/
def itemReports (operation : String) : List Event → BulkResp → Except String (List Report)
  | _, [] => .ok []
  | [], _ :: _ => .error "runtime error: index out of range"
  | e :: es, v :: vs => (itemReports operation es vs).map (itemReport operation e v :: ·)

/-- The flush callback: nothing for an empty batch; the preparation's reports; then,
    unless every event was skipped, the reports of the bulk request, `performed` being
    `perform`'s result for the body. -/
def flush (lib : Lib) (i : indexer) (performed : List BulkAction → Except String BulkResp)
    (buf : List Event) : Except String (List Report) :=
  if buf.length = 0 then .ok [] else
  let s := prepareAll lib i buf
  if s.sentEvents.length = 0 then .ok s.reports else
  match performed s.body with
  | .error err => .ok (s.reports ++ s.sentEvents.map fun e => failed e "event send failed" err)
  | .ok items => (itemReports i.operation s.sentEvents items).map (s.reports ++ ·)

/-! ## The preparation's invariant -/

/-- The action a valid indexer writes. -/
theorem writeOp_valid (lib : Lib) (i : indexer) (body : List BulkAction) (raw : Raw)
    (op : BulkOp) :
    writeOp lib i body raw op =
      match (if i.operation = "create" then lib.createOp else lib.indexOp) raw op with
      | some err => (some err, body)
      | none => (none, body ++ [⟨i.operation, raw, op⟩]) := by
  rcases i.operation_valid with h | h <;> simp only [writeOp, h] <;> rfl

/-- The operation written for a sent event: its action, its serialised form and its
    metadata. -/
def actionOf (lib : Lib) (i : indexer) (e : Event) : BulkAction :=
  ⟨i.operation, (marshal lib i e).toOption.getD [], bulkOpOf i e⟩

/-- What the loop keeps: every event of the batch so far is either reported or sent,
    and the body holds one operation per sent event, in the same order. -/
structure PreparedInv (lib : Lib) (i : indexer) (done : List Event) (s : Prepared) : Prop where
  perm : (s.reports.map Report.event ++ s.sentEvents).Perm done
  body : s.body = s.sentEvents.map (actionOf lib i)

theorem prepare_inv {lib : Lib} {i : indexer} {done : List Event} {s : Prepared}
    (h : PreparedInv lib i done s) (e : Event) :
    PreparedInv lib i (done ++ [e]) (prepare lib i s e) := by
  have hskip : ∀ msg err, PreparedInv lib i (done ++ [e])
      { s with reports := s.reports ++ [failed e msg err] } := by
    intro msg err
    refine ⟨?_, h.body⟩
    have := (List.perm_middle.trans (h.perm.cons e)).trans (List.perm_append_singleton e done).symm
    simpa [failed] using this
  unfold prepare
  cases hm : marshal lib i e with
  | error err => exact hskip _ err
  | ok raw =>
    simp only [writeOp_valid]
    cases (if i.operation = "create" then lib.createOp else lib.indexOp) raw (bulkOpOf i e) with
    | some err => exact hskip _ err
    | none =>
      exact ⟨by simpa [← List.append_assoc] using h.perm.append_right [e],
        by simp [h.body, actionOf, hm, Except.toOption]⟩

theorem prepareAll_inv (lib : Lib) (i : indexer) (buf : List Event) :
    PreparedInv lib i buf (prepareAll lib i buf) := by
  have : ∀ done s, PreparedInv lib i done s →
      PreparedInv lib i (done ++ buf) (buf.foldl (prepare lib i) s) := by
    induction buf with
    | nil => intro done s h; simpa using h
    | cons e rest ih =>
      intro done s h
      simpa using ih (done ++ [e]) _ (prepare_inv h e)
  simpa using this [] ⟨[], [], []⟩ ⟨by simp, rfl⟩

/-! ## The answer's invariant -/

/-- With one item per sent event, item `j` is reported for sent event `j`. -/
theorem itemReports_eq (operation : String) :
    ∀ (es : List Event) (items : BulkResp), items.length = es.length →
      itemReports operation es items = .ok ((es.zip items).map fun p => itemReport operation p.1 p.2)
  | [], [], _ => rfl
  | e :: es, v :: vs, h => by
    simp [itemReports, itemReports_eq operation es vs (by simpa using h), Except.map]

theorem itemReports_events (operation : String) (es : List Event) (items : BulkResp)
    (h : items.length = es.length) :
    ((es.zip items).map fun p => itemReport operation p.1 p.2).map Report.event = es := by
  have hev : ∀ e v, (itemReport operation e v).event = e := by
    intro e v
    unfold itemReport
    split <;> rfl
  rw [List.map_map]
  conv => rhs; rw [← List.map_fst_zip es items (by omega)]
  exact List.map_congr_left fun p _ => hev p.1 p.2

/-- When `perform` answers one item per sent event, the flush reports the skipped events,
    then item `j` for sent event `j`. -/
theorem flush_of_items {lib : Lib} {i : indexer} {performed : List BulkAction → Except String BulkResp}
    {buf : List Event} {items : BulkResp} (hbuf : 0 < buf.length)
    (hp : performed (prepareAll lib i buf).body = .ok items)
    (hlen : items.length = (prepareAll lib i buf).sentEvents.length) :
    flush lib i performed buf = .ok ((prepareAll lib i buf).reports ++
      ((prepareAll lib i buf).sentEvents.zip items).map fun p => itemReport i.operation p.1 p.2) := by
  unfold flush
  dsimp only
  rw [if_neg (by omega)]
  split
  · case isTrue hs => simp [List.eq_nil_of_length_eq_zero hs]
  · simp only [hp, itemReports_eq _ _ _ hlen]
    rfl

/-- The flush's contract. For every batch, every outcome of the library calls and
    every result of `perform` that, when it answers, answers one item per operation
    written: every event of the batch is reported (one `Done`, one observed status)
    exactly once; the `j`-th operation of the body is the `j`-th sent event's; and when
    `perform` answers, after the reports of the skipped events, the `j`-th item is
    reported for the `j`-th sent event: failed, with the item's error, when
    `v[i.operation].Error` is set, else accepted. -/
theorem flush_reports (lib : Lib) (i : indexer)
    (performed : List BulkAction → Except String BulkResp) (buf : List Event)
    (hitems : ∀ items, performed (prepareAll lib i buf).body = .ok items →
      items.length = (prepareAll lib i buf).body.length) :
    (∃ reports, flush lib i performed buf = .ok reports ∧ (reports.map Report.event).Perm buf) ∧
    (prepareAll lib i buf).body = (prepareAll lib i buf).sentEvents.map (actionOf lib i) ∧
    ∀ items, performed (prepareAll lib i buf).body = .ok items → 0 < buf.length →
      ∃ sent, flush lib i performed buf = .ok ((prepareAll lib i buf).reports ++ sent) ∧
        List.Forall₂ (fun (p : Event × List (String × BulkRespItem)) (r : Report) =>
            (∀ cause, (lookup i.operation p.2).bind BulkRespItem.error = some cause →
              r = ⟨p.1, .failed, "event send failed", some (cause.type ++ ": " ++ cause.reason)⟩) ∧
            ((lookup i.operation p.2).bind BulkRespItem.error = none →
              r = ⟨p.1, .accepted, "event sent", none⟩))
          ((prepareAll lib i buf).sentEvents.zip items) sent := by
  have hinv := prepareAll_inv lib i buf
  have hlen : ∀ items, performed (prepareAll lib i buf).body = .ok items →
      items.length = (prepareAll lib i buf).sentEvents.length := fun items h => by
    rw [hitems items h, hinv.body, List.length_map]
  refine ⟨?_, hinv.body, fun items hp hbuf => ⟨_, flush_of_items hbuf hp (hlen items hp), ?_⟩⟩
  · unfold flush
    dsimp only
    split
    · case isTrue h0 => exact ⟨[], rfl, by simp [List.eq_nil_of_length_eq_zero h0]⟩
    · split
      · case isTrue hs =>
        exact ⟨_, rfl, by simpa [List.eq_nil_of_length_eq_zero hs] using hinv.perm⟩
      · cases hp : performed (prepareAll lib i buf).body with
        | error err => exact ⟨_, rfl, by simpa [failed, Function.comp_def] using hinv.perm⟩
        | ok items =>
          refine ⟨_, congrArg (Except.map _) (itemReports_eq _ _ _ (hlen items hp)), ?_⟩
          simpa [itemReports_events _ _ _ (hlen items hp)] using hinv.perm
  · refine List.forall₂_map_right_iff.mpr (List.forall₂_same.mpr fun p _ => ⟨fun cause h => ?_, fun h => ?_⟩)
    all_goals simp only [itemReport, h, failed]

/-- A library under which events with a `null` payload fail to serialise and every
    operation is written, and a cluster that accepts every operation. -/
def nullFails : Lib where
  marshalData v := match v with
    | .null => .error "json: unsupported value"
    | _ => .ok []
  marshalEvent _ := .ok []
  createOp _ _ := none
  indexOp _ _ := none

def createIndexer : indexer := ⟨"", true, "create", "", 0, .inl rfl⟩

def acceptEach (body : List BulkAction) : Except String BulkResp :=
  .ok (body.map fun _ => [("create", ⟨none⟩)])

/-- A batch whose first event has a `null` payload. -/
def nullThenOk : List Event := [{ testEvent with data := .null }, testEvent]

theorem flush_reports_null_then_ok :
    (∀ items, acceptEach (prepareAll nullFails createIndexer nullThenOk).body = .ok items →
      items.length = (prepareAll nullFails createIndexer nullThenOk).body.length) ∧
    (∃ reports, flush nullFails createIndexer acceptEach nullThenOk = .ok reports ∧
      (reports.map Report.event).Perm nullThenOk) ∧
    (prepareAll nullFails createIndexer nullThenOk).body =
      (prepareAll nullFails createIndexer nullThenOk).sentEvents.map (actionOf nullFails createIndexer) ∧
    ∀ items, acceptEach (prepareAll nullFails createIndexer nullThenOk).body = .ok items →
      0 < nullThenOk.length →
      ∃ sent, flush nullFails createIndexer acceptEach nullThenOk =
          .ok ((prepareAll nullFails createIndexer nullThenOk).reports ++ sent) ∧
        List.Forall₂ (fun (p : Event × List (String × BulkRespItem)) (r : Report) =>
            (∀ cause, (lookup createIndexer.operation p.2).bind BulkRespItem.error = some cause →
              r = ⟨p.1, .failed, "event send failed", some (cause.type ++ ": " ++ cause.reason)⟩) ∧
            ((lookup createIndexer.operation p.2).bind BulkRespItem.error = none →
              r = ⟨p.1, .accepted, "event sent", none⟩))
          ((prepareAll nullFails createIndexer nullThenOk).sentEvents.zip items) sent :=
  have hitems : ∀ items, acceptEach (prepareAll nullFails createIndexer nullThenOk).body = .ok items →
      items.length = (prepareAll nullFails createIndexer nullThenOk).body.length :=
    fun items h => by cases h; simp
  ⟨hitems, flush_reports nullFails createIndexer acceptEach nullThenOk hitems⟩

/-! ## The bulk request -/

/-- What `perform` has done: the body each `client.Bulk` call read, in order, and what
    it returned; `none` while it is still retrying. -/
structure Attempts where
  sent : List Raw
  result : Option (Except String BulkResp)

/-- A failed call made before the attempts that follow. -/
def Attempts.retried (a : Attempts) (body : Raw) : Attempts := { a with sent := body :: a.sent }

/-- `indexer.perform(r, b)` from the loop's state: `attempts` is the Go variable and
    `n` the calls made so far. Each iteration sets `r.Body` to a fresh reader over a
    copy of `staticBody`, which the `n`-th call (from 0) reads whole; its outcome is
    `bulk n body`. A success is returned; a failure is retried while `maxAttempts` is
    positive and not reached, returned once it is reached, and retried with
    `attempts` unchanged when `maxAttempts` is not positive. `fuel` bounds the calls
    the model makes. -/
def perform (maxAttempts : Int) (staticBody : Raw) (bulk : Nat → Raw → Except String BulkResp) :
    Nat → Nat → Nat → Attempts
  | 0, _, _ => ⟨[], none⟩
  | fuel + 1, attempts, n =>
    let body := staticBody
    match bulk n body with
    | .ok response => ⟨[body], some (.ok response)⟩
    | .error err =>
      if 0 < maxAttempts ∧ attempts < maxAttempts then
        (perform maxAttempts staticBody bulk fuel (attempts + 1) (n + 1)).retried body
      else if 0 < maxAttempts ∧ maxAttempts ≤ attempts then ⟨[body], some (.error err)⟩
      else (perform maxAttempts staticBody bulk fuel attempts (n + 1)).retried body

section Perform

variable {m : Int} {body : Raw} {bulk : Nat → Raw → Except String BulkResp}

theorem perform_ok {fuel attempts n : Nat} {response : BulkResp}
    (h : bulk n body = .ok response) :
    perform m body bulk (fuel + 1) attempts n = ⟨[body], some (.ok response)⟩ := by
  simp [perform, h]

/-- A failed call is retried while attempts remain, and always when `maxAttempts` is
    not positive; only a positive `maxAttempts` counts the attempt. -/
theorem perform_retry {fuel attempts n : Nat} {err : String} (he : bulk n body = .error err)
    (hm : 0 < m → attempts < m) :
    perform m body bulk (fuel + 1) attempts n =
      (perform m body bulk fuel (if 0 < m then attempts + 1 else attempts) (n + 1)).retried body := by
  by_cases h0 : 0 < m
  · simp [perform, he, h0, hm h0]
  · simp [perform, he, h0]

/-- With the attempts used up, a failed call's error is returned. -/
theorem perform_give_up {fuel attempts n : Nat} {err : String} (he : bulk n body = .error err)
    (hm : 0 < m) (hatt : m ≤ attempts) :
    perform m body bulk (fuel + 1) attempts n = ⟨[body], some (.error err)⟩ := by
  simp [perform, he, hm, hatt]

/-- The first success is returned, after one call per attempt up to it; with
    `maxAttempts` positive the Go counter `attempts` is the calls made plus one. -/
theorem perform_first_ok {j : Nat} {response : BulkResp} (hok : bulk j body = .ok response)
    (hfail : ∀ i < j, ∃ e, bulk i body = .error e) (hj : 0 < m → j < m.toNat) :
    ∀ fuel n attempts, n ≤ j → j - n < fuel → (0 < m → attempts = n + 1) →
      perform m body bulk fuel attempts n = ⟨List.replicate (j + 1 - n) body, some (.ok response)⟩
  | 0, _, _, _, hfuel, _ => absurd hfuel (Nat.not_lt_zero _)
  | fuel + 1, n, attempts, hn, hfuel, hatt => by
    rcases Nat.eq_or_lt_of_le hn with rfl | hlt
    · rw [perform_ok hok, Nat.add_sub_cancel_left]
      rfl
    · obtain ⟨e, he⟩ := hfail n hlt
      rw [perform_retry he fun hm => by have := hatt hm; have := hj hm; omega,
        perform_first_ok hok hfail hj fuel (n + 1) _ hlt (by omega) fun hm => by rw [if_pos hm, hatt hm],
        show j + 1 - n = j + 1 - (n + 1) + 1 by omega]
      rfl

/-- With `maxAttempts` positive and every attempt up to it failing, the error of the
    last is returned after exactly `maxAttempts` calls. -/
theorem perform_exhausted {e : String} (hm : 0 < m)
    (hfail : ∀ i < m.toNat, ∃ e, bulk i body = .error e) (he : bulk (m.toNat - 1) body = .error e) :
    ∀ fuel n, n < m.toNat → m.toNat - n ≤ fuel →
      perform m body bulk fuel (n + 1) n = ⟨List.replicate (m.toNat - n) body, some (.error e)⟩
  | 0, _, hn, hfuel => by omega
  | fuel + 1, n, hn, hfuel => by
    by_cases hlast : n + 1 < m.toNat
    · obtain ⟨e', he'⟩ := hfail n hn
      rw [perform_retry he' fun _ => by omega, if_pos hm,
        perform_exhausted hm hfail he fuel (n + 1) hlast (by omega),
        show m.toNat - n = m.toNat - (n + 1) + 1 by omega]
      rfl
    · obtain rfl : n = m.toNat - 1 := by omega
      rw [perform_give_up he hm (by omega), show m.toNat - (m.toNat - 1) = 1 by omega]
      rfl

/-- With `maxAttempts` not positive, failures are retried without end: no result
    while every call so far failed. -/
theorem perform_pending (hm : m ≤ 0) :
    ∀ fuel n attempts, (∀ i, n ≤ i → i < n + fuel → ∃ e, bulk i body = .error e) →
      perform m body bulk fuel attempts n = ⟨List.replicate fuel body, none⟩
  | 0, _, _, _ => rfl
  | fuel + 1, n, attempts, hfail => by
    obtain ⟨e, he⟩ := hfail n le_rfl (by omega)
    rw [perform_retry he fun h => absurd h (by omega), if_neg (by omega),
      perform_pending hm fuel (n + 1) attempts fun i hi hi' => hfail i (by omega) (by omega)]
    rfl

end Perform

/-- `perform` sends the same body on every call. With `maxAttempts` positive it
    returns the first success among the first `maxAttempts` attempts, and otherwise
    the error of the `maxAttempts`-th after exactly `maxAttempts` calls; with
    `maxAttempts` not positive it returns at the first success and not before. -/
theorem perform_attempts (m : Int) (body : Raw) (bulk : Nat → Raw → Except String BulkResp) :
    (∀ j response, (0 < m → j < m.toNat) → (∀ i < j, ∃ e, bulk i body = .error e) →
      bulk j body = .ok response → ∀ fuel, j < fuel →
        perform m body bulk fuel 1 0 = ⟨List.replicate (j + 1) body, some (.ok response)⟩) ∧
    (0 < m → ∀ e, (∀ i < m.toNat, ∃ e, bulk i body = .error e) → bulk (m.toNat - 1) body = .error e →
      ∀ fuel, m.toNat ≤ fuel →
        perform m body bulk fuel 1 0 = ⟨List.replicate m.toNat body, some (.error e)⟩) ∧
    (m ≤ 0 → ∀ fuel, (∀ i < fuel, ∃ e, bulk i body = .error e) →
      perform m body bulk fuel 1 0 = ⟨List.replicate fuel body, none⟩) :=
  ⟨fun j _ hj hfail hok fuel hfuel =>
    perform_first_ok hok hfail hj fuel 0 1 (Nat.zero_le _) (by omega) fun _ => rfl,
   fun hm e hfail he fuel hfuel =>
    perform_exhausted hm hfail he fuel 0 (by omega) (by omega),
   fun hm fuel hfail => perform_pending hm fuel 0 1 fun i _ hi => hfail i (by omega)⟩

/-- A cluster whose first bulk call fails and whose second succeeds. -/
def failOnce (n : Nat) (_ : Raw) : Except String BulkResp :=
  if n = 0 then .error "bulk request failed" else .ok []

theorem perform_attempts_fail_once :
    perform 3 [1] failOnce 5 1 0 = ⟨[[1], [1]], some (.ok [])⟩ :=
  (perform_attempts 3 [1] failOnce).1 1 [] (fun _ => by decide)
    (fun i hi => ⟨"bulk request failed", by simp [failOnce, Nat.lt_one_iff.mp hi]⟩) rfl 5 (by decide)

end Neptunus.Outputs.Opensearch
