import Neptunus.Core.Payload

/-!
  Neptunus.Core.Event

  The event (`*core.Event`) and its completion protocol: the duty counter shared by
  an event and its clones, `Done`, and the hooks that fire when the counter
  returns to zero (§3.1, §4.2, §4.7).

  The `core` package is not among the sources, so `Event`'s methods are modelled
  from the spec. An event is a record with two identities: `ptr`, the object
  (what `v == e` compares), and `dutyRef`, the counter and hook list it shares
  with its clones. The `Ledger` holds every counter; a plugin's `Run` loop is a
  fold of one step per input event over a `Stage` (the ledger, the events sent on
  `out`, the metrics observed).
-/

namespace Neptunus.Core

/-! ## Events -/

/-- Modelled from the spec: a `*core.Event`. -/
structure Event where
  ptr : Nat
  dutyRef : Nat
  id : String
  routingKey : String
  timestamp : Instant
  labels : List (String × String)
  tags : List String
  errors : List String
  data : Value

namespace Event

/-- Modelled from the spec: `StackError(err)`: appends to the error stack. -/
def stackError (e : Event) (err : String) : Event := { e with errors := e.errors ++ [err] }

/-- Modelled from the spec: `AddTag(tag)`: tags are a set. -/
def addTag (e : Event) (tag : String) : Event :=
  if tag ∈ e.tags then e else { e with tags := e.tags ++ [tag] }

/-- Modelled from the spec: `GetLabel(key)`. -/
def getLabel (e : Event) (key : String) : Option String := lookup key e.labels

/-- Modelled from the spec: `SetLabel(key, value)` (`AddLabel` in older plugins). -/
def setLabel (e : Event) (key value : String) : Event := { e with labels := insert key value e.labels }

/-- Modelled from the spec: `GetField(key)`: the path engine on the payload. -/
def getField (e : Event) (key : String) : Except PathError Value := findInPayload e.data key

/-- Modelled from the spec: `SetField(key, value)`; the payload is replaced only when the
    write succeeds (§7). -/
def setField (e : Event) (key : String) (v : Value) : Event × Option PathError :=
  match putInPayload e.data key v with
  | .ok d => ({ e with data := d }, none)
  | .error err => (e, some err)

/-- Modelled from the spec: `DeleteLabel(key)`. -/
def deleteLabel (e : Event) (key : String) : Event := { e with labels := erase key e.labels }

/-- Modelled from the spec: `HasTag(tag)`. -/
def hasTag (e : Event) (tag : String) : Bool := decide (tag ∈ e.tags)

/-- Modelled from the spec: `DeleteTag(tag)`: the tag leaves the set. -/
def deleteTag (e : Event) (tag : String) : Event := { e with tags := e.tags.filter (· != tag) }

/-- Modelled from the spec: `DeleteField(key)`; as for `SetField`, the payload is replaced
    only when the delete succeeds. -/
def deleteField (e : Event) (key : String) : Event × Option PathError :=
  match deleteFromPayload e.data key with
  | .ok d => ({ e with data := d }, none)
  | .error err => (e, some err)

/-- Modelled from the spec: `NewEvent(routingKey)`, a fresh object `ptr` with its own
    counter, a generated id and the current time; no labels, tags, errors; a null
    payload. -/
def new (ptr : Nat) (id : String) (now : Instant) (routingKey : String) : Event :=
  { ptr := ptr, dutyRef := ptr, id := id, routingKey := routingKey, timestamp := now,
    labels := [], tags := [], errors := [], data := .null }

@[simp] theorem stackError_ptr (e : Event) (err : String) : (e.stackError err).ptr = e.ptr := rfl
@[simp] theorem stackError_dutyRef (e : Event) (err : String) :
    (e.stackError err).dutyRef = e.dutyRef := rfl
@[simp] theorem addTag_ptr (e : Event) (tag : String) : (e.addTag tag).ptr = e.ptr := by
  unfold addTag; split <;> rfl
@[simp] theorem addTag_dutyRef (e : Event) (tag : String) : (e.addTag tag).dutyRef = e.dutyRef := by
  unfold addTag; split <;> rfl
@[simp] theorem setLabel_ptr (e : Event) (k v : String) : (e.setLabel k v).ptr = e.ptr := rfl
@[simp] theorem setLabel_dutyRef (e : Event) (k v : String) :
    (e.setLabel k v).dutyRef = e.dutyRef := rfl
@[simp] theorem setLabel_errors (e : Event) (k v : String) : (e.setLabel k v).errors = e.errors := rfl

/-- `SetField` writes the payload only: the object, its group and its errors stay. -/
theorem setField_keeps (e : Event) (k : String) (v : Value) :
    (e.setField k v).1.ptr = e.ptr ∧ (e.setField k v).1.dutyRef = e.dutyRef ∧
      (e.setField k v).1.errors = e.errors := by
  unfold setField; split <;> exact ⟨rfl, rfl, rfl⟩

end Event

/-! ## Duty counters -/

/-- The duty counter of every group, and how often each group's hooks have fired. -/
structure Ledger where
  duty : Nat → Int
  fired : Nat → Nat

namespace Ledger

/-- Modelled from the spec: `e.Done()`: decrements the group's duty; at zero the hooks fire. -/
def done (l : Ledger) (e : Event) : Ledger :=
  let d := l.duty e.dutyRef - 1
  { duty := Function.update l.duty e.dutyRef d,
    fired := if d = 0 then Function.update l.fired e.dutyRef (l.fired e.dutyRef + 1) else l.fired }

/-- No counters yet. -/
def empty : Ledger := ⟨fun _ => 0, fun _ => 0⟩

/-- Modelled from the spec: the counter `NewEvent` creates for its event: one unit. -/
def create (l : Ledger) (e : Event) : Ledger :=
  { l with duty := Function.update l.duty e.dutyRef 1 }

/-- Modelled from the spec: `e.Clone()`'s effect on the counters: one more unit on the group. -/
def clone (l : Ledger) (e : Event) : Ledger :=
  { l with duty := Function.update l.duty e.dutyRef (l.duty e.dutyRef + 1) }

@[simp] theorem done_duty_self (l : Ledger) (e : Event) :
    (l.done e).duty e.dutyRef = l.duty e.dutyRef - 1 := by simp [done]

theorem done_duty_of_ne (l : Ledger) (e : Event) {g : Nat} (h : g ≠ e.dutyRef) :
    (l.done e).duty g = l.duty g := by simp [done, h]

/-- Two `Done` calls commute: on one group both take a unit, on two groups they touch
    different counters. -/
theorem done_comm (l : Ledger) (a b : Event) : (l.done a).done b = (l.done b).done a := by
  by_cases h : a.dutyRef = b.dutyRef
  · simp only [done, h]
  · have h' : b.dutyRef ≠ a.dutyRef := Ne.symm h
    simp only [done, Function.update_noteq h, Function.update_noteq h', Function.update_comm h]
    split_ifs <;> simp [Function.update_noteq h, Function.update_noteq h', Function.update_comm h]

/-- `Done` on every event of a list, in order. -/
def doneAll (l : Ledger) (es : List Event) : Ledger := es.foldl done l

/-- The counters after `Done` on a list of events do not depend on the order of the
    calls. -/
theorem doneAll_perm {es es' : List Event} (h : es.Perm es') (l : Ledger) :
    l.doneAll es = l.doneAll es' :=
  h.foldl_eq' (fun _ _ _ _ z => done_comm z _ _) l

end Ledger

/-! ## Stages -/

/-- The outcome a plugin reports to metrics for an event. -/
inductive EventStatus where
  | accepted | failed | rejected
  deriving DecidableEq, Repr

/-- What a plugin's `Run` loop has done so far: the duty counters, the events sent on
    `out` (in order) and the statuses observed. -/
structure Stage where
  ledger : Ledger
  out : List Event
  observed : List EventStatus

/-- What an output does for one event of a batch: `e.Done()`, the status it observes,
    and its log line (message and error text). -/
structure Report where
  event : Event
  status : EventStatus
  msg : String
  error : Option String

/-- The stage after an output's reports: one `Done` and one observation each. -/
def Stage.report (s : Stage) (rs : List Report) : Stage :=
  { s with ledger := s.ledger.doneAll (rs.map Report.event),
           observed := s.observed ++ rs.map Report.status }

/-- The references to group `g` in a list of events. -/
def refsTo (g : Nat) (l : List Event) : Nat := (l.filter (·.dutyRef = g)).length

@[simp] theorem refsTo_nil (g : Nat) : refsTo g [] = 0 := rfl

@[simp] theorem refsTo_cons (g : Nat) (e : Event) (l : List Event) :
    refsTo g (e :: l) = (if e.dutyRef = g then 1 else 0) + refsTo g l := by
  by_cases h : e.dutyRef = g <;> simp [refsTo, List.filter_cons, h]
  omega

@[simp] theorem refsTo_append (g : Nat) (l₁ l₂ : List Event) :
    refsTo g (l₁ ++ l₂) = refsTo g l₁ + refsTo g l₂ := by
  simp [refsTo, List.filter_append]

/-- `core.NewEvent("test-key")` as the plugin tests create it, and the counters after
    its creation. -/
def testEvent : Event := Event.new 0 "" ⟨0⟩ "test-key"

def testLedger : Ledger := Ledger.empty.create testEvent

/-- When every reference to group `g` in a list is object `p`, and no object occurs
    twice, the list holds one reference to `g` if `p` occurs and belongs to `g`, and
    none otherwise. -/
theorem refsTo_of_unique {l : List Event} {p g g' : Nat} (hnd : (l.map Event.ptr).Nodup)
    (hg : ∀ x ∈ l, x.dutyRef = g → x.ptr = p) (hp : ∀ x ∈ l, x.ptr = p → x.dutyRef = g') :
    refsTo g l = if p ∈ l.map Event.ptr ∧ g' = g then 1 else 0 := by
  induction l with
  | nil => simp
  | cons y ys ih =>
    simp only [List.map_cons, List.nodup_cons, List.mem_map] at hnd
    have ih' := ih hnd.2 (fun x hx => hg x (List.mem_cons_of_mem _ hx))
      (fun x hx => hp x (List.mem_cons_of_mem _ hx))
    by_cases hy : y.ptr = p
    · have hyg := hp y (List.mem_cons_self _ _) hy
      have hnot : ¬ ∃ a ∈ ys, a.ptr = p := fun ⟨a, ha, hap⟩ => hnd.1 ⟨a, ha, hap.trans hy.symm⟩
      simp only [List.mem_map] at ih'
      simp [ih', hnot, hy, hyg]
    · have hyg : y.dutyRef ≠ g := fun h => hy (hg y (List.mem_cons_self _ _) h)
      simp [ih', hy, hyg, Ne.symm hy]

end Neptunus.Core
