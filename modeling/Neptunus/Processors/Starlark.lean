import Neptunus.Starlark.Script

/-!
  Neptunus.Processors.Starlark

  The starlark processor's `Run` loop (`starlark.go`): for each input event `e` it
  calls `process(e)`, flattens the result with `unpack`, calls `Done` on `e` through
  `markAsDone` when `e` is not among the results, and sends the results on `out`;
  on a runtime failure or an `unpack` error it forwards `e` tagged
  `::starlark_processing_failed`.

  Verdicts. `Done` is called on `e` exactly when `e` is not sent
  (`step_ledger`). The results are sent verbatim, so an object occurring twice in a
  script's result is sent twice with no `Clone` (`step_event_twice`); when no object
  occurs twice, the duty of `e`'s group after the step is its duty before, minus
  the unit `e` held, plus the references sent (`step_duty_law`), and over a whole
  run every group's duty moves by the references sent minus those consumed
  (`run_duty`). `unpack`'s case `*starlark.NoneType` never matches `None`, whose
  dynamic type is `starlark.NoneType`: a script returning `None` has its event
  forwarded as failed, not dropped (`step_none`).

  The script's outcome is a parameter (`CallResult`): the processor hands the script its
  own `_event` wrapper, whose type and methods are not in the source, so what a script's
  method calls do to its event is not modelled here. `Init` loads the script as the
  common package does and looks up `process` itself (`init_eq_func`).
-/

namespace Neptunus.Processors.Starlark

open Neptunus.Core Neptunus.Starlark

/-! ## unpack -/

mutual

/-- `unpack(starValue)`: the events of a result, or the error text. -/
def unpack : StarValue → Except String (List Event)
  | .event e => .ok [e]
  | .error msg => .error msg
  | .list xs => unpackList xs
  | .nonePtr => .ok []
  | v => .error ("unknown function result, expected event, events list, error or none, got " ++ v.type)

/-- The loop of `unpack` over a list: the first error wins. -/
def unpackList : List StarValue → Except String (List Event)
  | [] => .ok []
  | x :: xs =>
    match unpack x with
    | .error err => .error err
    | .ok r =>
      match unpackList xs with
      | .error err => .error err
      | .ok rs => .ok (r ++ rs)

end

mutual

/-- The results `unpack` accepts: an event, a `*starlark.NoneType`, or a list of them. -/
def Unpacks : StarValue → Prop
  | .event _ => True
  | .nonePtr => True
  | .list xs => UnpacksList xs
  | _ => False

/-- Every element of a list is accepted. -/
def UnpacksList : List StarValue → Prop
  | [] => True
  | x :: xs => Unpacks x ∧ UnpacksList xs

end

mutual

/-- The events of a result, left to right. -/
def eventsOf : StarValue → List Event
  | .event e => [e]
  | .list xs => eventsOfList xs
  | _ => []

/-- The events of a list of results, left to right. -/
def eventsOfList : List StarValue → List Event
  | [] => []
  | x :: xs => eventsOf x ++ eventsOfList xs

end

mutual

/-- `unpack` succeeds exactly on the accepted shapes, with their events in order. -/
theorem unpack_eq_ok_iff : ∀ (v : StarValue) (evs : List Event),
    unpack v = .ok evs ↔ Unpacks v ∧ evs = eventsOf v
  | .event e, evs => by simp [unpack, Unpacks, eventsOf, eq_comm]
  | .list xs, evs => by simpa [unpack, Unpacks, eventsOf] using unpackList_eq_ok_iff xs evs
  | .nonePtr, evs => by simp [unpack, Unpacks, eventsOf, eq_comm]
  | .error _, _ | .none, _ | .string _, _ | .bool _, _ | .int _, _ | .float _, _ | .time _, _
  | .duration _, _ | .dict _, _ | .other _, _ => by simp [unpack, Unpacks]

theorem unpackList_eq_ok_iff : ∀ (xs : List StarValue) (evs : List Event),
    unpackList xs = .ok evs ↔ UnpacksList xs ∧ evs = eventsOfList xs
  | [], evs => by simp [unpackList, UnpacksList, eventsOfList, eq_comm]
  | x :: xs, evs => by
    have hx := unpack_eq_ok_iff x
    have hxs := unpackList_eq_ok_iff xs
    simp only [unpackList, UnpacksList, eventsOfList]
    cases h1 : unpack x with
    | error err =>
      have : ¬ Unpacks x := fun hu => by simp [(hx _).mpr ⟨hu, rfl⟩] at h1
      simp [this]
    | ok r =>
      obtain ⟨hu, rfl⟩ := (hx r).mp h1
      cases h2 : unpackList xs with
      | error err =>
        have : ¬ UnpacksList xs := fun hus => by simp [(hxs _).mpr ⟨hus, rfl⟩] at h2
        simp [this]
      | ok rs =>
        obtain ⟨hus, rfl⟩ := (hxs rs).mp h2
        simp [hu, hus, eq_comm]

end

/-! ## markAsDone and the Run loop -/

/-- `markAsDone(e, events)`: `Done` on `e` unless `e` itself is among the events. -/
def markAsDone (l : Ledger) (e : Event) : List Event → Ledger
  | [] => l.done e
  | v :: vs => if v.ptr = e.ptr then l else markAsDone l e vs

theorem markAsDone_eq (l : Ledger) (e : Event) (evs : List Event) :
    markAsDone l e evs = if e.ptr ∈ evs.map Event.ptr then l else l.done e := by
  induction evs with
  | nil => simp [markAsDone]
  | cons v vs ih =>
    by_cases h : v.ptr = e.ptr
    · simp [markAsDone, h]
    · simp [markAsDone, h, ih, Ne.symm h]

/-- What `starlark.Call(thread, process, event)` gave: a runtime failure's text or a value. -/
abbrev CallResult := Except String StarValue

/-- `e` as forwarded on a failure: the error stacked, the failure tag added. -/
def failedEvent (e : Event) (err : String) : Event :=
  (e.stackError ("exec failed: " ++ err)).addTag "::starlark_processing_failed"

/-- One iteration of `Run` for input `e` when `process(e)` gave `r`. -/
def step (s : Stage) (e : Event) (r : CallResult) : Stage :=
  match r with
  | .error err => { s with out := s.out ++ [failedEvent e err], observed := s.observed ++ [.failed] }
  | .ok v =>
    match unpack v with
    | .error err => { s with out := s.out ++ [failedEvent e err], observed := s.observed ++ [.failed] }
    | .ok events =>
      { ledger := markAsDone s.ledger e events, out := s.out ++ events,
        observed := s.observed ++ [.accepted] }

/-- `Run` over an input stream, each event with the outcome of its call. -/
def run (s : Stage) (input : List (Event × CallResult)) : Stage :=
  input.foldl (fun s p => step s p.1 p.2) s

/-- The events `Run` sends for `e` when `process(e)` gave `r`. -/
def sentOf (e : Event) (r : CallResult) : List Event :=
  match r with
  | .error err => [failedEvent e err]
  | .ok v =>
    match unpack v with
    | .error err => [failedEvent e err]
    | .ok events => events

/-- The step sends `sentOf e r`, and calls `Done` on `e` exactly when `e` is not sent. -/
theorem step_out (s : Stage) (e : Event) (r : CallResult) :
    (step s e r).out = s.out ++ sentOf e r := by
  cases r with
  | error err => rfl
  | ok v => cases h : unpack v <;> simp [step, sentOf, h]

theorem step_ledger (s : Stage) (e : Event) (r : CallResult) :
    (step s e r).ledger =
      if e.ptr ∈ (sentOf e r).map Event.ptr then s.ledger else s.ledger.done e := by
  cases r with
  | error err => simp [step, sentOf, failedEvent]
  | ok v => cases h : unpack v <;> simp [step, sentOf, h, failedEvent, markAsDone_eq]

/-- On the failure paths the step sends `e` alone; otherwise the flattened result. -/
theorem sentOf_cases (e : Event) (r : CallResult) :
    (∃ err, sentOf e r = [failedEvent e err]) ∨
      ∃ v, r = .ok v ∧ unpack v = .ok (sentOf e r) := by
  cases r with
  | error err => exact .inl ⟨err, rfl⟩
  | ok v =>
    cases h : unpack v with
    | error err => exact .inl ⟨err, by simp [sentOf, h]⟩
    | ok evs => exact .inr ⟨v, rfl, by simp [sentOf, h]⟩

/-! ## Duty accounting -/

/-- One step moves the duty of a group `g` by the references to `g` it sends minus
    the one it consumes, when no object is sent twice and, besides `e` itself, no
    event of `g` is sent. -/
theorem step_duty (s : Stage) (e : Event) (r : CallResult) (g : Nat)
    (hnd : ((sentOf e r).map Event.ptr).Nodup)
    (hg : ∀ x ∈ sentOf e r, x.dutyRef = g → x.ptr = e.ptr)
    (hp : ∀ x ∈ sentOf e r, x.ptr = e.ptr → x.dutyRef = e.dutyRef) :
    (step s e r).ledger.duty g =
      s.ledger.duty g - (if e.dutyRef = g then 1 else 0) + refsTo g (sentOf e r) := by
  rw [step_ledger, refsTo_of_unique hnd hg hp]
  by_cases hm : e.ptr ∈ (sentOf e r).map Event.ptr <;> by_cases hge : e.dutyRef = g
  · simp [hm, hge]
  · simp [hm, hge]
  · subst hge; simp [hm]
  · simp [hm, hge, Ledger.done_duty_of_ne _ _ (Ne.symm hge)]

/-- The starlark step's duty law. For every outcome whose events are `e` itself or
    events of other groups (those the script creates): the step sends the flattened
    result (`e` alone on the failure paths) and calls `Done` on `e` exactly when it
    does not send `e`; when the result holds no object twice, each object is sent at
    most once and the duty of `e`'s group moves from `d` to `d - 1` plus the
    references to it sent. -/
theorem step_duty_law (s : Stage) (e : Event) (r : CallResult)
    (hdom : ∀ v evs, r = .ok v → unpack v = .ok evs →
      ∀ x ∈ evs, (x.ptr = e.ptr ↔ x.dutyRef = e.dutyRef)) :
    (step s e r).out = s.out ++ sentOf e r ∧
    (step s e r).ledger =
      (if e.ptr ∈ (sentOf e r).map Event.ptr then s.ledger else s.ledger.done e) ∧
    ((∀ v evs, r = .ok v → unpack v = .ok evs → (evs.map Event.ptr).Nodup) →
      ((sentOf e r).map Event.ptr).Nodup ∧
      (step s e r).ledger.duty e.dutyRef =
        s.ledger.duty e.dutyRef - 1 + refsTo e.dutyRef (sentOf e r)) := by
  refine ⟨step_out s e r, step_ledger s e r, fun hnodup => ?_⟩
  have hsent : ((sentOf e r).map Event.ptr).Nodup ∧
      ∀ x ∈ sentOf e r, (x.ptr = e.ptr ↔ x.dutyRef = e.dutyRef) := by
    rcases sentOf_cases e r with ⟨err, h⟩ | ⟨v, hv, hu⟩
    · simp [h, failedEvent]
    · exact ⟨hnodup v _ hv hu, hdom v _ hv hu⟩
  refine ⟨hsent.1, ?_⟩
  have := step_duty s e r e.dutyRef hsent.1 (fun x hx => ((hsent.2 x hx).mpr ·))
    (fun x hx => ((hsent.2 x hx).mp ·))
  simpa using this

theorem step_duty_law_mixed :
    (∀ v evs, (.ok (.list [.event testEvent, .event (Event.new 1 "" ⟨0⟩ "new")]) : CallResult) = .ok v →
      unpack v = .ok evs → ∀ x ∈ evs, (x.ptr = testEvent.ptr ↔ x.dutyRef = testEvent.dutyRef)) ∧
    (step ⟨testLedger, [], []⟩ testEvent
        (.ok (.list [.event testEvent, .event (Event.new 1 "" ⟨0⟩ "new")]))).ledger =
      (if testEvent.ptr ∈ (sentOf testEvent
        (.ok (.list [.event testEvent, .event (Event.new 1 "" ⟨0⟩ "new")]))).map Event.ptr
       then testLedger else testLedger.done testEvent) := by
  have hdom : ∀ v evs, (.ok (.list [.event testEvent, .event (Event.new 1 "" ⟨0⟩ "new")]) :
      CallResult) = .ok v → unpack v = .ok evs →
      ∀ x ∈ evs, (x.ptr = testEvent.ptr ↔ x.dutyRef = testEvent.dutyRef) := by
    rintro v evs ⟨⟩ hu
    simp only [unpack, unpackList, Except.ok.injEq] at hu
    subst hu
    simp [testEvent, Event.new]
  exact ⟨hdom, (step_duty_law _ _ _ hdom).2.1⟩

/-- A script returning `[event, event]`: `e` is sent twice, no `Clone` is made, and
    its group's duty (one unit) is not the two references sent. -/
theorem step_event_twice :
    (step ⟨testLedger, [], []⟩ testEvent (.ok (.list [.event testEvent, .event testEvent]))).out =
      [testEvent, testEvent] ∧
    (step ⟨testLedger, [], []⟩ testEvent
        (.ok (.list [.event testEvent, .event testEvent]))).ledger.duty testEvent.dutyRef ≠
      testLedger.duty testEvent.dutyRef - 1 + refsTo testEvent.dutyRef [testEvent, testEvent] := by
  simp [step, unpack, unpackList, markAsDone, testLedger, Ledger.create, Ledger.empty]

/-- A script returning `None`: `unpack` fails, so `e` is forwarded tagged as failed
    and `Done` is not called. -/
theorem step_none (s : Stage) (e : Event) :
    step s e (.ok .none) =
      { s with
        out := s.out ++ [failedEvent e
          "unknown function result, expected event, events list, error or none, got NoneType"],
        observed := s.observed ++ [.failed] } := rfl

/-! ## Whole runs -/

/-- Over a run, a group's duty moves by the references to it sent minus those read,
    when no step sends an object twice or an event of the group other than its input. -/
theorem run_duty (s : Stage) (input : List (Event × CallResult)) (g : Nat)
    (h : ∀ p ∈ input, ((sentOf p.1 p.2).map Event.ptr).Nodup ∧
      (∀ x ∈ sentOf p.1 p.2, x.dutyRef = g → x.ptr = p.1.ptr) ∧
      (∀ x ∈ sentOf p.1 p.2, x.ptr = p.1.ptr → x.dutyRef = p.1.dutyRef)) :
    (run s input).ledger.duty g =
      s.ledger.duty g - refsTo g (input.map Prod.fst) +
        refsTo g (input.flatMap (fun p => sentOf p.1 p.2)) := by
  induction input generalizing s with
  | nil => simp [run]
  | cons p ps ih =>
    obtain ⟨h1, h2, h3⟩ := h p (List.mem_cons_self _ _)
    have hs := step_duty s p.1 p.2 g h1 h2 h3
    have ih' := ih (step s p.1 p.2) (fun q hq => h q (List.mem_cons_of_mem _ hq))
    simp only [run, List.foldl_cons] at ih' ⊢
    rw [ih', hs]
    simp only [List.map_cons, refsTo_cons, List.flatMap_cons, refsTo_append]
    push_cast
    ring

/-! ## Init -/

section init

variable {Program : Type}

/-- `(*Starlark).Init(config, alias, pipeline, log)`, `decoded` being the `code` and
    `file` that `mapstructure.Decode` sets, or its error: the script and its
    `process` function. The loading and compiling steps are the common package's,
    word for word. -/
def init (I : Interp Program) (decoded : Except String (String × String)) (aliasName : String) :
    Except String (Script × StarValue) := do
  let (code, file) ← decoded
  let (file, code) ← loadScript I.readFile aliasName code file
  let s ← compileScript I file code
  let stVal ← match lookup "process" s.globals with
    | none => .error "process(event) function not found in starlark script"
    | some stVal => .ok stVal
  if isFunction stVal then pure (s, stVal) else .error "process is not a function"

/-- The message of a missing `process` the processor writes in place of `Func`'s. -/
def processNotFound (err : String) : String :=
  if err = "process function not found in starlark script" then
    "process(event) function not found in starlark script"
  else err

/-- The processor's `Init` is the common `Init` followed by `Func("process")`, but for
    the text of a missing `process`. -/
theorem init_eq_func (I : Interp Program) (decoded : Except String (String × String))
    (aliasName : String) :
    init I decoded aliasName = (do
      let (code, file) ← decoded
      let s ← Neptunus.Starlark.Starlark.init I aliasName code file
      let f ← (Neptunus.Starlark.Starlark.func s "process").mapError processNotFound
      pure (s, f)) := by
  cases decoded with
  | error err => rfl
  | ok cf =>
    obtain ⟨code, file⟩ := cf
    simp only [init, Neptunus.Starlark.Starlark.init, bind, Except.bind, pure, Except.pure]
    rcases loadScript I.readFile aliasName code file with err | ⟨f, c⟩
    · rfl
    · dsimp only
      rcases compileScript I f c with err | s
      · rfl
      · simp only [Neptunus.Starlark.Starlark.func, Except.mapError]
        cases lookup "process" s.globals with
        | none => simp [processNotFound]
        | some v => by_cases hv : isFunction v <;> simp [hv, processNotFound]

end init

end Neptunus.Processors.Starlark
