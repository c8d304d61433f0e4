import Neptunus.Starlark.Bindings

/-!
  Neptunus.Starlark.Methods

  The event methods a Starlark script calls (`bindings.go`): the builtins bound to an
  event, the read-only table `roEventMethods`, the write table `woEventMethods`, and
  `rwEventMethods`, the union `init` copies together.

  Every builtin but `getId` and `getRK` checks its arguments with
  `starlark.UnpackPositionalArgs`: no keyword arguments, the exact number of
  positional ones, a `String` for each `string` variable. A refused call changes
  nothing and its error names the method as the table lists it, while `getId` and
  `getRK`, whose checks are commented out, accept any call (`eventMethods_errors`).

  Verdicts. Over any sequence of calls a script makes, the read-only table leaves the
  event as it was, and the full table never writes the event's object, duty group,
  timestamp or error stack (`runCalls_untouched`). A value a script writes with
  `setField` it reads back with `getField` under the same path; a write the path
  engine refuses is returned as an `Error` value, with the event unchanged
  (`setField_getField_roundtrip`).
-/

namespace Neptunus.Starlark

open Neptunus.Core

/-! ## Unpacking arguments -/

/-- A variable `UnpackPositionalArgs` fills, by its Go type. -/
inductive Param where
  /-- A `*string`: only a `String` unpacks into it. -/
  | string
  /-- A `*starlark.Value`: every value does. -/
  | value

/-- Whether `unpackOneArg` stores the value in a variable of this kind. -/
def Param.accepts : Param → StarValue → Bool
  | .string, .string _ => true
  | .string, _ => false
  | .value, _ => true

/-- Why `UnpackPositionalArgs` refused a call. -/
inductive UnpackError where
  /-- Keyword arguments were passed. -/
  | unexpectedKeywords
  /-- `got` positional arguments where `want` are expected. -/
  | arity (got want : Nat)
  /-- Parameter `index` (counted from 1) got a value of type `got` where a `string` is
      expected. -/
  | paramType (index : Nat) (got : String)

/-- The errors a builtin fails the script with: an argument check of the builtin
    `fnname`, or a conversion of `bindings.go`. -/
inductive MethodError where
  | unpack (fnname : String) (err : UnpackError)
  | bind (err : BindError)

/-- The loop of `UnpackPositionalArgs`: `unpackOneArg(arg, vars[i])` for each argument,
    parameter `i` counted from 1. -/
def unpackArgs (fnname : String) : Nat → List StarValue → List Param → Except MethodError Unit
  | i, a :: args, p :: vars =>
    if p.accepts a then unpackArgs fnname (i + 1) args vars
    else .error (.unpack fnname (.paramType i a.type))
  | _, _, _ => .ok ()

/-- `starlark.UnpackPositionalArgs(fnname, args, kwargs, min, vars...)`. -/
def unpackPositionalArgs (fnname : String) (args : List StarValue)
    (kwargs : List (String × StarValue)) (min : Nat) (vars : List Param) : Except MethodError Unit :=
  if !kwargs.isEmpty then .error (.unpack fnname .unexpectedKeywords)
  else if args.length < min then .error (.unpack fnname (.arity args.length min))
  else if vars.length < args.length then .error (.unpack fnname (.arity args.length vars.length))
  else unpackArgs fnname 1 args vars

/-- The `string` variable `i` after a successful unpack (`""`, its zero value, when the
    call passed no argument there). -/
def strArg (args : List StarValue) (i : Nat) : String :=
  match args[i]? with
  | some (.string s) => s
  | _ => ""

/-- A refused unpack names the builtin it was called for. -/
theorem unpackArgs_error {fnname : String} :
    ∀ {i : Nat} {args : List StarValue} {vars : List Param} {err : MethodError},
      unpackArgs fnname i args vars = .error err → ∃ u, err = .unpack fnname u
  | _, _ :: _, _ :: _, _, h => by
    simp only [unpackArgs] at h
    split at h
    · exact unpackArgs_error h
    · cases h
      exact ⟨_, rfl⟩
  | _, [], _, _, h | _, _ :: _, [], _, h => by cases h

theorem unpackPositionalArgs_error {fnname : String} {args : List StarValue}
    {kwargs : List (String × StarValue)} {min : Nat} {vars : List Param} {err : MethodError}
    (h : unpackPositionalArgs fnname args kwargs min vars = .error err) :
    ∃ u, err = .unpack fnname u := by
  simp only [unpackPositionalArgs] at h
  split_ifs at h
  all_goals first | exact unpackArgs_error h | (cases h; exact ⟨_, rfl⟩)

/-! ## The builtins -/

/-- A builtin bound to an event: the receiver, the positional and the keyword
    arguments give the receiver after the call and the call's result. -/
abbrev Builtin :=
  Event → List StarValue → List (String × StarValue) → Event × Except MethodError StarValue

/-- The prologue of every builtin that checks its arguments,
    `if err := starlark.UnpackPositionalArgs(b.Name(), args, kwargs, min, vars...); err != nil`
    returning `None, err`, then the body on the unpacked arguments. -/
def withArgs (fnname : String) (min : Nat) (vars : List Param)
    (body : Event → List StarValue → Event × Except MethodError StarValue) : Builtin :=
  fun e args kwargs =>
    match unpackPositionalArgs fnname args kwargs min vars with
    | .error err => (e, .error err)
    | .ok () => body e args

/-- `getId`: its argument checks are commented out. -/
def getId : Builtin := fun e _ _ => (e, .ok (.string e.id))

/-- `getRoutingKey`, listed as `getRK`: its argument checks are commented out. -/
def getRoutingKey : Builtin := fun e _ _ => (e, .ok (.string e.routingKey))

/-- The builtins that unpack one `string`, apply an event method to it and return
    `None`. -/
def stringSetter (fnname : String) (f : Event → String → Event) : Builtin :=
  withArgs fnname 1 [.string] fun e args => (f e (strArg args 0), .ok .none)

/-- The builtins that unpack one `string` and return a read of the event. -/
def stringGetter (fnname : String) (f : Event → String → Except MethodError StarValue) : Builtin :=
  withArgs fnname 1 [.string] fun e args => (e, f e (strArg args 0))

def setId : Builtin := stringSetter "setId" fun e id => { e with id := id }

/-- `setRoutingKey`, listed as `setRK`. -/
def setRoutingKey : Builtin := stringSetter "setRK" fun e rk => { e with routingKey := rk }

def delLabel : Builtin := stringSetter "delLabel" Event.deleteLabel

/-- `delField`: the result of `DeleteField` is dropped. -/
def delField : Builtin := stringSetter "delField" fun e key => (e.deleteField key).1

def addTag : Builtin := stringSetter "addTag" Event.addTag

def delTag : Builtin := stringSetter "delTag" Event.deleteTag

/-- `getLabel`: the label, or `None` when there is none. -/
def getLabel : Builtin := stringGetter "getLabel" fun e key =>
  match e.getLabel key with
  | some label => .ok (.string label)
  | none => .ok .none

/-- `getField`: `None` when the path finds nothing, else the value converted. -/
def getField : Builtin := stringGetter "getField" fun e key =>
  match e.getField key with
  | .error _ => .ok .none
  | .ok value => (toStarlarkValue value).mapError .bind

def hasTag : Builtin := stringGetter "hasTag" fun e tag => .ok (.bool (e.hasTag tag))

def addLabel : Builtin :=
  withArgs "addLabel" 2 [.string, .string] fun e args =>
    (e.setLabel (strArg args 0) (strArg args 1), .ok .none)

section Tables

-- The text `err.Error()` of a path engine error.
variable (errText : PathError → String)

/-- `setField`: a value with no payload counterpart fails the script; a write the
    path engine refuses is returned as `Error(err.Error())`. -/
def setField : Builtin :=
  withArgs "setField" 2 [.string, .value] fun e args =>
    match toGoValue (args.getD 1 .none) with
    | .error err => (e, .error (.bind err))
    | .ok goValue =>
      match e.setField (strArg args 0) goValue with
      | (e', some err) => (e', .ok (.error (errText err)))
      | (e', none) => (e', .ok .none)

def roEventMethods : List (String × Builtin) :=
  [("getId", getId), ("getRK", getRoutingKey), ("getLabel", getLabel), ("getField", getField),
    ("hasTag", hasTag)]

def woEventMethods : List (String × Builtin) :=
  [("setId", setId), ("setRK", setRoutingKey), ("addLabel", addLabel), ("delLabel", delLabel),
    ("setField", setField errText), ("delField", delField), ("addTag", addTag), ("delTag", delTag)]

/-- `maps.Copy(dst, src)`: every entry of `src` written into `dst`. -/
def copyInto {α : Type} (dst src : List (String × α)) : List (String × α) :=
  src.foldl (fun m kv => insert kv.1 kv.2 m) dst

/-- `rwEventMethods` after `init`. -/
def rwEventMethods : List (String × Builtin) :=
  copyInto (copyInto [] roEventMethods) (woEventMethods errText)

/-- The two tables name disjoint methods, so their union keeps both. -/
theorem rwEventMethods_eq : rwEventMethods errText = roEventMethods ++ woEventMethods errText := by
  have hnd : ((roEventMethods ++ woEventMethods errText).map Prod.fst).Nodup := by
    simp only [roEventMethods, woEventMethods, List.cons_append, List.nil_append, List.map_cons,
      List.map_nil]
    decide
  have hro : (([] ++ roEventMethods).map Prod.fst).Nodup :=
    hnd.sublist ((List.sublist_append_left _ _).map _)
  rw [rwEventMethods, copyInto, copyInto, foldl_insert_fresh [] roEventMethods hro, List.nil_append,
    foldl_insert_fresh _ _ hnd]

end Tables

/-! ## Failed calls -/

/-- A builtin that checks its arguments under `fnname`: a failed call leaves the
    receiver as it was and is an argument check under that name or a conversion, and a
    call with keyword arguments is refused. -/
def Checked (fnname : String) (b : Builtin) : Prop :=
  ∀ e args kwargs,
    (∀ err, (b e args kwargs).2 = .error err →
      (b e args kwargs).1 = e ∧ ((∃ u, err = .unpack fnname u) ∨ ∃ be, err = .bind be)) ∧
    (kwargs ≠ [] → b e args kwargs = (e, .error (.unpack fnname .unexpectedKeywords)))

/-- The prologue makes a builtin `Checked` when its body fails only by a conversion,
    leaving the receiver as it was. -/
theorem withArgs_checked {fnname : String} {min : Nat} {vars : List Param}
    {body : Event → List StarValue → Event × Except MethodError StarValue}
    (hbody : ∀ e args err, (body e args).2 = .error err → (body e args).1 = e ∧ ∃ b, err = .bind b) :
    Checked fnname (withArgs fnname min vars body) := by
  intro e args kwargs
  constructor
  · intro err h
    unfold withArgs at h ⊢
    split at h
    · rename_i hu
      cases h
      exact ⟨rfl, .inl (unpackPositionalArgs_error hu)⟩
    · obtain ⟨h1, h2⟩ := hbody e args err h
      exact ⟨h1, .inr h2⟩
  · intro h
    obtain ⟨kw, kws, rfl⟩ := List.exists_cons_of_ne_nil h
    rfl

theorem stringSetter_checked (fnname : String) (f : Event → String → Event) :
    Checked fnname (stringSetter fnname f) :=
  withArgs_checked fun _ _ _ h => by cases h

theorem stringGetter_checked {fnname : String} {f : Event → String → Except MethodError StarValue}
    (hf : ∀ e s err, f e s = .error err → ∃ b, err = .bind b) :
    Checked fnname (stringGetter fnname f) :=
  withArgs_checked fun e _ err h => ⟨rfl, hf e _ err h⟩

/-- Every method but `getId` and `getRK` is `Checked` under the name the table lists
    it by; those two answer every call. -/
theorem eventMethods_checked (errText : PathError → String) :
    ∀ nb ∈ rwEventMethods errText, Checked nb.1 nb.2 ∨
      ((nb.1 = "getId" ∨ nb.1 = "getRK") ∧ ∀ e args kwargs, ∃ v, nb.2 e args kwargs = (e, .ok v)) := by
  rw [rwEventMethods_eq, List.forall_mem_append]
  constructor
  · simp only [roEventMethods, List.mem_cons, List.mem_singleton, List.not_mem_nil, or_false]
    rintro _ (rfl | rfl | rfl | rfl | rfl)
    · exact .inr ⟨.inl rfl, fun _ _ _ => ⟨_, rfl⟩⟩
    · exact .inr ⟨.inr rfl, fun _ _ _ => ⟨_, rfl⟩⟩
    · refine .inl (stringGetter_checked fun e s err h => ?_)
      split at h <;> cases h
    · refine .inl (stringGetter_checked fun e s err h => ?_)
      split at h
      · cases h
      · rename_i value _
        cases hv : toStarlarkValue value <;> simp only [hv, Except.mapError] at h <;> cases h
        exact ⟨_, rfl⟩
    · exact .inl (stringGetter_checked fun _ _ _ h => by cases h)
  · simp only [woEventMethods, List.mem_cons, List.mem_singleton, List.not_mem_nil, or_false]
    rintro _ (rfl | rfl | rfl | rfl | rfl | rfl | rfl | rfl)
    case inr.inr.inr.inr.inl =>
      refine .inl (withArgs_checked fun e _ err h => ?_)
      dsimp only at h ⊢
      split at h
      · cases h
        exact ⟨rfl, _, rfl⟩
      · split at h <;> cases h
    case inr.inr.inl => exact .inl (withArgs_checked fun _ _ _ h => by cases h)
    all_goals exact .inl (stringSetter_checked _ _)

/-! ## Fields through a script -/

/-- `setField(k, v)` as a script calls it. -/
theorem setField_call (errText : PathError → String) (e : Event) (k : String) (v : StarValue) :
    setField errText e [.string k, v] [] =
      match toGoValue v with
      | .error err => (e, .error (.bind err))
      | .ok goValue =>
        match e.setField k goValue with
        | (e', some err) => (e', .ok (.error (errText err)))
        | (e', none) => (e', .ok .none) :=
  rfl

/-- `getField(k)` as a script calls it. -/
theorem getField_call (e : Event) (k : String) :
    getField e [.string k] [] =
      (e, match e.getField k with
        | .error _ => .ok .none
        | .ok value => (toStarlarkValue value).mapError .bind) :=
  rfl

/-- For every event, path and Starlark value the bindings represent: `setField(k, v)`
    never fails the script; either it returns `None` and a later `getField(k)` returns
    `v`, or the path engine refused the write and it returns `Error(err.Error())` with
    the event unchanged. -/
theorem setField_getField_roundtrip (errText : PathError → String) (e : Event) (k : String)
    (v : StarValue) (hv : StarRepresentable v) :
    (∃ e', setField errText e [.string k, v] [] = (e', .ok .none) ∧
        getField e' [.string k] [] = (e', .ok v)) ∨
      ∃ err, setField errText e [.string k, v] [] = (e, .ok (.error (errText err))) := by
  obtain ⟨g, hg, hs⟩ := toStarlarkValue_toGoValue v hv
  rw [setField_call, hg]
  dsimp only [Event.setField]
  cases hp : putInPayload e.data k g with
  | error err => exact .inr ⟨err, rfl⟩
  | ok d =>
    refine .inl ⟨_, rfl, ?_⟩
    have hf : findInPayload d k = .ok g := findIn_putIn _ _ _ _ hp
    simp [getField_call, Event.getField, hf, hs, Except.mapError]

/-- Writing `5` under `n` into a new event. -/
theorem setField_getField_roundtrip_int :
    StarRepresentable (.int 5) ∧
    ((∃ e', setField (fun _ => "") (Event.new 0 "" ⟨0⟩ "") [.string "n", .int 5] [] = (e', .ok .none) ∧
        getField e' [.string "n"] [] = (e', .ok (.int 5))) ∨
      ∃ _ : PathError, setField (fun _ => "") (Event.new 0 "" ⟨0⟩ "") [.string "n", .int 5] [] =
        (Event.new 0 "" ⟨0⟩ "", .ok (.error ""))) :=
  have h : StarRepresentable (.int 5) := ⟨by decide, by decide⟩
  ⟨h, setField_getField_roundtrip (fun _ => "") _ "n" (.int 5) h⟩

/-! ## What a call writes -/

/-- The part of an event no method writes: the object, its duty group, its timestamp
    and its error stack. -/
def untouched (e : Event) : Nat × Nat × Instant × List String :=
  (e.ptr, e.dutyRef, e.timestamp, e.errors)

theorem withArgs_keeps {β : Type} (g : Event → β) {fnname : String} {min : Nat} {vars : List Param}
    {body : Event → List StarValue → Event × Except MethodError StarValue}
    (hbody : ∀ e args, g (body e args).1 = g e) (e : Event) (args : List StarValue)
    (kwargs : List (String × StarValue)) :
    g (withArgs fnname min vars body e args kwargs).1 = g e := by
  unfold withArgs
  split
  · rfl
  · exact hbody e args

/-- The read-only methods return their receiver as it was. -/
theorem roEventMethods_fst : ∀ nb ∈ roEventMethods, ∀ e args kwargs, (nb.2 e args kwargs).1 = e := by
  simp only [roEventMethods, List.mem_cons, List.mem_singleton, List.not_mem_nil, or_false]
  rintro _ (rfl | rfl | rfl | rfl | rfl) e args kwargs
  all_goals first | rfl | exact withArgs_keeps id (fun _ _ => rfl) e args kwargs

theorem addTag_untouched (e : Event) (tag : String) : untouched (e.addTag tag) = untouched e := by
  unfold Event.addTag
  split <;> rfl

theorem setField_untouched (e : Event) (k : String) (v : Value) :
    untouched (e.setField k v).1 = untouched e := by
  unfold Event.setField
  split <;> rfl

theorem deleteField_untouched (e : Event) (k : String) : untouched (e.deleteField k).1 = untouched e := by
  unfold Event.deleteField
  split <;> rfl

/-- No method writes the object, the duty group, the timestamp or the error stack. -/
theorem rwEventMethods_untouched (errText : PathError → String) :
    ∀ nb ∈ rwEventMethods errText, ∀ e args kwargs,
      untouched (nb.2 e args kwargs).1 = untouched e := by
  rw [rwEventMethods_eq, List.forall_mem_append]
  refine ⟨fun nb h e args kwargs => by rw [roEventMethods_fst nb h], ?_⟩
  simp only [woEventMethods, List.mem_cons, List.mem_singleton, List.not_mem_nil, or_false]
  rintro _ (rfl | rfl | rfl | rfl | rfl | rfl | rfl | rfl) e args kwargs
  case inr.inr.inr.inr.inl =>
    refine withArgs_keeps untouched (fun e args => ?_) e args kwargs
    dsimp only
    split
    · rfl
    · rename_i goValue _
      have h := setField_untouched e (strArg args 0) goValue
      split <;> simp_all
  case inr.inr.inr.inr.inr.inr.inl =>
    exact withArgs_keeps untouched (fun e _ => addTag_untouched e _) e args kwargs
  case inr.inr.inr.inr.inr.inl =>
    exact withArgs_keeps untouched (fun e _ => deleteField_untouched e _) e args kwargs
  all_goals exact withArgs_keeps untouched (fun _ _ => rfl) e args kwargs

/-! ## Scripts -/

/-- A method call a script makes on an event: the attribute and the arguments. -/
structure Call where
  name : String
  args : List StarValue
  kwargs : List (String × StarValue)

/-- A script's calls on one event, in order, each dispatched through the table the
    event exposes: a name the table lacks, or a call that fails, ends the script with
    the event as the calls before left it. A script picks each call from the results
    of the ones before; whatever it computes, its calls form one such list. -/
def runCalls (table : List (String × Builtin)) : Event → List Call → Event
  | e, [] => e
  | e, c :: cs =>
    match lookup c.name table with
    | none => e
    | some b =>
      match b e c.args c.kwargs with
      | (e', .error _) => e'
      | (e', .ok _) => runCalls table e' cs

/-- What every method of a table keeps, every run of calls keeps. -/
theorem runCalls_invariant {β : Type} (g : Event → β) {table : List (String × Builtin)}
    (h : ∀ nb ∈ table, ∀ e args kwargs, g (nb.2 e args kwargs).1 = g e) :
    ∀ e cs, g (runCalls table e cs) = g e
  | e, [] => rfl
  | e, c :: cs => by
    simp only [runCalls]
    cases hl : lookup c.name table with
    | none => rfl
    | some b =>
      have hb : g (b e c.args c.kwargs).1 = g e := h _ (mem_of_lookup_eq_some hl) e c.args c.kwargs
      dsimp only
      split
      · rename_i hc
        simpa [hc] using hb
      · rename_i hc
        rw [runCalls_invariant g h _ cs, ← hb, hc]

/-- For every sequence of calls a script makes: through the read-only table the event
    comes back as it was, and through the full table its object, duty group, timestamp
    and error stack do. -/
theorem runCalls_untouched (errText : PathError → String) (e : Event) (cs : List Call) :
    runCalls roEventMethods e cs = e ∧
      untouched (runCalls (rwEventMethods errText) e cs) = untouched e :=
  ⟨runCalls_invariant id roEventMethods_fst e cs,
    runCalls_invariant untouched (rwEventMethods_untouched errText) e cs⟩

end Neptunus.Starlark
