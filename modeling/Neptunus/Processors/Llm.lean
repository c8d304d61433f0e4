import Neptunus.Core.Event
import Neptunus.Go.Strings

/-!
  Neptunus.Processors.Llm

  The llm processor's `Run` loop (`plugins/processors/llm/llm.go`): for each input
  event it reads the prompt from a payload field, calls the model, labels the event
  with the prompts and the reply, and writes the reply (or, in JSON mode, one key of
  it) into a payload field; every failure goes through `handleError`, which stacks
  the error on the event and sends it.

  The model client's `GenerateContent` (the `k`-th event's call gets
  `GenerateContent k`), `json.Unmarshal` into a map, `json.Marshal`,
  `fmt.Sprintf("%v", v)` and the texts of the payload errors are parameters (`Lib`).
  The `[]byte` `json.Marshal` returns is written into the payload as it is.

  Every path of an iteration ends in exactly one send, the final `p.Out <- e` or
  the one in `handleError`, each followed by `continue`, and `Done` is never
  called: over a whole run the events sent are the events read, one to one and in
  order, each with at most one error more (`run_sends_each_once`).

  `FlattenMap` descends the values that are `map[string]interface{}` and writes every
  other value, a nested `core.Map` included, whole under the keys of its path joined
  with dots. Two paths meet on one key when a key itself holds a dot
  (`{"a.b": 1, "a": {"b": 2}}`), and the iteration order then decides which leaf is
  kept (`flattenMap_dotted_keys`). When no key the flattening descends holds a dot,
  it has exactly one entry per leaf, under its path's key (`flattenMap_leaves`), and
  each key, read back as a payload path, finds its leaf in the map
  (`flattenMap_keys_find`).
-/

namespace Neptunus.Processors.Llm

open Neptunus.Core Neptunus.Go

/-- The processor's settings `Run` reads. -/
structure LLM where
  PromptFrom : String
  ResponseTo : String
  SystemPrompt : String
  JSONMode : Bool
  JSONModeGetKey : String

/-- A choice of a completion: its text and its generation info (`map[string]any`). -/
structure Choice where
  Content : String
  GenerationInfo : Value

/-- The library calls of `Run`. `GenerateContent k system prompt` is the `k`-th
    event's call: an error, a nil completion (`none`), or the completion's choices. -/
structure Lib where
  GenerateContent : Nat → String → String → Except String (Option (List Choice))
  Unmarshal : String → Except String (List (String × Value))
  Marshal : Value → Except String (List UInt8)
  formatV : Value → String
  pathError : PathError → String

/-- `toString(value)`: a string as it is, anything else by `%v` (a `fmt.Stringer`
    prints through `String()` under `%v` too). It never fails. -/
def toString (lib : Lib) (value : Value) : Except String String :=
  match value with
  | .string v => .ok v
  | v => .ok (lib.formatV v)

/-- `GetJSONData(s)`: the reply without a markdown fence, decoded into a map. -/
def getJSONData (lib : Lib) (s : String) : Except String (List (String × Value)) :=
  lib.Unmarshal (trimSuffix (trimPrefix s "```json") "```")

/-! ## One iteration -/

/-- `handleError(e, now, err)`: the error stacked on `e`, `e` sent, `EventFailed`
    observed. -/
def handleError (s : Stage) (e : Event) (err : String) : Stage :=
  { s with out := s.out ++ [e.stackError err], observed := s.observed ++ [.failed] }

/-- The end of a successful iteration: `e` sent and `EventAccepted` observed. -/
def accept (s : Stage) (e : Event) : Stage :=
  { s with out := s.out ++ [e], observed := s.observed ++ [.accepted] }

/-- The prompt of an event: the `PromptFrom` field as a string, trimmed, not empty. -/
def prompt (p : LLM) (lib : Lib) (e : Event) : Except String String :=
  match e.getField p.PromptFrom with
  | .error err => .error ("failed to get prompt field '" ++ p.PromptFrom ++ "': " ++ lib.pathError err)
  | .ok fieldValue =>
    match toString lib fieldValue with
    | .error err => .error ("failed to convert prompt field to string: " ++ err)
    | .ok prompt =>
      if trimSpace prompt = "" then .error "prompt is empty" else .ok (trimSpace prompt)

/-- `e.SetField(path, v)`, its error as `msg` with the path and the cause. -/
def setResponse (lib : Lib) (e : Event) (path : String) (v : Value) (msg : String) :
    Event × Option String :=
  match e.setField path v with
  | (e, none) => (e, none)
  | (e, some err) => (e, some (msg ++ " '" ++ path ++ "': " ++ lib.pathError err))

/-- The reply written into the labelled event: the event and the error to handle,
    `none` when the event goes out as processed. When the JSON key is missing, `{}`
    is written (its error only logged) and the missing key handled as an error. -/
def respond (p : LLM) (lib : Lib) (e : Event) (content : String) : Event × Option String :=
  if p.JSONMode then
    let data := trimSuffix (trimPrefix content "```json") "```"
    if p.JSONModeGetKey ≠ "" then
      match getJSONData lib data with
      | .error err => (e, some ("llm failed to parse ouput JSON data: " ++ err))
      | .ok it =>
        match lookup p.JSONModeGetKey it with
        | some out =>
          match lib.Marshal out with
          | .error err =>
            (e, some ("llm failed to marshal ouput JSON value '" ++ p.ResponseTo ++ "': " ++ err))
          | .ok bData => setResponse lib e p.ResponseTo (.bytes bData) "llm failed to set response field"
        | none =>
          ((e.setField p.ResponseTo (.string "{}")).1,
            some ("llm failed to get JSON key " ++ p.JSONModeGetKey))
    else setResponse lib e p.ResponseTo (.string data) "llm failed to set response field"
  else setResponse lib e p.ResponseTo (.string content) "failed to set response field"

/-- The labels the reply adds: both prompts, the reply, and the generation info. -/
def labelled (p : LLM) (lib : Lib) (e : Event) (prompt content : String) (info : Value) : Event :=
  let e := ((e.setLabel "SystemPrompt" p.SystemPrompt).setLabel "UserPrompt" prompt).setLabel
    "Response" content
  match toString lib info with
  | .ok info => e.setLabel "GenerationInfo" info
  | .error _ => e

/-- One iteration of `for e := range p.In`, the event being the `k`-th. -/
def step (p : LLM) (lib : Lib) (k : Nat) (s : Stage) (e : Event) : Stage :=
  match prompt p lib e with
  | .error err => handleError s e err
  | .ok prompt =>
    match lib.GenerateContent k p.SystemPrompt prompt with
    | .error err => handleError s e ("LLM API call failed: " ++ err)
    | .ok none => handleError s e "no completion data"
    | .ok (some []) => handleError s e "no completion data"
    | .ok (some (choice :: _)) =>
      let content := trimSpace choice.Content
      match respond p lib (labelled p lib e prompt content choice.GenerationInfo) content with
      | (e, some err) => handleError s e err
      | (e, none) => accept s e

/-- `Run` over the events read, the first being the `k`-th. -/
def run (p : LLM) (lib : Lib) : Nat → Stage → List Event → Stage
  | _, s, [] => s
  | k, s, e :: rest => run p lib (k + 1) (step p lib k s e) rest

/-! ## Each event sent once -/

/-- What `Run` never changes in an event: its object, its duty group and its errors. -/
def Keeps (e e' : Event) : Prop := e'.ptr = e.ptr ∧ e'.dutyRef = e.dutyRef ∧ e'.errors = e.errors

/-- How an event read is sent: the same object in the same group, with its errors
    and at most one more. -/
def SentAs (e e' : Event) : Prop :=
  e'.ptr = e.ptr ∧ e'.dutyRef = e.dutyRef ∧ (e'.errors = e.errors ∨ ∃ err, e'.errors = e.errors ++ [err])

theorem Keeps.refl (e : Event) : Keeps e e := ⟨rfl, rfl, rfl⟩

theorem Keeps.setLabel {e e' : Event} (h : Keeps e e') (k v : String) : Keeps e (e'.setLabel k v) := h

theorem Keeps.setField {e e' : Event} (h : Keeps e e') (k : String) (v : Value) :
    Keeps e (e'.setField k v).1 := by
  obtain ⟨h1, h2, h3⟩ := Event.setField_keeps e' k v
  exact ⟨h1.trans h.1, h2.trans h.2.1, h3.trans h.2.2⟩

theorem Keeps.sentAs {e e' : Event} (h : Keeps e e') : SentAs e e' := ⟨h.1, h.2.1, .inl h.2.2⟩

theorem Keeps.stackError {e e' : Event} (h : Keeps e e') (err : String) :
    SentAs e (e'.stackError err) := ⟨h.1, h.2.1, .inr ⟨err, by simp [Event.stackError, h.2.2]⟩⟩

theorem setResponse_keeps (lib : Lib) {e e' : Event} (h : Keeps e e') (path : String) (v : Value)
    (msg : String) : Keeps e (setResponse lib e' path v msg).1 := by
  unfold setResponse
  split <;> (rename_i heq; rw [← congrArg Prod.fst heq]; exact h.setField path v)

theorem respond_keeps (p : LLM) (lib : Lib) {e e' : Event} (h : Keeps e e') (content : String) :
    Keeps e (respond p lib e' content).1 := by
  unfold respond
  split_ifs
  · dsimp only
    split
    · exact h
    · split
      · split
        · exact h
        · exact setResponse_keeps lib h _ _ _
      · exact h.setField _ _
  · exact setResponse_keeps lib h _ _ _
  · exact setResponse_keeps lib h _ _ _

theorem labelled_keeps (p : LLM) (lib : Lib) (e : Event) (prompt content : String) (info : Value) :
    Keeps e (labelled p lib e prompt content info) := by
  have h := (((Keeps.refl e).setLabel "SystemPrompt" p.SystemPrompt).setLabel "UserPrompt"
    prompt).setLabel "Response" content
  unfold labelled
  split
  · exact h.setLabel _ _
  · exact h

/-- An iteration sends one event, `e` with at most one error more, observes one
    status, and leaves the duty counters alone. -/
theorem step_sends (p : LLM) (lib : Lib) (k : Nat) (s : Stage) (e : Event) :
    ∃ e' status, step p lib k s e = ⟨s.ledger, s.out ++ [e'], s.observed ++ [status]⟩ ∧ SentAs e e' := by
  unfold step
  cases prompt p lib e with
  | error err => exact ⟨_, _, rfl, (Keeps.refl e).stackError _⟩
  | ok prompt =>
    dsimp only
    cases lib.GenerateContent k p.SystemPrompt prompt with
    | error err => exact ⟨_, _, rfl, (Keeps.refl e).stackError _⟩
    | ok completion =>
      rcases completion with _ | _ | ⟨choice, _⟩
      · exact ⟨_, _, rfl, (Keeps.refl e).stackError _⟩
      · exact ⟨_, _, rfl, (Keeps.refl e).stackError _⟩
      · have hk := respond_keeps p lib (labelled_keeps p lib e prompt (trimSpace choice.Content)
          choice.GenerationInfo) (trimSpace choice.Content)
        dsimp only
        generalize respond p lib (labelled p lib e prompt (trimSpace choice.Content)
          choice.GenerationInfo) (trimSpace choice.Content) = r at hk ⊢
        obtain ⟨e', _ | err⟩ := r
        · exact ⟨_, _, rfl, hk.sentAs⟩
        · exact ⟨_, _, rfl, hk.stackError _⟩

/-- Over a whole run, the events sent are the events read, one to one and in order,
    each the same object in the same group with at most one error more, and `Done` is
    never called. -/
theorem run_sends_each_once (p : LLM) (lib : Lib) :
    ∀ (k : Nat) (s : Stage) (input : List Event), ∃ sent,
      (run p lib k s input).out = s.out ++ sent ∧ (run p lib k s input).ledger = s.ledger ∧
      List.Forall₂ SentAs input sent
  | _, s, [] => ⟨[], by simp [run]⟩
  | k, s, e :: rest => by
    obtain ⟨e', status, hstep, he'⟩ := step_sends p lib k s e
    obtain ⟨sent, hout, hledger, hrest⟩ := run_sends_each_once p lib (k + 1) (step p lib k s e) rest
    refine ⟨e' :: sent, ?_, ?_, .cons he' hrest⟩
    · rw [run, hout, hstep]
      simp
    · rw [run, hledger, hstep]

/-! ## FlattenMap -/

mutual

/-- One entry `k: v` of `FlattenMap`'s loop, written into `flat`: when `v` is a
    `map[string]interface{}`, its own flattening under `k.kk`; any other value, a
    `core.Map` included, under `k`. -/
def flattenEntry (flat : List (String × Value)) (k : String) : Value → List (String × Value)
  | .map .any vm => (flattenLoop [] vm).foldl (fun flat kv => insert (k ++ "." ++ kv.1) kv.2 flat) flat
  | v => insert k v flat

/-- The loop of `FlattenMap` over the entries of `m` in iteration order. -/
def flattenLoop (flat : List (String × Value)) : List (String × Value) → List (String × Value)
  | [] => flat
  | (k, v) :: rest => flattenLoop (flattenEntry flat k v) rest

end

/-- `FlattenMap(m)`. -/
def flattenMap (m : List (String × Value)) : List (String × Value) := flattenLoop [] m

mutual

/-- The paths from a value down through `map[string]any` maps to the values that are
    not one: a `map[string]any`'s are its entries', any other value is a leaf at the
    empty path. -/
def leavesOf : Value → List (List String × Value)
  | .map .any kvs => leaves kvs
  | v => [([], v)]

/-- The leaf paths of a map with their values, entry by entry. -/
def leaves : List (String × Value) → List (List String × Value)
  | [] => []
  | (k, v) :: rest => (leavesOf v).map (fun l => (k :: l.1, l.2)) ++ leaves rest

end

/-- What the flattening is meant to hold: each leaf under its path joined with dots. -/
def joinedLeaves (m : List (String × Value)) : List (String × Value) :=
  (leaves m).map fun l => (joinPath l.1, l.2)

/-- The part of `joinedLeaves` under one entry `k: v`. -/
def entryLeaves (k : String) (v : Value) : List (String × Value) :=
  (leavesOf v).map fun l => (joinPath (k :: l.1), l.2)

mutual

/-- Every `map[string]any` the flattening descends has distinct keys, as a Go map's
    are, none holding a dot. -/
def PlainKeys : Value → Prop
  | .map .any kvs => (kvs.map Prod.fst).Nodup ∧ PlainEntries kvs
  | _ => True

/-- The entries of a map, each with a dot-free key and a value `PlainKeys` accepts. -/
def PlainEntries : List (String × Value) → Prop
  | [] => True
  | (k, v) :: rest => '.' ∉ k.toList ∧ PlainKeys v ∧ PlainEntries rest

end

/-! ### The flattening of a map whose leaf keys are distinct -/

theorem joinedLeaves_cons (k : String) (v : Value) (rest : List (String × Value)) :
    joinedLeaves ((k, v) :: rest) = entryLeaves k v ++ joinedLeaves rest := by
  simp [joinedLeaves, entryLeaves, leaves, Function.comp_def]

theorem leaves_path_ne_nil : ∀ (m : List (String × Value)), ∀ l ∈ leaves m, l.1 ≠ []
  | [], _, h => absurd h (List.not_mem_nil _)
  | (k, v) :: rest, l, h => by
    simp only [leaves, List.mem_append, List.mem_map] at h
    rcases h with ⟨l', _, rfl⟩ | h
    · exact List.cons_ne_nil _ _
    · exact leaves_path_ne_nil rest l h

/-- Under a nested map, an entry's leaves are the nested map's, each key prefixed
    with `k.`. -/
theorem entryLeaves_map (k : String) (vm : List (String × Value)) :
    entryLeaves k (.map .any vm) = (joinedLeaves vm).map fun kv => (k ++ "." ++ kv.1, kv.2) := by
  simp only [entryLeaves, leavesOf, joinedLeaves, List.map_map]
  refine List.map_congr_left fun l hl => ?_
  obtain ⟨p, v⟩ := l
  obtain _ | ⟨k', ks⟩ := p
  · exact absurd rfl (leaves_path_ne_nil vm _ hl)
  · rfl

mutual

/-- An entry whose leaf keys are distinct and new appends its leaves to `flat`. -/
theorem flattenEntry_eq (flat : List (String × Value)) (k : String) :
    ∀ v : Value, ((flat ++ entryLeaves k v).map Prod.fst).Nodup →
      flattenEntry flat k v = flat ++ entryLeaves k v
  | .map .any vm, h => by
    rw [entryLeaves_map] at h ⊢
    have hvm : ((joinedLeaves vm).map Prod.fst).Nodup := by
      have h' := (List.map_append _ _ _ ▸ h).of_append_right
      rw [List.map_map, show Prod.fst ∘ (fun kv : String × Value => (k ++ "." ++ kv.1, kv.2)) =
        (k ++ "." ++ ·) ∘ Prod.fst from rfl, ← List.map_map] at h'
      exact h'.of_map _
    rw [flattenEntry, flattenLoop_eq [] vm hvm, List.nil_append, ← foldl_insert_fresh flat _ h,
      List.foldl_map]
  | .null, h | .string _, h | .bool _, h | .int _ _, h | .uint _ _, h | .float _ _, h
  | .time _, h | .duration _, h | .slice _, h | .nilSlice, h | .bytes _, h | .map .core _, h
  | .other _, h => foldl_insert_fresh flat [(k, _)] h

/-- A loop whose leaf keys are distinct and new appends the map's joined leaves to
    `flat`: no write replaces another. -/
theorem flattenLoop_eq : ∀ (flat m : List (String × Value)),
    ((flat ++ joinedLeaves m).map Prod.fst).Nodup → flattenLoop flat m = flat ++ joinedLeaves m
  | flat, [], _ => by simp [flattenLoop, joinedLeaves, leaves]
  | flat, (k, v) :: rest, h => by
    rw [joinedLeaves_cons, ← List.append_assoc] at h ⊢
    rw [flattenLoop, flattenEntry_eq flat k v (List.map_append _ _ _ ▸ h).of_append_left,
      flattenLoop_eq _ rest h]

end

/-! ### Maps with plain keys -/

/-- Every leaf path of a map starts with one of the map's keys. -/
theorem leaves_head : ∀ (m : List (String × Value)), ∀ l ∈ leaves m,
    ∃ k q, l.1 = k :: q ∧ k ∈ m.map Prod.fst
  | [], _, h => absurd h (List.not_mem_nil _)
  | (k, v) :: rest, l, h => by
    simp only [leaves, List.mem_append, List.mem_map] at h
    rcases h with ⟨l', _, rfl⟩ | h
    · exact ⟨k, l'.1, rfl, List.mem_cons_self _ _⟩
    · obtain ⟨k', q, hl, hk'⟩ := leaves_head rest l h
      exact ⟨k', q, hl, List.mem_cons_of_mem _ hk'⟩

/-- The leaf paths of a value or map, distinct and made of dot-free keys. -/
def PlainPaths (ls : List (List String × Value)) : Prop :=
  (ls.map Prod.fst).Nodup ∧ ∀ l ∈ ls, ∀ k ∈ l.1, '.' ∉ k.toList

mutual

/-- The leaf paths under plain keys are distinct and made of dot-free keys. -/
theorem leavesOf_plain : ∀ v : Value, PlainKeys v → PlainPaths (leavesOf v)
  | .map .any kvs, ⟨hn, he⟩ => leaves_plain kvs hn he
  | .null, _ | .string _, _ | .bool _, _ | .int _ _, _ | .uint _ _, _ | .float _ _, _
  | .time _, _ | .duration _, _ | .slice _, _ | .nilSlice, _ | .bytes _, _ | .map .core _, _
  | .other _, _ => ⟨List.nodup_singleton _, by simp [leavesOf]⟩

theorem leaves_plain : ∀ m : List (String × Value), (m.map Prod.fst).Nodup → PlainEntries m →
    PlainPaths (leaves m)
  | [], _, _ => ⟨List.nodup_nil, by simp [leaves]⟩
  | (k, v) :: rest, hn, ⟨hk, hv, hrest⟩ => by
    obtain ⟨hkr, hnr⟩ := List.nodup_cons.mp hn
    obtain ⟨hvn, hvd⟩ := leavesOf_plain v hv
    obtain ⟨hrn, hrd⟩ := leaves_plain rest hnr hrest
    refine ⟨?_, ?_⟩
    · rw [leaves, List.map_append, List.map_map]
      refine List.nodup_append.mpr ⟨?_, hrn, ?_⟩
      · simpa [List.map_map, Function.comp_def] using hvn.map (List.cons_injective (a := k))
      · -- the paths under `k` start with `k`, the others with a key of `rest`
        rintro p hp hp'
        obtain ⟨l, -, rfl⟩ := List.mem_map.mp hp
        obtain ⟨l', hl', hpl⟩ := List.mem_map.mp hp'
        obtain ⟨k', q, hq, hk'⟩ := leaves_head rest l' hl'
        simp only [Function.comp_apply] at hpl
        rw [hpl, List.cons.injEq] at hq
        exact hkr (hq.1 ▸ hk')
    · simp only [leaves, List.mem_append, List.mem_map]
      rintro l (⟨l', hl', rfl⟩ | hl) s hs
      · rcases List.mem_cons.mp hs with rfl | hs
        · exact hk
        · exact hvd l' hl' s hs
      · exact hrd l hl s hs

end

/-- The leaf keys of a map with plain keys are distinct: paths of dot-free keys are
    told apart by their dotted keys (`splitPath_joinPath`). -/
theorem joinedLeaves_nodup (m : List (String × Value)) (h : PlainKeys (.map .any m)) :
    ((joinedLeaves m).map Prod.fst).Nodup := by
  obtain ⟨hn, hd⟩ := leaves_plain m h.1 h.2
  have hkeys : (joinedLeaves m).map Prod.fst = ((leaves m).map Prod.fst).map joinPath := by
    simp [joinedLeaves, Function.comp_def]
  rw [hkeys]
  refine hn.map_on fun p hp q hq hpq => ?_
  obtain ⟨l, hl, rfl⟩ := List.mem_map.mp hp
  obtain ⟨l', hl', rfl⟩ := List.mem_map.mp hq
  rw [← splitPath_joinPath (leaves_path_ne_nil m l hl) (hd l hl), hpq,
    splitPath_joinPath (leaves_path_ne_nil m l' hl') (hd l' hl')]

/-- With plain keys, `FlattenMap` writes each leaf once, under a key not written
    before. -/
theorem flattenMap_eq (m : List (String × Value)) (h : PlainKeys (.map .any m)) :
    flattenMap m = joinedLeaves m :=
  flattenLoop_eq [] m (by rw [List.nil_append]; exact joinedLeaves_nodup m h)

/-- For a map whose keys, at every depth the flattening descends, hold no dot,
    `FlattenMap` has one entry for each path through `map[string]any` maps to a value
    that is not one (a `core.Map` is such a value), in the order the loops visit them,
    under the path's dotted key and holding that value, and no two entries share a
    key. -/
theorem flattenMap_leaves (m : List (String × Value)) (h : PlainKeys (.map .any m)) :
    flattenMap m = joinedLeaves m ∧ ((joinedLeaves m).map Prod.fst).Nodup :=
  ⟨flattenMap_eq m h, joinedLeaves_nodup m h⟩

/-- A map two levels deep: `{"a": {"b": "y", "c": "z"}, "d": true}`. -/
def nestedKeys : List (String × Value) :=
  [("a", .map .any [("b", .string "y"), ("c", .string "z")]), ("d", .bool true)]

theorem nestedKeys_plain : PlainKeys (.map .any nestedKeys) := by
  simp only [PlainKeys, PlainEntries]
  decide

theorem flattenMap_leaves_nested :
    PlainKeys (.map .any nestedKeys) ∧ flattenMap nestedKeys = joinedLeaves nestedKeys ∧
      (joinedLeaves nestedKeys).map Prod.fst = ["a.b", "a.c", "d"] :=
  ⟨nestedKeys_plain, (flattenMap_leaves nestedKeys nestedKeys_plain).1, by decide⟩

/-! ### Flattened keys as payload paths -/

mutual

/-- Each leaf path of a value with plain keys leads, in the path engine, to its leaf. -/
theorem leavesOf_findIn : ∀ v : Value, PlainKeys v → ∀ l ∈ leavesOf v, findIn l.1 v = .ok l.2
  | .map .any kvs, ⟨hn, he⟩ => leaves_findIn kvs hn he
  | .null, _ | .string _, _ | .bool _, _ | .int _ _, _ | .uint _ _, _ | .float _ _, _
  | .time _, _ | .duration _, _ | .slice _, _ | .nilSlice, _ | .bytes _, _ | .map .core _, _
  | .other _, _ => by simp [leavesOf, findIn]

theorem leaves_findIn : ∀ m : List (String × Value), (m.map Prod.fst).Nodup → PlainEntries m →
    ∀ l ∈ leaves m, findIn l.1 (.map .any m) = .ok l.2
  | [], _, _ => fun _ hl => absurd hl (List.not_mem_nil _)
  | (k, v) :: rest, hn, ⟨_, hv, hrest⟩ => by
    obtain ⟨hkr, hnr⟩ := List.nodup_cons.mp hn
    simp only [leaves, List.mem_append, List.mem_map]
    rintro l (⟨l', hl', rfl⟩ | hl)
    · simp [findIn, leavesOf_findIn v hv l' hl']
    · -- a path of `rest` starts with a key of `rest`, which is not `k`
      obtain ⟨k', q, hq, hk'⟩ := leaves_head rest l hl
      have hne : k ≠ k' := fun h => hkr (h ▸ hk')
      have hfind := leaves_findIn rest hnr hrest l hl
      rw [hq] at hfind ⊢
      simpa [findIn, hne] using hfind

end

/-- For a map with plain keys, every key of `FlattenMap`, read as a payload path,
    finds in the map the value the flattening holds under it. -/
theorem flattenMap_keys_find (m : List (String × Value)) (h : PlainKeys (.map .any m)) :
    ∀ kv ∈ flattenMap m, findInPayload (.map .any m) kv.1 = .ok kv.2 := by
  rw [flattenMap_eq m h]
  rintro _ hkv
  obtain ⟨l, hl, rfl⟩ := List.mem_map.mp hkv
  rw [findInPayload, splitPath_joinPath (leaves_path_ne_nil m l hl) ((leaves_plain m h.1 h.2).2 l hl)]
  exact leaves_findIn m h.1 h.2 l hl

theorem flattenMap_keys_find_nested :
    PlainKeys (.map .any nestedKeys) ∧ findInPayload (.map .any nestedKeys) "a.c" = .ok (.string "z") :=
  have hmem : ("a.c", Value.string "z") ∈ flattenMap nestedKeys :=
    List.mem_cons_of_mem _ (List.mem_cons_self _ _)
  ⟨nestedKeys_plain, flattenMap_keys_find nestedKeys nestedKeys_plain _ hmem⟩

/-- `{"a.b": "x", "a": {"b": "y"}}`: a key holding a dot. -/
def dottedKeys : List (String × Value) :=
  [("a.b", .string "x"), ("a", .map .any [("b", .string "y")])]

/-- `{"one": core.Map{"two": "three"}}`, nested as the glob filter's tests nest payloads. -/
def coreNested : List (String × Value) :=
  [("one", .map .core [("two", .string "three")])]

/-- The flattening is not one entry per leaf. The two leaf paths `a.b` and `a`, `b`
    share the key `a.b`: the flattening has one entry, and which leaf it holds depends
    on the iteration order. A nested `core.Map` fails the assertion to
    `map[string]interface{}`: it is kept whole under its key, and its leaf `one.two`
    has no entry. -/
theorem flattenMap_dotted_keys :
    (leaves dottedKeys).map Prod.fst = [["a.b"], ["a", "b"]] ∧
      flattenMap dottedKeys = [("a.b", .string "y")] ∧
      flattenMap dottedKeys.reverse = [("a.b", .string "x")] ∧
      flattenMap coreNested = coreNested :=
  ⟨by decide, rfl, rfl, rfl⟩

end Neptunus.Processors.Llm
