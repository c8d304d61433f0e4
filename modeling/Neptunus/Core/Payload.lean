import Neptunus.Go.Numeric
import Mathlib.Data.List.Nodup

/-!
  Neptunus.Core.Payload

  The values an event payload holds (Go's `any` as the plugins meet it) and the
  path engine that addresses them: `FindInPayload`, `PutInPayload`,
  `DeleteFromPayload` and the map-rooted `Map.SetValue`.

  The `core` package is not among the sources; its path engine is modelled from
  the spec (§3.2, §4.1) and pinned by the cases of `core_test.go`. A Go map is an
  association list listing its entries in one iteration order; a theorem over every
  list is a theorem over every iteration order. A payload holds maps of two types,
  `map[string]any` and `core.Map` (the glob filter's tests nest `core.Map`s and find
  fields through them), and the engine descends both alike.

  The engine keeps the two laws the spec lists for it (§8): a put is read back by a
  find through the same key, and putting back what a find returned changes nothing
  (`putInPayload_findInPayload`). A delete succeeds exactly where a find does, and
  what a find then sees depends on the container: a map's key is gone, but a
  sequence closes up, so the key finds the element that followed the deleted one
  (`deleteFromPayload_findInPayload`).
-/

namespace Neptunus

/-! ## Fallible code

Go's `(value, error)` returns are `Except String`; a function's loops peel its binds
with these two lemmas. -/

theorem bind_eq_ok {ε α β : Type} {x : Except ε α} {f : α → Except ε β} {b : β} :
    x >>= f = .ok b ↔ ∃ a, x = .ok a ∧ f a = .ok b := by
  cases x <;> simp [bind, Except.bind]

theorem map_eq_ok {ε α β : Type} {x : Except ε α} {f : α → β} {b : β} :
    x.map f = .ok b ↔ ∃ a, x = .ok a ∧ f a = b := by
  cases x <;> simp [Except.map]

theorem exists_bind_pure_ok {ε α β : Type} {x : Except ε α} {g : α → β} :
    (∃ b, (x >>= fun a => pure (g a)) = .ok b) ↔ ∃ a, x = .ok a := by
  cases x <;> simp [bind, Except.bind, pure, Except.pure]

end Neptunus

namespace Neptunus.Core

open Neptunus.Go

/-! ## Payload values -/

/-- Go's signed integer kinds. -/
inductive IntKind where
  | int | int8 | int16 | int32 | int64
  deriving DecidableEq, Repr

/-- Go's unsigned integer kinds. -/
inductive UintKind where
  | uint | uint8 | uint16 | uint32 | uint64
  deriving DecidableEq, Repr

/-- Go's float kinds. -/
inductive FloatKind where
  | float32 | float64
  deriving DecidableEq, Repr

/-- Width of a signed kind (`int` is 64 bits on the supported platforms). -/
def IntKind.bits : IntKind → Nat
  | .int => 64 | .int8 => 8 | .int16 => 16 | .int32 => 32 | .int64 => 64

/-- Width of an unsigned kind. -/
def UintKind.bits : UintKind → Nat
  | .uint => 64 | .uint8 => 8 | .uint16 => 16 | .uint32 => 32 | .uint64 => 64

theorem IntKind.bits_le (k : IntKind) : k.bits ≤ 64 := by cases k <;> decide

theorem UintKind.bits_le (k : UintKind) : k.bits ≤ 64 := by cases k <;> decide

/-- A `time.Time`, as nanoseconds since the Unix epoch. Its location and monotonic
    reading are not modelled: nothing in the modelled code reads them. -/
structure Instant where
  unixNano : Int
  deriving DecidableEq, Repr

/-- Go's two map types a payload holds: `map[string]any`, and `core.Map`, the defined
    type over it. A type switch or a type assertion tells them apart. -/
inductive MapType where
  | any | core
  deriving DecidableEq, Repr

/-- The kinds of the remaining values a payload can hold, by `reflect.Kind`: reflection
    converts none of them. -/
inductive OtherKind where
  | uintptr | complex64 | complex128 | chan | func | ptr | struct | unsafePointer
  deriving DecidableEq, Repr

/-- `reflect.Kind.String()`. -/
def OtherKind.name : OtherKind → String
  | .uintptr => "uintptr" | .complex64 => "complex64" | .complex128 => "complex128"
  | .chan => "chan" | .func => "func" | .ptr => "ptr" | .struct => "struct"
  | .unsafePointer => "unsafe.Pointer"

/-- A value stored in an event payload, by its dynamic Go type. A typed slice, array or
    map other than `[]any`, `[]byte` and the two map types (a `[]string`, a
    `map[string]string`) is not modelled: no modelled code writes one. -/
inductive Value where
  /-- The nil interface. -/
  | null
  | string (s : String)
  | bool (b : Bool)
  | int (k : IntKind) (v : BitVec k.bits)
  | uint (k : UintKind) (v : BitVec k.bits)
  | float (k : FloatKind) (f : GoFloat)
  | time (t : Instant)
  | duration (d : BitVec 64)
  /-- A `[]any`. -/
  | slice (xs : List Value)
  /-- A typed nil `[]any`. -/
  | nilSlice
  /-- A `[]byte`. -/
  | bytes (bs : List UInt8)
  /-- A `map[string]any` or a `core.Map`, its entries in one iteration order. -/
  | map (t : MapType) (kvs : List (String × Value))
  /-- A struct other than `time.Time`, a pointer, a channel, ... -/
  | other (kind : OtherKind)

/-! ## Go maps as association lists -/

/-- `m[k]`, with the presence flag. -/
def lookup {α : Type} (k : String) : List (String × α) → Option α
  | [] => none
  | (k', v) :: rest => if k' = k then some v else lookup k rest

/-- `m[k] = v`: replaces the entry of `k`, or adds one. -/
def insert {α : Type} (k : String) (v : α) : List (String × α) → List (String × α)
  | [] => [(k, v)]
  | (k', v') :: rest => if k' = k then (k, v) :: rest else (k', v') :: insert k v rest

@[simp] theorem lookup_nil {α : Type} (k : String) : lookup k ([] : List (String × α)) = none := rfl

@[simp] theorem lookup_cons {α : Type} (k k' : String) (v : α) (rest : List (String × α)) :
    lookup k ((k', v) :: rest) = if k' = k then some v else lookup k rest := rfl

@[simp] theorem lookup_insert_self {α : Type} (k : String) (v : α) (m : List (String × α)) :
    lookup k (insert k v m) = some v := by
  induction m with
  | nil => simp [insert]
  | cons kv rest ih =>
    obtain ⟨k', v'⟩ := kv
    by_cases h : k' = k <;> simp [insert, h, ih]

/-- Adding a key that is not present appends its entry: the iteration order of the
    map built so far is kept. -/
theorem insert_of_lookup_none {α : Type} {k : String} (v : α) {m : List (String × α)}
    (h : lookup k m = none) : insert k v m = m ++ [(k, v)] := by
  induction m with
  | nil => rfl
  | cons kv rest ih =>
    obtain ⟨k', v'⟩ := kv
    by_cases hk : k' = k
    · simp [hk] at h
    · simp only [lookup_cons, hk, if_false] at h
      simp [insert, hk, ih h]

/-- Writing the value a key already holds leaves the map as it was. -/
theorem insert_of_lookup_some {α : Type} {k : String} {v : α} :
    ∀ {m : List (String × α)}, lookup k m = some v → insert k v m = m
  | [], h => by cases h
  | (k', v') :: rest, h => by
    by_cases hk : k' = k
    · simp only [lookup_cons, hk, if_true, Option.some.injEq] at h
      simp [insert, hk, h]
    · simp only [lookup_cons, hk, if_false] at h
      simp [insert, hk, insert_of_lookup_some h]

theorem lookup_eq_none_of_not_mem {α : Type} {k : String} :
    ∀ {m : List (String × α)}, k ∉ m.map Prod.fst → lookup k m = none
  | [], _ => rfl
  | (k', v) :: rest, h => by
    simp only [List.map_cons, List.mem_cons, not_or] at h
    simp [Ne.symm h.1, lookup_eq_none_of_not_mem h.2]

theorem mem_of_lookup_eq_some {α : Type} {k : String} {v : α} :
    ∀ {m : List (String × α)}, lookup k m = some v → (k, v) ∈ m
  | [], h => by cases h
  | (k', v') :: rest, h => by
    by_cases hk : k' = k
    · simp only [lookup_cons, hk, if_true, Option.some.injEq] at h
      simp [hk, h]
    · simp only [lookup_cons, hk, if_false] at h
      exact List.mem_cons_of_mem _ (mem_of_lookup_eq_some h)

/-- Writing entries whose keys are distinct and new appends them. -/
theorem foldl_insert_fresh {α : Type} :
    ∀ (flat ws : List (String × α)), ((flat ++ ws).map Prod.fst).Nodup →
      ws.foldl (fun flat kv => insert kv.1 kv.2 flat) flat = flat ++ ws
  | flat, [], _ => by simp
  | flat, (k, v) :: ws, h => by
    rw [List.map_append] at h
    have hk : k ∉ flat.map Prod.fst := fun hm =>
      List.disjoint_of_nodup_append h hm (List.mem_cons_self _ _)
    rw [List.foldl_cons, insert_of_lookup_none v (lookup_eq_none_of_not_mem hk),
      foldl_insert_fresh _ ws (by simpa using h)]
    simp

/-! ## Paths -/

/-- `strings.Split(key, ".")` on the characters of a key. -/
def splitChars : List Char → List (List Char)
  | [] => [[]]
  | c :: cs =>
    match splitChars cs with
    | [] => [[c]]
    | w :: ws => if c = '.' then [] :: w :: ws else (c :: w) :: ws

/-- The segments of a dotted path. -/
def splitPath (key : String) : List String := (splitChars key.toList).map String.mk

theorem splitChars_of_not_mem {cs : List Char} (h : '.' ∉ cs) : splitChars cs = [cs] := by
  induction cs with
  | nil => rfl
  | cons c cs ih =>
    simp only [List.mem_cons, not_or] at h
    simp [splitChars, ih h.2, Ne.symm h.1]

/-- A key without a dot is a path of one segment, the key itself. -/
theorem splitPath_of_not_mem {key : String} (h : '.' ∉ key.toList) : splitPath key = [key] := by
  rw [splitPath, splitChars_of_not_mem h]
  rfl

/-- The dotted key `k1.k2. ... .kn` of a path. -/
def joinPath : List String → String
  | [] => ""
  | [k] => k
  | k :: k' :: ks => k ++ "." ++ joinPath (k' :: ks)

theorem splitChars_ne_nil : ∀ cs : List Char, splitChars cs ≠ []
  | [] => List.cons_ne_nil _ _
  | c :: cs => by
    simp only [splitChars]
    split
    · exact List.cons_ne_nil _ _
    · split <;> exact List.cons_ne_nil _ _

theorem splitChars_append_dot {cs : List Char} (ds : List Char) (h : '.' ∉ cs) :
    splitChars (cs ++ '.' :: ds) = cs :: splitChars ds := by
  induction cs with
  | nil =>
    obtain ⟨w, ws, hw⟩ := List.exists_cons_of_ne_nil (splitChars_ne_nil ds)
    simp [splitChars, hw]
  | cons c cs ih =>
    simp only [List.mem_cons, not_or] at h
    simp [splitChars, ih h.2, Ne.symm h.1]

/-- Splitting the dotted key of a path of dot-free keys gives the path back. -/
theorem splitPath_joinPath : ∀ {p : List String}, p ≠ [] → (∀ k ∈ p, '.' ∉ k.toList) →
    splitPath (joinPath p) = p
  | [k], _, h => splitPath_of_not_mem (h k (List.mem_singleton_self k))
  | k :: k' :: ks, _, h => by
    have hk := h k (List.mem_cons_self _ _)
    have ih := splitPath_joinPath (List.cons_ne_nil k' ks) fun s hs => h s (List.mem_cons_of_mem _ hs)
    rw [splitPath] at ih ⊢
    simp only [joinPath, String.toList, String.data_append, List.append_assoc,
      List.singleton_append] at hk ih ⊢
    rw [splitChars_append_dot _ hk, List.map_cons, ih]

/-- A sequence index: base 10, no sign; `"01"` is `1` (§4.1). -/
def parseIndex (s : String) : Option Nat :=
  if s.isEmpty then none
  else s.toList.foldlM (fun n c => if c.isDigit then some (10 * n + (c.toNat - '0'.toNat)) else none) 0

/-- `ErrNoSuchField` and `ErrInvalidPath`. -/
inductive PathError where
  | noSuchField
  | invalidPath
  deriving DecidableEq, Repr

/-! ## FindInPayload -/

/-- Modelled from the spec: the node at a path, through keys of maps of either type and
    indexes of sequences (§4.1). Returns the raw node. -/
def findIn : List String → Value → Except PathError Value
  | [], node => .ok node
  | s :: rest, .map _ kvs =>
    match lookup s kvs with
    | some child => findIn rest child
    | none => .error .noSuchField
  | s :: rest, .slice xs =>
    match parseIndex s with
    | some i => if h : i < xs.length then findIn rest xs[i] else .error .noSuchField
    | none => .error .noSuchField
  | _ :: _, _ => .error .noSuchField

/-- Modelled from the spec: `FindInPayload(p, key)`. -/
def findInPayload (p : Value) (key : String) : Except PathError Value :=
  findIn (splitPath key) p

/-! ## PutInPayload -/

/-- The container a write through `node` with next segment `s` descends into: an
    absent (`null`) node becomes a sequence when `s` is an index and a map
    otherwise; a nil sequence is an empty one. The spec does not say which map type
    a materialised map has; it is a `map[string]any` here. -/
def containerFor (node : Value) (s : String) : Value :=
  match node with
  | .null => if (parseIndex s).isSome then .slice [] else .map .any []
  | .nilSlice => .slice []
  | _ => node

/-- The sequence `xs` extended with `null` fillers to hold index `i`. -/
def padTo (xs : List Value) (i : Nat) : List Value :=
  xs ++ List.replicate (i + 1 - xs.length) .null

/-- Modelled from the spec: writes `v` at a path under `node`, materialising containers
    on the way (§4.1); a map keeps its type. -/
def putIn : List String → Value → Value → Except PathError Value
  | [], _, v => .ok v
  | s :: rest, node, v =>
    match containerFor node s with
    | .map t kvs => do
      let child ← putIn rest ((lookup s kvs).getD .null) v
      pure (.map t (insert s child kvs))
    | .slice xs =>
      match parseIndex s with
      | some i => do
        let ys := padTo xs i
        let child ← putIn rest (ys.getD i .null) v
        pure (.slice (ys.set i child))
      | none => .error .invalidPath
    | _ => .error .invalidPath

/-- Modelled from the spec: `PutInPayload(p, key, value)`, the new root. -/
def putInPayload (p : Value) (key : String) (v : Value) : Except PathError Value :=
  putIn (splitPath key) p v

/-! ## DeleteFromPayload -/

/-- `delete(m, k)`: the map without the entry of `k`. -/
def erase {α : Type} (k : String) : List (String × α) → List (String × α)
  | [] => []
  | (k', v) :: rest => if k' = k then erase k rest else (k', v) :: erase k rest

/-- Modelled from the spec: deletes the node at a path under `node`, descending as
    `findIn` does (§4.1): at the last segment a map entry is removed or a sequence
    element spliced out, the tail shifting down; a segment that misses is
    `ErrNoSuchField`. -/
def deleteIn : List String → Value → Except PathError Value
  | s :: rest, .map t kvs =>
    match rest, lookup s kvs with
    | [], some _ => .ok (.map t (erase s kvs))
    | _ :: _, some child => do
      let child ← deleteIn rest child
      pure (.map t (insert s child kvs))
    | _, none => .error .noSuchField
  | s :: rest, .slice xs =>
    match parseIndex s with
    | some i =>
      if h : i < xs.length then
        match rest with
        | [] => .ok (.slice (xs.eraseIdx i))
        | _ :: _ => do
          let child ← deleteIn rest xs[i]
          pure (.slice (xs.set i child))
      else .error .noSuchField
    | none => .error .noSuchField
  | _, _ => .error .noSuchField

/-- Modelled from the spec: `DeleteFromPayload(p, key)`, the new root. -/
def deleteFromPayload (p : Value) (key : String) : Except PathError Value :=
  deleteIn (splitPath key) p

/-- Modelled from the spec: `core.Map.SetValue(key, value)`, the path engine's write
    rooted at that map. -/
def Map.setValue (m : List (String × Value)) (key : String) (v : Value) :
    Except PathError (List (String × Value)) :=
  match splitPath key with
  | [] => .ok m
  | s :: rest => do
    let child ← putIn rest ((lookup s m).getD .null) v
    pure (insert s child m)

/-- Setting a key without a dot is a plain map assignment. -/
theorem Map.setValue_of_not_mem {m : List (String × Value)} {key : String} (v : Value)
    (h : '.' ∉ key.toList) : Map.setValue m key v = .ok (insert key v m) := by
  simp [Map.setValue, splitPath_of_not_mem h, putIn]


/-! ## The path engine's laws (§8) -/

theorem padTo_length (xs : List Value) (i : Nat) : i < (padTo xs i).length := by
  simp [padTo]
  omega

theorem padTo_of_lt {xs : List Value} {i : Nat} (h : i < xs.length) : padTo xs i = xs := by
  simp [padTo]
  omega

theorem set_getElem_eq {α : Type} (xs : List α) (i : Nat) (h : i < xs.length) :
    xs.set i xs[i] = xs :=
  List.ext_getElem (List.length_set _ _ _) fun j _ _ => by
    rw [List.getElem_set]
    split <;> simp_all

/-- A write through a path is read back through the same path. -/
theorem findIn_putIn : ∀ (path : List String) (node v r : Value),
    putIn path node v = .ok r → findIn path r = .ok v
  | [], _, v, r, h => by
    cases h
    rfl
  | s :: rest, node, v, r, h => by
    simp only [putIn] at h
    split at h
    · obtain ⟨child, hc, hr⟩ := bind_eq_ok.mp h
      cases hr
      simp [findIn, findIn_putIn rest _ _ _ hc]
    · split at h
      · obtain ⟨child, hc, hr⟩ := bind_eq_ok.mp h
        cases hr
        simp [findIn, *, padTo_length, findIn_putIn rest _ _ _ hc]
      · cases h
    · cases h

/-- Writing back the value read through a path leaves the payload as it was. -/
theorem putIn_findIn : ∀ (path : List String) (node v : Value),
    findIn path node = .ok v → putIn path node v = .ok node
  | [], _, _, h => by
    cases h
    rfl
  | s :: rest, node, v, h => by
    cases node with
    | map t kvs =>
      simp only [findIn] at h
      split at h
      · case h_1 child hl =>
        simp [putIn, containerFor, hl, putIn_findIn rest child v h, insert_of_lookup_some hl, pure,
          Except.pure, bind, Except.bind]
      · cases h
    | slice xs =>
      simp only [findIn] at h
      split at h
      · case h_1 i hi =>
        split at h
        · case isTrue hlt =>
          simp [putIn, containerFor, hi, padTo_of_lt hlt, List.getD_eq_getElem?_getD, hlt,
            putIn_findIn rest _ v h, set_getElem_eq, pure, Except.pure, bind, Except.bind]
        · cases h
      · cases h
    | _ => simp [findIn] at h

/-- For every payload, key and value: what `PutInPayload` writes, `FindInPayload`
    reads back under the same key; and putting back the value found under a key
    returns the payload unchanged. -/
theorem putInPayload_findInPayload (p : Value) (key : String) (v : Value) :
    (∀ p', putInPayload p key v = .ok p' → findInPayload p' key = .ok v) ∧
    (findInPayload p key = .ok v → putInPayload p key v = .ok p) :=
  ⟨fun p' h => findIn_putIn _ p v p' h, putIn_findIn _ p v⟩

/-- `{foo: "bar", fizz: ["buzz", "bizz"]}`, `1337`, and the payload the gap-filling put
    of §8 makes of them, `{foo: "bar", fizz: ["buzz", "bizz", null, 1337]}`. -/
def fizzPayload : Value := .map .any [("foo", .string "bar"), ("fizz", .slice [.string "buzz", .string "bizz"])]

def int1337 : Value := .int .int64 1337

def fizzFilled : Value :=
  .map .any [("foo", .string "bar"), ("fizz", .slice [.string "buzz", .string "bizz", .null, int1337])]

theorem putInPayload_findInPayload_gap :
    putInPayload fizzPayload "fizz.3" int1337 = .ok fizzFilled ∧
      findInPayload fizzFilled "fizz.3" = .ok int1337 :=
  have h : putInPayload fizzPayload "fizz.3" int1337 = .ok fizzFilled := rfl
  ⟨h, (putInPayload_findInPayload fizzPayload "fizz.3" int1337).1 _ h⟩

/-! ### Deletes -/

theorem lookup_erase_self {α : Type} (k : String) : ∀ m : List (String × α), lookup k (erase k m) = none
  | [] => rfl
  | (k', v) :: rest => by
    by_cases h : k' = k <;> simp [erase, h, lookup_erase_self k rest]

/-- Reading through a path is reading through its first part, then the rest. -/
theorem findIn_append : ∀ (pre post : List String) (node : Value),
    findIn (pre ++ post) node = findIn pre node >>= findIn post
  | [], _, _ => rfl
  | s :: pre, post, node => by
    cases node with
    | map t kvs =>
      simp only [List.cons_append, findIn]
      cases lookup s kvs <;> simp [findIn_append pre post, bind, Except.bind]
    | slice xs =>
      simp only [List.cons_append, findIn]
      cases parseIndex s with
      | none => rfl
      | some i =>
        dsimp only
        split
        · exact findIn_append pre post _
        · rfl
    | _ => rfl

/-- A segment read in a sequence: the element at its index, when there is one. -/
theorem findIn_slice_single (s : String) (ys : List Value) :
    findIn [s] (.slice ys) =
      match parseIndex s with
      | some i => (ys[i]?.map .ok).getD (.error .noSuchField)
      | none => .error .noSuchField := by
  simp only [findIn]
  cases parseIndex s with
  | none => rfl
  | some i =>
    dsimp only
    split
    · simp [List.getElem?_eq_getElem ‹_›, findIn]
    · simp [List.getElem?_eq_none (not_lt.mp ‹_›)]

/-- One step of a delete through a longer path: the child at the first segment is
    deleted through the rest, and the new node leads to that child's result. -/
theorem deleteIn_cons {p : String} {rest : List String} (hr : rest ≠ []) {node r : Value}
    (h : deleteIn (p :: rest) node = .ok r) :
    ∃ child child', findIn [p] node = .ok child ∧ deleteIn rest child = .ok child' ∧
      ∀ q, findIn (p :: q) r = findIn q child' := by
  obtain ⟨a, t, rfl⟩ := List.exists_cons_of_ne_nil hr
  cases node with
  | map t kvs =>
    cases hl : lookup p kvs with
    | none => simp [deleteIn, hl] at h
    | some child =>
      simp only [deleteIn, hl] at h
      obtain ⟨child', hc, ⟨⟩⟩ := bind_eq_ok.mp h
      exact ⟨child, child', by simp [findIn, hl], hc, fun q => by simp [findIn]⟩
  | slice xs =>
    cases hi : parseIndex p with
    | none => simp [deleteIn, hi] at h
    | some i =>
      by_cases hlt : i < xs.length
      · simp only [deleteIn, hi, hlt, dif_pos] at h
        obtain ⟨child', hc, ⟨⟩⟩ := bind_eq_ok.mp h
        exact ⟨_, child', by simp [findIn, hi, hlt], hc, fun q => by simp [findIn, hi, hlt]⟩
      · simp [deleteIn, hi, hlt] at h
  | _ => cases h

/-- Deleting through `pre` and one more segment rewrites the node at `pre` by the
    one-segment delete and leaves the way to it as it was. -/
theorem deleteIn_append_single : ∀ (pre : List String) (s : String) (node r : Value),
    deleteIn (pre ++ [s]) node = .ok r →
      ∃ parent parent', findIn pre node = .ok parent ∧ deleteIn [s] parent = .ok parent' ∧
        findIn pre r = .ok parent'
  | [], s, node, r, h => ⟨node, r, rfl, h, rfl⟩
  | p :: pre, s, node, r, h => by
    obtain ⟨child, child', h1, h2, h3⟩ := deleteIn_cons (by simp) h
    obtain ⟨parent, parent', hp1, hp2, hp3⟩ := deleteIn_append_single pre s child child' h2
    refine ⟨parent, parent', ?_, hp2, (h3 pre).trans hp3⟩
    rw [← List.singleton_append, findIn_append, h1]
    exact hp1

/-- What deleting one segment does: a map loses its entry, a sequence the element. -/
theorem deleteIn_single {s : String} {node r : Value} (h : deleteIn [s] node = .ok r) :
    (∃ t kvs, node = .map t kvs ∧ (lookup s kvs).isSome ∧ r = .map t (erase s kvs)) ∨
    (∃ xs i, node = .slice xs ∧ parseIndex s = some i ∧ i < xs.length ∧ r = .slice (xs.eraseIdx i)) := by
  cases node with
  | map t kvs =>
    cases hl : lookup s kvs with
    | none => simp [deleteIn, hl] at h
    | some v =>
      simp only [deleteIn, hl, Except.ok.injEq] at h
      exact .inl ⟨t, kvs, rfl, by simp [hl], h.symm⟩
  | slice xs =>
    cases hi : parseIndex s with
    | none => simp [deleteIn, hi] at h
    | some i =>
      by_cases hlt : i < xs.length
      · simp only [deleteIn, hi, hlt, dif_pos, Except.ok.injEq] at h
        exact .inr ⟨xs, i, rfl, rfl, hlt, h.symm⟩
      · simp [deleteIn, hi, hlt] at h
  | _ => cases h

/-- A delete through a path succeeds exactly when a find through it does. -/
theorem deleteIn_ok_iff : ∀ (path : List String) (node : Value), path ≠ [] →
    ((∃ r, deleteIn path node = .ok r) ↔ ∃ v, findIn path node = .ok v)
  | [], _, h => absurd rfl h
  | s :: rest, node, _ => by
    cases node with
    | map t kvs =>
      cases hl : lookup s kvs with
      | none => simp [deleteIn, findIn, hl]
      | some child =>
        cases rest with
        | nil => simp [deleteIn, findIn, hl]
        | cons a t =>
          simp only [deleteIn, findIn, hl, exists_bind_pure_ok]
          exact deleteIn_ok_iff (a :: t) child (List.cons_ne_nil a t)
    | slice xs =>
      cases hi : parseIndex s with
      | none => simp [deleteIn, findIn, hi]
      | some i =>
        by_cases hlt : i < xs.length
        · cases rest with
          | nil => simp [deleteIn, findIn, hi, hlt]
          | cons a t =>
            simp only [deleteIn, findIn, hi, hlt, dif_pos, exists_bind_pure_ok]
            exact deleteIn_ok_iff (a :: t) xs[i] (List.cons_ne_nil a t)
        · simp [deleteIn, findIn, hi, hlt]
    | _ => simp [deleteIn, findIn]

/-- After a delete through `pre ++ [s]`, the parent at `pre` is the former parent
    without the entry, and a find through the whole path sees a map's key gone, or a
    sequence's next element moved into the deleted index. -/
theorem deleteIn_findIn {pre : List String} {s : String} {node r : Value}
    (h : deleteIn (pre ++ [s]) node = .ok r) :
    ∃ parent, findIn pre node = .ok parent ∧
      ((∃ t kvs, parent = .map t kvs ∧ findIn pre r = .ok (.map t (erase s kvs)) ∧
          findIn (pre ++ [s]) r = .error .noSuchField) ∨
       (∃ xs i, parent = .slice xs ∧ parseIndex s = some i ∧
          findIn pre r = .ok (.slice (xs.eraseIdx i)) ∧
          findIn (pre ++ [s]) r = (xs[i + 1]?.map .ok).getD (.error .noSuchField))) := by
  obtain ⟨parent, parent', h1, h2, h3⟩ := deleteIn_append_single pre s node r h
  refine ⟨parent, h1, ?_⟩
  rw [findIn_append, h3]
  rcases deleteIn_single h2 with ⟨t, kvs, rfl, -, rfl⟩ | ⟨xs, i, rfl, hi, -, rfl⟩
  · exact .inl ⟨t, kvs, rfl, rfl, by simp [bind, Except.bind, findIn, lookup_erase_self]⟩
  · refine .inr ⟨xs, i, rfl, hi, rfl, ?_⟩
    show findIn [s] (.slice (xs.eraseIdx i)) = _
    rw [findIn_slice_single, hi]
    dsimp only
    rw [List.getElem?_eraseIdx_of_ge xs i i (le_refl i)]

theorem splitPath_ne_nil (key : String) : splitPath key ≠ [] := by
  simp [splitPath, splitChars_ne_nil]

/-- For every payload and key: `DeleteFromPayload` succeeds exactly when `FindInPayload`
    finds the key; and after it, the parent holds the former parent without the entry,
    while the key itself finds `ErrNoSuchField` under a map, but under a sequence the
    element that followed the deleted one. -/
theorem deleteFromPayload_findInPayload (p : Value) (key : String) :
    ((∃ p', deleteFromPayload p key = .ok p') ↔ ∃ v, findInPayload p key = .ok v) ∧
    ∀ p', deleteFromPayload p key = .ok p' →
      ∃ pre s parent, splitPath key = pre ++ [s] ∧ findIn pre p = .ok parent ∧
        ((∃ t kvs, parent = .map t kvs ∧ findIn pre p' = .ok (.map t (erase s kvs)) ∧
            findInPayload p' key = .error .noSuchField) ∨
         (∃ xs i, parent = .slice xs ∧ parseIndex s = some i ∧
            findIn pre p' = .ok (.slice (xs.eraseIdx i)) ∧
            findInPayload p' key = (xs[i + 1]?.map .ok).getD (.error .noSuchField))) := by
  refine ⟨deleteIn_ok_iff _ p (splitPath_ne_nil key), fun p' h => ?_⟩
  obtain ⟨pre, s, hk⟩ := (List.eq_nil_or_concat (splitPath key)).resolve_left (splitPath_ne_nil key)
  rw [List.concat_eq_append] at hk
  rw [deleteFromPayload, hk] at h
  obtain ⟨parent, h1, h2⟩ := deleteIn_findIn h
  exact ⟨pre, s, parent, hk, h1, by simpa only [findInPayload, hk] using h2⟩

example : (deleteFromPayload fizzPayload "fizz.0" >>= (findInPayload · "fizz.0")) = .ok (.string "bizz") := by
  rfl

end Neptunus.Core
