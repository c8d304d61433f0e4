import Neptunus.Starlark.Value

/-!
  Neptunus.Starlark.Bindings

  The conversions between payload values and Starlark values (`bindings.go`):
  `toStarlarkValue` and `toGoValue`.

  They are inverse on the values both sides can represent, up to integer width and
  map type: every signed integer comes back as `int64`, an unsigned one below `2^63`
  as `int64` and above as `uint64`, a `float32` as `float64`, a `[]byte` as a `[]any`
  of `int64`s, an empty sequence as a nil one, and every map as a `core.Map`, the type
  `toGoValue` builds (`toGoValue_toStarlarkValue`, `toStarlarkValue_toGoValue`).
  Neither direction represents the null value: `toStarlarkValue(nil)` fails on kind
  `invalid` and `toGoValue(None)` on type `NoneType` (`bindings_null_and_map_type`).
  A dict key is written with `core.Map.SetValue`, whose dotted-path semantics turn a
  key containing `.` into a nested map, so the round trips hold for dot-free keys.
-/

namespace Neptunus.Starlark

open Neptunus.Go Neptunus.Core

/-- The errors of the conversions, one per `return ..., err` of the source. -/
inductive BindError where
  /-- `"%v not representable in starlark"`, with the value's `reflect.Kind`. -/
  | notRepresentableInStarlark (kind : String)
  /-- `"unknown starlark Int representation"`. -/
  | unknownIntRepresentation
  /-- `"%v must be a string, got %v"`: a dict key that is not a `String`. -/
  | keyNotString (key : StarValue)
  /-- `"%v is not representable as event data value"`, with the value's `Type()`. -/
  | notRepresentableAsEventData (type : String)
  /-- An error of `datamap.SetValue`. -/
  | setValue (e : PathError)

/-- `dict.SetKey(String(k), v)`: replaces the entry of key `k`, or appends one. -/
def dictSetKey (d : List (StarValue × StarValue)) (k : String) (v : StarValue) :
    List (StarValue × StarValue) :=
  match d with
  | [] => [(.string k, v)]
  | (.string k', v') :: rest =>
    if k' = k then (.string k, v) :: rest else (.string k', v') :: dictSetKey rest k v
  | e :: rest => e :: dictSetKey rest k v

mutual

/-- `toStarlarkValue(goValue)`, by the value's kind: every slice and every map by
    reflection, a `[]byte` as a list of its bytes. -/
def toStarlarkValue : Value → Except BindError StarValue
  | .string s => .ok (.string s)
  | .bool b => .ok (.bool b)
  | .int _ v => .ok (.int v.toInt)
  | .uint _ v => .ok (.int v.toNat)
  | .float _ f => .ok (.float f)
  | .duration d => .ok (.duration d)
  | .slice xs =>
    match toStarlarkList xs with
    | .error e => .error e
    | .ok ys => .ok (.list ys)
  | .nilSlice => .ok (.list [])
  | .bytes bs => .ok (.list (bs.map fun b => .int b.toNat))
  | .map _ kvs =>
    match toStarlarkEntries kvs with
    | .error e => .error e
    | .ok es => .ok (.dict (es.foldl (fun d kv => dictSetKey d kv.1 kv.2) []))
  | .time t => .ok (.time t)
  | .null => .error (.notRepresentableInStarlark "invalid")
  | .other k => .error (.notRepresentableInStarlark k.name)

/-- The elements of a slice, in order; the first error wins. -/
def toStarlarkList : List Value → Except BindError (List StarValue)
  | [] => .ok []
  | x :: xs =>
    match toStarlarkValue x with
    | .error e => .error e
    | .ok y =>
      match toStarlarkList xs with
      | .error e => .error e
      | .ok ys => .ok (y :: ys)

/-- The entries of a map in iteration order. A key converts to its `String` and
    cannot fail; `SetKey` of a `String` key into a new dict cannot fail either. -/
def toStarlarkEntries : List (String × Value) → Except BindError (List (String × StarValue))
  | [] => .ok []
  | (k, v) :: rest =>
    match toStarlarkValue v with
    | .error e => .error e
    | .ok sv =>
      match toStarlarkEntries rest with
      | .error e => .error e
      | .ok es => .ok ((k, sv) :: es)

end

mutual

/-- `toGoValue(starValue)`, by the value's dynamic type. An `Int` comes back as
    `int64` when `Int64()` succeeds, else as `uint64` when `Uint64()` does. A list's
    slice is nil until its first `append`; a dict becomes a `core.Map`. -/
def toGoValue : StarValue → Except BindError Value
  | .string s => .ok (.string s)
  | .bool b => .ok (.bool b)
  | .int i =>
    if minInt64 ≤ i ∧ i < int64Bound then .ok (.int .int64 (BitVec.ofInt 64 i))
    else if 0 ≤ i ∧ i < uint64Bound then .ok (.uint .uint64 (BitVec.ofInt 64 i))
    else .error .unknownIntRepresentation
  | .float f => .ok (.float .float64 f)
  | .list xs =>
    match toGoList xs with
    | .error e => .error e
    | .ok ys => .ok (if ys.isEmpty then .nilSlice else .slice ys)
  | .dict kvs =>
    match toGoDict kvs [] with
    | .error e => .error e
    | .ok m => .ok (.map .core m)
  | .time t => .ok (.time t)
  | .duration d => .ok (.duration d)
  | v => .error (.notRepresentableAsEventData v.type)

/-- The elements of a list, in order; the first error wins. -/
def toGoList : List StarValue → Except BindError (List Value)
  | [] => .ok []
  | x :: xs =>
    match toGoValue x with
    | .error e => .error e
    | .ok y =>
      match toGoList xs with
      | .error e => .error e
      | .ok ys => .ok (y :: ys)

/-- The loop over `v.Keys()`: each key must be a `String`; its value (the entry
    `Get` finds) is converted and written with `datamap.SetValue`. -/
def toGoDict : List (StarValue × StarValue) → List (String × Value) →
    Except BindError (List (String × Value))
  | [], m => .ok m
  | (.string key, v) :: rest, m =>
    match toGoValue v with
    | .error e => .error e
    | .ok gv =>
      match Map.setValue m key gv with
      | .error e => .error (.setValue e)
      | .ok m' => toGoDict rest m'
  | (k, _) :: _, _ => .error (.keyNotString k)

end

/-- The bindings are not inverse: the null payload value is not representable, and
    neither is `None`; a `map[string]any` comes back as a `core.Map`. -/
theorem bindings_null_and_map_type :
    toStarlarkValue .null = .error (.notRepresentableInStarlark "invalid") ∧
    toGoValue .none = .error (.notRepresentableAsEventData "NoneType") ∧
    (toStarlarkValue (.map .any [("a", .string "x")]) >>= toGoValue) =
      .ok (.map .core [("a", .string "x")]) :=
  ⟨rfl, rfl, rfl⟩

/-! ## Dicts built key by key -/

theorem dictSetKey_of_fresh {d : List (StarValue × StarValue)} {k : String} (v : StarValue)
    (h : ∀ e ∈ d, e.1 ≠ .string k) : dictSetKey d k v = d ++ [(.string k, v)] := by
  induction d with
  | nil => rfl
  | cons e rest ih =>
    have ih' := ih (fun e' he' => h e' (List.mem_cons_of_mem _ he'))
    obtain ⟨key, v'⟩ := e
    cases key with
    | string k' =>
      have hk : k' ≠ k := fun hk => h _ (List.mem_cons_self _ _) (by simp [hk])
      simp [dictSetKey, hk, ih']
    | _ => simp [dictSetKey, ih']

/-- Setting distinct fresh `String` keys one by one appends their entries in order. -/
theorem foldl_dictSetKey (es : List (String × StarValue)) (d : List (StarValue × StarValue))
    (hnd : (es.map Prod.fst).Nodup) (hfresh : ∀ k ∈ es.map Prod.fst, ∀ e ∈ d, e.1 ≠ .string k) :
    es.foldl (fun d kv => dictSetKey d kv.1 kv.2) d =
      d ++ es.map (fun kv => ((.string kv.1 : StarValue), kv.2)) := by
  induction es generalizing d with
  | nil => simp
  | cons kv rest ih =>
    simp only [List.map_cons, List.nodup_cons, List.mem_cons, forall_eq_or_imp] at hnd hfresh
    rw [List.foldl_cons, dictSetKey_of_fresh _ hfresh.1, ih _ hnd.2]
    · simp
    · intro k hk e he
      rcases List.mem_append.mp he with he | he
      · exact hfresh.2 k hk e he
      · simp only [List.mem_singleton] at he
        subst he
        simp only [ne_eq, StarValue.string.injEq]
        rintro rfl
        exact hnd.1 hk

/-- Writing fresh dot-free keys one by one with `SetValue` appends them in order. -/
theorem setValue_fresh {m : List (String × Value)} {k : String} (v : Value)
    (hk : '.' ∉ k.toList) (hm : lookup k m = none) : Map.setValue m k v = .ok (m ++ [(k, v)]) := by
  rw [Map.setValue_of_not_mem v hk, insert_of_lookup_none v hm]

theorem lookup_append_of_ne {α : Type} {k k' : String} (m : List (String × α)) (v : α)
    (hm : lookup k m = none) (hne : k' ≠ k) : lookup k (m ++ [(k', v)]) = none := by
  induction m with
  | nil => simp [hne]
  | cons kv rest ih =>
    obtain ⟨k'', v''⟩ := kv
    by_cases h : k'' = k
    · simp [h] at hm
    · simp only [lookup_cons, h, if_false] at hm
      simp [h, ih hm]

theorem toGoValue_int_of_int64 {i : Int} (h1 : minInt64 ≤ i) (h2 : i < int64Bound) :
    toGoValue (.int i) = .ok (.int .int64 (BitVec.ofInt 64 i)) := by
  rw [toGoValue, if_pos ⟨h1, h2⟩]

theorem toGoValue_int_of_uint64 {i : Int} (h1 : int64Bound ≤ i) (h2 : i < uint64Bound) :
    toGoValue (.int i) = .ok (.uint .uint64 (BitVec.ofInt 64 i)) := by
  have h0 : 0 ≤ i := le_trans (by simp [int64Bound]) h1
  rw [toGoValue, if_neg (fun h => absurd h.2 (not_lt.mpr h1)), if_pos ⟨h0, h2⟩]

/-- The bytes of a `[]byte`, as Starlark `Int`s, come back as `int64`s. -/
theorem toGoList_bytes (bs : List UInt8) :
    toGoList (bs.map fun b => .int b.toNat) =
      .ok (bs.map fun b => .int .int64 (BitVec.ofInt 64 b.toNat)) := by
  induction bs with
  | nil => rfl
  | cons b bs ih =>
    have hb : (b.toNat : Int) < int64Bound := by
      have : b.toNat < 256 := b.val.isLt
      simp only [int64Bound]
      omega
    rw [List.map_cons, List.map_cons, toGoList, toGoValue_int_of_int64 (minInt64_le_natCast _) hb,
      ih]

/-! ## From payload values and back -/

mutual

/-- The payload values the bindings represent: neither null nor another kind
    anywhere, and maps whose keys are distinct (as a Go map's are) and dot-free. -/
def Representable : Value → Prop
  | .null | .other _ => False
  | .slice xs => RepresentableList xs
  | .map _ kvs => (kvs.map Prod.fst).Nodup ∧ RepresentableEntries kvs
  | _ => True

def RepresentableList : List Value → Prop
  | [] => True
  | x :: xs => Representable x ∧ RepresentableList xs

def RepresentableEntries : List (String × Value) → Prop
  | [] => True
  | (k, v) :: rest => '.' ∉ k.toList ∧ Representable v ∧ RepresentableEntries rest

end

mutual

/-- A value as a round trip returns it: integers as `int64` (unsigned ones from
    `2^63` on as `uint64`), floats as `float64`, a `[]byte` as a `[]any` of `int64`s,
    an empty slice as a nil one, every map as a `core.Map`. -/
def widen : Value → Value
  | .int _ v => .int .int64 (v.signExtend 64)
  | .uint _ v =>
    if (v.toNat : Int) < int64Bound then .int .int64 (BitVec.ofInt 64 v.toNat)
    else .uint .uint64 (BitVec.ofInt 64 v.toNat)
  | .float _ f => .float .float64 f
  | .slice [] => .nilSlice
  | .slice (x :: xs) => .slice (widen x :: widenList xs)
  | .bytes [] => .nilSlice
  | .bytes (b :: bs) => .slice ((b :: bs).map fun b => .int .int64 (BitVec.ofInt 64 b.toNat))
  | .map _ kvs => .map .core (widenEntries kvs)
  | v => v

def widenList : List Value → List Value
  | [] => []
  | x :: xs => widen x :: widenList xs

def widenEntries : List (String × Value) → List (String × Value)
  | [] => []
  | (k, v) :: rest => (k, widen v) :: widenEntries rest

end

theorem widen_uint (k : UintKind) (v : BitVec k.bits) :
    widen (.uint k v) =
      if (v.toNat : Int) < int64Bound then .int .int64 (BitVec.ofInt 64 v.toNat)
      else .uint .uint64 (BitVec.ofInt 64 v.toNat) := rfl

theorem widen_slice_cons (x : Value) (xs : List Value) :
    widen (.slice (x :: xs)) = .slice (widen x :: widenList xs) := rfl

theorem widenList_cons (x : Value) (xs : List Value) :
    widenList (x :: xs) = widen x :: widenList xs := rfl

theorem widenEntries_cons (k : String) (v : Value) (rest : List (String × Value)) :
    widenEntries ((k, v) :: rest) = (k, widen v) :: widenEntries rest := rfl

theorem widenEntries_keys : ∀ kvs : List (String × Value),
    (widenEntries kvs).map Prod.fst = kvs.map Prod.fst
  | [] => rfl
  | (k, v) :: rest => by simp [widenEntries_cons, widenEntries_keys rest]

mutual

/-- Payload to Starlark and back gives the value widened. -/
theorem toGoValue_toStarlarkValue : ∀ v : Value, Representable v →
    ∃ s, toStarlarkValue v = .ok s ∧ toGoValue s = .ok (widen v)
  | .string _, _ | .bool _, _ | .float _ _, _ | .duration _, _ | .time _, _ | .nilSlice, _ =>
    ⟨_, rfl, rfl⟩
  | .int k v, _ => by
    obtain ⟨h1, h2⟩ := toInt_mem_int64 v k.bits_le
    exact ⟨_, rfl, toGoValue_int_of_int64 h1 h2⟩
  | .uint k v, _ => by
    have hlt := v.isLt
    have hp : 2 ^ k.bits ≤ 2 ^ 64 := Nat.pow_le_pow_right (by decide) k.bits_le
    refine ⟨_, rfl, ?_⟩
    by_cases h : (v.toNat : Int) < int64Bound
    · rw [toGoValue_int_of_int64 (minInt64_le_natCast _) h, widen_uint, if_pos h]
    · have h' : (v.toNat : Int) < uint64Bound := by simp only [uint64Bound]; omega
      rw [toGoValue_int_of_uint64 (not_lt.mp h) h', widen_uint, if_neg h]
  | .slice xs, h => by
    obtain ⟨ys, h1, h2⟩ := toGoList_toStarlarkList xs h
    refine ⟨.list ys, by simp [toStarlarkValue, h1], ?_⟩
    cases xs with
    | nil => simp [toStarlarkList] at h1; subst h1; rfl
    | cons x xs => rw [toGoValue, h2, widen_slice_cons, widenList_cons]; rfl
  | .bytes bs, _ => by
    refine ⟨_, rfl, ?_⟩
    rw [toGoValue, toGoList_bytes]
    cases bs <;> rfl
  | .map t kvs, ⟨hnd, h⟩ => by
    obtain ⟨es, h1, hkeys, h2⟩ := toGoDict_toStarlarkEntries kvs h
    refine ⟨.dict (es.foldl (fun d kv => dictSetKey d kv.1 kv.2) []),
      by simp [toStarlarkValue, h1], ?_⟩
    rw [foldl_dictSetKey es [] (hkeys ▸ hnd) (by simp), toGoValue, List.nil_append,
      h2 [] hnd (by simp)]
    rfl

theorem toGoList_toStarlarkList : ∀ xs : List Value, RepresentableList xs →
    ∃ ys, toStarlarkList xs = .ok ys ∧ toGoList ys = .ok (widenList xs)
  | [], _ => ⟨[], rfl, rfl⟩
  | x :: xs, ⟨hx, hxs⟩ => by
    obtain ⟨y, hy1, hy2⟩ := toGoValue_toStarlarkValue x hx
    obtain ⟨ys, hys1, hys2⟩ := toGoList_toStarlarkList xs hxs
    exact ⟨y :: ys, by simp [toStarlarkList, hy1, hys1], by simp [toGoList, hy2, hys2, widenList_cons]⟩

theorem toGoDict_toStarlarkEntries : ∀ kvs : List (String × Value), RepresentableEntries kvs →
    ∃ es, toStarlarkEntries kvs = .ok es ∧ es.map Prod.fst = kvs.map Prod.fst ∧
      ∀ m, (kvs.map Prod.fst).Nodup → (∀ k ∈ kvs.map Prod.fst, lookup k m = none) →
        toGoDict (es.map (fun kv => ((.string kv.1 : StarValue), kv.2))) m =
          .ok (m ++ widenEntries kvs)
  | [], _ => ⟨[], rfl, rfl, fun m _ _ => by simp [toGoDict, widenEntries]⟩
  | (k, v) :: rest, ⟨hk, hv, hrest⟩ => by
    obtain ⟨sv, hs1, hs2⟩ := toGoValue_toStarlarkValue v hv
    obtain ⟨es, he1, hkeys, he2⟩ := toGoDict_toStarlarkEntries rest hrest
    refine ⟨(k, sv) :: es, by simp [toStarlarkEntries, hs1, he1], by simp [hkeys], ?_⟩
    intro m hnd hm
    simp only [List.map_cons, List.nodup_cons, List.mem_cons, forall_eq_or_imp] at hnd hm
    have hfresh : ∀ k' ∈ rest.map Prod.fst, lookup k' (m ++ [(k, widen v)]) = none :=
      fun k' hk' => lookup_append_of_ne m _ (hm.2 k' hk') (fun h => hnd.1 (h ▸ hk'))
    simp only [List.map_cons, toGoDict, hs2, setValue_fresh _ hk hm.1, he2 _ hnd.2 hfresh]
    simp [widenEntries_cons]

end

/-! ## From Starlark values and back -/

mutual

/-- The Starlark values the bindings represent: no `None`, event, error or other type
    anywhere, `Int`s in `[-2^63, 2^64)`, and dicts whose keys are distinct dot-free
    `String`s. -/
def StarRepresentable : StarValue → Prop
  | .int i => minInt64 ≤ i ∧ i < uint64Bound
  | .list xs => StarRepresentableList xs
  | .dict kvs => (kvs.map Prod.fst).Nodup ∧ StarRepresentableDict kvs
  | .none | .nonePtr | .event _ | .error _ | .other _ => False
  | _ => True

def StarRepresentableList : List StarValue → Prop
  | [] => True
  | x :: xs => StarRepresentable x ∧ StarRepresentableList xs

def StarRepresentableDict : List (StarValue × StarValue) → Prop
  | [] => True
  | (.string k, v) :: rest => '.' ∉ k.toList ∧ StarRepresentable v ∧ StarRepresentableDict rest
  | _ :: _ => False

end

mutual

/-- Starlark to payload and back gives the value itself. -/
theorem toStarlarkValue_toGoValue : ∀ s : StarValue, StarRepresentable s →
    ∃ g, toGoValue s = .ok g ∧ toStarlarkValue g = .ok s
  | .string _, _ | .bool _, _ | .float _, _ | .time _, _ | .duration _, _ => ⟨_, rfl, rfl⟩
  | .int i, ⟨h1, h2⟩ => by
    by_cases h : i < int64Bound
    · exact ⟨_, toGoValue_int_of_int64 h1 h, by simp [toStarlarkValue, toInt_ofInt_of_range h1 h]⟩
    · have h0 : 0 ≤ i := le_trans (by simp [int64Bound]) (not_lt.mp h)
      exact ⟨_, toGoValue_int_of_uint64 (not_lt.mp h) h2,
        by simp [toStarlarkValue, toNat_ofInt_of_range h0 h2]⟩
  | .list xs, h => by
    obtain ⟨ys, h1, h2, hlen⟩ := toStarlarkList_toGoList xs h
    refine ⟨if ys.isEmpty then .nilSlice else .slice ys, by simp [toGoValue, h1], ?_⟩
    cases ys with
    | nil => cases xs with
      | nil => rfl
      | cons => simp at hlen
    | cons y ys => simp [toStarlarkValue, h2]
  | .dict kvs, ⟨hnd, h⟩ => by
    obtain ⟨conv, hgo, es, hes, hmap⟩ := toStarlarkEntries_toGoDict kvs h
    refine ⟨.map .core conv, by rw [toGoValue, hgo [] hnd (by simp), List.nil_append], ?_⟩
    have hesnd : (es.map Prod.fst).Nodup := by
      have h' : ((es.map Prod.fst).map StarValue.string).Nodup := by
        rw [← hmap] at hnd
        simpa [List.map_map, Function.comp_def] using hnd
      exact List.Pairwise.of_map StarValue.string (fun a b h hab => h (hab ▸ rfl)) h'
    simp [toStarlarkValue, hes, foldl_dictSetKey es [] hesnd (by simp), hmap]
  | .none, h | .nonePtr, h | .event _, h | .error _, h | .other _, h => h.elim

theorem toStarlarkList_toGoList : ∀ xs : List StarValue, StarRepresentableList xs →
    ∃ ys, toGoList xs = .ok ys ∧ toStarlarkList ys = .ok xs ∧ ys.length = xs.length
  | [], _ => ⟨[], rfl, rfl, rfl⟩
  | x :: xs, ⟨hx, hxs⟩ => by
    obtain ⟨y, hy1, hy2⟩ := toStarlarkValue_toGoValue x hx
    obtain ⟨ys, hys1, hys2, hlen⟩ := toStarlarkList_toGoList xs hxs
    exact ⟨y :: ys, by simp [toGoList, hy1, hys1], by simp [toStarlarkList, hy2, hys2],
      by simp [hlen]⟩

theorem toStarlarkEntries_toGoDict : ∀ kvs : List (StarValue × StarValue),
    StarRepresentableDict kvs →
    ∃ conv, (∀ m, (kvs.map Prod.fst).Nodup →
        (∀ k : String, (StarValue.string k) ∈ kvs.map Prod.fst → lookup k m = none) →
        toGoDict kvs m = .ok (m ++ conv)) ∧
      ∃ es, toStarlarkEntries conv = .ok es ∧
        es.map (fun kv => ((.string kv.1 : StarValue), kv.2)) = kvs
  | [], _ => ⟨[], fun m _ _ => by simp [toGoDict], [], rfl, rfl⟩
  | (.string k, v) :: rest, ⟨hk, hv, hrest⟩ => by
    obtain ⟨g, hg1, hg2⟩ := toStarlarkValue_toGoValue v hv
    obtain ⟨conv, hconv, es, hes, hmap⟩ := toStarlarkEntries_toGoDict rest hrest
    refine ⟨(k, g) :: conv, ?_, (k, v) :: es, by simp [toStarlarkEntries, hg2, hes], by simp [hmap]⟩
    intro m hnd hm
    simp only [List.map_cons, List.nodup_cons, List.mem_cons, forall_eq_or_imp] at hnd
    have hm0 : lookup k m = none := hm k (by simp)
    have hfresh : ∀ k' : String, (StarValue.string k') ∈ rest.map Prod.fst →
        lookup k' (m ++ [(k, g)]) = none := fun k' hk' =>
      lookup_append_of_ne m _ (hm k' (by simp [hk'])) (fun h => hnd.1 (h ▸ hk'))
    simp [toGoDict, hg1, setValue_fresh _ hk hm0, hconv _ hnd.2 hfresh]
  | (.int _, _) :: _, h | (.bool _, _) :: _, h | (.float _, _) :: _, h | (.time _, _) :: _, h
  | (.duration _, _) :: _, h | (.none, _) :: _, h | (.nonePtr, _) :: _, h | (.list _, _) :: _, h
  | (.dict _, _) :: _, h | (.event _, _) :: _, h | (.error _, _) :: _, h
  | (.other _, _) :: _, h => h.elim

end

/-- The bindings are inverse on the values both sides represent: payload to Starlark
    and back widens, Starlark to payload and back is the identity. -/
theorem bindings_roundtrip :
    (∀ v, Representable v → ∃ s, toStarlarkValue v = .ok s ∧ toGoValue s = .ok (widen v)) ∧
    (∀ s, StarRepresentable s → ∃ g, toGoValue s = .ok g ∧ toStarlarkValue g = .ok s) :=
  ⟨toGoValue_toStarlarkValue, toStarlarkValue_toGoValue⟩

/-- `{"n": int8(5), "xs": []any{}}` comes back as `{"n": int64(5), "xs": nil}`. -/
theorem bindings_roundtrip_sample :
    Representable (.map .any [("n", .int .int8 5#8), ("xs", .slice [])]) ∧
    ∃ s, toStarlarkValue (.map .any [("n", .int .int8 5#8), ("xs", .slice [])]) = .ok s ∧
      toGoValue s = .ok (widen (.map .any [("n", .int .int8 5#8), ("xs", .slice [])])) := by
  have h : Representable (.map .any [("n", .int .int8 5#8), ("xs", .slice [])]) := by
    simp [Representable, RepresentableEntries, RepresentableList]
  exact ⟨h, bindings_roundtrip.1 _ h⟩

end Neptunus.Starlark
