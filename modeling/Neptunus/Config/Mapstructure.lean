import Neptunus.Core.Payload

/-!
  Neptunus.Config.Mapstructure

  The decode hooks of the configuration decoder (`mapstructure.Decode`, package
  `mapstructure`): `ToTimeHookFunc` turns an RFC 3339 string or a number of Unix
  milliseconds into a `time.Time`, `ToTimeDurationHookFunc` a string or an `int64`
  into a `time.Duration`, and `Decode` composes the two.

  A hook sees the target field's type and the value decoded from the document; the
  value's kind is its constructor (`float64` for a JSON number, `int64` for a TOML
  integer). `time.Parse(time.RFC3339, s)`, `time.ParseDuration` and the platform's
  out-of-range `int64(t)` are parameters.

  A number of milliseconds `m` is turned into nanoseconds by the `int64` product
  `m * int64(time.Millisecond)`, which wraps once `|m|` passes `9223372036854`
  (the year 2262), long before `time.Time` runs out of instants: the hook yields the
  instant `m` milliseconds after the epoch exactly when the product does not wrap
  (`toTimeHookFunc_millis`).
-/

namespace Neptunus.Config

open Neptunus.Go Neptunus.Core

/-- The target field's type as the hooks test it: `time.Time`, `time.Duration`, or
    anything else. -/
inductive FieldType where
  | time | duration | other
  deriving DecidableEq, Repr

/-- `time.Millisecond`, in nanoseconds. -/
def millisecond : BitVec 64 := 1000000

/-- `time.Unix(sec, nsec)`: `sec` seconds and `nsec` nanoseconds after the epoch. -/
def unix (sec nsec : BitVec 64) : Instant := ⟨sec.toInt * 1000000000 + nsec.toInt⟩

/-- The library calls of the hooks. -/
structure Lib where
  ParseRFC3339 : String → Except String Instant
  ParseDuration : String → Except String (BitVec 64)
  int64Of : GoFloat → BitVec 64

/-- `ToTimeHookFunc()` applied to a target type and a value. -/
def toTimeHookFunc (lib : Lib) (t : FieldType) (data : Value) : Except String Value :=
  if t ≠ .time then .ok data else
  match data with
  | .string s => (lib.ParseRFC3339 s).map .time
  | .float .float64 f => .ok (.time (unix 0 (f.toInt64 lib.int64Of * millisecond)))
  | .int .int64 m =>
    let m : BitVec 64 := m
    .ok (.time (unix 0 (m * millisecond)))
  | _ => .ok data

/-- `ToTimeDurationHookFunc()` applied to a target type and a value. -/
def toTimeDurationHookFunc (lib : Lib) (t : FieldType) (data : Value) : Except String Value :=
  if t ≠ .duration then .ok data else
  match data with
  | .string s => (lib.ParseDuration s).map .duration
  | .int .int64 d => .ok (.duration d)
  | _ => .ok data

/-- The hook `Decode` installs: `mapstructure.ComposeDecodeHookFunc` of the two, each
    seeing the value the one before returned. -/
def decodeHook (lib : Lib) (t : FieldType) (data : Value) : Except String Value :=
  toTimeHookFunc lib t data >>= toTimeDurationHookFunc lib t

/-! ## Milliseconds -/

/-- The `int64` product of `m` and `time.Millisecond` is `m` milliseconds in
    nanoseconds exactly when that number is an `int64`. -/
theorem toInt_mul_millisecond (m : BitVec 64) :
    (m * millisecond).toInt = m.toInt * 1000000 ↔
      minInt64 ≤ m.toInt * 1000000 ∧ m.toInt * 1000000 < int64Bound := by
  have h : (m * millisecond).toInt = (BitVec.ofInt 64 (m.toInt * 1000000)).toInt := by
    rw [BitVec.toInt_mul, BitVec.toInt_ofInt, show millisecond.toInt = 1000000 by decide]
  constructor
  · intro heq
    rw [← heq]
    exact toInt_mem_int64 _ le_rfl
  · rintro ⟨h1, h2⟩
    rw [h]
    exact toInt_ofInt_of_range h1 h2

/-- `time.Unix(0, nsec)` is the instant `nsec` nanoseconds after the epoch. -/
theorem unix_zero (nsec : BitVec 64) : unix 0 nsec = ⟨nsec.toInt⟩ := by
  simp [unix]

/-- A number of milliseconds `m`, an `int64` or a `float64` with an integer value in
    the `int64` range, becomes the instant `m` milliseconds after the epoch exactly
    when `m * 10^6` is an `int64`. -/
theorem toTimeHookFunc_millis (lib : Lib) :
    (∀ m : BitVec 64, toTimeHookFunc lib .time (.int .int64 m) = .ok (.time ⟨m.toInt * 1000000⟩) ↔
      minInt64 ≤ m.toInt * 1000000 ∧ m.toInt * 1000000 < int64Bound) ∧
    (∀ (mant e z : Int), GoFloat.value mant e = z → minInt64 ≤ z → z < int64Bound →
      (toTimeHookFunc lib .time (.float .float64 (.finite mant e)) = .ok (.time ⟨z * 1000000⟩) ↔
        minInt64 ≤ z * 1000000 ∧ z * 1000000 < int64Bound)) := by
  refine ⟨fun m => ?_, fun mant e z hv h1 h2 => ?_⟩
  · simp only [toTimeHookFunc, ne_eq, not_true_eq_false, if_false, unix_zero, Except.ok.injEq,
      Value.time.injEq, Instant.mk.injEq]
    exact toInt_mul_millisecond m
  · have hz : truncRat (GoFloat.value mant e) = z := by
      rw [hv, truncRat]
      split <;> simp
    have hconv : (GoFloat.finite mant e).toInt64 lib.int64Of = BitVec.ofInt 64 z := by
      simp only [GoFloat.toInt64, hz, if_pos (And.intro h1 h2)]
    simp only [toTimeHookFunc, ne_eq, not_true_eq_false, if_false, unix_zero, hconv,
      Except.ok.injEq, Value.time.injEq, Instant.mk.injEq]
    have := toInt_mul_millisecond (BitVec.ofInt 64 z)
    rwa [toInt_ofInt_of_range h1 h2] at this

/-- Hooks whose parsers reject everything; the number cases call none of them. -/
def noParse : Lib := ⟨fun _ => .error "parsing time", fun _ => .error "invalid duration", fun _ => 0⟩

/-- `9223372036855` milliseconds, in the year 2262, wrap: the hook yields an instant
    in the year 1677. -/
theorem toTimeHookFunc_millis_2262 :
    toTimeHookFunc noParse .time (.int .int64 9223372036855) ≠
      .ok (.time ⟨(9223372036855 : BitVec 64).toInt * 1000000⟩) ∧
    toTimeHookFunc noParse .time (.int .int64 9223372036855) =
      .ok (.time ⟨9223372036855000000 - 2 ^ 64⟩) :=
  ⟨fun h => absurd (((toTimeHookFunc_millis noParse).1 9223372036855).mp h) (by decide), rfl⟩

end Neptunus.Config
