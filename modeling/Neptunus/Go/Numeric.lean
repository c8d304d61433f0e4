import Mathlib.Data.Rat.Floor
import Mathlib.Tactic.Linarith
import Mathlib.Tactic.NormNum

/-!
  Neptunus.Go.Numeric

  Go's numeric semantics as the plugins use it: fixed-width integers as `BitVec`,
  floating-point values as exact dyadic rationals, and the float-to-integer
  conversions `int64(t)` / `uint64(t)`.

  A finite float is `mant * 2 ^ exp`; the format's bounds on `mant` and `exp` play
  no role in the converters, so every dyadic is admitted. The Go specification
  (Conversions) leaves a float-to-integer conversion whose truncated value the
  target type cannot represent "implementation-dependent": that result is a
  parameter `impl` of every conversion, so each theorem holds on every platform.
-/

namespace Neptunus.Go

/-! ## Floating-point values -/

/-- A Go `float32` or `float64` value: finite `mant * 2 ^ exp`, an infinity, or NaN. -/
inductive GoFloat where
  | finite (mant : Int) (exp : Int)
  | inf (neg : Bool)
  | nan
  deriving DecidableEq, Repr

/-- The exact value of a finite float. -/
def GoFloat.value (mant exp : Int) : ℚ := mant * 2 ^ exp

/-- Go's `t < c` for a float `t` and a constant `c` that the float format represents
    exactly (NaN compares false with everything). -/
def GoFloat.lt (t : GoFloat) (c : ℚ) : Bool :=
  match t with
  | .finite m e => decide (GoFloat.value m e < c)
  | .inf neg => neg
  | .nan => false

/-- Go's `t > c`, as `GoFloat.lt`. -/
def GoFloat.gt (t : GoFloat) (c : ℚ) : Bool :=
  match t with
  | .finite m e => decide (c < GoFloat.value m e)
  | .inf neg => !neg
  | .nan => false

/-- Truncation toward zero, the rounding of every Go float-to-integer conversion. -/
def truncRat (q : ℚ) : Int := if 0 ≤ q then ⌊q⌋ else ⌈q⌉

/-! ## Integer ranges -/

/-- `math.MinInt64`, `math.MaxInt64 + 1` and `math.MaxUint64 + 1`. Converted to a
    float format, the untyped constants `math.MaxInt64` and `math.MaxUint64` round to
    `2 ^ 63` and `2 ^ 64` (they need 63 and 64 significant bits). -/
def minInt64 : Int := -2 ^ 63
def int64Bound : Int := 2 ^ 63
def uint64Bound : Int := 2 ^ 64

/-- Go's `int64(t)` for a float `t`. -/
def GoFloat.toInt64 (impl : GoFloat → BitVec 64) (t : GoFloat) : BitVec 64 :=
  match t with
  | .finite m e =>
    let z := truncRat (GoFloat.value m e)
    if minInt64 ≤ z ∧ z < int64Bound then BitVec.ofInt 64 z else impl t
  | _ => impl t

/-- Go's `uint64(t)` for a float `t`. -/
def GoFloat.toUint64 (impl : GoFloat → BitVec 64) (t : GoFloat) : BitVec 64 :=
  match t with
  | .finite m e =>
    let z := truncRat (GoFloat.value m e)
    if 0 ≤ z ∧ z < uint64Bound then BitVec.ofInt 64 z else impl t
  | _ => impl t

/-! ## Truncation bounds -/

theorem truncRat_le_of_le {q : ℚ} {c : Int} (h : q ≤ c) (hc : 0 ≤ c) : truncRat q ≤ c := by
  unfold truncRat
  split
  · exact Int.floor_le_iff.mpr (by linarith)
  · have := Int.ceil_le.mpr (show q ≤ ((0 : Int) : ℚ) by simp; linarith)
    omega

theorem le_truncRat_of_le {q : ℚ} {c : Int} (h : (c : ℚ) ≤ q) (hc : c ≤ 0) : c ≤ truncRat q := by
  unfold truncRat
  split
  · have := Int.floor_nonneg.mpr ‹0 ≤ q›
    omega
  · exact Int.le_ceil_iff.mpr (by linarith)

/-- Every `int64` lies below `2 ^ 63`. -/
theorem toInt_lt_int64Bound (x : BitVec 64) : x.toInt < int64Bound := by
  have := x.isLt
  rw [BitVec.toInt_eq_toNat_cond]
  simp only [int64Bound]
  split <;> omega

/-- Reading an `int64` back: `BitVec.ofInt 64` is the identity on the `int64` range. -/
theorem toInt_ofInt_of_range {z : Int} (h1 : minInt64 ≤ z) (h2 : z < int64Bound) :
    (BitVec.ofInt 64 z).toInt = z := by
  simp only [minInt64, int64Bound] at h1 h2
  rw [BitVec.toInt_ofInt, Int.bmod_def]
  norm_num
  split <;> omega

/-- Reading a `uint64` back: `BitVec.ofInt 64` is the identity on the `uint64` range. -/
theorem toNat_ofInt_of_range {z : Int} (h1 : 0 ≤ z) (h2 : z < uint64Bound) :
    ((BitVec.ofInt 64 z).toNat : Int) = z := by
  simp only [uint64Bound] at h2
  rw [BitVec.toNat_ofInt]
  norm_num
  omega

theorem minInt64_le_natCast (n : Nat) : minInt64 ≤ n :=
  le_trans (by simp [minInt64]) (Int.natCast_nonneg n)

/-- Every value of a width up to 64 is an `int64` value. -/
theorem toInt_mem_int64 {w : Nat} (x : BitVec w) (hw : w ≤ 64) :
    minInt64 ≤ x.toInt ∧ x.toInt < int64Bound := by
  have hx := x.isLt
  have hp : 2 ^ w ≤ 2 ^ 64 := Nat.pow_le_pow_right (by decide) hw
  rw [BitVec.toInt_eq_toNat_cond]
  simp only [minInt64, int64Bound]
  split <;> omega

/-- `int64(x)` of a signed value keeps it. -/
theorem toInt_signExtend {w : Nat} (x : BitVec w) (hw : w ≤ 64) :
    (x.signExtend 64).toInt = x.toInt := by
  obtain ⟨h1, h2⟩ := toInt_mem_int64 x hw
  exact toInt_ofInt_of_range h1 h2

/-- `int64(x)` of an unsigned value below `2 ^ 63` keeps it. -/
theorem toInt_setWidth {w : Nat} (x : BitVec w) (hw : w ≤ 64) (h : x.toNat < 2 ^ 63) :
    (x.setWidth 64).toInt = x.toNat := by
  have hp : 2 ^ w ≤ 2 ^ 64 := Nat.pow_le_pow_right (by decide) hw
  rw [BitVec.toInt_eq_toNat_cond, BitVec.toNat_setWidth, Nat.mod_eq_of_lt (by omega)]
  split <;> omega

/-- `uint64(x)` of an unsigned value keeps it. -/
theorem toNat_setWidth_of_le {w : Nat} (x : BitVec w) (hw : w ≤ 64) :
    (x.setWidth 64).toNat = x.toNat := by
  have hp : 2 ^ w ≤ 2 ^ 64 := Nat.pow_le_pow_right (by decide) hw
  rw [BitVec.toNat_setWidth, Nat.mod_eq_of_lt (by omega)]

/-- `uint64(x)` of a nonnegative signed value keeps it. -/
theorem toNat_signExtend {w : Nat} (x : BitVec w) (hw : w ≤ 64) (h : 0 ≤ x.toInt) :
    ((x.signExtend 64).toNat : Int) = x.toInt := by
  obtain ⟨-, h2⟩ := toInt_mem_int64 x hw
  rw [BitVec.signExtend, toNat_ofInt_of_range h (by simp only [int64Bound, uint64Bound] at *; omega)]

/-! ## Conversions inside the guard -/

/-- A finite float inside `[-2^63, 2^63]` whose truncation is not `2^63` converts to
    its truncation. -/
theorem toInt64_of_le (impl : GoFloat → BitVec 64) {m e : Int}
    (h1 : (minInt64 : ℚ) ≤ GoFloat.value m e) (h2 : GoFloat.value m e ≤ int64Bound)
    (hne : truncRat (GoFloat.value m e) ≠ int64Bound) :
    ((GoFloat.finite m e).toInt64 impl).toInt = truncRat (GoFloat.value m e) := by
  have hlo := le_truncRat_of_le h1 (by simp [minInt64])
  have hhi := truncRat_le_of_le h2 (by simp [int64Bound])
  have hin : minInt64 ≤ truncRat (GoFloat.value m e) ∧ truncRat (GoFloat.value m e) < int64Bound :=
    ⟨hlo, lt_of_le_of_ne hhi hne⟩
  simp only [GoFloat.toInt64, if_pos hin]
  exact toInt_ofInt_of_range hin.1 hin.2

/-- A finite float inside `[0, 2^64]` whose truncation is not `2^64` converts to its
    truncation. -/
theorem toUint64_of_le (impl : GoFloat → BitVec 64) {m e : Int}
    (h1 : 0 ≤ GoFloat.value m e) (h2 : GoFloat.value m e ≤ uint64Bound)
    (hne : truncRat (GoFloat.value m e) ≠ uint64Bound) :
    (((GoFloat.finite m e).toUint64 impl).toNat : Int) = truncRat (GoFloat.value m e) := by
  have hlo := le_truncRat_of_le (c := 0) (by simpa using h1) le_rfl
  have hhi := truncRat_le_of_le h2 (by simp [uint64Bound])
  have hin : 0 ≤ truncRat (GoFloat.value m e) ∧ truncRat (GoFloat.value m e) < uint64Bound :=
    ⟨hlo, lt_of_le_of_ne hhi hne⟩
  simp only [GoFloat.toUint64, if_pos hin]
  exact toNat_ofInt_of_range hin.1 hin.2

end Neptunus.Go
