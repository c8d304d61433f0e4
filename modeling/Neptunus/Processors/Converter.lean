import Neptunus.Go.Strconv
import Neptunus.Core.Event

/-!
  Neptunus.Processors.Converter

  The converter processor's `converter.Convert` and the value converters it calls
  (`llm.go`, package `converter`): `anyToString`, `anyToInteger`, `anyToUnsigned`,
  `anyToFloat`, `anyToBoolean`. `strconv.ParseFloat`, `FormatFloat`, Go's
  `float64(x)` of an integer and the platform's out-of-range conversions are
  parameters (`Lib`).

  Both float guards compare with `math.MinInt64`/`math.MaxInt64` (resp.
  `0`/`math.MaxUint64`). Converted to a float, `math.MaxInt64` is `2 ^ 63` and
  `math.MaxUint64` is `2 ^ 64`, so a float equal to the bound passes the guard and
  `int64(t)` / `uint64(t)` is then implementation-dependent: the one input where a
  nil error comes with a value other than the truncated input
  (`anyToInteger_float_two_pow_63`, `anyToUnsigned_float_two_pow_64`). Every other
  numeric input converts exactly (`anyToInteger_exact`, `anyToUnsigned_exact`).

  `Convert` ignores a range error when `ioor` is set by comparing the error with the
  bare `strconv.ErrRange`, which the converters return for numbers; the `strconv`
  parsers wrap it in a `*strconv.NumError`, so an out-of-range string, from a label
  or a field, fails the conversion (`convert_ioor_string`).
-/

namespace Neptunus.Processors.Converter

open Neptunus.Go Neptunus.Go.Strconv Neptunus.Core

/-- The errors the converters return: the bare `strconv.ErrRange`, a
    `*strconv.NumError` of a parser, or an unsupported type. -/
inductive ConvError where
  | errRange
  | numError (e : NumError)
  | unsupported (msg : String)
  deriving DecidableEq, Repr

/-- `anyToInteger(v)`: an `int64` and an error. `impl` is the platform's
    `int64(t)` for a float `t` out of range. Where a guard fails the source returns
    the same conversion as on success, with `strconv.ErrRange`. -/
def anyToInteger (impl : GoFloat → BitVec 64) : Value → BitVec 64 × Option ConvError
  | .string t => let (n, e) := parseInt t 0 64; (n, e.map .numError)
  | .int _ t => (t.signExtend 64, none)
  | .uint .uint t | .uint .uint64 t =>
    (t.setWidth 64, if 2 ^ 63 - 1 < t.toNat then some .errRange else none)
  | .uint _ t => (t.setWidth 64, none)
  | .float _ t =>
    (t.toInt64 impl, if t.lt minInt64 || t.gt int64Bound then some .errRange else none)
  | .bool b => (if b then 1 else 0, none)
  | _ => (0, some (.unsupported "cannot convert to integer: unsupported type"))

/-- `anyToUnsigned(v)`: a `uint64` and an error. `impl` is the platform's
    `uint64(t)` for a float `t` out of range. -/
def anyToUnsigned (impl : GoFloat → BitVec 64) : Value → BitVec 64 × Option ConvError
  | .string t => let (n, e) := parseUint t 0 64; (n, e.map .numError)
  | .int _ t => (t.signExtend 64, if t.toInt < 0 then some .errRange else none)
  | .uint _ t => (t.setWidth 64, none)
  | .float _ t =>
    (t.toUint64 impl, if t.lt 0 || t.gt uint64Bound then some .errRange else none)
  | .bool b => (if b then 1 else 0, none)
  | _ => (0, some (.unsupported "cannot convert to unsigned: unsupported type"))

/-- The library calls of the converters beyond `strconv`'s integer parsers:
    `strconv.ParseFloat(s, 64)`, `strconv.FormatFloat(f, 'f', -1, 64)`, Go's
    `float64(x)` of an integer, and the platform's `int64(t)` and `uint64(t)` of a
    float out of range. `ParseFloat`'s errors are `*strconv.NumError`s, as Go's are. -/
structure Lib where
  ParseFloat : String → GoFloat × Option NumError
  FormatFloat : GoFloat → String
  float64Of : Int → GoFloat
  int64Of : GoFloat → BitVec 64
  uint64Of : GoFloat → BitVec 64

/-- `anyToString(v)`. A `float32` is widened to `float64` exactly. -/
def anyToString (lib : Lib) : Value → String × Option ConvError
  | .string t => (t, none)
  | .int _ t => (formatInt t.toInt, none)
  | .uint _ t => (formatInt t.toNat, none)
  | .float _ t => (lib.FormatFloat t, none)
  | .bool b => (formatBool b, none)
  | _ => ("", some (.unsupported "cannot convert to string: unsupported type"))

/-- `anyToFloat(v)`. -/
def anyToFloat (lib : Lib) : Value → GoFloat × Option ConvError
  | .string t => let (f, e) := lib.ParseFloat t; (f, e.map .numError)
  | .int _ t => (lib.float64Of t.toInt, none)
  | .uint _ t => (lib.float64Of t.toNat, none)
  | .float _ t => (t, none)
  | .bool b => (if b then .finite 1 0 else .finite 0 0, none)
  | _ => (.finite 0 0, some (.unsupported "cannot convert to float: unsupported type"))

/-- `anyToBoolean(v)`: a number is true when positive. -/
def anyToBoolean : Value → Bool × Option ConvError
  | .string t => let (b, e) := parseBool t; (b, e.map .numError)
  | .int _ t => (decide (0 < t.toInt), none)
  | .uint _ t => (decide (0 < t.toNat), none)
  | .float _ t => (t.gt 0, none)
  | .bool b => (b, none)
  | _ => (false, some (.unsupported "cannot convert to boolean: unsupported type"))

/-! ## Exact conversions -/

/-- The numeric value of a non-string input, truncated toward zero (`1`/`0` for
    booleans); `none` for strings, NaN, infinities and non-numeric values. -/
def truncatedValue : Value → Option Int
  | .int _ v => some v.toInt
  | .uint _ v => some v.toNat
  | .float _ (.finite m e) => some (truncRat (GoFloat.value m e))
  | .bool b => some (if b then 1 else 0)
  | _ => none

/-- Every unsigned kind narrower than `uint` holds values below `2 ^ 63`. -/
theorem UintKind.toNat_lt_of_narrow {k : UintKind} (hk : k ≠ .uint ∧ k ≠ .uint64)
    (t : BitVec k.bits) : t.toNat < 2 ^ 63 := by
  have := t.isLt
  cases k <;> simp_all [UintKind.bits] <;> omega

/-- The inputs with a truncated value: integers, finite floats and booleans. -/
theorem truncatedValue_cases {v : Value} {z : Int} (h : truncatedValue v = some z) :
    (∃ k t, v = .int k t ∧ z = t.toInt) ∨ (∃ k t, v = .uint k t ∧ z = t.toNat) ∨
    (∃ k m e, v = .float k (.finite m e) ∧ z = truncRat (GoFloat.value m e)) ∨
    (∃ b : Bool, v = .bool b ∧ z = if b then 1 else 0) := by
  unfold truncatedValue at h
  split at h <;> simp only [Option.some.injEq, reduceCtorEq] at h <;> subst h
  · exact .inl ⟨_, _, rfl, rfl⟩
  · exact .inr (.inl ⟨_, _, rfl, rfl⟩)
  · exact .inr (.inr (.inl ⟨_, _, _, rfl, rfl⟩))
  · exact .inr (.inr (.inr ⟨_, rfl, rfl⟩))

/-- A nil error from `anyToInteger` on a numeric input comes with the input's
    truncated value, unless that value is `2 ^ 63`. -/
theorem anyToInteger_exact (impl : GoFloat → BitVec 64) {v : Value} {z : Int}
    (hz : truncatedValue v = some z) (hne : z ≠ int64Bound)
    (hok : (anyToInteger impl v).2 = none) : (anyToInteger impl v).1.toInt = z := by
  obtain ⟨k, t, rfl, rfl⟩ | ⟨k, t, rfl, rfl⟩ | ⟨k, m, e, rfl, rfl⟩ | ⟨b, rfl, rfl⟩ :=
    truncatedValue_cases hz
  · simpa [anyToInteger] using toInt_signExtend t k.bits_le
  · by_cases hk : k = .uint ∨ k = .uint64
    · rcases hk with rfl | rfl <;>
      · by_cases ht : 2 ^ 63 - 1 < t.toNat
        · simp [anyToInteger] at hok
          omega
        · exact toInt_setWidth t (by decide) (by omega)
    · have hlt := UintKind.toNat_lt_of_narrow (not_or.mp hk) t
      cases k <;> simp_all [anyToInteger, toInt_setWidth t (UintKind.bits_le _) hlt]
  · simp only [anyToInteger, GoFloat.lt, GoFloat.gt, Bool.or_eq_true, decide_eq_true_eq,
      ite_eq_right_iff, imp_false, not_or, not_lt, reduceCtorEq] at hok ⊢
    exact toInt64_of_le impl hok.1 hok.2 hne
  · cases b <;> simp [anyToInteger]

/-- A nil error from `anyToUnsigned` on a numeric input comes with the input's
    truncated value, unless that value is `2 ^ 64`. -/
theorem anyToUnsigned_exact (impl : GoFloat → BitVec 64) {v : Value} {z : Int}
    (hz : truncatedValue v = some z) (hne : z ≠ uint64Bound)
    (hok : (anyToUnsigned impl v).2 = none) : ((anyToUnsigned impl v).1.toNat : Int) = z := by
  obtain ⟨k, t, rfl, rfl⟩ | ⟨k, t, rfl, rfl⟩ | ⟨k, m, e, rfl, rfl⟩ | ⟨b, rfl, rfl⟩ :=
    truncatedValue_cases hz
  · by_cases ht : t.toInt < 0
    · simp [anyToUnsigned, ht] at hok
    · exact toNat_signExtend t k.bits_le (by omega)
  · rw [anyToUnsigned, toNat_setWidth_of_le t k.bits_le]
  · simp only [anyToUnsigned, GoFloat.lt, GoFloat.gt, Bool.or_eq_true, decide_eq_true_eq,
      ite_eq_right_iff, imp_false, not_or, not_lt, reduceCtorEq] at hok ⊢
    exact toUint64_of_le impl hok.1 hok.2 hne
  · cases b <;> simp [anyToUnsigned]

/-! ## The float on the bound -/

/-- `2 ^ 63` as a float: `1 * 2 ^ 63`, exact in `float32` and `float64`. -/
def twoPow63 : GoFloat := .finite 1 63

/-- `2 ^ 64` as a float. -/
def twoPow64 : GoFloat := .finite 1 64

theorem twoPow63_value : GoFloat.value 1 63 = (int64Bound : ℚ) := by
  norm_num [GoFloat.value, int64Bound]

theorem twoPow64_value : GoFloat.value 1 64 = (uint64Bound : ℚ) := by
  norm_num [GoFloat.value, uint64Bound]

/-- At `2 ^ 63` `anyToInteger` returns a nil error with an `int64`, which cannot be
    the truncated input `2 ^ 63`, whatever the platform's conversion gives. -/
theorem anyToInteger_float_two_pow_63 (impl : GoFloat → BitVec 64) (k : FloatKind) :
    (anyToInteger impl (.float k twoPow63)).2 = none ∧
      (anyToInteger impl (.float k twoPow63)).1.toInt ≠ truncRat (GoFloat.value 1 63) := by
  have hv := twoPow63_value
  have htrunc : truncRat (GoFloat.value 1 63) = int64Bound := by
    rw [hv, truncRat, if_pos (by simp [int64Bound]), Int.floor_intCast]
  have hguard : (twoPow63.lt minInt64 || twoPow63.gt int64Bound) = false := by
    norm_num [twoPow63, GoFloat.lt, GoFloat.gt, hv, minInt64, int64Bound]
  refine ⟨by simp [anyToInteger, hguard], ?_⟩
  rw [htrunc]
  exact ne_of_lt (toInt_lt_int64Bound _)

/-- At `2 ^ 64` `anyToUnsigned` returns a nil error with a `uint64`, which cannot be
    the truncated input `2 ^ 64`. -/
theorem anyToUnsigned_float_two_pow_64 (impl : GoFloat → BitVec 64) (k : FloatKind) :
    (anyToUnsigned impl (.float k twoPow64)).2 = none ∧
      ((anyToUnsigned impl (.float k twoPow64)).1.toNat : Int) ≠ truncRat (GoFloat.value 1 64) := by
  have hv := twoPow64_value
  have htrunc : truncRat (GoFloat.value 1 64) = uint64Bound := by
    rw [hv, truncRat, if_pos (by simp [uint64Bound]), Int.floor_intCast]
  have hguard : (twoPow64.lt 0 || twoPow64.gt uint64Bound) = false := by
    norm_num [twoPow64, GoFloat.lt, GoFloat.gt, hv, uint64Bound]
  refine ⟨by simp [anyToUnsigned, hguard], ?_⟩
  rw [htrunc]
  have := (anyToUnsigned impl (.float k twoPow64)).1.isLt
  simp only [uint64Bound]
  omega

/-! ## Convert -/

/-- Where a conversion reads its input: `fromLabel` or `fromField`. -/
inductive From where
  | label | field
  deriving DecidableEq, Repr

/-- The conversion targets, `toTimestamp` to `toDuration`. -/
inductive To where
  | timestamp | id | label | string | integer | unsigned | float | boolean | time | duration
  deriving DecidableEq, Repr

/-- `conversionParams`; `from` and `to` are Lean keywords, so their fields are `from_`
    and `to_`. -/
structure conversionParams where
  from_ : From
  to_ : To
  path : String
  ioor : Bool

/-- The errors `Convert` returns, one per `return fmt.Errorf(...)` of the source. -/
inductive ConvertError where
  /-- `"from label: %v: no such label"`. -/
  | noSuchLabel (path : String)
  /-- `"from label: %v: %w"`. -/
  | fromLabel (path : String) (err : ConvError)
  /-- `"from label: set field failed: %v: %w"`. -/
  | labelSetField (path : String) (err : PathError)
  /-- `"from field: %v: %w"` with the error of `GetField`. -/
  | fieldGet (path : String) (err : PathError)
  /-- `"from field: %v: %w"` with the error of a converter. -/
  | fromField (path : String) (err : ConvError)
  /-- `"from field: set field failed: %v: %w"`. -/
  | fieldSetField (path : String) (err : PathError)
  deriving DecidableEq, Repr

/-- The `switch p.to` of the label branch for the targets that go on to `SetField`:
    the value in `field` and the parser's error. A target without a case leaves
    `field` nil. -/
def labelField (lib : Lib) (target : To) (label : String) : Value × Option ConvError :=
  match target with
  | .string => (.string label, none)
  | .integer => let (n, e) := parseInt label 0 64; (.int .int64 n, e.map .numError)
  | .unsigned => let (n, e) := parseUint label 0 64; (.uint .uint64 n, e.map .numError)
  | .float => let (f, e) := lib.ParseFloat label; (.float .float64 f, e.map .numError)
  | .boolean => let (b, e) := parseBool label; (.bool b, e.map .numError)
  | _ => (.null, none)

/-- The `switch p.to` of the field branch for the targets that go on to `SetField`. -/
def fieldField (lib : Lib) (target : To) (rawField : Value) : Value × Option ConvError :=
  match target with
  | .string => let (s, e) := anyToString lib rawField; (.string s, e)
  | .integer => let (n, e) := anyToInteger lib.int64Of rawField; (.int .int64 n, e)
  | .unsigned => let (n, e) := anyToUnsigned lib.uint64Of rawField; (.uint .uint64 n, e)
  | .float => let (f, e) := anyToFloat lib rawField; (.float .float64 f, e)
  | .boolean => let (b, e) := anyToBoolean rawField; (.bool b, e)
  | _ => (.null, none)

/-- The tail both branches share: `if err == strconv.ErrRange && p.ioor` jumps to
    the `SetField`; any other error is returned wrapped; then `field` is written at
    the path. The comparison is with the bare `strconv.ErrRange`. -/
def store (p : conversionParams) (wrap : String → ConvError → ConvertError)
    (wrapSet : String → PathError → ConvertError) (e : Event) (field : Value)
    (err : Option ConvError) : Event × Option ConvertError :=
  if err = some .errRange ∧ p.ioor = true then setOut
  else match err with
    | some err => (e, some (wrap p.path err))
    | none => setOut
where
  /-- `e.SetField(p.path, field)`, its error wrapped. -/
  setOut : Event × Option ConvertError :=
    let (e', serr) := e.setField p.path field
    (e', serr.map (wrapSet p.path))

/-- `converter.Convert(e, p)`: the event it leaves and the error it returns. -/
def convert (lib : Lib) (e : Event) (p : conversionParams) : Event × Option ConvertError :=
  match p.from_ with
  | .label =>
    match e.getLabel p.path with
    | none => (e, some (.noSuchLabel p.path))
    | some label =>
      match p.to_ with
      | .id => ({ e with id := label }, none)
      | .label => (e, none)
      | target =>
        let (field, err) := labelField lib target label
        store p .fromLabel .labelSetField e field err
  | .field =>
    match e.getField p.path with
    | .error getErr => (e, some (.fieldGet p.path getErr))
    | .ok rawField =>
      match p.to_ with
      | .id =>
        match anyToString lib rawField with
        | (_, some err) => (e, some (.fromField p.path err))
        | (field, none) => ({ e with id := field }, none)
      | .label =>
        match anyToString lib rawField with
        | (_, some err) => (e, some (.fromField p.path err))
        | (field, none) => (e.setLabel p.path field, none)
      | target =>
        let (field, err) := fieldField lib target rawField
        store p .fromField .fieldSetField e field err

theorem store_numError (p : conversionParams) (wrap : String → ConvError → ConvertError)
    (wrapSet : String → PathError → ConvertError) (e : Event) (field : Value) (ne : NumError) :
    store p wrap wrapSet e field (some (.numError ne)) = (e, some (wrap p.path (.numError ne))) := by
  simp [store]

theorem store_errRange (p : conversionParams) (wrap : String → ConvError → ConvertError)
    (wrapSet : String → PathError → ConvertError) (e : Event) (field : Value) (h : p.ioor = true) :
    store p wrap wrapSet e field (some .errRange) =
      ((e.setField p.path field).1, (e.setField p.path field).2.map (wrapSet p.path)) := by
  simp [store, h, store.setOut]

/-- A label read for a target that writes a field goes to the shared tail. -/
theorem convert_label {lib : Lib} {e : Event} {p : conversionParams} {label : String}
    (hfrom : p.from_ = .label) (hl : e.getLabel p.path = some label) (hid : p.to_ ≠ .id)
    (hlabel : p.to_ ≠ .label) :
    convert lib e p = store p .fromLabel .labelSetField e (labelField lib p.to_ label).1
      (labelField lib p.to_ label).2 := by
  obtain ⟨f, t, path, ioor⟩ := p
  simp only at hfrom hid hlabel
  subst hfrom
  cases t <;> first | exact absurd rfl hid | exact absurd rfl hlabel | simp [convert, hl]

/-- A field read for a target that writes a field goes to the shared tail. -/
theorem convert_field {lib : Lib} {e : Event} {p : conversionParams} {rawField : Value}
    (hfrom : p.from_ = .field) (hf : e.getField p.path = .ok rawField) (hid : p.to_ ≠ .id)
    (hlabel : p.to_ ≠ .label) :
    convert lib e p = store p .fromField .fieldSetField e (fieldField lib p.to_ rawField).1
      (fieldField lib p.to_ rawField).2 := by
  obtain ⟨f, t, path, ioor⟩ := p
  simp only at hfrom hid hlabel
  subst hfrom
  cases t <;> first | exact absurd rfl hid | exact absurd rfl hlabel | simp [convert, hf]

/-- The targets `id` and `label` return before the shared tail: they make no error
    for it to see. -/
theorem labelField_err_targets {lib : Lib} {target : To} {label : String} {err : ConvError}
    (h : (labelField lib target label).2 = some err) : target ≠ .id ∧ target ≠ .label := by
  constructor <;> rintro rfl <;> simp [labelField] at h

theorem fieldField_err_targets {lib : Lib} {target : To} {v : Value} {err : ConvError}
    (h : (fieldField lib target v).2 = some err) : target ≠ .id ∧ target ≠ .label := by
  constructor <;> rintro rfl <;> simp [fieldField] at h

/-- With `ioor` set, a range error of a converter on a payload value is ignored and
    the converted value written, as the flag says. A string, from a label or from a
    field, is parsed by `strconv`, whose every error, a range error included, is a
    `*strconv.NumError` and never the bare `strconv.ErrRange` that `Convert`
    compares with: the error is returned and nothing is written. -/
theorem convert_ioor_string (lib : Lib) (e : Event) (p : conversionParams) (hioor : p.ioor = true) :
    (∀ label ne, p.from_ = .label → e.getLabel p.path = some label →
      (labelField lib p.to_ label).2 = some (.numError ne) →
      convert lib e p = (e, some (.fromLabel p.path (.numError ne)))) ∧
    (∀ s ne, p.from_ = .field → e.getField p.path = .ok (.string s) →
      (fieldField lib p.to_ (.string s)).2 = some (.numError ne) →
      convert lib e p = (e, some (.fromField p.path (.numError ne)))) ∧
    (∀ v field, p.from_ = .field → e.getField p.path = .ok v →
      fieldField lib p.to_ v = (field, some .errRange) →
      convert lib e p =
        ((e.setField p.path field).1, (e.setField p.path field).2.map (.fieldSetField p.path))) := by
  refine ⟨fun label ne hfrom hl herr => ?_, fun s ne hfrom hf herr => ?_,
    fun v field hfrom hf herr => ?_⟩
  · obtain ⟨hid, hlabel⟩ := labelField_err_targets herr
    rw [convert_label hfrom hl hid hlabel, herr, store_numError]
  · obtain ⟨hid, hlabel⟩ := fieldField_err_targets herr
    rw [convert_field hfrom hf hid hlabel, herr, store_numError]
  · obtain ⟨hid, hlabel⟩ := fieldField_err_targets (congrArg Prod.snd herr)
    rw [convert_field hfrom hf hid hlabel, herr, store_errRange _ _ _ _ _ hioor]

/-- A library whose float parser rejects everything and whose other calls are
    placeholders: the integer converters do not call it. -/
def rejectFloats : Lib where
  ParseFloat s := (.finite 0 0, some ⟨"ParseFloat", s, .errSyntax⟩)
  FormatFloat _ := ""
  float64Of z := .finite z 0
  int64Of _ := 0
  uint64Of _ := 0

/-- An event labelled `n` with a number above `math.MaxInt64`, and a conversion of
    that label to an integer ignoring out-of-range values. -/
def bigLabelEvent : Event := testEvent.setLabel "n" "99999999999999999999"

def labelToInteger : conversionParams := ⟨.label, .integer, "n", true⟩

theorem convert_ioor_string_bigLabel :
    labelToInteger.ioor = true ∧ labelToInteger.from_ = .label ∧
    bigLabelEvent.getLabel labelToInteger.path = some "99999999999999999999" ∧
    (labelField rejectFloats labelToInteger.to_ "99999999999999999999").2 =
      some (.numError ⟨"ParseInt", "99999999999999999999", .errRange⟩) ∧
    convert rejectFloats bigLabelEvent labelToInteger =
      (bigLabelEvent, some (.fromLabel "n" (.numError ⟨"ParseInt", "99999999999999999999", .errRange⟩))) :=
  have hparse : (labelField rejectFloats labelToInteger.to_ "99999999999999999999").2 =
      some (.numError ⟨"ParseInt", "99999999999999999999", .errRange⟩) := by decide
  ⟨rfl, rfl, rfl, hparse,
    (convert_ioor_string rejectFloats bigLabelEvent labelToInteger rfl).1 _ _ rfl rfl hparse⟩

end Neptunus.Processors.Converter
