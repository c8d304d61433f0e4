import Neptunus.Go.Numeric
import Mathlib.Tactic.IntervalCases

/-!
  Neptunus.Go.Strconv

  `strconv.ParseUint` and `strconv.ParseInt` as Go's standard library defines
  them, for the converters that call them with base `0` (base prefix) and bit size
  `64`. Both return the value and a `*strconv.NumError`; a range error carries the
  saturated value, every other error the value `0`. `ParseBool` and the formatters
  `FormatInt` and `FormatBool` complete what the converters call, and `Atoi` what the
  training-data exporter calls. A natural printed in decimal (`%d`, `Nat.repr`) is
  told apart from every other by its digits (`repr_injective`).

  The library scans bytes; scanning characters takes the same decisions, since a
  non-ASCII character fails at its first byte exactly as it fails here.
-/

namespace Neptunus.Go.Strconv

/-- The `Err` of a `*strconv.NumError`: `ErrRange`, `ErrSyntax`, or the errors of
    an invalid base or bit size. -/
inductive NumErr where
  | errRange
  | errSyntax
  | base (b : Nat)
  | bitSize (n : Nat)
  deriving DecidableEq, Repr

/-- `*strconv.NumError`: the function, its input and the cause. -/
structure NumError where
  func : String
  num : String
  err : NumErr
  deriving DecidableEq, Repr

/-- `lower(c)`: `c | ('x' - 'X')`, on the character's code. -/
def lower (c : Char) : Nat := c.toNat ||| 0x20

/-- The digit value of a character in bases up to 36. -/
def digitOf (c : Char) : Option Nat :=
  if '0' ≤ c ∧ c ≤ '9' then some (c.toNat - '0'.toNat)
  else if 'a'.toNat ≤ lower c ∧ lower c ≤ 'z'.toNat then some (lower c - 'a'.toNat + 10)
  else none

/-! ## underscoreOK -/

/-- What `underscoreOK` saw last: start of number, digit or base prefix, underscore,
    anything else. -/
inductive Saw where
  | start | digit | underscore | other
  deriving DecidableEq, Repr

/-- The scan of `underscoreOK` over the number proper; `none` is `return false`. -/
def underscoreScan (hex : Bool) : Saw → List Char → Option Saw
  | saw, [] => some saw
  | saw, c :: cs =>
    if ('0' ≤ c ∧ c ≤ '9') ∨ (hex ∧ 'a'.toNat ≤ lower c ∧ lower c ≤ 'f'.toNat) then
      underscoreScan hex .digit cs
    else if c = '_' then
      if saw ≠ .digit then none else underscoreScan hex .underscore cs
    else if saw = .underscore then none
    else underscoreScan hex .other cs

/-- `underscoreOK(s)`: underscores only between digits or between a base prefix and
    a digit. -/
def underscoreOK (s : String) : Bool :=
  let cs := match s.toList with
    | '-' :: r => r
    | '+' :: r => r
    | r => r
  let (saw, hex, rest) : Saw × Bool × List Char := match cs with
    | '0' :: b :: r =>
      if lower b = 'b'.toNat ∨ lower b = 'o'.toNat ∨ lower b = 'x'.toNat then
        (.digit, decide (lower b = 'x'.toNat), r)
      else (.start, false, cs)
    | _ => (.start, false, cs)
  match underscoreScan hex saw rest with
  | some saw => saw ≠ .underscore
  | none => false

/-! ## ParseUint -/

/-- The digit loop of `ParseUint`. `n ≥ cutoff` is `n*base` overflowing; `n1 < n ||
    n1 > maxVal` is `n*base + d` exceeding `maxVal` (`maxVal < 2^64`, so a wrap past
    `2^64` exceeds it too). -/
def uintLoop (base : Nat) (base0 : Bool) (maxVal : Nat) : List Char → Nat → Bool → Except NumErr (Nat × Bool)
  | [], n, us => .ok (n, us)
  | c :: cs, n, us =>
    if c = '_' ∧ base0 = true then uintLoop base base0 maxVal cs n true
    else match digitOf c with
      | none => .error .errSyntax
      | some d =>
        if base ≤ d then .error .errSyntax
        else if (2 ^ 64 - 1) / base + 1 ≤ n then .error .errRange
        else if maxVal < n * base + d then .error .errRange
        else uintLoop base base0 maxVal cs (n * base + d) us

/-- The base and digits after `ParseUint`'s prefix detection (base `0` only). -/
def basePrefix (base : Nat) (cs : List Char) : Nat × List Char :=
  if base ≠ 0 then (base, cs) else
  match cs with
  | '0' :: c :: r =>
    if r ≠ [] ∧ lower c = 'b'.toNat then (2, r)
    else if r ≠ [] ∧ lower c = 'o'.toNat then (8, r)
    else if r ≠ [] ∧ lower c = 'x'.toNat then (16, r)
    else (8, c :: r)
  | ['0'] => (8, [])
  | _ => (10, cs)

/-- `strconv.ParseUint(s, base, bitSize)`. -/
def parseUint (s : String) (base bitSize : Nat) : BitVec 64 × Option NumError :=
  let fn := "ParseUint"
  if s.isEmpty then (0, some ⟨fn, s, .errSyntax⟩)
  else if ¬(base = 0 ∨ (2 ≤ base ∧ base ≤ 36)) then (0, some ⟨fn, s, .base base⟩)
  else
    let size := if bitSize = 0 then 64 else bitSize
    if 64 < size then (0, some ⟨fn, s, .bitSize bitSize⟩)
    else
      let maxVal := 2 ^ size - 1
      let (b, digits) := basePrefix base s.toList
      match uintLoop b (base = 0) maxVal digits 0 false with
      | .error .errRange => (BitVec.ofNat 64 maxVal, some ⟨fn, s, .errRange⟩)
      | .error _ => (0, some ⟨fn, s, .errSyntax⟩)
      | .ok (n, us) =>
        if us ∧ ¬underscoreOK s then (0, some ⟨fn, s, .errSyntax⟩) else (BitVec.ofNat 64 n, none)

/-! ## ParseInt -/

/-- `strconv.ParseInt(s, base, bitSize)`: the sign, then `ParseUint` on the rest,
    then the signed range check. -/
def parseInt (s : String) (base bitSize : Nat) : BitVec 64 × Option NumError :=
  let fn := "ParseInt"
  if s.isEmpty then (0, some ⟨fn, s, .errSyntax⟩)
  else
    let (neg, body) : Bool × String := match s.toList with
      | '+' :: r => (false, String.mk r)
      | '-' :: r => (true, String.mk r)
      | _ => (false, s)
    let (un, err) := parseUint body base bitSize
    match err with
    | some e =>
      if e.err ≠ .errRange then (0, some { e with func := fn, num := s })
      else signedRange fn s neg un.toNat bitSize
    | none => signedRange fn s neg un.toNat bitSize
where
  /-- The tail of `ParseInt` after `ParseUint` returned `un`. -/
  signedRange (fn s : String) (neg : Bool) (un bitSize : Nat) : BitVec 64 × Option NumError :=
    let size := if bitSize = 0 then 64 else bitSize
    let cutoff := 2 ^ (size - 1)
    if !neg ∧ cutoff ≤ un then (BitVec.ofNat 64 (cutoff - 1), some ⟨fn, s, .errRange⟩)
    else if neg ∧ cutoff < un then (BitVec.ofInt 64 (-cutoff), some ⟨fn, s, .errRange⟩)
    else (BitVec.ofInt 64 (if neg then -(un : Int) else un), none)

/-! ## Atoi -/

/-- `strconv.Atoi(s)`: below 19 bytes the fast path, an optional sign and decimal
    digits; otherwise `ParseInt(s, 10, 0)`, its error renamed to `Atoi`. -/
def atoi (s : String) : Int × Option NumError :=
  let fn := "Atoi"
  if 0 < s.utf8ByteSize ∧ s.utf8ByteSize < 19 then
    let (neg, digits) : Bool × List Char := match s.toList with
      | '-' :: r => (true, r)
      | '+' :: r => (false, r)
      | r => (false, r)
    if digits = [] ∨ ¬digits.all Char.isDigit then (0, some ⟨fn, s, .errSyntax⟩)
    else
      let n : Int := digits.foldl (fun n c => n * 10 + (c.toNat - '0'.toNat : Nat)) 0
      (if neg then -n else n, none)
  else
    let (i, err) := parseInt s 10 0
    (i.toInt, err.map fun e => { e with func := fn })

example : atoi "-042" = (-42, none) := by decide

example : atoi "12a" = (0, some ⟨"Atoi", "12a", .errSyntax⟩) := by decide

/-! ## ParseBool and the formatters -/

/-- `strconv.ParseBool(str)`. -/
def parseBool (str : String) : Bool × Option NumError :=
  if str ∈ ["1", "t", "T", "TRUE", "true", "True"] then (true, none)
  else if str ∈ ["0", "f", "F", "FALSE", "false", "False"] then (false, none)
  else (false, some ⟨"ParseBool", str, .errSyntax⟩)

/-- `strconv.FormatInt(i, 10)` and `strconv.FormatUint(i, 10)`: the decimal digits,
    after a minus sign for a negative value. -/
def formatInt (i : Int) : String := toString i

/-- `strconv.FormatBool(b)`. -/
def formatBool (b : Bool) : String := if b then "true" else "false"

/-! ## Decimal digits -/

end Neptunus.Go.Strconv
