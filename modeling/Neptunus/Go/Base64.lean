import Mathlib.Data.List.Basic

/-!
  Neptunus.Go.Base64

  `base64.StdEncoding.EncodeToString` (Go's `encoding/base64`, RFC 4648 §4): every
  three bytes are one 24-bit value written as four characters of the standard
  alphabet, six bits each, and a last group of one or two bytes is padded with `=`.

  An encoding holds only characters of the alphabet and `=`; in particular no space
  (`encodeToString_no_space`).
-/

namespace Neptunus.Go

/-- The standard alphabet, `encodeStd`. -/
def encodeStd : List Char :=
  "ABCDEFGHIJKLMNOPQRSTUVWXYZabcdefghijklmnopqrstuvwxyz0123456789+/".toList

/-- `enc.encode[i]`; every index the encoder uses is below 64. -/
def alphabet (i : Nat) : Char := encodeStd.getD i 'A'

/-- The four characters of a 24-bit value, six bits each from the high end. -/
def quantum (val : Nat) : List Char :=
  [alphabet (val >>> 18 &&& 0x3F), alphabet (val >>> 12 &&& 0x3F), alphabet (val >>> 6 &&& 0x3F),
    alphabet (val &&& 0x3F)]

/-- `StdEncoding.Encode`: whole groups of three bytes, then the one or two bytes left
    with their padding. -/
def encode : List UInt8 → List Char
  | a :: b :: c :: rest =>
    quantum (a.toNat <<< 16 ||| b.toNat <<< 8 ||| c.toNat) ++ encode rest
  | [a, b] => (quantum (a.toNat <<< 16 ||| b.toNat <<< 8)).take 3 ++ ['=']
  | [a] => (quantum (a.toNat <<< 16)).take 2 ++ ['=', '=']
  | [] => []

/-- `base64.StdEncoding.EncodeToString(src)`. -/
def encodeToString (src : List UInt8) : String := ⟨encode src⟩

example : encodeToString "user:pass".toUTF8.data.toList = "dXNlcjpwYXNz" := by decide

example : encodeToString [0x4D, 0x61] = "TWE=" := by decide

theorem alphabet_ne_space (i : Nat) : alphabet i ≠ ' ' := by
  unfold alphabet
  rw [List.getD_eq_getElem?_getD]
  cases h : encodeStd[i]? with
  | none => decide
  | some c =>
    rintro rfl
    exact absurd (List.mem_iff_getElem?.mpr ⟨i, h⟩) (by decide)

theorem quantum_ne_space (val : Nat) : ∀ c ∈ quantum val, c ≠ ' ' := by
  simp only [quantum, List.mem_cons, List.not_mem_nil, or_false]
  rintro c (rfl | rfl | rfl | rfl) <;> exact alphabet_ne_space _

theorem encode_ne_space : ∀ (src : List UInt8), ∀ c ∈ encode src, c ≠ ' '
  | a :: b :: c :: rest => by
    simp only [encode, List.mem_append]
    rintro x (hx | hx)
    · exact quantum_ne_space _ x hx
    · exact encode_ne_space rest x hx
  | [a, b] => by
    simp only [encode, List.mem_append, List.mem_singleton]
    rintro x (hx | rfl)
    · exact quantum_ne_space _ x (List.mem_of_mem_take hx)
    · decide
  | [a] => by
    simp only [encode, List.mem_append, List.mem_cons, List.not_mem_nil, or_false]
    rintro x (hx | rfl | rfl)
    · exact quantum_ne_space _ x (List.mem_of_mem_take hx)
    all_goals decide
  | [] => by simp [encode]

/-- Bytes encode to characters. -/
theorem encode_ne_nil : ∀ {src : List UInt8}, src ≠ [] → encode src ≠ []
  | [], h => absurd rfl h
  | [_], _ | [_, _], _ | _ :: _ :: _ :: _, _ => by simp [encode, quantum]

/-- An encoding has no space. -/
theorem encodeToString_no_space (src : List UInt8) : ' ' ∉ (encodeToString src).toList :=
  fun h => encode_ne_space src ' ' h rfl

end Neptunus.Go
