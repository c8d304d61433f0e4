import Mathlib.Data.List.Basic

/-!
  Neptunus.Go.Strings

  The functions of Go's `strings` and `unicode` packages the plugins call on text:
  `strings.TrimSpace`, `strings.TrimPrefix`, `strings.TrimSuffix` and
  `strings.ToLower`, over the characters of a string. `strings.TrimPrefix(s, prefix)` is `t` exactly when `s` is
  `prefix` followed by `t`, or `t` itself not starting with `prefix`
  (`trimPrefix_eq_iff`).

  `unicode.IsSpace` is the Unicode White_Space class as Go lists it: the Latin-1
  spaces `\t \n \v \f \r`, space, U+0085 and U+00A0, and above Latin-1 U+1680,
  U+2000 to U+200A, U+2028, U+2029, U+202F, U+205F and U+3000.
-/

namespace Neptunus.Go

/-- `unicode.IsSpace(r)`. -/
def isSpace (c : Char) : Bool :=
  c.toNat ∈ [0x09, 0x0A, 0x0B, 0x0C, 0x0D, 0x20, 0x85, 0xA0, 0x1680, 0x2028, 0x2029, 0x202F,
    0x205F, 0x3000] ∨ (0x2000 ≤ c.toNat ∧ c.toNat ≤ 0x200A)

/-- `strings.TrimSpace(s)`: the leading and trailing spaces removed. -/
def trimSpace (s : String) : String :=
  ⟨((s.toList.dropWhile isSpace).reverse.dropWhile isSpace).reverse⟩

/-- `strings.TrimPrefix(s, prefix)`: `s` without `prefix` when it starts with it. -/
def trimPrefix (s pre : String) : String :=
  if pre.toList.isPrefixOf s.toList then ⟨s.toList.drop pre.length⟩ else s

/-- `strings.TrimSuffix(s, suffix)`: `s` without `suffix` when it ends with it. -/
def trimSuffix (s suf : String) : String :=
  if suf.toList.isSuffixOf s.toList then ⟨s.toList.take (s.length - suf.length)⟩ else s

example : trimSpace " \xA0\tsummarise this\n" = "summarise this" := by decide

/-- `strings.ToLower(s)` on valid UTF-8: `unicode.ToLower` on each character, by the
    ASCII rule below `0x80` and by `lowerRune`, the Unicode case tables, above. -/
def toLower (lowerRune : Char → Char) (s : String) : String :=
  ⟨s.toList.map fun c => if c.toNat < 0x80 then c.toLower else lowerRune c⟩

/-- `TrimPrefix s pre` is `t` when `s` is `pre` followed by `t`, or when `s` is `t`
    itself and does not start with `pre`. -/
theorem trimPrefix_eq_iff (s pre t : String) :
    trimPrefix s pre = t ↔ s = pre ++ t ∨ (s = t ∧ ¬pre.toList <+: s.toList) := by
  obtain ⟨s⟩ := s
  obtain ⟨pre⟩ := pre
  obtain ⟨t⟩ := t
  simp only [trimPrefix, String.toList, String.length_mk, String.ext_iff, String.data_append]
  by_cases h : pre <+: s
  · obtain ⟨u, rfl⟩ := h
    simp [List.isPrefixOf_iff_prefix]
  · have hp : pre.isPrefixOf s = false := by
      rwa [← Bool.not_eq_true, List.isPrefixOf_iff_prefix]
    simp only [hp, h, if_false, not_false_eq_true, and_true, Bool.false_eq_true]
    constructor
    · exact .inr
    · rintro (rfl | h')
      · exact absurd (List.prefix_append _ _) h
      · exact h'

example : trimPrefix "Basic dXNlcjpwYXNz" "Basic " = "dXNlcjpwYXNz" := by decide

/-- `len(s) > 0`, on characters as on bytes: `s` is not empty. -/
theorem length_pos_iff (s : String) : 0 < s.length ↔ s ≠ "" := by
  obtain ⟨l⟩ := s
  simp [String.ext_iff, List.length_pos]

end Neptunus.Go
