import Neptunus.Go.Base64
import Neptunus.Go.Strings
import Neptunus.Inputs.Http

/-!
  Neptunus.Common.BasicAuth

  HTTP basic authentication for the inputs that serve HTTP
  (`plugins/common/http/basic_auth.go`): `Init` encodes `username:password` once, and
  the handler it wraps around `next` compares the `Authorization` header, with a
  leading `Basic ` trimmed, to that encoding. `Init` succeeds exactly when both
  credentials are set (`init_iff`).

  The scheme is trimmed only when it is there, so a header holding the bare encoding
  compares equal as the full `Basic ...` header does. Since an encoding has no space,
  these are the only two headers that pass: the handler calls `next` exactly for them
  and answers every other request 401 (`handler_passes_iff`).
-/

namespace Neptunus.Common

open Neptunus.Go Neptunus.Inputs

/-- `BasicAuth`: the configured credentials and the encoding `Init` stores. -/
structure BasicAuth where
  Username : String
  Password : String
  encoded : String
  deriving DecidableEq, Repr

/-- `[]byte(s)`: the UTF-8 bytes of `s`. -/
def bytesOf (s : String) : List UInt8 := s.toUTF8.data.toList

/-- `b.Init()`: the credentials encoded when both are set; the result says whether
    there is an encoding. (`len(s) > 0` counts bytes, and is positive exactly when
    `s` has a character.) -/
def BasicAuth.init (b : BasicAuth) : BasicAuth × Bool :=
  let b := if 0 < b.Username.length ∧ 0 < b.Password.length then
    { b with encoded := encodeToString (bytesOf (b.Username ++ ":" ++ b.Password)) } else b
  (b, 0 < b.encoded.length)

/-- What the handler does with a request: answers it through the writer, or calls
    `next.ServeHTTP(w, r)` with the username in the request's context
    (`BasicUsernameContextKey`). -/
inductive Handled where
  | answered (w : Response)
  | passed (username : String)

/-- `b.Handler(next)` serving `r` with the writer `w`. -/
def BasicAuth.handler (b : BasicAuth) (r : Request) (w : Response) : Handled :=
  let auth := r.header "Authorization"
  if auth.length = 0 then
    .answered ((w.writeHeader 401).write "credentials not provided")
  else if b.encoded ≠ trimPrefix auth "Basic " then
    .answered ((w.writeHeader 401).write "invalid credentials")
  else .passed b.Username

/-! ## Init -/

/-- A configuration decodes with no encoding; when `Init` then succeeds, both
    credentials were set and the encoding is theirs, and it is not empty. -/
theorem init_encoded (u p : String) (h : (BasicAuth.mk u p "").init.2 = true) :
    (BasicAuth.mk u p "").init.1 = ⟨u, p, encodeToString (bytesOf (u ++ ":" ++ p))⟩ ∧
      0 < (encodeToString (bytesOf (u ++ ":" ++ p))).length := by
  unfold BasicAuth.init at h ⊢
  split_ifs at h ⊢ <;> simp_all

/-- A string with a character has bytes: every character is one to four of them. -/
theorem bytesOf_ne_nil {s : String} (h : s ≠ "") : bytesOf s ≠ [] := by
  obtain ⟨_ | ⟨c, cs⟩⟩ := s
  · exact absurd rfl h
  · have hc : String.utf8EncodeChar c ≠ [] := by
      unfold String.utf8EncodeChar
      dsimp only
      split_ifs <;> simp
    simp [bytesOf, String.toUTF8, hc]

/-- `Init` on a configuration succeeds exactly when both credentials are set. -/
theorem init_iff (u p : String) : (BasicAuth.mk u p "").init.2 = true ↔ u ≠ "" ∧ p ≠ "" := by
  unfold BasicAuth.init
  simp only [length_pos_iff]
  split_ifs with h
  · have hsep : u ++ ":" ++ p ≠ "" := by simp [String.ext_iff]
    simpa [h, length_pos_iff, encodeToString, String.ext_iff] using
      encode_ne_nil (bytesOf_ne_nil hsep)
  · simpa using h

/-! ## The handler -/

/-- A request the handler does not pass on is answered 401, through the writer it was
    given, and `next` is not called. -/
theorem handler_answered (b : BasicAuth) (r : Request) (w : Response)
    (h : b.handler r w ≠ .passed b.Username) :
    ∃ msg, b.handler r w = .answered ((w.writeHeader 401).write msg) := by
  dsimp only [BasicAuth.handler] at h ⊢
  split_ifs at h ⊢
  · exact ⟨_, rfl⟩
  · exact ⟨_, rfl⟩
  · exact absurd rfl h

/-- With the scheme `Basic ` trimmed, a header compares equal to a text with no space
    exactly when it is that text, with the scheme or without it. -/
theorem trimPrefix_Basic_eq_iff (auth enc : String) (henc : ' ' ∉ enc.toList) :
    trimPrefix auth "Basic " = enc ↔ auth = "Basic " ++ enc ∨ auth = enc := by
  rw [trimPrefix_eq_iff]
  refine or_congr_right ⟨And.left, fun h => ⟨h, fun hp => henc ?_⟩⟩
  exact h ▸ hp.subset (by decide : ' ' ∈ "Basic ".toList)

/-- For credentials `Init` accepts, the handler passes a request on exactly when its
    `Authorization` header is `Basic ` followed by the encoding of
    `Username:Password`, or that encoding alone; every other request is answered 401. -/
theorem handler_passes_iff (Username Password : String)
    (hinit : (BasicAuth.mk Username Password "").init.2 = true) (r : Request) (w : Response) :
    ((BasicAuth.mk Username Password "").init.1.handler r w = .passed Username ↔
      r.header "Authorization" = "Basic " ++ encodeToString (bytesOf (Username ++ ":" ++ Password)) ∨
      r.header "Authorization" = encodeToString (bytesOf (Username ++ ":" ++ Password))) ∧
    ((BasicAuth.mk Username Password "").init.1.handler r w ≠ .passed Username →
      ∃ msg, (BasicAuth.mk Username Password "").init.1.handler r w =
        .answered ((w.writeHeader 401).write msg)) := by
  obtain ⟨hb, hlen⟩ := init_encoded Username Password hinit
  rw [hb]
  refine ⟨?_, handler_answered _ r w⟩
  rw [← trimPrefix_Basic_eq_iff _ _ (encodeToString_no_space _)]
  dsimp only [BasicAuth.handler]
  generalize r.header "Authorization" = auth
  split_ifs with h0 h1
  · -- an empty header trims to itself, which is not the encoding
    obtain ⟨l⟩ := auth
    obtain rfl : l = [] := List.length_eq_zero.mp h0
    refine iff_of_false not_false fun h => ?_
    rw [← h] at hlen
    exact absurd hlen (by decide)
  · exact iff_of_false not_false fun h => h1 h.symm
  · exact iff_of_true rfl (not_not.mp h1).symm

/-- A request whose `Authorization` header is the bare encoding of `user:pass`. -/
def bareToken : Request :=
  { postLine with header := fun k => if k = "Authorization" then "dXNlcjpwYXNz" else "" }

/-- The bare encoding, with no `Basic ` scheme, is let through. -/
theorem handler_passes_iff_bare_token :
    (BasicAuth.mk "user" "pass" "").init.2 = true ∧
      (BasicAuth.mk "user" "pass" "").init.1.handler bareToken .empty = .passed "user" :=
  ⟨by decide, (handler_passes_iff "user" "pass" (by decide) bareToken .empty).1.mpr (.inr (by decide))⟩

end Neptunus.Common
