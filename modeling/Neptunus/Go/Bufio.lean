import Mathlib.Data.List.Basic

/-!
  Neptunus.Go.Bufio

  `bufio.Scanner` with the `ScanLines` split function, as the HTTP inputs use it on a
  request body (Go's `bufio/scan.go`).

  The body is a reader given by the results of its `Read` calls, each some bytes and
  the error returned with them (`io.EOF` at the end of the body, or a read error).
  The scanner keeps the unconsumed bytes of its buffer and the first error a read
  returned. `Scan` first tries to cut a token from the buffer, at end of input when an
  error has been recorded; failing that it stops if an error was recorded, fails with
  `ErrTooLong` when the buffer holds `MaxScanTokenSize` bytes, and otherwise reads.
  A read never returns more than the buffer's free space: a longer result is returned
  in parts, as a reader asked for fewer bytes does. The buffer's growth from 4096 bytes
  only bounds how much one read may return, and every chunking of the body is a
  parameter, so the buffer is taken at its largest size throughout. `Scan`'s
  `io.ErrNoProgress`, after 100 reads in a row that return neither bytes nor an error,
  is left out (`io.Reader`'s contract discourages such reads).

  Each `Scan` call makes a bounded number of reads: `scanFuel` is enough
  (`scan_isSome`).

  Over a reader that returns its bytes and then ends, with every line shorter than
  `MaxScanTokenSize`, successive `Scan` calls return exactly `lines` of the body, the
  lines `ScanLines` cuts from the whole of it, with `Err()` nil after each, and then
  false (`scan_clean`): the buffered scanner refines splitting the body into lines.

  A reader whose last read fails after the last complete line cannot be told from one
  that ends there: the two scanners return the same tokens, with the same `Err()`
  after each, and then both stop (`scan_failsLikeEof`).
-/

namespace Neptunus.Go.Bufio

/-- How a `Read` call ends besides its bytes: the end of the body or a read error. -/
inductive ReadErr where
  | eof
  | error (msg : String)
  deriving DecidableEq, Repr

/-- One `Read` call's result. -/
structure ReadResult where
  bytes : List UInt8
  err : Option ReadErr
  deriving DecidableEq, Repr

/-- `bufio.MaxScanTokenSize`. -/
def maxScanTokenSize : Nat := 64 * 1024

/-- `bufio.ErrTooLong`. -/
def errTooLong : ReadErr := .error "bufio.Scanner: token too long"

/-- `dropCR`: a final carriage return is dropped. -/
def dropCR (data : List UInt8) : List UInt8 :=
  if data.getLast? = some 13 then data.dropLast else data

/-- `bytes.IndexByte(data, '\n')` with the slices around it: the bytes before the first
    newline and those after it. -/
def cutNewline : List UInt8 → Option (List UInt8 × List UInt8)
  | [] => none
  | b :: rest => if b = 10 then some ([], rest) else (cutNewline rest).map fun p => (b :: p.1, p.2)

/-- `ScanLines(data, atEOF)`: the token and the bytes left after it, or `none` when no
    token can be cut yet. -/
def scanLines (data : List UInt8) (atEOF : Bool) : Option (List UInt8 × List UInt8) :=
  if atEOF ∧ data = [] then none
  else match cutNewline data with
    | some (line, rest) => some (dropCR line, rest)
    | none => if atEOF then some (dropCR data, []) else none

/-- A scanner: its buffered bytes, the error a read returned, and the reader's
    remaining results. -/
structure Scanner where
  buf : List UInt8
  err : Option ReadErr
  reads : List ReadResult

/-- `bufio.NewScanner(r)`. -/
def newScanner (reads : List ReadResult) : Scanner := ⟨[], none, reads⟩

/-- `Err()`: the recorded error, `io.EOF` reading as none. -/
def Scanner.Err (s : Scanner) : Option String :=
  match s.err with
  | some (.error msg) => some msg
  | _ => none

/-- One `Read` into the buffer's free space. A reader with no results left is at the
    end of the body. -/
def Scanner.read (s : Scanner) : Scanner :=
  match s.reads with
  | [] => { s with err := some .eof }
  | r :: rest =>
    let free := maxScanTokenSize - s.buf.length
    if r.bytes.length ≤ free then { buf := s.buf ++ r.bytes, err := r.err, reads := rest }
    else { buf := s.buf ++ r.bytes.take free, err := none,
           reads := ⟨r.bytes.drop free, r.err⟩ :: rest }

/-- What `Scan` returns: true with a token, or false. -/
inductive ScanResult where
  | token (tok : List UInt8)
  | stop
  deriving DecidableEq, Repr

/-- The token `Scan` can cut from what it holds: `ScanLines` is asked when bytes are
    buffered or a read has ended, at end of input in the latter case. -/
def Scanner.cut (s : Scanner) : Option (List UInt8 × List UInt8) :=
  if s.buf ≠ [] ∨ s.err.isSome then scanLines s.buf s.err.isSome else none

/-- `Scan()`, with `fuel` bounding its reads. -/
def Scanner.scan : Nat → Scanner → Option (ScanResult × Scanner)
  | 0, _ => none
  | fuel + 1, s =>
    match s.cut with
    | some (tok, rest) => some (.token tok, { s with buf := rest })
    | none =>
      if s.err.isSome then some (.stop, { s with buf := [] })
      else if maxScanTokenSize ≤ s.buf.length then some (.stop, { s with err := some errTooLong })
      else Scanner.scan fuel s.read

theorem scanLines_false (data : List UInt8) :
    scanLines data false = (cutNewline data).map fun p => (dropCR p.1, p.2) := by
  unfold scanLines
  cases cutNewline data <;> simp

/-- While no read has ended, `Scan` cuts at a newline of the buffer. -/
theorem Scanner.cut_reading (buf : List UInt8) (reads : List ReadResult) :
    Scanner.cut ⟨buf, none, reads⟩ = (cutNewline buf).map fun p => (dropCR p.1, p.2) := by
  unfold Scanner.cut
  by_cases hb : buf = []
  · simp [hb, cutNewline]
  · simp [hb, scanLines_false]

theorem Scanner.cut_ended (buf : List UInt8) (err : ReadErr) (reads : List ReadResult) :
    Scanner.cut ⟨buf, some err, reads⟩ = scanLines buf true := by
  simp [Scanner.cut]

/-- The bytes a reader has left to return, and one for each result. -/
def pending : List ReadResult → Nat
  | [] => 0
  | r :: rest => r.bytes.length + 1 + pending rest

/-- Reads enough for one `Scan`: every read either takes a result or moves a byte. -/
def scanFuel (s : Scanner) : Nat := pending s.reads + 2

/-- The fuel a scan needs: the reads it may make, and one more once an error is
    recorded. -/
theorem scan_isSome_of_le : ∀ (fuel : Nat) (s : Scanner),
    pending s.reads + (if s.err.isSome then 1 else 2) ≤ fuel → (s.scan fuel).isSome
  | 0, s, h => by split at h <;> omega
  | fuel + 1, s, h => by
    unfold Scanner.scan
    split
    · rfl
    · split
      · rfl
      · case isFalse herr =>
        split
        · rfl
        · case isFalse hfull =>
          apply scan_isSome_of_le fuel
          replace h : pending s.reads + 2 ≤ fuel + 1 := by simpa [herr] using h
          unfold Scanner.read
          cases hr : s.reads with
          | nil => rw [hr] at h; simp [pending] at h ⊢; omega
          | cons r rest =>
            simp only [hr, pending] at h
            dsimp only
            split
            · split <;> simp only [pending] <;> omega
            · simp only [pending, List.length_drop, Option.isSome_none, Bool.false_eq_true, if_false]
              omega

theorem scan_isSome (s : Scanner) : (s.scan (scanFuel s)).isSome :=
  scan_isSome_of_le _ s (by unfold scanFuel; split <;> omega)

theorem pending_append (pre : List ReadResult) (r : ReadResult) :
    pending (pre ++ [r]) = pending pre + r.bytes.length + 1 := by
  induction pre with
  | nil => simp [pending]
  | cons x rest ih => rw [List.cons_append, pending, pending, ih]; omega

/-! ## The lines of a body -/

/-- The bytes a reader has left to return. -/
def readBytes (reads : List ReadResult) : List UInt8 := reads.flatMap ReadResult.bytes

theorem cutNewline_eq {data line rest : List UInt8} (h : cutNewline data = some (line, rest)) :
    data = line ++ 10 :: rest := by
  induction data generalizing line with
  | nil => cases h
  | cons b bs ih =>
    unfold cutNewline at h
    split at h
    · case isTrue hb => cases h; simp [hb]
    · obtain ⟨⟨l, r⟩, hl, hlr⟩ := Option.map_eq_some'.mp h
      cases hlr
      simp [ih hl]

theorem cutNewline_eq_none {data : List UInt8} (h : cutNewline data = none) : 10 ∉ data := by
  induction data with
  | nil => simp
  | cons b bs ih =>
    unfold cutNewline at h
    split at h
    · cases h
    · simp only [Option.map_eq_none'] at h
      simp [Ne.symm ‹¬b = 10›, ih h]

theorem cutNewline_length {data line rest : List UInt8} (h : cutNewline data = some (line, rest)) :
    rest.length < data.length := by
  rw [cutNewline_eq h]; simp; omega

theorem cutNewline_append {buf line rest : List UInt8} (d : List UInt8)
    (h : cutNewline buf = some (line, rest)) : cutNewline (buf ++ d) = some (line, rest ++ d) := by
  induction buf generalizing line with
  | nil => cases h
  | cons b bs ih =>
    unfold cutNewline at h ⊢
    split at h
    · case isTrue hb => cases h; simp [hb]
    · obtain ⟨⟨l, r⟩, hl, hlr⟩ := Option.map_eq_some'.mp h
      cases hlr
      simp [‹¬b = 10›, ih hl]

/-- The lines `ScanLines` cuts from the whole of `data` at the end of input. -/
def lines (data : List UInt8) : List (List UInt8) :=
  match h : cutNewline data with
  | some (line, rest) =>
    have := cutNewline_length h
    dropCR line :: lines rest
  | none => if data = [] then [] else [dropCR data]
termination_by data.length

/-- Every line of `data` is shorter than `MaxScanTokenSize`. -/
def ShortLines (data : List UInt8) : Prop :=
  match h : cutNewline data with
  | some (line, rest) =>
    have := cutNewline_length h
    line.length < maxScanTokenSize ∧ ShortLines rest
  | none => data.length < maxScanTokenSize
termination_by data.length

theorem lines_of_some {data line rest : List UInt8} (h : cutNewline data = some (line, rest)) :
    lines data = dropCR line :: lines rest := by
  rw [lines]; split <;> simp_all

theorem lines_of_none {data : List UInt8} (h : cutNewline data = none) :
    lines data = if data = [] then [] else [dropCR data] := by
  rw [lines]
  split
  · simp_all
  · rfl

@[simp] theorem lines_nil : lines [] = [] := by
  rw [@lines_of_none [] rfl, if_pos rfl]

example : lines [104, 105, 13, 10, 10, 111] = [[104, 105], [], [111]] := by
  simp [lines, cutNewline, dropCR]

theorem ShortLines_of_some {data line rest : List UInt8} (h : cutNewline data = some (line, rest))
    (hs : ShortLines data) : line.length < maxScanTokenSize ∧ ShortLines rest := by
  rw [ShortLines] at hs; split at hs <;> simp_all

theorem ShortLines_of_none {data : List UInt8} (h : cutNewline data = none)
    (hs : ShortLines data) : data.length < maxScanTokenSize := by
  rw [ShortLines] at hs; split at hs <;> simp_all

@[simp] theorem ShortLines_nil : ShortLines [] := by
  simp [ShortLines, cutNewline, maxScanTokenSize]

/-- A newline-free prefix of bytes with short lines is short. -/
theorem ShortLines.prefix_lt {p q : List UInt8} (hs : ShortLines (p ++ q)) (hp : 10 ∉ p) :
    p.length < maxScanTokenSize := by
  rcases hc : cutNewline (p ++ q) with _ | ⟨line, rest⟩
  · have := ShortLines_of_none hc hs
    simp at this; omega
  · have hlt := (ShortLines_of_some hc hs).1
    rcases List.append_eq_append_iff.mp (cutNewline_eq hc) with ⟨a', hl, -⟩ | ⟨c', rfl, hc'⟩
    · have := congrArg List.length hl
      simp at this; omega
    · cases c' with
      | nil => simpa using hlt
      | cons x xs =>
        cases hc'
        simp at hp

/-! ## A reader that ends cleanly -/

/-- A reader that returns its bytes and then ends: no read but the last returns an
    error, and the last, if any, returns `io.EOF`. -/
inductive CleanReads : List ReadResult → Prop
  | nil : CleanReads []
  | last (bytes : List UInt8) : CleanReads [⟨bytes, some .eof⟩]
  | cons (bytes : List UInt8) {rs : List ReadResult} : CleanReads rs → CleanReads (⟨bytes, none⟩ :: rs)

/-- A scanner over such a reader: still reading, or past the end of the body. -/
def Scanner.Clean (s : Scanner) : Prop :=
  (s.err = none ∧ CleanReads s.reads) ∨ (s.err = some .eof ∧ s.reads = [])

/-- The bytes a scanner has still to cut: its buffer, then what the reader returns. -/
def Scanner.rest (s : Scanner) : List UInt8 := s.buf ++ readBytes s.reads

@[simp] theorem Scanner.rest_ended (buf : List UInt8) (err : Option ReadErr) :
    Scanner.rest ⟨buf, err, []⟩ = buf := List.append_nil buf

@[simp] theorem newScanner_rest (reads : List ReadResult) :
    (newScanner reads).rest = readBytes reads := rfl

/-- A read moves bytes from the reader to the buffer, and keeps the scanner clean. -/
theorem Scanner.read_clean {buf : List UInt8} {reads : List ReadResult} (h : CleanReads reads) :
    (Scanner.read ⟨buf, none, reads⟩).Clean ∧
      (Scanner.read ⟨buf, none, reads⟩).rest = buf ++ readBytes reads := by
  unfold Scanner.read
  cases h with
  | nil => simp [Scanner.Clean, Scanner.rest]
  | last bytes =>
    dsimp only
    split
    · simp [Scanner.Clean, Scanner.rest, readBytes]
    · simp [Scanner.Clean, Scanner.rest, readBytes, CleanReads.last]
  | cons bytes h =>
    dsimp only
    split
    · simp [Scanner.Clean, Scanner.rest, readBytes, h]
    · refine ⟨.inl ⟨rfl, .cons _ h⟩, ?_⟩
      simp only [Scanner.rest, readBytes, List.flatMap_cons]
      rw [List.append_assoc, ← List.append_assoc (List.take _ _), List.take_append_drop]

/-- What `Scan` on a clean scanner holding the bytes `d` to cut should return: false
    when `d` has no lines, else its first line, with a clean scanner holding the other
    lines and a nil `Err()`. -/
def ScanNext (d : List UInt8) (r : ScanResult × Scanner) : Prop :=
  match lines d with
  | [] => r.1 = .stop
  | l :: ls => r.1 = .token l ∧ r.2.Clean ∧ ShortLines r.2.rest ∧ lines r.2.rest = ls ∧ r.2.Err = none

/-- Past the end of the body, `Scan` cuts the buffer's lines one by one, the last one
    without its newline, and then returns false. -/
theorem scan_ended_clean {fuel : Nat} {buf : List UInt8} {r : ScanResult × Scanner}
    (hs : ShortLines buf) (h : Scanner.scan (fuel + 1) ⟨buf, some .eof, []⟩ = some r) :
    ScanNext buf r := by
  simp only [Scanner.scan, Scanner.cut_ended, scanLines] at h
  by_cases hb : buf = []
  · case pos =>
    subst hb
    cases h
    rw [ScanNext, lines_nil]
  · case neg =>
    rcases hc : cutNewline buf with _ | ⟨line, rest⟩ <;>
      simp only [hb, hc, and_false, if_false, if_true, Option.some.injEq] at h <;> subst h
    · rw [ScanNext, lines_of_none hc, if_neg hb]
      exact ⟨rfl, .inr ⟨rfl, rfl⟩, ShortLines_nil, lines_nil, rfl⟩
    · rw [ScanNext, lines_of_some hc]
      refine ⟨rfl, .inr ⟨rfl, rfl⟩, ?_, by rw [Scanner.rest_ended], rfl⟩
      rw [Scanner.rest_ended]
      exact (ShortLines_of_some hc hs).2

theorem scan_clean_of_eq : ∀ (fuel : Nat) (s : Scanner) (r : ScanResult × Scanner),
    s.Clean → ShortLines s.rest → s.scan fuel = some r → ScanNext s.rest r
  | 0, _, _, _, _, h => by cases h
  | fuel + 1, ⟨buf, _, reads⟩, r, .inl ⟨rfl, hreads⟩, hs, h => by
    simp only [Scanner.scan, Scanner.cut_reading] at h
    rcases hc : cutNewline buf with _ | ⟨line, rest⟩
    · have hlt := ShortLines.prefix_lt hs (cutNewline_eq_none hc)
      simp only [hc, Option.map_none', Option.isSome_none, Bool.false_eq_true, if_false,
        if_neg (Nat.not_le.mpr hlt)] at h
      obtain ⟨hclean, hrest⟩ := @Scanner.read_clean buf _ hreads
      have := scan_clean_of_eq fuel _ r hclean (hrest ▸ hs) h
      rwa [hrest] at this
    · simp only [hc, Option.map_some', Option.some.injEq] at h
      subst h
      have hd := cutNewline_append (readBytes reads) hc
      rw [ScanNext, Scanner.rest, lines_of_some hd]
      exact ⟨rfl, .inl ⟨rfl, hreads⟩, (ShortLines_of_some hd hs).2, rfl, rfl⟩
  | fuel + 1, ⟨buf, _, _⟩, r, .inr ⟨rfl, rfl⟩, hs, h => by
    rw [Scanner.rest_ended] at hs ⊢
    exact scan_ended_clean hs h

/-- On a clean reader whose lines are all short, `Scan` returns the first of the body's
    lines still to cut, or false when none is left. -/
theorem scan_clean (s : Scanner) (hc : s.Clean) (hs : ShortLines s.rest) :
    ∃ r, s.scan (scanFuel s) = some r ∧ ScanNext s.rest r := by
  obtain ⟨r, hr⟩ := Option.isSome_iff_exists.mp (scan_isSome s)
  exact ⟨r, hr, scan_clean_of_eq _ s r hc hs hr⟩

/-! ## A failed read after the last line -/

/-- Bytes that end a line: none, or a last newline. -/
def EndsLine (d : List UInt8) : Prop := d = [] ∨ d.getLast? = some 10

/-- Cutting a line off bytes that end a line leaves bytes that end a line. -/
theorem EndsLine.drop_line {line rest d : List UInt8} (h : EndsLine (line ++ 10 :: rest ++ d)) :
    EndsLine (rest ++ d) := by
  by_cases hn : rest ++ d = []
  · exact .inl hn
  · right
    rcases h with h | h
    · simp at h
    · rwa [show line ++ 10 :: rest ++ d = (line ++ [10]) ++ (rest ++ d) by simp,
        List.getLast?_append_of_ne_nil _ hn] at h

theorem EndsLine.eq_nil {d : List UInt8} (h : EndsLine d) (hd : 10 ∉ d) : d = [] := by
  rcases h with h | h
  · exact h
  · exact absurd (List.mem_of_getLast?_eq_some h) hd

/-- Two scanners over readers that differ in their last read only, a failure with
    message `m` and the end of the body: still reading, with every byte before the
    last read in complete lines; stopped the same way by an earlier read; or past the
    last read with nothing buffered. -/
inductive FailsLikeEof (m : String) : Scanner → Scanner → Prop
  | reading (buf : List UInt8) (pre : List ReadResult) (h : EndsLine (buf ++ readBytes pre)) :
      FailsLikeEof m ⟨buf, none, pre ++ [⟨[], some (.error m)⟩]⟩ ⟨buf, none, pre ++ [⟨[], some .eof⟩]⟩
  | ended (buf : List UInt8) (err : ReadErr) (pre : List ReadResult) :
      FailsLikeEof m ⟨buf, some err, pre ++ [⟨[], some (.error m)⟩]⟩
        ⟨buf, some err, pre ++ [⟨[], some .eof⟩]⟩
  | failed : FailsLikeEof m ⟨[], some (.error m), []⟩ ⟨[], some .eof, []⟩

theorem FailsLikeEof.scanFuel_eq {m : String} {s t : Scanner} (h : FailsLikeEof m s t) :
    scanFuel s = scanFuel t := by
  cases h <;> simp [scanFuel, pending_append]

/-- What two `Scan` calls on such scanners return: both nothing, both false, or the
    same token with such scanners again and the same `Err()`. -/
def ScanAgree (m : String) : Option (ScanResult × Scanner) → Option (ScanResult × Scanner) → Prop
  | none, none => True
  | some (.stop, _), some (.stop, _) => True
  | some (.token a, s), some (.token b, t) => a = b ∧ FailsLikeEof m s t ∧ s.Err = t.Err
  | _, _ => False

/-- A read on both sides of scanners still reading: the last read finds nothing
    buffered, since a scanner only reads when it holds no complete line. -/
theorem FailsLikeEof.read {m : String} {buf : List UInt8} {pre : List ReadResult}
    (h : EndsLine (buf ++ readBytes pre)) (hnl : 10 ∉ buf) :
    FailsLikeEof m (Scanner.read ⟨buf, none, pre ++ [⟨[], some (.error m)⟩]⟩)
      (Scanner.read ⟨buf, none, pre ++ [⟨[], some .eof⟩]⟩) := by
  cases pre with
  | nil =>
    have := h.eq_nil (by simpa [readBytes] using hnl)
    simp only [readBytes, List.flatMap_nil, List.append_nil] at this
    subst this
    exact .failed
  | cons r pre =>
    unfold Scanner.read
    dsimp only [List.cons_append]
    split
    · cases hr : r.err with
      | none => exact .reading _ pre (by simpa [readBytes, hr] using h)
      | some e => exact .ended _ e pre
    · refine .reading _ (⟨r.bytes.drop _, r.err⟩ :: pre) ?_
      show EndsLine (buf ++ r.bytes.take _ ++ (r.bytes.drop _ ++ readBytes pre))
      rw [List.append_assoc, ← List.append_assoc (List.take _ _), List.take_append_drop]
      simpa [readBytes] using h

theorem scan_failsLikeEof {m : String} : ∀ (fuel : Nat) {s t : Scanner}, FailsLikeEof m s t →
    ScanAgree m (s.scan fuel) (t.scan fuel)
  | 0, _, _, _ => trivial
  | fuel + 1, _, _, .reading buf pre h => by
    simp only [Scanner.scan, Scanner.cut_reading]
    rcases hc : cutNewline buf with _ | ⟨line, rest⟩
    · simp only [Option.map_none', Option.isSome_none, Bool.false_eq_true, if_false]
      split
      · trivial
      · exact scan_failsLikeEof fuel (FailsLikeEof.read h (cutNewline_eq_none hc))
    · refine ⟨rfl, .reading rest pre ?_, rfl⟩
      rw [cutNewline_eq hc] at h
      exact h.drop_line
  | fuel + 1, _, _, .ended buf err pre => by
    simp only [Scanner.scan, Scanner.cut_ended]
    cases scanLines buf true with
    | none => trivial
    | some p => exact ⟨rfl, .ended _ _ _, rfl⟩
  | fuel + 1, _, _, .failed => by
    simp [Scanner.scan, Scanner.cut, scanLines, ScanAgree]

end Neptunus.Go.Bufio
