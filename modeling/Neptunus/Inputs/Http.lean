import Neptunus.Core.Event
import Neptunus.Go.Bufio

/-!
  Neptunus.Inputs.Http

  The request handlers of the `http` input (`plugins/inputs/http/http.go`) and of the
  `httpl` input (`Httpl.ServeHTTP`): the body is scanned line by line with a
  `bufio.Scanner`, every line becomes events sent on `out`, and the answer is
  `accepted events: n`.

  The response keeps the first status written (a later `WriteHeader` is superfluous)
  and the bytes written. Parsing a line (`json.Unmarshal`, the `httpl` parser) and the
  identity of the events `core.NewEvent` makes are parameters.

  Both handlers check `scanner.Err()` inside the loop, on the scanner that has just
  returned a token. A read error recorded while the scanner still held data shows
  there; one recorded by the read after the last complete line does not, since `Scan`
  then returns false and the loop ends: such a body is answered exactly as the same
  body ending cleanly (`serveHTTP_read_error_as_eof`).

  Over a body that ends cleanly, every line shorter than `MaxScanTokenSize`, the loop
  runs `serveLines`, the handlers' work stated over the lines of the body
  (`serveLoop_clean`): a POST whose lines all parse is answered 200 with the count,
  its events sent in order (`Http.serveHTTP_one_event_per_line`,
  `Httpl.serveHTTP_labelled_events`).

  The method check writes `405 method not allowed` and does not return: a request of
  any method has its body read and its events sent as a POST would
  (`serveHTTP_events_any_method`).
-/

namespace Neptunus.Inputs

open Neptunus.Core Neptunus.Go.Bufio

/-! ## Requests and responses -/

/-- What the handler has written: the status, once written, and the body. -/
structure Response where
  status : Option Nat
  body : String
  deriving DecidableEq, Repr

/-- A response nothing was written to. -/
def Response.empty : Response := ⟨none, ""⟩

/-- `w.WriteHeader(code)`: only the first status counts. -/
def Response.writeHeader (w : Response) (code : Nat) : Response :=
  if w.status.isSome then w else { w with status := some code }

/-- `w.Write(b)`: writes status 200 first if none was written. -/
def Response.write (w : Response) (b : String) : Response :=
  { status := some (w.status.getD 200), body := w.body ++ b }

/-- `http.Error(w, msg, code)`. -/
def error (w : Response) (msg : String) (code : Nat) : Response :=
  (w.writeHeader code).write (msg ++ "\n")

/-- A request: method, path, sender, header lookup (`Header.Get`) and the body's reads. -/
structure Request where
  method : String
  path : String
  remoteAddr : String
  header : String → String
  body : List ReadResult

/-- What a handler did: the response and the events it sent on `out`, in order. -/
structure Served where
  w : Response
  out : List Event

/-- The events `core.NewEvent` makes during a request: the `k`-th one's object, id and
    timestamp. -/
structure Fresh where
  ptr : Nat → Nat
  id : Nat → String
  now : Nat → Instant

/-- The `k`-th `core.NewEvent(routingKey)` of a request. -/
def Fresh.newEvent (f : Fresh) (k : Nat) (routingKey : String) : Event :=
  Event.new (f.ptr k) (f.id k) (f.now k) routingKey

/-- The method check both handlers open with: anything but POST is answered 405, and
    the handler goes on. -/
def methodCheck (r : Request) : Response :=
  if r.method = "POST" then Response.empty else error Response.empty "method not allowed" 405

/-- `"accepted events: n\n"`, written with status 200. -/
def accepted (w : Response) (n : Nat) : Response :=
  (w.writeHeader 200).write ("accepted events: " ++ toString n ++ "\n")

/-! ## The loop both handlers run -/

/-- `for scanner.Scan() { ... }` of both handlers, one iteration per fuel.
    `lineEvents cursor tok` parses line `cursor` into the events to send on `out`,
    `parseErr` names its failure, and `answer cursor events` is the count the reply
    states. -/
def serveLoop (lineEvents : Nat → List UInt8 → Except String (List Event)) (parseErr : String)
    (answer : Nat → Nat → Nat) : Nat → Scanner → Nat → Nat → Served → Option Served
  | 0, _, _, _, _ => none
  | fuel + 1, sc, cursor, events, st =>
    match sc.scan (scanFuel sc) with
    | none => none
    | some (.stop, _) => some { st with w := accepted st.w (answer cursor events) }
    | some (.token tok, sc) =>
      match sc.Err with
      | some err => some { st with
          w := error st.w ("reading error at line " ++ toString (cursor + 1) ++ ": " ++ err) 500 }
      | none =>
        match lineEvents (cursor + 1) tok with
        | .error err => some { st with
            w := error st.w (parseErr ++ " at line " ++ toString (cursor + 1) ++ ": " ++ err) 400 }
        | .ok es =>
          serveLoop lineEvents parseErr answer fuel sc (cursor + 1) (events + es.length)
            { st with out := st.out ++ es }

/-! ## The `http` input -/

/-- The `http` input's settings the handler reads. -/
structure Http where
  Address : String

/-- The event of line `cursor`: its payload and the labels `input`, `server`, `sender`. -/
def Http.event (i : Http) (fresh : Fresh) (path remoteAddr : String) (cursor : Nat)
    (data : Value) : Event :=
  (({ fresh.newEvent cursor path with data }.setLabel "input" "http").setLabel "server"
    i.Address).setLabel "sender" remoteAddr

/-- `Http.ServeHTTP(w, r)`: a line is one event, `json.Unmarshal` of it, and the reply
    counts lines. -/
def Http.serveHTTP (i : Http) (fresh : Fresh) (unmarshal : List UInt8 → Except String Value)
    (r : Request) (fuel : Nat) : Option Served :=
  serveLoop (fun cursor tok => (unmarshal tok).map fun data => [i.event fresh r.path r.remoteAddr cursor data])
    "bad json" (fun cursor _ => cursor) fuel (newScanner r.body) 0 0 ⟨methodCheck r, []⟩

/-! ## The `httpl` input -/

/-- The `httpl` input's settings the handler reads; `LabelHeaders` in iteration order. -/
structure Httpl where
  Address : String
  LabelHeaders : List (String × String)

/-- The labels `httpl` adds to a parsed event: `input`, `server`, `sender`, and every
    label header present in the request. -/
def Httpl.label (i : Httpl) (remoteAddr : String) (header : String → String) (e : Event) :
    Event :=
  i.LabelHeaders.foldl (fun e kv => if 0 < (header kv.2).length then e.setLabel kv.1 (header kv.2) else e)
    (((e.setLabel "input" "httpl").setLabel "server" i.Address).setLabel "sender" remoteAddr)

/-- `Httpl.ServeHTTP(w, r)`: the parser makes a line's events, and the reply counts
    events. -/
def Httpl.serveHTTP (i : Httpl) (parse : List UInt8 → String → Except String (List Event))
    (r : Request) (fuel : Nat) : Option Served :=
  serveLoop (fun _ tok => (parse tok r.path).map (·.map (i.label r.remoteAddr r.header)))
    "parsing error" (fun _ events => events) fuel (newScanner r.body) 0 0 ⟨methodCheck r, []⟩

/-! ## A read error after the last line -/

theorem serveLoop_failsLikeEof (lineEvents : Nat → List UInt8 → Except String (List Event))
    (parseErr : String) (answer : Nat → Nat → Nat) {m : String} :
    ∀ (fuel : Nat) {s t : Scanner} (cursor events : Nat) (st : Served), FailsLikeEof m s t →
      serveLoop lineEvents parseErr answer fuel s cursor events st =
        serveLoop lineEvents parseErr answer fuel t cursor events st
  | 0, _, _, _, _, _, _ => rfl
  | fuel + 1, s, t, cursor, events, st, h => by
    have hagree := scan_failsLikeEof (scanFuel t) h
    unfold serveLoop
    rw [h.scanFuel_eq]
    generalize s.scan (scanFuel t) = x at hagree ⊢
    generalize t.scan (scanFuel t) = y at hagree ⊢
    rcases x with _ | ⟨a | _, s'⟩ <;> rcases y with _ | ⟨b | _, t'⟩ <;> simp only [ScanAgree] at hagree
    · rfl
    · obtain ⟨rfl, hst, herr⟩ := hagree
      dsimp only
      rw [herr]
      split
      · rfl
      · split
        · rfl
        · exact serveLoop_failsLikeEof lineEvents parseErr answer fuel _ _ _ hst
    · rfl

theorem serveHTTP_read_error_as_eof (i : Http) (fresh : Fresh)
    (unmarshal : List UInt8 → Except String Value) (j : Httpl)
    (parse : List UInt8 → String → Except String (List Event)) (r : Request)
    (pre : List ReadResult) (m : String) (fuel : Nat) (hlines : EndsLine (readBytes pre)) :
    i.serveHTTP fresh unmarshal { r with body := pre ++ [⟨[], some (.error m)⟩] } fuel =
      i.serveHTTP fresh unmarshal { r with body := pre ++ [⟨[], some .eof⟩] } fuel ∧
    j.serveHTTP parse { r with body := pre ++ [⟨[], some (.error m)⟩] } fuel =
      j.serveHTTP parse { r with body := pre ++ [⟨[], some .eof⟩] } fuel :=
  have hread : FailsLikeEof m (newScanner (pre ++ [⟨[], some (.error m)⟩]))
      (newScanner (pre ++ [⟨[], some .eof⟩])) := .reading [] pre (by simpa using hlines)
  ⟨serveLoop_failsLikeEof _ _ _ fuel 0 0 _ hread, serveLoop_failsLikeEof _ _ _ fuel 0 0 _ hread⟩

/-- A POST from one sender, and a body of one line, `{}`. -/
def postLine : Request := ⟨"POST", "/", "10.0.0.1:5000", fun _ => "", []⟩

def oneLine : List ReadResult := [⟨[123, 125, 10], none⟩]

/-- Events numbered by their position in the request. -/
def countingFresh : Fresh := ⟨id, fun _ => "", fun _ => ⟨0⟩⟩

/-- The one line's body failing after the line: both handlers answer as at a clean end,
    200 with one accepted event. -/
theorem serveHTTP_read_error_as_eof_oneLine :
    EndsLine (readBytes oneLine) ∧
    (Http.serveHTTP ⟨":9800"⟩ countingFresh (fun _ => .ok (.map .any []))
        { postLine with body := oneLine ++ [⟨[], some (.error "unexpected EOF")⟩] } 3 =
      Http.serveHTTP ⟨":9800"⟩ countingFresh (fun _ => .ok (.map .any []))
        { postLine with body := oneLine ++ [⟨[], some .eof⟩] } 3 ∧
    Httpl.serveHTTP ⟨":9800", []⟩ (fun _ path => .ok [Event.new 0 "" ⟨0⟩ path])
        { postLine with body := oneLine ++ [⟨[], some (.error "unexpected EOF")⟩] } 3 =
      Httpl.serveHTTP ⟨":9800", []⟩ (fun _ path => .ok [Event.new 0 "" ⟨0⟩ path])
        { postLine with body := oneLine ++ [⟨[], some .eof⟩] } 3) ∧
    (Http.serveHTTP ⟨":9800"⟩ countingFresh (fun _ => .ok (.map .any []))
        { postLine with body := oneLine ++ [⟨[], some (.error "unexpected EOF")⟩] } 3).map Served.w =
      some ⟨some 200, "accepted events: 1\n"⟩ ∧
    (Httpl.serveHTTP ⟨":9800", []⟩ (fun _ path => .ok [Event.new 0 "" ⟨0⟩ path])
        { postLine with body := oneLine ++ [⟨[], some (.error "unexpected EOF")⟩] } 3).map Served.w =
      some ⟨some 200, "accepted events: 1\n"⟩ :=
  ⟨.inr rfl, serveHTTP_read_error_as_eof ⟨":9800"⟩ countingFresh (fun _ => .ok (.map .any []))
    ⟨":9800", []⟩ (fun _ path => .ok [Event.new 0 "" ⟨0⟩ path]) postLine oneLine "unexpected EOF" 3
    (.inr rfl), by decide, by decide⟩

/-! ## Over a body that ends cleanly

`serveLines` is what both handlers are for, stated over the lines of the body rather
than over a scanner: each line in turn is parsed and its events sent, the first line
that does not parse is answered 400, and after the last line the count is answered.
Over a reader that ends cleanly with every line short, the handlers' loop computes it
(`serveLoop_clean`). -/

/-- The handlers' loop over the lines of a body, from line `cursor + 1` on. -/
def serveLines (lineEvents : Nat → List UInt8 → Except String (List Event)) (parseErr : String)
    (answer : Nat → Nat → Nat) : List (List UInt8) → Nat → Nat → Served → Served
  | [], cursor, events, st => { st with w := accepted st.w (answer cursor events) }
  | tok :: ls, cursor, events, st =>
    match lineEvents (cursor + 1) tok with
    | .error err => { st with
        w := error st.w (parseErr ++ " at line " ++ toString (cursor + 1) ++ ": " ++ err) 400 }
    | .ok es => serveLines lineEvents parseErr answer ls (cursor + 1) (events + es.length)
        { st with out := st.out ++ es }

/-- The events of the lines from line `cursor + 1` on, when every one parses. -/
def linesEvents (lineEvents : Nat → List UInt8 → Except String (List Event)) :
    Nat → List (List UInt8) → Except String (List Event)
  | _, [] => .ok []
  | cursor, tok :: ls => do
    let es ← lineEvents (cursor + 1) tok
    let rest ← linesEvents lineEvents (cursor + 1) ls
    pure (es ++ rest)

/-- Each turn of the loop cuts the next line of the body and leaves the scanner clean,
    so the loop runs `serveLines` over the lines of the body. -/
theorem serveLoop_clean (lineEvents : Nat → List UInt8 → Except String (List Event))
    (parseErr : String) (answer : Nat → Nat → Nat) :
    ∀ (fuel : Nat) (s : Scanner) (cursor events : Nat) (st : Served), s.Clean →
      ShortLines s.rest → (lines s.rest).length < fuel →
      serveLoop lineEvents parseErr answer fuel s cursor events st =
        some (serveLines lineEvents parseErr answer (lines s.rest) cursor events st)
  | 0, _, _, _, _, _, _, h => absurd h (Nat.not_lt_zero _)
  | fuel + 1, s, cursor, events, st, hc, hs, hfuel => by
    obtain ⟨⟨res, s'⟩, hr, hnext⟩ := scan_clean s hc hs
    unfold serveLoop
    rw [hr]
    rcases hl : lines s.rest with _ | ⟨l, ls⟩ <;> simp only [ScanNext, hl] at hnext
    · case nil =>
      subst hnext
      rfl
    · case cons =>
      obtain ⟨rfl, hc', hs', rfl, herr⟩ := hnext
      rw [hl, List.length_cons] at hfuel
      simp only [herr, serveLines]
      cases lineEvents (cursor + 1) l with
      | error err => rfl
      | ok es => exact serveLoop_clean lineEvents parseErr answer fuel s' _ _ _ hc' hs' (by omega)

/-- When every line parses, all their events are sent and the count is answered. -/
theorem serveLines_ok (lineEvents : Nat → List UInt8 → Except String (List Event))
    (parseErr : String) (answer : Nat → Nat → Nat) :
    ∀ (ls : List (List UInt8)) (cursor events : Nat) (st : Served) (es : List Event),
      linesEvents lineEvents cursor ls = .ok es →
      serveLines lineEvents parseErr answer ls cursor events st =
        ⟨accepted st.w (answer (cursor + ls.length) (events + es.length)), st.out ++ es⟩
  | [], cursor, events, st, es, h => by
    cases h
    simp [serveLines]
  | tok :: ls, cursor, events, st, es, h => by
    obtain ⟨es₁, h₁, rest, h₂, h⟩ := by simpa only [linesEvents, bind_eq_ok] using h
    cases h
    rw [serveLines, h₁]
    simp only [serveLines_ok lineEvents parseErr answer ls _ _ _ rest h₂, List.length_cons,
      List.length_append, List.append_assoc]
    congr 3 <;> omega

theorem linesEvents_eq (lineEvents : Nat → List UInt8 → Except String (List Event))
    (g : Nat → List UInt8 → List Event) :
    ∀ (ls : List (List UInt8)) (cursor : Nat), (∀ l ∈ ls, ∀ c, lineEvents c l = .ok (g c l)) →
      linesEvents lineEvents cursor ls = .ok ((ls.enumFrom (cursor + 1)).flatMap fun p => g p.1 p.2)
  | [], _, _ => rfl
  | l :: ls, cursor, h => by
    rw [linesEvents, h l (.head _),
      linesEvents_eq lineEvents g ls (cursor + 1) fun l' hl' => h l' (.tail _ hl')]
    rfl

/-- The reply a POST gets once its body is read. -/
theorem accepted_post {r : Request} (hpost : r.method = "POST") (n : Nat) :
    accepted (methodCheck r) n = ⟨some 200, "accepted events: " ++ toString n ++ "\n"⟩ := by
  simp [accepted, methodCheck, hpost, Response.empty, Response.writeHeader, Response.write]

/-- A POST to the `http` input whose body ends cleanly, with short lines that all
    decode: one event per line is sent, in order, and the reply counts the lines. -/
theorem Http.serveHTTP_one_event_per_line (i : Http) (fresh : Fresh)
    (unmarshal : List UInt8 → Except String Value) (r : Request) (fuel : Nat)
    (data : List UInt8 → Value) (hpost : r.method = "POST") (hbody : CleanReads r.body)
    (hshort : ShortLines (readBytes r.body)) (hfuel : (lines (readBytes r.body)).length < fuel)
    (hdata : ∀ l ∈ lines (readBytes r.body), unmarshal l = .ok (data l)) :
    i.serveHTTP fresh unmarshal r fuel =
      some ⟨⟨some 200, "accepted events: " ++ toString (lines (readBytes r.body)).length ++ "\n"⟩,
        ((lines (readBytes r.body)).enumFrom 1).map fun p =>
          i.event fresh r.path r.remoteAddr p.1 (data p.2)⟩ := by
  have hes := linesEvents_eq (fun cursor tok => (unmarshal tok).map fun data =>
      [i.event fresh r.path r.remoteAddr cursor data])
    (fun c l => [i.event fresh r.path r.remoteAddr c (data l)]) (lines (readBytes r.body)) 0
    (fun l hl c => by simp [hdata l hl, Except.map])
  rw [Http.serveHTTP, serveLoop_clean _ _ _ fuel (newScanner r.body) 0 0 _ (.inl ⟨rfl, hbody⟩) hshort hfuel,
    newScanner_rest, serveLines_ok _ _ _ _ 0 0 _ _ hes, accepted_post hpost, Nat.zero_add]
  exact congrArg (some ∘ Served.mk _) (List.flatMap_pure_eq_map _ _)

/-- Two lines of `{}`, the second ending with the body. -/
def twoLines : List ReadResult := [⟨[123, 125, 10], none⟩, ⟨[123, 125], some .eof⟩]

theorem twoLines_short : ShortLines (readBytes twoLines) := by
  simp [ShortLines, readBytes, twoLines, cutNewline, maxScanTokenSize]

theorem twoLines_length : (lines (readBytes twoLines)).length = 2 := by
  simp [lines, readBytes, twoLines, cutNewline, dropCR]

theorem serveHTTP_one_event_per_line_twoLines :
    postLine.method = "POST" ∧ CleanReads twoLines ∧ ShortLines (readBytes twoLines) ∧
    (lines (readBytes twoLines)).length < 3 ∧
    (∀ l ∈ lines (readBytes twoLines),
      (fun _ => .ok (.map .any [])) l = (Except.ok (.map .any []) : Except String Value)) ∧
    Http.serveHTTP ⟨":9800"⟩ countingFresh (fun _ => .ok (.map .any [])) { postLine with body := twoLines } 3 =
      some ⟨⟨some 200, "accepted events: " ++ toString (lines (readBytes twoLines)).length ++ "\n"⟩,
        ((lines (readBytes twoLines)).enumFrom 1).map fun p =>
          Http.event ⟨":9800"⟩ countingFresh "/" "10.0.0.1:5000" p.1 (.map .any [])⟩ :=
  ⟨rfl, .cons _ (.last _), twoLines_short, by rw [twoLines_length]; decide, fun _ _ => rfl,
    Http.serveHTTP_one_event_per_line ⟨":9800"⟩ countingFresh (fun _ => .ok (.map .any []))
      { postLine with body := twoLines } 3 (fun _ => .map .any []) rfl (.cons _ (.last _)) twoLines_short
      (by rw [twoLines_length]; decide) (fun _ _ => rfl)⟩

/-- A POST to the `httpl` input whose body ends cleanly, with short lines that all
    parse: the events of every line are sent, labelled, in order, and the reply counts
    them. -/
theorem Httpl.serveHTTP_labelled_events (j : Httpl) (parse : List UInt8 → String → Except String (List Event))
    (r : Request) (fuel : Nat) (evs : List UInt8 → List Event) (hpost : r.method = "POST")
    (hbody : CleanReads r.body) (hshort : ShortLines (readBytes r.body))
    (hfuel : (lines (readBytes r.body)).length < fuel)
    (hparse : ∀ l ∈ lines (readBytes r.body), parse l r.path = .ok (evs l)) :
    ∃ out, j.serveHTTP parse r fuel =
      some ⟨⟨some 200, "accepted events: " ++ toString out.length ++ "\n"⟩, out⟩ ∧
      out = (lines (readBytes r.body)).flatMap fun l => (evs l).map (j.label r.remoteAddr r.header) := by
  have hes := linesEvents_eq (fun _ tok => (parse tok r.path).map (·.map (j.label r.remoteAddr r.header)))
    (fun _ l => (evs l).map (j.label r.remoteAddr r.header)) (lines (readBytes r.body)) 0
    (fun l hl _ => by simp [hparse l hl, Except.map])
  refine ⟨(List.enumFrom 1 (lines (readBytes r.body))).flatMap fun p =>
    (evs p.2).map (j.label r.remoteAddr r.header), ?_, ?_⟩
  · rw [Httpl.serveHTTP, serveLoop_clean _ _ _ fuel (newScanner r.body) 0 0 _ (.inl ⟨rfl, hbody⟩) hshort hfuel,
      newScanner_rest, serveLines_ok _ _ _ _ 0 0 _ _ hes, accepted_post hpost]
    simp only [Nat.zero_add, List.nil_append]
  · conv_rhs => rw [← List.enumFrom_map_snd 1 (lines _)]
    rw [List.flatMap_map]

theorem serveHTTP_labelled_events_twoLines :
    postLine.method = "POST" ∧ CleanReads twoLines ∧ ShortLines (readBytes twoLines) ∧
    (lines (readBytes twoLines)).length < 3 ∧
    (∀ l ∈ lines (readBytes twoLines), (fun _ path => .ok [Event.new 0 "" ⟨0⟩ path]) l "/" =
      (Except.ok [Event.new 0 "" ⟨0⟩ "/"] : Except String (List Event))) ∧
    ∃ out, Httpl.serveHTTP ⟨":9800", []⟩ (fun _ path => .ok [Event.new 0 "" ⟨0⟩ path])
        { postLine with body := twoLines } 3 =
      some ⟨⟨some 200, "accepted events: " ++ toString out.length ++ "\n"⟩, out⟩ ∧
      out = (lines (readBytes twoLines)).flatMap fun _ =>
        [Event.new 0 "" ⟨0⟩ "/"].map (Httpl.label ⟨":9800", []⟩ "10.0.0.1:5000" fun _ => "") :=
  ⟨rfl, .cons _ (.last _), twoLines_short, by rw [twoLines_length]; decide, fun _ _ => rfl,
    Httpl.serveHTTP_labelled_events ⟨":9800", []⟩ (fun _ path => .ok [Event.new 0 "" ⟨0⟩ path])
      { postLine with body := twoLines } 3 (fun _ => [Event.new 0 "" ⟨0⟩ "/"]) rfl (.cons _ (.last _))
      twoLines_short (by rw [twoLines_length]; decide) (fun _ _ => rfl)⟩

/-! ## The method check

`methodCheck` writes the 405 answer and the handler goes on: the method changes the
response only, never the events sent. -/

/-- The events the loop sends do not depend on what was written to the response. -/
theorem serveLoop_out (lineEvents : Nat → List UInt8 → Except String (List Event))
    (parseErr : String) (answer : Nat → Nat → Nat) :
    ∀ (fuel : Nat) (sc : Scanner) (cursor events : Nat) (st : Served) (w : Response),
      (serveLoop lineEvents parseErr answer fuel sc cursor events st).map Served.out =
        (serveLoop lineEvents parseErr answer fuel sc cursor events ⟨w, st.out⟩).map Served.out
  | 0, _, _, _, _, _ => rfl
  | fuel + 1, sc, cursor, events, st, w => by
    unfold serveLoop
    rcases sc.scan (scanFuel sc) with _ | ⟨_ | _, sc'⟩
    · rfl
    · dsimp only
      split
      · rfl
      · split
        · rfl
        · exact serveLoop_out lineEvents parseErr answer fuel sc' _ _ _ w
    · rfl

/-- Both handlers send, for a request of any method, the events they send for the same
    request made with POST: the 405 answer does not stop the loop. -/
theorem serveHTTP_events_any_method (i : Http) (fresh : Fresh)
    (unmarshal : List UInt8 → Except String Value) (j : Httpl)
    (parse : List UInt8 → String → Except String (List Event)) (r : Request) (fuel : Nat) :
    (i.serveHTTP fresh unmarshal r fuel).map Served.out =
      (i.serveHTTP fresh unmarshal { r with method := "POST" } fuel).map Served.out ∧
    (j.serveHTTP parse r fuel).map Served.out =
      (j.serveHTTP parse { r with method := "POST" } fuel).map Served.out :=
  ⟨serveLoop_out _ _ _ fuel _ 0 0 _ _, serveLoop_out _ _ _ fuel _ 0 0 _ _⟩

/-- A GET whose body is one line of `{}`: answered 405, and its event sent. -/
def getLine : Request := { postLine with method := "GET", body := oneLine ++ [⟨[], some .eof⟩] }

theorem serveHTTP_events_any_method_get :
    (Http.serveHTTP ⟨":9800"⟩ countingFresh (fun _ => .ok (.map .any [])) getLine 3).map Served.out =
      (Http.serveHTTP ⟨":9800"⟩ countingFresh (fun _ => .ok (.map .any []))
        { getLine with method := "POST" } 3).map Served.out ∧
    (Httpl.serveHTTP ⟨":9800", []⟩ (fun _ path => .ok [Event.new 0 "" ⟨0⟩ path]) getLine 3).map
        Served.out =
      (Httpl.serveHTTP ⟨":9800", []⟩ (fun _ path => .ok [Event.new 0 "" ⟨0⟩ path])
        { getLine with method := "POST" } 3).map Served.out ∧
    (Http.serveHTTP ⟨":9800"⟩ countingFresh (fun _ => .ok (.map .any [])) getLine 3).map Served.w =
      some ⟨some 405, "method not allowed\naccepted events: 1\n"⟩ ∧
    ((Http.serveHTTP ⟨":9800"⟩ countingFresh (fun _ => .ok (.map .any [])) getLine 3).map
      fun s => s.out.length) = some 1 :=
  ⟨(serveHTTP_events_any_method ⟨":9800"⟩ countingFresh (fun _ => .ok (.map .any [])) ⟨":9800", []⟩
      (fun _ path => .ok [Event.new 0 "" ⟨0⟩ path]) getLine 3).1,
    (serveHTTP_events_any_method ⟨":9800"⟩ countingFresh (fun _ => .ok (.map .any [])) ⟨":9800", []⟩
      (fun _ path => .ok [Event.new 0 "" ⟨0⟩ path]) getLine 3).2, by decide, by decide⟩

end Neptunus.Inputs
