import Neptunus.Core.Event

/-!
  Neptunus.Outputs.Googlechat

  The googlechat output's requester (`plugins/outputs/googlechat/requester.go`): the
  flush callback the batcher calls on a batch, with `createMessage` and the
  `sendMessage` calls it makes.

  The serializer, `fmt.Sprintf("%v", v)`, `uuid.New()` and the outcome of each
  `sendMessage` call (after the retryer) are parameters (`Lib`); the `k`-th send of a
  flush gets `send k`. A sent message is recorded with its text and thread key.

  The flush sends the thread message for every event, whether or not
  `thread_message_field` is set (the README: "If `thread_message_field` is specified,
  an additional message will be sent"), and `err = r.sendMessage(threadMessage, ...)`
  overwrites the first send's error: an event whose message failed and whose thread
  message went through is observed accepted (`flush_first_send_lost`). Every event is
  put on `Done` once (`flush_reports_events`).
-/

namespace Neptunus.Outputs.Googlechat

open Neptunus.Core

/-- The requester's settings the flush reads. -/
structure requester where
  webhookURL : String
  threadMessageField : String
  defaultThreadEnabled : Bool

/-- `GoogleChatMessage`: a message's text and thread key. -/
structure GoogleChatMessage where
  text : String
  threadKey : String
  deriving DecidableEq, Repr

/-- The library calls the flush makes: `ser.Serialize`, `fmt.Sprintf("%v", v)`, the
    `k`-th `uuid.New()`, and the outcome of the `k`-th `sendMessage` call. -/
structure Lib where
  Serialize : Event → Except String String
  formatV : Value → String
  uuid : Nat → String
  send : Nat → GoogleChatMessage → Option String

/-- The thread message of an event: the `thread_message_field` field when it is set
    and found, a string as it is and anything else formatted with `%v`; else `""`. -/
def threadMessageOf (r : requester) (lib : Lib) (e : Event) : String :=
  if r.threadMessageField ≠ "" then
    match e.getField r.threadMessageField with
    | .ok (.string s) => s
    | .ok v => lib.formatV v
    | .error _ => ""
  else ""

/-- The thread key of the `k`-th event: a fresh uuid when default threading is on. -/
def threadKeyOf (r : requester) (lib : Lib) (k : Nat) : String :=
  if r.defaultThreadEnabled then lib.uuid k else ""

/-- `createMessage(event)` for the `k`-th event of the batch: message, thread message
    and thread key. -/
def createMessage (r : requester) (lib : Lib) (k : Nat) (e : Event) :
    Except String (String × String × String) :=
  match lib.Serialize e with
  | .error err => .error ("googlechat failed to serialize event: " ++ err)
  | .ok message => .ok (message, threadMessageOf r lib e, threadKeyOf r lib k)

/-- What the flush has done: the messages it sent, in order, and one report per event
    (`r.Done <- event` and the observed status). -/
structure Flushed where
  sends : List GoogleChatMessage
  reports : List Report

/-- One iteration of `for _, event := range buf`, the event being the `k`-th. The
    first send's outcome is assigned to `err` and overwritten by the second's. -/
def step (r : requester) (lib : Lib) (s : Flushed) (k : Nat) (e : Event) : Flushed :=
  match createMessage r lib k e with
  | .error err => { s with reports := s.reports ++ [⟨e, .failed, "message creation failed", some err⟩] }
  | .ok (message, threadMessage, threadKey) =>
    let n := s.sends.length
    { sends := s.sends ++ [⟨message, threadKey⟩, ⟨threadMessage, threadKey⟩],
      reports := s.reports ++
        [match lib.send (n + 1) ⟨threadMessage, threadKey⟩ with
         | some err => ⟨e, .failed, "event processing failed", some err⟩
         | none => ⟨e, .accepted, "event processed", none⟩] }

/-- The loop over the batch from its `k`-th event. -/
def stepAll (r : requester) (lib : Lib) : Flushed → Nat → List Event → Flushed
  | s, _, [] => s
  | s, k, e :: rest => stepAll r lib (step r lib s k e) (k + 1) rest

/-- The flush callback. -/
def flush (r : requester) (lib : Lib) (buf : List Event) : Flushed :=
  stepAll r lib ⟨[], []⟩ 0 buf

/-! ## Every event once -/

theorem step_reports (r : requester) (lib : Lib) (s : Flushed) (k : Nat) (e : Event) :
    (step r lib s k e).reports.map Report.event = s.reports.map Report.event ++ [e] := by
  unfold step
  split
  · simp
  · dsimp only
    split <;> simp

theorem stepAll_reports (r : requester) (lib : Lib) :
    ∀ (s : Flushed) (k : Nat) (buf : List Event),
      (stepAll r lib s k buf).reports.map Report.event = s.reports.map Report.event ++ buf
  | s, k, [] => by simp [stepAll]
  | s, k, e :: rest => by simp [stepAll, stepAll_reports r lib _ (k + 1) rest, step_reports]

/-- Every event of the batch is put on `Done` exactly once, in batch order. -/
theorem flush_reports_events (r : requester) (lib : Lib) (buf : List Event) :
    (flush r lib buf).reports.map Report.event = buf := by
  simp [flush, stepAll_reports]

/-! ## The overwritten error -/

/-- An event of a requester without `thread_message_field` whose (empty) thread message
    goes through: the flush sends both messages and observes the event accepted,
    whatever the first send returned. -/
theorem flush_first_send_lost (r : requester) (lib : Lib) (e : Event) (message : String)
    (hfield : r.threadMessageField = "") (hser : lib.Serialize e = .ok message)
    (hok : lib.send 1 ⟨"", threadKeyOf r lib 0⟩ = none) :
    flush r lib [e] =
      ⟨[⟨message, threadKeyOf r lib 0⟩, ⟨"", threadKeyOf r lib 0⟩],
        [⟨e, .accepted, "event processed", none⟩]⟩ := by
  have hmsg : createMessage r lib 0 e = .ok (message, "", threadKeyOf r lib 0) := by
    simp [createMessage, hser, threadMessageOf, hfield]
  simp [flush, stepAll, step, hmsg, hok]

/-- A requester with neither setting, and a webhook failing the first send. -/
def plainRequester : requester := ⟨"url", "", false⟩

def failFirst : Lib where
  Serialize _ := .ok "event"
  formatV _ := ""
  uuid _ := ""
  send k _ := if k = 0 then some "received non-success status code: 500, body: " else none

theorem flush_first_send_lost_plain :
    plainRequester.threadMessageField = "" ∧ failFirst.Serialize testEvent = .ok "event" ∧
      failFirst.send 1 ⟨"", threadKeyOf plainRequester failFirst 0⟩ = none ∧
      failFirst.send 0 ⟨"event", threadKeyOf plainRequester failFirst 0⟩ =
        some "received non-success status code: 500, body: " ∧
      flush plainRequester failFirst [testEvent] =
        ⟨[⟨"event", threadKeyOf plainRequester failFirst 0⟩, ⟨"", threadKeyOf plainRequester failFirst 0⟩],
          [⟨testEvent, .accepted, "event processed", none⟩]⟩ :=
  ⟨rfl, rfl, rfl, rfl, flush_first_send_lost plainRequester failFirst testEvent "event" rfl rfl rfl⟩

end Neptunus.Outputs.Googlechat
