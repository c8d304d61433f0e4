import Neptunus.Core.Event

/-!
  Neptunus.Filters.NoErrors

  The `noerrors` filter (`package noerrors`, stored after `basic_auth.go` among the
  sources): `Run` reads every event and sends it on `rejected` when it carries an
  error and on `accepted` otherwise, observing the matching status. It neither calls
  `Done` nor changes the event.

  Over a whole stream the filter partitions its input: the accepted events are the
  input's events without errors and the rejected ones those with, both in input
  order, so that every event is sent exactly once (`run_partition`).
-/

namespace Neptunus.Filters.NoErrors

open Neptunus.Core

/-- What a filter's `Run` has done so far: the events sent on `accepted` and on
    `rejected`, in order, and the statuses observed. -/
structure FilterStage where
  accepted : List Event
  rejected : List Event
  observed : List EventStatus

/-- `len(e.Errors) > 0`. -/
def hasErrors (e : Event) : Bool := 0 < e.errors.length

/-- One iteration of `NoErrors.Run`. -/
def step (s : FilterStage) (e : Event) : FilterStage :=
  if hasErrors e then { s with rejected := s.rejected ++ [e], observed := s.observed ++ [.rejected] }
  else { s with accepted := s.accepted ++ [e], observed := s.observed ++ [.accepted] }

/-- `NoErrors.Run` over an input stream. -/
def run (s : FilterStage) (input : List Event) : FilterStage := input.foldl step s

/-- The status `Run` observes for an event. -/
def statusOf (e : Event) : EventStatus := if hasErrors e then .rejected else .accepted

theorem step_eq (s : FilterStage) (e : Event) :
    step s e = ⟨s.accepted ++ [e].filter (!hasErrors ·), s.rejected ++ [e].filter hasErrors,
      s.observed ++ [statusOf e]⟩ := by
  unfold step statusOf
  cases h : hasErrors e <;> simp [h]

/-- A run appends the error-free events to `accepted`, the others to `rejected`, and
    one status per event. -/
theorem run_eq (s : FilterStage) (input : List Event) :
    run s input = ⟨s.accepted ++ input.filter (!hasErrors ·), s.rejected ++ input.filter hasErrors,
      s.observed ++ input.map statusOf⟩ := by
  induction input generalizing s with
  | nil => simp [run]
  | cons e es ih =>
    rw [run, List.foldl_cons, ← run, ih, step_eq]
    cases h : hasErrors e <;> simp [List.filter_cons, h]

/-- Over every stream, `noerrors` sends the events without errors on `accepted` and
    the others on `rejected`, each side in input order; together the two are the
    input, each event sent once; one status is observed per event. -/
theorem run_partition (input : List Event) :
    (run ⟨[], [], []⟩ input).accepted = input.filter (fun e => e.errors.isEmpty) ∧
    (run ⟨[], [], []⟩ input).rejected = input.filter (fun e => !e.errors.isEmpty) ∧
    ((run ⟨[], [], []⟩ input).accepted ++ (run ⟨[], [], []⟩ input).rejected).Perm input ∧
    (run ⟨[], [], []⟩ input).observed.length = input.length := by
  have hfun : hasErrors = fun e => !e.errors.isEmpty := funext fun e => by
    unfold hasErrors
    cases e.errors <;> simp
  simp only [run_eq, List.nil_append, hfun, Bool.not_not, List.length_map, and_true, true_and]
  exact List.filter_append_perm _ _

end Neptunus.Filters.NoErrors
