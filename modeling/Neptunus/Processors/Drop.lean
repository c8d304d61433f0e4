import Neptunus.Core.Event

/-!
  Neptunus.Processors.Drop

  The drop processor (`drop.go`): `Run` reads every event, observes it as accepted
  and discards it. It never calls `Done` and sends nothing, so a dropped event keeps
  its unit of duty and its hooks never fire (`run_testEvent`), while the spec has a
  stage that drops an event call `Done` on it (§4.7).
-/

namespace Neptunus.Processors.Drop

open Neptunus.Core

/-- `Drop.Run` over an input stream. -/
def run (s : Stage) (input : List Event) : Stage :=
  input.foldl (fun s _ => { s with observed := s.observed ++ [.accepted] }) s

/-- Over any stream the counters and `out` are untouched; one accepted status is
    observed per event. -/
theorem run_eq (s : Stage) (input : List Event) :
    run s input =
      { s with observed := s.observed ++ List.replicate input.length .accepted } := by
  induction input generalizing s with
  | nil => simp [run]
  | cons e es ih =>
    simp only [run, List.foldl_cons] at ih ⊢
    rw [ih]
    simp [List.replicate_succ]

/-- A fresh event through drop: its duty stays one and its hooks do not fire. -/
theorem run_testEvent :
    (run ⟨testLedger, [], []⟩ [testEvent]).ledger.duty testEvent.dutyRef = 1 ∧
    (run ⟨testLedger, [], []⟩ [testEvent]).ledger.fired testEvent.dutyRef = 0 ∧
    (run ⟨testLedger, [], []⟩ [testEvent]).out = [] := by
  simp [run_eq, testLedger, Ledger.create, Ledger.empty]

end Neptunus.Processors.Drop
