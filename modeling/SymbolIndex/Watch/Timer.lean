-- SUMMARY: The debounce timer: its phases, and when it flushes.

/-! # Timer

The timer waits for a first event, then for a quiet period, and then flushes.
Every accepted event starts the quiet period again. On its way out it flushes
once more. -/

namespace SymbolIndex

/-! ## Phases -/

inductive Phase where
  /-- Waits for an event. -/
  | idle
  /-- Waits for silence. -/
  | buffering
  | ended
  deriving DecidableEq, Repr

/-- What the timer is told. -/
inductive Signal where
  /-- An event was accepted. -/
  | touch
  | stop
  deriving DecidableEq, Repr

namespace Phase

/-- The phase after a signal, and whether the timer flushes. -/
def receive : Phase → Signal → Phase × Bool
  | ended, _ => (ended, false)
  | _, .touch => (buffering, false)
  | _, .stop => (ended, true)

/-- The phase after a quiet period, and whether the timer flushes. -/
def quiet : Phase → Phase × Bool
  | buffering => (idle, true)
  | phase => (phase, false)

theorem receive_eq_ended_iff {phase : Phase} {signal : Signal} :
    (phase.receive signal).1 = ended ↔ phase = ended ∨ signal = .stop := by
  cases phase <;> cases signal <;> simp [receive]

theorem flushes_receive_iff {phase : Phase} {signal : Signal} :
    (phase.receive signal).2 = true ↔ phase ≠ ended ∧ signal = .stop := by
  cases phase <;> cases signal <;> simp [receive]

theorem quiet_eq_ended_iff {phase : Phase} : phase.quiet.1 = ended ↔ phase = ended := by
  cases phase <;> simp [quiet]

theorem flushes_quiet_iff {phase : Phase} : phase.quiet.2 = true ↔ phase = buffering := by
  cases phase <;> simp [quiet]

end Phase

end SymbolIndex
