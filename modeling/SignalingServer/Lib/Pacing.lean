import Mathlib.Algebra.Order.Ring.Int
import Mathlib.Tactic.Linarith

/-!
A sender on a clock that goes on by one at most from look to look. A unit is due when
`advance` for every unit before it and one `gap` have passed since the start.
-/

namespace Pacing

/-- The next unit is to be sent. -/
def Due (advance gap start now : Int) (sent : Nat) : Prop := advance * sent + gap < now - start

instance (advance gap start now : Int) (sent : Nat) : Decidable (Due advance gap start now sent) :=
  inferInstanceAs (Decidable (_ < _))

/-- All units that were due have been sent, and none before it was due, except the first
`given`. -/
structure OnTime (advance gap start now : Int) (given sent : Nat) : Prop where
  notDue : ¬ Due advance gap start now sent
  wasDue : given < sent → Due advance gap start now (sent - 1)
  given_le : given ≤ sent

variable {advance gap start now now' : Int} {given sent : Nat}

theorem Due.mono (h : Due advance gap start now sent) (hnow : now ≤ now') :
    Due advance gap start now' sent := by
  unfold Due at *
  omega

/-- While nothing is due the clock goes on. -/
theorem OnTime.wait (h : OnTime advance gap start now given sent) (hnow : now ≤ now')
    (hdue : ¬ Due advance gap start now' sent) : OnTime advance gap start now' given sent where
  notDue := hdue
  wasDue := fun hgiven => (h.wasDue hgiven).mono hnow
  given_le := h.given_le

/-- A unit that is due now was not due before, so that the next one is not yet due. -/
theorem OnTime.send (h : OnTime advance gap start now given sent) (hadvance : 0 < advance)
    (hnow : now' ≤ now + 1) (hdue : Due advance gap start now' sent) :
    OnTime advance gap start now' given (sent + 1) where
  notDue := by
    have hbefore := h.notDue
    unfold Due at *
    push_cast
    rw [mul_add, mul_one]
    omega
  wasDue := fun _ => hdue
  given_le := Nat.le_succ_of_le h.given_le

/-- At the end of a period of `advance` the number of units is known. -/
theorem OnTime.sent_eq (h : OnTime advance gap start now given sent) (hadvance : 0 < advance)
    {periods : Nat} (hgiven : given ≤ periods) (hnow : now - start = advance * periods + gap) :
    sent = periods := by
  have hupper := h.notDue
  have hlower := h.wasDue
  unfold Due at hupper hlower
  have hle : periods ≤ sent := by
    have hmul : advance * (periods : Int) ≤ advance * sent := by omega
    exact_mod_cast le_of_mul_le_mul_left hmul hadvance
  refine Nat.le_antisymm ?_ hle
  by_contra hlt
  have hmul : advance * ((sent - 1 : Nat) : Int) < advance * periods := by
    have hwas := hlower (by omega)
    omega
  have hsent : ((sent - 1 : Nat) : Int) < periods := lt_of_mul_lt_mul_left hmul hadvance.le
  omega

/-- If every unit stands for a period of the stream, the sender keeps pace. -/
theorem OnTime.keeps_pace (h : OnTime gap gap start now 1 sent) (hgap : 0 ≤ gap)
    (hstart : start ≤ now) :
    |(sent : Int) * gap - (now - start)| ≤ gap := by
  have hupper := h.notDue
  have hlower := h.wasDue
  unfold Due at hupper hlower
  have hone : sent = 1 ∨ 1 < sent := by
    have hle := h.given_le
    omega
  rw [mul_comm, abs_le]
  rcases hone with rfl | hmany
  · push_cast at hupper ⊢
    constructor
    · omega
    · omega
  · have hwas := hlower hmany
    have hpred : gap * ((sent - 1 : Nat) : Int) = gap * sent - gap := by
      rw [Nat.cast_sub hmany.le, Nat.cast_one, mul_sub, mul_one]
    rw [hpred] at hwas
    constructor
    · omega
    · omega

end Pacing
