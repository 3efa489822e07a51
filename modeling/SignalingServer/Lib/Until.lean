import Mathlib.Tactic.TypeStar

/-!
A loop that goes from one value to the next until it comes to one that will do. It is given the
rounds that it may take; rules for it are an invariant, which holds of the value it ends with, and
a variant, by which it ends.
-/

namespace Until

variable {α : Type*} {stop : α → Prop} [DecidablePred stop] {next : α → α}

/-- `while (!stop(x)) x = next(x);` with the rounds it may take. -/
def loop (stop : α → Prop) [DecidablePred stop] (next : α → α) : Nat → α → Option α
  | 0, _ => none
  | rounds + 1, x => if stop x then some x else loop stop next rounds (next x)

/-- The value that the loop ends with will do, and what every round keeps holds of it. -/
theorem loop_invariant {I : α → Prop} (hI : ∀ x, I x → ¬ stop x → I (next x)) {rounds : Nat}
    {x y : α} (hx : I x) (hloop : loop stop next rounds x = some y) : I y ∧ stop y := by
  induction rounds generalizing x with
  | zero => cases hloop
  | succ rounds ih =>
      rw [loop] at hloop
      split at hloop
      · rename_i hstop
        cases hloop
        exact ⟨hx, hstop⟩
      · rename_i hgo
        exact ih (hI x hx hgo) hloop

/-- The loop ends when every round brings it nearer to an end. -/
theorem loop_ends {I : α → Prop} (V : α → Nat)
    (hI : ∀ x, I x → ¬ stop x → I (next x) ∧ V (next x) < V x) {rounds : Nat} {x : α} (hx : I x)
    (hrounds : V x < rounds) : ∃ y, loop stop next rounds x = some y := by
  induction rounds generalizing x with
  | zero => exact absurd hrounds (Nat.not_lt_zero _)
  | succ rounds ih =>
      rw [loop]
      split
      · exact ⟨x, rfl⟩
      · rename_i hgo
        obtain ⟨hnext, hless⟩ := hI x hx hgo
        exact ih hnext (by omega)

/-- More rounds change nothing. -/
theorem loop_mono {rounds rounds' : Nat} (hle : rounds ≤ rounds') {x y : α}
    (hloop : loop stop next rounds x = some y) : loop stop next rounds' x = some y := by
  induction rounds generalizing rounds' x with
  | zero => cases hloop
  | succ rounds ih =>
      obtain ⟨more, rfl⟩ : ∃ more, rounds' = more + 1 := ⟨rounds' - 1, by omega⟩
      rw [loop] at hloop ⊢
      split
      · rename_i hstop
        rwa [if_pos hstop] at hloop
      · rename_i hgo
        rw [if_neg hgo] at hloop
        exact ih (by omega) hloop

end Until
