import Mathlib.Data.List.Basic

/-!
The account of a first-in first-out queue: what was put in since it was last emptied, and
what was taken out of it. While the queue holds exactly the difference, what was taken out
is the first part of what was put in.
-/

namespace Fifo

universe u

/-- What was put in and what was taken out, in order. -/
structure Log (α : Type u) where
  written : List α := []
  consumed : List α := []

variable {α : Type u} {l : Log α} {held : List α}

namespace Log

def push (l : Log α) (xs : List α) : Log α := { l with written := l.written ++ xs }

def pop (l : Log α) (xs : List α) : Log α := { l with consumed := l.consumed ++ xs }

/-- The queue holds what was put in and not taken out. -/
def Accounts (l : Log α) (held : List α) : Prop := l.written = l.consumed ++ held

theorem accounts_empty : Accounts ({} : Log α) [] := rfl

theorem Accounts.prefix (h : l.Accounts held) : l.consumed <+: l.written :=
  ⟨held, h.symm⟩

theorem Accounts.push (h : l.Accounts held) (xs : List α) :
    (l.push xs).Accounts (held ++ xs) := by
  show l.written ++ xs = l.consumed ++ (held ++ xs)
  rw [h, List.append_assoc]

/-- The first elements are taken out. -/
theorem Accounts.pop (h : l.Accounts held) (n : Nat) :
    (l.pop (held.take n)).Accounts (held.drop n) := by
  show l.written = l.consumed ++ held.take n ++ held.drop n
  rw [List.append_assoc, List.take_append_drop]
  exact h

end Log

end Fifo
