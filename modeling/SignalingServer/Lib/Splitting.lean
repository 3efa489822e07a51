import SignalingServer.Lib.Borders

/-!
Splitting a list at a delimiter, which may be as long as it likes and overlap itself. A piece
goes up to the first place at which the delimiter stands, and the next piece begins behind that
one. Behind a delimiter at the end there is no piece.
-/

namespace Splitting

open Borders

universe u

variable {α : Type u} {d s : List α} {pieces : List (List α)} {pos n : Nat}

theorem infix_iff_occurs : d <:+: s ↔ ∃ n, Occurs d s n := by
  constructor
  · rintro ⟨front, rest, rfl⟩
    refine ⟨front.length, rest, ?_⟩
    rw [List.append_assoc, List.drop_left' rfl]
  · rintro ⟨n, hocc⟩
    exact hocc.isInfix.trans (List.drop_suffix n s).isInfix

/-- The first place from `pos` on at which the delimiter stands. -/
def firstFrom [DecidableEq α] (d s : List α) (pos : Nat) : Option Nat :=
  (List.range' pos (s.length + 1 - pos)).find? fun n => decide (Occurs d s n)

theorem Occurs.le_length (hocc : Occurs d s n) (hd : d ≠ []) : n + d.length ≤ s.length := by
  have hpos : 0 < d.length := List.length_pos_iff.mpr hd
  have hle := hocc.length_le
  rw [List.length_drop] at hle
  omega

theorem firstFrom_eq_some [DecidableEq α] (h : firstFrom d s pos = some n) :
    pos ≤ n ∧ Occurs d s n ∧ ∀ m, pos ≤ m → m < n → ¬ Occurs d s m := by
  obtain ⟨hocc, hmem, hfirst⟩ := List.find?_range'_eq_some.mp h
  refine ⟨(List.mem_range'_1.mp hmem).1, of_decide_eq_true hocc, fun m hle hlt => ?_⟩
  have hnot := hfirst m hle hlt
  rw [Bool.not_eq_true', decide_eq_false_iff_not] at hnot
  exact hnot

theorem firstFrom_eq_none [DecidableEq α] (hd : d ≠ []) (h : firstFrom d s pos = none) :
    ∀ m, pos ≤ m → ¬ Occurs d s m := by
  intro m hle hocc
  have hlen := Occurs.le_length hocc hd
  have hnot := List.find?_range'_eq_none.mp h m hle (by omega)
  rw [Bool.not_eq_true', decide_eq_false_iff_not] at hnot
  exact hnot hocc

/-- The pieces of a list. -/
inductive Splits (d : List α) : List α → List (List α) → Prop
  | nil : Splits d [] []
  | last {s : List α} (hne : s ≠ []) (hfree : ¬ d <:+: s) : Splits d s [s]
  | cons {piece rest : List α} {pieces : List (List α)}
      (hfirst : ∀ n < piece.length, ¬ Occurs d (piece ++ (d ++ rest)) n)
      (hrest : Splits d rest pieces) : Splits d (piece ++ (d ++ rest)) (piece :: pieces)

/-- The rest from `pos` on, where no delimiter stands any more. -/
theorem Splits.of_none (hmore : pos < s.length) (hfree : ∀ m, pos ≤ m → ¬ Occurs d s m) :
    Splits d (s.drop pos) [s.drop pos] := by
  refine .last ?_ fun hinfix => ?_
  · rw [Ne, List.drop_eq_nil_iff]
    omega
  · obtain ⟨n, hocc⟩ := infix_iff_occurs.mp hinfix
    rw [Occurs, List.drop_drop] at hocc
    exact hfree (pos + n) (Nat.le_add_right pos n) hocc

/-- The piece up to the first delimiter from `pos` on, and the pieces behind it. -/
theorem Splits.of_first (hle : pos ≤ n) (hocc : Occurs d s n)
    (hfirst : ∀ m, pos ≤ m → m < n → ¬ Occurs d s m)
    (hrest : Splits d (s.drop (n + d.length)) pieces) :
    Splits d (s.drop pos) ((s.drop pos).take (n - pos) :: pieces) := by
  obtain ⟨rest, hfound⟩ := hocc
  have hbehind : s.drop (n + d.length) = rest := by
    rw [← List.drop_drop, ← hfound, List.drop_left' rfl]
  have hsplit : (s.drop pos).take (n - pos) ++ (d ++ rest) = s.drop pos := by
    rw [hfound, ← Nat.add_sub_of_le hle, ← List.drop_drop, Nat.add_sub_cancel_left,
      List.take_append_drop]
  rw [hbehind] at hrest
  have hcons : Splits d ((s.drop pos).take (n - pos) ++ (d ++ rest))
      ((s.drop pos).take (n - pos) :: pieces) := by
    refine .cons (fun m hm hocc => ?_) hrest
    rw [hsplit, Occurs, List.drop_drop] at hocc
    rw [List.length_take] at hm
    exact hfirst (pos + m) (Nat.le_add_right pos m) (by omega) hocc
  rwa [hsplit] at hcons

/-- No piece has the delimiter in it. -/
theorem Splits.free (h : Splits d s pieces) (hd : d ≠ []) :
    ∀ piece ∈ pieces, ¬ d <:+: piece := by
  induction h with
  | nil => exact fun piece hmem => absurd hmem List.not_mem_nil
  | last hne hfree =>
      intro piece hmem
      rw [List.mem_singleton.mp hmem]
      exact hfree
  | @cons piece rest pieces hfirst hrest ih =>
      intro piece' hmem
      rcases List.mem_cons.mp hmem with rfl | hmem
      · intro hinfix
        obtain ⟨n, hocc⟩ := infix_iff_occurs.mp hinfix
        have hlen := Occurs.le_length hocc hd
        have hpos : 0 < d.length := List.length_pos_iff.mpr hd
        -- it would stand before the first delimiter
        refine hfirst n (by omega) ?_
        rw [Occurs, List.drop_append_of_le_length (by omega)]
        exact hocc.trans (List.prefix_append _ _)
      · exact ih piece' hmem

/-- The pieces with the delimiter between them are the list, but for a delimiter at its end. -/
theorem Splits.join (h : Splits d s pieces) :
    d.intercalate pieces = s ∨ d.intercalate pieces ++ d = s := by
  induction h with
  | nil => exact .inl rfl
  | last hne hfree => exact .inl List.intercalate_singleton
  | @cons piece rest pieces hfirst hrest ih =>
      cases hrest with
      | nil =>
          right
          rw [List.intercalate_singleton, List.append_nil]
      | last hne hfree =>
          left
          rw [List.intercalate_cons_cons, List.intercalate_singleton, List.append_assoc]
      | cons hfirst' hrest' =>
          rw [List.intercalate_cons_cons]
          rcases ih with ih | ih
          · left
            rw [ih, List.append_assoc]
          · right
            rw [← ih]
            simp only [List.append_assoc]

end Splitting
