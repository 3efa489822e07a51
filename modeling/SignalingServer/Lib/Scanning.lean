import Mathlib.Data.List.TakeWhile
import SignalingServer.Lib.Splitting

/-!
Reading a text from the left: all characters of one kind, as many as there are, or everything
up to the first place at which a word stands. A word is unbordered if no shorter part of it
stands both at its beginning and at its end; then it cannot begin inside of what is in front of
it, and the first place is known from what is in front alone.
-/

namespace Scanning

open Borders Splitting

universe u

variable {α : Type u} {w a b r s : List α} {c : α} {q : α → Bool}

/-! ### One kind of characters -/

/-- A statement about all characters of a text is decided over the text, also where the type of the
characters is finite. -/
scoped instance (priority := 2000) decidableForallMem {p : α → Prop} [DecidablePred p]
    (s : List α) : Decidable (∀ c ∈ s, p c) :=
  List.decidableBAll p s

theorem takeWhile_append_stop (ha : ∀ c ∈ a, q c = true) (hb : ∀ c ∈ b.head?, q c = false) :
    (a ++ b).takeWhile q = a := by
  rw [List.takeWhile_append_of_pos ha]
  cases b with
  | nil => rw [List.takeWhile_nil, List.append_nil]
  | cons c b =>
      rw [List.takeWhile_cons_of_neg (by simp [hb c rfl]), List.append_nil]

theorem dropWhile_append_stop (ha : ∀ c ∈ a, q c = true) (hb : ∀ c ∈ b.head?, q c = false) :
    (a ++ b).dropWhile q = b := by
  rw [List.dropWhile_append_of_pos ha]
  cases b with
  | nil => rfl
  | cons c b => rw [List.dropWhile_cons_of_neg (by simp [hb c rfl])]

/-- Behind all characters of a kind there is one of another kind, if any. -/
theorem head?_dropWhile (s : List α) : ∀ c ∈ (s.dropWhile q).head?, q c = false := by
  intro c hc
  have hnot := List.head?_dropWhile_not q s
  rw [Option.mem_def.mp hc] at hnot
  exact hnot

/-! ### Up to a word -/

/-- What is in front of the first place at which `w` stands, and what is behind it. -/
def breakOn [DecidableEq α] (w : List α) : List α → Option (List α × List α)
  | [] => none
  | c :: s =>
      if w <+: c :: s then some ([], (c :: s).drop w.length)
      else (breakOn w s).map fun found => (c :: found.1, found.2)

theorem breakOn_eq_some_iff [DecidableEq α] (hw : w ≠ []) :
    breakOn w s = some (a, r) ↔ s = a ++ (w ++ r) ∧ ∀ n < a.length, ¬ Occurs w s n := by
  induction s generalizing a with
  | nil =>
      rw [breakOn]
      constructor
      · exact fun h => nomatch h
      · rintro ⟨h, -⟩
        exact absurd (List.append_eq_nil_iff.mp (List.append_eq_nil_iff.mp h.symm).2).1 hw
  | cons c s ih =>
      rw [breakOn]
      split
      next hpre =>
        obtain ⟨rest, hrest⟩ := hpre
        rw [← hrest, List.drop_left' rfl, Option.some.injEq, Prod.mk.injEq]
        constructor
        · rintro ⟨rfl, rfl⟩
          exact ⟨rfl, fun n hn => absurd hn (Nat.not_lt_zero n)⟩
        · rintro ⟨heq, hfirst⟩
          cases a with
          | nil => exact ⟨rfl, List.append_cancel_left heq⟩
          | cons d a =>
              exact absurd (List.prefix_append w rest) (hfirst 0 (Nat.succ_pos a.length))
      next hpre =>
        rw [Option.map_eq_some_iff]
        constructor
        · rintro ⟨found, hfound, hmk⟩
          obtain ⟨rfl, rfl⟩ := Prod.mk.inj hmk
          obtain ⟨rfl, hfirst⟩ := ih.mp hfound
          refine ⟨rfl, fun n hn => ?_⟩
          cases n with
          | zero => exact hpre
          | succ n => exact hfirst n (Nat.lt_of_succ_lt_succ hn)
        · rintro ⟨heq, hfirst⟩
          cases a with
          | nil => exact absurd ⟨r, heq.symm⟩ hpre
          | cons d a =>
              obtain ⟨rfl, rfl⟩ := List.cons.inj heq
              exact ⟨(a, r), ih.mpr ⟨rfl, fun n hn => hfirst (n + 1) (Nat.succ_lt_succ hn)⟩, rfl⟩

/-- No part of `w` but the whole stands at its beginning and at its end. -/
def Unbordered (w : List α) : Prop := ∀ k < w.length, w.take k <:+ w → k = 0

instance [DecidableEq α] (w : List α) : Decidable (Unbordered w) :=
  inferInstanceAs (Decidable (∀ k < w.length, _))

/-- Two places at which an unbordered word stands do not overlap. -/
theorem Unbordered.apart (hu : Unbordered w) {n : Nat} (hn : n < a.length)
    (hocc : Occurs w (a ++ (w ++ r)) n) : w <:+: a := by
  rw [Occurs, List.drop_append_of_le_length (Nat.le_of_lt hn)] at hocc
  have hlen : 0 < (a.drop n).length := by
    rw [List.length_drop]
    omega
  rcases Nat.lt_or_ge (a.drop n).length w.length with hlt | hge
  · -- the end of `a` is a beginning of `w`, and the end of `w` is one too
    have hfront : a.drop n = w.take (a.drop n).length :=
      List.prefix_iff_eq_take.mp
        (List.prefix_of_prefix_length_le (List.prefix_append _ _) hocc (Nat.le_of_lt hlt))
    obtain ⟨rest, hrest⟩ := hocc
    have hdrop : w.drop (a.drop n).length ++ rest = w ++ r := by
      have hwhole : a.drop n ++ w.drop (a.drop n).length = w := by
        conv_lhs => rw [hfront]
        rw [List.length_take, Nat.min_eq_left (Nat.le_of_lt hlt), List.take_append_drop]
      refine List.append_cancel_left (?_ : a.drop n ++ _ = a.drop n ++ _)
      rw [← hrest, ← List.append_assoc, hwhole]
    have hborder : w.take (w.length - (a.drop n).length) <:+ w := by
      have htake : w.drop (a.drop n).length = w.take (w.length - (a.drop n).length) := by
        have hpre : w.drop (a.drop n).length <+: w :=
          List.prefix_of_prefix_length_le ⟨rest, hdrop⟩ (List.prefix_append w r)
            (by rw [List.length_drop]; omega)
        rw [List.prefix_iff_eq_take.mp hpre, List.length_drop]
      rw [← htake]
      exact List.drop_suffix _ _
    have hzero := hu _ (by omega) hborder
    omega
  · exact ((List.prefix_of_prefix_length_le hocc (List.prefix_append _ _) hge).isInfix).trans
      (List.drop_suffix n a).isInfix

theorem breakOn_unbordered [DecidableEq α] (hw : w ≠ []) (hu : Unbordered w) :
    breakOn w s = some (a, r) ↔ s = a ++ (w ++ r) ∧ ¬ w <:+: a := by
  rw [breakOn_eq_some_iff hw]
  refine and_congr_right fun heq => ?_
  subst heq
  constructor
  · intro hfirst hinfix
    obtain ⟨n, hocc⟩ := infix_iff_occurs.mp hinfix
    have hlen := Occurs.le_length hocc hw
    have hpos : 0 < w.length := List.length_pos_iff.mpr hw
    refine hfirst n (by omega) ?_
    rw [Occurs, List.drop_append_of_le_length (by omega)]
    exact List.IsPrefix.trans hocc (List.prefix_append _ _)
  · exact fun hfree n hn hocc => hfree (hu.apart hn hocc)

theorem unbordered_singleton (c : α) : Unbordered [c] := by
  intro k hk _
  exact Nat.lt_one_iff.mp hk

theorem breakOn_singleton [DecidableEq α] :
    breakOn [c] s = some (a, r) ↔ s = a ++ c :: r ∧ c ∉ a := by
  rw [breakOn_unbordered (List.cons_ne_nil c []) (unbordered_singleton c),
    List.singleton_infix_iff, List.singleton_append]

end Scanning
