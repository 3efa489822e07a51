import Mathlib.Data.List.Basic
import Mathlib.Data.List.Infix

/-!
How much of a pattern the end of a text has. The first `k` elements of the pattern fit at
the end of the text, and what fits after one more element is what fitted before it and goes
on with this element. A search that keeps the longest fit needs to know of every first part
of the pattern only which shorter one fits at its end.
-/

namespace Borders

universe u

variable {α : Type u} {p t : List α} {c : α} {bound j k n : Nat}

/-- The first `k` elements of `p` are the last ones of `t`. -/
def Fits (p t : List α) (k : Nat) : Prop := k ≤ p.length ∧ p.take k <:+ t

theorem fits_zero : Fits p t 0 := ⟨Nat.zero_le _, List.nil_suffix⟩

/-- What fits at the end of a fit is what fits at the end of the text. -/
theorem fits_take_iff (hj : Fits p t j) (hk : k ≤ j) : Fits p (p.take j) k ↔ Fits p t k := by
  have hlen : (p.take k).length ≤ (p.take j).length := by
    rw [List.length_take, List.length_take]
    omega
  constructor
  · exact fun h => ⟨h.1, h.2.trans hj.2⟩
  · exact fun h => ⟨h.1, List.suffix_of_suffix_length_le h.2 hj.2 hlen⟩

theorem fits_concat_iff : Fits p (t ++ [c]) (k + 1) ↔ Fits p t k ∧ p[k]? = some c := by
  unfold Fits
  rw [List.take_add_one, List.suffix_concat_iff]
  cases hk : p[k]? with
  | none =>
      have hlen := List.getElem?_eq_none_iff.mp hk
      constructor
      · rintro ⟨hle, -⟩
        omega
      · rintro ⟨-, ⟨⟩⟩
  | some d =>
      have hlt := (List.getElem?_eq_some_iff.mp hk).1
      have hnil : p.take k ++ [d] ≠ [] := by simp
      simp only [Option.toList_some, hnil, false_or, List.append_singleton_inj, Option.some.injEq]
      constructor
      · rintro ⟨-, t', ⟨rfl, rfl⟩, hsuffix⟩
        exact ⟨⟨Nat.le_of_lt hlt, hsuffix⟩, rfl⟩
      · rintro ⟨⟨-, hsuffix⟩, rfl⟩
        exact ⟨hlt, _, ⟨rfl, rfl⟩, hsuffix⟩

/-- The entry of a failure table for the first `j` elements: the longest shorter fit at their
end, and -1 where there is none. -/
def Entry (p : List α) (j : Nat) (e : Int) : Prop :=
  (j = 0 ∧ e = -1) ∨
    ∃ k : Nat, e = k ∧ k < j ∧ Fits p (p.take j) k ∧ ∀ k' < j, Fits p (p.take j) k' → k' ≤ k

theorem Entry.lt {e : Int} (h : Entry p j e) : e < j := by
  rcases h with ⟨rfl, rfl⟩ | ⟨k, rfl, hlt, -⟩
  · decide
  · exact Int.ofNat_lt.mpr hlt

/-- A place from which the next element `c` can be tried: -1 or a fit below the bound, such
that nothing longer fits and goes on with `c`. -/
structure Candidate (p t : List α) (c : α) (bound : Nat) (j : Int) : Prop where
  fits : j = -1 ∨ ∃ n : Nat, j = n ∧ n < bound ∧ Fits p t n
  longer : ∀ k : Nat, k < bound → j < k → Fits p t k → p[k]? ≠ some c

theorem Candidate.range {j : Int} (h : Candidate p t c bound j) : -1 ≤ j ∧ j < bound := by
  rcases h.fits with rfl | ⟨n, rfl, hlt, -⟩
  · omega
  · omega

/-- The longest fit is a candidate for every element. -/
theorem Candidate.of_longest (hn : n < bound) (hfits : Fits p t n)
    (hmax : ∀ k < bound, Fits p t k → k ≤ n) (c : α) : Candidate p t c bound n where
  fits := .inr ⟨n, rfl, hn, hfits⟩
  longer k hk hlt hfit := by
    have hle := hmax k hk hfit
    omega

/-- An entry that may pass over fits which the same element goes on with as with the first `j`
elements: after a mismatch there they do not help. -/
structure Failure (p : List α) (j : Nat) (e : Int) : Prop where
  fits : e = -1 ∨ ∃ k : Nat, e = k ∧ k < j ∧ Fits p (p.take j) k
  longer : ∀ k < j, e < k → Fits p (p.take j) k → p[k]? = p[j]?

theorem Failure.lt {e : Int} (h : Failure p j e) : -1 ≤ e ∧ e < j := by
  rcases h.fits with rfl | ⟨k, rfl, hlt, -⟩
  · omega
  · omega

theorem Entry.failure {e : Int} (h : Entry p j e) : Failure p j e := by
  rcases h with ⟨rfl, rfl⟩ | ⟨k, rfl, hlt, hfit, hmax⟩
  · exact ⟨.inl rfl, fun k hk => absurd hk (Nat.not_lt_zero k)⟩
  · refine ⟨.inr ⟨k, rfl, hlt, hfit⟩, fun k' hk' hless hfit' => ?_⟩
    have hle := hmax k' hk' hfit'
    omega

/-- Behind the longest fit at the end of the first `j` elements stands the same element as
behind them: then its own entry will do. -/
theorem Failure.skip {e : Int} (h : Failure p k e) (hk : k < j) (hfit : Fits p (p.take j) k)
    (hmax : ∀ k' < j, Fits p (p.take j) k' → k' ≤ k) (hsame : p[k]? = p[j]?) : Failure p j e := by
  refine ⟨h.fits.imp_right ?_, fun k' hk' hless hfit' => ?_⟩
  · rintro ⟨n, rfl, hn, hfitn⟩
    exact ⟨n, rfl, Nat.lt_trans hn hk, (fits_take_iff hfit (Nat.le_of_lt hn)).mp hfitn⟩
  · rcases Nat.lt_or_eq_of_le (hmax k' hk' hfit') with hlt | rfl
    · rw [← hsame]
      exact h.longer k' hlt hless ((fits_take_iff hfit (Nat.le_of_lt hlt)).mpr hfit')
    · exact hsame

/-- When the element does not fit behind a candidate, its entry is the next one. -/
theorem Candidate.fall {e : Int} (h : Candidate p t c bound n) (hmiss : p[n]? ≠ some c)
    (he : Failure p n e) : Candidate p t c bound e := by
  obtain ⟨hfits, hlonger⟩ := h
  obtain ⟨n', hn', hlt, hfit⟩ := hfits.resolve_left (by omega)
  obtain rfl : n' = n := by omega
  refine ⟨he.fits.imp_right ?_, fun k hk hless hfit' => ?_⟩
  · rintro ⟨k, rfl, hk, hfitk⟩
    exact ⟨k, rfl, by omega, (fits_take_iff hfit (Nat.le_of_lt hk)).mp hfitk⟩
  · rcases Nat.lt_trichotomy k n' with hbefore | rfl | hmore
    · rw [he.longer k hbefore hless ((fits_take_iff hfit (Nat.le_of_lt hbefore)).mpr hfit')]
      exact hmiss
    · exact hmiss
    · exact hlonger k hk (by omega) hfit'

/-- When it does, the fit that is one longer is the longest. -/
theorem Candidate.extend {j : Int} (h : Candidate p t c bound j)
    (hmatch : j = -1 ∨ p[j.toNat]? = some c) :
    Fits p (t ++ [c]) (j + 1).toNat ∧
      ∀ k ≤ bound, Fits p (t ++ [c]) k → k ≤ (j + 1).toNat := by
  constructor
  · rcases h.fits with rfl | ⟨n, rfl, -, hfit⟩
    · exact fits_zero
    · exact fits_concat_iff.mpr ⟨hfit, hmatch.resolve_left (by omega)⟩
  · intro k hk hfit
    cases k with
    | zero => exact Nat.zero_le _
    | succ k =>
        obtain ⟨hfit', hc⟩ := fits_concat_iff.mp hfit
        by_contra hmore
        exact h.longer k (by omega) (by omega) hfit' hc

/-- A match at the end of the first `j` elements, with the element behind them, gives the
entry for one element more. -/
theorem Candidate.longest_take {k : Int} (h : Candidate p (p.take j) c j k) (hc : p[j]? = some c)
    (hmatch : k = -1 ∨ p[k.toNat]? = some c) :
    ∃ m : Nat, k + 1 = m ∧ m < j + 1 ∧ Fits p (p.take (j + 1)) m ∧
      ∀ k' < j + 1, Fits p (p.take (j + 1)) k' → k' ≤ m := by
  have hrange := h.range
  obtain ⟨m, hm⟩ : ∃ m : Nat, k + 1 = m := ⟨(k + 1).toNat, by omega⟩
  have htake : p.take (j + 1) = p.take j ++ [c] := by
    rw [List.take_add_one, hc]
    rfl
  obtain ⟨hfit, hmax⟩ := h.extend hmatch
  rw [← htake, hm, Int.toNat_natCast] at hfit hmax
  exact ⟨m, hm, by omega, hfit, fun k' hk' => hmax k' (Nat.le_of_lt_succ hk')⟩

/-- Where nothing fits after the first element of a rest, nor later, nothing fits in it. -/
theorem not_fits_take_cons {cs : List α} (hfirst : ¬ Fits p (t ++ [c]) n)
    (hrest : ∀ m, 0 < m → m ≤ k → ¬ Fits p (t ++ [c] ++ cs.take m) n) :
    ∀ m, 0 < m → m ≤ k + 1 → ¬ Fits p (t ++ (c :: cs).take m) n := by
  intro m hpos hle
  obtain ⟨m', rfl⟩ : ∃ m', m = m' + 1 := ⟨m - 1, by omega⟩
  rw [List.take_succ_cons, List.append_cons]
  rcases Nat.eq_zero_or_pos m' with rfl | hpos'
  · rw [List.take_zero, List.append_nil]
    exact hfirst
  · exact hrest m' hpos' (Nat.le_of_succ_le_succ hle)

/-! ### Occurrences -/

/-- The pattern stands at place `n` of the text. -/
def Occurs (p s : List α) (n : Nat) : Prop := p <+: s.drop n

instance [DecidableEq α] (p s : List α) (n : Nat) : Decidable (Occurs p s n) :=
  inferInstanceAs (Decidable (p <+: s.drop n))

/-- It stands at a place exactly when all of it fits at the end of the text up to behind it. -/
theorem occurs_iff_fits {s : List α} (hp : p ≠ []) :
    Occurs p s n ↔ n + p.length ≤ s.length ∧ Fits p (s.take (n + p.length)) p.length := by
  have hpos : 0 < p.length := List.length_pos_iff.mpr hp
  unfold Occurs Fits
  rw [List.take_length]
  constructor
  · rintro ⟨rest, hrest⟩
    have hlen := congrArg List.length hrest
    rw [List.length_append, List.length_drop] at hlen
    refine ⟨by omega, Nat.le_refl _, s.take n, ?_⟩
    rw [List.take_add, ← hrest, List.take_left' rfl]
  · rintro ⟨hle, -, front, hfront⟩
    have hlen := congrArg List.length hfront
    rw [List.length_append, List.length_take, Nat.min_eq_left hle] at hlen
    have hn : front.length = n := by omega
    refine ⟨s.drop (n + p.length), ?_⟩
    have hsplit := List.take_append_drop (n + p.length) s
    rw [← hfront, List.append_assoc] at hsplit
    calc p ++ s.drop (n + p.length)
        = (front ++ (p ++ s.drop (n + p.length))).drop n := (List.drop_left' hn).symm
      _ = s.drop n := by rw [hsplit]

end Borders
