import Mathlib.Tactic.TypeStar

/-!
A ring of `m` slots that is written in turn. Values are counted in the order in
which they are written: value `j` goes into slot `j % m` and stays there until
value `j + m` replaces it.
-/

namespace Ring

/-- The number of the last of the first `n` values that went into slot `i`. -/
def lastIndex (m n i : Nat) : Option Nat :=
  if i < n then some (i + m * ((n - 1 - i) / m)) else none

theorem lastIndex_eq_some_iff {m n i j : Nat} (hi : i < m) :
    lastIndex m n i = some j ↔ j < n ∧ j % m = i ∧ n ≤ j + m := by
  unfold lastIndex
  have hm : 0 < m := by omega
  by_cases hin : i < n
  · rw [if_pos hin, Option.some.injEq]
    have hdiv := Nat.div_add_mod (n - 1 - i) m
    have hmod := Nat.mod_lt (n - 1 - i) hm
    constructor
    · rintro rfl
      refine ⟨by omega, ?_, by omega⟩
      rw [Nat.add_mul_mod_self_left]
      exact Nat.mod_eq_of_lt hi
    · rintro ⟨hj, hslot, hlast⟩
      have hj' := Nat.div_add_mod j m
      rw [hslot] at hj'
      have hq : j / m = (n - 1 - i) / m := by
        apply (Nat.div_eq_of_lt_le _ _).symm
        · rw [Nat.mul_comm]
          omega
        · rw [Nat.mul_comm, Nat.mul_succ]
          omega
      rw [← hq]
      omega
  · rw [if_neg hin]
    constructor
    · intro h
      cases h
    · rintro ⟨hj, hslot, -⟩
      have hle := Nat.mod_le j m
      omega

theorem lastIndex_eq_none_iff {m n i : Nat} : lastIndex m n i = none ↔ n ≤ i := by
  unfold lastIndex
  split
  · simp only [reduceCtorEq, false_iff]
    omega
  · simp only [true_iff]
    omega

/-- One more value replaces the content of one slot. -/
theorem lastIndex_succ {m i : Nat} (n : Nat) (hi : i < m) :
    lastIndex m (n + 1) i = if i = n % m then some n else lastIndex m n i := by
  have hm : 0 < m := by omega
  by_cases hslot : i = n % m
  · rw [if_pos hslot, lastIndex_eq_some_iff hi]
    exact ⟨Nat.lt_succ_self n, hslot.symm, by omega⟩
  · rw [if_neg hslot]
    cases hlast : lastIndex m n i with
    | none =>
        rw [lastIndex_eq_none_iff] at hlast ⊢
        rcases Nat.lt_or_eq_of_le hlast with hlt | heq
        · exact hlt
        · exact absurd (by rw [heq, Nat.mod_eq_of_lt hi]) hslot
    | some j =>
        rw [lastIndex_eq_some_iff hi] at hlast ⊢
        obtain ⟨hj, hmod, hle⟩ := hlast
        refine ⟨by omega, hmod, ?_⟩
        rcases Nat.lt_or_eq_of_le hle with hlt | heq
        · exact hlt
        · rw [heq, Nat.add_mod_right] at hslot
          exact absurd hmod.symm hslot

/-- Cyclic positions of two counts less than a lap apart agree only if the counts do. -/
theorem mod_eq_mod_iff {m a b : Nat} (hle : a ≤ b) (hlt : b < a + m) :
    b % m = a % m ↔ a = b := by
  constructor
  · intro h
    have hdvd : m ∣ b - a := Nat.dvd_of_mod_eq_zero (Nat.sub_mod_eq_zero_of_mod_eq h)
    have hzero := Nat.eq_zero_of_dvd_of_lt hdvd (by omega)
    omega
  · rintro rfl
    rfl

/-- Two values in one slot within the last lap are one. -/
theorem same_lap {m n a b : Nat} (hslot : a % m = b % m) (ha : a < n) (hb : b < n)
    (hlapa : n < a + m) (hlapb : n < b + m) : a = b := by
  rcases Nat.le_total a b with hle | hle
  · exact (mod_eq_mod_iff hle (by omega)).mp hslot.symm
  · exact ((mod_eq_mod_iff hle (by omega)).mp hslot).symm

/-- Different counts within one lap have different positions. -/
theorem mod_ne {m lo a b : Nat} (ha : lo ≤ a) (ha' : a < lo + m) (hb : lo ≤ b) (hb' : b < lo + m)
    (hne : a ≠ b) : a % m ≠ b % m := by
  intro hslot
  rcases Nat.le_total a b with hle | hle
  · exact hne ((mod_eq_mod_iff hle (by omega)).mp hslot.symm)
  · exact hne ((mod_eq_mod_iff hle (by omega)).mp hslot).symm

/-- The cyclic distance of two counts less than a lap apart. -/
theorem distance {m a b : Nat} (hle : a ≤ b) (hlt : b < a + m) :
    (b % m + m - a % m) % m = b - a := by
  have hm : 0 < m := by omega
  have ha := Nat.div_add_mod a m
  have hamod := Nat.mod_lt a hm
  obtain ⟨d, rfl⟩ := Nat.exists_eq_add_of_le hle
  have hd : d < m := by omega
  rw [Nat.add_mod, Nat.mod_eq_of_lt hd, Nat.add_sub_cancel_left]
  by_cases hwrap : a % m + d < m
  · rw [Nat.mod_eq_of_lt hwrap, show a % m + d + m - a % m = d + m by omega,
      Nat.add_mod_right, Nat.mod_eq_of_lt hd]
  · have hmod : (a % m + d) % m = a % m + d - m := by
      rw [Nat.mod_eq_sub_mod (by omega), Nat.mod_eq_of_lt (by omega)]
    rw [hmod, show a % m + d - m + m - a % m = d by omega, Nat.mod_eq_of_lt hd]

/-- A value of a sequence that has grown by one is an older one, or the new one. -/
theorem getElem?_concat_cases {α : Type*} {written : List α} {x y : α} {j : Nat}
    (h : (written ++ [x])[j]? = some y) :
    (j < written.length ∧ written[j]? = some y) ∨ (j = written.length ∧ y = x) := by
  rw [List.getElem?_append] at h
  split at h
  · rename_i hold
    exact .inl ⟨hold, h⟩
  · rename_i hnew
    obtain ⟨hlast, hy⟩ := List.getElem?_eq_some_iff.mp h
    rw [List.length_singleton] at hlast
    simp only [show j - written.length = 0 by omega, List.getElem_cons_zero] at hy
    exact .inr ⟨by omega, hy.symm⟩

variable {α : Type*} [Inhabited α]

/-- What slot `i` holds after the values have been written. -/
def slot (m : Nat) (written : List α) (i : Nat) : α :=
  ((lastIndex m written.length i).bind fun j => written[j]?).getD default

theorem slot_append {m i : Nat} (written : List α) (x : α) (hi : i < m) :
    slot m (written ++ [x]) i = if i = written.length % m then x else slot m written i := by
  unfold slot
  rw [List.length_append, List.length_singleton, lastIndex_succ _ hi]
  split
  · simp
  · cases hlast : lastIndex m written.length i with
    | none => rfl
    | some j =>
        have hj := ((lastIndex_eq_some_iff hi).mp hlast).1
        simp [List.getElem?_append_left hj]

theorem slot_of_lt {m j : Nat} {written : List α} {x : α} (hm : 0 < m) (hx : written[j]? = some x)
    (hlast : written.length ≤ j + m) : slot m written (j % m) = x := by
  have hj : j < written.length := (List.getElem?_eq_some_iff.mp hx).1
  have hindex : lastIndex m written.length (j % m) = some j :=
    (lastIndex_eq_some_iff (Nat.mod_lt j hm)).mpr ⟨hj, rfl, hlast⟩
  rw [slot, hindex]
  simp [hx]

/-- A slot holds the last value that went into it, or none has. -/
theorem slot_cases {m i : Nat} (written : List α) (hi : i < m) :
    (written.length ≤ i ∧ slot m written i = default) ∨
      ∃ j, j % m = i ∧ written.length ≤ j + m ∧ written[j]? = some (slot m written i) := by
  cases hlast : lastIndex m written.length i with
  | none =>
      left
      refine ⟨lastIndex_eq_none_iff.mp hlast, ?_⟩
      rw [slot, hlast]
      rfl
  | some j =>
      right
      obtain ⟨hj, hmod, hle⟩ := (lastIndex_eq_some_iff hi).mp hlast
      refine ⟨j, hmod, hle, ?_⟩
      rw [slot, hlast, Option.bind_some, List.getElem?_eq_getElem hj]
      rfl

end Ring
