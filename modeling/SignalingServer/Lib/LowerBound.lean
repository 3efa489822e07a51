import Mathlib.Data.List.Basic

/-!
Bisection of a list. `lowerBound` goes to the middle of the part that is left and keeps one
half of it. On a list in which all elements with the property stand in front of those without,
it finds where the first part ends.
-/

namespace LowerBound

universe u

variable {α : Type u}

/-- The part that is left has `len` elements from `first` on. -/
def search (p : α → Bool) (l : List α) : Nat → Nat → Nat → Nat
  | 0, first, _ => first
  | fuel + 1, first, len =>
      if len = 0 then first
      else
        match l[first + len / 2]? with
        | none => first
        | some x =>
            if p x then search p l fuel (first + len / 2 + 1) (len - len / 2 - 1)
            else search p l fuel first (len / 2)

def lowerBound (p : α → Bool) (l : List α) : Nat := search p l l.length 0 l.length

/-- The elements in front of place `n` are those with the property. -/
structure Splits (p : α → Bool) (l : List α) (n : Nat) : Prop where
  le : n ≤ l.length
  before : ∀ ⦃i : Nat⦄ ⦃x : α⦄, i < n → l[i]? = some x → p x = true
  behind : ∀ ⦃i : Nat⦄ ⦃x : α⦄, n ≤ i → l[i]? = some x → p x = false

variable {p : α → Bool} {l : List α}

/-- An element with the property has only such elements in front of it. -/
def Partitioned (p : α → Bool) (l : List α) : Prop :=
  ∀ ⦃i j : Nat⦄ ⦃x y : α⦄, i < j → l[i]? = some x → l[j]? = some y → p y = true → p x = true

theorem partitioned_of_pairwise {r : α → α → Prop} (hr : ∀ x y, r x y → p y = true → p x = true)
    (h : l.Pairwise r) : Partitioned p l := by
  intro i j x y hij hx hy hp
  obtain ⟨hi, rfl⟩ := List.getElem?_eq_some_iff.mp hx
  obtain ⟨hj, rfl⟩ := List.getElem?_eq_some_iff.mp hy
  exact hr _ _ (List.pairwise_iff_getElem.mp h i j hi hj hij) hp

theorem search_splits (hl : Partitioned p l) (fuel : Nat) {first len : Nat} (hfuel : len ≤ fuel)
    (hle : first + len ≤ l.length)
    (hbefore : ∀ ⦃i : Nat⦄ ⦃x : α⦄, i < first → l[i]? = some x → p x = true)
    (hbehind : ∀ ⦃i : Nat⦄ ⦃x : α⦄, first + len ≤ i → l[i]? = some x → p x = false) :
    Splits p l (search p l fuel first len) := by
  induction fuel generalizing first len with
  | zero =>
      have hzero : len = 0 := by omega
      subst hzero
      exact ⟨hle, hbefore, hbehind⟩
  | succ fuel ih =>
      rw [search]
      by_cases hzero : len = 0
      · subst hzero
        rw [if_pos rfl]
        exact ⟨hle, hbefore, hbehind⟩
      · have hmid : first + len / 2 < l.length := by omega
        rw [if_neg hzero, List.getElem?_eq_getElem hmid]
        dsimp only
        have hx := List.getElem?_eq_getElem hmid
        generalize l[first + len / 2] = x at hx
        by_cases hp : p x = true
        · rw [if_pos hp]
          refine ih (by omega) (by omega) (fun i y hi hy => ?_) fun i y hi hy => hbehind ?_ hy
          · rcases Nat.lt_or_eq_of_le (Nat.le_of_lt_succ hi) with hlt | rfl
            · exact hl hlt hy hx hp
            · rw [hx] at hy
              cases hy
              exact hp
          · omega
        · rw [if_neg hp]
          refine ih (by omega) (by omega) hbefore fun i y hi hy => ?_
          rcases Nat.lt_or_eq_of_le hi with hlt | rfl
          · exact Bool.eq_false_iff.mpr fun hy' => hp (hl hlt hx hy hy')
          · rw [hx] at hy
            cases hy
            exact Bool.eq_false_iff.mpr hp

theorem lowerBound_splits (hl : Partitioned p l) : Splits p l (lowerBound p l) := by
  apply search_splits hl l.length (Nat.le_refl _)
  · omega
  · intro i x hi
    exact absurd hi (Nat.not_lt_zero i)
  · intro i x hi hx
    have hlt := (List.getElem?_eq_some_iff.mp hx).1
    omega

end LowerBound
