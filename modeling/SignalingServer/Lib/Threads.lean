import Mathlib.Data.List.Perm.Basic

/-!
Any number of threads, as the list of their program counters. A step of one
thread replaces one entry; what the threads have in common is a property of all
entries or the number of entries of a kind.
-/

namespace Threads

universe u

variable {π : Type u} {pcs : List π} {i : Nat} {a : π}

/-- A thread after a step of one of them. -/
theorem getElem?_set_cases {j : Nat} {b c : π} (h : (pcs.set i b)[j]? = some c) :
    (j = i ∧ c = b) ∨ (j ≠ i ∧ pcs[j]? = some c) := by
  rw [List.getElem?_set] at h
  split at h
  next heq =>
    split at h
    · exact .inl ⟨heq.symm, (Option.some.inj h).symm⟩
    · exact nomatch h
  next hne => exact .inr ⟨Ne.symm hne, h⟩

/-- What holds of all threads after a step of one of them. -/
theorem forall_set (h : pcs[i]? = some a) (b : π) (P : π → Prop) :
    (∀ pc ∈ pcs.set i b, P pc) ↔ P b ∧ ∀ j ≠ i, ∀ pc, pcs[j]? = some pc → P pc := by
  have hi : i < pcs.length := (List.getElem?_eq_some_iff.mp h).1
  constructor
  · intro hall
    refine ⟨hall b (List.mem_set hi b), fun j hj pc hpc => ?_⟩
    apply hall pc
    refine List.mem_iff_getElem?.mpr ⟨j, ?_⟩
    rw [List.getElem?_set_ne (Ne.symm hj), hpc]
  · rintro ⟨hb, hothers⟩ pc hpc
    obtain ⟨j, hj⟩ := List.mem_iff_getElem?.mp hpc
    by_cases heq : i = j
    · subst heq
      rw [List.getElem?_set_self hi] at hj
      cases hj
      exact hb
    · rw [List.getElem?_set_ne heq] at hj
      exact hothers j (Ne.symm heq) pc hj

/-- How a step of one thread changes the number of threads of a kind. -/
theorem countP_set (h : pcs[i]? = some a) (b : π) (p : π → Bool) :
    (pcs.set i b).countP p + (if p a then 1 else 0) =
      pcs.countP p + (if p b then 1 else 0) := by
  obtain ⟨hi, ha⟩ := List.getElem?_eq_some_iff.mp h
  rw [List.countP_set hi, ha]
  have hpos : p a = true → 0 < pcs.countP p :=
    fun hp => List.countP_pos_iff.mpr ⟨a, List.mem_of_getElem? h, hp⟩
  split
  · rename_i hp
    have hcount := hpos hp
    omega
  · omega

/-- What a step of one thread puts to the values that `f` reads, and what it takes out. -/
theorem filterMap_set {α : Type*} (h : pcs[i]? = some a) (b : π) (f : π → Option α) :
    ((f a).toList ++ (pcs.set i b).filterMap f).Perm ((f b).toList ++ pcs.filterMap f) := by
  obtain ⟨hi, ha⟩ := List.getElem?_eq_some_iff.mp h
  have hfilter (c : π) (l : List π) : (c :: l).filterMap f = (f c).toList ++ l.filterMap f := by
    rw [List.filterMap_cons]
    cases f c <;> rfl
  have hold : (pcs.filterMap f).Perm ((f a).toList ++ (pcs.eraseIdx i).filterMap f) := by
    rw [← hfilter, ← ha]
    exact ((List.getElem_cons_eraseIdx_perm hi).filterMap f).symm
  have hnew : ((pcs.set i b).filterMap f).Perm
      ((f b).toList ++ (pcs.eraseIdx i).filterMap f) := by
    have hlen : i < (pcs.set i b).length := by rwa [List.length_set]
    have hperm := (List.getElem_cons_eraseIdx_perm hlen).symm
    rw [List.getElem_set_self, List.eraseIdx_set_eq] at hperm
    rw [← hfilter]
    exact hperm.filterMap f
  refine (hnew.append_left _).trans ?_
  refine (List.perm_append_comm_assoc ..).trans ?_
  exact hold.symm.append_left _

end Threads
