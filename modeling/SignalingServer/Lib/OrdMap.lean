import Mathlib.Tactic.TypeStar
import Std.Data.TreeMap.Lemmas

/-!
Look-ups in an ordered map after one change, in terms of equality of keys
instead of the comparison that the map was built with, and the order of its entries.
-/

namespace OrdMap

variable {α β : Type*} [Ord α] [Std.TransOrd α] [Std.LawfulEqOrd α] [DecidableEq α]

theorem getElem?_insert (m : Std.TreeMap α β) (k k' : α) (v : β) :
    (m.insert k v)[k']? = if k' = k then some v else m[k']? := by
  rw [Std.TreeMap.getElem?_insert]
  by_cases h : k' = k
  · subst h
    simp
  · have hne : ¬ compare k k' = .eq := by
      intro heq
      exact h (Std.LawfulEqCmp.eq_of_compare heq).symm
    rw [if_neg hne, if_neg h]

/-- An entry after an insertion is the new one or an old one. -/
theorem insert_cases {m : Std.TreeMap α β} {k k' : α} {v v' : β}
    (h : (m.insert k v)[k']? = some v') : (k' = k ∧ v' = v) ∨ (k' ≠ k ∧ m[k']? = some v') := by
  rw [getElem?_insert] at h
  split at h
  · rename_i heq
    exact .inl ⟨heq, (Option.some.inj h).symm⟩
  · rename_i hne
    exact .inr ⟨hne, h⟩

omit [DecidableEq α] in
/-- An entry that is overwritten keeps its place. -/
theorem keys_insert_of_getElem? {m : Std.TreeMap α β} {k : α} {v w : β} (h : m[k]? = some w) :
    (m.insert k v).keys = m.keys := by
  have hk : k ∈ m := by
    rw [Std.TreeMap.mem_iff_isSome_getElem?, h]
    rfl
  have hperm : (m.insert k v).keys.Perm m.keys := by
    rw [List.perm_ext_iff_of_nodup Std.TreeMap.nodup_keys Std.TreeMap.nodup_keys]
    intro a
    rw [Std.TreeMap.mem_keys, Std.TreeMap.mem_keys, Std.TreeMap.mem_insert, Std.compare_eq_iff_eq]
    constructor
    · rintro (rfl | ha)
      · exact hk
      · exact ha
    · exact .inr
  refine hperm.eq_of_pairwise ?_ Std.TreeMap.ordered_keys Std.TreeMap.ordered_keys
  intro a b _ _ hab hba
  rw [@Std.OrientedCmp.eq_swap α compare, hba] at hab
  cases hab

theorem getElem?_erase (m : Std.TreeMap α β) (k k' : α) :
    (m.erase k)[k']? = if k' = k then none else m[k']? := by
  rw [Std.TreeMap.getElem?_erase]
  by_cases h : k' = k
  · subst h
    simp
  · have hne : ¬ compare k k' = .eq := by
      intro heq
      exact h (Std.LawfulEqCmp.eq_of_compare heq).symm
    rw [if_neg hne, if_neg h]

theorem getElem?_foldl_insert_of_forall_ne (entries : List (α × β)) (m : Std.TreeMap α β) {k : α}
    (h : ∀ e ∈ entries, e.1 ≠ k) :
    (entries.foldl (fun m e => m.insert e.1 e.2) m)[k]? = m[k]? := by
  induction entries generalizing m with
  | nil => rfl
  | cons e entries ih =>
      rw [List.foldl_cons, ih _ fun e' he' => h e' (List.mem_cons_of_mem _ he'),
        getElem?_insert, if_neg (h e List.mem_cons_self).symm]

theorem getElem?_foldl_insert_of_mem {entries : List (α × β)} (hnodup : (entries.map (·.1)).Nodup)
    (m : Std.TreeMap α β) {k : α} {v : β} (h : (k, v) ∈ entries) :
    (entries.foldl (fun m e => m.insert e.1 e.2) m)[k]? = some v := by
  induction entries generalizing m with
  | nil => cases h
  | cons e entries ih =>
      rw [List.map_cons, List.nodup_cons] at hnodup
      rcases List.mem_cons.mp h with rfl | h
      · have hrest : ∀ e ∈ entries, e.1 ≠ k := by
          intro e he heq
          have hkey : e.1 ∈ entries.map (·.1) := List.mem_map_of_mem he
          exact hnodup.1 (heq ▸ hkey)
        rw [List.foldl_cons, getElem?_foldl_insert_of_forall_ne entries _ hrest, getElem?_insert,
          if_pos rfl]
      · exact ih hnodup.2 _ h

omit [Std.LawfulEqOrd α] [DecidableEq α] in
theorem nodup_keys_toList (m : Std.TreeMap α β) : (m.toList.map (·.1)).Nodup := by
  rw [Std.TreeMap.map_fst_toList_eq_keys]
  exact Std.TreeMap.nodup_keys

/-- A map is what its entries make, one after the other. -/
theorem getElem?_foldl_insert_toList (m : Std.TreeMap α β) (k : α) :
    (m.toList.foldl (fun m e => m.insert e.1 e.2) (∅ : Std.TreeMap α β))[k]? = m[k]? := by
  cases hk : m[k]? with
  | some v =>
      exact getElem?_foldl_insert_of_mem (nodup_keys_toList m) ∅
        (Std.TreeMap.mem_toList_iff_getElem?_eq_some.mpr hk)
  | none =>
      have hne : ∀ e ∈ m.toList, e.1 ≠ k := by
        rintro ⟨k', v⟩ he rfl
        rw [Std.TreeMap.mem_toList_iff_getElem?_eq_some.mp he] at hk
        cases hk
      rw [getElem?_foldl_insert_of_forall_ne _ _ hne, Std.TreeMap.getElem?_emptyc]

omit [Ord α] [Std.TransOrd α] [Std.LawfulEqOrd α] in
/-- A key is looked for from the first entry on, and found at its place. -/
theorem dropWhile_eq_drop {xs : List (α × β)} (hnodup : (xs.map Prod.fst).Nodup) {i : Nat}
    {x : α × β} (hx : xs[i]? = some x) : xs.dropWhile (fun e => e.1 != x.1) = xs.drop i := by
  induction xs generalizing i with
  | nil => cases hx
  | cons e xs ih =>
      rw [List.map_cons, List.nodup_cons] at hnodup
      cases i with
      | zero =>
          rw [List.getElem?_cons_zero, Option.some.injEq] at hx
          subst hx
          simp
      | succ i =>
          rw [List.getElem?_cons_succ] at hx
          have hne : e.1 ≠ x.1 := by
            intro heq
            exact hnodup.1 (heq ▸ List.mem_map_of_mem (List.mem_of_getElem? hx))
          rw [List.dropWhile_cons_of_pos (by simpa using hne), ih hnodup.2 hx, List.drop_succ_cons]

end OrdMap
