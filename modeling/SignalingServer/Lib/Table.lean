import Mathlib.Data.List.AList

/-!
What the entries of a finite table hold together. `gather f s` lists the values
that `f` reads from the entries of `s`; it is tracked through insertions and
deletions as a multiset, since a table has no meaningful order.
-/

universe u v w

/-- A table with keys in `α` and entries in `β`. -/
abbrev Table (α : Type u) (β : Type v) := AList fun _ : α => β

namespace Table

variable {α : Type u} {β : Type v} {γ : Type w}

/-- The values that `f` reads from the entries of a table. -/
def gather (f : β → Option γ) (s : Table α β) : List γ := s.entries.filterMap fun e => f e.2

@[simp] theorem gather_empty (f : β → Option γ) : gather f (∅ : Table α β) = [] := rfl

variable [DecidableEq α]

theorem lookup_insert (s : Table α β) (a a' : α) (b : β) :
    AList.lookup a' (s.insert a b) = if a' = a then some b else AList.lookup a' s := by
  by_cases h : a' = a
  · rw [if_pos h, h]
    exact AList.lookup_insert s
  · rw [if_neg h]
    exact AList.lookup_insert_ne h

theorem lookup_erase (s : Table α β) (a a' : α) :
    AList.lookup a' (s.erase a) = if a' = a then none else AList.lookup a' s := by
  by_cases h : a' = a
  · rw [if_pos h, h]
    exact AList.lookup_erase a s
  · rw [if_neg h]
    exact AList.lookup_erase_ne h

theorem gather_insert (f : β → Option γ) (s : Table α β) (a : α) (b : β) :
    gather f (s.insert a b) = (f b).toList ++ gather f (s.erase a) := by
  simp only [gather, AList.entries_insert, List.filterMap_cons]
  cases f b with
  | none => rfl
  | some c => rfl

theorem entries_perm {s : Table α β} {a : α} {b : β} (h : s.lookup a = some b) :
    s.entries.Perm (⟨a, b⟩ :: (s.erase a).entries) := by
  have hmem : (⟨a, b⟩ : Sigma fun _ : α => β) ∈ s.entries := AList.mem_lookup_iff.mp h
  obtain ⟨b', l₁, l₂, hfresh, hentries, herase⟩ :=
    List.exists_of_kerase (List.mem_keys_of_mem hmem)
  have hb : b' = b := by
    have hmem' : (⟨a, b'⟩ : Sigma fun _ : α => β) ∈ s.entries := by
      rw [hentries]
      simp
    exact s.nodupKeys.eq_of_mk_mem hmem' hmem
  subst hb
  change s.entries.Perm (⟨a, b'⟩ :: s.entries.kerase a)
  rw [herase, hentries]
  exact List.perm_middle

/-- An entry contributes its own value beside those of the others. -/
theorem gather_perm (f : β → Option γ) {s : Table α β} {a : α} {b : β}
    (h : s.lookup a = some b) :
    (gather f s).Perm ((f b).toList ++ gather f (s.erase a)) := by
  have hperm := (entries_perm h).filterMap fun e => f e.2
  refine hperm.trans (List.Perm.of_eq ?_)
  rw [List.filterMap_cons]
  cases f b with
  | none => rfl
  | some c => rfl

theorem erase_of_fresh {s : Table α β} {a : α} (h : s.lookup a = none) : s.erase a = s := by
  apply AList.ext
  exact List.kerase_of_notMem_keys (AList.lookup_eq_none.mp h)

theorem mem_gather_iff {f : β → Option γ} {s : Table α β} {c : γ} :
    c ∈ gather f s ↔ ∃ a b, s.lookup a = some b ∧ f b = some c := by
  simp only [gather, List.mem_filterMap]
  constructor
  · rintro ⟨⟨a, b⟩, hmem, hc⟩
    exact ⟨a, b, AList.mem_lookup_iff.mpr hmem, hc⟩
  · rintro ⟨a, b, hlookup, hc⟩
    exact ⟨⟨a, b⟩, AList.mem_lookup_iff.mp hlookup, hc⟩

end Table
