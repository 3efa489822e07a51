import Mathlib.Data.List.Perm.Basic
import SignalingServer.Lib.OrdMap

/-!
A table of the requests that are not answered yet, beside the list of these requests. A key stands
for one of them, so that an answer takes out what its own request has put in.
-/

namespace Requests

variable {κ τ : Type*} [Ord κ] [Std.TransOrd κ] [Std.LawfulEqOrd κ] [DecidableEq κ]

/-- The table has the requests of the list, each under a key of its own. -/
structure Holds (table : Std.TreeMap κ τ) (requests : List (κ × τ)) : Prop where
  distinct : (requests.map Prod.fst).Nodup
  entry : ∀ k t, table[k]? = some t ↔ (k, t) ∈ requests

variable {table : Std.TreeMap κ τ} {requests requests' : List (κ × τ)} {k : κ} {t : τ}

omit [Std.LawfulEqOrd κ] [DecidableEq κ] in
theorem holds_empty : Holds (∅ : Std.TreeMap κ τ) [] where
  distinct := List.nodup_nil
  entry k t := by simp

omit [Std.TransOrd κ] [Std.LawfulEqOrd κ] [DecidableEq κ] in
theorem Holds.perm (h : Holds table requests) (hperm : requests.Perm requests') :
    Holds table requests' where
  distinct := (hperm.map Prod.fst).nodup_iff.mp h.distinct
  entry k t := (h.entry k t).trans hperm.mem_iff

omit [Std.LawfulEqOrd κ] [DecidableEq κ] in
theorem Holds.mem_iff (h : Holds table requests) : k ∈ table ↔ k ∈ requests.map Prod.fst := by
  rw [Std.TreeMap.mem_iff_isSome_getElem?, Option.isSome_iff_exists, List.mem_map]
  constructor
  · rintro ⟨t, ht⟩
    exact ⟨(k, t), (h.entry k t).mp ht, rfl⟩
  · rintro ⟨⟨k', t⟩, hmem, rfl⟩
    exact ⟨t, (h.entry k' t).mpr hmem⟩

/-- A request under a new key. -/
theorem Holds.insert (h : Holds table requests) (hnew : k ∉ requests.map Prod.fst) (t : τ) :
    Holds (table.insert k t) ((k, t) :: requests) where
  distinct := List.nodup_cons.mpr ⟨hnew, h.distinct⟩
  entry k' t' := by
    rw [OrdMap.getElem?_insert, List.mem_cons, Prod.mk.injEq]
    split
    next heq =>
      subst heq
      rw [Option.some.injEq]
      constructor
      · exact fun ht => .inl ⟨rfl, ht.symm⟩
      · rintro (⟨-, rfl⟩ | hmem)
        · rfl
        · exact absurd (List.mem_map_of_mem hmem) hnew
    next hne =>
      rw [h.entry]
      constructor
      · exact .inr
      · rintro (⟨heq, -⟩ | hmem)
        · exact absurd heq hne
        · exact hmem

/-- The answer to a request. -/
theorem Holds.erase (h : Holds table ((k, t) :: requests)) : Holds (table.erase k) requests where
  distinct := (List.nodup_cons.mp h.distinct).2
  entry k' t' := by
    have hgone : k ∉ requests.map Prod.fst := (List.nodup_cons.mp h.distinct).1
    rw [OrdMap.getElem?_erase]
    split
    next heq =>
      subst heq
      constructor
      · exact fun ht => nomatch ht
      · exact fun hmem => absurd (List.mem_map_of_mem hmem) hgone
    next hne =>
      rw [h.entry, List.mem_cons, Prod.mk.injEq]
      constructor
      · rintro (⟨heq, -⟩ | hmem)
        · exact absurd heq hne
        · exact hmem
      · exact .inr

omit [Std.TransOrd κ] [Std.LawfulEqOrd κ] [DecidableEq κ] in
/-- What the table has under the key of a request. -/
theorem Holds.getElem? (h : Holds table ((k, t) :: requests)) : table[k]? = some t :=
  (h.entry k t).mpr List.mem_cons_self

end Requests
