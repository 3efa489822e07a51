import Mathlib.Data.List.Induction

/-!
Loops that carry a state through a list and collect what every step puts out.
-/

namespace Collect

variable {σ α β : Type*}

/-- Run `f` over the list from left to right, with the outputs in order. -/
def run (f : σ → α → σ × List β) : σ → List α → σ × List β
  | s, [] => (s, [])
  | s, a :: as => ((run f (f s a).1 as).1, (f s a).2 ++ (run f (f s a).1 as).2)

variable {f g : σ → α → σ × List β} {s : σ} {a : α} {as bs : List α}

@[simp] theorem run_nil (f : σ → α → σ × List β) (s : σ) : run f s [] = (s, []) := rfl

theorem run_append (f : σ → α → σ × List β) (s : σ) (as bs : List α) :
    run f s (as ++ bs) =
      ((run f (run f s as).1 bs).1, (run f s as).2 ++ (run f (run f s as).1 bs).2) := by
  induction as generalizing s with
  | nil => rfl
  | cons a as ih => rw [List.cons_append, run, run, ih, List.append_assoc]

theorem run_concat (f : σ → α → σ × List β) (s : σ) (as : List α) (a : α) :
    run f s (as ++ [a]) = ((f (run f s as).1 a).1, (run f s as).2 ++ (f (run f s as).1 a).2) := by
  rw [run_append]
  simp [run]

/-- A list whose every step does nothing does nothing. -/
theorem run_of_idle (h : ∀ a ∈ as, f s a = (s, [])) : run f s as = (s, []) := by
  induction as with
  | nil => rfl
  | cons a as ih =>
      rw [run, h a List.mem_cons_self, ih fun b hb => h b (List.mem_cons_of_mem _ hb)]
      rfl

/-- A relation that every step satisfies, and that can be chained, relates the
first state to the last. -/
theorem run_rel {R : σ → σ → Prop} (hrefl : ∀ s, R s s)
    (htrans : ∀ s s' s'', R s s' → R s' s'' → R s s'')
    (hstep : ∀ s, ∀ a ∈ as, R s (f s a).1) (s : σ) : R s (run f s as).1 := by
  induction as generalizing s with
  | nil => exact hrefl s
  | cons a as ih =>
      have hfirst := hstep s a List.mem_cons_self
      have hrest := ih (fun s b hb => hstep s b (List.mem_cons_of_mem _ hb)) (f s a).1
      exact htrans s _ _ hfirst hrest

theorem run_map {γ : Type*} (f : σ → α → σ × List β) (g : γ → α) (s : σ) (cs : List γ) :
    run f s (cs.map g) = run (fun s c => f s (g c)) s cs := by
  induction cs generalizing s with
  | nil => rfl
  | cons c cs ih => rw [List.map_cons, run, ih, run]

/-! ### Steps that change places -/

/-- A step makes related states of related states, and puts out the same from each. -/
def Respects (R : σ → σ → Prop) (f : σ → α → σ × List β) (a : α) : Prop :=
  ∀ s s', R s s' → R (f s a).1 (f s' a).1 ∧ (f s' a).2 = (f s a).2

/-- Two steps lead to related states and put out the same in either order. -/
structure Exchanges (R : σ → σ → Prop) (f : σ → α → σ × List β) (a b : α) : Prop where
  state : ∀ s, R (f (f s a).1 b).1 (f (f s b).1 a).1
  first : ∀ s, (f (f s b).1 a).2 = (f s a).2
  second : ∀ s, (f (f s a).1 b).2 = (f s b).2

section

variable {R : σ → σ → Prop}

theorem run_respects (h : ∀ a ∈ as, Respects R f a) {s s' : σ} (hs : R s s') :
    R (run f s as).1 (run f s' as).1 ∧ (run f s' as).2 = (run f s as).2 := by
  induction as generalizing s s' with
  | nil => exact ⟨hs, rfl⟩
  | cons a as ih =>
      obtain ⟨hstate, hout⟩ := h a List.mem_cons_self s s' hs
      obtain ⟨hrest, houts⟩ := ih (fun b hb => h b (List.mem_cons_of_mem _ hb)) hstate
      refine ⟨hrest, ?_⟩
      rw [run, run, hout, houts]

/-- A step can be taken behind the steps that it changes places with. -/
theorem run_move (hrefl : ∀ s, R s s) (htrans : ∀ s s' s'', R s s' → R s' s'' → R s s'')
    (hrespects : ∀ b ∈ bs, Respects R f b) (hexchanges : ∀ b ∈ bs, Exchanges R f a b) (s : σ) :
    R (run f s (a :: bs)).1 (run f s (bs ++ [a])).1 ∧
      (run f s (bs ++ [a])).2.Perm (run f s (a :: bs)).2 := by
  induction bs generalizing s with
  | nil => exact ⟨hrefl _, List.Perm.refl _⟩
  | cons b bs ih =>
      obtain ⟨hstate, hperm⟩ := ih (fun c hc => hrespects c (List.mem_cons_of_mem _ hc))
        (fun c hc => hexchanges c (List.mem_cons_of_mem _ hc)) (f s b).1
      have hexchange := hexchanges b List.mem_cons_self
      -- The rest of the run starts from the states in which the two have changed places.
      obtain ⟨hrest, houts⟩ := run_respects
        (fun c hc => hrespects c (List.mem_cons_of_mem _ hc)) (hexchange.state s)
      refine ⟨htrans _ _ _ hrest hstate, ?_⟩
      rw [List.cons_append, run, run, run, hexchange.second s, ← houts]
      rw [run, hexchange.first s] at hperm
      refine (hperm.append_left _).trans ?_
      rw [← List.append_assoc, ← List.append_assoc]
      exact List.perm_append_comm.append_right _

end

/-! ### Writes that leave nothing of the write before -/

section

variable {put : σ → α → σ}

theorem foldl_put (h : ∀ s a b, put (put s a) b = put s b) (s : σ) (as : List α) (b : α) :
    put (as.foldl put s) b = put s b := by
  induction as generalizing s with
  | nil => rfl
  | cons a as ih => rw [List.foldl_cons, ih, h]

/-- The same writes a second time change nothing. -/
theorem foldl_foldl (h : ∀ s a b, put (put s a) b = put s b) (s : σ) (as : List α) :
    as.foldl put (as.foldl put s) = as.foldl put s := by
  induction as using List.reverseRecOn with
  | nil => rfl
  | append_singleton as b _ =>
      rw [List.foldl_append, List.foldl_append, List.foldl_cons, List.foldl_cons, List.foldl_nil,
        List.foldl_nil]
      -- Both times only the last write is left.
      rw [foldl_put h, foldl_put h, h]

end

end Collect
