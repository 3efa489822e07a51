import Mathlib.Data.List.Basic

/-!
Labelled partial steps and their finite runs. A step function answers `none`
where an event is not enabled, so a run is a list of labels that executes to
the end. Invariants are established once for a single enabled step and then
carried over runs, either unconditionally or for the runs whose every step
meets a guard.
-/

namespace Lts

universe u v

/-- A transition function over states `σ` and labels `ι`; `none` means that
the label is not enabled in the state. -/
abbrev Step (σ : Type u) (ι : Type v) := σ → ι → Option σ

variable {σ : Type u} {ι : Type v}

/-- Execute a list of labels from left to right. -/
def exec (step : Step σ ι) : σ → List ι → Option σ
  | s, [] => some s
  | s, a :: as => (step s a).bind fun s' => exec step s' as

/-- Every enabled step along the list meets the guard `g`, which reads the
state before the step and the label. -/
def Guarded (step : Step σ ι) (g : σ → ι → Prop) : σ → List ι → Prop
  | _, [] => True
  | s, a :: as => ∀ s', step s a = some s' → g s a ∧ Guarded step g s' as

/-- The property `P` holds in every state visited by the run, the first one
included. -/
def Along (step : Step σ ι) (P : σ → Prop) : σ → List ι → Prop
  | s, [] => P s
  | s, a :: as => P s ∧ ∀ s', step s a = some s' → Along step P s' as

/-- Every enabled step that meets the guard keeps `I`. -/
def Preserves (step : Step σ ι) (g : σ → ι → Prop) (I : σ → Prop) : Prop :=
  ∀ ⦃s a s'⦄, I s → g s a → step s a = some s' → I s'

@[simp] theorem exec_nil (step : Step σ ι) (s : σ) : exec step s [] = some s := rfl

@[simp] theorem exec_cons (step : Step σ ι) (s : σ) (a : ι) (as : List ι) :
    exec step s (a :: as) = (step s a).bind fun s' => exec step s' as := rfl

theorem exec_cons_eq_some {step : Step σ ι} {s t : σ} {a : ι} {as : List ι} :
    exec step s (a :: as) = some t ↔
      ∃ m, step s a = some m ∧ exec step m as = some t := by
  rw [exec_cons, Option.bind_eq_some_iff]

theorem exec_append (step : Step σ ι) (s : σ) (as bs : List ι) :
    exec step s (as ++ bs) = (exec step s as).bind fun m => exec step m bs := by
  induction as generalizing s with
  | nil => rfl
  | cons a as ih =>
      rw [List.cons_append, exec_cons, exec_cons]
      cases step s a with
      | none => rfl
      | some m => exact ih m

/-- Guards that hold in every state hold along every run. -/
theorem guarded_of_forall {step : Step σ ι} {g : σ → ι → Prop}
    (h : ∀ s a, g s a) (s : σ) (as : List ι) : Guarded step g s as := by
  induction as generalizing s with
  | nil => trivial
  | cons a as ih => exact fun s' _ => ⟨h s a, ih s'⟩

/-- The guarded form of the invariant rule: a preserved predicate that holds
at the start holds where the run ends. -/
theorem Preserves.exec {step : Step σ ι} {g : σ → ι → Prop} {I : σ → Prop}
    (hI : Preserves step g I) {s t : σ} {as : List ι} (hs : I s)
    (hg : Guarded step g s as) (hrun : exec step s as = some t) : I t := by
  induction as generalizing s with
  | nil =>
      cases hrun
      exact hs
  | cons a as ih =>
      obtain ⟨m, hm, hrest⟩ := exec_cons_eq_some.mp hrun
      obtain ⟨hga, hgs⟩ := hg m hm
      exact ih (hI hs hga hm) hgs hrest

/-- The invariant rule without a guard. -/
theorem exec_invariant {step : Step σ ι} {I : σ → Prop}
    (hI : ∀ ⦃s a s'⦄, I s → step s a = some s' → I s') {s t : σ} {as : List ι}
    (hs : I s) (hrun : exec step s as = some t) : I t :=
  Preserves.exec (g := fun _ _ => True) (fun _ _ _ h _ hstep => hI h hstep) hs
    (guarded_of_forall (fun _ _ => trivial) s as) hrun

/-- A preserved predicate holds in every state that a guarded run visits. -/
theorem Preserves.along {step : Step σ ι} {g : σ → ι → Prop} {I : σ → Prop}
    (hI : Preserves step g I) {s : σ} {as : List ι} (hs : I s)
    (hg : Guarded step g s as) : Along step I s as := by
  induction as generalizing s with
  | nil => exact hs
  | cons a as ih =>
      refine ⟨hs, fun s' hstep => ?_⟩
      obtain ⟨hga, hgs⟩ := hg s' hstep
      exact ih (hI hs hga hstep) hgs

/-- What the invariant and the guard give at a step holds at every step of a
guarded run. -/
theorem Preserves.guarded {step : Step σ ι} {g q : σ → ι → Prop} {I : σ → Prop}
    (hI : Preserves step g I) (hq : ∀ s a, I s → g s a → q s a) {s : σ} {as : List ι}
    (hs : I s) (hg : Guarded step g s as) : Guarded step q s as := by
  induction as generalizing s with
  | nil => trivial
  | cons a as ih =>
      intro s' hstep
      obtain ⟨hga, hgs⟩ := hg s' hstep
      exact ⟨hq s a hs hga, ih (hI hs hga hstep) hgs⟩

theorem Guarded.mono {step : Step σ ι} {g q : σ → ι → Prop} (hgq : ∀ s a, g s a → q s a)
    {s : σ} {as : List ι} (h : Guarded step g s as) : Guarded step q s as := by
  induction as generalizing s with
  | nil => trivial
  | cons a as ih =>
      intro s' hstep
      obtain ⟨hga, hgs⟩ := h s' hstep
      exact ⟨hgq s a hga, ih hgs⟩

/-- The second half of a guarded run is guarded from where the first one ends. -/
theorem Guarded.of_append {step : Step σ ι} {g : σ → ι → Prop} {s t : σ} {as bs : List ι}
    (h : Guarded step g s (as ++ bs)) (hrun : exec step s as = some t) : Guarded step g t bs := by
  induction as generalizing s with
  | nil =>
      cases hrun
      exact h
  | cons a as ih =>
      obtain ⟨m, hm, hrest⟩ := exec_cons_eq_some.mp hrun
      exact ih (h m hm).2 hrest

theorem Along.mono {step : Step σ ι} {P Q : σ → Prop} (hPQ : ∀ s, P s → Q s)
    {s : σ} {as : List ι} (h : Along step P s as) : Along step Q s as := by
  induction as generalizing s with
  | nil => exact hPQ s h
  | cons a as ih => exact ⟨hPQ s h.1, fun s' hstep => ih (h.2 s' hstep)⟩

theorem Along.head {step : Step σ ι} {P : σ → Prop} {s : σ} {as : List ι}
    (h : Along step P s as) : P s := by
  cases as with
  | nil => exact h
  | cons a as => exact h.1

/-- A property that holds along a run holds where it ends. -/
theorem Along.exec {step : Step σ ι} {P : σ → Prop} {s t : σ} {as : List ι}
    (h : Along step P s as) (hrun : exec step s as = some t) : P t := by
  induction as generalizing s with
  | nil =>
      cases hrun
      exact h
  | cons a as ih =>
      obtain ⟨m, hm, hrest⟩ := exec_cons_eq_some.mp hrun
      exact ih (h.2 m hm) hrest

/-- The guard of a concrete run can be computed. -/
instance decidableGuarded (step : Step σ ι) (g : σ → ι → Prop) [∀ s a, Decidable (g s a)] :
    ∀ (s : σ) (as : List ι), Decidable (Guarded step g s as)
  | _, [] => isTrue trivial
  | s, a :: as =>
      match h : step s a with
      | none => isTrue fun s' h' => by rw [h] at h'; cases h'
      | some m =>
          let _ := decidableGuarded step g m as
          decidable_of_iff (g s a ∧ Guarded step g m as) <| by
            constructor
            · rintro hboth s' h'
              rw [h] at h'
              cases h'
              exact hboth
            · exact fun hguarded => hguarded m h

/-- The exact form of the rule. When guarded steps keep an invariant that
implies `P`, and an enabled step outside the guard leads to a state where `P`
fails, then `P` holds along a run exactly when the run is guarded. -/
theorem along_iff_guarded {step : Step σ ι} {g : σ → ι → Prop} {I P : σ → Prop}
    (hI : Preserves step g I) (hP : ∀ s, I s → P s)
    (hbad : ∀ ⦃s a s'⦄, I s → step s a = some s' → P s' → g s a)
    {s : σ} {as : List ι} (hs : I s) :
    Along step P s as ↔ Guarded step g s as := by
  induction as generalizing s with
  | nil => exact ⟨fun _ => trivial, fun _ => hP s hs⟩
  | cons a as ih =>
      constructor
      · rintro ⟨-, hrest⟩ s' hstep
        have hga : g s a := hbad hs hstep (hrest s' hstep).head
        exact ⟨hga, (ih (hI hs hga hstep)).mp (hrest s' hstep)⟩
      · intro hg
        refine ⟨hP s hs, fun s' hstep => ?_⟩
        obtain ⟨hga, hgs⟩ := hg s' hstep
        exact (ih (hI hs hga hstep)).mpr hgs

/-- The exact form for the end of a run. When an enabled step ends well exactly if it
starts well and meets the guard, then so does a run. -/
theorem exec_iff_guarded {step : Step σ ι} {g : σ → ι → Prop} {I G : σ → Prop}
    (hI : ∀ ⦃s a s'⦄, I s → step s a = some s' → I s')
    (hG : ∀ ⦃s a s'⦄, I s → step s a = some s' → (G s' ↔ G s ∧ g s a))
    {s t : σ} {as : List ι} (hs : I s) (hrun : exec step s as = some t) :
    G t ↔ G s ∧ Guarded step g s as := by
  induction as generalizing s with
  | nil =>
      cases hrun
      exact ⟨fun h => ⟨h, trivial⟩, fun h => h.1⟩
  | cons a as ih =>
      obtain ⟨m, hm, hrest⟩ := exec_cons_eq_some.mp hrun
      rw [ih (hI hs hm) hrest, hG hs hm]
      constructor
      · rintro ⟨⟨hgood, hga⟩, hgs⟩
        refine ⟨hgood, fun s' hs' => ?_⟩
        rw [hm] at hs'
        cases hs'
        exact ⟨hga, hgs⟩
      · rintro ⟨hgood, hguarded⟩
        obtain ⟨hga, hgs⟩ := hguarded m hm
        exact ⟨⟨hgood, hga⟩, hgs⟩

/-- Every label of the list is enabled when its turn comes, and `q` holds of its step
with the states before and after. -/
def Completes (step : Step σ ι) (q : σ → ι → σ → Prop) : σ → List ι → Prop
  | _, [] => True
  | s, a :: as => ∃ s', step s a = some s' ∧ q s a s' ∧ Completes step q s' as

/-- The second half of a list that completes does so from where the first one ends. -/
theorem Completes.of_append {step : Step σ ι} {q : σ → ι → σ → Prop} {s t : σ} {as bs : List ι}
    (h : Completes step q s (as ++ bs)) (hrun : exec step s as = some t) :
    Completes step q t bs := by
  induction as generalizing s with
  | nil =>
      cases hrun
      exact h
  | cons a as ih =>
      obtain ⟨m, hm, -, hrest⟩ := h
      obtain ⟨m', hm', hrun⟩ := exec_cons_eq_some.mp hrun
      rw [hm] at hm'
      cases hm'
      exact ih hrest hrun

/-- The guard holds of every label that comes to its turn, enabled or not. -/
def Checked (step : Step σ ι) (g : σ → ι → Prop) : σ → List ι → Prop
  | _, [] => True
  | s, a :: as => g s a ∧ ∀ s', step s a = some s' → Checked step g s' as

/-- What the invariant and the guard give at a label holds at every label that comes to its
turn. -/
theorem Preserves.checked {step : Step σ ι} {g q : σ → ι → Prop} {I : σ → Prop}
    (hI : Preserves step g I) (hq : ∀ s a, I s → g s a → q s a) {s : σ} {as : List ι}
    (hs : I s) (hg : Checked step g s as) : Checked step q s as := by
  induction as generalizing s with
  | nil => trivial
  | cons a as ih =>
      exact ⟨hq s a hs hg.1, fun s' hstep => ih (hI hs hg.1 hstep) (hg.2 s' hstep)⟩

/-- The exact form for runs that must not stop. When a label that meets the guard is
enabled and its step keeps the invariant and meets `q`, and a step that meets `q` met the
guard, then a list of labels completes exactly when it is checked. -/
theorem completes_iff_checked {step : Step σ ι} {g : σ → ι → Prop} {q : σ → ι → σ → Prop}
    {I : σ → Prop}
    (hgood : ∀ ⦃s a⦄, I s → g s a → ∃ s', step s a = some s' ∧ q s a s' ∧ I s')
    (hbad : ∀ ⦃s a s'⦄, I s → step s a = some s' → q s a s' → g s a)
    {s : σ} {as : List ι} (hs : I s) :
    Completes step q s as ↔ Checked step g s as := by
  induction as generalizing s with
  | nil => exact Iff.rfl
  | cons a as ih =>
      constructor
      · rintro ⟨m, hm, hq, hrest⟩
        have hga : g s a := hbad hs hm hq
        obtain ⟨m', hm', -, hI⟩ := hgood hs hga
        refine ⟨hga, fun s' hs' => ?_⟩
        rw [hm] at hm' hs'
        cases hm'
        cases hs'
        exact (ih hI).mp hrest
      · rintro ⟨hga, hrest⟩
        obtain ⟨m, hm, hq, hI⟩ := hgood hs hga
        exact ⟨m, hm, hq, (ih hI).mpr (hrest m hm)⟩

/-- Two guards that agree under an invariant are checked of the same runs. -/
theorem checked_congr {step : Step σ ι} {g q : σ → ι → Prop} {I : σ → Prop}
    (hI : ∀ ⦃s a s'⦄, I s → step s a = some s' → I s') (hgq : ∀ s a, I s → (g s a ↔ q s a))
    {s : σ} {as : List ι} (hs : I s) : Checked step g s as ↔ Checked step q s as := by
  induction as generalizing s with
  | nil => exact Iff.rfl
  | cons a as ih =>
      refine and_congr (hgq s a hs) (forall_congr' fun s' => ?_)
      exact ⟨fun h hstep => (ih (hI hs hstep)).mp (h hstep),
        fun h hstep => (ih (hI hs hstep)).mpr (h hstep)⟩

/-- Whether a concrete list of labels is checked can be computed. -/
instance decidableChecked (step : Step σ ι) (g : σ → ι → Prop) [∀ s a, Decidable (g s a)] :
    ∀ (s : σ) (as : List ι), Decidable (Checked step g s as)
  | _, [] => isTrue trivial
  | s, a :: as =>
      match h : step s a with
      | none =>
          decidable_of_iff (g s a) <|
            ⟨fun hg => ⟨hg, fun s' h' => by rw [h] at h'; cases h'⟩, fun hboth => hboth.1⟩
      | some m =>
          let _ := decidableChecked step g m as
          decidable_of_iff (g s a ∧ Checked step g m as) <| by
            constructor
            · rintro ⟨hg, hrest⟩
              refine ⟨hg, fun s' h' => ?_⟩
              rw [h] at h'
              cases h'
              exact hrest
            · exact fun hboth => ⟨hboth.1, hboth.2 m h⟩

end Lts
