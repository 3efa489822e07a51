import SignalingServer.Lib.Scanning

/-!
Patterns made of words and groups. A group takes characters of one kind, as many as the rest of
the pattern leaves it, and gives them back one by one until the rest matches. A search takes the
first place at which the pattern matches.
-/

namespace Pattern

open Borders

universe u v

/-- A part of a pattern. -/
inductive Piece (α : Type u) where
  | group
  | lit (word : List α)

variable {α : Type u} {β : Type v} {dot : α → Bool} {c : α} {w s t g : List α} {r : β}
  {ps : List (Piece α)} {gs : List (List α)} {next : List α → Option β}

/-- What a group takes of a text, and what the rest of the pattern makes of what it leaves. -/
def group (dot : α → Bool) (next : List α → Option β) : List α → Option (List α × β)
  | [] => (next []).map fun r => ([], r)
  | c :: s =>
      (if dot c then (group dot next s).map fun found => (c :: found.1, found.2) else none).or
        ((next (c :: s)).map fun r => ([], r))

/-- The groups of a pattern at the beginning of a text. -/
def matchHere [DecidableEq α] (dot : α → Bool) :
    List (Piece α) → List α → Option (List (List α))
  | [], _ => some []
  | .lit w :: ps, s => if w <+: s then matchHere dot ps (s.drop w.length) else none
  | .group :: ps, s => (group dot (matchHere dot ps) s).map fun found => found.1 :: found.2

/-- The groups of a pattern at the first place of a text at which it matches. -/
def search [DecidableEq α] (dot : α → Bool) (ps : List (Piece α)) :
    List α → Option (List (List α))
  | [] => matchHere dot ps []
  | c :: s => (matchHere dot ps (c :: s)).or (search dot ps s)

/-- A text begins with what a pattern describes, divided into these groups. -/
inductive Matches (dot : α → Bool) : List (Piece α) → List α → List (List α) → Prop
  | nil {s : List α} : Matches dot [] s []
  | lit {w s : List α} {ps : List (Piece α)} {gs : List (List α)} (h : Matches dot ps s gs) :
      Matches dot (.lit w :: ps) (w ++ s) gs
  | group {g s : List α} {ps : List (Piece α)} {gs : List (List α)}
      (hg : ∀ c ∈ g, dot c = true) (h : Matches dot ps s gs) :
      Matches dot (.group :: ps) (g ++ s) (g :: gs)

/-! ### A group -/

theorem group_sound (h : group dot next s = some (g, r)) :
    ∃ t, s = g ++ t ∧ (∀ c ∈ g, dot c = true) ∧ next t = some r := by
  induction s generalizing g with
  | nil =>
      obtain ⟨r', hnext, hmk⟩ := Option.map_eq_some_iff.mp h
      obtain ⟨rfl, rfl⟩ := Prod.mk.inj hmk
      exact ⟨[], rfl, fun c hc => absurd hc List.not_mem_nil, hnext⟩
  | cons c s ih =>
      rw [group] at h
      rcases Option.or_eq_some_iff.mp h with hlonger | ⟨-, hhere⟩
      · split at hlonger
        next hc =>
          obtain ⟨⟨g', r'⟩, hfound, hmk⟩ := Option.map_eq_some_iff.mp hlonger
          obtain ⟨rfl, rfl⟩ := Prod.mk.inj hmk
          obtain ⟨t, rfl, hall, hnext⟩ := ih hfound
          exact ⟨t, rfl, List.forall_mem_cons.mpr ⟨hc, hall⟩, hnext⟩
        next => exact nomatch hlonger
      · obtain ⟨r', hnext, hmk⟩ := Option.map_eq_some_iff.mp hhere
        obtain ⟨rfl, rfl⟩ := Prod.mk.inj hmk
        exact ⟨c :: s, rfl, fun c hc => absurd hc List.not_mem_nil, hnext⟩

theorem group_of_nil (h : next s = some r) (hlast : ∀ c ∈ s.head?, dot c = true →
    group dot next s.tail = none) : group dot next s = some ([], r) := by
  cases s with
  | nil => rw [group, h, Option.map_some]
  | cons c s =>
      rw [group, h, Option.map_some]
      split
      next hc =>
        have hnone : group dot next s = none := hlast c rfl hc
        rw [hnone]
        rfl
      next => rfl

theorem group_eq_none_iff :
    group dot next s = none ↔ ∀ g t, s = g ++ t → (∀ c ∈ g, dot c = true) → next t = none := by
  constructor
  · intro h g
    induction g generalizing s with
    | nil =>
        intro t heq _
        rw [List.nil_append] at heq
        subst heq
        cases s with
        | nil => exact Option.map_eq_none_iff.mp h
        | cons c s => exact Option.map_eq_none_iff.mp (Option.or_eq_none_iff.mp h).2
    | cons c g ih =>
        intro t heq hall
        subst heq
        rw [List.forall_mem_cons] at hall
        rw [List.cons_append, group, if_pos hall.1, Option.or_eq_none_iff,
          Option.map_eq_none_iff] at h
        exact ih h.1 t rfl hall.2
  · intro h
    cases hfound : group dot next s with
    | none => rfl
    | some found =>
        obtain ⟨t, heq, hall, hnext⟩ := group_sound hfound
        exact nomatch (h found.1 t heq hall).symm.trans hnext

/-- A group takes what stands in front of a place at which the rest of the pattern matches, if it
matches at no later place that the group could reach. -/
theorem group_append (hg : ∀ c ∈ g, dot c = true) (hnext : next t = some r)
    (hlast : ∀ a b, t = a ++ b → a ≠ [] → (∀ c ∈ a, dot c = true) → next b = none) :
    group dot next (g ++ t) = some (g, r) := by
  induction g with
  | nil =>
      refine group_of_nil hnext fun c hc hdot => ?_
      rw [List.nil_append, Option.mem_def, List.head?_eq_some_iff] at hc
      obtain ⟨s, rfl⟩ := hc
      refine group_eq_none_iff.mpr fun a b heq hall => ?_
      refine hlast (c :: a) b ?_ (List.cons_ne_nil c a) (List.forall_mem_cons.mpr ⟨hdot, hall⟩)
      exact congrArg (c :: ·) heq
  | cons c g ih =>
      rw [List.forall_mem_cons] at hg
      rw [List.cons_append, group, if_pos hg.1, ih hg.2]
      rfl

/-! ### A pattern -/

section Matching

variable [DecidableEq α]

theorem matches_of_matchHere (h : matchHere dot ps s = some gs) : Matches dot ps s gs := by
  induction ps generalizing s gs with
  | nil =>
      rw [matchHere, Option.some.injEq] at h
      exact h ▸ .nil
  | cons p ps ih =>
      cases p with
      | lit w =>
          rw [matchHere] at h
          split at h
          next hpre =>
            obtain ⟨t, rfl⟩ := hpre
            rw [List.drop_left' rfl] at h
            exact .lit (ih h)
          next => exact nomatch h
      | group =>
          obtain ⟨⟨g, gs'⟩, hfound, rfl⟩ := Option.map_eq_some_iff.mp h
          obtain ⟨t, rfl, hall, hnext⟩ := group_sound hfound
          exact .group hall (ih hnext)

/-- Nothing that matches is passed over. -/
theorem matchHere_eq_none_iff :
    matchHere dot ps s = none ↔ ∀ gs, ¬ Matches dot ps s gs := by
  constructor
  · intro h gs hmatch
    induction hmatch with
    | nil => exact nomatch h
    | @lit w s ps gs hmatch ih =>
        rw [matchHere, if_pos (List.prefix_append w s), List.drop_left' rfl] at h
        exact ih h
    | @group g s ps gs hg hmatch ih =>
        rw [matchHere, Option.map_eq_none_iff] at h
        exact ih (group_eq_none_iff.mp h g s rfl hg)
  · intro h
    cases hfound : matchHere dot ps s with
    | none => rfl
    | some gs => exact absurd (matches_of_matchHere hfound) (h gs)

theorem search_eq_none_iff :
    search dot ps s = none ↔ ∀ t, t <:+ s → ∀ gs, ¬ Matches dot ps t gs := by
  induction s with
  | nil =>
      rw [search, matchHere_eq_none_iff]
      constructor
      · intro h t ht
        rw [List.suffix_nil.mp ht]
        exact h
      · exact fun h => h [] (List.suffix_refl [])
  | cons c s ih =>
      rw [search, Option.or_eq_none_iff, matchHere_eq_none_iff, ih]
      constructor
      · rintro ⟨hhere, hrest⟩ t ht
        rcases List.suffix_cons_iff.mp ht with rfl | ht
        · exact hhere
        · exact hrest t ht
      · exact fun h => ⟨h _ (List.suffix_refl _), fun t ht => h t (ht.trans (List.suffix_cons c s))⟩

theorem search_of_matchHere (h : matchHere dot ps s = some gs) : search dot ps s = some gs := by
  cases s with
  | nil => rw [search, h]
  | cons c s => rw [search, h, Option.some_or]

omit [DecidableEq α] in
/-- A word of a pattern stands in every text that it matches. -/
theorem Matches.isInfix (h : Matches dot ps s gs) : ∀ w, Piece.lit w ∈ ps → w <:+: s := by
  induction h with
  | nil => exact fun w hw => absurd hw List.not_mem_nil
  | @lit w' s ps gs h ih =>
      intro w hw
      rcases List.mem_cons.mp hw with heq | hw
      · obtain rfl := Piece.lit.inj heq
        exact (List.prefix_append w s).isInfix
      · exact (ih w hw).trans (List.suffix_append w' s).isInfix
  | @group g s ps gs hg h ih =>
      intro w hw
      rcases List.mem_cons.mp hw with heq | hw
      · exact nomatch heq
      · exact (ih w hw).trans (List.suffix_append g s).isInfix

/-- A text without one of the words matches nowhere. -/
theorem search_eq_none_of_absent (hw : Piece.lit w ∈ ps) (hs : ¬ w <:+: s) :
    search dot ps s = none :=
  search_eq_none_iff.mpr fun _ ht _ hmatch => hs ((hmatch.isInfix w hw).trans ht.isInfix)

/-! ### Reading a pattern off a text -/

theorem matchHere_lit_append : matchHere dot (.lit w :: ps) (w ++ s) = matchHere dot ps s := by
  rw [matchHere, if_pos (List.prefix_append w s), List.drop_left' rfl]

/-- A group at the end takes all it can. -/
theorem matchHere_group (hg : ∀ c ∈ g, dot c = true) (ht : ∀ c ∈ t.head?, dot c = false) :
    matchHere dot [.group] (g ++ t) = some [g] := by
  have hgroup : group dot (matchHere dot []) (g ++ t) = some (g, []) := by
    refine group_append hg (by rw [matchHere]) fun a b heq hne hall => ?_
    cases a with
    | nil => exact absurd rfl hne
    | cons c a =>
        have hdot := hall c List.mem_cons_self
        rw [ht c (by rw [heq]; rfl)] at hdot
        exact nomatch hdot
  rw [matchHere, hgroup, Option.map_some]

/-- A group in front of a character goes up to the last place of it at which the rest of the
pattern matches. -/
theorem matchHere_group_char (hg : ∀ c ∈ g, dot c = true) (hrest : matchHere dot ps t = some gs)
    (hlast : ∀ a b, t = a ++ c :: b → matchHere dot ps b = none) :
    matchHere dot (.group :: .lit [c] :: ps) (g ++ c :: t) = some (g :: gs) := by
  have hgroup : group dot (matchHere dot (.lit [c] :: ps)) (g ++ c :: t) = some (g, gs) := by
    apply group_append hg ((matchHere_lit_append (w := [c])).trans hrest)
    intro a b heq hne hall
    cases a with
    | nil => exact absurd rfl hne
    | cons c' a =>
        obtain ⟨-, heq⟩ := List.cons.inj heq
        rw [matchHere]
        split
        next hpre =>
          obtain ⟨b', rfl⟩ := hpre
          rw [List.drop_left' rfl]
          exact hlast a b' heq
        next => rfl
  rw [matchHere, hgroup, Option.map_some]

end Matching

/-- A text divided at the last place of a character. -/
theorem exists_last (h : c ∈ s) : ∃ a b, s = a ++ c :: b ∧ c ∉ b := by
  obtain ⟨b, a, hreverse, hlast⟩ := List.eq_append_cons_of_mem (List.mem_reverse.mpr h)
  refine ⟨a.reverse, b.reverse, ?_, fun hmem => hlast (List.mem_reverse.mp hmem)⟩
  rw [← List.reverse_reverse s, hreverse, List.reverse_append, List.reverse_cons,
    List.append_assoc, List.singleton_append]

end Pattern
