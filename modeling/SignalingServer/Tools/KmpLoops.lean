import SignalingServer.Tools.Kmp

/-!
`getNext` and `KMPMatch` with their loops as they stand in `tools/KMP.cpp`, and with every access
checked. They stay inside their arrays, end, and give what the search of `Tools/Kmp.lean`
gives.
-/

namespace SignalingServer

/-- `xs[i]`; `none` outside of the array. -/
def readAt {α : Type} (xs : List α) (i : Int) : Option α :=
  if 0 ≤ i then xs[i.toNat]? else none

/-- `xs[i] = x`; `none` outside of the array. -/
def writeAt (xs : List Int) (i x : Int) : Option (List Int) :=
  if 0 ≤ i ∧ i < xs.length then some (xs.set i.toNat x) else none

/-- `s[i] == p[j]`. -/
def same (s : List UInt8) (i : Int) (p : List UInt8) (j : Int) : Option Bool :=
  (readAt s i).bind fun a => (readAt p j).map fun b => a == b

namespace KmpLoops

/-! ### The loops -/

/-- The loop of `getNext`; `none` where an access is out of bounds, or where it has not ended
after `fuel` rounds. -/
def getNextLoop (p : List UInt8) (plen : Int) : Nat → Int → Int → List Int → Option (List Int)
  | 0, _, _, _ => none
  | fuel + 1, j, k, next =>
      if j < plen - 1 then
        (if k = -1 then some true else same p j p k).bind fun
          | true => (writeAt next (j + 1) (k + 1)).bind (getNextLoop p plen fuel (j + 1) (k + 1))
          | false => (readAt next k).bind fun k => getNextLoop p plen fuel j k next
      else some next

/-- `getNext`, on the array that `calloc` gives. Every round moves `j` on or lets `k` fall. -/
def getNext (p : List UInt8) (next : List Int) : Option (List Int) :=
  (writeAt next 0 (-1)).bind (getNextLoop p p.length (2 * p.length + 1) 0 (-1))

/-- The first half of a round of `KMPMatch`: the new `i` and `j`. -/
def kmpMatchStep (s p : List UInt8) (pnext : List Int) (i j : Int) : Option (Int × Int) :=
  (if j = -1 then some true else same s i p j).bind fun
    | true => some (i + 1, j + 1)
    | false => (readAt pnext j).map fun j => (i, j)

def kmpMatchLoop (s p : List UInt8) (pnext : List Int) : Nat → Int → Int → Option Int
  | 0, _, _ => none
  | fuel + 1, i, j =>
      if i < s.length then
        (kmpMatchStep s p pnext i j).bind fun (i, j) =>
          if j = p.length then some (i - p.length) else kmpMatchLoop s p pnext fuel i j
      else some (-1)

/-- `KMPMatch`. -/
def kmpMatch (s p : List UInt8) : Option Int :=
  (getNext p (List.replicate p.length 0)).bind fun pnext =>
    kmpMatchLoop s p pnext (2 * s.length + 2) 0 0

end KmpLoops

/-! ### Accesses inside the arrays -/

section

variable {α : Type} {s p : List UInt8} {next : List Int}

@[simp]
theorem readAt_natCast (xs : List α) (n : Nat) : readAt xs n = xs[n]? := by
  rw [readAt, if_pos (Int.natCast_nonneg n), Int.toNat_natCast]

theorem readAt_getD {n : Nat} (h : n < next.length) : readAt next n = some (next.getD n (-1)) := by
  rw [readAt_natCast, List.getD_eq_getElem?_getD, List.getElem?_eq_getElem h, Option.getD_some]

theorem writeAt_append (next : List Int) (x y : Int) (tail : List Int) :
    writeAt (next ++ x :: tail) next.length y = some (next ++ y :: tail) := by
  have hlt : (next.length : Int) < (next ++ x :: tail).length := by
    rw [List.length_append, List.length_cons]
    omega
  rw [writeAt, if_pos ⟨Int.natCast_nonneg _, hlt⟩, Int.toNat_natCast,
    List.set_append_right _ _ (Nat.le_refl _), Nat.sub_self, List.set_cons_zero]

theorem same_natCast {i j : Nat} (hi : i < s.length) (hj : j < p.length) :
    same s i p j = some (decide (s[i]? = p[j]?)) := by
  rw [same, readAt_natCast, readAt_natCast, List.getElem?_eq_getElem hi,
    List.getElem?_eq_getElem hj, Option.bind_some, Option.map_some]
  simp only [Option.some.injEq, beq_eq_decide]

/-- The comparison of a round, with `j` a place of the pattern or -1: the byte goes on from there,
or it does not. -/
theorem compare_cases {i : Nat} {j : Int} (hi : i < s.length) (hj : -1 ≤ j ∧ j < p.length) :
    ((j = -1 ∨ p[j.toNat]? = some s[i]) ∧
        (if j = -1 then some true else same s i p j) = some true) ∨
      ∃ n : Nat, j = n ∧ n < p.length ∧ p[n]? ≠ some s[i] ∧
        (if j = -1 then some true else same s i p j) = some false := by
  by_cases hnone : j = -1
  · exact .inl ⟨.inl hnone, if_pos hnone⟩
  · obtain ⟨n, rfl⟩ : ∃ n : Nat, j = n := ⟨j.toNat, by omega⟩
    have hn : n < p.length := by omega
    rw [if_neg hnone, same_natCast hi hn, List.getElem?_eq_getElem hi, Int.toNat_natCast]
    by_cases hsame : p[n]? = some s[i]
    · exact .inl ⟨.inr hsame, by rw [decide_eq_true hsame.symm]⟩
    · exact .inr ⟨n, rfl, hn, hsame, by rw [decide_eq_false (Ne.symm hsame)]⟩

/-- The entries that are there lead back. -/
def Backward (next : List Int) : Prop :=
  ∀ i < next.length, -1 ≤ next.getD i (-1) ∧ next.getD i (-1) < i

theorem Backward.concat (h : Backward next) {e : Int} (he : -1 ≤ e ∧ e < next.length) :
    Backward (next ++ [e]) := by
  intro i hi
  rw [List.length_append, List.length_singleton] at hi
  rcases Nat.lt_or_eq_of_le (Nat.lt_succ_iff.mp hi) with hlt | rfl
  · rw [List.getD_append _ _ _ _ hlt]
    exact h i hlt
  · rw [List.getD_append_right _ _ _ _ (Nat.le_refl _), Nat.sub_self]
    exact he

/-! ### The table -/

/-- The loop fills in the table from left to right; `tail` is what it has not come to. -/
theorem getNextLoop_eq (fuel j : Nat) (k : Int) (next tail : List Int)
    (hlen : next.length = j + 1) (htail : j + 1 + tail.length = p.length)
    (hk : -1 ≤ k ∧ k < j) (hback : Backward next)
    (hfuel : 2 * ((p.length : Int) - j) + k ≤ fuel + 2) :
    KmpLoops.getNextLoop p p.length (fuel + 1) j k (next ++ tail) =
      some (getNextLoop p fuel j k next) := by
  induction fuel generalizing j k next tail with
  | zero =>
      have hnil : tail = [] := List.length_eq_zero_iff.mp (by omega)
      rw [KmpLoops.getNextLoop, if_neg (by omega), hnil, List.append_nil, getNextLoop]
  | succ fuel ih =>
      rw [KmpLoops.getNextLoop, getNextLoop]
      by_cases hmore : j + 1 < p.length
      · rw [if_pos (by omega), if_pos hmore]
        obtain ⟨x, tail, rfl⟩ : ∃ x tail', tail = x :: tail' := by
          cases tail with
          | nil => exact absurd htail (by rw [List.length_nil]; omega)
          | cons x tail => exact ⟨x, tail, rfl⟩
        rw [List.length_cons] at htail
        have hstored : KmpLoops.getNextLoop p p.length (fuel + 1) (j + 1) (k + 1)
            (next ++ (k + 1) :: tail) = some (getNextLoop p fuel (j + 1) (k + 1)
              (next ++ [k + 1])) := by
          rw [List.append_cons]
          refine ih (j + 1) (k + 1) (next ++ [k + 1]) tail ?_ (by omega) ⟨by omega, by omega⟩ ?_
            (by omega)
          · rw [List.length_append, hlen, List.length_singleton]
          · exact hback.concat (by omega)
        have hwrite : writeAt (next ++ x :: tail) (j + 1) (k + 1) =
            some (next ++ (k + 1) :: tail) := by
          have hj : ((j : Int) + 1) = next.length := by omega
          rw [hj]
          exact writeAt_append next x (k + 1) tail
        have hj : j < p.length := by omega
        rcases compare_cases hj (show -1 ≤ k ∧ k < p.length by omega) with
          ⟨hstop, hcompare⟩ | ⟨n, rfl, hn, hmiss, hcompare⟩
        · have hboth : k = -1 ∨ p[j]? = p[k.toNat]? :=
            hstop.imp_right fun h => (List.getElem?_eq_getElem hj).trans h.symm
          rw [hcompare, if_pos hboth]
          simp only [Option.bind_some, hwrite]
          exact hstored
        · have hboth : ¬ ((n : Int) = -1 ∨ p[j]? = p[(n : Int).toNat]?) := by
            rw [Int.toNat_natCast, List.getElem?_eq_getElem hj]
            rintro (h | h)
            · omega
            · exact hmiss h.symm
          have hentry := hback n (by omega)
          have hread : readAt (next ++ x :: tail) n = some (next.getD n (-1)) := by
            rw [readAt_getD (by rw [List.length_append]; omega),
              List.getD_append _ _ _ _ (by omega)]
          rw [hcompare, if_neg hboth, Int.toNat_natCast]
          simp only [Option.bind_some, hread]
          refine ih j _ next (x :: tail) hlen ?_ ⟨hentry.1, by omega⟩ hback (by omega)
          rw [List.length_cons]
          omega
      · have hnil : tail = [] := List.length_eq_zero_iff.mp (by omega)
        rw [if_neg (by omega), if_neg hmore, hnil, List.append_nil]

theorem getNext_eq (hp : p ≠ []) :
    KmpLoops.getNext p (List.replicate p.length 0) = some (getNext p) := by
  obtain ⟨n, hn⟩ : ∃ n, p.length = n + 1 :=
    ⟨p.length - 1, (Nat.sub_add_cancel (List.length_pos_iff.mpr hp)).symm⟩
  have hfirst : writeAt (List.replicate p.length 0) 0 (-1) = some ([-1] ++ List.replicate n 0) := by
    rw [hn, List.replicate_succ]
    exact writeAt_append [] 0 (-1) (List.replicate n 0)
  rw [KmpLoops.getNext, hfirst, Option.bind_some, getNext]
  refine getNextLoop_eq (2 * p.length) 0 (-1) [-1] (List.replicate n 0) rfl ?_ (by decide) ?_
    (by omega)
  · rw [List.length_replicate]
    omega
  · intro i hi
    obtain rfl : i = 0 := Nat.lt_one_iff.mp hi
    decide

theorem writeAt_length {next next' : List Int} {i x : Int} (h : writeAt next i x = some next') :
    next'.length = next.length := by
  rw [writeAt] at h
  split at h
  · obtain rfl := Option.some.inj h
    exact List.length_set
  · cases h

theorem getNextLoop_length {fuel : Nat} {plen j k : Int} {next next' : List Int}
    (h : KmpLoops.getNextLoop p plen fuel j k next = some next') :
    next'.length = next.length := by
  induction fuel generalizing j k next with
  | zero => cases h
  | succ fuel ih =>
      rw [KmpLoops.getNextLoop] at h
      split at h
      · obtain ⟨hit, -, h⟩ := Option.bind_eq_some_iff.mp h
        cases hit with
        | true =>
            obtain ⟨next₁, hwrite, h⟩ := Option.bind_eq_some_iff.mp h
            exact (ih h).trans (writeAt_length hwrite)
        | false =>
            obtain ⟨k', -, h⟩ := Option.bind_eq_some_iff.mp h
            exact ih h
      · obtain rfl := Option.some.inj h
        rfl

theorem getNext_length (hp : p ≠ []) : (getNext p).length = p.length := by
  obtain ⟨next, hwrite, hloop⟩ := Option.bind_eq_some_iff.mp (getNext_eq hp)
  rw [getNextLoop_length hloop, writeAt_length hwrite, List.length_replicate]

/-! ### The search -/

/-- More rounds than it takes change nothing. -/
theorem fallBack_fuel (hback : Backward next) (c : UInt8) (fuel fuel' : Nat) {j : Int}
    (hj : -1 ≤ j ∧ j < next.length) (hfuel : j + 1 < fuel) (hfuel' : j + 1 < fuel') :
    fallBack p next c fuel j = fallBack p next c fuel' j := by
  induction fuel generalizing fuel' j with
  | zero => omega
  | succ fuel ih =>
      obtain ⟨fuel', rfl⟩ : ∃ n, fuel' = n + 1 := ⟨fuel' - 1, by omega⟩
      rw [fallBack, fallBack]
      by_cases hstop : j = -1 ∨ p[j.toNat]? = some c
      · rw [if_pos hstop, if_pos hstop]
      · have hne : j ≠ -1 := fun h => hstop (.inl h)
        obtain ⟨n, rfl⟩ : ∃ n : Nat, j = n := ⟨j.toNat, by omega⟩
        have hn := hback n (by omega)
        rw [if_neg hstop, if_neg hstop, Int.toNat_natCast]
        exact ih fuel' ⟨hn.1, by omega⟩ (by omega) (by omega)

theorem kmpScan_match {c : UInt8} {cs : List UInt8} {i : Nat} {j : Int}
    (h : j = -1 ∨ p[j.toNat]? = some c) :
    kmpScan p next (c :: cs) i j =
      if j + 1 = p.length then (i : Int) + 1 - p.length else kmpScan p next cs (i + 1) (j + 1) := by
  rw [kmpScan, fallBack, if_pos h]

/-- A fall leaves the byte of the text to be compared again. -/
theorem kmpScan_fall (hback : Backward next) (hlen : next.length = p.length) {c : UInt8}
    {cs : List UInt8} {i n : Nat} (hn : n < p.length) (h : p[n]? ≠ some c) :
    kmpScan p next (c :: cs) i n = kmpScan p next (c :: cs) i (next.getD n (-1)) := by
  have hentry := hback n (by omega)
  have hboth : ¬ ((n : Int) = -1 ∨ p[n]? = some c) := by
    rintro (hneg | hsame)
    · omega
    · exact h hsame
  rw [kmpScan, kmpScan, fallBack, Int.toNat_natCast, if_neg hboth,
    fallBack_fuel hback c p.length (p.length + 1) ⟨hentry.1, by omega⟩ (by omega) (by omega)]

/-- The loop of `KMPMatch` goes through the text as the search that takes it byte by byte. -/
theorem kmpMatchLoop_eq (hback : Backward next) (hlen : next.length = p.length) (fuel i : Nat)
    (j : Int) (hi : i ≤ s.length) (hj : -1 ≤ j ∧ j < p.length)
    (hfuel : 2 * ((s.length : Int) - i) + j + 1 < fuel) :
    KmpLoops.kmpMatchLoop s p next fuel i j = some (kmpScan p next (s.drop i) i j) := by
  induction fuel generalizing i j with
  | zero => omega
  | succ fuel ih =>
      rw [KmpLoops.kmpMatchLoop]
      rcases Nat.lt_or_eq_of_le hi with hmore | rfl
      · have hdrop : s.drop i = s[i] :: s.drop (i + 1) := List.drop_eq_getElem_cons hmore
        rw [if_pos (by omega), KmpLoops.kmpMatchStep]
        rcases compare_cases hmore hj with ⟨hstop, hcompare⟩ | ⟨n, rfl, hn, hmiss, hcompare⟩
        · rw [hcompare, hdrop, kmpScan_match hstop]
          simp only [Option.bind_some]
          split
          · rfl
          · exact ih (i + 1) (j + 1) hmore (by omega) (by omega)
        · have hentry := hback n (by omega)
          have hless : next.getD n (-1) ≠ (p.length : Int) := by omega
          rw [hcompare, hdrop, kmpScan_fall hback hlen hn hmiss, ← hdrop]
          simp only [Option.bind_some, readAt_getD (show n < next.length by omega),
            Option.map_some, if_neg hless]
          exact ih i _ hi ⟨hentry.1, by omega⟩ (by omega)
      · rw [if_neg (by omega), List.drop_length]
        rfl

/-- Entries that lead back are those that a search can fall back by, and more. -/
theorem Failures.backward (h : Failures p next) (hlen : next.length = p.length) : Backward next :=
  fun i hi => (h i (hlen ▸ hi)).lt

theorem kmpMatch_eq (hp : p ≠ []) (s : List UInt8) :
    KmpLoops.kmpMatch s p = some (kmpMatch s p) := by
  have hpos : 0 < p.length := List.length_pos_iff.mpr hp
  have hback := (getNext_failures hp).backward (getNext_length hp)
  rw [KmpLoops.kmpMatch, getNext_eq hp, Option.bind_some]
  exact kmpMatchLoop_eq hback (getNext_length hp) (2 * s.length + 2) 0 0 (Nat.zero_le _)
    (by omega) (by omega)

example : KmpLoops.kmpMatch [1, 1, 2, 1, 1, 3] [1, 1, 3] = some 3 := by decide

/-- `KMPMatch` ends with every access in bounds, and returns the first place at which the
pattern stands, or -1 where it does not. -/
theorem kmpMatch_finds (hp : p ≠ []) (s : List UInt8) :
    ∃ r, KmpLoops.kmpMatch s p = some r ∧ Finds p s r :=
  ⟨kmpMatch s p, kmpMatch_eq hp s, kmpMatch_cases hp s⟩

theorem kmpMatch_finds_text :
    ∃ r, KmpLoops.kmpMatch [1, 1, 2, 1, 1, 3] [1, 1, 3] = some r ∧
      Finds [1, 1, 3] [1, 1, 2, 1, 1, 3] r :=
  kmpMatch_finds (by decide) [1, 1, 2, 1, 1, 3]

end

end SignalingServer
