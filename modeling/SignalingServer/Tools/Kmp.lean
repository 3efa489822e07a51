import Mathlib.Data.List.GetD
import SignalingServer.Lib.Borders

/-!
The string search of `tools/KMP.cpp`. The loop of `KMPMatch` is taken one byte of the
text at a time: the rounds in which only `j` falls back belong to the byte that they
compare.
-/

namespace SignalingServer

/-- The loop of `getNext`, in which `k` falls back at most once for each step forward. -/
def getNextLoop (p : List UInt8) : Nat → Nat → Int → List Int → List Int
  | 0, _, _, next => next
  | fuel + 1, j, k, next =>
      if j + 1 < p.length then
        if k = -1 ∨ p[j]? = p[k.toNat]? then
          getNextLoop p fuel (j + 1) (k + 1) (next ++ [k + 1])
        else getNextLoop p fuel j (next.getD k.toNat (-1)) next
      else next

/-- `getNext`. -/
def getNext (p : List UInt8) : List Int := getNextLoop p (2 * p.length) 0 (-1) [-1]

/-- `j = pnext[j]` until the byte matches or `j` is -1. -/
def fallBack (p : List UInt8) (next : List Int) (c : UInt8) : Nat → Int → Int
  | 0, _ => -1
  | fuel + 1, j =>
      if j = -1 ∨ p[j.toNat]? = some c then j
      else fallBack p next c fuel (next.getD j.toNat (-1))

def kmpScan (p : List UInt8) (next : List Int) : List UInt8 → Nat → Int → Int
  | [], _, _ => -1
  | c :: cs, i, j =>
      let j := fallBack p next c (p.length + 1) j + 1
      if j = p.length then i + 1 - p.length else kmpScan p next cs (i + 1) j

/-- `KMPMatch`. -/
def kmpMatch (s p : List UInt8) : Int := kmpScan p (getNext p) s 0 0

open Borders

variable {p : List UInt8} {next : List Int} {c : UInt8}

/-! ### The table -/

/-- The entries for the first parts of the pattern up to `n`. -/
def Entries (p : List UInt8) (next : List Int) (n : Nat) : Prop :=
  ∀ j < n, Entry p j (next.getD j (-1))

theorem Entries.concat {n : Nat} {e : Int} (h : Entries p next n) (hlen : next.length = n)
    (he : Entry p n e) : Entries p (next ++ [e]) (n + 1) := by
  intro j hj
  rcases Nat.lt_or_eq_of_le (Nat.lt_succ_iff.mp hj) with hlt | rfl
  · rw [List.getD_append _ _ _ _ (by omega)]
    exact h j hlt
  · rw [← hlen, List.getD_append_right _ _ _ _ (Nat.le_refl _), Nat.sub_self]
    rw [hlen]
    exact he

/-- The loop extends a table for `j` to one for the whole pattern. The place `k` is a candidate
for the next element of the pattern, at the end of its own first `j`. -/
theorem getNextLoop_entries (fuel j : Nat) (k : Int) (next : List Int) (hj : j < p.length)
    (hlen : next.length = j + 1) (hentries : Entries p next (j + 1))
    (hcand : ∀ c, p[j]? = some c → Candidate p (p.take j) c j k)
    (hfuel : 2 * ((p.length : Int) - j) + k ≤ fuel + 2) :
    Entries p (getNextLoop p fuel j k next) p.length := by
  obtain ⟨c, hc⟩ : ∃ c, p[j]? = some c := ⟨_, List.getElem?_eq_getElem hj⟩
  have hbound := (hcand c hc).range
  induction fuel generalizing j k next c with
  | zero =>
      have hall : p.length = j + 1 := by omega
      rw [getNextLoop, hall]
      exact hentries
  | succ fuel ih =>
      rw [getNextLoop]
      by_cases hmore : j + 1 < p.length
      · rw [if_pos hmore]
        by_cases hmatch : k = -1 ∨ p[j]? = p[k.toNat]?
        · rw [if_pos hmatch]
          obtain ⟨m, hm, hlt, hfit, hlonger⟩ :=
            (hcand c hc).longest_take hc (hmatch.imp_right fun h => h.symm.trans hc)
          obtain ⟨d, hd⟩ : ∃ d, p[j + 1]? = some d := ⟨_, List.getElem?_eq_getElem hmore⟩
          rw [hm]
          refine ih (j + 1) m (next ++ [(m : Int)]) hmore ?_ ?_ ?_ ?_ d hd ?_
          · rw [List.length_append, hlen, List.length_singleton]
          · exact hentries.concat hlen (.inr ⟨m, rfl, hlt, hfit, hlonger⟩)
          · exact fun c' _ => Candidate.of_longest hlt hfit hlonger c'
          · omega
          · omega
        · rw [if_neg hmatch]
          obtain ⟨hk, hmiss⟩ := not_or.mp hmatch
          obtain ⟨n, rfl, hn, -⟩ := (hcand c hc).fits.resolve_left hk
          have hentry := hentries n (by omega)
          have hless := hentry.lt
          have hnext : ∀ c, p[j]? = some c →
              Candidate p (p.take j) c j (next.getD n (-1)) := by
            intro c' hc'
            exact (hcand c' hc').fall (fun h => hmiss (hc'.trans h.symm)) hentry.failure
          refine ih j _ next hj hlen hentries hnext ?_ c hc ?_
          · rw [Int.toNat_natCast]
            omega
          · exact (hnext c hc).range
      · have hall : p.length = j + 1 := by omega
        rw [if_neg hmore, hall]
        exact hentries

theorem getNext_entries (hp : p ≠ []) : Entries p (getNext p) p.length := by
  have hpos : 0 < p.length := List.length_pos_iff.mpr hp
  refine getNextLoop_entries _ 0 (-1) [-1] hpos rfl ?_ ?_ (by omega)
  · intro j hj
    have hzero : j = 0 := by omega
    subst hzero
    exact .inl ⟨rfl, rfl⟩
  · exact fun c _ => ⟨.inl rfl, fun k hk => absurd hk (Nat.not_lt_zero k)⟩

/-! ### The search -/

/-- A table by which a search can fall back. -/
def Failures (p : List UInt8) (next : List Int) : Prop :=
  ∀ j < p.length, Failure p j (next.getD j (-1))

theorem getNext_failures (hp : p ≠ []) : Failures p (getNext p) :=
  fun j hj => (getNext_entries hp j hj).failure

/-- Where the fall ends, the element fits or nothing does. -/
theorem fallBack_candidate (hentries : Failures p next) {t : List UInt8} (fuel : Nat)
    {j : Int} (hcand : Candidate p t c p.length j) (hfuel : j + 1 < fuel) :
    Candidate p t c p.length (fallBack p next c fuel j) ∧
      (fallBack p next c fuel j = -1 ∨ p[(fallBack p next c fuel j).toNat]? = some c) := by
  induction fuel generalizing j with
  | zero =>
      have hrange := hcand.range
      omega
  | succ fuel ih =>
      rw [fallBack]
      by_cases hstop : j = -1 ∨ p[j.toNat]? = some c
      · rw [if_pos hstop]
        exact ⟨hcand, hstop⟩
      · rw [if_neg hstop]
        obtain ⟨hj, hmiss⟩ := not_or.mp hstop
        obtain ⟨n, rfl, hn, -⟩ := hcand.fits.resolve_left hj
        have hentry := hentries n hn
        refine ih (hcand.fall hmiss hentry) ?_
        have hless := hentry.lt.2
        rw [Int.toNat_natCast]
        omega

/-- The scan of the rest `cs` of a text behind `t`, at whose end the first `j` are the longest
fit: it ends with the first place behind which all of the pattern fits. -/
theorem kmpScan_cases (hentries : Failures p next) (cs : List UInt8) {t : List UInt8}
    {j : Nat} (hj : j < p.length) (hfit : Fits p t j)
    (hmax : ∀ k < p.length, Fits p t k → k ≤ j) :
    (kmpScan p next cs t.length j = -1 ∧
      ∀ m, 0 < m → m ≤ cs.length → ¬ Fits p (t ++ cs.take m) p.length) ∨
    ∃ m, 0 < m ∧ m ≤ cs.length ∧ Fits p (t ++ cs.take m) p.length ∧
      kmpScan p next cs t.length j = (t.length + m : Nat) - (p.length : Int) ∧
      ∀ m', 0 < m' → m' < m → ¬ Fits p (t ++ cs.take m') p.length := by
  induction cs generalizing t j with
  | nil =>
      refine .inl ⟨rfl, fun m hpos hle => ?_⟩
      exact absurd hle (Nat.not_le.mpr hpos)
  | cons c cs ih =>
      obtain ⟨hcand, hmatch⟩ := fallBack_candidate hentries (c := c) (p.length + 1)
        (Candidate.of_longest hj hfit hmax c) (by omega)
      obtain ⟨hfit', hmax'⟩ := hcand.extend hmatch
      have hrange := hcand.range
      obtain ⟨m, hm⟩ : ∃ m : Nat, fallBack p next c (p.length + 1) j + 1 = m :=
        ⟨(fallBack p next c (p.length + 1) j + 1).toNat, by omega⟩
      rw [hm, Int.toNat_natCast] at hfit' hmax'
      simp only [kmpScan, hm, Int.natCast_inj]
      have hone : (c :: cs).take 1 = [c] := rfl
      by_cases hfull : m = p.length
      · -- The pattern is complete with this element.
        subst hfull
        refine .inr ⟨1, Nat.one_pos, Nat.le_add_left 1 _, hfit', ?_, fun m' hpos hlt => ?_⟩
        · rw [if_pos rfl]
          rfl
        · omega
      · have hnot : ¬ Fits p (t ++ [c]) p.length := by
          intro hall
          have hle := hmax' _ (Nat.le_refl _) hall
          exact hfull (Nat.le_antisymm hfit'.1 hle)
        have hlt : m < p.length := Nat.lt_of_le_of_ne hfit'.1 hfull
        have hnext := ih hlt hfit' fun k hk => hmax' k (Nat.le_of_lt hk)
        rw [List.length_append, List.length_singleton] at hnext
        rw [if_neg hfull]
        rcases hnext with ⟨hscan, hnone⟩ | ⟨n, hpos, hle, hall, hscan, hfirst⟩
        · exact .inl ⟨hscan, not_fits_take_cons hnot hnone⟩
        · refine .inr ⟨n + 1, by omega, Nat.succ_le_succ hle, ?_, ?_, fun m' hpos' hlt' => ?_⟩
          · rw [List.take_succ_cons, List.append_cons]
            exact hall
          · rw [hscan]
            congr 2
            omega
          · have hbefore : ∀ m, 0 < m → m ≤ n - 1 → ¬ Fits p (t ++ [c] ++ cs.take m) p.length :=
              fun m hm hle => hfirst m hm (by omega)
            exact not_fits_take_cons hnot hbefore m' hpos' (by omega)

/-- The result of a search: the first place at which the pattern stands, or -1. -/
def Finds (p s : List UInt8) (r : Int) : Prop :=
  (r = -1 ∧ ∀ n, ¬ Occurs p s n) ∨
    ∃ n : Nat, r = n ∧ Occurs p s n ∧ ∀ m < n, ¬ Occurs p s m

/-- A search that falls back by such a table finds the first place at which the pattern
stands. -/
theorem kmpScan_finds (hp : p ≠ []) (hentries : Failures p next) (s : List UInt8) :
    Finds p s (kmpScan p next s 0 0) := by
  have hpos : 0 < p.length := List.length_pos_iff.mpr hp
  have hzero : ∀ k < p.length, Fits p [] k → k ≤ 0 := by
    intro k hk hfit
    have hnil := List.suffix_nil.mp hfit.2
    rcases List.take_eq_nil_iff.mp hnil with h | h
    · exact Nat.le_of_eq h
    · exact absurd h hp
  have hoccurs : ∀ {n m : Nat}, m = n + p.length → m ≤ s.length →
      (Occurs p s n ↔ Fits p (s.take m) p.length) := by
    rintro n m rfl hle
    rw [occurs_iff_fits hp]
    exact and_iff_right hle
  rcases kmpScan_cases hentries s (t := []) hpos fits_zero hzero with
    ⟨hscan, hnone⟩ | ⟨m, hm, hle, hfit, hscan, hfirst⟩
  · refine .inl ⟨hscan, fun n hocc => ?_⟩
    have hle := ((occurs_iff_fits hp).mp hocc).1
    exact hnone (n + p.length) (by omega) hle ((hoccurs rfl hle).mp hocc)
  · have hlen : p.length ≤ m := by
      have hsuffix := hfit.2.length_le
      rw [List.take_length, List.nil_append, List.length_take] at hsuffix
      omega
    refine .inr ⟨m - p.length, ?_, (hoccurs (by omega) hle).mpr hfit, fun n hn hocc => ?_⟩
    · simp only [List.length_nil, Nat.zero_add] at hscan
      rw [show ((0 : Nat) : Int) = 0 from rfl] at hscan
      omega
    · exact hfirst (n + p.length) (by omega) (by omega) ((hoccurs rfl (by omega)).mp hocc)

/-- `KMPMatch` finds the first place at which the pattern stands. -/
theorem kmpMatch_cases (hp : p ≠ []) (s : List UInt8) :
    (kmpMatch s p = -1 ∧ ∀ n, ¬ Occurs p s n) ∨
      ∃ n : Nat, kmpMatch s p = n ∧ Occurs p s n ∧ ∀ m < n, ¬ Occurs p s m :=
  kmpScan_finds hp (getNext_failures hp) s

end SignalingServer
