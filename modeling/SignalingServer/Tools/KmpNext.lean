import Mathlib.Data.List.OfFn
import SignalingServer.Tools.KmpLoops

/-!
The second matcher of `tools/KMP.cpp`: `Next` with entries that pass over equal bytes, and `KMP`,
which counts from 1. Its table has a fixed size. For the patterns that fit into it, it is the
search of `KMPMatch` with another table, as long as its count does not leave the `int`.
-/

namespace SignalingServer

namespace KmpNext

/-- What `Next` puts into `next[i]` when `j` is behind a border. -/
def nextEntry (T : List UInt8) (next : List Int) (i j : Int) : Option Int :=
  (same T (i - 1) T (j - 1)).bind fun
    | false => some j
    | true => readAt next j

def nextLoop (T : List UInt8) (tlen : Int) : Nat → Int → Int → List Int → Option (List Int)
  | 0, _, _, _ => none
  | fuel + 1, i, j, next =>
      if i < tlen then
        (if j = 0 then some true else same T (i - 1) T (j - 1)).bind fun
          | true =>
              (nextEntry T next (i + 1) (j + 1)).bind fun e =>
                (writeAt next (i + 1) e).bind (nextLoop T tlen fuel (i + 1) (j + 1))
          | false => (readAt next j).bind fun j => nextLoop T tlen fuel i j next
      else some next

/-- `Next`. -/
def next (T : List UInt8) (table : List Int) : Option (List Int) :=
  (writeAt table 1 0).bind (nextLoop T T.length (2 * T.length + 1) 1 0)

/-- `INT_MAX`. -/
def intMax : Int := 2147483647

/-- `i++` for an `int`; `none` where it overflows. -/
def inc (i : Int) : Option Int := if i < intMax then some (i + 1) else none

/-- The loop of `KMP`, up to its end: `i` and `j` there. Behind a text of the greatest length `i`
is to be greater than an `int` can be. -/
def kmpLoop (S T : List UInt8) (next : List Int) : Nat → Int → Int → Option (Int × Int)
  | 0, _, _ => none
  | fuel + 1, i, j =>
      if i ≤ S.length ∧ j ≤ T.length then
        (if j = 0 then some true else same S (i - 1) T (j - 1)).bind fun
          | true => (inc i).bind fun i => (inc j).bind fun j => kmpLoop S T next fuel i j
          | false => (readAt next j).bind fun j => kmpLoop S T next fuel i j
      else some (i, j)

/-- `KMP`; `stack` is what the table `int next[10]` contains at first. -/
def kmp (stack : Fin 10 → Int) (S T : List UInt8) : Option Int :=
  (next T (List.ofFn stack)).bind fun next =>
    (kmpLoop S T next (2 * S.length + 3) 1 1).map fun (i, j) =>
      if j > T.length then i - T.length else -1

end KmpNext

open Borders

variable {s p : List UInt8} {next : List Int}

/-- The comparison of a round, with both places counted from 0. -/
theorem compare_zeroBased (n : Nat) (k : Int) :
    (if k + 1 = 0 then some true else same s ((n : Int) + 1 - 1) p (k + 1 - 1)) =
      if k = -1 then some true else same s n p k := by
  have hzero : k + 1 = 0 ↔ k = -1 := by omega
  rw [Int.add_sub_cancel, Int.add_sub_cancel]
  simp only [hzero]

/-! ### The table -/

/-- The entries of `next` from 1 to `n`. -/
def OneBased (p : List UInt8) (next : List Int) (n : Nat) : Prop :=
  ∀ m < n, ∃ e, next[m + 1]? = some e ∧ Failure p m (e - 1)

theorem OneBased.write {n : Nat} {e : Int} (h : OneBased p next n) (hlen : n + 1 < next.length)
    (he : Failure p n (e - 1)) : OneBased p (next.set (n + 1) e) (n + 1) := by
  intro m hm
  rcases Nat.lt_or_eq_of_le (Nat.lt_succ_iff.mp hm) with hlt | rfl
  · rw [List.getElem?_set_ne (by omega)]
    exact h m hlt
  · exact ⟨e, List.getElem?_set_self hlen, he⟩

/-- The entry for one element more, from the longest border. -/
theorem OneBased.nextEntry {n m : Nat} (h : OneBased p next n) (hn : n < p.length) (hm : m < n)
    (hfit : Fits p (p.take n) m) (hmax : ∀ k < n, Fits p (p.take n) k → k ≤ m) :
    ∃ e, KmpNext.nextEntry p next (n + 1) (m + 1) = some e ∧ Failure p n (e - 1) := by
  rw [KmpNext.nextEntry, Int.add_sub_cancel, Int.add_sub_cancel,
    same_natCast hn (Nat.lt_trans hm hn), Option.bind_some]
  by_cases hsame : p[n]? = p[m]?
  · obtain ⟨e, he, hfailure⟩ := h m hm
    rw [decide_eq_true hsame]
    refine ⟨e, ?_, hfailure.skip hm hfit hmax hsame.symm⟩
    exact (readAt_natCast next (m + 1)).trans he
  · rw [decide_eq_false hsame]
    refine ⟨m + 1, rfl, ?_⟩
    rw [Int.add_sub_cancel]
    exact Entry.failure (.inr ⟨m, rfl, hm, hfit, hmax⟩)

/-- `Next` fills in the table; `k` is the 0-based `j`, a candidate for the next element. -/
theorem nextLoop_table (fuel n : Nat) (k : Int) (next : List Int) (hn : n < p.length)
    (hlen : p.length < next.length) (htable : OneBased p next (n + 1))
    (hcand : ∀ c, p[n]? = some c → Candidate p (p.take n) c n k)
    (hfuel : 2 * ((p.length : Int) - n) + k ≤ fuel) :
    ∃ next', KmpNext.nextLoop p p.length fuel (n + 1) (k + 1) next = some next' ∧
      next'.length = next.length ∧ OneBased p next' p.length := by
  have hc := List.getElem?_eq_getElem hn
  have hrange := (hcand _ hc).range
  induction fuel generalizing n k next with
  | zero => omega
  | succ fuel ih =>
      rw [KmpNext.nextLoop]
      by_cases hmore : n + 1 < p.length
      · rw [if_pos (by omega)]
        rw [compare_zeroBased]
        rcases compare_cases hn (show -1 ≤ k ∧ k < p.length by omega) with
          ⟨hstop, hcompare⟩ | ⟨m, rfl, hm, hmiss, hcompare⟩
        · obtain ⟨m, hm, hlt, hfit, hmax⟩ := (hcand _ hc).longest_take hc hstop
          obtain ⟨e, hentry, hfailure⟩ := htable.nextEntry hmore hlt hfit hmax
          have hwrite : writeAt next ((n : Int) + 1 + 1) e = some (next.set (n + 1 + 1) e) :=
            if_pos ⟨by omega, by omega⟩
          have hnext := Candidate.of_longest hlt hfit hmax
          obtain ⟨next', hloop, hlen', htable'⟩ := ih (n + 1) m (next.set (n + 1 + 1) e) hmore
            (by rw [List.length_set]; exact hlen) (htable.write (by omega) hfailure)
            (fun c _ => hnext c) (by omega) (List.getElem?_eq_getElem hmore)
            (hnext p[n + 1]).range
          refine ⟨next', ?_, hlen'.trans List.length_set, htable'⟩
          rw [hcompare, hm, show (n : Int) + 1 = (n + 1 : Nat) from rfl]
          simp only [Option.bind_some, hentry]
          exact (congrArg (Option.bind · _) hwrite).trans hloop
        · obtain ⟨e, he, hfailure⟩ := htable m (by omega)
          have hread : readAt next ((m : Int) + 1) = some e :=
            (readAt_natCast next (m + 1)).trans he
          have hfall : ∀ c, p[n]? = some c → Candidate p (p.take n) c n (e - 1) := by
            intro c hc'
            obtain rfl := Option.some.inj (hc.symm.trans hc')
            exact (hcand _ hc).fall hmiss hfailure
          have hless := hfailure.lt
          rw [hcompare]
          simp only [Option.bind_some, hread]
          rw [← Int.sub_add_cancel e 1]
          exact ih n (e - 1) next hn hlen htable hfall (by omega) hc (hfall _ hc).range
      · have hall : p.length = n + 1 := by omega
        rw [if_neg (by omega), hall]
        exact ⟨next, rfl, rfl, htable⟩

theorem next_table (hp : p ≠ []) (table : List Int) (hlen : p.length < table.length) :
    ∃ next', KmpNext.next p table = some next' ∧ next'.length = table.length ∧
      OneBased p next' p.length := by
  have hpos : 0 < p.length := List.length_pos_iff.mpr hp
  have hwrite : writeAt table 1 0 = some (table.set 1 0) := if_pos ⟨by omega, by omega⟩
  have hfirst : OneBased p (table.set 1 0) 1 := by
    intro m hm
    obtain rfl : m = 0 := Nat.lt_one_iff.mp hm
    refine ⟨0, List.getElem?_set_self (by omega), .inl rfl, fun k hk => ?_⟩
    exact absurd hk (Nat.not_lt_zero k)
  have hcand : ∀ c, p[0]? = some c → Candidate p (p.take 0) c 0 (-1) :=
    fun c _ => ⟨.inl rfl, fun k hk => absurd hk (Nat.not_lt_zero k)⟩
  obtain ⟨next', hloop, hlen', htable⟩ := nextLoop_table (2 * p.length + 1) 0 (-1)
    (table.set 1 0) hpos (by rw [List.length_set]; exact hlen) hfirst hcand (by omega)
  rw [KmpNext.next, hwrite, Option.bind_some]
  exact ⟨next', hloop, hlen'.trans List.length_set, htable⟩

/-- A table with no more elements than the pattern is written past its end. -/
theorem nextLoop_none (fuel : Nat) {i j : Int} (hi : i < next.length)
    (hlen : (next.length : Int) ≤ p.length) :
    KmpNext.nextLoop p p.length fuel i j next = none := by
  induction fuel generalizing i j next with
  | zero => rfl
  | succ fuel ih =>
      rw [KmpNext.nextLoop, if_pos (by omega)]
      rw [Option.bind_eq_none_iff]
      rintro (_ | _) -
      · rw [Option.bind_eq_none_iff]
        exact fun k _ => ih hi hlen
      · rw [Option.bind_eq_none_iff]
        intro e _
        rw [Option.bind_eq_none_iff]
        intro next' hwrite
        have hsame := writeAt_length hwrite
        have hinside : i + 1 < next.length := by
          by_contra hout
          rw [writeAt, if_neg (fun h => hout h.2)] at hwrite
          cases hwrite
        exact ih (by omega) (by omega)

/-! ### The search -/

/-- The table of `Next` with the pattern and the entries counted from 0. -/
def zeroBased (next : List Int) (n : Nat) : List Int := ((next.drop 1).take n).map (· - 1)

theorem zeroBased_length {n : Nat} (h : n < next.length) : (zeroBased next n).length = n := by
  rw [zeroBased, List.length_map, List.length_take, List.length_drop]
  omega

theorem zeroBased_getD {n m : Nat} {e : Int} (hm : m < n) (he : next[m + 1]? = some e) :
    (zeroBased next n).getD m (-1) = e - 1 := by
  rw [zeroBased, List.getD_eq_getElem?_getD, List.getElem?_map, List.getElem?_take_of_lt hm,
    List.getElem?_drop, Nat.add_comm, he]
  rfl

theorem OneBased.failures (h : OneBased p next p.length) :
    Failures p (zeroBased next p.length) := by
  intro m hm
  obtain ⟨e, he, hfailure⟩ := h m hm
  rw [zeroBased_getD hm he]
  exact hfailure

/-- What `KMP` returns from the end of its loop. -/
def kmpReturn (tlen : Nat) (i j : Int) : Int := if j > tlen then i - tlen else -1

/-- A result that counts from 0, counted from 1. -/
def oneBased (r : Int) : Int := if r = -1 then -1 else r + 1

/-- How many bytes of the text a search with this result has gone through. -/
def bytesRead (p s : List UInt8) (r : Int) : Int := if r = -1 then s.length else r + p.length

/-- What is found ends behind the place at which the search was begun. -/
theorem kmpScan_end (p : List UInt8) (next : List Int) (cs : List UInt8) (i : Nat) (j : Int) :
    kmpScan p next cs i j = -1 ∨ (i : Int) < kmpScan p next cs i j + p.length := by
  induction cs generalizing i j with
  | nil => exact .inl rfl
  | cons c cs ih =>
      rw [kmpScan]
      split
      · exact .inr (by omega)
      · exact (ih (i + 1) _).imp_right fun h => by omega

theorem le_bytesRead {n : Nat} (hn : n ≤ s.length) (table : List Int) (k : Int) :
    (n : Int) ≤ bytesRead p s (kmpScan p table (s.drop n) n k) := by
  unfold bytesRead
  split
  · exact Int.ofNat_le.mpr hn
  · rename_i hfound
    exact Int.le_of_lt ((kmpScan_end p table (s.drop n) n k).resolve_left hfound)

/-- The loop of `KMP` goes through the text as the search with the 0-based table; `n` and `k` are
the 0-based `i` and `j`. It ends where its count would leave the `int`. -/
theorem kmpLoop_eq (h : OneBased p next p.length) (hlen : p.length < next.length)
    (hshort : p.length < 10) (fuel n : Nat) (k : Int) (hn : n ≤ s.length)
    (hmax : n < KmpNext.intMax) (hk : -1 ≤ k ∧ k < p.length ∧ k ≤ n)
    (hfuel : 2 * ((s.length : Int) - n) + k + 3 ≤ fuel) :
    (KmpNext.kmpLoop s p next fuel (n + 1) (k + 1)).map (fun e => kmpReturn p.length e.1 e.2) =
      if bytesRead p s (kmpScan p (zeroBased next p.length) (s.drop n) n k) < KmpNext.intMax then
        some (oneBased (kmpScan p (zeroBased next p.length) (s.drop n) n k))
      else none := by
  have hback := h.failures.backward (zeroBased_length hlen)
  induction fuel generalizing n k with
  | zero => omega
  | succ fuel ih =>
      rw [KmpNext.kmpLoop]
      rcases Nat.lt_or_eq_of_le hn with hmore | rfl
      · have hdrop : s.drop n = s[n] :: s.drop (n + 1) := List.drop_eq_getElem_cons hmore
        rw [if_pos ⟨by omega, by omega⟩, compare_zeroBased]
        rcases compare_cases hmore ⟨hk.1, hk.2.1⟩ with
          ⟨hstop, hcompare⟩ | ⟨m, rfl, hm, hmiss, hcompare⟩
        · have hcast : ((n + 1 : Nat) : Int) = n + 1 := rfl
          have hsmall : k + 1 < KmpNext.intMax := by
            rw [KmpNext.intMax]
            omega
          have hj : KmpNext.inc (k + 1) = some (k + 1 + 1) := by
            rw [KmpNext.inc, if_pos hsmall]
          rw [hcompare, hdrop, kmpScan_match hstop, Option.bind_some]
          dsimp only
          by_cases hroom : (n : Int) + 1 < KmpNext.intMax
          · have hi : KmpNext.inc ((n : Int) + 1) = some ((n : Int) + 1 + 1) := by
              rw [KmpNext.inc, if_pos hroom]
            rw [hi, Option.bind_some, hj, Option.bind_some]
            by_cases hfull : k + 1 = p.length
            · -- the pattern is complete, and the loop ends with its next round
              rw [if_pos hfull]
              obtain ⟨fuel', rfl⟩ : ∃ f, fuel = f + 1 := ⟨fuel - 1, by omega⟩
              have hread : bytesRead p s ((n : Int) + 1 - p.length) = n + 1 := by
                rw [bytesRead, if_neg (by omega)]
                omega
              rw [hread, if_pos hroom, KmpNext.kmpLoop, if_neg (by omega), Option.map_some,
                kmpReturn, if_pos (by omega), oneBased, if_neg (by omega)]
              exact congrArg some (by omega)
            · rw [if_neg hfull]
              have hnext := ih (n + 1) (k + 1) hmore (by omega) ⟨by omega, by omega, by omega⟩
                (by omega)
              rwa [hcast] at hnext
          · -- this byte is one too many
            have hread : (n : Int) + 1 ≤ bytesRead p s (if k + 1 = p.length then
                (n : Int) + 1 - p.length
                else kmpScan p (zeroBased next p.length) (s.drop (n + 1)) (n + 1) (k + 1)) := by
              split
              · rw [bytesRead, if_neg (by omega)]
                omega
              · exact hcast ▸ le_bytesRead hmore _ _
            have hi : KmpNext.inc ((n : Int) + 1) = none := by rw [KmpNext.inc, if_neg hroom]
            rw [hi, if_neg (by omega)]
            rfl
        · obtain ⟨e, he, hfailure⟩ := h m hm
          have hread : readAt next ((m : Int) + 1) = some e :=
            (readAt_natCast next (m + 1)).trans he
          have hless := hfailure.lt
          rw [hcompare, hdrop, kmpScan_fall hback (zeroBased_length hlen) hm hmiss, ← hdrop,
            zeroBased_getD hm he]
          simp only [Option.bind_some, hread]
          rw [← Int.sub_add_cancel e 1, Int.add_sub_cancel]
          exact ih n (e - 1) hn hmax ⟨hless.1, by omega, by omega⟩ (by omega)
      · have hscan : kmpScan p (zeroBased next p.length) (s.drop s.length) s.length k = -1 := by
          rw [List.drop_length]
          rfl
        have hread : bytesRead p s (-1) = s.length := if_pos rfl
        rw [if_neg (by omega), hscan, Option.map_some, kmpReturn, if_neg (by omega), hread,
          if_pos hmax, oneBased, if_pos rfl]

/-- `KMP` finds what `KMPMatch` finds, counted from 1, if it does not read a text of the greatest
length up to its end. -/
theorem kmp_of_short (hp : p ≠ []) (hshort : p.length ≤ 9) (s : List UInt8) (stack : Fin 10 → Int) :
    ∃ r, Finds p s r ∧ KmpNext.kmp stack s p =
      if bytesRead p s r < KmpNext.intMax then some (oneBased r) else none := by
  have hpos : 0 < p.length := List.length_pos_iff.mpr hp
  have hstack : (List.ofFn stack).length = 10 := List.length_ofFn
  obtain ⟨next, hnext, hlen, htable⟩ := next_table hp (List.ofFn stack) (by omega)
  refine ⟨_, kmpScan_finds hp htable.failures s, ?_⟩
  rw [KmpNext.kmp, hnext, Option.bind_some]
  exact kmpLoop_eq htable (by omega) (by omega) (2 * s.length + 3) 0 0 (Nat.zero_le _) (by decide)
    ⟨by omega, by omega, by omega⟩ (by omega)

example : KmpNext.kmp (fun _ => 7) [1, 1, 2, 1, 1, 3] [1, 1, 3] = some 4 := by decide

/-- A search has one result. -/
theorem Finds.unique {r r' : Int} (h : Finds p s r) (h' : Finds p s r') : r = r' := by
  rcases h with ⟨rfl, hnone⟩ | ⟨n, rfl, hocc, hfirst⟩
  · rcases h' with ⟨rfl, -⟩ | ⟨n, -, hocc, -⟩
    · rfl
    · exact absurd hocc (hnone n)
  · rcases h' with ⟨rfl, hnone⟩ | ⟨n', rfl, hocc', hfirst'⟩
    · exact absurd hocc (hnone n)
    · rcases Nat.lt_trichotomy n n' with hlt | rfl | hlt
      · exact absurd hocc (hfirst' n hlt)
      · rfl
      · exact absurd hocc' (hfirst n' hlt)

/-- Both results are -1, or the second one is the first one counted from 1. -/
def Agrees (r r' : Int) : Prop := (r = -1 ∧ r' = -1) ∨ (0 ≤ r ∧ r' = r + 1)

theorem Finds.agrees {r : Int} (h : Finds p s r) : Agrees r (oneBased r) := by
  rcases h with ⟨rfl, -⟩ | ⟨n, rfl, -⟩
  · exact .inl ⟨rfl, rfl⟩
  · exact .inr ⟨Int.natCast_nonneg n, if_neg (by omega)⟩

theorem kmp_none (hlong : 10 ≤ p.length) (s : List UInt8) (stack : Fin 10 → Int) :
    KmpNext.kmp stack s p = none := by
  have hstack : (List.ofFn stack).length = 10 := List.length_ofFn
  have hnone : KmpNext.next p (List.ofFn stack) = none := by
    rw [KmpNext.next, Option.bind_eq_none_iff]
    intro next hwrite
    have hlen := writeAt_length hwrite
    exact nextLoop_none _ (by omega) (by omega)
  rw [KmpNext.kmp, hnone]
  rfl

/-- The search is over before `i` is the greatest `int`: the text ends before, or the pattern
stands before. -/
def Counted (p s : List UInt8) : Prop :=
  (s.length : Int) < KmpNext.intMax ∨
    ∃ n : Nat, Occurs p s n ∧ (n : Int) + p.length < KmpNext.intMax

theorem Finds.counted_iff (hp : p ≠ []) {r : Int} (h : Finds p s r) :
    bytesRead p s r < KmpNext.intMax ↔ Counted p s := by
  rcases h with ⟨rfl, hnone⟩ | ⟨n, rfl, hocc, hfirst⟩
  · rw [bytesRead, if_pos rfl]
    refine ⟨.inl, fun h => h.resolve_right ?_⟩
    rintro ⟨n, hocc, -⟩
    exact hnone n hocc
  · rw [bytesRead, if_neg (by omega)]
    refine ⟨fun h => .inr ⟨n, hocc, h⟩, ?_⟩
    rintro (hlength | ⟨n', hocc', hless⟩)
    · have hle := ((occurs_iff_fits hp).mp hocc).1
      omega
    · have hle : n ≤ n' := Nat.le_of_not_lt fun hlt => hfirst n' hlt hocc'
      omega

/-- `KMP` stays in its table and its `int`, and agrees with `KMPMatch`, exactly for the patterns of
at most nine bytes, on a text shorter than the greatest `int` or with the pattern in front of its
last byte. -/
theorem kmp_agrees_iff (hp : p ≠ []) (s : List UInt8) (stack : Fin 10 → Int) :
    (∃ r r', KmpLoops.kmpMatch s p = some r ∧ KmpNext.kmp stack s p = some r' ∧ Agrees r r') ↔
      p.length ≤ 9 ∧ Counted p s := by
  constructor
  · rintro ⟨r, r', -, hkmp, -⟩
    have hshort : p.length ≤ 9 := by
      by_contra hlong
      rw [kmp_none (by omega) s stack] at hkmp
      cases hkmp
    obtain ⟨r, hfinds, heq⟩ := kmp_of_short hp hshort s stack
    refine ⟨hshort, (hfinds.counted_iff hp).mp ?_⟩
    by_contra hover
    rw [heq, if_neg hover] at hkmp
    cases hkmp
  · rintro ⟨hshort, hcounted⟩
    obtain ⟨r, hfinds, hkmp⟩ := kmp_of_short hp hshort s stack
    rw [if_pos ((hfinds.counted_iff hp).mpr hcounted)] at hkmp
    obtain rfl := hfinds.unique (kmpMatch_cases hp s)
    exact ⟨_, _, kmpMatch_eq hp s, hkmp, hfinds.agrees⟩

theorem kmp_agrees_iff_text :
    (∃ r r', KmpLoops.kmpMatch [1, 1, 2, 1, 1, 3] [1, 1, 3] = some r ∧
      KmpNext.kmp (fun _ => 7) [1, 1, 2, 1, 1, 3] [1, 1, 3] = some r' ∧ Agrees r r') ↔
      ([1, 1, 3] : List UInt8).length ≤ 9 ∧ Counted [1, 1, 3] [1, 1, 2, 1, 1, 3] :=
  kmp_agrees_iff (by decide) [1, 1, 2, 1, 1, 3] (fun _ => 7)

/-- With ten bytes `Next` writes `next[10]`. -/
theorem not_kmp_agrees :
    ¬ ∃ r r', KmpLoops.kmpMatch [] [0, 1, 2, 3, 4, 5, 6, 7, 8, 9] = some r ∧
      KmpNext.kmp (fun _ => 0) [] [0, 1, 2, 3, 4, 5, 6, 7, 8, 9] = some r' ∧ Agrees r r' := by
  rintro ⟨r, r', -, hkmp, -⟩
  rw [kmp_none (by decide)] at hkmp
  cases hkmp

end SignalingServer
