import Mathlib.Data.List.Induction
import Mathlib.Data.List.TakeWhile
import Mathlib.Tactic.Ring

/-!
Decimal digit strings. Parsing follows the C library: white space, then a sign,
then the longest run of digits. A digit string without leading zero is the
`toDigits` of its value, so a long enough number can only be written one way.
-/

namespace Decimal

/-- `isspace` of the C locale. -/
def isSpace (c : Char) : Bool := c = ' ' || ('\t' ≤ c && c ≤ '\r')

/-- The sign in front of the digits; `true` is a minus. -/
def splitSign : List Char → Bool × List Char
  | '-' :: cs => (true, cs)
  | '+' :: cs => (false, cs)
  | cs => (false, cs)

/-- The sign and the magnitude that the `strto` family reads in base 10, or
`none` when there is no digit to read. -/
def parse (cs : List Char) : Option (Bool × Nat) :=
  let (neg, cs) := splitSign (cs.dropWhile isSpace)
  let ds := cs.takeWhile Char.isDigit
  if ds = [] then none else some (neg, Nat.ofDigitChars 10 ds 0)

/-! ### Values of digit strings -/

theorem toString_inj {n n' : Nat} (h : toString n = toString n') : n = n' := by
  have hdigits : Nat.toDigits 10 n = Nat.toDigits 10 n' := by
    rw [← Nat.toList_repr, ← Nat.toList_repr, ← Nat.toString_eq_repr, ← Nat.toString_eq_repr, h]
  rw [← Nat.ofDigitChars_ten_toDigits (n := n), hdigits, Nat.ofDigitChars_ten_toDigits]

theorem ofDigitChars_concat (ds : List Char) (c : Char) :
    Nat.ofDigitChars 10 (ds ++ [c]) 0 =
      10 * Nat.ofDigitChars 10 ds 0 + (c.toNat - '0'.toNat) := by
  rw [Nat.ofDigitChars_append, Nat.ofDigitChars_cons, Nat.ofDigitChars_nil]

theorem digit_bounds {c : Char} (hc : c.isDigit) : 48 ≤ c.toNat ∧ c.toNat ≤ 57 := by
  simp only [Char.isDigit, Bool.and_eq_true, decide_eq_true_eq] at hc
  exact ⟨UInt32.le_iff_toNat_le.mp hc.1, UInt32.le_iff_toNat_le.mp hc.2⟩

theorem digit_lt_ten {c : Char} (hc : c.isDigit) : c.toNat - '0'.toNat < 10 := by
  have hb := digit_bounds hc
  have hz : '0'.toNat = 48 := rfl
  omega

theorem digitChar_sub {c : Char} (hc : c.isDigit) : (c.toNat - '0'.toNat).digitChar = c := by
  have hb := digit_bounds hc
  have hz : '0'.toNat = 48 := rfl
  have hlt : c.toNat - '0'.toNat < 10 := digit_lt_ten hc
  apply Char.toNat_inj.mp
  rw [Nat.toNat_digitChar_of_lt_ten hlt]
  omega

theorem ofDigitChars_lt {ds : List Char} (hds : ∀ c ∈ ds, c.isDigit) :
    Nat.ofDigitChars 10 ds 0 < 10 ^ ds.length := by
  induction ds using List.reverseRecOn with
  | nil => simp
  | append_singleton ds c ih =>
      have hlt := ih fun d hd => hds d (List.mem_append_left _ hd)
      have hc := digit_lt_ten (hds c (List.mem_append_right _ (List.mem_singleton_self c)))
      rw [ofDigitChars_concat, List.length_append, List.length_singleton, pow_succ]
      omega

/-- A digit string without leading zero is the `toDigits` of its value. -/
theorem toDigits_ofDigitChars {ds : List Char} (hds : ∀ c ∈ ds, c.isDigit) (hne : ds ≠ [])
    (hlarge : 10 ^ (ds.length - 1) ≤ Nat.ofDigitChars 10 ds 0) :
    Nat.toDigits 10 (Nat.ofDigitChars 10 ds 0) = ds := by
  induction ds using List.reverseRecOn with
  | nil => exact absurd rfl hne
  | append_singleton ds c ih =>
      have hinit : ∀ d ∈ ds, d.isDigit := fun d hd => hds d (List.mem_append_left _ hd)
      have hc : c.isDigit := hds c (List.mem_append_right _ (List.mem_singleton_self c))
      have hlt := digit_lt_ten hc
      rw [ofDigitChars_concat] at hlarge ⊢
      by_cases hnil : ds = []
      · subst hnil
        have hval : 10 * Nat.ofDigitChars 10 [] 0 + (c.toNat - '0'.toNat) =
            c.toNat - '0'.toNat := by simp
        rw [hval, Nat.toDigits_of_lt_base hlt, digitChar_sub hc]
        rfl
      · have hpos : 0 < ds.length := List.length_pos_iff.mpr hnil
        have hpow : 10 ^ ds.length = 10 * 10 ^ (ds.length - 1) := by
          rw [← pow_succ']
          congr 1
          omega
        rw [List.length_append, List.length_singleton, Nat.add_sub_cancel, hpow] at hlarge
        have hval : 10 ^ (ds.length - 1) ≤ Nat.ofDigitChars 10 ds 0 := by omega
        have hone : 1 ≤ 10 ^ (ds.length - 1) := Nat.one_le_pow _ _ (by decide)
        rw [Nat.toDigits_of_base_le (by decide) (by omega)]
        have hdiv : (10 * Nat.ofDigitChars 10 ds 0 + (c.toNat - '0'.toNat)) / 10 =
            Nat.ofDigitChars 10 ds 0 := by omega
        have hmod : (10 * Nat.ofDigitChars 10 ds 0 + (c.toNat - '0'.toNat)) % 10 =
            c.toNat - '0'.toNat := by omega
        rw [hdiv, hmod, ih hinit hnil hval, digitChar_sub hc]

/-- The number of digits. -/
theorem length_toDigits {n k : Nat} (hlow : 10 ^ k ≤ n) (hhigh : n < 10 ^ (k + 1)) :
    (Nat.toDigits 10 n).length = k + 1 := by
  have hle := (Nat.length_toDigits_le_iff (b := 10) (by decide) k.succ_pos).mpr hhigh
  have hge : k < (Nat.toDigits 10 n).length := by
    by_contra hlt
    rcases Nat.eq_zero_or_pos k with rfl | hk
    · exact hlt Nat.length_toDigits_pos
    · have hsmall : n < 10 ^ k :=
        (Nat.length_toDigits_le_iff (b := 10) (by decide) hk).mp (Nat.le_of_not_lt hlt)
      omega
  omega

/-- The leading digits of a number are the digits of its quotient. -/
theorem toDigits_eq_append {n k : Nat} (hk : 10 ^ k ≤ n) :
    ∃ ds, ds.length = k ∧ Nat.toDigits 10 n = Nat.toDigits 10 (n / 10 ^ k) ++ ds := by
  induction k generalizing n with
  | zero => exact ⟨[], rfl, by simp⟩
  | succ k ih =>
      have hpow : 10 ^ (k + 1) = 10 ^ k * 10 := pow_succ 10 k
      have hone : 1 ≤ 10 ^ k := Nat.one_le_pow _ _ (by decide)
      have hdiv : 10 ^ k ≤ n / 10 := by
        rw [Nat.le_div_iff_mul_le (by decide), ← hpow]
        exact hk
      obtain ⟨ds, hlen, heq⟩ := ih hdiv
      refine ⟨ds ++ [(n % 10).digitChar], by simp [hlen], ?_⟩
      rw [Nat.toDigits_of_base_le (by decide) (by omega), heq, Nat.div_div_eq_div_mul,
        List.append_assoc, hpow, Nat.mul_comm 10]

/-! ### Leading zeros -/

theorem ofDigitChars_leftpad (w n : Nat) :
    Nat.ofDigitChars 10 ((Nat.toDigits 10 n).leftpad w '0') 0 = n := by
  rw [List.leftpad, Nat.ofDigitChars_append, Nat.ofDigitChars_replicate_zero, Nat.mul_zero,
    Nat.ofDigitChars_ten_toDigits]

theorem leftpad_inj {w n n' : Nat}
    (h : (Nat.toDigits 10 n).leftpad w '0' = (Nat.toDigits 10 n').leftpad w '0') : n = n' := by
  calc
    n = Nat.ofDigitChars 10 ((Nat.toDigits 10 n).leftpad w '0') 0 :=
      (ofDigitChars_leftpad w n).symm
    _ = Nat.ofDigitChars 10 ((Nat.toDigits 10 n').leftpad w '0') 0 := by rw [h]
    _ = n' := ofDigitChars_leftpad w n'

/-- A number of at most `w` digits fills the width. -/
theorem length_leftpad {w n : Nat} (hw : 0 < w) (hn : n < 10 ^ w) :
    ((Nat.toDigits 10 n).leftpad w '0').length = w := by
  rw [List.length_leftpad]
  exact Nat.max_eq_left ((Nat.length_toDigits_le_iff (by decide) hw).mpr hn)

/-! ### Parsing -/

theorem not_isSpace_of_isDigit {c : Char} (hc : c.isDigit) : isSpace c = false := by
  have hb := digit_bounds hc
  simp only [isSpace, Bool.or_eq_false_iff, decide_eq_false_iff_not, Bool.and_eq_false_iff]
  refine ⟨?_, .inr ?_⟩
  · rintro rfl
    exact absurd hb.1 (by decide)
  · intro hle
    have hnat : c.toNat ≤ '\r'.toNat := UInt32.le_iff_toNat_le.mp hle
    have hcr : '\r'.toNat = 13 := rfl
    omega

theorem splitSign_of_isDigit {c : Char} (hc : c.isDigit) (cs : List Char) :
    splitSign (c :: cs) = (false, c :: cs) := by
  unfold splitSign
  split
  · rename_i heq
    cases heq
    exact absurd hc (by decide)
  · rename_i heq
    cases heq
    exact absurd hc (by decide)
  · rfl

/-- A digit string parses to its value. -/
theorem parse_digits {ds : List Char} (hds : ∀ c ∈ ds, c.isDigit) (hne : ds ≠ []) :
    parse ds = some (false, Nat.ofDigitChars 10 ds 0) := by
  cases ds with
  | nil => exact absurd rfl hne
  | cons c cs =>
      have hc : c.isDigit := hds c List.mem_cons_self
      have hdrop : (c :: cs).dropWhile isSpace = c :: cs := by
        rw [List.dropWhile_cons_of_neg (by simp [not_isSpace_of_isDigit hc])]
      have htake : (c :: cs).takeWhile Char.isDigit = c :: cs :=
        List.takeWhile_eq_self_iff.mpr hds
      simp only [parse, hdrop, splitSign_of_isDigit hc, htake]
      simp

theorem parse_toDigits (n : Nat) : parse (Nat.toDigits 10 n) = some (false, n) := by
  have hdigits : ∀ c ∈ Nat.toDigits 10 n, c.isDigit :=
    fun c hc => Nat.isDigit_of_mem_toDigits (by decide) (by decide) hc
  rw [parse_digits hdigits Nat.toDigits_ne_nil, Nat.ofDigitChars_ten_toDigits]

theorem splitSign_suffix (cs : List Char) : (splitSign cs).2 <:+ cs := by
  unfold splitSign
  split
  · exact List.suffix_cons _ _
  · exact List.suffix_cons _ _
  · exact List.suffix_refl _

theorem length_splitSign_minus {cs : List Char} (h : (splitSign cs).1 = true) :
    (splitSign cs).2.length + 1 = cs.length := by
  unfold splitSign at h ⊢
  split at h
  · rfl
  · cases h
  · cases h

/-- A minus leaves one character less for the digits. -/
theorem lt_of_parse_minus {cs : List Char} {n : Nat} (hparse : parse cs = some (true, n)) :
    n < 10 ^ (cs.length - 1) := by
  simp only [parse] at hparse
  split at hparse
  · cases hparse
  · simp only [Option.some.injEq, Prod.mk.injEq] at hparse
    obtain ⟨hneg, hval⟩ := hparse
    have hlen := length_splitSign_minus hneg
    have hdrop : (cs.dropWhile isSpace).length ≤ cs.length :=
      (List.dropWhile_suffix _).length_le
    have htake : ((splitSign (cs.dropWhile isSpace)).2.takeWhile Char.isDigit).length ≤
        (splitSign (cs.dropWhile isSpace)).2.length := (List.takeWhile_prefix _).length_le
    have hlt : n < 10 ^ ((splitSign (cs.dropWhile isSpace)).2.takeWhile Char.isDigit).length := by
      rw [← hval]
      exact ofDigitChars_lt fun c hc => List.mem_takeWhile_imp hc
    exact lt_of_lt_of_le hlt (Nat.pow_le_pow_right (by decide) (by omega))

/-- A parsed magnitude with as many digits as the string is long was written
with nothing but its digits. -/
theorem eq_toDigits_of_parse {cs : List Char} {neg : Bool} {n : Nat}
    (hparse : parse cs = some (neg, n)) (hlarge : 10 ^ (cs.length - 1) ≤ n) :
    cs = Nat.toDigits 10 n := by
  simp only [parse] at hparse
  split at hparse
  · cases hparse
  · rename_i hne
    simp only [Option.some.injEq, Prod.mk.injEq] at hparse
    obtain ⟨-, hval⟩ := hparse
    have hdrop : cs.dropWhile isSpace <:+ cs := List.dropWhile_suffix _
    have hsign : (splitSign (cs.dropWhile isSpace)).2 <:+ cs :=
      (splitSign_suffix _).trans hdrop
    have htake : (splitSign (cs.dropWhile isSpace)).2.takeWhile Char.isDigit <+:
        (splitSign (cs.dropWhile isSpace)).2 := List.takeWhile_prefix _
    have hdigits : ∀ c ∈ (splitSign (cs.dropWhile isSpace)).2.takeWhile Char.isDigit,
        c.isDigit := fun c hc => List.mem_takeWhile_imp hc
    have hlt := ofDigitChars_lt hdigits
    rw [hval] at hlt
    have hexp := (Nat.pow_lt_pow_iff_right (by decide : 1 < 10)).mp
      (lt_of_le_of_lt hlarge hlt)
    have hle₁ := htake.length_le
    have hle₂ := hsign.length_le
    have hpos : 0 < ((splitSign (cs.dropWhile isSpace)).2.takeWhile Char.isDigit).length :=
      List.length_pos_iff.mpr hne
    -- No character is left over for white space, a sign or a rest.
    have heq₁ := htake.eq_of_length (by omega)
    have heq₂ := hsign.eq_of_length (by omega)
    rw [heq₁, heq₂] at hval hdigits hne
    rw [← hval] at hlarge ⊢
    exact (toDigits_ofDigitChars hdigits hne hlarge).symm

end Decimal
