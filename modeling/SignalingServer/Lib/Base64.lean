import Mathlib.Algebra.Group.Nat.Defs
import Mathlib.Data.List.Basic

/-!
The standard base64 encoding. Three bytes are a number of 24 bits, which is written with four
characters for six bits each; a last group of one or two bytes is filled up with zeros, and
padding stands for the characters that hold nothing of it.
-/

namespace Base64

/-- The characters for the values from 0 to 63. -/
def alphabet : List UInt8 :=
  "ABCDEFGHIJKLMNOPQRSTUVWXYZabcdefghijklmnopqrstuvwxyz0123456789+/".toList.map Char.toUInt8

def digit (v : Nat) : UInt8 := alphabet.getD v 0

def pad : UInt8 := 61

def group (a b c : UInt8) : Nat := (a.toNat * 256 + b.toNat) * 256 + c.toNat

/-- The six bits at place `k` of a group, from the lowest ones on. -/
def sextet (a b c : UInt8) (k : Nat) : Nat := group a b c / 64 ^ k % 64

def encode : List UInt8 → List UInt8
  | [] => []
  | [a] => [digit (sextet a 0 0 3), digit (sextet a 0 0 2), pad, pad]
  | [a, b] => [digit (sextet a b 0 3), digit (sextet a b 0 2), digit (sextet a b 0 1), pad]
  | a :: b :: c :: bs =>
      digit (sextet a b c 3) :: digit (sextet a b c 2) :: digit (sextet a b c 1) ::
        digit (sextet a b c 0) :: encode bs

/-! ### Characters -/

theorem length_alphabet : alphabet.length = 64 := by decide

theorem sextet_lt (a b c : UInt8) (k : Nat) : sextet a b c k < 64 := Nat.mod_lt _ (by decide)

theorem digit_ne {v : Nat} (h : v < 64) : digit v ≠ 0 ∧ digit v ≠ pad := by
  have hall : ∀ v < 64, digit v ≠ 0 ∧ digit v ≠ pad := by decide +kernel
  exact hall v h

theorem getElem?_alphabet {v : Nat} (h : v < 64) : alphabet[v]? = some (digit v) := by
  rw [digit, List.getD_eq_getElem?_getD, List.getElem?_eq_getElem (by rwa [length_alphabet])]
  rfl

/-! ### Bits -/

theorem toNat_shiftRight (y : UInt8) {m : UInt8} (hm : m.toNat < 8) :
    (y >>> m).toNat = y.toNat / 2 ^ m.toNat := by
  rw [UInt8.toNat_shiftRight, Nat.mod_eq_of_lt hm, Nat.shiftRight_eq_div_pow]

/-- Bits shifted up, and others in the place that they leave. -/
theorem toNat_shiftLeft_or (x : UInt8) {y k : UInt8} (hk : k.toNat < 8)
    (h : y.toNat < 2 ^ k.toNat) :
    (x <<< k ||| y).toNat = x.toNat * 2 ^ k.toNat % 256 + y.toNat := by
  have hup : x.toNat * 2 ^ k.toNat % 2 ^ 8 = (x.toNat % 2 ^ (8 - k.toNat)) <<< k.toNat := by
    rw [Nat.shiftLeft_eq, ← Nat.mul_mod_mul_right, ← Nat.pow_add,
      Nat.sub_add_cancel (Nat.le_of_lt hk)]
  rw [UInt8.toNat_or, UInt8.toNat_shiftLeft, Nat.mod_eq_of_lt hk, Nat.shiftLeft_eq, hup,
    ← Nat.shiftLeft_add_eq_or_of_lt h, ← hup]
  rfl

section

variable (a b c : UInt8)

theorem sextet_eq :
    sextet a b c 3 = a.toNat / 4 ∧ sextet a b c 2 = a.toNat % 4 * 16 + b.toNat / 16 ∧
      sextet a b c 1 = b.toNat % 16 * 4 + c.toNat / 64 ∧ sextet a b c 0 = c.toNat % 64 := by
  have ha := a.toNat_lt
  have hb := b.toNat_lt
  have hc := c.toNat_lt
  unfold sextet group
  omega

theorem toNat_mask :
    (a &&& 3).toNat = a.toNat % 4 ∧ (a &&& 15).toNat = a.toNat % 16 ∧
      (a &&& 63).toNat = a.toNat % 64 :=
  ⟨Nat.and_two_pow_sub_one_eq_mod a.toNat 2, Nat.and_two_pow_sub_one_eq_mod a.toNat 4,
    Nat.and_two_pow_sub_one_eq_mod a.toNat 6⟩

/-- The sextets of a group by shifts. -/
theorem toNat_sextet :
    (a >>> 2).toNat = sextet a b c 3 ∧ ((a &&& 3) <<< 4 ||| b >>> 4).toNat = sextet a b c 2 ∧
      ((b &&& 15) <<< 2 ||| c >>> 6).toNat = sextet a b c 1 ∧
      (c &&& 63).toNat = sextet a b c 0 := by
  obtain ⟨h₃, h₂, h₁, h₀⟩ := sextet_eq a b c
  have hb : (b >>> 4).toNat = b.toNat / 16 := toNat_shiftRight b (by decide)
  have hc : (c >>> 6).toNat = c.toNat / 64 := toNat_shiftRight c (by decide)
  have hb' := b.toNat_lt
  have hc' := c.toNat_lt
  refine ⟨?_, ?_, ?_, ?_⟩
  · rw [h₃]
    exact toNat_shiftRight a (by decide)
  · have hlow : (b >>> 4).toNat < 2 ^ (4 : UInt8).toNat := by
      show _ < 16
      omega
    rw [toNat_shiftLeft_or (a &&& 3) (by decide) hlow, (toNat_mask a).1, hb, h₂]
    show a.toNat % 4 * 16 % 256 + b.toNat / 16 = _
    omega
  · have hlow : (c >>> 6).toNat < 2 ^ (2 : UInt8).toNat := by
      show _ < 4
      omega
    rw [toNat_shiftLeft_or (b &&& 15) (by decide) hlow, (toNat_mask b).2.1, hc, h₁]
    show b.toNat % 16 * 4 % 256 + c.toNat / 64 = _
    omega
  · rw [h₀, (toNat_mask c).2.2]

/-- The bytes of a group from its sextets. -/
theorem ofNat_sextet :
    UInt8.ofNat (sextet a b c 3) <<< 2 ||| UInt8.ofNat (sextet a b c 2) >>> 4 = a ∧
      UInt8.ofNat (sextet a b c 2) <<< 4 ||| UInt8.ofNat (sextet a b c 1) >>> 2 = b ∧
      UInt8.ofNat (sextet a b c 1) <<< 6 ||| UInt8.ofNat (sextet a b c 0) = c := by
  obtain ⟨h₃, h₂, h₁, h₀⟩ := sextet_eq a b c
  have ha := a.toNat_lt
  have hb := b.toNat_lt
  have hc := c.toNat_lt
  have hsmall : ∀ k, (UInt8.ofNat (sextet a b c k)).toNat = sextet a b c k := fun k =>
    UInt8.toNat_ofNat_of_lt' (Nat.lt_trans (sextet_lt a b c k) (by decide))
  have hdown₂ : (UInt8.ofNat (sextet a b c 2) >>> 4).toNat = sextet a b c 2 / 16 := by
    rw [toNat_shiftRight _ (by decide), hsmall]
    rfl
  have hdown₁ : (UInt8.ofNat (sextet a b c 1) >>> 2).toNat = sextet a b c 1 / 4 := by
    rw [toNat_shiftRight _ (by decide), hsmall]
    rfl
  refine ⟨UInt8.toNat_inj.mp ?_, UInt8.toNat_inj.mp ?_, UInt8.toNat_inj.mp ?_⟩
  · rw [toNat_shiftLeft_or _ (by decide), hsmall, hdown₂]
    · show sextet a b c 3 * 4 % 256 + sextet a b c 2 / 16 = _
      omega
    · rw [hdown₂]
      show sextet a b c 2 / 16 < 4
      omega
  · rw [toNat_shiftLeft_or _ (by decide), hsmall, hdown₁]
    · show sextet a b c 2 * 16 % 256 + sextet a b c 1 / 4 = _
      omega
    · rw [hdown₁]
      show sextet a b c 1 / 4 < 16
      omega
  · rw [toNat_shiftLeft_or _ (by decide), hsmall, hsmall]
    · show sextet a b c 1 * 64 % 256 + sextet a b c 0 = _
      omega
    · rw [hsmall]
      exact sextet_lt a b c 0

end

/-! ### Groups -/

theorem length_encode (bs : List UInt8) : (encode bs).length = (bs.length + 2) / 3 * 4 := by
  induction bs using encode.induct with
  | case1 => rfl
  | case2 a => simp [encode]
  | case3 a b => simp [encode]
  | case4 a b c bs ih =>
      simp only [encode, List.length_cons, ih]
      omega

/-- Whole groups are encoded by themselves. -/
theorem encode_append (full last : List UInt8) (h : full.length % 3 = 0) :
    encode (full ++ last) = encode full ++ encode last := by
  induction full using encode.induct with
  | case1 => rfl
  | case2 a => simp at h
  | case3 a b => simp at h
  | case4 a b c bs ih =>
      have hrest : bs.length % 3 = 0 := by
        simp only [List.length_cons] at h
        omega
      simp only [List.cons_append, encode, ih hrest]

example : encode [77, 97, 110, 77, 97] = [84, 87, 70, 117, 84, 87, 69, 61] := by decide

/-- Every byte string is whole groups and less than one group more. -/
theorem exists_groups (bs : List UInt8) :
    ∃ full last, bs = full ++ last ∧ full.length = bs.length / 3 * 3 ∧
      last.length = bs.length % 3 :=
  ⟨bs.take (bs.length / 3 * 3), bs.drop (bs.length / 3 * 3), (List.take_append_drop _ _).symm,
    by rw [List.length_take]; omega, by rw [List.length_drop]; omega⟩

/-- No character of an encoding is NUL. -/
theorem zero_notMem_encode (bs : List UInt8) : 0 ∉ encode bs := by
  have hdigit : ∀ (a b c : UInt8) (k : Nat), 0 ≠ digit (sextet a b c k) := fun a b c k =>
    (digit_ne (sextet_lt a b c k)).1.symm
  induction bs using encode.induct with
  | case1 => exact List.not_mem_nil
  | case2 a => simp [encode, hdigit, pad]
  | case3 a b => simp [encode, hdigit, pad]
  | case4 a b c bs ih => simp [encode, hdigit, ih]

end Base64
