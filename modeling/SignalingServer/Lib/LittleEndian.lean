import Mathlib.Algebra.Group.Nat.Defs
import Mathlib.Data.List.Basic

/-!
Numbers in memory with the lowest byte first.
-/

namespace LittleEndian

/-- The lowest `k` bytes of a number. -/
def encode : Nat → Nat → List UInt8
  | 0, _ => []
  | k + 1, n => UInt8.ofNat n :: encode k (n / 256)

def decode : List UInt8 → Nat
  | [] => 0
  | b :: bs => b.toNat + 256 * decode bs

@[simp] theorem length_encode (k n : Nat) : (encode k n).length = k := by
  induction k generalizing n with
  | zero => rfl
  | succ k ih => rw [encode, List.length_cons, ih]

/-- What is read back is the number, as far as it fits. -/
theorem decode_encode (k n : Nat) : decode (encode k n) = n % 256 ^ k := by
  induction k generalizing n with
  | zero => rw [encode, decode, Nat.pow_zero, Nat.mod_one]
  | succ k ih =>
      rw [encode, decode, ih, UInt8.toNat_ofNat', Nat.pow_succ' (m := 256)]
      exact Nat.mod_mul.symm

theorem decode_encode_of_lt {k n : Nat} (h : n < 256 ^ k) : decode (encode k n) = n := by
  rw [decode_encode, Nat.mod_eq_of_lt h]

theorem decode_lt (bs : List UInt8) : decode bs < 256 ^ bs.length := by
  induction bs with
  | nil => exact Nat.one_pos
  | cons b bs ih =>
      have hb := b.toNat_lt
      rw [decode, List.length_cons, Nat.pow_succ]
      omega

/-- The number in at most `k` bytes. -/
theorem decode_take_lt (k : Nat) (bs : List UInt8) : decode (bs.take k) < 256 ^ k :=
  Nat.lt_of_lt_of_le (decode_lt _) (Nat.pow_le_pow_right (by decide) (List.length_take_le k bs))

/-- Bytes beyond the lowest `k` do not count. -/
theorem encode_mod (k n : Nat) : encode k (n % 256 ^ k) = encode k n := by
  induction k generalizing n with
  | zero => rfl
  | succ k ih =>
      rw [encode, encode, ← ih (n / 256), Nat.pow_succ', Nat.mod_mul_right_div_self]
      congr 1
      apply UInt8.toNat_inj.mp
      rw [UInt8.toNat_ofNat', UInt8.toNat_ofNat']
      exact Nat.mod_mod_of_dvd n (Nat.dvd_mul_right 256 (256 ^ k))

theorem encode_add (j k n : Nat) : encode (j + k) n = encode j n ++ encode k (n / 256 ^ j) := by
  induction j generalizing n with
  | zero => rw [Nat.zero_add, Nat.pow_zero, Nat.div_one, encode, List.nil_append]
  | succ j ih =>
      rw [Nat.add_right_comm, encode, encode, ih, Nat.div_div_eq_div_mul, ← Nat.pow_succ',
        List.cons_append]

/-- A number in `j` bytes with another one above it. -/
theorem encode_join {j k lo hi : Nat} (hlo : lo < 256 ^ j) :
    encode (j + k) (lo + 256 ^ j * hi) = encode j lo ++ encode k hi := by
  rw [encode_add, ← encode_mod j, Nat.add_mul_mod_self_left, encode_mod,
    Nat.add_mul_div_left _ _ (Nat.pow_pos (by decide)), Nat.div_eq_of_lt hlo, Nat.zero_add]

theorem encode_decode (bs : List UInt8) : encode bs.length (decode bs) = bs := by
  induction bs with
  | nil => rfl
  | cons b bs ih =>
      have hb := b.toNat_lt
      have hlow : UInt8.ofNat (b.toNat + 256 * decode bs) = b := by
        apply UInt8.toNat_inj.mp
        rw [UInt8.toNat_ofNat']
        omega
      rw [List.length_cons, encode, decode, hlow,
        show (b.toNat + 256 * decode bs) / 256 = decode bs by omega, ih]

end LittleEndian
