import SignalingServer.Lib.LittleEndian

/-!
Numbers with the highest byte first, and the swap of the bytes of a number that a machine of
the other byte order makes before it writes the number down.
-/

namespace BigEndian

def encode (k n : Nat) : List UInt8 := (LittleEndian.encode k n).reverse

def decode (bs : List UInt8) : Nat := LittleEndian.decode bs.reverse

@[simp] theorem length_encode (k n : Nat) : (encode k n).length = k := by
  rw [encode, List.length_reverse, LittleEndian.length_encode]

theorem decode_encode (k n : Nat) : decode (encode k n) = n % 256 ^ k := by
  rw [decode, encode, List.reverse_reverse, LittleEndian.decode_encode]

theorem encode_add (j k n : Nat) : encode (j + k) n = encode k (n / 256 ^ j) ++ encode j n := by
  rw [encode, LittleEndian.encode_add, List.reverse_append, encode, encode]

theorem encode_mod (k n : Nat) : encode k (n % 256 ^ k) = encode k n := by
  rw [encode, LittleEndian.encode_mod, encode]

/-- The number whose bytes are those of `n` in the other order. -/
def swap (k n : Nat) : Nat := LittleEndian.decode (encode k n)

theorem swap_lt (k n : Nat) : swap k n < 256 ^ k := by
  have hlt := LittleEndian.decode_lt (encode k n)
  rw [length_encode] at hlt
  exact hlt

/-- Written with the lowest byte first, the swapped number is the number with its highest
byte first. -/
theorem encode_swap (k n : Nat) : LittleEndian.encode k (swap k n) = encode k n := by
  have hback := LittleEndian.encode_decode (encode k n)
  rw [length_encode] at hback
  exact hback

end BigEndian
