import SignalingServer.Lib.Base64

/-!
`tools/base64.cpp`. Every access to an array is checked, and so is the arithmetic of the `int`
indices of `base64_decode`, which run over texts with lengths of type `long`.
-/

namespace SignalingServer

/-! ### The functions -/

/-- `p[i] = b`; `none` outside of the array. -/
def storeAt (p : List UInt8) (i : Nat) (b : UInt8) : Option (List UInt8) :=
  if i < p.length then some (p.set i b) else none

def base64Map : List UInt8 :=
  "ABCDEFGHIJKLMNOPQRSTUVWXYZabcdefghijklmnopqrstuvwxyz0123456789+/".toList.map Char.toUInt8

/-- `base64_map[v]`. -/
def mapAt (v : UInt8) : Option UInt8 := base64Map[v.toNat]?

/-- `sizeof(dst)`: a parameter that is declared as an array is a pointer. -/
def sizeofDst : Nat := 8

/-- The loop over the groups of three bytes; `none` also where it has not ended after `fuel`
rounds. -/
def encodeLoop (str : List UInt8) (stop : Nat) : Nat → Nat → Nat → List UInt8 → Option (List UInt8)
  | 0, _, _, _ => none
  | fuel + 1, i, j, res =>
      if j < stop then do
        let x ← str[j]?
        let y ← str[j + 1]?
        let z ← str[j + 2]?
        let res ← storeAt res i (← mapAt (x >>> 2))
        let res ← storeAt res (i + 1) (← mapAt ((x &&& 0x3) <<< 4 ||| y >>> 4))
        let res ← storeAt res (i + 2) (← mapAt ((y &&& 0xf) <<< 2 ||| z >>> 6))
        let res ← storeAt res (i + 3) (← mapAt (z &&& 0x3f))
        encodeLoop str stop fuel (i + 4) (j + 3) res
      else some res

/-- `switch(flag)` of `base64_encode`. -/
def encodeLast (str : List UInt8) (flag len : Nat) (res : List UInt8) : Option (List UInt8) :=
  match flag with
  | 1 => do
      let x ← str[str.length - 1]?
      let res ← storeAt res (len - 4) (← mapAt (x >>> 2))
      let res ← storeAt res (len - 3) (← mapAt ((x &&& 0x3) <<< 4))
      let res ← storeAt res (len - 1) 0x3d
      storeAt res (len - 2) 0x3d
  | 2 => do
      let x ← str[str.length - 2]?
      let y ← str[str.length - 1]?
      let res ← storeAt res (len - 4) (← mapAt (x >>> 2))
      let res ← storeAt res (len - 3) (← mapAt ((x &&& 0x3) <<< 4 ||| y >>> 4))
      let res ← storeAt res (len - 2) (← mapAt ((y &&& 0xf) <<< 2))
      storeAt res (len - 1) 0x3d
  | _ => some res

/-- `base64_encode`: what it returns and the destination then. `len + 1` is a `long` that is
returned as an `int`. -/
def base64Encode (dst src : List UInt8) : Option (Int × List UInt8) :=
  let strLen := src.length
  let flag := strLen % 3
  let len := if flag = 0 then strLen / 3 * 4 else (strLen / 3 + 1) * 4
  if sizeofDst > len + 1 then do
    let res ← encodeLoop src (strLen - flag) (strLen + 1) 0 0 dst
    let res ← encodeLast src flag len res
    let res ← storeAt res len 0
    return (0, res)
  else some (((len + 1 : Nat) : Int).bmod (2 ^ 32), dst)

/-- `findPos`, where the map ends with its length. -/
def findPos (map : List UInt8) (c : UInt8) : UInt8 :=
  match map.findIdx? (· == c) with
  | some i => UInt8.ofNat i
  | none => 0

/-- `code[i]` with a `long` index. -/
def byteAt (code : List UInt8) (i : Int) : Option UInt8 :=
  if 0 ≤ i then code[i.toNat]? else none

/-- `x += k` for an `int`. -/
def addInt (x k : Nat) : Option Nat := if x + k < 2 ^ 31 then some (x + k) else none

/-- The loop over the groups of four characters. -/
def decodeLoop (code : List UInt8) (stop : Int) : Nat → Nat → Nat → List UInt8 →
    Option (List UInt8)
  | 0, _, _, _ => none
  | fuel + 1, i, j, res =>
      if (j : Int) < stop then do
        let a₀ := findPos base64Map (← code[i]?)
        let a₁ := findPos base64Map (← code[i + 1]?)
        let a₂ := findPos base64Map (← code[i + 2]?)
        let a₃ := findPos base64Map (← code[i + 3]?)
        let res ← storeAt res j (a₀ <<< 2 ||| a₁ >>> 4)
        let res ← storeAt res (j + 1) (a₁ <<< 4 ||| a₂ >>> 2)
        let res ← storeAt res (j + 2) (a₂ <<< 6 ||| a₃)
        decodeLoop code stop fuel (← addInt i 4) (← addInt j 3) res
      else some res

/-- `flag` and `str_len` of `base64_decode`. -/
def padding (code : List UInt8) (len : Int) : Option (Nat × Int) := do
  if (← byteAt code (len - 1)) = 0x3d then
    if (← byteAt code (len - 2)) = 0x3d then return (1, len / 4 * 3 - 2)
    else return (2, len / 4 * 3 - 1)
  else return (0, len / 4 * 3)

/-- `res[i] = b` with a `long` index. -/
def storeByte (p : List UInt8) (i : Int) (b : UInt8) : Option (List UInt8) :=
  if 0 ≤ i then storeAt p i.toNat b else none

/-- `switch(flag)` of `base64_decode`. -/
def decodeLast (code : List UInt8) (len : Int) (flag : Nat) (strLen : Int) (res : List UInt8) :
    Option (List UInt8) :=
  match flag with
  | 1 => do
      let a₀ := findPos base64Map (← byteAt code (len - 4))
      let a₁ := findPos base64Map (← byteAt code (len - 3))
      storeByte res (strLen - 1) (a₀ <<< 2 ||| a₁ >>> 4)
  | 2 => do
      let a₀ := findPos base64Map (← byteAt code (len - 4))
      let a₁ := findPos base64Map (← byteAt code (len - 3))
      let a₂ := findPos base64Map (← byteAt code (len - 2))
      let res ← storeByte res (strLen - 2) (a₀ <<< 2 ||| a₁ >>> 4)
      storeByte res (strLen - 1) (a₁ <<< 4 ||| a₂ >>> 2)
  | _ => some res

/-- `base64_decode` of a text with a NUL behind it: the buffer that it returns. `heap` is what
`malloc` leaves in the buffer; a negative size is one that it cannot give. -/
def base64Decode (heap : Nat → UInt8) (code : List UInt8) : Option (List UInt8) := do
  let len : Int := code.findIdx (· == 0)
  let (flag, strLen) ← padding code len
  if strLen + 1 < 0 then none
  else
    let res := (List.range (strLen + 1).toNat).map heap
    let res ← decodeLoop code (strLen - flag) (code.length + 1) 0 0 res
    let res ← decodeLast code len flag strLen res
    storeByte res strLen 0

open Base64

/-! ### Arrays -/

theorem getElem?_behind {α : Type} (pre t : List α) (k : Nat) :
    (pre ++ t)[pre.length + k]? = t[k]? := by
  rw [List.getElem?_append_right (Nat.le_add_right _ _), Nat.add_sub_cancel_left]

theorem storeAt_behind (pre t : List UInt8) (k : Nat) (b : UInt8) :
    storeAt (pre ++ t) (pre.length + k) b = (storeAt t k b).map (pre ++ ·) := by
  unfold storeAt
  rw [List.length_append, List.set_append_right _ _ (Nat.le_add_right _ _), Nat.add_sub_cancel_left]
  simp only [Nat.add_lt_add_iff_left]
  split
  · rfl
  · rfl

/-- The first element behind `pre`. -/
theorem getElem?_front {α : Type} (pre t : List α) : (pre ++ t)[pre.length]? = t[0]? :=
  getElem?_behind pre t 0

theorem storeAt_front (pre t : List UInt8) (b : UInt8) :
    storeAt (pre ++ t) pre.length b = (storeAt t 0 b).map (pre ++ ·) :=
  storeAt_behind pre t 0 b

@[simp] theorem storeAt_zero (x b : UInt8) (t : List UInt8) :
    storeAt (x :: t) 0 b = some (b :: t) := if_pos (Nat.succ_pos _)

@[simp] theorem storeAt_succ (x b : UInt8) (t : List UInt8) (k : Nat) :
    storeAt (x :: t) (k + 1) b = (storeAt t k b).map (x :: ·) :=
  storeAt_behind [x] t k b ▸ congrArg (storeAt (x :: t) · b) (Nat.add_comm k 1)

theorem exists_four {buf : List UInt8} {n : Nat} (h : n + 4 ≤ buf.length) :
    ∃ w x y z buf', buf = w :: x :: y :: z :: buf' ∧ n ≤ buf'.length := by
  match buf, h with
  | w :: x :: y :: z :: buf', h =>
      exact ⟨w, x, y, z, buf', rfl, by simpa using h⟩

/-! ### Encoding -/

theorem mapAt_eq {v : UInt8} {n : Nat} (hv : v.toNat = n) (hn : n < 64) :
    mapAt v = some (digit n) := by
  rw [mapAt, hv]
  exact getElem?_alphabet hn

/-- The characters of a group. -/
theorem mapAt_sextet (a b c : UInt8) :
    mapAt (a >>> 2) = some (digit (sextet a b c 3)) ∧
      mapAt ((a &&& 0x3) <<< 4 ||| b >>> 4) = some (digit (sextet a b c 2)) ∧
      mapAt ((b &&& 0xf) <<< 2 ||| c >>> 6) = some (digit (sextet a b c 1)) ∧
      mapAt (c &&& 0x3f) = some (digit (sextet a b c 0)) := by
  obtain ⟨h₃, h₂, h₁, h₀⟩ := toNat_sextet a b c
  exact ⟨mapAt_eq h₃ (sextet_lt a b c 3), mapAt_eq h₂ (sextet_lt a b c 2),
    mapAt_eq h₁ (sextet_lt a b c 1), mapAt_eq h₀ (sextet_lt a b c 0)⟩

/-- The loop encodes the whole groups behind `pre` into the buffer behind `out`. -/
theorem encodeLoop_eq (full last : List UInt8) (pre out buf : List UInt8) (fuel : Nat)
    (hfull : full.length % 3 = 0) (hroom : (encode full).length ≤ buf.length)
    (hfuel : full.length < fuel) :
    encodeLoop (pre ++ (full ++ last)) (pre.length + full.length) fuel out.length pre.length
        (out ++ buf) = some (out ++ encode full ++ buf.drop (encode full).length) := by
  induction full using encode.induct generalizing pre out buf fuel with
  | case1 =>
      obtain ⟨fuel, rfl⟩ := Nat.exists_eq_add_one_of_ne_zero (Nat.ne_zero_of_lt hfuel)
      rw [encodeLoop, List.length_nil, Nat.add_zero, if_neg (Nat.lt_irrefl _)]
      simp [encode]
  | case2 a => simp at hfull
  | case3 a b => simp at hfull
  | case4 a b c bs ih =>
      obtain ⟨fuel, rfl⟩ := Nat.exists_eq_add_one_of_ne_zero (Nat.ne_zero_of_lt hfuel)
      have hlen : (a :: b :: c :: bs).length = bs.length + 3 := rfl
      have hlen' : (encode (a :: b :: c :: bs)).length = (encode bs).length + 4 := rfl
      obtain ⟨w, x, y, z, buf', rfl, hroom'⟩ := exists_four (n := (encode bs).length) hroom
      obtain ⟨h₃, h₂, h₁, h₀⟩ := mapAt_sextet a b c
      have hnext := ih (pre ++ [a, b, c])
        (out ++ [digit (sextet a b c 3), digit (sextet a b c 2), digit (sextet a b c 1),
          digit (sextet a b c 0)]) buf' fuel (by omega) hroom' (by omega)
      rw [encodeLoop, if_pos (by omega)]
      simp only [List.cons_append, getElem?_behind, getElem?_front, storeAt_behind, storeAt_front,
        List.getElem?_cons_zero, List.getElem?_cons_succ, Option.bind_eq_bind, Option.bind_some,
        storeAt_zero, storeAt_succ, Option.map_some, h₃, h₂, h₁, h₀]
      simpa [encode, Nat.add_assoc, Nat.add_comm, Nat.add_left_comm] using hnext

theorem encodeLast_eq (full last out buf : List UInt8) (hlast : last.length < 3)
    (hroom : (encode last).length ≤ buf.length) :
    encodeLast (full ++ last) last.length (out.length + (encode last).length) (out ++ buf) =
      some (out ++ encode last ++ buf.drop (encode last).length) := by
  match last, hlast with
  | [], _ => simp [encodeLast, encode]
  | [a], _ =>
      obtain ⟨w, x, y, z, buf', rfl, -⟩ := exists_four (n := 0) hroom
      obtain ⟨h₃, h₂, -, -⟩ := mapAt_sextet a 0 0
      have h₂' : mapAt ((a &&& 0x3) <<< 4) = some (digit (sextet a 0 0 2)) := by simpa using h₂
      simp [encodeLast, encode, storeAt_behind, storeAt_front, h₃, h₂', pad]
  | [a, b], _ =>
      obtain ⟨w, x, y, z, buf', rfl, -⟩ := exists_four (n := 0) hroom
      obtain ⟨h₃, h₂, h₁, -⟩ := mapAt_sextet a b 0
      have h₁' : mapAt ((b &&& 0xf) <<< 2) = some (digit (sextet a b 0 1)) := by simpa using h₁
      simp [encodeLast, encode, storeAt_behind, storeAt_front, h₃, h₂, h₁', pad]

/-- `base64_encode` encodes what its test lets through. -/
theorem base64Encode_eq {dst src : List UInt8} (hroom : (encode src).length < dst.length) :
    base64Encode dst src =
      if (encode src).length + 1 < sizeofDst then
        some (0, encode src ++ 0 :: dst.drop ((encode src).length + 1))
      else some ((((encode src).length + 1 : Nat) : Int).bmod (2 ^ 32), dst) := by
  have hlen : (if src.length % 3 = 0 then src.length / 3 * 4 else (src.length / 3 + 1) * 4) =
      (encode src).length := by
    rw [length_encode]
    split
    · omega
    · omega
  unfold base64Encode
  dsimp only
  rw [hlen]
  split
  · obtain ⟨full, last, rfl, hfull, hlast⟩ := exists_groups src
    have hthree : full.length % 3 = 0 := by rw [hfull, Nat.mul_mod_left]
    have hstop : (full ++ last).length - (full ++ last).length % 3 = 0 + full.length := by
      rw [Nat.zero_add, List.length_append] at *
      omega
    have henc := encode_append full last hthree
    rw [henc, List.length_append] at hroom
    have hloop := encodeLoop_eq full last [] [] dst ((full ++ last).length + 1) hthree
      (by omega) (by rw [List.length_append]; omega)
    have hswitch := encodeLast_eq full last (encode full) (dst.drop (encode full).length)
      (by omega) (by rw [List.length_drop]; omega)
    have hdrop : (dst.drop (encode full).length).drop (encode last).length =
        dst.drop (encode (full ++ last)).length := by
      rw [List.drop_drop, henc, List.length_append]
    rw [hlast, ← List.length_append, ← henc, hdrop] at hswitch
    obtain ⟨x, hx⟩ : ∃ x, dst.drop (encode (full ++ last)).length =
        x :: dst.drop ((encode (full ++ last)).length + 1) := by
      rw [henc, List.length_append]
      exact ⟨_, List.drop_eq_getElem_cons hroom⟩
    rw [hstop]
    have hloop' : encodeLoop (full ++ last) (0 + full.length) ((full ++ last).length + 1) 0 0 dst =
        some (encode full ++ dst.drop (encode full).length) := hloop
    rw [hloop']
    simp only [Option.bind_eq_bind, Option.bind_some, hswitch, hx, storeAt_front, storeAt_zero,
      Option.map_some]
    rfl
  · rfl

example : base64Encode [9, 9, 9, 9, 9, 9] [77, 97] = some (0, [84, 87, 69, 61, 0, 9]) := by decide

/-- `base64_encode` returns 0 and writes the standard encoding, with a NUL behind it, exactly for
at most three bytes. -/
theorem base64Encode_encodes_iff (dst src : List UInt8)
    (hroom : (encode src).length + 1 ≤ dst.length) :
    base64Encode dst src =
        some (0, encode src ++ 0 :: dst.drop ((encode src).length + 1)) ↔ src.length ≤ 3 := by
  have hlen := length_encode src
  rw [base64Encode_eq hroom]
  split
  · rename_i hsmall
    unfold sizeofDst at hsmall
    exact iff_of_true rfl (by omega)
  · rename_i hlarge
    unfold sizeofDst at hlarge
    refine iff_of_false (fun heq => ?_) (by omega)
    -- the length is a multiple of 4, so that `len + 1` is odd
    have hzero := (Prod.mk.inj (Option.some.inj heq)).1
    have hdvd := Int.dvd_of_bmod_eq_zero hzero
    omega

theorem base64Encode_encodes_iff_text :
    base64Encode (List.replicate 6 9) [77, 97] =
        some (0, encode [77, 97] ++ 0 :: (List.replicate 6 9).drop ((encode [77, 97]).length + 1)) ↔
      ([77, 97] : List UInt8).length ≤ 3 :=
  base64Encode_encodes_iff (List.replicate 6 9) [77, 97] (by decide)

/-- Four bytes are not encoded. -/
theorem not_base64Encode_encodes :
    base64Encode (List.replicate 20 9) [77, 97, 110, 77] ≠
      some (0, encode [77, 97, 110, 77] ++
        0 :: (List.replicate 20 9).drop ((encode [77, 97, 110, 77]).length + 1)) := by
  decide

/-! ### Decoding -/

theorem findPos_digit {v : Nat} (h : v < 64) : findPos base64Map (digit v) = UInt8.ofNat v := by
  have hall : ∀ v < 64, findPos base64Map (digit v) = UInt8.ofNat v := by decide +kernel
  exact hall v h

/-- The bytes of a group, from what the table says of its characters. -/
theorem findPos_sextet (a b c : UInt8) :
    findPos base64Map (digit (sextet a b c 3)) <<< 2 |||
        findPos base64Map (digit (sextet a b c 2)) >>> 4 = a ∧
      findPos base64Map (digit (sextet a b c 2)) <<< 4 |||
        findPos base64Map (digit (sextet a b c 1)) >>> 2 = b ∧
      findPos base64Map (digit (sextet a b c 1)) <<< 6 |||
        findPos base64Map (digit (sextet a b c 0)) = c := by
  rw [findPos_digit (sextet_lt a b c 3), findPos_digit (sextet_lt a b c 2),
    findPos_digit (sextet_lt a b c 1), findPos_digit (sextet_lt a b c 0)]
  exact ofNat_sextet a b c

/-- The loop decodes whole groups, as long as its indices are numbers of type `int`. -/
theorem decodeLoop_eq (full rest : List UInt8) (pre out buf : List UInt8) (fuel : Nat)
    (hfull : full.length % 3 = 0) (hroom : full.length ≤ buf.length) (hfuel : full.length < fuel)
    (hle : out.length ≤ pre.length) :
    decodeLoop (pre ++ (encode full ++ rest)) ((out.length + full.length : Nat) : Int) fuel
        pre.length out.length (out ++ buf) =
      if full = [] ∨ pre.length + (encode full).length < 2 ^ 31 then
        some (out ++ full ++ buf.drop full.length)
      else none := by
  induction full using encode.induct generalizing pre out buf fuel with
  | case1 =>
      obtain ⟨fuel, rfl⟩ := Nat.exists_eq_add_one_of_ne_zero (Nat.ne_zero_of_lt hfuel)
      rw [decodeLoop, List.length_nil, Nat.add_zero, if_neg (Int.lt_irrefl _), if_pos (.inl rfl)]
      simp
  | case2 a => simp at hfull
  | case3 a b => simp at hfull
  | case4 a b c bs ih =>
      obtain ⟨fuel, rfl⟩ := Nat.exists_eq_add_one_of_ne_zero (Nat.ne_zero_of_lt hfuel)
      have hlen : (a :: b :: c :: bs).length = bs.length + 3 := rfl
      have hlen' : (encode (a :: b :: c :: bs)).length = (encode bs).length + 4 := rfl
      rcases buf with - | ⟨x, - | ⟨y, - | ⟨z, buf⟩⟩⟩
      · exact absurd hroom (by simp)
      · exact absurd hroom (by simp)
      · exact absurd hroom (by simp)
      obtain ⟨h₀, h₁, h₂⟩ := findPos_sextet a b c
      have hnext := ih (pre ++ [digit (sextet a b c 3), digit (sextet a b c 2),
        digit (sextet a b c 1), digit (sextet a b c 0)]) (out ++ [a, b, c]) buf fuel (by omega)
        (by simpa using hroom) (by omega)
        (by rw [List.length_append, List.length_append]; simpa using Nat.le_succ_of_le hle)
      have hcond : (a :: b :: c :: bs = [] ∨
          pre.length + (encode (a :: b :: c :: bs)).length < 2 ^ 31) ↔
            pre.length + 4 + (encode bs).length < 2 ^ 31 := by
        rw [or_iff_right (List.cons_ne_nil _ _)]
        omega
      simp only [hcond]
      rw [decodeLoop, if_pos (by omega)]
      simp only [encode, List.cons_append, getElem?_behind, getElem?_front, storeAt_behind,
        storeAt_front, List.getElem?_cons_zero, List.getElem?_cons_succ, Option.bind_eq_bind,
        Option.bind_some, storeAt_zero, storeAt_succ, Option.map_some, h₀, h₁, h₂]
      by_cases hfits : pre.length + 4 < 2 ^ 31
      · have hrest : (bs = [] ∨ pre.length + 4 + (encode bs).length < 2 ^ 31) ↔
            pre.length + 4 + (encode bs).length < 2 ^ 31 := by
          refine or_iff_right_of_imp ?_
          rintro rfl
          exact hfits
        rw [addInt, if_pos hfits, addInt, if_pos (by omega), Option.bind_some,
          Option.bind_some]
        refine Eq.trans ?_ (if_congr hrest rfl rfl)
        simpa [Nat.add_assoc, Nat.add_comm, Nat.add_left_comm] using hnext
      · rw [addInt, if_neg hfits, if_neg (by omega)]
        rfl

theorem byteAt_behind (pre t : List UInt8) {k : Nat} (h : k ≤ t.length) :
    byteAt (pre ++ t) (((pre ++ t).length : Nat) - (k : Int)) = t[t.length - k]? := by
  have hle : k ≤ (pre ++ t).length := by
    rw [List.length_append]
    omega
  rw [byteAt, ← Int.ofNat_sub hle, if_pos (Int.natCast_nonneg _), Int.toNat_natCast,
    List.length_append, Nat.add_sub_assoc h, getElem?_behind]

/-- The last four characters of a text. -/
theorem byteAt_four (pre : List UInt8) (w x y z : UInt8) :
    byteAt (pre ++ [w, x, y, z]) ((pre ++ [w, x, y, z]).length - 4) = some w ∧
      byteAt (pre ++ [w, x, y, z]) ((pre ++ [w, x, y, z]).length - 3) = some x ∧
      byteAt (pre ++ [w, x, y, z]) ((pre ++ [w, x, y, z]).length - 2) = some y ∧
      byteAt (pre ++ [w, x, y, z]) ((pre ++ [w, x, y, z]).length - 1) = some z :=
  ⟨byteAt_behind pre [w, x, y, z] (k := 4) (by simp),
    byteAt_behind pre [w, x, y, z] (k := 3) (by simp),
    byteAt_behind pre [w, x, y, z] (k := 2) (by simp),
    byteAt_behind pre [w, x, y, z] (k := 1) (by simp)⟩

/-- The characters of the last group of an encoding. -/
theorem byteAt_encode {full g : List UInt8} (hfull : full.length % 3 = 0) {w x y z : UInt8}
    (hg : encode g = [w, x, y, z]) :
    byteAt (encode (full ++ g)) ((encode (full ++ g)).length - 4) = some w ∧
      byteAt (encode (full ++ g)) ((encode (full ++ g)).length - 3) = some x ∧
      byteAt (encode (full ++ g)) ((encode (full ++ g)).length - 2) = some y ∧
      byteAt (encode (full ++ g)) ((encode (full ++ g)).length - 1) = some z := by
  rw [encode_append full g hfull, hg]
  exact byteAt_four (encode full) w x y z

theorem exists_last_group {full : List UInt8} (hfull : full.length % 3 = 0) (hne : full ≠ []) :
    ∃ pre a b c, pre.length % 3 = 0 ∧ full = pre ++ [a, b, c] := by
  have hpos := List.length_pos_iff.mpr hne
  obtain ⟨a, b, c, hdrop⟩ := List.length_eq_three.mp
    (show (full.drop (full.length - 3)).length = 3 by rw [List.length_drop]; omega)
  refine ⟨full.take (full.length - 3), a, b, c, ?_, ?_⟩
  · rw [List.length_take]
    omega
  · rw [← hdrop, List.take_append_drop]

/-- The padding of an encoding tells how long the last group is. -/
theorem padding_encode {full last : List UInt8} (hfull : full.length % 3 = 0)
    (hlast : last.length < 3) (hne : full ++ last ≠ []) :
    padding (encode (full ++ last)) (encode (full ++ last)).length =
      some (last.length, ((full ++ last).length : Int)) := by
  have hlen := length_encode (full ++ last)
  have hdigit : ∀ (a b c : UInt8) (k : Nat), digit (sextet a b c k) ≠ 0x3d := fun a b c k =>
    (digit_ne (sextet_lt a b c k)).2
  match last, hlast with
  | [], _ =>
      -- the last group is a whole one
      rw [List.append_nil] at hne hlen ⊢
      obtain ⟨pre, a, b, c, hpre, rfl⟩ := exists_last_group hfull hne
      obtain ⟨-, -, -, hat⟩ := byteAt_encode (g := [a, b, c]) hpre rfl
      simp only [padding, hat, Option.bind_eq_bind, Option.bind_some, if_neg (hdigit a b c 0)]
      refine congrArg some (Prod.ext rfl ?_)
      show _ / 4 * 3 = _
      rw [hlen]
      omega
  | [a], _ =>
      have hall : (full ++ [a]).length = full.length + 1 := List.length_append
      obtain ⟨-, -, hat, hat'⟩ := byteAt_encode (g := [a]) hfull rfl
      simp only [padding, hat, hat', Option.bind_eq_bind, Option.bind_some, pad, if_pos]
      refine congrArg some (Prod.ext rfl ?_)
      show _ / 4 * 3 - 2 = _
      rw [hlen]
      omega
  | [a, b], _ =>
      have hall : (full ++ [a, b]).length = full.length + 2 := List.length_append
      obtain ⟨-, -, hat, hat'⟩ := byteAt_encode (g := [a, b]) hfull rfl
      simp only [padding, hat, hat', Option.bind_eq_bind, Option.bind_some, pad, if_pos,
        if_neg (hdigit a b 0 1)]
      refine congrArg some (Prod.ext rfl ?_)
      show _ / 4 * 3 - 1 = _
      rw [hlen]
      omega

theorem storeByte_behind (pre t : List UInt8) {i : Int} {k : Nat} (b : UInt8)
    (hi : i = (pre.length + k : Nat)) :
    storeByte (pre ++ t) i b = (storeAt t k b).map (pre ++ ·) := by
  rw [storeByte, hi, if_pos (Int.natCast_nonneg _), Int.toNat_natCast, storeAt_behind]

/-- The last group goes behind the whole ones. -/
theorem decodeLast_eq {full last : List UInt8} (hfull : full.length % 3 = 0)
    (hlast : last.length < 3) {buf : List UInt8} (hbuf : buf.length = last.length + 1) :
    ∃ x, decodeLast (encode (full ++ last)) (encode (full ++ last)).length last.length
        ((full ++ last).length : Int) (full ++ buf) = some (full ++ last ++ [x]) := by
  match last, hlast with
  | [], _ =>
      obtain ⟨x, rfl⟩ := List.length_eq_one_iff.mp hbuf
      exact ⟨x, by rw [List.append_nil]; rfl⟩
  | [a], _ =>
      obtain ⟨x, y, rfl⟩ := List.length_eq_two.mp hbuf
      obtain ⟨hat, hat', -, -⟩ := byteAt_encode (g := [a]) hfull rfl
      have hstore := storeByte_behind full [x, y] (i := ((full ++ [a]).length : Int) - 1) (k := 0) a
        (by rw [List.length_append]; simp)
      refine ⟨y, ?_⟩
      simp only [List.length_singleton, decodeLast, hat, hat', Option.bind_eq_bind,
        Option.bind_some, (findPos_sextet a 0 0).1, hstore, storeAt_zero, Option.map_some,
        List.append_assoc, List.singleton_append]
  | [a, b], _ =>
      obtain ⟨x, y, z, rfl⟩ := List.length_eq_three.mp hbuf
      obtain ⟨hat, hat', hat'', -⟩ := byteAt_encode (g := [a, b]) hfull rfl
      have hstore := storeByte_behind full [x, y, z] (i := ((full ++ [a, b]).length : Int) - 2)
        (k := 0) a (by rw [List.length_append]; simp)
      have hstore' := storeByte_behind full [a, y, z] (i := ((full ++ [a, b]).length : Int) - 1)
        (k := 1) b (by rw [List.length_append]; simp; omega)
      refine ⟨z, ?_⟩
      simp only [List.length_cons, List.length_nil, decodeLast, hat, hat', hat'',
        Option.bind_eq_bind, Option.bind_some, (findPos_sextet a b 0).1, (findPos_sextet a b 0).2.1,
        hstore, storeAt_zero, Option.map_some, hstore', storeAt_succ, List.append_assoc,
        List.cons_append, List.nil_append]

/-- An encoding ends with its first NUL, as `strlen` takes it. -/
theorem strlen_encode (b : List UInt8) : (encode b).findIdx (· == 0) = (encode b).length := by
  rw [List.findIdx_eq_length]
  intro c hc
  rw [beq_eq_false_iff_ne]
  rintro rfl
  exact zero_notMem_encode _ hc

/-- The characters of the whole groups, by the length of all bytes. -/
theorem groups_fit_iff {full last : List UInt8} (hfull : full.length % 3 = 0)
    (hlast : last.length < 3) :
    (full = [] ∨ (encode full).length < 2 ^ 31) ↔
      4 * ((full ++ last).length / 3) < 2 ^ 31 := by
  rw [length_encode, List.length_append]
  constructor
  · rintro (rfl | hfits)
    · rw [List.length_nil]
      omega
    · omega
  · exact fun hfits => .inr (by omega)

/-- The loop of `base64_decode`, from the beginning of an encoding. -/
theorem decodeLoop_encode {full last buf : List UInt8} (hfull : full.length % 3 = 0)
    (hlast : last.length < 3) (hroom : full.length ≤ buf.length) :
    decodeLoop (encode (full ++ last)) (((full ++ last).length : Int) - last.length)
        ((encode (full ++ last)).length + 1) 0 0 buf =
      if 4 * ((full ++ last).length / 3) < 2 ^ 31 then some (full ++ buf.drop full.length)
      else none := by
  have hfuel : full.length < (encode (full ++ last)).length + 1 := by
    rw [length_encode, List.length_append]
    omega
  have hstop : ((full ++ last).length : Int) - last.length =
      ((([] : List UInt8).length + full.length : Nat) : Int) := by
    rw [List.length_append, List.length_nil]
    omega
  have hloop := decodeLoop_eq full (encode last) [] [] buf _ hfull hroom hfuel (Nat.le_refl _)
  rw [List.nil_append, ← encode_append full last hfull, ← hstop, List.length_nil,
    Nat.zero_add] at hloop
  exact hloop.trans (if_congr (groups_fit_iff hfull hlast) rfl rfl)

/-- `base64_decode` of an encoding: the loop runs to its end as long as its indices are
numbers of type `int`. -/
theorem base64Decode_eq (heap : Nat → UInt8) {b : List UInt8} (hne : b ≠ []) :
    base64Decode heap (encode b) =
      if 4 * (b.length / 3) < 2 ^ 31 then some (b ++ [0]) else none := by
  obtain ⟨full, last, rfl, hfull, hlast⟩ := exists_groups b
  have hthree : full.length % 3 = 0 := by rw [hfull, Nat.mul_mod_left]
  have hshort : last.length < 3 := by
    rw [hlast]
    exact Nat.mod_lt _ (by decide)
  have hall : (full ++ last).length = full.length + last.length := List.length_append
  have hpadding := padding_encode hthree hshort hne
  obtain ⟨buf, hbuf⟩ : ∃ buf,
      (List.range (((full ++ last).length : Int) + 1).toNat).map heap = buf := ⟨_, rfl⟩
  have hlength : buf.length = (full ++ last).length + 1 := by
    rw [← hbuf, List.length_map, List.length_range]
    omega
  have hloop : decodeLoop _ _ _ 0 0 buf = _ := decodeLoop_encode hthree hshort (by omega)
  have hroom : (buf.drop full.length).length = last.length + 1 := by
    rw [List.length_drop]
    omega
  obtain ⟨x, hswitch⟩ := decodeLast_eq hthree hshort hroom
  have hend := storeByte_behind (full ++ last) [x] (k := 0) 0 (i := (full ++ last).length) rfl
  unfold base64Decode
  simp only [strlen_encode, hpadding, Option.bind_eq_bind, Option.bind_some]
  rw [if_neg (by omega), hbuf, hloop]
  by_cases hfits : 4 * ((full ++ last).length / 3) < 2 ^ 31
  · rw [if_pos hfits, if_pos hfits, Option.bind_some]
    simp only [hswitch, Option.bind_some, hend, storeAt_zero, Option.map_some]
  · rw [if_neg hfits, if_neg hfits]
    rfl

example : base64Decode (fun _ => 7) [84, 87, 69, 61] = some [77, 97, 0] := by decide

/-- `base64_decode` gives back a byte string, with a NUL behind it, from its standard encoding
exactly if an `int` can count the characters of the whole groups. -/
theorem base64Decode_encode (heap : Nat → UInt8) (b : List UInt8) (hne : b ≠ []) :
    base64Decode heap (encode b) = some (b ++ [0]) ↔ 4 * (b.length / 3) < 2 ^ 31 := by
  rw [base64Decode_eq heap hne]
  split
  · rename_i hfits
    exact iff_of_true rfl hfits
  · rename_i hlong
    exact iff_of_false (Option.some_ne_none _).symm hlong

theorem base64Decode_encode_text :
    base64Decode (fun _ => 7) (encode [77, 97]) = some ([77, 97] ++ [0]) ↔
      4 * (([77, 97] : List UInt8).length / 3) < 2 ^ 31 :=
  base64Decode_encode (fun _ => 7) [77, 97] (List.cons_ne_nil _ _)

/-- In a text of 2 GiB `i += 4` overflows. -/
theorem not_base64Decode_encode :
    base64Decode (fun _ => 7) (encode (List.replicate (3 * 2 ^ 29) 65)) ≠
      some (List.replicate (3 * 2 ^ 29) 65 ++ [0]) := by
  have hne : List.replicate (3 * 2 ^ 29) (65 : UInt8) ≠ [] := by
    intro heq
    have hlen := congrArg List.length heq
    rw [List.length_replicate] at hlen
    cases hlen
  rw [base64Decode_eq _ hne, List.length_replicate, if_neg (by decide)]
  exact (Option.some_ne_none _).symm

end SignalingServer
