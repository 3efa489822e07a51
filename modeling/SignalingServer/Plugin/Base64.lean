import Mathlib.Algebra.Group.Int.Defs
import SignalingServer.Lib.Base64

/-!
The base64 of the log-in to an NVR (`Plugin/vsk/x86Nvr/include/base64.cpp`). Sizes are of type
`int` here, and short texts are converted in a buffer on the stack. Every access to a text, a
table or a buffer is checked.
-/

namespace SignalingServer.SdkBase64

open Base64

/-! ### The functions -/

def base64digits : List UInt8 :=
  "ABCDEFGHIJKLMNOPQRSTUVWXYZabcdefghijklmnopqrstuvwxyz0123456789+/".toList.map Char.toUInt8

/-- `base64digits[v]`. -/
def digitAt (v : UInt8) : Option UInt8 := base64digits[v.toNat]?

/-- `(char)-1`. -/
def bad : UInt8 := 255

def base64val : List UInt8 :=
  List.replicate 43 bad ++ [62] ++ List.replicate 3 bad ++ [63, 52, 53, 54, 55, 56, 57, 58, 59, 60,
    61] ++ List.replicate 7 bad ++ [0, 1, 2, 3, 4, 5, 6, 7, 8, 9, 10, 11, 12, 13, 14, 15, 16, 17,
    18, 19, 20, 21, 22, 23, 24, 25] ++ List.replicate 6 bad ++ [26, 27, 28, 29, 30, 31, 32, 33, 34,
    35, 36, 37, 38, 39, 40, 41, 42, 43, 44, 45, 46, 47, 48, 49, 50, 51] ++ List.replicate 5 bad

/-- `DECODE64`; the table has an entry for every ASCII character. -/
def decode64 (c : UInt8) : UInt8 := if c < 128 then base64val.getD c.toNat bad else bad

/-- `to64frombits`: the characters that it puts out, one behind the other. -/
def to64frombits : List UInt8 → Option (List UInt8)
  | [] => some [0]
  | [a] => do
      let w ← digitAt (a >>> 2)
      let x ← digitAt ((a <<< 4) &&& (0x30 : UInt8))
      return [w, x, pad, pad, 0]
  | [a, b] => do
      let w ← digitAt (a >>> 2)
      let x ← digitAt (((a <<< 4) &&& (0x30 : UInt8)) ||| b >>> 4)
      let y ← digitAt ((b <<< 2) &&& (0x3c : UInt8))
      return [w, x, y, pad, 0]
  | a :: b :: c :: bs => do
      let w ← digitAt (a >>> 2)
      let x ← digitAt (((a <<< 4) &&& (0x30 : UInt8)) ||| b >>> 4)
      let y ← digitAt (((b <<< 2) &&& (0x3c : UInt8)) ||| c >>> 6)
      let z ← digitAt (c &&& 0x3f)
      let out ← to64frombits bs
      return w :: x :: y :: z :: out

/-- What a round of `from64tobits` puts out. -/
def fromGroup (digit1 digit2 digit3 digit4 : UInt8) : List UInt8 :=
  (decode64 digit1 <<< 2 ||| decode64 digit2 >>> 4) ::
    if digit3 = pad then []
    else
      (((decode64 digit2 <<< 4) &&& (0xf0 : UInt8)) ||| decode64 digit3 >>> 2) ::
        if digit4 = pad then []
        else [((decode64 digit3 <<< 6) &&& (0xc0 : UInt8)) ||| decode64 digit4]

/-- The loop of `from64tobits`: what it puts out, and whether it is not left with -1. `none` where
a character behind the end of the text is read. -/
def fromLoop : List UInt8 → Option (List UInt8 × Bool)
  | [] => none
  | digit1 :: in₁ =>
      if decode64 digit1 = bad then some ([], false)
      else
        match in₁ with
        | [] => none
        | digit2 :: in₂ =>
            if decode64 digit2 = bad then some ([], false)
            else
              match in₂ with
              | [] => none
              | digit3 :: in₃ =>
                  if digit3 ≠ pad ∧ decode64 digit3 = bad then some ([], false)
                  else
                    match in₃ with
                    | [] => none
                    | digit4 :: in₄ =>
                        if digit4 ≠ pad ∧ decode64 digit4 = bad then some ([], false)
                        else
                          match in₄ with
                          | [] => none
                          | c :: rest =>
                              if c ≠ 0 ∧ c ≠ 13 ∧ digit4 ≠ pad then
                                (fromLoop (c :: rest)).map fun r =>
                                  (fromGroup digit1 digit2 digit3 digit4 ++ r.1, r.2)
                              else some (fromGroup digit1 digit2 digit3 digit4, true)

/-- A `+` and a blank at the beginning are skipped. -/
def skipPlus : List UInt8 → Option (List UInt8)
  | [] => none
  | c :: text =>
      if c = 43 then
        match text with
        | [] => none
        | d :: rest => some (if d = 32 then rest else c :: d :: rest)
      else some (c :: text)

/-- `from64tobits`. -/
def from64tobits (text : List UInt8) : Option (List UInt8 × Bool) :=
  (skipPlus text).bind fun text =>
    match text with
    | [] => none
    | c :: rest => if c = 13 then some ([], true) else fromLoop (c :: rest)

/-- What `out` holds does not go beyond a buffer. -/
def within (size : Int) (out : List UInt8) : Option (List UInt8) :=
  if (out.length : Int) ≤ size then some out else none

/-- `int nInSize = text.size();` -/
def nInSize (text : List UInt8) : Int := (text.length : Int).bmod (2 ^ 32)

/-- The size of the buffer of `BinToBase64`, which is an `int` too. -/
def outSize (n : Int) : Option Int :=
  if n > 256 then if n + n < 2 ^ 31 then some (n + n) else none else some 512

/-- `BinToBase64`; `none` where the size overflows or a buffer is too small. -/
def binToBase64 (strBinText : List UInt8) : Option (List UInt8) := do
  let out ← to64frombits (strBinText.take (nInSize strBinText).toNat)
  let size ← outSize (nInSize strBinText)
  let out ← within size out
  return out.takeWhile (· ≠ 0)

/-- What `Base64ToBin` makes of the buffer and of what `from64tobits` returns. -/
def toText (nInSize : Int) (r : List UInt8 × Bool) : Option (Option (List UInt8)) :=
  if nInSize > 512 then (within nInSize r.1).map fun out => if r.2 then some out else none
  else (within 512 r.1).map fun out => some (if r.2 then out else [])

/-- `Base64ToBin`; `some none` where `std::string` throws, as its length is -1. -/
def base64ToBin (strBase64Text : List UInt8) : Option (Option (List UInt8)) :=
  (from64tobits (strBase64Text ++ [0])).bind (toText (nInSize strBase64Text))

/-! ### Encoding -/

theorem digitAt_eq {v : UInt8} {n : Nat} (hv : v.toNat = n) (hn : n < 64) :
    digitAt v = some (digit n) := by
  rw [digitAt, hv]
  exact getElem?_alphabet hn

/-- Bits that are masked out behind the shift instead of in front of it. -/
theorem masks (a : UInt8) : (a <<< 4) &&& (0x30 : UInt8) = (a &&& 0x3) <<< 4 ∧
    (a <<< 2) &&& (0x3c : UInt8) = (a &&& 0xf) <<< 2 ∧ (a <<< 4) &&& (0xf0 : UInt8) = a <<< 4 ∧
      (a <<< 6) &&& (0xc0 : UInt8) = a <<< 6 := by
  have hall : ∀ n < 256, (UInt8.ofNat n <<< 4) &&& (0x30 : UInt8) = (UInt8.ofNat n &&& 0x3) <<< 4 ∧
      (UInt8.ofNat n <<< 2) &&& (0x3c : UInt8) = (UInt8.ofNat n &&& 0xf) <<< 2 ∧
        (UInt8.ofNat n <<< 4) &&& (0xf0 : UInt8) = UInt8.ofNat n <<< 4 ∧
          (UInt8.ofNat n <<< 6) &&& (0xc0 : UInt8) = UInt8.ofNat n <<< 6 := by decide +kernel
  have h := hall a.toNat a.toNat_lt
  rwa [UInt8.ofNat_toNat] at h

theorem digitAt_sextet (a b c : UInt8) :
    digitAt (a >>> 2) = some (digit (sextet a b c 3)) ∧
      digitAt (((a <<< 4) &&& (0x30 : UInt8)) ||| b >>> 4) = some (digit (sextet a b c 2)) ∧
      digitAt (((b <<< 2) &&& (0x3c : UInt8)) ||| c >>> 6) = some (digit (sextet a b c 1)) ∧
      digitAt (c &&& 0x3f) = some (digit (sextet a b c 0)) := by
  obtain ⟨h₃, h₂, h₁, h₀⟩ := toNat_sextet a b c
  rw [(masks a).1, (masks b).2.1]
  exact ⟨digitAt_eq h₃ (sextet_lt a b c 3), digitAt_eq h₂ (sextet_lt a b c 2),
    digitAt_eq h₁ (sextet_lt a b c 1), digitAt_eq h₀ (sextet_lt a b c 0)⟩

/-- `to64frombits` puts out the encoding and a NUL. -/
theorem to64frombits_eq (bs : List UInt8) : to64frombits bs = some (encode bs ++ [0]) := by
  induction bs using to64frombits.induct with
  | case1 => rfl
  | case2 a =>
      obtain ⟨h₃, h₂, -, -⟩ := digitAt_sextet a 0 0
      have h₂' : digitAt ((a <<< 4) &&& (0x30 : UInt8)) = some (digit (sextet a 0 0 2)) := by
        simpa using h₂
      simp [to64frombits, encode, h₃, h₂', pad]
  | case3 a b =>
      obtain ⟨h₃, h₂, h₁, -⟩ := digitAt_sextet a b 0
      have h₁' : digitAt ((b <<< 2) &&& (0x3c : UInt8)) = some (digit (sextet a b 0 1)) := by
        simpa using h₁
      simp [to64frombits, encode, h₃, h₂, h₁', pad]
  | case4 a b c bs ih =>
      obtain ⟨h₃, h₂, h₁, h₀⟩ := digitAt_sextet a b c
      simp [to64frombits, encode, h₃, h₂, h₁, h₀, ih]

theorem takeWhile_encode (bs : List UInt8) : (encode bs ++ [0]).takeWhile (· ≠ 0) = encode bs := by
  have hdigits : ∀ c ∈ encode bs, decide (c ≠ 0) = true := by
    intro c hc
    rw [decide_eq_true_eq]
    rintro rfl
    exact zero_notMem_encode bs hc
  rw [List.takeWhile_append_of_pos hdigits]
  exact List.append_nil _

/-- The buffers have room for what is put out, and the only error is an overflow of the size. -/
theorem binToBase64_eq (bs : List UInt8) : binToBase64 bs =
    if nInSize bs < 2 ^ 30 then some (encode (bs.take (nInSize bs).toNat)) else none := by
  rw [binToBase64, to64frombits_eq]
  generalize nInSize bs = n
  have hlen : ((encode (bs.take n.toNat) ++ [0]).length : Int) ≤ (n.toNat + 2) / 3 * 4 + 1 := by
    rw [List.length_append, length_encode, List.length_take]
    simp only [List.length_singleton]
    omega
  have hroom : ∀ size, outSize n = some size →
      within size (encode (bs.take n.toNat) ++ [0]) = some (encode (bs.take n.toNat) ++ [0]) := by
    intro size hsize
    rw [outSize] at hsize
    split at hsize
    · split at hsize
      · obtain rfl := Option.some.inj hsize
        exact if_pos (by omega)
      · exact nomatch hsize
    · obtain rfl := Option.some.inj hsize
      exact if_pos (by omega)
  cases hsize : outSize n with
  | none =>
      rw [outSize] at hsize
      split at hsize
      · split at hsize
        · exact nomatch hsize
        · rw [if_neg (by omega)]
          rfl
      · exact nomatch hsize
  | some size =>
      have hsmall : n < 2 ^ 30 := by
        rw [outSize] at hsize
        split at hsize
        · split at hsize
          · omega
          · exact nomatch hsize
        · omega
      rw [if_pos hsmall, Option.bind_eq_bind, Option.bind_some, Option.bind_eq_bind,
        Option.bind_some, hroom size hsize]
      exact congrArg some (takeWhile_encode _)

theorem nInSize_lt (bs : List UInt8) : nInSize bs < 2 ^ 31 := by
  show (bs.length : Int).bmod (2 ^ 32) < 2 ^ 31
  rw [Int.bmod]
  omega

theorem nInSize_eq {bs : List UInt8} (h : bs.length < 2 ^ 31) : nInSize bs = bs.length := by
  show (bs.length : Int).bmod (2 ^ 32) = bs.length
  rw [Int.bmod]
  omega

/-- What a log-in sends is the standard encoding exactly for texts below 2^30 bytes. -/
theorem binToBase64_encodes_iff (bs : List UInt8) :
    binToBase64 bs = some (encode bs) ↔ bs.length < 2 ^ 30 := by
  rw [binToBase64_eq]
  constructor
  · intro h
    split at h
    next hsmall =>
      have hlen := congrArg List.length (Option.some.inj h)
      rw [length_encode, length_encode, List.length_take] at hlen
      omega
    next => exact nomatch h
  · intro hlt
    rw [nInSize_eq (by omega), if_pos (by omega), Int.toNat_natCast, List.take_length]

example : binToBase64 [97, 100, 109, 105, 110] = some [89, 87, 82, 116, 97, 87, 52, 61] := by decide

/-! ### Decoding -/

theorem decode64_digit {v : Nat} (h : v < 64) :
    decode64 (digit v) = UInt8.ofNat v ∧ decode64 (digit v) ≠ bad := by
  have hall : ∀ v < 64, decode64 (digit v) = UInt8.ofNat v ∧ decode64 (digit v) ≠ bad := by
    decide +kernel
  exact hall v h

theorem digit_plain {v : Nat} (h : v < 64) : digit v ≠ 13 ∧ digit v ≠ 32 := by
  have hall : ∀ v < 64, digit v ≠ 13 ∧ digit v ≠ 32 := by decide +kernel
  exact hall v h

section

variable (a b c : UInt8)

/-- The bytes of a group, with and without padding. -/
theorem fromGroup_sextet :
    fromGroup (digit (sextet a b c 3)) (digit (sextet a b c 2)) (digit (sextet a b c 1))
        (digit (sextet a b c 0)) = [a, b, c] ∧
      fromGroup (digit (sextet a b 0 3)) (digit (sextet a b 0 2)) (digit (sextet a b 0 1)) pad =
        [a, b] ∧
      fromGroup (digit (sextet a 0 0 3)) (digit (sextet a 0 0 2)) pad pad = [a] := by
  have hread : ∀ (a b c : UInt8) (k : Nat),
      decode64 (digit (sextet a b c k)) = UInt8.ofNat (sextet a b c k) := fun a b c k =>
    (decode64_digit (sextet_lt a b c k)).1
  have hpad : ∀ (a b c : UInt8) (k : Nat), digit (sextet a b c k) ≠ pad := fun a b c k =>
    (digit_ne (sextet_lt a b c k)).2
  obtain ⟨h₁, h₂, h₃⟩ := ofNat_sextet a b c
  obtain ⟨h₁', h₂', -⟩ := ofNat_sextet a b 0
  obtain ⟨h₁'', -, -⟩ := ofNat_sextet a 0 0
  refine ⟨?_, ?_, ?_⟩
  · simp only [fromGroup, hpad, if_false, hread, (masks _).2.2.1, (masks _).2.2.2, h₁, h₂, h₃]
  · simp only [fromGroup, hpad, if_false, if_true, hread, (masks _).2.2.1, h₁', h₂']
  · simp only [fromGroup, if_true, hread, h₁'']

end

/-- An encoding begins with characters for two values. -/
theorem exists_first {bs : List UInt8} (hne : bs ≠ []) :
    ∃ v v' rest, v < 64 ∧ v' < 64 ∧ encode bs = digit v :: digit v' :: rest := by
  match bs, hne with
  | [a], _ => exact ⟨_, _, _, sextet_lt a 0 0 3, sextet_lt a 0 0 2, rfl⟩
  | [a, b], _ => exact ⟨_, _, _, sextet_lt a b 0 3, sextet_lt a b 0 2, rfl⟩
  | a :: b :: c :: _, _ => exact ⟨_, _, _, sextet_lt a b c 3, sextet_lt a b c 2, rfl⟩

/-- The loop reads an encoding back. -/
theorem fromLoop_encode {bs : List UInt8} (hne : bs ≠ []) :
    fromLoop (encode bs ++ [0]) = some (bs, true) := by
  have hread : ∀ (a b c : UInt8) (k : Nat), decode64 (digit (sextet a b c k)) ≠ bad :=
    fun a b c k => (decode64_digit (sextet_lt a b c k)).2
  have hpad : ∀ (a b c : UInt8) (k : Nat), digit (sextet a b c k) ≠ pad := fun a b c k =>
    (digit_ne (sextet_lt a b c k)).2
  induction bs using encode.induct with
  | case1 => exact absurd rfl hne
  | case2 a =>
      simp [encode, fromLoop, hread, (fromGroup_sextet a 0 0).2.2]
  | case3 a b =>
      simp [encode, fromLoop, hread, hpad, (fromGroup_sextet a b 0).2.1]
  | case4 a b c bs ih =>
      obtain rfl | hmore := eq_or_ne bs []
      · simp [encode, fromLoop, hread, hpad, (fromGroup_sextet a b c).1]
      · obtain ⟨d, rest, hd, hplain⟩ : ∃ d rest, encode bs ++ [0] = d :: rest ∧ d ≠ 0 ∧ d ≠ 13 := by
          obtain ⟨v, v', rest, hv, -, hfirst⟩ := exists_first hmore
          exact ⟨digit v, digit v' :: rest ++ [0], by rw [hfirst, List.cons_append],
            (digit_ne hv).1, (digit_plain hv).1⟩
        have hnext := ih hmore
        rw [hd] at hnext
        simp [encode, fromLoop, hread, hpad, (fromGroup_sextet a b c).1, hd, hplain, hnext]

theorem from64tobits_encode {bs : List UInt8} (hne : bs ≠ []) :
    from64tobits (encode bs ++ [0]) = some (bs, true) := by
  have hloop := fromLoop_encode hne
  obtain ⟨v, v', rest, hv, hv', hfirst⟩ := exists_first hne
  rw [hfirst] at hloop ⊢
  have hskip : skipPlus (digit v :: digit v' :: rest ++ [0]) =
      some (digit v :: digit v' :: rest ++ [0]) := by
    simp only [List.cons_append, skipPlus, if_neg (digit_plain hv').2, ite_self]
  rw [from64tobits, hskip, Option.bind_some, List.cons_append]
  simp only [if_neg (digit_plain hv).1]
  exact hloop

theorem isSome_within_iff {size : Int} {out : List UInt8} :
    (within size out).isSome ↔ (out.length : Int) ≤ size := by
  rw [within]
  split
  next hfits => exact iff_of_true rfl hfits
  next hlong => exact iff_of_false Bool.false_ne_true hlong

theorem within_of_isSome {size : Int} {out : List UInt8} (h : (within size out).isSome) :
    within size out = some out :=
  if_pos (isSome_within_iff.mp h)

/-- The buffer is as large as the text, but never smaller than 512 bytes. -/
theorem isSome_toText_iff (n : Int) (r : List UInt8 × Bool) :
    (toText n r).isSome ↔ (r.1.length : Int) ≤ max n 512 := by
  rw [toText]
  split
  · rw [Option.isSome_map, isSome_within_iff]
    omega
  · rw [Option.isSome_map, isSome_within_iff]
    omega

theorem toText_true {n : Int} {bs : List UInt8} (h : (toText n (bs, true)).isSome) :
    toText n (bs, true) = some (some bs) := by
  rw [toText] at h ⊢
  split at h
  next hlong =>
    rw [Option.isSome_map] at h
    rw [if_pos hlong, within_of_isSome h, Option.map_some]
    rfl
  next hshort =>
    rw [Option.isSome_map] at h
    rw [if_neg hshort, within_of_isSome h, Option.map_some]
    rfl

theorem nInSize_neg {bs : List UInt8} (hlow : 2 ^ 31 ≤ bs.length) (hhigh : bs.length < 2 ^ 32) :
    nInSize bs < 0 := by
  show (bs.length : Int).bmod (2 ^ 32) < 0
  rw [Int.bmod]
  omega

/-- An encoding is read back exactly if its length is an `int`; a longer one does not fit into the
buffer that its size asks for. -/
theorem base64ToBin_encode_iff (bs : List UInt8) :
    base64ToBin (encode bs) = some (some bs) ↔ (encode bs).length < 2 ^ 31 := by
  obtain rfl | hne := eq_or_ne bs []
  · exact iff_of_true (by decide) (by decide)
  have hlen := length_encode bs
  rw [base64ToBin, from64tobits_encode hne, Option.bind_some]
  constructor
  · intro h
    have hfits : (bs.length : Int) ≤ _ := (isSome_toText_iff _ _).mp (Option.isSome_of_eq_some h)
    have hlt := nInSize_lt (encode bs)
    by_contra hge
    rcases Nat.lt_or_ge (encode bs).length (2 ^ 32) with hhigh | hhigh
    · have hneg := nInSize_neg (Nat.le_of_not_lt hge) hhigh
      omega
    · omega
  · intro hsmall
    refine toText_true ((isSome_toText_iff _ _).mpr ?_)
    rw [nInSize_eq hsmall]
    show (bs.length : Int) ≤ _
    omega

example : base64ToBin [89, 87, 82, 116, 97, 87, 52, 61] = some (some [97, 100, 109, 105, 110]) := by
  decide

/-- What a log-in sends is the standard encoding exactly for texts below 2^30 bytes, and it is read
back exactly as long as its length is an `int`. -/
theorem base64_round_trip (bs : List UInt8) :
    (binToBase64 bs = some (encode bs) ↔ bs.length < 2 ^ 30) ∧
      (base64ToBin (encode bs) = some (some bs) ↔ (encode bs).length < 2 ^ 31) :=
  ⟨binToBase64_encodes_iff bs, base64ToBin_encode_iff bs⟩

/-! ### Any text -/

theorem decode64_zero : decode64 0 = bad := by decide

theorem length_fromGroup_le (digit1 digit2 digit3 digit4 : UInt8) :
    (fromGroup digit1 digit2 digit3 digit4).length ≤ 3 := by
  rw [fromGroup]
  split
  · exact (by decide : 1 ≤ 3)
  · split
    · exact (by decide : 2 ≤ 3)
    · exact Nat.le_refl 3

/-- The loop stays in front of the end of the text, and puts out three bytes at most for four
characters. -/
theorem fromLoop_bounded {text : List UInt8} (hend : text.getLast? = some 0) :
    ∃ out ok, fromLoop text = some (out, ok) ∧ 4 * out.length + 3 ≤ 3 * text.length := by
  have hzero : ∀ {c : UInt8}, ¬decode64 c = bad → c ≠ 0 := by
    rintro c h rfl
    exact h decode64_zero
  have hzero' : ∀ {c : UInt8}, ¬(c ≠ pad ∧ decode64 c = bad) → c ≠ 0 := by
    rintro c h rfl
    exact h ⟨by decide, decode64_zero⟩
  induction text using fromLoop.induct with
  | case1 => exact nomatch hend
  | case2 c rest hc =>
      refine ⟨[], false, by rw [fromLoop.eq_def]; exact if_pos hc, ?_⟩
      simp only [List.length_nil, List.length_cons]
      omega
  | case3 c hc => exact absurd (Option.some.inj hend) (hzero hc)
  | case4 c hc c₁ rest hc₁ =>
      refine ⟨[], false, by rw [fromLoop.eq_def]; simp only [if_neg hc, if_pos hc₁], ?_⟩
      simp only [List.length_nil, List.length_cons]
      omega
  | case5 c hc c₁ hc₁ => exact absurd (Option.some.inj hend) (hzero hc₁)
  | case6 c hc c₁ hc₁ c₂ rest hc₂ =>
      refine ⟨[], false, ?_, ?_⟩
      · rw [fromLoop.eq_def]
        simp only [if_neg hc, if_neg hc₁, if_pos hc₂]
      · simp only [List.length_nil, List.length_cons]
        omega
  | case7 c hc c₁ hc₁ c₂ hc₂ => exact absurd (Option.some.inj hend) (hzero' hc₂)
  | case8 c hc c₁ hc₁ c₂ hc₂ c₃ rest hc₃ =>
      refine ⟨[], false, ?_, ?_⟩
      · rw [fromLoop.eq_def]
        simp only [if_neg hc, if_neg hc₁, if_neg hc₂, if_pos hc₃]
      · simp only [List.length_nil, List.length_cons]
        omega
  | case9 c hc c₁ hc₁ c₂ hc₂ c₃ hc₃ => exact absurd (Option.some.inj hend) (hzero' hc₃)
  | case10 c hc c₁ hc₁ c₂ hc₂ c₃ hc₃ c₄ rest hmore ih =>
      obtain ⟨out, ok, hrest, hlen⟩ := ih hend
      refine ⟨fromGroup c c₁ c₂ c₃ ++ out, ok, ?_, ?_⟩
      · rw [fromLoop.eq_def]
        simp only [if_neg hc, if_neg hc₁, if_neg hc₂, if_neg hc₃, if_pos hmore, hrest,
          Option.map_some]
      · have hgroup := length_fromGroup_le c c₁ c₂ c₃
        rw [List.length_append]
        simp only [List.length_cons] at hlen ⊢
        omega
  | case11 c hc c₁ hc₁ c₂ hc₂ c₃ hc₃ c₄ rest hlast =>
      refine ⟨fromGroup c c₁ c₂ c₃, true, ?_, ?_⟩
      · rw [fromLoop.eq_def]
        simp only [if_neg hc, if_neg hc₁, if_neg hc₂, if_neg hc₃, if_neg hlast]
      · have hgroup := length_fromGroup_le c c₁ c₂ c₃
        simp only [List.length_cons]
        omega

theorem skipPlus_bounded (text : List UInt8) :
    ∃ text', skipPlus (text ++ [0]) = some text' ∧ text'.getLast? = some 0 ∧
      text'.length ≤ text.length + 1 := by
  have hself : (text ++ [0]).getLast? = some 0 := List.getLast?_concat
  have hlen : (text ++ [0]).length = text.length + 1 := List.length_append
  match text with
  | [] => exact ⟨[0], rfl, rfl, Nat.le_refl 1⟩
  | [c] =>
      refine ⟨[c, 0], ?_, rfl, Nat.le_refl 2⟩
      exact ite_self _
  | c :: d :: rest =>
      rw [List.cons_append, List.cons_append] at hself hlen
      rw [List.cons_append, List.cons_append, skipPlus]
      split
      · split
        · exact ⟨rest ++ [0], rfl, List.getLast?_concat, by simp⟩
        · exact ⟨_, rfl, hself, Nat.le_of_eq hlen⟩
      · exact ⟨_, rfl, hself, Nat.le_of_eq hlen⟩

/-- No text makes `from64tobits` read behind its end. -/
theorem from64tobits_bounded (text : List UInt8) :
    ∃ out ok, from64tobits (text ++ [0]) = some (out, ok) ∧ 4 * out.length ≤ 3 * text.length := by
  obtain ⟨text', hskip, hend, hle⟩ := skipPlus_bounded text
  obtain ⟨out, ok, hloop, hlen⟩ := fromLoop_bounded hend
  rw [from64tobits, hskip, Option.bind_some]
  cases text' with
  | nil => exact nomatch hend
  | cons c rest =>
      dsimp only
      split
      · exact ⟨[], true, rfl, by simp⟩
      · exact ⟨out, ok, hloop, by omega⟩

/-- For every text with a length that is an `int`, the reader stays within the text and within its
buffer. Then a text that is no encoding gives an empty text, or an exception if it is longer than
512 bytes. -/
theorem base64ToBin_safe (text : List UInt8) (h : text.length < 2 ^ 31) :
    ∃ result, base64ToBin text = some result ∧ (result = none → 512 < text.length) := by
  obtain ⟨out, ok, hread, hlen⟩ := from64tobits_bounded text
  have hfits : (toText (nInSize text) (out, ok)).isSome := by
    rw [isSome_toText_iff, nInSize_eq h]
    show (out.length : Int) ≤ _
    omega
  obtain ⟨result, hresult⟩ := Option.isSome_iff_exists.mp hfits
  refine ⟨result, by rw [base64ToBin, hread, Option.bind_some, hresult], ?_⟩
  rintro rfl
  rw [toText, nInSize_eq h] at hresult
  by_contra hshort
  rw [if_neg (by omega)] at hresult
  obtain ⟨out', -, hmk⟩ := Option.map_eq_some_iff.mp hresult
  exact nomatch hmk

theorem base64ToBin_safe_text :
    ∃ result, base64ToBin [89, 87, 0, 61, 61] = some result ∧ (result = none → 512 < 5) :=
  base64ToBin_safe [89, 87, 0, 61, 61] (by decide)

end SignalingServer.SdkBase64
