import SignalingServer.Lib.Decimal

/-!
Strings and their conversion to numbers (tools/TypeConversion.cpp). A
`std::string` is a `String` with one character for each byte. The conversions
catch the exceptions of `std::stoi` and `std::stoull` and answer 0 instead.
-/

namespace SignalingServer

/-- `std::string::substr` at a position inside the string. -/
def substr (s : String) (pos n : Nat) : String := .ofList ((s.toList.drop pos).take n)

def string2Int (strValue : String) : Int :=
  match Decimal.parse strValue.toList with
  | none => 0
  | some (neg, n) =>
      let v : Int := if neg then -n else n
      if -2 ^ 31 ≤ v ∧ v < 2 ^ 31 then v else 0

/-- `std::atoi`: a `long` that saturates, cut to an `int`. -/
def atoi (s : String) : Int :=
  match Decimal.parse s.toList with
  | none => 0
  | some (neg, n) =>
      let v : Int := if neg then -n else n
      (max (-2 ^ 63) (min v (2 ^ 63 - 1))).bmod (2 ^ 32)

def string2Ull (strValue : String) : Nat :=
  match Decimal.parse strValue.toList with
  | none => 0
  | some (neg, n) =>
      if n < 2 ^ 64 then
        if neg then (2 ^ 64 - n) % 2 ^ 64 else n
      else 0

@[simp] theorem toList_substr (s : String) (pos n : Nat) :
    (substr s pos n).toList = (s.toList.drop pos).take n := by
  simp [substr]

theorem string2Ull_of_parse {s : String} {n : Nat}
    (hparse : Decimal.parse s.toList = some (false, n)) (hn : n < 2 ^ 64) :
    string2Ull s = n := by
  unfold string2Ull
  rw [hparse]
  exact if_pos hn

theorem string2Ull_toString {n : Nat} (hn : n < 2 ^ 64) : string2Ull (toString n) = n := by
  apply string2Ull_of_parse _ hn
  rw [Nat.toString_eq_repr, Nat.toList_repr, Decimal.parse_toDigits]

theorem string2Int_of_toDigits {s : String} {n : Nat} (hs : s.toList = Nat.toDigits 10 n)
    (hn : n < 2 ^ 31) : string2Int s = n := by
  have hparse : Decimal.parse s.toList = some (false, n) := by
    rw [hs, Decimal.parse_toDigits]
  have hrange : -2 ^ 31 ≤ (n : Int) ∧ (n : Int) < 2 ^ 31 := by omega
  unfold string2Int
  rw [hparse]
  exact if_pos hrange

/-- Ten characters that read as a number of ten digits are that number's digits. -/
theorem eq_toString_of_string2Ull {s : String} {n : Nat} (hlen : s.toList.length = 10)
    (hs : string2Ull s = n) (hlow : 10 ^ 9 ≤ n) (hhigh : n < 10 ^ 10) : s = toString n := by
  unfold string2Ull at hs
  cases hparse : Decimal.parse s.toList with
  | none =>
      rw [hparse] at hs
      simp only at hs
      omega
  | some val =>
      obtain ⟨neg, m⟩ := val
      rw [hparse] at hs
      simp only at hs
      have hm : m = n := by
        cases neg with
        | false =>
            split at hs
            · exact hs
            · omega
        | true =>
            -- A wrapped negative number is far above ten digits.
            have hsmall := Decimal.lt_of_parse_minus hparse
            rw [hlen] at hsmall
            split at hs
            · simp only [if_true] at hs
              omega
            · omega
      subst hm
      have hdigits := Decimal.eq_toDigits_of_parse hparse (by rw [hlen]; exact hlow)
      apply String.toList_inj.mp
      rw [hdigits, Nat.toString_eq_repr, Nat.toList_repr]

end SignalingServer
