import SignalingServer.Tinyxml2.RoundTrip
import SignalingServer.XmlMsgAnalysis

/-!
tinyxml2 as the analysis of messages uses it: its parser, and `ToInt`. The reader for `%x` of the
C library stays a parameter. What the analysis sees of a document is its first element, without
attributes.
-/

namespace SignalingServer

namespace Tinyxml2

mutual

/-- A node, as the analysis reads it. -/
def XMLNode.toXmlNode : XMLNode → XmlNode
  | .element name _ children => .element (String.ofList name) (toXmlNodes children)
  | .text value _ => .text (String.ofList value)
  | .comment _ => .comment
  | .declaration _ | .unknown _ => .other

def toXmlNodes : List XMLNode → List XmlNode
  | [] => []
  | node :: nodes => node.toXmlNode :: toXmlNodes nodes

end

/-- `XMLDocument::RootElement`. -/
def rootElement (nodes : List XMLNode) : Option XmlElement :=
  (firstChildElement nodes).map fun (name, _, children) =>
    ⟨String.ofList name, toXmlNodes children⟩

/-- `XMLUtil::IsPrefixHex`. -/
def isPrefixHex (p : List Char) : Bool :=
  match skipWhiteSpace p with
  | '0' :: c :: _ => c = 'x' || c = 'X'
  | _ => false

/-- `XMLUtil::ToInt`. `%d` reads a `long` that saturates, and cuts it to an `int`. -/
def toInt (scanHex : String → Option UInt32) (str : String) : Option Int :=
  if isPrefixHex str.toList then (scanHex str).map fun v => v.toBitVec.toInt
  else
    (Decimal.parse str.toList).map fun (neg, n) =>
      let v : Int := if neg then -n else n
      (max (-2 ^ 63) (min v (2 ^ 63 - 1))).bmod (2 ^ 32)

/-- The library that the analysis of messages calls. -/
def reader (scanHex : String → Option UInt32) : TinyXml2 where
  parse xml :=
    match parse xml.toList with
    | .ok nodes => rootElement nodes
    | .error _ => none
  toInt := toInt scanHex

variable {scanHex : String → Option UInt32}

theorem toInt_of_parse {s : String} {neg : Bool} {n : Nat} (hhex : isPrefixHex s.toList = false)
    (hparse : Decimal.parse s.toList = some (neg, n)) (hn : n < 2 ^ 63) :
    toInt scanHex s = some ((if neg then -(n : Int) else n).bmod (2 ^ 32)) := by
  rw [toInt, if_neg (by rw [hhex]; decide), hparse, Option.map_some]
  have hrange : max (-2 ^ 63) (min (if neg then -(n : Int) else n) (2 ^ 63 - 1)) =
      if neg then -(n : Int) else n := by
    cases neg with
    | false => rw [if_neg (by decide)]; omega
    | true => rw [if_pos rfl]; omega
  simp only [hrange]

/-- A number in decimal digits has no mark of a hexadecimal one. -/
theorem isPrefixHex_digits {ds : List Char} (hds : ∀ c ∈ ds, c.isDigit) :
    isPrefixHex ds = false := by
  have hskip : skipWhiteSpace ds = ds := by
    cases ds with
    | nil => rfl
    | cons c ds =>
        refine skipWhiteSpace_append blank_nil (stops_cons.mpr ?_)
        exact Decimal.not_isSpace_of_isDigit (hds c List.mem_cons_self)
  rw [isPrefixHex, hskip]
  split
  next c rest =>
    have hc : c.isDigit := hds c (by simp)
    simp only [Bool.or_eq_false_iff, decide_eq_false_iff_not]
    constructor
    · rintro rfl
      exact absurd hc (by decide)
    · rintro rfl
      exact absurd hc (by decide)
  next => rfl

theorem isDigit_toString {n : Nat} {c : Char} (hc : c ∈ (toString n).toList) : c.isDigit := by
  rw [Nat.toString_eq_repr, Nat.toList_repr] at hc
  exact Nat.isDigit_of_mem_toDigits (by decide) (by decide) hc

theorem toInt_toString_nat {n : Nat} (hn : n < 2 ^ 63) :
    toInt scanHex (toString n) = some ((n : Int).bmod (2 ^ 32)) := by
  have hparse : Decimal.parse (toString n).toList = some (false, n) := by
    rw [Nat.toString_eq_repr, Nat.toList_repr, Decimal.parse_toDigits]
  rw [toInt_of_parse (isPrefixHex_digits fun _ hc => isDigit_toString hc) hparse hn,
    if_neg (by decide)]

/-- A serial number is read as the number it was, also where it is no `int`. -/
theorem toInt_toString_uint32 (sn : UInt32) :
    UInt32.ofInt ((toInt scanHex (toString sn)).getD 0) = sn := by
  have hsn : toString sn = toString sn.toNat := rfl
  have hlt : sn.toNat < 2 ^ 32 := sn.toNat_lt
  have hmod : ((sn.toNat : Int).bmod (2 ^ 32)) % 2 ^ 32 = sn.toNat := by
    rw [Int.bmod_def]
    split <;> omega
  rw [hsn, toInt_toString_nat (by omega), Option.getD_some, UInt32.ofInt, hmod, Int.toNat_natCast,
    UInt32.ofNat_toNat]

theorem parse_minus (n : Nat) :
    Decimal.parse ('-' :: Nat.toDigits 10 n) = some (true, n) := by
  have hdigits : ∀ c ∈ Nat.toDigits 10 n, c.isDigit := fun c hc =>
    Nat.isDigit_of_mem_toDigits (by decide) (by decide) hc
  have hdrop : ('-' :: Nat.toDigits 10 n).dropWhile Decimal.isSpace = '-' :: Nat.toDigits 10 n :=
    List.dropWhile_cons_of_neg (by decide)
  rw [Decimal.parse, hdrop, Decimal.splitSign]
  simp only [List.takeWhile_eq_self_iff.mpr hdigits, Nat.toDigits_ne_nil, if_false,
    Nat.ofDigitChars_ten_toDigits]

/-- A number that is an `int` is read as it was. -/
theorem toInt_toString_int {n : Int} (hlow : -2 ^ 31 ≤ n) (hhigh : n < 2 ^ 31) :
    toInt scanHex (toString n) = some n := by
  cases n with
  | ofNat n =>
      have hint : toString (Int.ofNat n) = toString n := rfl
      have hn : (Int.ofNat n : Int) = n := rfl
      rw [hn] at hhigh
      rw [hint, toInt_toString_nat (by omega), hn, Int.bmod_eq_of_le (by omega) (by omega)]
  | negSucc n =>
      have hstring : toString (Int.negSucc n) = "-" ++ toString (n + 1) := rfl
      have hint : (toString (Int.negSucc n)).toList = '-' :: (toString (n + 1)).toList := by
        rw [hstring, String.toList_append]
        rfl
      have hn : Int.negSucc n = -((n + 1 : Nat) : Int) := rfl
      have hparse : Decimal.parse (toString (Int.negSucc n)).toList = some (true, n + 1) := by
        rw [hint, Nat.toString_eq_repr, Nat.toList_repr, parse_minus]
      have hhex : isPrefixHex (toString (Int.negSucc n)).toList = false := by
        rw [hint]
        rfl
      rw [hn] at hlow
      rw [toInt_of_parse hhex hparse (by omega), if_pos rfl, hn,
        Int.bmod_eq_of_le (by omega) (by omega)]

end Tinyxml2

end SignalingServer
