import Mathlib.Data.Nat.Init
import SignalingServer.Lib.LeadBytes

/-!
`is_str_utf8` (tools/CodeConversion.cpp). Its argument is the list of the `len` bytes from `data`
on, and `data + i` is what is left of it, so that a read behind the end gives `none`.
-/

namespace SignalingServer

open LeadBytes

namespace StrUtf8

/-! ### The function -/

def preNUmLoop (byte : UInt8) : Nat → UInt8 → Nat → Nat
  | 0, _, num => num
  | i + 1, mask, num =>
      if byte &&& mask = mask then preNUmLoop byte i (mask >>> 1) (num + 1) else num

/-- `preNUm`: the number of ones at the front of a byte. -/
def preNUm (byte : UInt8) : Nat := preNUmLoop byte 8 0x80 0

/-- The loop over the bytes behind a lead byte: where it comes to, or that one of them is no
continuation byte. -/
def tailLoop : Nat → List UInt8 → Option (Option (List UInt8))
  | 0, data => some (some data)
  | _ + 1, [] => none
  | j + 1, b :: data => if b &&& 0xc0 ≠ 0x80 then some none else tailLoop j data

def scan : Nat → List UInt8 → Option Bool
  | _, [] => some true
  | 0, _ :: _ => none
  | fuel + 1, b :: data =>
      if b &&& 0x80 = 0 then scan fuel data
      else if preNUm b > 2 then
        (tailLoop (preNUm b - 1) data).bind fun
          | some data => scan fuel data
          | none => some false
      else some false

/-- `is_str_utf8`. -/
def isStrUtf8 (data : List UInt8) : Option Bool := scan data.length data

/-! ### The sequences -/

/-- The lengths of the six forms of the comment. -/
def formSize (b : UInt8) : Option Nat :=
  if b < 0x80 then some 1
  else if b < 0xc0 then none
  else if b < 0xe0 then some 2
  else if b < 0xf0 then some 3
  else if b < 0xf8 then some 4
  else if b < 0xfc then some 5
  else if b < 0xfe then some 6
  else none

/-- The lengths by which the loop goes on. -/
def scanSize (b : UInt8) : Option Nat :=
  if b &&& 0x80 = 0 then some 1 else if preNUm b > 2 then some (preNUm b) else none

/-- The lead byte of a sequence of two bytes: `110xxxxx`. -/
def IsLeadOfTwo (b : UInt8) : Prop := 0xc0 ≤ b ∧ b < 0xe0

instance (b : UInt8) : Decidable (IsLeadOfTwo b) := inferInstanceAs (Decidable (_ ∧ _))

theorem scanSize_eq : ∀ b : UInt8, (IsLeadOfTwo b → scanSize b = none) ∧
    (0xfe ≤ b → formSize b = none) ∧
      (¬ IsLeadOfTwo b → b < 0xfe → scanSize b = formSize b) :=
  forall_byte (by decide +kernel)

/-- A lead byte that is not ASCII has at least two bytes behind it. -/
theorem scanSize_cases (b : UInt8) :
    (b &&& 0x80 = 0 ∧ scanSize b = some 1) ∨
      (b &&& 0x80 ≠ 0 ∧ preNUm b > 2 ∧ scanSize b = some (preNUm b - 1 + 1)) ∨
      (b &&& 0x80 ≠ 0 ∧ ¬ preNUm b > 2 ∧ scanSize b = none) := by
  unfold scanSize
  by_cases hascii : b &&& 0x80 = 0
  · exact .inl ⟨hascii, if_pos hascii⟩
  · by_cases hnum : preNUm b > 2
    · refine .inr (.inl ⟨hascii, hnum, ?_⟩)
      rw [if_neg hascii, if_pos hnum, Nat.sub_add_cancel (Nat.le_of_lt (Nat.lt_of_succ_lt hnum))]
    · exact .inr (.inr ⟨hascii, hnum, by rw [if_neg hascii, if_neg hnum]⟩)

/-! ### What the loops find -/

theorem tailLoop_cons (n : Nat) (b : UInt8) (data : List UInt8) :
    tailLoop (n + 1) (b :: data) = if IsTail b then tailLoop n data else some none :=
  ite_not _ _ _

theorem tailLoop_cases (n : Nat) (data : List UInt8) :
    (n ≤ data.length ∧ (∀ c ∈ data.take n, IsTail c) ∧
        tailLoop n data = some (some (data.drop n))) ∨
      (data.length < n ∧ (∀ c ∈ data, IsTail c) ∧ tailLoop n data = none) ∨
      ((∃ c ∈ data.take n, ¬ IsTail c) ∧ tailLoop n data = some none) := by
  induction n generalizing data with
  | zero =>
      refine .inl ⟨Nat.zero_le _, ?_, rfl⟩
      rw [List.take_zero]
      exact fun c hc => absurd hc List.not_mem_nil
  | succ n ih =>
      cases data with
      | nil => exact .inr (.inl ⟨Nat.succ_pos n, fun c hc => absurd hc List.not_mem_nil, rfl⟩)
      | cons b data =>
          rw [tailLoop_cons, List.take_succ_cons, List.drop_succ_cons, List.length_cons]
          by_cases hb : IsTail b
          · rw [if_pos hb]
            rcases ih data with ⟨hle, hall, heq⟩ | ⟨hlt, hall, heq⟩ | ⟨⟨c, hc, hnot⟩, heq⟩
            · exact .inl ⟨Nat.succ_le_succ hle, List.forall_mem_cons.mpr ⟨hb, hall⟩, heq⟩
            · exact .inr (.inl ⟨Nat.succ_lt_succ hlt, List.forall_mem_cons.mpr ⟨hb, hall⟩, heq⟩)
            · exact .inr (.inr ⟨⟨c, List.mem_cons_of_mem b hc, hnot⟩, heq⟩)
          · rw [if_neg hb]
            exact .inr (.inr ⟨⟨b, List.mem_cons_self, hb⟩, rfl⟩)

/-- The loop reads behind the end where the bytes end inside a sequence, and it ends with true
where they are sequences, both by the lengths that it goes by. -/
theorem scan_spec (fuel : Nat) (data : List UInt8) (hfuel : data.length ≤ fuel) :
    (scan fuel data = none ↔ EndsInside scanSize data) ∧
      (scan fuel data = some true ↔ Splits scanSize data) := by
  induction fuel generalizing data with
  | zero =>
      rw [List.length_eq_zero_iff.mp (Nat.le_zero.mp hfuel)]
      exact ⟨iff_of_false (Option.some_ne_none _) not_endsInside_nil, iff_of_true rfl .nil⟩
  | succ fuel ih =>
      cases data with
      | nil => exact ⟨iff_of_false (Option.some_ne_none _) not_endsInside_nil, iff_of_true rfl .nil⟩
      | cons b data =>
          have hfuel' : data.length ≤ fuel := Nat.le_of_succ_le_succ hfuel
          rw [scan]
          rcases scanSize_cases b with
            ⟨hascii, hsize⟩ | ⟨hascii, hnum, hsize⟩ | ⟨hascii, hnum, hsize⟩
          · rw [if_pos hascii, (cons_of_one hsize).1, (cons_of_one hsize).2]
            exact ih data hfuel'
          · rw [if_neg hascii, if_pos hnum, splits_cons hsize, endsInside_cons hsize]
            rcases tailLoop_cases (preNUm b - 1) data with
              ⟨hle, hall, heq⟩ | ⟨hlt, hall, heq⟩ | ⟨⟨c, hc, hnot⟩, heq⟩
            · have hrest := ih (data.drop (preNUm b - 1))
                (Nat.le_trans (by rw [List.length_drop]; exact Nat.sub_le _ _) hfuel')
              rw [heq, and_iff_right hle, and_iff_right hall, and_iff_right hle, and_iff_right hall,
                or_iff_right fun h => Nat.not_lt.mpr hle h.1]
              exact hrest
            · rw [heq]
              exact ⟨iff_of_true rfl (.inl ⟨hlt, hall⟩), iff_of_false (Option.some_ne_none _).symm
                fun h => Nat.not_le.mpr hlt h.1⟩
            · rw [heq]
              refine ⟨iff_of_false (Option.some_ne_none _) ?_, iff_of_false nofun ?_⟩
              · rintro (⟨-, hall⟩ | ⟨-, hall, -⟩)
                · exact hnot (hall c (List.mem_of_mem_take hc))
                · exact hnot (hall c hc)
              · exact fun h => hnot (h.2.1 c hc)
          · rw [if_neg hascii, if_neg hnum]
            exact ⟨iff_of_false (Option.some_ne_none _) (not_cons_of_none hsize).2,
              iff_of_false nofun (not_cons_of_none hsize).1⟩

/-- The bytes on which the function is right: they do not end inside a sequence that the loop has
begun; they are not sequences of the six forms with one of two bytes among them; and they are not
sequences as the loop takes them with one that begins with `fe` or `ff`. -/
def Suits (data : List UInt8) : Prop :=
  ¬ EndsInside scanSize data ∧ ¬ (Splits formSize data ∧ ∃ b ∈ data, IsLeadOfTwo b) ∧
    ¬ (Splits scanSize data ∧ ∃ b ∈ data, 0xfe ≤ b)

/-- It reads only the bytes that are there, and returns true exactly for sequences of the six
forms. -/
def Recognises (data : List UInt8) : Prop :=
  ∃ ret, isStrUtf8 data = some ret ∧ (ret = true ↔ Splits formSize data)

/-- No byte of sequences by which the loop goes on is a lead byte for two. -/
theorem not_isLeadOfTwo {data : List UInt8} (h : Splits scanSize data) {b : UInt8} (hb : b ∈ data) :
    ¬ IsLeadOfTwo b := by
  intro htwo
  rcases h.lead_or_tail b hb with ⟨n, hsize⟩ | htail
  · rw [(scanSize_eq b).1 htwo] at hsize
    cases hsize
  · exact absurd htail.bounds.2 (UInt8.not_lt.mpr htwo.1)

/-- No byte of the six forms is `fe` or `ff`. -/
theorem not_long {data : List UInt8} (h : Splits formSize data) {b : UInt8} (hb : b ∈ data) :
    ¬ 0xfe ≤ b := by
  intro hlong
  rcases h.lead_or_tail b hb with ⟨n, hsize⟩ | htail
  · rw [(scanSize_eq b).2.1 hlong] at hsize
    cases hsize
  · exact absurd htail.bounds.2 (UInt8.not_lt.mpr (UInt8.le_trans (by decide) hlong))

theorem splits_form_iff {data : List UInt8}
    (htwo : ¬ (Splits formSize data ∧ ∃ b ∈ data, IsLeadOfTwo b))
    (hlong : ¬ (Splits scanSize data ∧ ∃ b ∈ data, 0xfe ≤ b)) :
    Splits scanSize data ↔ Splits formSize data := by
  constructor
  · intro h
    refine h.change fun b hb n hsize => ?_
    have hshort : b < 0xfe := UInt8.not_le.mp fun hle => hlong ⟨h, b, hb, hle⟩
    exact ((scanSize_eq b).2.2 (not_isLeadOfTwo h hb) hshort).symm.trans hsize
  · intro h
    refine h.change fun b hb n hsize => ?_
    have hnot : ¬ IsLeadOfTwo b := fun hlead => htwo ⟨h, b, hb, hlead⟩
    exact ((scanSize_eq b).2.2 hnot (UInt8.not_le.mp (not_long h hb))).trans hsize

/-- `is_str_utf8` recognises the forms of its comment exactly in these bytes. -/
theorem recognises_iff_suits (data : List UInt8) : Recognises data ↔ Suits data := by
  obtain ⟨hnone, htrue⟩ := scan_spec data.length data (Nat.le_refl _)
  constructor
  · rintro ⟨ret, hret, hform⟩
    have hscan : ret = true ↔ Splits scanSize data := by
      rw [← htrue, ← Option.some_inj, ← hret]
      rfl
    refine ⟨fun hends => ?_, ?_, ?_⟩
    · have hnone' : isStrUtf8 data = none := hnone.mpr hends
      rw [hret] at hnone'
      cases hnone'
    · rintro ⟨hsplits, b, hb, htwo⟩
      exact not_isLeadOfTwo (hscan.mp (hform.mpr hsplits)) hb htwo
    · rintro ⟨hsplits, b, hb, hlong⟩
      exact not_long (hform.mp (hscan.mpr hsplits)) hb hlong
  · rintro ⟨hends, htwo, hlong⟩
    cases hret : isStrUtf8 data with
    | none => exact absurd (hnone.mp hret) hends
    | some ret =>
        refine ⟨ret, hret, ?_⟩
        rw [← splits_form_iff htwo hlong, ← htrue, ← Option.some_inj, ← hret]
        rfl

example : isStrUtf8 [0x61, 0xe4, 0xb8, 0xad] = some true := by decide
example : isStrUtf8 [0xc3, 0xa9] = some false := by decide

/-- It rejects a sequence of two bytes, takes `fe` for a lead byte, and reads behind a lead byte at
the end. -/
theorem not_recognises :
    ¬ Recognises [0xc3, 0xa9] ∧ ¬ Recognises [0xfe, 0x80, 0x80, 0x80, 0x80, 0x80, 0x80] ∧
      ¬ Recognises [0x61, 0xe4] := by
  refine ⟨?_, ?_, ?_⟩
  · rintro ⟨ret, hret, hform⟩
    obtain rfl : ret = false := (Option.some.inj hret).symm
    have htail : ∀ c ∈ [(0xa9 : UInt8)], IsTail c := List.forall_mem_singleton.mpr (by decide)
    exact Bool.false_ne_true (hform.mpr (@Splits.cons _ 0xc3 [0xa9] [] rfl htail .nil))
  · rintro ⟨ret, hret, hform⟩
    obtain rfl : ret = true := (Option.some.inj hret).symm
    exact not_long (hform.mp rfl) List.mem_cons_self (by decide)
  · rintro ⟨ret, hret, -⟩
    cases hret

end StrUtf8

end SignalingServer
