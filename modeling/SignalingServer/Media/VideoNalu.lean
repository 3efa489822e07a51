import Mathlib.Data.List.Basic

/-!
NAL units in a byte stream (`media/videoNalu.hpp`). The bytes are read at
addresses, as the source does, also one place behind the end where a start code
stands at the very end. The asserts of the source are not compiled in.
-/

namespace SignalingServer

namespace VideoNalu

/-- `H264_NAL(v)`. -/
def h264Nal (v : UInt8) : Nat := (v &&& 0x1F).toNat

/-- `H265_NAL(v)`. -/
def h265Nal (v : UInt8) : Nat := ((v >>> 1) &&& 0x3f).toNat

def NAL_IDR : Nat := 5
def NAL_SPS : Nat := 7
def NAL_PPS : Nat := 8
def NAL_IDR_W_RADL : Nat := 19
def NAL_IDR_N_LP : Nat := 20
def NAL_VPS : Nat := 32
def NAL_SPS_5 : Nat := 33
def NAL_PPS_5 : Nat := 34

/-- The test of `search_start_code`: `00 00 01` or `00 00 00 01` at `p`. -/
def isStartCode (byte : Nat → UInt8) (p : Nat) : Bool :=
  byte p == 0 && byte (p + 1) == 0 &&
    (byte (p + 2) == 1 || (byte (p + 2) == 0 && byte (p + 3) == 1))

/-- `search_start_code`: the first start code from `ptr` on, else `stop`. The loop
runs while `p + 3 < stop`. -/
def searchStartCode (byte : Nat → UInt8) (ptr stop : Nat) : Nat :=
  ((List.range' ptr (stop - 3 - ptr)).find? (isStartCode byte)).getD stop

/-- The place of the first byte after the start code at `ptr`. -/
def startCodeEnd (byte : Nat → UInt8) (ptr : Nat) : Nat :=
  if byte (ptr + 2) == 0 then ptr + 4 else ptr + 3

/-- `h264_nal_type`. -/
def h264NalType (byte : Nat → UInt8) (ptr : Nat) : Nat := h264Nal (byte (startCodeEnd byte ptr))

/-- `h265_nal_type`. -/
def h265NalType (byte : Nat → UInt8) (ptr : Nat) : Nat := h265Nal (byte (startCodeEnd byte ptr))

/-- `h264_nal_new_access`: whether the NAL unit at `ptr` starts a new access unit. -/
def h264NalNewAccess (byte : Nat → UInt8) (ptr stop : Nat) : Bool :=
  if stop - ptr < 4 then true
  else if h264NalType byte ptr < 1 || h264NalType byte ptr > 5 then true
  else if startCodeEnd byte ptr + 1 > stop then true
  else byte (startCodeEnd byte ptr + 1) &&& 0x80 != 0

theorem searchStartCode_le (byte : Nat → UInt8) {ptr stop : Nat} (h : ptr ≤ stop) :
    ptr ≤ searchStartCode byte ptr stop ∧ searchStartCode byte ptr stop ≤ stop := by
  unfold searchStartCode
  cases hfind : (List.range' ptr (stop - 3 - ptr)).find? (isStartCode byte) with
  | none => exact ⟨h, Nat.le_refl stop⟩
  | some p =>
      have hmem := List.mem_of_find?_eq_some hfind
      rw [List.mem_range'_1] at hmem
      show ptr ≤ p ∧ p ≤ stop
      omega

/-- A start code that was found has four bytes before the end. -/
theorem searchStartCode_add_lt {byte : Nat → UInt8} {ptr stop : Nat}
    (h : searchStartCode byte ptr stop < stop) : searchStartCode byte ptr stop + 3 < stop := by
  unfold searchStartCode at h ⊢
  cases hfind : (List.range' ptr (stop - 3 - ptr)).find? (isStartCode byte) with
  | none =>
      rw [hfind] at h
      exact absurd h (Nat.lt_irrefl stop)
  | some p =>
      have hmem := List.mem_of_find?_eq_some hfind
      rw [List.mem_range'_1] at hmem
      show p + 3 < stop
      omega

/-- The NAL unit behind the one at `p`. -/
theorem next_nalu (byte : Nat → UInt8) {p stop : Nat} (h : p + 4 ≤ stop) :
    p < searchStartCode byte (p + 4) stop ∧ searchStartCode byte (p + 4) stop ≤ stop ∧
      (searchStartCode byte (p + 4) stop < stop →
        searchStartCode byte (p + 4) stop + 4 ≤ stop) := by
  obtain ⟨hle, hstop⟩ := searchStartCode_le byte h
  exact ⟨by omega, hstop, searchStartCode_add_lt⟩

/-- Data without a zero byte contains no start code. -/
theorem searchStartCode_eq_stop {byte : Nat → UInt8} {ptr stop : Nat}
    (h : ∀ q, ptr ≤ q → q < stop → byte q ≠ 0) : searchStartCode byte ptr stop = stop := by
  unfold searchStartCode
  rw [List.find?_eq_none.mpr, Option.getD_none]
  intro q hq hcode
  rw [List.mem_range'_1] at hq
  unfold isStartCode at hcode
  simp only [Bool.and_eq_true, beq_iff_eq] at hcode
  exact h q hq.1 (by omega) hcode.1.1

end VideoNalu

end SignalingServer
