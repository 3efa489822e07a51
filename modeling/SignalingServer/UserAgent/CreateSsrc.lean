import Mathlib.Data.List.Nodup
import SignalingServer.Lib.Ring
import SignalingServer.Tools.TypeConversion

/-!
The SSRC of a stream (`CreateSSRC` in UserAgentMgr.cpp): one character for its type, five for the
domain, and four digits of a counter that all streams share.
-/

namespace SignalingServer

namespace UaMgr

/-- `CreateSSRCseq` on `g_YSRCSeq`, which it returns. -/
def createSSRCseq (ySRCSeq : Nat) : Nat := (if ySRCSeq ≥ 0x270f then 0 else ySRCSeq) + 1

/-- `snprintf(buffer, sizeof(buffer), "%04d", seq)` with five bytes for `buffer`. -/
def seqText (seq : Nat) : String := .ofList (((Nat.toDigits 10 seq).leftpad 4 '0').take 4)

/-- What `CreateSSRC` puts in front of the number. -/
def ssrcFront (name streamId : String) : String :=
  (if name = "Play" then "0" else "1") ++
    if streamId.toList.length = 20 then substr streamId 3 5 else "00000"

/-- `UaMgr::CreateSSRC`, with the counter that it leaves. -/
def createSSRC (ySRCSeq : Nat) (name streamId : String) : Nat × String :=
  let seq := createSSRCseq ySRCSeq
  (seq, ssrcFront name streamId ++ seqText seq)

/-- The results of calls one after the other, with the type and the stream of each. -/
def createSSRCs : Nat → List (String × String) → List String
  | _, [] => []
  | ySRCSeq, (name, streamId) :: calls =>
      let (seq, ssrc) := createSSRC ySRCSeq name streamId
      ssrc :: createSSRCs seq calls

/-! ### The text of a number -/

theorem length_ssrcFront (name streamId : String) : (ssrcFront name streamId).toList.length = 6 := by
  have htype : (if name = "Play" then "0" else "1" : String).toList.length = 1 := by
    split <;> rfl
  have hdomain :
      (if streamId.toList.length = 20 then substr streamId 3 5 else "00000").toList.length = 5 := by
    split
    · rename_i hsize
      rw [toList_substr, List.length_take, List.length_drop, hsize]
      rfl
    · rfl
  rw [ssrcFront, String.toList_append, List.length_append, htype, hdomain]

theorem toList_seqText {seq : Nat} (hseq : seq < 10 ^ 4) :
    (seqText seq).toList = (Nat.toDigits 10 seq).leftpad 4 '0' := by
  rw [seqText, String.toList_ofList]
  exact List.take_of_length_le (Nat.le_of_eq (Decimal.length_leftpad (by decide) hseq))

theorem length_ssrc {seq : Nat} (hseq : seq < 10 ^ 4) (name streamId : String) :
    (ssrcFront name streamId ++ seqText seq).toList.length = 10 := by
  rw [String.toList_append, List.length_append, length_ssrcFront, toList_seqText hseq,
    Decimal.length_leftpad (by decide) hseq]

/-- The number of an SSRC can be read from it. -/
theorem seq_of_ssrc {seq seq' : Nat} (hseq : seq < 10 ^ 4) (hseq' : seq' < 10 ^ 4)
    {name name' streamId streamId' : String}
    (h : ssrcFront name streamId ++ seqText seq = ssrcFront name' streamId' ++ seqText seq') :
    seq = seq' := by
  have hchars := congrArg String.toList h
  rw [String.toList_append, String.toList_append] at hchars
  have hfront := (length_ssrcFront name streamId).trans (length_ssrcFront name' streamId').symm
  have hdigits := List.append_inj_right hchars hfront
  rw [toList_seqText hseq, toList_seqText hseq'] at hdigits
  exact Decimal.leftpad_inj hdigits

/-! ### The counter -/

/-- The counter goes round: behind the number of `k` comes that of `k + 1`. -/
def seqAt (k : Nat) : Nat := k % 9999 + 1

theorem seqAt_lt (k : Nat) : seqAt k < 10 ^ 4 := by
  have hmod := Nat.mod_lt k (by decide : 0 < 9999)
  rw [seqAt]
  omega

theorem createSSRCseq_seqAt (k : Nat) : createSSRCseq (seqAt k) = seqAt (k + 1) := by
  rw [createSSRCseq, seqAt, seqAt]
  split <;> omega

theorem exists_seqAt (ySRCSeq : Nat) : ∃ k, createSSRCseq ySRCSeq = seqAt k := by
  rw [createSSRCseq]
  split
  · exact ⟨0, rfl⟩
  · exact ⟨ySRCSeq, by rw [seqAt]; omega⟩

/-- The calls get the numbers one after the other. -/
theorem createSSRCs_getElem? {ySRCSeq k : Nat} (hk : createSSRCseq ySRCSeq = seqAt k)
    (calls : List (String × String)) (i : Nat) :
    (createSSRCs ySRCSeq calls)[i]? =
      (calls[i]?).map fun call => ssrcFront call.1 call.2 ++ seqText (seqAt (k + i)) := by
  induction calls generalizing ySRCSeq k i with
  | nil => rfl
  | cons call calls ih =>
      obtain ⟨name, streamId⟩ := call
      rw [createSSRCs, createSSRC, hk]
      cases i with
      | zero => rfl
      | succ i =>
          have hnext := ih (createSSRCseq_seqAt k) i
          rw [show k + (i + 1) = k + 1 + i by omega]
          exact hnext

/-- In a run of any length, from any value of the counter, every SSRC has ten characters, and
9999 of them one after the other are distinct. -/
theorem createSSRCs_distinct (ySRCSeq : Nat) (calls : List (String × String)) :
    (∀ ssrc ∈ createSSRCs ySRCSeq calls, ssrc.toList.length = 10) ∧
      ∀ first, (((createSSRCs ySRCSeq calls).drop first).take 9999).Nodup := by
  obtain ⟨k, hk⟩ := exists_seqAt ySRCSeq
  have hget := createSSRCs_getElem? hk calls
  constructor
  · intro ssrc hssrc
    obtain ⟨i, hi⟩ := List.mem_iff_getElem?.mp hssrc
    rw [hget] at hi
    obtain ⟨call, -, rfl⟩ := Option.map_eq_some_iff.mp hi
    exact length_ssrc (seqAt_lt _) _ _
  · intro first
    rw [List.nodup_iff_getElem?_ne_getElem?]
    intro i j hij hj heq
    have hwindow : j < 9999 := by
      rw [List.length_take] at hj
      omega
    obtain ⟨ssrc, hssrc⟩ : ∃ ssrc, (((createSSRCs ySRCSeq calls).drop first).take 9999)[j]? =
        some ssrc := ⟨_, List.getElem?_eq_getElem hj⟩
    rw [hssrc, List.getElem?_take_of_lt (by omega), List.getElem?_drop, hget] at heq
    rw [List.getElem?_take_of_lt hwindow, List.getElem?_drop, hget] at hssrc
    obtain ⟨call, -, rfl⟩ := Option.map_eq_some_iff.mp hssrc
    obtain ⟨call', -, hsame⟩ := Option.map_eq_some_iff.mp heq
    -- less than a round lies between the two
    have hseq := seq_of_ssrc (seqAt_lt _) (seqAt_lt _) hsame
    exact Ring.mod_ne (Nat.le_refl (k + (first + i))) (by omega) (by omega) (by omega) (by omega)
      (Nat.succ_inj.mp hseq)

end UaMgr

end SignalingServer
