import Mathlib.Data.List.Forall2
import SignalingServer.Media.AccessUnits

/-!
What `Init264` and `Init265` keep of the parameter sets of a stream. `Init265` copies the NAL
unit. `Init264` copies from the NAL unit on as many bytes as there are from the beginning of the
access unit, so that the copy is right for the first NAL unit of an access unit only.
-/

namespace SignalingServer

namespace FrameMemPool

open VideoNalu

/-! ### What is stored -/

/-- What a round of `Init264` stores as SPS or PPS. -/
def stored264 (pool : FrameMemPool) (s : Scan) : Option (List UInt8) :=
  let byte := pool.mem.bytes s.half
  let pn := searchStartCode byte (s.p + 4) s.stop
  let nal_unit_type := h264NalType byte s.p
  if nal_unit_type ≤ 5 && h264NalNewAccess byte pn s.stop then none
  else if pool.vpsspspps && (nal_unit_type == NAL_SPS || nal_unit_type == NAL_PPS) then
    some (pool.parameterSet s (pn - s.nalu))
  else none

/-- What a round of `Init265` stores as SPS, PPS or VPS. -/
def stored265 (pool : FrameMemPool) (s : Scan) : Option (List UInt8) :=
  let byte := pool.mem.bytes s.half
  let pn := searchStartCode byte (s.p + 4) s.stop
  let nal_unit_type := h265NalType byte s.p
  if s.vpsspspps &&
      (nal_unit_type == NAL_SPS_5 || nal_unit_type == NAL_PPS_5 || nal_unit_type == NAL_VPS) then
    some (pool.parameterSet s (pn - s.nalu))
  else none

def stored (pool : FrameMemPool) (s : Scan) : Option (List UInt8) :=
  match pool.frameType with
  | .GB_CODEC_UNKNOWN => none
  | .GB_CODEC_H264 => pool.stored264 s
  | .GB_CODEC_H265 => pool.stored265 s

/-- What the rounds of the loop store, one after the other. -/
def storedSets : Nat → FrameMemPool → Scan → List (Option (List UInt8))
  | 0, _, _ => []
  | fuel + 1, pool, s =>
      if s.p < s.stop then
        pool.stored s :: storedSets fuel (pool.scan s).1 (pool.scan s).2
      else []

section

variable {pool : FrameMemPool} {s : Scan} {u : NalUnit} {us : List NalUnit}

/-- A round of `Init264` changes the sets by what it stores. -/
theorem scan264_sets (pool : FrameMemPool) (s : Scan) :
    (pool.scan264 s).1.sps =
        (if h264NalType (pool.mem.bytes s.half) s.p = NAL_SPS then pool.stored264 s
          else none).or pool.sps ∧
      (pool.scan264 s).1.pps =
        (if h264NalType (pool.mem.bytes s.half) s.p = NAL_PPS then pool.stored264 s
          else none).or pool.pps ∧
      (pool.scan264 s).1.vps = pool.vps := by
  unfold scan264 stored264
  dsimp only
  by_cases hends : (decide (h264NalType (pool.mem.bytes s.half) s.p ≤ 5) &&
      h264NalNewAccess (pool.mem.bytes s.half)
        (searchStartCode (pool.mem.bytes s.half) (s.p + 4) s.stop) s.stop) = true
  · simp only [if_pos hends, ite_self, Option.none_or]
    exact ⟨rfl, rfl, rfl⟩
  · simp only [if_neg hends]
    cases pool.vpsspspps with
    | false => simp
    | true =>
        by_cases hsps : h264NalType (pool.mem.bytes s.half) s.p = NAL_SPS
        · simp [hsps, NAL_SPS, NAL_PPS]
        · by_cases hpps : h264NalType (pool.mem.bytes s.half) s.p = NAL_PPS
          · simp [hpps, NAL_SPS, NAL_PPS]
          · simp [hsps, hpps]

/-- So does a round of `Init265`. -/
theorem scan265_sets (pool : FrameMemPool) (s : Scan) :
    (pool.scan265 s).1.sps =
        (if h265NalType (pool.mem.bytes s.half) s.p = NAL_SPS_5 then pool.stored265 s
          else none).or pool.sps ∧
      (pool.scan265 s).1.pps =
        (if h265NalType (pool.mem.bytes s.half) s.p = NAL_PPS_5 then pool.stored265 s
          else none).or pool.pps ∧
      (pool.scan265 s).1.vps =
        (if h265NalType (pool.mem.bytes s.half) s.p = NAL_VPS then pool.stored265 s
          else none).or pool.vps := by
  unfold scan265 stored265 keep265 pushNalu pushFrame
  dsimp only
  cases s.vpsspspps with
  | false => simp
  | true =>
      by_cases hsps : h265NalType (pool.mem.bytes s.half) s.p = NAL_SPS_5
      · simp [hsps, NAL_SPS_5, NAL_PPS_5, NAL_VPS]
      · by_cases hpps : h265NalType (pool.mem.bytes s.half) s.p = NAL_PPS_5
        · simp [hpps, NAL_SPS_5, NAL_PPS_5, NAL_VPS]
        · by_cases hvps : h265NalType (pool.mem.bytes s.half) s.p = NAL_VPS
          · simp [hvps, NAL_SPS_5, NAL_PPS_5, NAL_VPS]
          · simp [hsps, hpps, hvps]

/-! ### What is stored at a NAL unit -/

theorem read_of_holds {half : PoolHalf} {q : Nat} {bs : List UInt8}
    (h : Holds (pool.mem.bytes half) q bs) : pool.mem.read ⟨half, q⟩ bs.length = bs := by
  apply List.ext_getElem?
  intro i
  rw [AvMemPool.read, List.getElem?_map]
  rcases Nat.lt_or_ge i bs.length with hlt | hge
  · rw [List.getElem?_range hlt, Option.map_some, List.getElem?_eq_getElem hlt]
    exact congrArg some (h i _ (List.getElem?_eq_getElem hlt))
  · rw [List.getElem?_eq_none hge, List.getElem?_eq_none (by rw [List.length_range]; exact hge)]
    rfl

/-- The copy is the NAL unit exactly where the access unit begins with it. -/
theorem parameterSet_eq_iff (h : AtUnits (pool.mem.bytes s.half) s.p s.stop (u :: us))
    (hle : s.nalu ≤ s.p) :
    pool.parameterSet s (s.p + u.encode.length - s.nalu) = u.nal ↔ s.nalu = s.p := by
  obtain ⟨-, hcode, hnal⟩ := Holds.startCodeEnd h.holds
  have hlen : u.encode.length = u.startCode.length + u.nal.length := List.length_append
  have hpos : 0 < u.nal.length := Nat.succ_pos _
  have hset : pool.parameterSet s (s.p + u.encode.length - s.nalu) =
      pool.mem.read ⟨s.half, s.p + u.startCode.length⟩
        (s.p + u.encode.length - s.nalu - u.startCode.length) := by
    unfold parameterSet
    rw [hcode, u.length_startCode]
    cases u.long with
    | true => rfl
    | false => rfl
  rw [hset]
  constructor
  · intro heq
    have hlength := congrArg List.length heq
    rw [AvMemPool.length_read] at hlength
    omega
  · intro heq
    rw [show s.p + u.encode.length - s.nalu - u.startCode.length = u.nal.length by omega]
    exact read_of_holds hnal.append.1

/-- The sets that are stored are parameter sets, copied as they are. -/
def ExactSet (isSet : NalUnit → Bool) (u : NalUnit) (stored : Option (List UInt8)) : Prop :=
  ∀ bs ∈ stored, isSet u = true ∧ bs = u.nal

theorem exactSet_none (isSet : NalUnit → Bool) (u : NalUnit) : ExactSet isSet u none := by
  intro bs hbs
  cases hbs

/-- Every SPS and PPS that `Init264` stores is the first NAL unit of its access unit. `wanted` is
`vpsspspps`, `sps` and `pps` say which sets are there, and `first` whether an access unit begins. -/
def FirstInUnit (wanted sps pps first : Bool) : List NalUnit → Prop
  | [] => True
  | u :: us =>
      if endsUnit u us then FirstInUnit (if sps && pps then false else wanted) sps pps true us
      else if wanted && h264Nal u.header == NAL_SPS then
        first = true ∧ FirstInUnit wanted true pps false us
      else if wanted && h264Nal u.header == NAL_PPS then
        first = true ∧ FirstInUnit wanted sps true false us
      else FirstInUnit wanted sps pps false us

/-- A round of `Init264` at a NAL unit. -/
theorem scan264_at (h : AtUnits (pool.mem.bytes s.half) s.p s.stop (u :: us)) :
    pool.scan264 s =
      if endsUnit u us then
        (pool.pushAccessUnit ⟨s.half, s.nalu⟩ (s.p + u.encode.length - s.nalu)
            (h264Nal u.header == NAL_IDR),
          { s with nalu := s.p + u.encode.length, p := s.p + u.encode.length })
      else if pool.vpsspspps && h264Nal u.header == NAL_SPS then
        ({ pool with sps := some (pool.parameterSet s (s.p + u.encode.length - s.nalu)) },
          { s with p := s.p + u.encode.length })
      else if pool.vpsspspps && h264Nal u.header == NAL_PPS then
        ({ pool with pps := some (pool.parameterSet s (s.p + u.encode.length - s.nalu)) },
          { s with p := s.p + u.encode.length })
      else (pool, { s with p := s.p + u.encode.length }) := by
  obtain ⟨hsearch, htype, -, hnew⟩ := h.calls
  unfold scan264 endsUnit
  dsimp only
  rw [hsearch, htype, hnew]

theorem stored264_at (h : AtUnits (pool.mem.bytes s.half) s.p s.stop (u :: us)) :
    pool.stored264 s =
      if endsUnit u us then none
      else if pool.vpsspspps &&
          (h264Nal u.header == NAL_SPS || h264Nal u.header == NAL_PPS) then
        some (pool.parameterSet s (s.p + u.encode.length - s.nalu))
      else none := by
  obtain ⟨hsearch, htype, -, hnew⟩ := h.calls
  unfold stored264 endsUnit
  dsimp only
  rw [hsearch, htype, hnew]

/-- At the end there is no round. -/
theorem storedSets_nil {fuel : Nat} (h : ¬ s.p < s.stop) : storedSets fuel pool s = [] := by
  cases fuel with
  | zero => rfl
  | succ fuel => rw [storedSets, if_neg h]

/-- The rounds of `Init264` store what they should exactly where the sets come first. -/
theorem storedSets_264 (units : List NalUnit) (fuel : Nat) (first : Bool)
    (h : AtUnits (pool.mem.bytes s.half) s.p s.stop units)
    (htype : pool.frameType = .GB_CODEC_H264) (hle : s.nalu ≤ s.p)
    (hfirst : first = true ↔ s.nalu = s.p) (hfuel : units.length ≤ fuel) :
    List.Forall₂ (ExactSet NalUnit.isSet264) units (storedSets fuel pool s) ↔
      FirstInUnit pool.vpsspspps pool.sps.isSome pool.pps.isSome first units := by
  induction units generalizing fuel first pool s with
  | nil =>
      rw [storedSets_nil h.not_lt]
      exact iff_of_true .nil trivial
  | cons u us ih =>
      obtain ⟨fuel, rfl⟩ := Nat.exists_eq_add_one_of_ne_zero (Nat.ne_zero_of_lt hfuel)
      have hfuel' : us.length ≤ fuel := Nat.le_of_succ_le_succ hfuel
      have hlonger : s.p < s.p + u.encode.length := by
        rw [u.length_encode]
        omega
      have hscan : pool.scan s = pool.scan264 s := by rw [scan, htype]
      have hstored : pool.stored s = pool.stored264 s := by rw [stored, htype]
      have hset := parameterSet_eq_iff h hle
      rw [storedSets, if_pos h.lt, hstored, stored264_at h, hscan, scan264_at h, FirstInUnit,
        List.forall₂_cons]
      by_cases hends : endsUnit u us = true
      · rw [if_pos hends, if_pos hends, if_pos hends]
        rw [and_iff_right (exactSet_none _ u)]
        exact ih fuel true h.next htype (Nat.le_refl _) (iff_of_true rfl rfl) hfuel'
      · rw [if_neg hends, if_neg hends, if_neg hends]
        have hbehind : (false = true) ↔ s.nalu = s.p + u.encode.length :=
          iff_of_false Bool.false_ne_true (by omega)
        -- a set is right when it is the first NAL unit
        have hexact : (h264Nal u.header == NAL_SPS || h264Nal u.header == NAL_PPS) = true →
            (ExactSet NalUnit.isSet264 u
              (some (pool.parameterSet s (s.p + u.encode.length - s.nalu))) ↔ first = true) := by
          intro hkind
          rw [hfirst, ← hset]
          constructor
          · exact fun hall => (hall _ rfl).2
          · rintro heq bs ⟨⟩
            exact ⟨hkind, heq⟩
        by_cases hsps : (pool.vpsspspps && h264Nal u.header == NAL_SPS) = true
        · obtain ⟨hwanted, hkind⟩ := Bool.and_eq_true_iff.mp hsps
          have heither : (h264Nal u.header == NAL_SPS || h264Nal u.header == NAL_PPS) = true := by
            rw [hkind, Bool.true_or]
          rw [if_pos hsps, if_pos hsps, if_pos (Bool.and_eq_true_iff.mpr ⟨hwanted, heither⟩),
            hexact heither]
          exact and_congr_right fun _ =>
            ih fuel false h.next htype (Nat.le_trans hle (Nat.le_of_lt hlonger)) hbehind hfuel'
        · rw [if_neg hsps, if_neg hsps]
          by_cases hpps : (pool.vpsspspps && h264Nal u.header == NAL_PPS) = true
          · obtain ⟨hwanted, hkind⟩ := Bool.and_eq_true_iff.mp hpps
            have heither :
                (h264Nal u.header == NAL_SPS || h264Nal u.header == NAL_PPS) = true := by
              rw [hkind, Bool.or_true]
            rw [if_pos hpps, if_pos hpps, if_pos (Bool.and_eq_true_iff.mpr ⟨hwanted, heither⟩),
              hexact heither]
            exact and_congr_right fun _ =>
              ih fuel false h.next htype (Nat.le_trans hle (Nat.le_of_lt hlonger)) hbehind hfuel'
          · have hneither : ¬ (pool.vpsspspps &&
                (h264Nal u.header == NAL_SPS || h264Nal u.header == NAL_PPS)) = true := by
              rw [Bool.and_or_distrib_left, Bool.or_eq_true]
              exact not_or.mpr ⟨hsps, hpps⟩
            rw [if_neg hpps, if_neg hpps, if_neg hneither, and_iff_right (exactSet_none _ u)]
            exact ih fuel false h.next htype (Nat.le_trans hle (Nat.le_of_lt hlonger)) hbehind
              hfuel'

/-- The rounds of `Init265` store what they should: `nalu` is always at the NAL unit. -/
theorem storedSets_265 (units : List NalUnit) (fuel : Nat)
    (h : AtUnits (pool.mem.bytes s.half) s.p s.stop units)
    (htype : pool.frameType = .GB_CODEC_H265) (hnalu : s.nalu = s.p)
    (hfuel : units.length ≤ fuel) :
    List.Forall₂ (ExactSet NalUnit.isSet265) units (storedSets fuel pool s) := by
  induction units generalizing fuel pool s with
  | nil =>
      rw [storedSets_nil h.not_lt]
      exact .nil
  | cons u us ih =>
      obtain ⟨fuel, rfl⟩ := Nat.exists_eq_add_one_of_ne_zero (Nat.ne_zero_of_lt hfuel)
      obtain ⟨hsearch, -, hkind, -⟩ := h.calls
      have hsame := pool.scan_same s
      have hnext : (pool.scan s).2.half = s.half ∧ (pool.scan s).2.stop = s.stop ∧
          (pool.scan s).2.p = s.p + u.encode.length ∧
          (pool.scan s).2.nalu = s.p + u.encode.length := by
        rw [scan, htype]
        unfold scan265
        dsimp only
        rw [hsearch]
        exact ⟨rfl, rfl, rfl, rfl⟩
      obtain ⟨hhalf, hstop, hp, hn⟩ := hnext
      have hstored : pool.stored s = pool.stored265 s := by rw [stored, htype]
      rw [storedSets, if_pos h.lt, hstored]
      refine .cons ?_ (ih fuel ?_ (hsame.frameType.trans htype) (hn.trans hp.symm)
        (Nat.le_of_succ_le_succ hfuel))
      · unfold stored265
        dsimp only
        rw [hsearch, hkind]
        split
        · rename_i hset
          rintro bs ⟨⟩
          exact ⟨(Bool.and_eq_true_iff.mp hset).2,
            (parameterSet_eq_iff h (Nat.le_of_eq hnalu)).mpr hnalu⟩
        · exact exactSet_none _ u
      · rw [hsame.mem, hhalf, hstop, hp]
        exact h.next

end

end FrameMemPool

end SignalingServer
