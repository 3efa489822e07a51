import SignalingServer.Media.AnnexB
import SignalingServer.Media.PoolTimeline

/-!
The frames that `Init264` cuts an H.264 stream into: one after the other they are the stream, and
each one ends with a slice.
-/

namespace SignalingServer

namespace FrameMemPool

open VideoNalu

/-- The frames are the NAL units from the place `start` on, cut behind slices: every frame begins
where the one before it ends, and it is an IDR frame just when its last NAL unit is one. -/
inductive Cover (half : PoolHalf) : Nat → List NalUnit → List VFrame → Prop
  | nil {start} : Cover half start [] []
  | cons {start group last units frame frames}
      (nalu : frame.nalu = some ⟨half, start⟩)
      (bytes : frame.bytes = (stream (group ++ [last])).length)
      (slice : IsSlice (h264Nal last.header))
      (idr : frame.idr = true ↔ h264Nal last.header = NAL_IDR)
      (rest : Cover half (start + frame.bytes) units frames) :
      Cover half start (group ++ last :: units) (frame :: frames)

/-- Whether `Init264` ends an access unit with `u`, when `us` follow. -/
def endsUnit (u : NalUnit) (us : List NalUnit) : Bool :=
  decide (h264Nal u.header ≤ 5) && newAccess us

section

variable {pool : FrameMemPool} {s : Scan} {u : NalUnit} {us : List NalUnit}

/-- The local variables behind a round of `Init264`. -/
theorem scan264_snd (h : AtUnits (pool.mem.bytes s.half) s.p s.stop (u :: us)) :
    (pool.scan264 s).2 =
      if endsUnit u us then { s with nalu := s.p + u.encode.length, p := s.p + u.encode.length }
      else { s with p := s.p + u.encode.length } := by
  obtain ⟨hsearch, htype, -, hnew⟩ := h.calls
  unfold scan264 endsUnit
  dsimp only
  rw [hsearch, htype, hnew]
  split
  · rfl
  · split
    · rfl
    · split
      · rfl
      · rfl

theorem frames264_eq (h : AtUnits (pool.mem.bytes s.half) s.p s.stop (u :: us)) :
    ∃ time gap seq, pool.frames264 s =
      if endsUnit u us then
        [{ nalu := some ⟨s.half, s.nalu⟩, time := time, bytes := s.p + u.encode.length - s.nalu,
           idr := h264Nal u.header == NAL_IDR, frameType := 0, gap := gap, seq := seq }]
      else [] := by
  obtain ⟨hsearch, htype, -, hnew⟩ := h.calls
  refine ⟨frameTime pool.fgap pool.frameIndex, pool.fgap, pool.pushed, ?_⟩
  unfold frames264 endsUnit
  dsimp only
  rw [hsearch, htype, hnew]

theorem stream_concat (us : List NalUnit) (u : NalUnit) :
    (stream (us ++ [u])).length = (stream us).length + u.encode.length := by
  rw [stream_append, List.length_append, stream, stream, List.append_nil]

/-- The loop from a NAL unit on, where `pending` are those from `nalu` to `p`. The number of
rounds is the number of units. -/
theorem scanFrames_cover (units pending : List NalUnit) (fuel : Nat)
    (h : AtUnits (pool.mem.bytes s.half) s.p s.stop units)
    (htype : pool.frameType = .GB_CODEC_H264)
    (htypes : ∀ u ∈ units, h264Nal u.header ≠ 0)
    (hlast : ∀ u ∈ units.getLast?, IsSlice (h264Nal u.header))
    (hnalu : s.nalu + (stream pending).length = s.p) (hpending : units = [] → pending = [])
    (hfuel : units.length ≤ fuel) :
    (scanLoop fuel pool s).2.p = s.stop ∧
      Cover s.half s.nalu (pending ++ units) (scanFrames fuel pool s) := by
  induction units generalizing pending fuel pool s with
  | nil =>
      have hstop : s.p = s.stop := h.stop.symm
      rw [hpending rfl]
      cases fuel with
      | zero => exact ⟨hstop, .nil⟩
      | succ fuel =>
          rw [scanLoop, scanFrames, if_neg h.not_lt, if_neg h.not_lt]
          exact ⟨hstop, .nil⟩
  | cons u us ih =>
      obtain ⟨fuel, rfl⟩ := Nat.exists_eq_add_one_of_ne_zero (Nat.ne_zero_of_lt hfuel)
      have hscan : pool.scan s = pool.scan264 s := by rw [scan, htype]
      have hframes : pool.roundFrames s = pool.frames264 s := by rw [roundFrames, htype]
      have hsame := pool.scan_same s
      have htypes' : ∀ v ∈ us, h264Nal v.header ≠ 0 :=
        fun v hv => htypes v (List.mem_cons_of_mem u hv)
      have hlast' : ∀ v ∈ us.getLast?, IsSlice (h264Nal v.header) := by
        intro v hv
        apply hlast v
        rw [List.getLast?_cons, Option.mem_def.mp hv]
        rfl
      have hround := scan264_snd h
      obtain ⟨time, gap, seq, hpushed⟩ := frames264_eq h
      rw [scanLoop, scanFrames, if_pos h.lt, if_pos h.lt, hframes, hpushed]
      rw [← hscan] at hround
      by_cases hends : endsUnit u us = true
      · -- the units from `nalu` on are a frame, and nothing is pending behind it
        rw [if_pos hends] at hround ⊢
        have hnext : AtUnits ((pool.scan s).1.mem.bytes (pool.scan s).2.half) (pool.scan s).2.p
            (pool.scan s).2.stop us := by
          rw [hsame.mem, hround]
          exact h.next
        obtain ⟨hp, hcover⟩ := ih [] fuel hnext (hsame.frameType.trans htype) htypes' hlast'
          (by rw [hround]; rfl) (fun _ => rfl) (Nat.le_of_succ_le_succ hfuel)
        have hbytes : s.p + u.encode.length - s.nalu = (stream (pending ++ [u])).length := by
          rw [stream_concat]
          omega
        rw [hround] at hp hcover
        rw [hround]
        refine ⟨hp, .cons rfl hbytes ?_ beq_iff_eq ?_⟩
        · have hle := of_decide_eq_true (Bool.and_eq_true_iff.mp hends).1
          have hne := htypes u List.mem_cons_self
          exact ⟨Nat.pos_of_ne_zero hne, hle⟩
        · have hplace : s.nalu + (s.p + u.encode.length - s.nalu) = s.p + u.encode.length := by
            omega
          dsimp only
          rw [hplace]
          exact hcover
      · rw [if_neg hends] at hround ⊢
        have hnext : AtUnits ((pool.scan s).1.mem.bytes (pool.scan s).2.half) (pool.scan s).2.p
            (pool.scan s).2.stop us := by
          rw [hsame.mem, hround]
          exact h.next
        have hmore : us = [] → pending ++ [u] = [] := by
          rintro rfl
          -- the last unit is a slice, and ends its access unit
          have hslice := hlast u rfl
          exact absurd (Bool.and_eq_true_iff.mpr ⟨decide_eq_true hslice.2, rfl⟩) hends
        obtain ⟨hp, hcover⟩ := ih (pending ++ [u]) fuel hnext (hsame.frameType.trans htype)
          htypes' hlast' (by rw [hround, stream_concat]; dsimp only; omega) hmore
          (Nat.le_of_succ_le_succ hfuel)
        rw [hround, List.append_assoc] at hcover
        rw [hround] at hp ⊢
        exact ⟨hp, hcover⟩

/-- The bytes that are read are in the buffer. -/
theorem holds_read {readPtr : PoolPtr} {data : List UInt8}
    (hdata : pool.mem.read readPtr pool.mem.readSize = data) :
    Holds (pool.mem.bytes readPtr.half) readPtr.pos data ∧ pool.mem.readSize = data.length :=
  Holds.of_read hdata

/-- The loop begins at the first start code of the data. -/
theorem startScan_at {readPtr : PoolPtr} {lead : List UInt8} {units : List NalUnit}
    (hdata : pool.mem.read readPtr pool.mem.readSize = lead ++ stream units)
    (hlead : NoCode lead (stream units)) (hw : WellFormed units) :
    AtUnits (pool.mem.bytes readPtr.half) (readPtr.pos + lead.length)
        (readPtr.pos + pool.mem.readSize) units ∧
      pool.startScan readPtr =
        { half := readPtr.half, stop := readPtr.pos + pool.mem.readSize
          nalu := readPtr.pos + lead.length, p := readPtr.pos + lead.length } := by
  obtain ⟨hholds, hsize⟩ := holds_read hdata
  obtain ⟨hsearch, hat⟩ := atUnits_search hholds hlead hw
  rw [← hsize] at hsearch hat
  refine ⟨hat, ?_⟩
  unfold startScan
  dsimp only
  rw [hsearch]

/-- The loop has a round for every unit. -/
theorem length_le_readSize {readPtr : PoolPtr} {lead : List UInt8} {units : List NalUnit}
    (hdata : pool.mem.read readPtr pool.mem.readSize = lead ++ stream units) :
    units.length ≤ pool.mem.readSize := by
  have hle := length_le_stream units
  rw [(holds_read hdata).2, List.length_append]
  omega

/-- `Init264` comes to the end of a stream whose last NAL unit is a slice, and the frames that it
puts into the queue are the stream from its first start code on, cut behind slices. -/
theorem init264_cover {readPtr : PoolPtr} (lead : List UInt8) (units : List NalUnit)
    (htype : pool.frameType = .GB_CODEC_H264) (hptr : pool.mem.readPtr = some readPtr)
    (hdata : pool.mem.read readPtr pool.mem.readSize = lead ++ stream units)
    (hlead : NoCode lead (stream units)) (hw : WellFormed units)
    (htypes : ∀ u ∈ units, h264Nal u.header ≠ 0)
    (hlast : ∀ u ∈ units.getLast?, IsSlice (h264Nal u.header)) :
    (scanLoop pool.mem.readSize pool (pool.startScan readPtr)).2.p =
        readPtr.pos + pool.mem.readSize ∧
      Cover readPtr.half (readPtr.pos + lead.length) units pool.initFrames ∧
      pool.init.queue = pool.initFrames.foldl UnLockQueue.push pool.queue := by
  obtain ⟨hat, hstart⟩ := startScan_at hdata hlead hw
  obtain ⟨hend, hcover⟩ := scanFrames_cover units [] pool.mem.readSize
    (hstart ▸ hat : AtUnits (pool.mem.bytes (pool.startScan readPtr).half)
      (pool.startScan readPtr).p (pool.startScan readPtr).stop units)
    htype htypes hlast (by rw [hstart]; rfl) (fun _ => rfl)
    (length_le_readSize hdata)
  have hframes : pool.initFrames = scanFrames pool.mem.readSize pool (pool.startScan readPtr) :=
    (init_of_ptr (by rw [htype]; exact StreamCodec.noConfusion) hptr).2
  refine ⟨?_, ?_, init_queue pool⟩
  · rw [hend, hstart]
  · rw [hstart] at hcover
    rw [hframes, hstart]
    exact hcover

/-- A pool that has just taken data in. -/
def filledPool (type : StreamCodec) (data : List UInt8) : FrameMemPool :=
  { new 64 true default with
    frameType := type
    mem := ((AvMemPool.new 64 true default).copyData .buf data) }

/-- An SPS, an IDR slice and the first slice of the next picture. -/
def sampleUnits : List NalUnit :=
  [⟨true, 0x67, [0x42, 0x10]⟩, ⟨false, 0x65, [0x88, 0x84]⟩, ⟨true, 0x41, [0x9a]⟩]

def samplePool : FrameMemPool := filledPool .GB_CODEC_H264 (0xFF :: stream sampleUnits)

theorem init264_cover_sample :
    (scanLoop samplePool.mem.readSize samplePool (samplePool.startScan ⟨.buf, 0⟩)).2.p =
        0 + samplePool.mem.readSize ∧
      Cover .buf (0 + [(0xFF : UInt8)].length) sampleUnits samplePool.initFrames ∧
      samplePool.init.queue =
        samplePool.initFrames.foldl UnLockQueue.push samplePool.queue :=
  init264_cover [0xFF] sampleUnits rfl rfl (by decide) (by decide) (by decide) (by decide)
    (by decide)

end

end FrameMemPool

end SignalingServer
