import Mathlib.Algebra.Group.Nat.Defs
import SignalingServer.Tools.MemPool
import SignalingServer.Tools.UnLockQueue
import SignalingServer.Media.VideoNalu

/-!
The frame pool of a live stream (`media/MediaStream.h`): the data of a call of
`InputFrame` is copied into the memory pool, cut into frames there, and the
frames go through the queue as descriptors that point at the copied bytes.
-/

namespace SignalingServer

/-- `STREAM_CODEC`. -/
inductive StreamCodec
  | GB_CODEC_UNKNOWN
  | GB_CODEC_H264
  | GB_CODEC_H265
deriving DecidableEq, Repr

/-- `vframe_t`. The last field is history: no code reads it. It is the number of
the frame in the order in which frames are pushed. -/
structure VFrame where
  nalu : Option PoolPtr := none
  time : Int := 0
  bytes : Nat := 0
  idr : Bool := false
  frameType : Int := 0
  gap : Int := 40
  seq : Nat := 0
deriving DecidableEq, Repr

instance : Inhabited VFrame := ⟨{}⟩

/-- The members of `FrameMemPool`, with its two base classes as fields. The last
field is history: how many frames have been pushed. -/
structure FrameMemPool where
  mem : AvMemPool
  queue : UnLockQueue VFrame
  frameType : StreamCodec
  fgap : Int
  sps : Option (List UInt8)
  pps : Option (List UInt8)
  vps : Option (List UInt8)
  vpsspspps : Bool
  frameIndex : Nat
  lastIdrPos : Nat
  pushed : Nat

namespace FrameMemPool

open VideoNalu

/-- `FrameMemPool(length)`; the queue is made with its default number of slots. -/
def new (length : Nat) (allocated : Bool) (garbage : PoolGarbage) : FrameMemPool where
  mem := .new length allocated garbage
  queue := .new 128
  frameType := .GB_CODEC_UNKNOWN
  fgap := 40
  sps := none
  pps := none
  vps := none
  vpsspspps := true
  frameIndex := 0
  lastIdrPos := 0
  pushed := 0

/-- `gap * count`, an `int` times a `size_t` that is stored in an `int64_t`. -/
def frameTime (gap : Int) (count : Nat) : Int := (gap * count).bmod (2 ^ 64)

/-- `push(frame)`, which numbers the frame. -/
def pushFrame (pool : FrameMemPool) (frame : VFrame) : FrameMemPool :=
  { pool with
    queue := pool.queue.push { frame with seq := pool.pushed }
    pushed := pool.pushed + 1 }

/-- What `Init264` does with a complete access unit. -/
def pushAccessUnit (pool : FrameMemPool) (nalu : PoolPtr) (bytes : Nat) (idr : Bool) :
    FrameMemPool :=
  { pool with
    vpsspspps := if pool.sps.isSome && pool.pps.isSome then false else pool.vpsspspps
    frameIndex := pool.frameIndex + 1
    lastIdrPos := if idr then pool.queue.write else pool.lastIdrPos }.pushFrame
    { nalu := some nalu
      time := frameTime pool.fgap pool.frameIndex
      bytes := bytes
      idr := idr
      frameType := 0
      gap := pool.fgap }

/-- What `Init265` does with every NAL unit. -/
def pushNalu (pool : FrameMemPool) (nalu : PoolPtr) (bytes count : Nat) (idr : Bool) :
    FrameMemPool :=
  pool.pushFrame
    { nalu := some nalu
      time := frameTime pool.fgap count
      bytes := bytes
      idr := idr
      frameType := 1
      gap := pool.fgap }

/-- The local variables of `Init264` and `Init265`, where `half` is the buffer that
is read and `stop` is `end`. -/
structure Scan where
  half : PoolHalf
  stop : Nat
  nalu : Nat
  p : Nat
  count : Nat := 0
  vpsspspps : Bool := true
deriving DecidableEq, Repr

/-- The bytes of the NAL unit at `p` behind its start code, as many as the source
copies. -/
def parameterSet (pool : FrameMemPool) (s : Scan) (bytes : Nat) : List UInt8 :=
  let n := if pool.mem.bytes s.half (s.p + 2) == 1 then 3 else 4
  pool.mem.read ⟨s.half, s.p + n⟩ (bytes - n)

/-- The body of the loop of `Init264`. -/
def scan264 (pool : FrameMemPool) (s : Scan) : FrameMemPool × Scan :=
  let byte := pool.mem.bytes s.half
  let pn := searchStartCode byte (s.p + 4) s.stop
  let bytes := pn - s.nalu
  let nal_unit_type := h264NalType byte s.p
  if nal_unit_type ≤ 5 && h264NalNewAccess byte pn s.stop then
    (pool.pushAccessUnit ⟨s.half, s.nalu⟩ bytes (nal_unit_type == NAL_IDR),
      { s with nalu := pn, p := pn })
  else if pool.vpsspspps && nal_unit_type == NAL_SPS then
    ({ pool with sps := some (pool.parameterSet s bytes) }, { s with p := pn })
  else if pool.vpsspspps && nal_unit_type == NAL_PPS then
    ({ pool with pps := some (pool.parameterSet s bytes) }, { s with p := pn })
  else (pool, { s with p := pn })

/-- What `Init265` keeps of a parameter set. -/
def keep265 (pool : FrameMemPool) (s : Scan) (nal_unit_type bytes : Nat) : FrameMemPool :=
  if s.vpsspspps && nal_unit_type == NAL_SPS_5 then
    { pool with sps := some (pool.parameterSet s bytes) }
  else if s.vpsspspps && nal_unit_type == NAL_PPS_5 then
    { pool with pps := some (pool.parameterSet s bytes) }
  else if s.vpsspspps && nal_unit_type == NAL_VPS then
    { pool with vps := some (pool.parameterSet s bytes) }
  else pool

/-- The body of the loop of `Init265`. -/
def scan265 (pool : FrameMemPool) (s : Scan) : FrameMemPool × Scan :=
  let byte := pool.mem.bytes s.half
  let pn := searchStartCode byte (s.p + 4) s.stop
  let bytes := pn - s.nalu
  let nal_unit_type := h265NalType byte s.p
  let kept := pool.keep265 s nal_unit_type bytes
  (kept.pushNalu ⟨s.half, s.nalu⟩ bytes s.count
      (nal_unit_type == NAL_IDR_N_LP || nal_unit_type == NAL_IDR_W_RADL),
    { s with
      nalu := pn
      p := pn
      count := s.count + 1
      vpsspspps :=
        if kept.sps.isSome && kept.pps.isSome && kept.vps.isSome then false else s.vpsspspps })

/-- The loop body for the current codec. -/
def scan (pool : FrameMemPool) (s : Scan) : FrameMemPool × Scan :=
  match pool.frameType with
  | .GB_CODEC_UNKNOWN => (pool, s)
  | .GB_CODEC_H264 => pool.scan264 s
  | .GB_CODEC_H265 => pool.scan265 s

/-- The loop `while (p < end)`, for at most `fuel` rounds. -/
def scanLoop : Nat → FrameMemPool → Scan → FrameMemPool × Scan
  | 0, pool, s => (pool, s)
  | fuel + 1, pool, s =>
      if s.p < s.stop then scanLoop fuel (pool.scan s).1 (pool.scan s).2 else (pool, s)

/-- The local variables before the loop. -/
def startScan (pool : FrameMemPool) (readPtr : PoolPtr) : Scan :=
  let stop := readPtr.pos + pool.mem.readSize
  let nalu := searchStartCode (pool.mem.bytes readPtr.half) readPtr.pos stop
  { half := readPtr.half, stop := stop, nalu := nalu, p := nalu }

/-- The end of `Init264` and `Init265` after the loop. -/
def finish (pool : FrameMemPool) : FrameMemPool :=
  match pool.frameType with
  | .GB_CODEC_H264 =>
      { pool with mem :=
        { pool.mem with
          rPos :=
            if pool.mem.readSize ≤ pool.mem.wPos - pool.mem.rPos then
              pool.mem.rPos + pool.mem.readSize
            else pool.mem.rPos
          readPtr := none
          readSize := 0 } }
  | .GB_CODEC_UNKNOWN | .GB_CODEC_H265 => pool

/-- `Init`. Every round of the loop moves `p` forward, so that it ends within
`readSize` rounds. -/
def init (pool : FrameMemPool) : FrameMemPool :=
  match pool.frameType, pool.mem.readPtr with
  | .GB_CODEC_UNKNOWN, _ => pool
  | _, none => pool
  | _, some readPtr => (scanLoop pool.mem.readSize pool (pool.startScan readPtr)).1.finish

/-- What `InputFrame` does before it writes the data. -/
def setCodec (pool : FrameMemPool) (type : StreamCodec) (gap : Int) : FrameMemPool :=
  { pool with
    frameType := type
    fgap := if pool.fgap = 0 then gap else pool.fgap }

/-- `InputFrame`; `data` is `none` for a null pointer. -/
def inputFrame (pool : FrameMemPool) (type : StreamCodec) (data : Option (List UInt8))
    (gap : Int) : Int × FrameMemPool :=
  match (pool.setCodec type gap).mem.wirteData data with
  | none => (-1, pool.setCodec type gap)
  | some mem => (0, { pool.setCodec type gap with mem := mem }.init)

/-- `getReader`. -/
def getReader (pool : FrameMemPool) : Nat := pool.lastIdrPos

/-- `setGap`. -/
def setGap (pool : FrameMemPool) (gap : Int) : FrameMemPool := { pool with fgap := gap }

/-! ### One round of the loop -/

/-- What one round leaves as it was. -/
structure SameCall (pool pool' : FrameMemPool) : Prop where
  mem : pool'.mem = pool.mem
  frameType : pool'.frameType = pool.frameType

/-- A round moves `p` to the next NAL unit `pn`. It pushes the bytes between `nalu`
and `pn` as a frame and sets `nalu` to `pn`, or it leaves the queue and `nalu`
alone. -/
inductive Round (pool : FrameMemPool) (s : Scan) (pn : Nat) (pool' : FrameMemPool) (s' : Scan) :
    Prop
  | pushed (frame : VFrame) (nalu : frame.nalu = some ⟨s.half, s.nalu⟩)
      (bytes : frame.bytes = pn - s.nalu)
      (queue : pool'.queue = pool.queue.push { frame with seq := pool.pushed })
      (count : pool'.pushed = pool.pushed + 1) (next : s'.nalu = pn)
  | skipped (queue : pool'.queue = pool.queue) (count : pool'.pushed = pool.pushed)
      (next : s'.nalu = s.nalu)

/-- The facts about a round that hold whatever the codec. -/
structure ScanSpec (pool : FrameMemPool) (s : Scan) (pool' : FrameMemPool) (s' : Scan) : Prop where
  same : SameCall pool pool'
  half : s'.half = s.half
  stop : s'.stop = s.stop
  forward : s.p < s'.p
  within : s'.p ≤ s.stop
  room : s'.p < s.stop → s'.p + 4 ≤ s.stop
  round : Round pool s s'.p pool' s'

theorem scan264_spec (pool : FrameMemPool) (s : Scan) (hp : s.p + 4 ≤ s.stop) :
    ScanSpec pool s (pool.scan264 s).1 (pool.scan264 s).2 := by
  obtain ⟨hforward, hwithin, hroom⟩ := next_nalu (pool.mem.bytes s.half) hp
  unfold scan264
  dsimp only
  split
  · exact ⟨⟨rfl, rfl⟩, rfl, rfl, hforward, hwithin, hroom, .pushed _ rfl rfl rfl rfl rfl⟩
  · split
    · exact ⟨⟨rfl, rfl⟩, rfl, rfl, hforward, hwithin, hroom, .skipped rfl rfl rfl⟩
    · split
      · exact ⟨⟨rfl, rfl⟩, rfl, rfl, hforward, hwithin, hroom, .skipped rfl rfl rfl⟩
      · exact ⟨⟨rfl, rfl⟩, rfl, rfl, hforward, hwithin, hroom, .skipped rfl rfl rfl⟩

theorem keep265_eq (pool : FrameMemPool) (s : Scan) (nal_unit_type bytes : Nat) :
    ∃ sps pps vps, pool.keep265 s nal_unit_type bytes =
      { pool with sps := sps, pps := pps, vps := vps } := by
  unfold keep265
  split
  · exact ⟨_, _, _, rfl⟩
  · split
    · exact ⟨_, _, _, rfl⟩
    · split
      · exact ⟨_, _, _, rfl⟩
      · exact ⟨_, _, _, rfl⟩

theorem scan265_spec (pool : FrameMemPool) (s : Scan) (hp : s.p + 4 ≤ s.stop) :
    ScanSpec pool s (pool.scan265 s).1 (pool.scan265 s).2 := by
  obtain ⟨hforward, hwithin, hroom⟩ := next_nalu (pool.mem.bytes s.half) hp
  unfold scan265
  dsimp only
  obtain ⟨sps, pps, vps, hkept⟩ := pool.keep265_eq s (h265NalType (pool.mem.bytes s.half) s.p)
    (searchStartCode (pool.mem.bytes s.half) (s.p + 4) s.stop - s.nalu)
  rw [hkept]
  exact ⟨⟨rfl, rfl⟩, rfl, rfl, hforward, hwithin, hroom, .pushed _ rfl rfl rfl rfl rfl⟩

theorem scan_spec (pool : FrameMemPool) (s : Scan) (hcodec : pool.frameType ≠ .GB_CODEC_UNKNOWN)
    (hp : s.p + 4 ≤ s.stop) : ScanSpec pool s (pool.scan s).1 (pool.scan s).2 := by
  unfold scan
  cases htype : pool.frameType with
  | GB_CODEC_UNKNOWN => exact absurd htype hcodec
  | GB_CODEC_H264 => exact pool.scan264_spec s hp
  | GB_CODEC_H265 => exact pool.scan265_spec s hp

/-! ### The frames in the queue are numbered -/

/-- The queue of a pool that has pushed its frames in turn and never popped one:
the ring has taken in all of them but the last, once it has been full. -/
structure Numbered (pool : FrameMemPool) (written : List VFrame) : Prop where
  holds : pool.queue.Holds written (pool.pushed + 1 - pool.queue.maxSize)
  length : written.length =
    if pool.pushed < pool.queue.maxSize then pool.pushed else pool.pushed - 1
  count : written.length + pool.queue.cacheQueue.length = pool.pushed
  frame : ∀ ⦃j : Nat⦄ ⦃frame : VFrame⦄,
    (written ++ pool.queue.cacheQueue)[j]? = some frame → frame.seq = j ∧ frame.nalu.isSome

theorem numbered_new (length : Nat) (allocated : Bool) (garbage : PoolGarbage) :
    Numbered (new length allocated garbage) [] where
  holds := by
    show (UnLockQueue.new 128 : UnLockQueue VFrame).Holds [] (0 + 1 - 128)
    exact UnLockQueue.holds_new (by decide)
  length := rfl
  count := rfl
  frame j frame h := by
    have hnone : ([] : List VFrame)[j]? = some frame := h
    cases hnone

/-- What a push adds to the ring is never less than nothing. -/
theorem Numbered.length_le {pool pool' : FrameMemPool} {written written' : List VFrame}
    (h : pool.Numbered written) (h' : pool'.Numbered written')
    (hmax : pool'.queue.maxSize = pool.queue.maxSize) (hpushed : pool'.pushed = pool.pushed + 1) :
    written.length ≤ written'.length := by
  rw [h.length, h'.length, hmax, hpushed]
  split
  · split <;> omega
  · split <;> omega

/-- The overflow is in use just when the ring has been full. -/
theorem Numbered.cache_length {pool : FrameMemPool} {written : List VFrame}
    (h : pool.Numbered written) :
    pool.queue.cacheQueue.length = if pool.pushed < pool.queue.maxSize then 0 else 1 := by
  have hsize := h.holds.size
  have hcount := h.count
  have hlength := h.length
  split at hlength
  · rename_i hfree
    rw [if_pos hfree]
    omega
  · rename_i hfull
    rw [if_neg hfull]
    omega

theorem Numbered.push {pool pool' : FrameMemPool} {written : List VFrame}
    (h : pool.Numbered written) {frame : VFrame} (hnalu : frame.nalu.isSome)
    (hqueue : pool'.queue = pool.queue.push { frame with seq := pool.pushed })
    (hpushed : pool'.pushed = pool.pushed + 1) :
    ∃ written', pool'.Numbered written' ∧ written' ++ pool'.queue.cacheQueue =
      written ++ pool.queue.cacheQueue ++ [{ frame with seq := pool.pushed }] := by
  have hsize := h.holds.size
  have hcount := h.count
  have hlength := h.length
  have hcache := h.cache_length
  have hmax : pool'.queue.maxSize = pool.queue.maxSize := by
    rw [hqueue, UnLockQueue.push_maxSize]
  -- the new frame is the last of all, so that its number is the count before it
  have hframe : ∀ ⦃j : Nat⦄ ⦃f : VFrame⦄,
      (written ++ pool.queue.cacheQueue ++ [{ frame with seq := pool.pushed }])[j]? = some f →
        f.seq = j ∧ f.nalu.isSome := by
    intro j f hf
    rcases Ring.getElem?_concat_cases hf with ⟨-, hf⟩ | ⟨rfl, rfl⟩
    · exact h.frame hf
    · refine ⟨?_, hnalu⟩
      show pool.pushed = (written ++ pool.queue.cacheQueue).length
      rw [List.length_append, hcount]
  by_cases hroom : pool.pushed + 1 < pool.queue.maxSize
  · rw [if_pos (by omega)] at hlength hcache
    obtain ⟨hafter, hnone⟩ := h.holds.push_of_room { frame with seq := pool.pushed } (by omega)
    rw [List.length_eq_zero_iff.mp hcache, List.append_nil] at hframe hafter
    refine ⟨written ++ [{ frame with seq := pool.pushed }], ⟨?_, ?_, ?_, ?_⟩, ?_⟩
    · rw [hqueue, hpushed, UnLockQueue.push_maxSize,
        show pool.pushed + 1 + 1 - pool.queue.maxSize
          = pool.pushed + 1 - pool.queue.maxSize by omega]
      exact hafter
    · rw [hmax, hpushed, if_pos hroom, List.length_append, List.length_singleton]
      omega
    · rw [hqueue, hnone, hpushed, List.length_append, List.length_singleton, List.length_nil]
      omega
    · rw [hqueue, hnone, List.append_nil]
      exact hframe
    · rw [hqueue, hnone, List.length_eq_zero_iff.mp hcache, List.append_nil, List.append_nil]
  · -- the ring is full: the overflow moves into it and the new frame waits there
    have hgap : pool.pushed + 1 - pool.queue.maxSize + pool.queue.maxSize - 1 - written.length
        = pool.queue.cacheQueue.length := by
      rw [hcache, hlength]
      split <;> omega
    have hfull : pool.pushed + 1 - pool.queue.maxSize + pool.queue.maxSize ≤
        written.length + pool.queue.cacheQueue.length + 1 := by omega
    obtain ⟨hafter, hcacheAfter⟩ :=
      h.holds.push_of_full { frame with seq := pool.pushed } hfull
    rw [hgap, List.take_length] at hafter
    rw [hgap, List.drop_length, List.nil_append] at hcacheAfter
    refine ⟨written ++ pool.queue.cacheQueue, ⟨?_, ?_, ?_, ?_⟩, ?_⟩
    · rw [hqueue, hpushed, UnLockQueue.push_maxSize,
        show pool.pushed + 1 + 1 - pool.queue.maxSize
          = pool.pushed + 1 - pool.queue.maxSize + 1 by omega]
      exact hafter
    · rw [hmax, hpushed, if_neg (by omega), List.length_append, hcount]
      omega
    · rw [hqueue, hcacheAfter, hpushed, List.length_append, hcount, List.length_singleton]
    · rw [hqueue, hcacheAfter]
      exact hframe
    · rw [hqueue, hcacheAfter]

/-- What a slot hands out to a reader: the last frame that went into it, as long as
it is less than a lap old. -/
theorem Numbered.getNextByHanlde {pool : FrameMemPool} {written : List VFrame}
    (h : pool.Numbered written) {pos : Nat} {frame : VFrame}
    (hnext : pool.queue.getNextByHanlde pos = some frame) (hnalu : frame.nalu.isSome) :
    written[frame.seq]? = some frame ∧ frame.seq % pool.queue.maxSize = pos ∧
      written.length < frame.seq + pool.queue.maxSize := by
  rw [UnLockQueue.getNextByHanlde, h.holds.frontAt_eq] at hnext
  split at hnext
  · rename_i hpos
    cases hnext
    rcases Ring.slot_cases written hpos.1 with ⟨-, hdefault⟩ | ⟨j, hmod, hlap, hframe⟩
    · rw [hdefault] at hnalu
      cases hnalu
    · have hj : j < written.length := (List.getElem?_eq_some_iff.mp hframe).1
      have hseq := (h.frame (by rw [List.getElem?_append_left hj]; exact hframe)).1
      rw [hseq]
      refine ⟨hframe, hmod, ?_⟩
      rcases Nat.lt_or_eq_of_le hlap with hlt | heq
      · exact hlt
      · exact absurd (by rw [h.holds.write, heq, Nat.add_mod_right, hmod]) hpos.2
  · cases hnext

end FrameMemPool

end SignalingServer
