import Mathlib.Algebra.GroupWithZero.Nat
import SignalingServer.Lib.Lts
import SignalingServer.Media.FrameMemPool

/-!
The positions and the time stamps of the frame pool over all calls of `InputFrame`, with the
frames that the calls push. `Init264` moves `rPos` over the data and counts its frames on;
`Init265` does neither.
-/

namespace SignalingServer

namespace FrameMemPool

open VideoNalu

/-! ### The frames that are pushed -/

/-- The frame that a round of `Init264` pushes, if it does. -/
def frames264 (pool : FrameMemPool) (s : Scan) : List VFrame :=
  let byte := pool.mem.bytes s.half
  let pn := searchStartCode byte (s.p + 4) s.stop
  if h264NalType byte s.p ≤ 5 && h264NalNewAccess byte pn s.stop then
    [{ nalu := some ⟨s.half, s.nalu⟩
       time := frameTime pool.fgap pool.frameIndex
       bytes := pn - s.nalu
       idr := h264NalType byte s.p == NAL_IDR
       frameType := 0
       gap := pool.fgap
       seq := pool.pushed }]
  else []

/-- The frame that a round of `Init265` pushes. -/
def frames265 (pool : FrameMemPool) (s : Scan) : List VFrame :=
  let byte := pool.mem.bytes s.half
  let pn := searchStartCode byte (s.p + 4) s.stop
  [{ nalu := some ⟨s.half, s.nalu⟩
     time := frameTime pool.fgap s.count
     bytes := pn - s.nalu
     idr := h265NalType byte s.p == NAL_IDR_N_LP || h265NalType byte s.p == NAL_IDR_W_RADL
     frameType := 1
     gap := pool.fgap
     seq := pool.pushed }]

def roundFrames (pool : FrameMemPool) (s : Scan) : List VFrame :=
  match pool.frameType with
  | .GB_CODEC_UNKNOWN => []
  | .GB_CODEC_H264 => pool.frames264 s
  | .GB_CODEC_H265 => pool.frames265 s

/-- The frames of the loop, in the order in which they are pushed. -/
def scanFrames : Nat → FrameMemPool → Scan → List VFrame
  | 0, _, _ => []
  | fuel + 1, pool, s =>
      if s.p < s.stop then
        pool.roundFrames s ++ scanFrames fuel (pool.scan s).1 (pool.scan s).2
      else []

/-- The frames that `Init` pushes. -/
def initFrames (pool : FrameMemPool) : List VFrame :=
  match pool.frameType, pool.mem.readPtr with
  | .GB_CODEC_UNKNOWN, _ => []
  | _, none => []
  | _, some readPtr => scanFrames pool.mem.readSize pool (pool.startScan readPtr)

/-- The frames that `InputFrame` pushes. -/
def inputFrames (pool : FrameMemPool) (type : StreamCodec) (data : Option (List UInt8))
    (gap : Int) : List VFrame :=
  match (pool.setCodec type gap).mem.wirteData data with
  | none => []
  | some mem => { pool.setCodec type gap with mem := mem }.initFrames

section

variable {pool : FrameMemPool} {s : Scan}

theorem scan264_queue (pool : FrameMemPool) (s : Scan) :
    (pool.scan264 s).1.queue = (pool.frames264 s).foldl UnLockQueue.push pool.queue := by
  unfold scan264 frames264
  dsimp only
  split
  · rfl
  · split
    · rfl
    · split
      · rfl
      · rfl

theorem scan265_queue (pool : FrameMemPool) (s : Scan) :
    (pool.scan265 s).1.queue = (pool.frames265 s).foldl UnLockQueue.push pool.queue := by
  unfold scan265 frames265
  dsimp only
  obtain ⟨sps, pps, vps, hkept⟩ := pool.keep265_eq s (h265NalType (pool.mem.bytes s.half) s.p)
    (searchStartCode (pool.mem.bytes s.half) (s.p + 4) s.stop - s.nalu)
  rw [hkept]
  rfl

theorem scan_queue (pool : FrameMemPool) (s : Scan) :
    (pool.scan s).1.queue = (pool.roundFrames s).foldl UnLockQueue.push pool.queue := by
  unfold scan roundFrames
  cases pool.frameType with
  | GB_CODEC_UNKNOWN => rfl
  | GB_CODEC_H264 => exact pool.scan264_queue s
  | GB_CODEC_H265 => exact pool.scan265_queue s

theorem scanLoop_queue (fuel : Nat) (pool : FrameMemPool) (s : Scan) :
    (scanLoop fuel pool s).1.queue =
      (scanFrames fuel pool s).foldl UnLockQueue.push pool.queue := by
  induction fuel generalizing pool s with
  | zero => rfl
  | succ fuel ih =>
      rw [scanLoop, scanFrames]
      split
      · rw [ih, scan_queue, List.foldl_append]
      · rfl

theorem finish_queue (pool : FrameMemPool) : pool.finish.queue = pool.queue := by
  unfold finish
  cases pool.frameType with
  | GB_CODEC_UNKNOWN => rfl
  | GB_CODEC_H264 => rfl
  | GB_CODEC_H265 => rfl

/-- `Init` with data to read. -/
theorem init_of_ptr {readPtr : PoolPtr} (hcodec : pool.frameType ≠ .GB_CODEC_UNKNOWN)
    (hptr : pool.mem.readPtr = some readPtr) :
    pool.init = (scanLoop pool.mem.readSize pool (pool.startScan readPtr)).1.finish ∧
      pool.initFrames = scanFrames pool.mem.readSize pool (pool.startScan readPtr) := by
  unfold init initFrames
  rw [hptr]
  cases htype : pool.frameType with
  | GB_CODEC_UNKNOWN => exact absurd htype hcodec
  | GB_CODEC_H264 => exact ⟨rfl, rfl⟩
  | GB_CODEC_H265 => exact ⟨rfl, rfl⟩

theorem init_queue (pool : FrameMemPool) :
    pool.init.queue = pool.initFrames.foldl UnLockQueue.push pool.queue := by
  by_cases hcodec : pool.frameType = .GB_CODEC_UNKNOWN
  · rw [init, initFrames, hcodec]
    rfl
  · cases hptr : pool.mem.readPtr with
    | none =>
        unfold init initFrames
        rw [hptr]
        cases pool.frameType with
        | GB_CODEC_UNKNOWN => rfl
        | GB_CODEC_H264 => rfl
        | GB_CODEC_H265 => rfl
    | some readPtr =>
        obtain ⟨hinit, hframes⟩ := init_of_ptr hcodec hptr
        rw [hinit, hframes, finish_queue, scanLoop_queue]

/-- The frames of a call are those that it puts into the queue. -/
theorem inputFrame_queue (pool : FrameMemPool) (type : StreamCodec)
    (data : Option (List UInt8)) (gap : Int) :
    (pool.inputFrame type data gap).2.queue =
      (pool.inputFrames type data gap).foldl UnLockQueue.push pool.queue := by
  unfold inputFrame inputFrames
  cases (pool.setCodec type gap).mem.wirteData data with
  | none => rfl
  | some mem => exact init_queue _

/-! ### One call -/

/-- What the rounds of both loops leave as it is. -/
structure SamePool (pool pool' : FrameMemPool) : Prop where
  mem : pool'.mem = pool.mem
  frameType : pool'.frameType = pool.frameType
  fgap : pool'.fgap = pool.fgap

theorem SamePool.trans {pool' pool'' : FrameMemPool} (h : SamePool pool pool')
    (h' : SamePool pool' pool'') : SamePool pool pool'' :=
  ⟨h'.mem.trans h.mem, h'.frameType.trans h.frameType, h'.fgap.trans h.fgap⟩

theorem scan_same (pool : FrameMemPool) (s : Scan) : SamePool pool (pool.scan s).1 := by
  unfold scan
  cases pool.frameType with
  | GB_CODEC_UNKNOWN => exact ⟨rfl, rfl, rfl⟩
  | GB_CODEC_H264 =>
      unfold scan264
      dsimp only
      split
      · exact ⟨rfl, rfl, rfl⟩
      · split
        · exact ⟨rfl, rfl, rfl⟩
        · split
          · exact ⟨rfl, rfl, rfl⟩
          · exact ⟨rfl, rfl, rfl⟩
  | GB_CODEC_H265 =>
      unfold scan265
      dsimp only
      obtain ⟨sps, pps, vps, hkept⟩ := pool.keep265_eq s
        (h265NalType (pool.mem.bytes s.half) s.p)
        (searchStartCode (pool.mem.bytes s.half) (s.p + 4) s.stop - s.nalu)
      rw [hkept]
      exact ⟨rfl, rfl, rfl⟩

theorem scanLoop_same (fuel : Nat) (pool : FrameMemPool) (s : Scan) :
    SamePool pool (scanLoop fuel pool s).1 := by
  induction fuel generalizing pool s with
  | zero => exact ⟨rfl, rfl, rfl⟩
  | succ fuel ih =>
      rw [scanLoop]
      split
      · exact (pool.scan_same s).trans (ih _ _)
      · exact ⟨rfl, rfl, rfl⟩

/-- Frames whose times do not decrease, between two bounds. -/
structure Timed (first last : Int) (frames : List VFrame) : Prop where
  sorted : frames.Pairwise fun f g => f.time ≤ g.time
  from_first : ∀ f ∈ frames, first ≤ f.time
  to_last : ∀ f ∈ frames, f.time ≤ last

theorem Timed.nil (first last : Int) : Timed first last [] :=
  ⟨.nil, fun _ h => (List.not_mem_nil h).elim, fun _ h => (List.not_mem_nil h).elim⟩

theorem Timed.append {first middle last : Int} {frames frames' : List VFrame}
    (h : Timed first middle frames) (h' : Timed middle last frames') (hfirst : first ≤ middle)
    (hlast : middle ≤ last) : Timed first last (frames ++ frames') := by
  refine ⟨List.pairwise_append.mpr ⟨h.sorted, h'.sorted, fun f hf g hg => ?_⟩,
    fun f hf => ?_, fun f hf => ?_⟩
  · exact Int.le_trans (h.to_last f hf) (h'.from_first g hg)
  · rcases List.mem_append.mp hf with hold | hnew
    · exact h.from_first f hold
    · exact Int.le_trans hfirst (h'.from_first f hnew)
  · rcases List.mem_append.mp hf with hold | hnew
    · exact Int.le_trans (h.to_last f hold) hlast
    · exact h'.to_last f hnew

/-- The time of a frame does not wrap as long as there are not too many. -/
theorem frameTime_of_le {n : Nat} (h : n ≤ 2 ^ 57) : frameTime 40 n = 40 * n := by
  rw [frameTime, Int.bmod_eq_of_le (by omega) (by omega)]

/-- The time of the next frame of `Init264`. -/
def clock264 (pool : FrameMemPool) : Int := pool.fgap * pool.frameIndex

theorem scan264_timed (s : Scan) (hgap : pool.fgap = 40) (hfew : pool.frameIndex ≤ 2 ^ 57) :
    (pool.scan264 s).1.frameIndex ≤ pool.frameIndex + 1 ∧
      pool.clock264 ≤ (pool.scan264 s).1.clock264 ∧
      Timed pool.clock264 (pool.scan264 s).1.clock264 (pool.frames264 s) := by
  unfold scan264 frames264
  dsimp only
  split
  · have hlater : pool.clock264 ≤ pool.fgap * (pool.frameIndex + 1 : Nat) :=
      Int.mul_le_mul_of_nonneg_left (Int.ofNat_le.mpr (Nat.le_succ _)) (by rw [hgap]; decide)
    have htime : frameTime pool.fgap pool.frameIndex = pool.clock264 := by
      rw [clock264, hgap, frameTime_of_le hfew]
    refine ⟨Nat.le_refl _, hlater, List.pairwise_singleton _ _, fun f hf => ?_, fun f hf => ?_⟩
    · obtain rfl := List.mem_singleton.mp hf
      exact Int.le_of_eq htime.symm
    · obtain rfl := List.mem_singleton.mp hf
      exact Int.le_trans (Int.le_of_eq htime) hlater
  · split
    · exact ⟨Nat.le_succ _, Int.le_refl _, .nil _ _⟩
    · split
      · exact ⟨Nat.le_succ _, Int.le_refl _, .nil _ _⟩
      · exact ⟨Nat.le_succ _, Int.le_refl _, .nil _ _⟩

/-- The frames of a loop of `Init264` are later than those before them, and there is one at most
for each round. -/
theorem scanFrames_timed (fuel : Nat) {pool : FrameMemPool} (s : Scan)
    (htype : pool.frameType = .GB_CODEC_H264) (hgap : pool.fgap = 40)
    (hfew : pool.frameIndex + fuel ≤ 2 ^ 57) :
    (scanLoop fuel pool s).1.frameIndex ≤ pool.frameIndex + fuel ∧
      pool.clock264 ≤ (scanLoop fuel pool s).1.clock264 ∧
      Timed pool.clock264 (scanLoop fuel pool s).1.clock264 (scanFrames fuel pool s) := by
  induction fuel generalizing pool s with
  | zero => exact ⟨Nat.le_refl _, Int.le_refl _, .nil _ _⟩
  | succ fuel ih =>
      rw [scanLoop, scanFrames]
      split
      · have hsame := pool.scan_same s
        have hscan : pool.scan s = pool.scan264 s := by rw [scan, htype]
        have hframes : pool.roundFrames s = pool.frames264 s := by rw [roundFrames, htype]
        obtain ⟨hone, hlater, htimed⟩ := scan264_timed s hgap (by omega)
        rw [← hscan] at hone hlater htimed
        obtain ⟨hcount, hlast, hrest⟩ := ih (pool.scan s).2 (hsame.frameType.trans htype)
          (hsame.fgap.trans hgap) (by omega)
        rw [hframes]
        exact ⟨by omega, Int.le_trans hlater hlast, htimed.append hrest hlater hlast⟩
      · exact ⟨Nat.le_add_right _ _, Int.le_refl _, .nil _ _⟩

/-- `Init264` moves `rPos` over the data. -/
theorem init264_mem {readPtr : PoolPtr} (htype : pool.frameType = .GB_CODEC_H264)
    (hptr : pool.mem.readPtr = some readPtr)
    (hsize : pool.mem.readSize ≤ pool.mem.wPos - pool.mem.rPos) :
    pool.init.mem =
      { pool.mem with
        rPos := pool.mem.rPos + pool.mem.readSize, readPtr := none, readSize := 0 } := by
  have hsame := scanLoop_same pool.mem.readSize pool (pool.startScan readPtr)
  rw [(init_of_ptr (by rw [htype]; exact StreamCodec.noConfusion) hptr).1, finish,
    hsame.frameType, htype]
  dsimp only
  rw [hsame.mem, if_pos hsize]

theorem finish_clock (pool : FrameMemPool) :
    pool.finish.clock264 = pool.clock264 ∧ pool.finish.fgap = pool.fgap ∧
      pool.finish.frameIndex = pool.frameIndex := by
  unfold finish
  cases pool.frameType with
  | GB_CODEC_UNKNOWN => exact ⟨rfl, rfl, rfl⟩
  | GB_CODEC_H264 => exact ⟨rfl, rfl, rfl⟩
  | GB_CODEC_H265 => exact ⟨rfl, rfl, rfl⟩

/-- `Init265` does not. -/
theorem init265_mem (htype : pool.frameType = .GB_CODEC_H265) : pool.init.mem = pool.mem := by
  cases hptr : pool.mem.readPtr with
  | none =>
      unfold init
      rw [hptr, htype]
  | some readPtr =>
      have hsame := scanLoop_same pool.mem.readSize pool (pool.startScan readPtr)
      rw [(init_of_ptr (by rw [htype]; exact StreamCodec.noConfusion) hptr).1, finish,
        hsame.frameType, htype]
      exact hsame.mem

end

/-! ### Runs -/

/-- A pool with the frames that were pushed so far. -/
structure Timeline where
  pool : FrameMemPool
  frames : List VFrame

/-- A call of `InputFrame` with H.264 or H.265 data. -/
structure InputCall where
  h265 : Bool
  data : Option (List UInt8)
  gap : Int

/-- The bytes that a call brings. -/
def InputCall.size (c : InputCall) : Nat := (c.data.getD []).length

namespace Timeline

def start (length : Nat) (allocated : Bool) (garbage : PoolGarbage) : Timeline where
  pool := .new length allocated garbage
  frames := []

/-- The pool of a call, with the codec set. -/
def opened (s : Timeline) (c : InputCall) : FrameMemPool :=
  s.pool.setCodec (if c.h265 then .GB_CODEC_H265 else .GB_CODEC_H264) c.gap

/-- What a call returns, with the pool that it leaves. -/
def result (s : Timeline) (c : InputCall) : Int × FrameMemPool :=
  s.pool.inputFrame (if c.h265 then .GB_CODEC_H265 else .GB_CODEC_H264) c.data c.gap

def step : Lts.Step Timeline InputCall := fun s c =>
  some
    { pool := (s.result c).2
      frames := s.frames ++
        s.pool.inputFrames (if c.h265 then .GB_CODEC_H265 else .GB_CODEC_H264) c.data c.gap }

/-- `wirteData` calls itself once at most, copies into the current half, and leaves the positions
in order. -/
structure Placed (s : Timeline) (c : InputCall) (s' : Timeline) : Prop where
  recursion : ∀ data, c.data = some data → s.pool.mem.wirteDataCalls 2 data ≠ none
  inside : ∀ data mem, c.data = some data → s.pool.mem.wirteData (some data) = some mem →
    ∃ ptr, mem.readPtr = some ptr ∧ mem.curBuf = some ptr.half ∧
      ptr.pos + data.length ≤ mem.bufSize
  rPos : s'.pool.mem.rPos ≤ s'.pool.mem.wPos
  wPos : s'.pool.mem.wPos ≤ s'.pool.mem.bufSize

/-- What a call must keep: when it succeeds all data are consumed, and the times of all frames do
not decrease. -/
structure Keeps (s : Timeline) (c : InputCall) (s' : Timeline) : Prop where
  placed : s.Placed c s'
  consumed : (s.result c).1 = 0 → s'.pool.mem.rPos = s'.pool.mem.wPos
  timeline : s'.frames.Pairwise fun f g => f.time ≤ g.time

/-- A call with H.265 data brings none, or they are not taken in. -/
def Consumes (s : Timeline) (c : InputCall) : Prop :=
  c.h265 = true → ∀ data ∈ c.data,
    data = [] ∨ s.pool.mem.bufSize < data.length ∨ s.pool.mem.curBuf = none

/-- What holds between two calls, whatever they bring. -/
structure Ordered (s : Timeline) : Prop where
  rPos : s.pool.mem.rPos ≤ s.pool.mem.wPos
  wPos : s.pool.mem.wPos ≤ s.pool.mem.bufSize

/-- What holds between two calls of a run that keeps its timeline. -/
structure Sound (s : Timeline) : Prop where
  consumed : s.pool.mem.rPos = s.pool.mem.wPos
  wPos : s.pool.mem.wPos ≤ s.pool.mem.bufSize
  fgap : s.pool.fgap = 40
  timed : Timed 0 s.pool.clock264 s.frames

section

variable {s s' : Timeline} {c : InputCall}

theorem Sound.ordered (h : s.Sound) : s.Ordered := ⟨Nat.le_of_eq h.consumed, h.wPos⟩

theorem opened_frameType (s : Timeline) (c : InputCall) :
    (s.opened c).frameType = if c.h265 then .GB_CODEC_H265 else .GB_CODEC_H264 := rfl

/-- A call that takes nothing in. -/
theorem step_of_none (hwrite : s.pool.mem.wirteData c.data = none) :
    s.result c = (-1, s.opened c) ∧ step s c = some ⟨s.opened c, s.frames⟩ := by
  have hresult : s.result c = (-1, s.opened c) := by
    rw [result, inputFrame, show (s.pool.setCodec _ c.gap).mem = s.pool.mem from rfl, hwrite]
    rfl
  refine ⟨hresult, ?_⟩
  rw [step, hresult, inputFrames, show (s.pool.setCodec _ c.gap).mem = s.pool.mem from rfl, hwrite,
    List.append_nil]

/-- A call that takes its data in. -/
theorem step_of_some {mem : AvMemPool} (hwrite : s.pool.mem.wirteData c.data = some mem) :
    s.result c = (0, { s.opened c with mem := mem }.init) ∧
      step s c = some ⟨{ s.opened c with mem := mem }.init,
        s.frames ++ { s.opened c with mem := mem }.initFrames⟩ := by
  have hresult : s.result c = (0, { s.opened c with mem := mem }.init) := by
    rw [result, inputFrame, show (s.pool.setCodec _ c.gap).mem = s.pool.mem from rfl, hwrite]
    rfl
  refine ⟨hresult, ?_⟩
  rw [step, hresult, inputFrames, show (s.pool.setCodec _ c.gap).mem = s.pool.mem from rfl, hwrite]
  rfl

/-- The positions after a call that takes its data in. -/
theorem after_write {data : List UInt8} {mem : AvMemPool} {ptr : PoolPtr} (h : s.Ordered)
    (hwritten : AvMemPool.Written s.pool.mem data.length mem ptr) :
    mem.rPos + data.length ≤ mem.wPos ∧ mem.wPos ≤ mem.bufSize ∧
      { s.opened c with mem := mem }.init.mem.wPos = mem.wPos ∧
      { s.opened c with mem := mem }.init.mem.bufSize = mem.bufSize ∧
      { s.opened c with mem := mem }.init.mem.rPos =
        if c.h265 then mem.rPos else mem.rPos + data.length := by
  have hbuf := hwritten.bufSize
  have hinside := hwritten.inside
  have hw := hwritten.wPos
  have hread := h.rPos
  have hsize : mem.rPos + data.length ≤ mem.wPos := by
    rcases hwritten.rPos with ⟨hpos, hr⟩ | ⟨hpos, hr⟩
    · omega
    · omega
  refine ⟨hsize, by omega, ?_⟩
  cases hcodec : c.h265 with
  | false =>
      have htype : { s.opened c with mem := mem }.frameType = .GB_CODEC_H264 :=
        (opened_frameType s c).trans (by rw [hcodec]; rfl)
      have hroom : mem.readSize ≤ mem.wPos - mem.rPos := by
        rw [hwritten.readSize]
        omega
      rw [init264_mem htype hwritten.readPtr hroom]
      refine ⟨rfl, rfl, ?_⟩
      rw [← hwritten.readSize]
      rfl
  | true =>
      have htype : { s.opened c with mem := mem }.frameType = .GB_CODEC_H265 :=
        (opened_frameType s c).trans (by rw [hcodec]; rfl)
      rw [init265_mem htype]
      exact ⟨rfl, rfl, rfl⟩

/-- The first half holds in every run, whatever the codec. -/
theorem Ordered.step (h : s.Ordered) (hstep : Timeline.step s c = some s') :
    s.Placed c s' ∧ s'.Ordered := by
  have hordered : s'.Ordered := by
    cases hwrite : s.pool.mem.wirteData c.data with
    | none =>
        obtain rfl := Option.some.inj ((step_of_none hwrite).2.symm.trans hstep)
        exact ⟨h.rPos, h.wPos⟩
    | some mem =>
        obtain rfl := Option.some.inj ((step_of_some hwrite).2.symm.trans hstep)
        cases hdata : c.data with
        | none =>
            rw [hdata] at hwrite
            cases hwrite
        | some data =>
            rw [hdata] at hwrite
            obtain ⟨ptr, hwritten⟩ := AvMemPool.written_wirteData h.wPos hwrite
            obtain ⟨hsize, hinside, hw, hbuf, hr⟩ := after_write (c := c) h hwritten
            refine ⟨?_, ?_⟩
            · dsimp only
              rw [hw, hr]
              split
              · omega
              · exact hsize
            · dsimp only
              rw [hw, hbuf]
              exact hinside
  refine ⟨⟨fun data _ => ?_, fun data mem _ hwrite => ?_, hordered.rPos, hordered.wPos⟩, hordered⟩
  · rw [AvMemPool.wirteDataCalls_two]
    exact Option.some_ne_none _
  · obtain ⟨ptr, hwritten⟩ := AvMemPool.written_wirteData h.wPos hwrite
    exact ⟨ptr, hwritten.readPtr, hwritten.curBuf, hwritten.bufSize ▸ hwritten.inside⟩

/-- A call keeps the timeline, and does not bring more frames than bytes. -/
structure Goes (s : Timeline) (c : InputCall) (s' : Timeline) : Prop where
  keeps : s.Keeps c s'
  sound : s'.Sound
  frames : s'.pool.frameIndex ≤ s.pool.frameIndex + c.size

/-- A call that takes nothing in keeps the timeline. -/
theorem Sound.step_of_none (h : s.Sound) (hwrite : s.pool.mem.wirteData c.data = none) :
    ∃ s', Timeline.step s c = some s' ∧ s.Goes c s' := by
  obtain ⟨hresult, hstep⟩ := Timeline.step_of_none hwrite
  have hfgap : (s.opened c).fgap = s.pool.fgap := if_neg (by rw [h.fgap]; decide)
  refine ⟨_, hstep, ⟨(h.ordered.step hstep).1, fun hzero => ?_, h.timed.sorted⟩,
    ⟨h.consumed, h.wPos, hfgap.trans h.fgap, ?_⟩, Nat.le_add_right _ _⟩
  · rw [hresult] at hzero
    cases hzero
  · show Timed 0 ((s.opened c).fgap * s.pool.frameIndex) s.frames
    rw [hfgap]
    exact h.timed

/-- So does a call of `Init264`. -/
theorem Sound.step_h264 {data : List UInt8} {mem : AvMemPool} (h : s.Sound)
    (hcodec : c.h265 = false) (hdata : c.data = some data)
    (hwrite : s.pool.mem.wirteData (some data) = some mem)
    (hfew : s.pool.frameIndex + c.size ≤ 2 ^ 57) :
    ∃ s', Timeline.step s c = some s' ∧ s.Goes c s' := by
  obtain ⟨ptr, hwritten⟩ := AvMemPool.written_wirteData h.wPos hwrite
  obtain ⟨-, hstep⟩ := Timeline.step_of_some (hdata ▸ hwrite)
  obtain ⟨-, hinside, hw, hbuf, hr⟩ := after_write (c := c) h.ordered hwritten
  rw [hcodec, if_neg Bool.false_ne_true] at hr
  have hfgap : (s.opened c).fgap = s.pool.fgap := if_neg (by rw [h.fgap]; decide)
  have htype : { s.opened c with mem := mem }.frameType = .GB_CODEC_H264 :=
    (opened_frameType s c).trans (by rw [hcodec]; rfl)
  have hclock : { s.opened c with mem := mem }.clock264 = s.pool.clock264 :=
    congrArg (· * (s.pool.frameIndex : Int)) hfgap
  have hsize : c.size = mem.readSize := by rw [InputCall.size, hdata, hwritten.readSize]; rfl
  obtain ⟨hinit, hframes⟩ := init_of_ptr (by rw [htype]; exact StreamCodec.noConfusion)
    hwritten.readPtr
  obtain ⟨hcount, hlast, htimed⟩ := scanFrames_timed mem.readSize
    ({ s.opened c with mem := mem }.startScan ptr) htype (hfgap.trans h.fgap) (hsize ▸ hfew)
  rw [hclock] at hlast htimed
  have hall : Timed 0 { s.opened c with mem := mem }.init.clock264
      (s.frames ++ { s.opened c with mem := mem }.initFrames) := by
    rw [hinit, hframes, (finish_clock _).1]
    refine h.timed.append htimed ?_ hlast
    rw [clock264, h.fgap]
    omega
  have hend : { s.opened c with mem := mem }.init.mem.rPos =
      { s.opened c with mem := mem }.init.mem.wPos := by
    rw [hr, hw, hwritten.wPos]
    have hconsumed := h.consumed
    rcases hwritten.rPos with ⟨hpos, hold⟩ | ⟨hpos, hold⟩
    · omega
    · omega
  refine ⟨_, hstep, ⟨(h.ordered.step hstep).1, fun _ => hend, hall.sorted⟩,
    ⟨hend, ?_, ?_, hall⟩, ?_⟩
  · dsimp only
    rw [hw, hbuf]
    exact hinside
  · dsimp only
    rw [hinit, (finish_clock _).2.1, (scanLoop_same _ _ _).fgap]
    exact hfgap.trans h.fgap
  · dsimp only
    rw [hinit, (finish_clock _).2.2, hsize]
    exact hcount

/-- And a call of `Init265` with no data. -/
theorem Sound.step_empty {mem : AvMemPool} (h : s.Sound) (hcodec : c.h265 = true)
    (hdata : c.data = some []) (hwrite : s.pool.mem.wirteData (some []) = some mem) :
    ∃ s', Timeline.step s c = some s' ∧ s.Goes c s' := by
  obtain ⟨ptr, hwritten⟩ := AvMemPool.written_wirteData h.wPos hwrite
  obtain ⟨-, hstep⟩ := Timeline.step_of_some (hdata ▸ hwrite)
  have hfgap : (s.opened c).fgap = s.pool.fgap := if_neg (by rw [h.fgap]; decide)
  have htype : { s.opened c with mem := mem }.frameType = .GB_CODEC_H265 :=
    (opened_frameType s c).trans (by rw [hcodec]; rfl)
  obtain ⟨hinit, hframes⟩ := init_of_ptr (by rw [htype]; exact StreamCodec.noConfusion)
    hwritten.readPtr
  have hnone : mem.readSize = 0 := hwritten.readSize
  have hkept : { s.opened c with mem := mem }.init = { s.opened c with mem := mem } := by
    rw [hinit]
    dsimp only
    rw [hnone, scanLoop, finish, htype]
  have hnil : { s.opened c with mem := mem }.initFrames = [] := by
    rw [hframes]
    dsimp only
    rw [hnone, scanFrames]
  rw [hkept, hnil, List.append_nil] at hstep
  have hend : mem.rPos = mem.wPos := by
    have hconsumed := h.consumed
    have hw := hwritten.wPos
    rw [List.length_nil] at hw
    rcases hwritten.rPos with ⟨hpos, hold⟩ | ⟨hpos, hold⟩
    · omega
    · omega
  have hinside : mem.wPos ≤ mem.bufSize := by
    rw [hwritten.wPos, hwritten.bufSize]
    exact hwritten.inside
  refine ⟨_, hstep, ⟨(h.ordered.step hstep).1, fun _ => hend, h.timed.sorted⟩,
    ⟨hend, hinside, hfgap.trans h.fgap, ?_⟩, Nat.le_add_right _ _⟩
  show Timed 0 ((s.opened c).fgap * s.pool.frameIndex) s.frames
  rw [hfgap]
  exact h.timed

theorem Sound.step_of_consumes (h : s.Sound) (hc : s.Consumes c)
    (hfew : s.pool.frameIndex + c.size ≤ 2 ^ 57) :
    ∃ s', Timeline.step s c = some s' ∧ s.Goes c s' := by
  cases hwrite : s.pool.mem.wirteData c.data with
  | none => exact h.step_of_none hwrite
  | some mem =>
      cases hdata : c.data with
      | none =>
          rw [hdata] at hwrite
          cases hwrite
      | some data =>
          rw [hdata] at hwrite
          cases hcodec : c.h265 with
          | false => exact h.step_h264 hcodec hdata hwrite hfew
          | true =>
              have hnot := mt AvMemPool.wirteData_eq_none_iff.mpr
                (by rw [hwrite]; exact Option.some_ne_none mem)
              obtain rfl := (hc hcodec data hdata).resolve_right hnot
              exact h.step_empty hcodec hdata hwrite

/-- Where `Init265` takes data in, `rPos` stays behind. -/
theorem Sound.consumes_of_keeps (h : s.Sound) (hstep : Timeline.step s c = some s')
    (hkeeps : s.Keeps c s') : s.Consumes c := by
  intro hcodec data hdata
  by_contra hbad
  obtain ⟨hsome, hnot⟩ := not_or.mp hbad
  obtain ⟨mem, hwrite⟩ := Option.ne_none_iff_exists'.mp (mt AvMemPool.wirteData_eq_none_iff.mp hnot)
  obtain ⟨ptr, hwritten⟩ := AvMemPool.written_wirteData h.wPos hwrite
  obtain ⟨hresult, hstep'⟩ := Timeline.step_of_some (hdata ▸ hwrite)
  obtain rfl := Option.some.inj (hstep'.symm.trans hstep)
  obtain ⟨hsize, -, hw, -, hr⟩ := after_write (c := c) h.ordered hwritten
  have hend := hkeeps.consumed (by rw [hresult])
  have hpos : 0 < data.length := List.length_pos_iff.mpr hsome
  rw [hcodec, if_pos rfl] at hr
  have hequal : mem.rPos = mem.wPos := hr.symm.trans (hend.trans hw)
  omega

end

/-- Over a run that brings few bytes. -/
theorem Sound.keeps_iff {s : Timeline} (h : s.Sound) {calls : List InputCall}
    (hfew : s.pool.frameIndex + (calls.map InputCall.size).sum ≤ 2 ^ 57) :
    Lts.Completes step Keeps s calls ↔ Lts.Checked step Consumes s calls := by
  induction calls generalizing s with
  | nil => exact Iff.rfl
  | cons c calls ih =>
      rw [List.map_cons, List.sum_cons] at hfew
      have hfewNow : s.pool.frameIndex + c.size ≤ 2 ^ 57 := by omega
      constructor
      · rintro ⟨s', hstep, hkeeps, hrest⟩
        have hconsumes := h.consumes_of_keeps hstep hkeeps
        obtain ⟨s'', hstep', hgoes⟩ := h.step_of_consumes hconsumes hfewNow
        obtain rfl := Option.some.inj (hstep.symm.trans hstep')
        refine ⟨hconsumes, fun t ht => ?_⟩
        obtain rfl := Option.some.inj (hstep.symm.trans ht)
        exact (ih hgoes.sound (by have := hgoes.frames; omega)).mp hrest
      · rintro ⟨hconsumes, hrest⟩
        obtain ⟨s', hstep, hgoes⟩ := h.step_of_consumes hconsumes hfewNow
        exact ⟨s', hstep, hgoes.keeps,
          (ih hgoes.sound (by have := hgoes.frames; omega)).mpr (hrest s' hstep)⟩

/-- A pool without buffers takes nothing in: its positions stay what they are. -/
theorem keeps_iff_of_unallocated {s : Timeline} (hcur : s.pool.mem.curBuf = none)
    (htimed : s.frames.Pairwise fun f g => f.time ≤ g.time) (calls : List InputCall) :
    Lts.Checked step Consumes s calls ∧
      (Lts.Completes step Keeps s calls ↔ calls = [] ∨ s.Ordered) := by
  induction calls generalizing s with
  | nil => exact ⟨trivial, iff_of_true trivial (.inl rfl)⟩
  | cons c calls ih =>
      have hwrite : s.pool.mem.wirteData c.data = none := by
        cases c.data with
        | none => rfl
        | some data => exact AvMemPool.wirteData_eq_none_iff.mpr (.inr hcur)
      obtain ⟨hresult, hstep⟩ := step_of_none hwrite
      obtain ⟨hchecked, hiff⟩ := ih (s := ⟨s.opened c, s.frames⟩) hcur htimed
      refine ⟨⟨fun _ _ _ => .inr (.inr hcur), fun s' hs' => ?_⟩, ?_⟩
      · obtain rfl := Option.some.inj (hstep.symm.trans hs')
        exact hchecked
      · constructor
        · rintro ⟨s', hs', hkeeps, -⟩
          obtain rfl := Option.some.inj (hstep.symm.trans hs')
          exact .inr ⟨hkeeps.placed.rPos, hkeeps.placed.wPos⟩
        · rintro (hnil | hordered)
          · cases hnil
          · refine ⟨_, hstep, ⟨(hordered.step hstep).1, fun hzero => ?_, htimed⟩,
              hiff.mpr (.inr ⟨hordered.rPos, hordered.wPos⟩)⟩
            rw [hresult] at hzero
            cases hzero

theorem sound_start (length : Nat) (garbage : PoolGarbage) : (start length true garbage).Sound :=
  ⟨rfl, Nat.zero_le _, rfl, .nil _ _⟩

/-- The recursion, the copies and the order of the positions are right in every run, whatever the
codec, unless the constructor left positions out of order. -/
theorem placed {length : Nat} {allocated : Bool} {garbage : PoolGarbage}
    (hordered : (start length allocated garbage).Ordered) (calls : List InputCall) :
    Lts.Completes step Placed (start length allocated garbage) calls := by
  generalize start length allocated garbage = s at hordered
  induction calls generalizing s with
  | nil => trivial
  | cons c calls ih =>
      obtain ⟨hplaced, hnext⟩ := hordered.step (c := c) rfl
      exact ⟨_, rfl, hplaced, ih _ hnext⟩

/-- A pool keeps its positions and its timeline over a run exactly when it has its buffers, or was
left with positions in order, and no call takes in H.265 data. There is less than one frame for
each byte, so that the times of the run do not wrap. -/
theorem keeps_iff_consumes (length : Nat) (allocated : Bool) (garbage : PoolGarbage)
    (calls : List InputCall) (hfew : (calls.map InputCall.size).sum ≤ 2 ^ 57) :
    Lts.Completes step Keeps (start length allocated garbage) calls ↔
      (calls = [] ∨ allocated = true ∨ (start length allocated garbage).Ordered) ∧
        Lts.Checked step Consumes (start length allocated garbage) calls := by
  cases allocated with
  | true =>
      rw [(sound_start length garbage).keeps_iff (by rw [show
        (start length true garbage).pool.frameIndex = 0 from rfl, Nat.zero_add]; exact hfew)]
      exact ⟨fun h => ⟨.inr (.inl rfl), h⟩, fun h => h.2⟩
  | false =>
      obtain ⟨hchecked, hiff⟩ :=
        keeps_iff_of_unallocated (s := start length false garbage) rfl .nil calls
      rw [hiff]
      constructor
      · rintro (hnil | hordered)
        · exact ⟨.inl hnil, hchecked⟩
        · exact ⟨.inr (.inr hordered), hchecked⟩
      · rintro ⟨hnil | hallocated | hordered, -⟩
        · exact .inl hnil
        · cases hallocated
        · exact .inr hordered

/-- An IDR slice and the first slice of the next picture, twice. -/
def h264Call : InputCall where
  h265 := false
  data := some [0, 0, 1, 0x65, 0x88, 0x84, 0, 0, 1, 0x41, 0x9a, 0]
  gap := 40

theorem keeps_iff_consumes_h264 :
    Lts.Completes step Keeps (start 16 true default) [h264Call, h264Call] ↔
      ([h264Call, h264Call] = [] ∨ true = true ∨ (start 16 true default).Ordered) ∧
        Lts.Checked step Consumes (start 16 true default) [h264Call, h264Call] :=
  keeps_iff_consumes 16 true default [h264Call, h264Call] (by decide)

/-- Two NAL units of an H.265 stream. -/
def sampleCall : InputCall where
  h265 := true
  data := some [0, 0, 1, 2, 1, 0, 0, 1, 2, 1]
  gap := 40

/-- The first call with H.265 data leaves `rPos` behind, and with the second one the times start
again. -/
theorem not_keeps :
    ¬ Lts.Completes step Keeps (start 64 true default) [sampleCall] ∧
      (Lts.exec step (start 64 true default) [sampleCall, sampleCall]).map
        (fun s => s.frames.map (·.time)) = some [0, 40, 0, 40] := by
  constructor
  · rintro ⟨s', hstep, hkeeps, -⟩
    cases hstep
    have hend := hkeeps.consumed (by decide)
    revert hend
    decide
  · decide

end Timeline

end FrameMemPool

end SignalingServer
