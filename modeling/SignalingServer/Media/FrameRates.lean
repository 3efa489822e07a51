import SignalingServer.Media.LiveFrames
import SignalingServer.Media.StreamReads

/-!
The frame rate of a live stream, from its device to the previews. `setFrameRate` turns a rate
into a gap between frames, the callbacks of the device estimate the rate anew and hand a gap on
with every frame (`media/mediaIn/JsonStream.cpp`), the frame pool stores it with the frames
(`media/MediaStream.cpp`), and the thread of a preview turns it into a rate again (`ws/ws.cpp`).
-/

namespace SignalingServer

namespace LiveFrames

/-- `setFrameRate`. -/
def setFrameRate (s : LiveFrames) (fps : Int) : LiveFrames :=
  if fps > 0 then { s with framePool := s.framePool.setGap ((1 : Int).tdiv fps) } else s

/-- `getFrameRate`. -/
def getFrameRate (s : LiveFrames) : Int := s.framePool.fgap

/-- `OnMediaStream`, which does the same for every stream type. -/
def onMediaStream (s : LiveFrames) (code : StreamCodec) (data : Option (List UInt8)) (gap : Nat) :
    LiveFrames :=
  { s with framePool := (s.framePool.inputFrame code data gap).2 }

/-- The `mGap` that a round of `RtPreviewThread` divides 1000 by, which is the gap of the last
key frame: `none` for a round without a division. -/
def roundGap (s : LiveFrames) (handle : UInt32) (mGap : Int) : Option Int :=
  (s.delivered handle).bind fun frame =>
    frame.nalu.bind fun ptr =>
      if s.framePool.mem.bytes ptr.half ptr.pos ≠ 0 then none
      else some (if frame.idr then frame.gap else mGap)

/-- A round of `RtPreviewThread`: `mGap` after it, the `nfps` that it sends, and the stream.
It is `none` for a division by zero. -/
def rtPreviewRound (s : LiveFrames) (handle : UInt32) (mGap : Int) :
    Option (Int × Option Int × LiveFrames) :=
  let after := (s.getNextFrame handle).2.2
  match s.roundGap handle mGap with
  | none => some (mGap, none, after)
  | some mGap => if mGap = 0 then none else some (mGap, some ((1000 : Int).tdiv mGap), after)

end LiveFrames

namespace LiveFrames

/-- A read moves the position of its reader only. -/
theorem getNextFrame_framePool (s : LiveFrames) (handle : UInt32) :
    (s.getNextFrame handle).2.2.framePool = s.framePool := by
  unfold getNextFrame
  dsimp only
  split
  · rfl
  · split
    · rfl
    · split
      · split
        · rfl
        · rw [setReadPos]
          split <;> rfl
      · rfl

/-- A frame that is delivered is one of the ring, and has its data. -/
theorem getNextByHanlde_of_delivered {s : LiveFrames} {handle : UInt32} {frame : VFrame}
    (h : s.delivered handle = some frame) :
    (∃ pos, s.framePool.queue.getNextByHanlde pos = some frame) ∧
      ∃ nalu, frame.nalu = some nalu := by
  unfold delivered at h
  split at h
  · rename_i hzero
    unfold getNextFrame at h hzero
    dsimp only at h hzero
    split at h
    · cases h
    · split at h
      · cases h
      · split at h
        · rename_i hstart hwrite _ frame' hnext
          rw [if_neg hstart, if_neg hwrite, hnext] at hzero
          dsimp only at hzero
          split at h
          · -- the call returns -3 for a frame without data
            rename_i hnull
            rw [if_pos hnull] at hzero
            cases hzero
          · rename_i hnalu
            cases h
            exact ⟨⟨_, hnext⟩,
              Option.ne_none_iff_exists'.mp fun hnone => hnalu (by rw [hnone]; rfl)⟩
        · cases h
  · cases h

end LiveFrames

/-! ### What every stored frame satisfies -/

namespace FrameMemPool

/-- The stored frames satisfy `p`, and so do the frames that this pool goes on to store, which
take over its gap. -/
structure Stores (p : VFrame → Prop) (pool : FrameMemPool) : Prop where
  frames : pool.queue.All p
  pushes : ∀ frame : VFrame, frame.gap = pool.fgap →
    frame.frameType = 0 ∨ frame.frameType = 1 → p frame

section

variable {p : VFrame → Prop} {pool : FrameMemPool}

theorem Stores.scan264 (h : pool.Stores p) (s : Scan) : (pool.scan264 s).1.Stores p := by
  unfold FrameMemPool.scan264
  dsimp only
  split
  · exact ⟨h.frames.push (h.pushes _ rfl (.inl rfl)), h.pushes⟩
  · split
    · exact ⟨h.frames, h.pushes⟩
    · split
      · exact ⟨h.frames, h.pushes⟩
      · exact h

theorem Stores.scan265 (h : pool.Stores p) (s : Scan) : (pool.scan265 s).1.Stores p := by
  unfold FrameMemPool.scan265
  dsimp only
  obtain ⟨sps, pps, vps, hkept⟩ := pool.keep265_eq s
    (VideoNalu.h265NalType (pool.mem.bytes s.half) s.p)
    (VideoNalu.searchStartCode (pool.mem.bytes s.half) (s.p + 4) s.stop - s.nalu)
  rw [hkept]
  exact ⟨h.frames.push (h.pushes _ rfl (.inr rfl)), h.pushes⟩

theorem Stores.scan (h : pool.Stores p) (s : Scan) : (pool.scan s).1.Stores p := by
  unfold FrameMemPool.scan
  cases pool.frameType with
  | GB_CODEC_UNKNOWN => exact h
  | GB_CODEC_H264 => exact h.scan264 s
  | GB_CODEC_H265 => exact h.scan265 s

theorem Stores.scanLoop (h : pool.Stores p) (fuel : Nat) (s : Scan) :
    (scanLoop fuel pool s).1.Stores p := by
  induction fuel generalizing pool s with
  | zero => exact h
  | succ fuel ih =>
      rw [FrameMemPool.scanLoop]
      split
      · exact ih (h.scan s) _
      · exact h

theorem Stores.finish (h : pool.Stores p) : pool.finish.Stores p := by
  unfold FrameMemPool.finish
  split
  · exact ⟨h.frames, h.pushes⟩
  · exact h
  · exact h

theorem Stores.init (h : pool.Stores p) : pool.init.Stores p := by
  unfold FrameMemPool.init
  split
  · exact h
  · exact h
  · exact (h.scanLoop _ _).finish

theorem Stores.inputFrame {type : StreamCodec} {gap : Int} (h : (pool.setCodec type gap).Stores p)
    (data : Option (List UInt8)) : (pool.inputFrame type data gap).2.Stores p := by
  unfold FrameMemPool.inputFrame
  split
  · exact h
  · rename_i mem _
    have hmem : ({ pool.setCodec type gap with mem := mem }).Stores p := ⟨h.frames, h.pushes⟩
    exact hmem.init

end

/-- Every stored frame has a gap. -/
abbrev Gapped (pool : FrameMemPool) : Prop := pool.queue.All fun frame => frame.gap ≠ 0

/-- So have the frames that this pool goes on to store. -/
structure Gaps (pool : FrameMemPool) : Prop where
  fgap : pool.fgap ≠ 0
  frames : pool.Gapped

theorem Gaps.stores {pool : FrameMemPool} (h : pool.Gaps) :
    pool.Stores fun frame => frame.gap ≠ 0 where
  frames := h.frames
  pushes frame hframe _ := by
    rw [hframe]
    exact h.fgap

/-- `InputFrame` stores frames with a gap, unless the pool has none and is given none. -/
theorem Gapped.inputFrame {pool : FrameMemPool} (h : pool.Gapped) (type : StreamCodec)
    (data : Option (List UInt8)) {gap : Int} (hgap : pool.fgap = 0 → gap ≠ 0) :
    (pool.inputFrame type data gap).2.Gapped := by
  have hset : (pool.setCodec type gap).Gaps := by
    refine ⟨?_, h⟩
    show (if pool.fgap = 0 then gap else pool.fgap) ≠ 0
    split
    · rename_i hnone
      exact hgap hnone
    · rename_i hsome
      exact hsome
  exact (hset.stores.inputFrame data).frames

end FrameMemPool

/-- A stream of a device with its frame pool, and the `mGap` of each preview thread. -/
structure DeviceStream where
  json : JsonStream
  live : LiveFrames
  mGap : Table UInt32 Int

namespace DeviceStream

inductive Event
  | setFrameRate (fps : Int)
  | callback (c : DataCallback)
  | preview
  | leave (handle : UInt32)
  | round (handle : UInt32)

/-- The members that the source does not initialise start with any value. -/
def start (malloc : Bool) (length : Nat) (allocated : Bool) (garbage : PoolGarbage)
    (handler : UInt32) : DeviceStream where
  json := .new malloc
  live :=
    { framePool := .new length allocated garbage
      mHandler := handler
      mReaderMap := ∅ }
  mGap := ∅

/-- The callback, which asks the stream for its frame rate. -/
def rated (s : DeviceStream) (c : DataCallback) : DataCallback :=
  { c with env := { c.env with frameRate := s.live.getFrameRate } }

/-- What a callback hands on to `OnMediaStream`. The data are null where they should come from
a buffer that has no memory. -/
def handOn (s : DeviceStream) (json : JsonStream) : Option MediaOutput → DeviceStream
  | some (.onMediaStream code data gap) =>
      let data := if data = [] ∧ json.mFrame.pBuf.isNone then none else some data
      { s with json := json, live := s.live.onMediaStream code data gap }
  | _ => { s with json := json }

def step : Lts.Step DeviceStream Event
  | s, .setFrameRate fps => some { s with live := s.live.setFrameRate fps }
  | s, .callback c => ((s.rated c).call s.json).map fun r => s.handOn r.1 r.2
  | s, .preview =>
      some { s with
        live := s.live.createReader.2
        mGap := s.mGap.insert s.live.createReader.1 40 }
  | s, .leave handle =>
      some { s with live := s.live.removeReader handle, mGap := s.mGap.erase handle }
  | s, .round handle =>
      match s.mGap.lookup handle with
      | none => some s
      | some mGap =>
          (s.live.rtPreviewRound handle mGap).map fun r =>
            { s with live := r.2.2, mGap := s.mGap.insert handle r.1 }

/-! ### The divisors -/

/-- More than five seconds after the last measurement. -/
def Due (s : JsonStream) (env : Surroundings) : Prop :=
  env.curTime - (if s.lastTime = 0 then env.lastTime else s.lastTime) > 5

instance (s : JsonStream) (env : Surroundings) : Decidable (Due s env) :=
  inferInstanceAs (Decidable (_ > _))

/-- What the estimation of the interval and the previews divide by. -/
def divisors (s : DeviceStream) : Event → List Int
  | .callback c =>
      if c.sink = .media ∧ s.json.exitCode = false ∧ Due s.json c.env ∧ s.live.getFrameRate = 0 then
        [s.json.interval]
      else []
  | .round handle => ((s.mGap.lookup handle).bind (s.live.roundGap handle)).toList
  | _ => []

def NoZeroDivisor (s : DeviceStream) (e : Event) : Prop := 0 ∉ s.divisors e

instance (s : DeviceStream) (e : Event) : Decidable (s.NoZeroDivisor e) :=
  inferInstanceAs (Decidable (_ ∉ _))

/-! ### When they are not zero -/

/-- The slices that have been handed on lie some milliseconds apart, as an `int`. -/
def Apart (s : JsonStream) : Prop := ¬ (2 ^ 32 : Int) ∣ (s.latestTime - s.firstTime).tdiv 1000000

instance (s : JsonStream) : Decidable (Apart s) := inferInstanceAs (Decidable (¬ _))

/-- The frame rate while `getFrameRate` gives 0: the slices for each second between the first
and the latest when it is due, and otherwise the one that was measured last. -/
def rate (s : JsonStream) (env : Surroundings) : Nat :=
  if Due s env then s.nFrameNum * 1000 % 2 ^ 64 / (s.interval % 2 ^ 64).toNat % 2 ^ 32
  else s.frameRate

/-- A frame that is handed on, with its own header. -/
def Slice (h : DataHeard) : Prop := (h.codect = ptH264 ∨ h.codect = ptH265) ∧ ¬ h.ParameterSet

instance (h : DataHeard) : Decidable (Slice h) := inferInstanceAs (Decidable (_ ∧ _))

/-- At most a thousand frames in a second, by the rate of the stream or else of the header. -/
def Slow (rate : Nat) (h : DataHeard) : Prop := if rate = 0 then h.framerate ≤ 1000 else rate ≤ 1000

instance (rate : Nat) (h : DataHeard) : Decidable (Slow rate h) :=
  inferInstanceAs (Decidable (ite _ _ _))

/-- The header of the slice that a callback hands on. -/
def sliceHeard (data : List UInt8) : Option DataHeard :=
  match praseFrameHeard data with
  | some (.ok h _) => if Slice h then some h else none
  | _ => none

/-- While the pool has no gap, a callback measures the rate only after slices that lie apart,
and hands on a slice only at a rate of at most a thousand frames in a second. -/
def Paced (s : DeviceStream) : Event → Prop
  | .callback c =>
      c.sink = .media → s.json.exitCode = false → s.live.framePool.fgap = 0 →
        (Due s.json c.env → Apart s.json) ∧ ∀ h ∈ sliceHeard c.data, Slow (rate s.json c.env) h
  | _ => True

instance (s : DeviceStream) : ∀ e, Decidable (s.Paced e)
  | .callback _ => inferInstanceAs (Decidable (_ → _ → _ → _ ∧ _))
  | .setFrameRate _ | .preview | .leave _ | .round _ => isTrue trivial

theorem interval_eq_zero_iff (s : JsonStream) :
    s.interval = 0 ↔ (2 ^ 32 : Int) ∣ (s.latestTime - s.firstTime).tdiv 1000000 := by
  exact Int.dvd_iff_bmod_eq_zero.symm

/-- The divisor of the estimation, in terms of the times of the slices. -/
theorem noZeroDivisor_callback_iff (s : DeviceStream) (c : DataCallback) :
    s.NoZeroDivisor (.callback c) ↔
      (c.sink = .media ∧ s.json.exitCode = false ∧ Due s.json c.env ∧
        s.live.framePool.fgap = 0 → Apart s.json) := by
  rw [NoZeroDivisor, divisors, LiveFrames.getFrameRate]
  split
  · rename_i hdue
    rw [imp_iff_right hdue, List.mem_singleton, eq_comm, interval_eq_zero_iff, Apart]
  · rename_i hdue
    exact iff_of_true List.not_mem_nil fun h => absurd h hdue

/-! ### The gap of a slice -/

/-- The rate that is in force after the measurement. -/
theorem measureRate_frameRate {json m : JsonStream} {env : Surroundings}
    (hm : json.measureRate env = some m) (hnone : env.frameRate = 0) :
    m.frameRate = rate json env := by
  unfold JsonStream.measureRate at hm
  dsimp only at hm
  by_cases hdue : Due json env
  · rw [if_pos (show _ > _ from hdue), if_pos hnone] at hm
    rw [rate, if_pos hdue]
    split at hm
    · cases hm
    · cases hm
      rfl
  · rw [if_neg (show ¬ _ > _ from hdue)] at hm
    rw [rate, if_neg hdue]
    cases hm
    rfl

theorem frameGap_ne_zero {s : JsonStream} {h : DataHeard} (hslow : Slow s.frameRate h) :
    s.frameGap h ≠ 0 := by
  unfold Slow at hslow
  unfold JsonStream.frameGap
  split
  · rename_i hnone
    rw [if_pos hnone] at hslow
    split
    · rename_i hpos
      exact (Nat.div_pos hslow hpos).ne'
    · split
      · rename_i hgap
        exact hgap.ne'
      · decide
  · rename_i hrate
    rw [if_neg hrate] at hslow
    exact (Nat.div_pos hslow (Nat.pos_of_ne_zero hrate)).ne'

theorem onMediaStream_of_onFrame {s s' : JsonStream} {env : Surroundings} {data buf : List UInt8}
    {h : DataHeard} {skipsize gap : Nat} {code : StreamCodec}
    (hframe : s.onFrame env data h skipsize = some (s', some (.onMediaStream code buf gap))) :
    Slice h ∧ gap = s.frameGap h := by
  unfold JsonStream.onFrame at hframe
  split at hframe
  · rename_i hvideo
    obtain ⟨bytes, -, hframe⟩ := Option.bind_eq_some_iff.mp hframe
    dsimp only at hframe
    split at hframe
    · obtain ⟨s₁, -, hpair⟩ := Option.map_eq_some_iff.mp hframe
      cases hpair
    · rename_i hslice
      refine ⟨⟨hvideo, hslice⟩, ?_⟩
      split at hframe
      · obtain ⟨r, -, hpair⟩ := Option.map_eq_some_iff.mp hframe
        cases hpair
        rfl
      · cases hframe
        rfl
  · cases hframe

theorem onAvFrame_ne_onMediaStream {s s' : JsonStream} {env : Surroundings}
    {data buf : List UInt8} {h : DataHeard} {skipsize gap : Nat} {code : StreamCodec} :
    s.onAvFrame env data h skipsize ≠ some (s', some (.onMediaStream code buf gap)) := by
  intro hframe
  unfold JsonStream.onAvFrame at hframe
  split at hframe
  · obtain ⟨bytes, -, hframe⟩ := Option.bind_eq_some_iff.mp hframe
    dsimp only at hframe
    split at hframe
    · obtain ⟨s₁, -, hpair⟩ := Option.map_eq_some_iff.mp hframe
      cases hpair
    · split at hframe
      · obtain ⟨r, -, hpair⟩ := Option.map_eq_some_iff.mp hframe
        cases hpair
      · cases hframe
  · cases hframe

/-- What a callback hands on to the frame pool is a slice, with the gap of the rate in force. -/
theorem onMediaStream_of_call {json json' : JsonStream} {c : DataCallback} {code : StreamCodec}
    {data : List UInt8} {gap : Nat}
    (hcall : c.call json = some (json', some (.onMediaStream code data gap))) :
    c.sink = .media ∧ json.exitCode = false ∧ ∃ m h, json.measureRate c.env = some m ∧
      h ∈ sliceHeard c.data ∧ gap = m.frameGap h := by
  unfold DataCallback.call at hcall
  cases hsink : c.sink with
  | media =>
      simp only [hsink, JsonStream.onVskJsonStream] at hcall
      split at hcall
      · cases hcall
      · rename_i hopen
        obtain ⟨m, hm, hcall⟩ := Option.bind_eq_some_iff.mp hcall
        obtain ⟨result, hprase, hcall⟩ := Option.bind_eq_some_iff.mp hcall
        refine ⟨rfl, Bool.eq_false_iff.mpr hopen, m, ?_⟩
        cases result with
        | notEnough => cases hcall
        | ok h skipsize =>
            dsimp only at hcall
            split at hcall
            · obtain ⟨hslice, hgap⟩ := onMediaStream_of_onFrame hcall
              refine ⟨h, hm, ?_, hgap⟩
              rw [sliceHeard, hprase]
              exact Option.mem_def.mpr (if_pos hslice)
            · cases hcall
  | avFrame =>
      simp only [hsink, JsonStream.onVskJsonStreamToAvFrame] at hcall
      split at hcall
      · cases hcall
      · obtain ⟨result, -, hcall⟩ := Option.bind_eq_some_iff.mp hcall
        cases result with
        | notEnough => cases hcall
        | ok h skipsize =>
            dsimp only at hcall
            split at hcall
            · exact absurd hcall onAvFrame_ne_onMediaStream
            · cases hcall

/-! ### Every step keeps the gaps -/

/-- No gap that a preview may come to divide by is zero. -/
structure Gapped (s : DeviceStream) : Prop where
  frames : s.live.framePool.Gapped
  previews : ∀ handle mGap, s.mGap.lookup handle = some mGap → mGap ≠ 0

theorem gapped_start (malloc : Bool) (length : Nat) (allocated : Bool)
    (garbage : PoolGarbage) (handler : UInt32) :
    (start malloc length allocated garbage handler).Gapped where
  frames := by
    show (UnLockQueue.new 128 : UnLockQueue VFrame).All fun frame => frame.gap ≠ 0
    exact UnLockQueue.all_new (by decide) 128
  previews handle mGap h := by
    rw [show (start malloc length allocated garbage handler).mGap = ∅ from rfl,
      AList.lookup_empty] at h
    cases h

variable {s s' : DeviceStream}

/-- A thread starts with a gap and takes that of a frame. -/
theorem Gapped.insert (hs : s.Gapped) {live : LiveFrames} (hframes : live.framePool.Gapped)
    {handle : UInt32} {mGap : Int} (hgap : mGap ≠ 0) :
    ({ s with live := live, mGap := s.mGap.insert handle mGap }).Gapped where
  frames := hframes
  previews handle' mGap' h := by
    rw [Table.lookup_insert] at h
    split at h
    · cases h
      exact hgap
    · exact hs.previews handle' mGap' h

theorem Gapped.roundGap (hs : s.Gapped) {handle : UInt32} {mGap gap : Int}
    (hmGap : s.mGap.lookup handle = some mGap) (hround : s.live.roundGap handle mGap = some gap) :
    gap ≠ 0 := by
  obtain ⟨frame, hdelivered, hround⟩ := Option.bind_eq_some_iff.mp hround
  obtain ⟨ptr, -, hround⟩ := Option.bind_eq_some_iff.mp hround
  obtain ⟨⟨pos, hnext⟩, -⟩ := LiveFrames.getNextByHanlde_of_delivered hdelivered
  split at hround
  · cases hround
  · cases hround
    split
    · exact hs.frames.getNextByHanlde hnext
    · exact hs.previews handle mGap hmGap

theorem Gapped.rtPreviewRound (hs : s.Gapped) {handle : UInt32} {mGap mGap' : Int}
    {nfps : Option Int} {live : LiveFrames} (hmGap : s.mGap.lookup handle = some mGap)
    (hround : s.live.rtPreviewRound handle mGap = some (mGap', nfps, live)) :
    live.framePool = s.live.framePool ∧ mGap' ≠ 0 := by
  unfold LiveFrames.rtPreviewRound at hround
  dsimp only at hround
  split at hround
  · cases hround
    exact ⟨LiveFrames.getNextFrame_framePool _ _, hs.previews handle _ hmGap⟩
  · split at hround
    · cases hround
    · rename_i hgap
      cases hround
      exact ⟨LiveFrames.getNextFrame_framePool _ _, hgap⟩

theorem Gapped.noZeroDivisor (hs : s.Gapped) {e : Event} (hpaced : s.Paced e) :
    s.NoZeroDivisor e := by
  cases e with
  | callback c =>
      rw [noZeroDivisor_callback_iff]
      rintro ⟨hsink, hopen, hdue, hnone⟩
      exact (hpaced hsink hopen hnone).1 hdue
  | round handle =>
      rw [NoZeroDivisor, divisors, Option.mem_toList]
      intro hzero
      obtain ⟨mGap, hmGap, hround⟩ := Option.bind_eq_some_iff.mp hzero
      exact hs.roundGap hmGap hround rfl
  | setFrameRate fps => exact List.not_mem_nil
  | preview => exact List.not_mem_nil
  | leave handle => exact List.not_mem_nil

/-- What a callback hands on has a gap while the pool has none. -/
theorem Gapped.callback (hs : s.Gapped) {c : DataCallback} (hpaced : s.Paced (.callback c))
    (hstep : step s (.callback c) = some s') : s'.Gapped := by
  obtain ⟨⟨json, out⟩, hcall, rfl⟩ := Option.map_eq_some_iff.mp hstep
  dsimp only [handOn]
  split
  · rename_i code data gap
    obtain ⟨hsink, hopen, m, h, hm, hh, rfl⟩ := onMediaStream_of_call hcall
    refine ⟨hs.frames.inputFrame code _ fun hnone => ?_, hs.previews⟩
    have hrate : m.frameRate = rate s.json (s.rated c).env := measureRate_frameRate hm hnone
    have hslow : Slow m.frameRate h := hrate ▸ (hpaced hsink hopen hnone).2 h hh
    exact Int.natCast_ne_zero.mpr (frameGap_ne_zero hslow)
  · exact ⟨hs.frames, hs.previews⟩

theorem preserves_gapped : Lts.Preserves step Paced Gapped := by
  intro s e s' hs hpaced hstep
  cases e with
  | callback c => exact hs.callback hpaced hstep
  | setFrameRate fps =>
      cases hstep
      refine ⟨?_, hs.previews⟩
      dsimp only [LiveFrames.setFrameRate]
      split
      · exact hs.frames
      · exact hs.frames
  | preview =>
      cases hstep
      have hframes : s.live.createReader.2.framePool.Gapped := hs.frames
      exact hs.insert hframes (by decide)
  | leave handle =>
      cases hstep
      refine ⟨hs.frames, fun handle' mGap h => ?_⟩
      dsimp only at h
      rw [Table.lookup_erase] at h
      split at h
      · cases h
      · exact hs.previews handle' mGap h
  | round handle =>
      rw [step] at hstep
      split at hstep
      · cases hstep
        exact hs
      · rename_i mGap hmGap
        obtain ⟨⟨mGap', nfps, live⟩, hround, rfl⟩ := Option.map_eq_some_iff.mp hstep
        obtain ⟨hlive, hgap⟩ := hs.rtPreviewRound hmGap hround
        exact hs.insert (hlive ▸ hs.frames) hgap

/-- No division of the estimation or of a preview has divisor zero, in every run whose
callbacks are paced. -/
theorem no_zero_divisor (malloc : Bool) (length : Nat) (allocated : Bool)
    (garbage : PoolGarbage) (handler : UInt32) (events : List Event)
    (hpaced : Lts.Checked step Paced (start malloc length allocated garbage handler) events) :
    Lts.Checked step NoZeroDivisor (start malloc length allocated garbage handler) events :=
  preserves_gapped.checked (fun _ _ hs => hs.noZeroDivisor)
    (gapped_start malloc length allocated garbage handler) hpaced

/-- A frame of audio. -/
def audioFrame : List UInt8 :=
  [0, 0, 1, 0xF0, 14, 0, 0, 0, 0, 0, 0, 0, 4, 0, 0, 0, 1, 0x40, 0x1F, 0, 0] ++ [9, 9, 9, 9]

/-- A key frame with a frame rate in its header. -/
def keyFrame (framerate : UInt16) : List UInt8 :=
  [0, 0, 1, 0xF0, 26, 0, 5, 0, 40, 0] ++ LittleEndian.encode 2 framerate.toNat ++
    [8, 0, 0, 0] ++ List.replicate 16 0 ++ [0, 0, 0, 1, 0x65, 0x88, 0x84, 0]

/-- A callback of the device that many milliseconds after the start of its clock. -/
def callbackAt (ms : Int) (data : List UInt8) : Event :=
  .callback ⟨.media, ⟨100 + ms / 1000, 100 + ms / 1000, ms * 1000000, ms * 1000000, 0, true⟩, data⟩

/-- The rate is set again while a preview reads, and then it is measured. -/
theorem paced_no_zero_divisor :
    Lts.Checked step NoZeroDivisor (start true 10485760 true default 0)
      [.setFrameRate 25, .preview, callbackAt 0 (keyFrame 25), .round 1,
        callbackAt 40 (keyFrame 25), .round 1, .setFrameRate 25, callbackAt 6000 (keyFrame 25),
        .round 1, callbackAt 12000 audioFrame] :=
  no_zero_divisor true 10485760 true default 0 _ (by decide +kernel)

/-- Six seconds with nothing but audio, and a key frame that says there are 1001 in a second. -/
theorem zero_divisors :
    ¬ Lts.Checked step NoZeroDivisor (start true 10485760 true default 0)
        [.setFrameRate 25, callbackAt 0 audioFrame, callbackAt 6000 audioFrame] ∧
      ¬ Lts.Checked step NoZeroDivisor (start true 10485760 true default 0)
        [.setFrameRate 25, .preview, callbackAt 0 (keyFrame 1001), .round 1] := by
  constructor
  · decide +kernel
  · decide +kernel

end DeviceStream

end SignalingServer
