import SignalingServer.Lib.Lts
import SignalingServer.Lib.Ring
import SignalingServer.Tools.AvFrame

/-!
The ring of frame buffers that a playback goes through (`media/MediaStream.cpp`). The
producer writes into the slot at `wIndex` when that slot is idle, the consumer reads the
slot at `rIndex` when it is not, and only the data length of a slot says which it is. In
the runs here a call of the producer has two steps, the data and then the header, and the
consumer can come in between.
-/

namespace SignalingServer

/-- The arguments of a call of `OnJsonMediaVideoStream` or `OnJsonMediaAudioStream`. -/
inductive MediaFrame
  | video (code : MediaCodec) (data : List UInt8) (fps ibp w h : UInt16) (pts : UInt64)
  | audio (code : MediaCodec) (data : List UInt8) (chl sampleRate : UInt32)
deriving DecidableEq, Repr

namespace MediaFrame

def data : MediaFrame → List UInt8
  | video _ data _ _ _ _ _ => data
  | audio _ data _ _ => data

/-- What the call writes into the header of a slot, in the order of the source: the type
of a video frame comes before its codec. -/
def writeHead : MediaFrame → MediaAvFrame → MediaAvFrame
  | video code _ fps ibp w h pts, head =>
      ((((head.setIBPType ibp).setCodecType code).setWidHeight
        (if ibp = 0 then w else 0) (if ibp = 0 then h else 0)).setFrameRate fps).setPTS pts
  | audio code _ chl sampleRate, head =>
      ((head.setCodecType code).setChls chl).setSampleRate sampleRate

/-- The getters of a header that a consumer can use give what the call was given. -/
def ShownBy : MediaFrame → MediaAvFrame → Prop
  | video code _ fps ibp w h pts, head =>
      head.codect = code ∧ (code.isVideo → head.frameRate = fps ∧ head.frameType = ibp ∧
        (ibp = 0 → head.vwidth = w ∧ head.vheight = h) ∧ head.timestamp = pts)
  | audio code _ chl sampleRate, head =>
      head.codect = code ∧ (code = .CODEC_AAC → head.chl = chl ∧ head.sampleRate = sampleRate)

instance (frame : MediaFrame) (head : MediaAvFrame) : Decidable (frame.ShownBy head) := by
  cases frame <;> exact inferInstanceAs (Decidable (_ ∧ (_ → _)))

/-- The type of the frame gets into the header: the header is of a video frame already, or
says by chance what it should. -/
def TypeKept : MediaFrame → MediaAvFrame → Prop
  | video code _ _ ibp _ _ _, head => code.isVideo → head.codect.isVideo ∨ head.frameType = ibp
  | audio _ _ _ _, _ => True

instance (frame : MediaFrame) (head : MediaAvFrame) : Decidable (frame.TypeKept head) := by
  cases frame with
  | video code data fps ibp w h pts => exact inferInstanceAs (Decidable (_ → _ ∨ _))
  | audio code data chl sampleRate => exact isTrue trivial

theorem shownBy_writeHead_iff (frame : MediaFrame) (head : MediaAvFrame) :
    frame.ShownBy (frame.writeHead head) ↔ frame.TypeKept head := by
  cases frame with
  | video code data fps ibp w h pts =>
      by_cases hcode : code.isVideo
      · by_cases hold : head.codect.isVideo
        · by_cases hibp : ibp = 0
          · simp [ShownBy, TypeKept, writeHead, hcode, hold, hibp]
          · simp [ShownBy, TypeKept, writeHead, hcode, hold, hibp]
        · by_cases hibp : ibp = 0
          · simp [ShownBy, TypeKept, writeHead, hcode, hold, hibp]
          · simp [ShownBy, TypeKept, writeHead, hcode, hold, hibp]
      · -- no field of the header but the codec is looked at
        by_cases hold : head.codect.isVideo
        · simp [ShownBy, TypeKept, writeHead, hcode, hold]
        · simp [ShownBy, TypeKept, writeHead, hcode, hold]
  | audio code data chl sampleRate =>
      by_cases hcode : code = .CODEC_AAC
      · simp [ShownBy, TypeKept, writeHead, MediaAvFrame.chl, MediaAvFrame.sampleRate, hcode]
      · simp [ShownBy, TypeKept, writeHead, hcode]

end MediaFrame

/-! ### The slots -/

namespace AvFrame

/-- The writing of the data in `OnJsonMediaVideoStream` and `OnJsonMediaAudioStream`, with
a larger buffer where the first attempt asks for one. -/
def fill (f : AvFrame) (data : List UInt8) : Option (Int × AvFrame) :=
  (f.writeData data (toInt data.length)).bind fun (ret, f) =>
    if ret = 1 then
      (f.reSizeBuf (toInt data.length)).bind fun (_, f) => f.writeData data (toInt data.length)
    else some (ret, f)

/-- An idle slot takes any data whose length is not negative as an `int`. -/
theorem fill_idle {f : AvFrame} (hidle : f.isIde) (data : List UInt8) :
    (f.fill data = none ∧ toInt data.length < 0) ∨
      ∃ f', f.fill data = some (0, f') ∧ f'.mDataSize = toInt data.length ∧
        f'.content = data.take (toInt data.length).toNat ∧ f'.mFrame = f.mFrame := by
  have htake (old : List UInt8) : (data.take (toInt data.length).toNat ++ old).take
      (toInt data.length).toNat = data.take (toInt data.length).toNat := by
    have hle : (toInt data.length).toNat ≤ data.length := by
      rw [toInt]
      split <;> omega
    rw [List.take_append_of_le_length (by rw [List.length_take]; omega), List.take_take,
      Nat.min_self]
  by_cases hneg : toInt data.length < 0
  · left
    refine ⟨?_, hneg⟩
    have hresize : f.reSizeBuf (toInt data.length) = none := by
      rw [reSizeBuf, if_pos hidle, if_pos hneg]
    rw [fill, writeData]
    cases f.mData with
    | none => exact congrArg (Option.bind · _) hresize
    | some old =>
        dsimp only
        split
        · rfl
        · exact congrArg (Option.bind · _) hresize
  · right
    -- a buffer that was made for the data takes it
    have hresize : (f.reSizeBuf (toInt data.length)).bind
        (fun (_, f) => f.writeData data (toInt data.length)) =
          some (0, { f with
            mData := some (data.take (toInt data.length).toNat ++ [].drop (toInt data.length).toNat)
            mDataSize := toInt data.length
            mBufSize := toInt data.length }) := by
      rw [reSizeBuf, if_pos hidle, if_neg hneg, Option.bind_some]
      dsimp only [writeData]
      rw [if_pos (Int.le_refl _), if_neg hneg]
    rw [fill, writeData]
    cases f.mData with
    | none => exact ⟨_, hresize, rfl, htake _, rfl⟩
    | some old =>
        dsimp only
        split
        · exact ⟨_, rfl, rfl, htake _, rfl⟩
        · exact ⟨_, hresize, rfl, htake _, rfl⟩

end AvFrame

/-- The members of `MediaStream` that a playback uses. -/
structure PlaybackFrames where
  mFrames : List AvFrame
  rIndex : Nat
  wIndex : Nat
deriving DecidableEq, Repr

namespace PlaybackFrames

/-- The constructor of `MediaStream`, which makes two slots. -/
def new : PlaybackFrames where
  mFrames := List.replicate 2 {}
  rIndex := 0
  wIndex := 0

/-- What `OnJsonMediaVideoStream` and `OnJsonMediaAudioStream` begin with: 2 without a
slot, 1 for a slot that is in use, 0 when the data is written and 3 when that failed.
`none` where the call does not come back. -/
def write (s : PlaybackFrames) (data : List UInt8) : Option (Int × PlaybackFrames) :=
  match s.mFrames[s.wIndex]? with
  | none => some (2, s)
  | some slot =>
      if slot.isIde then
        (slot.fill data).map fun (ret, slot') =>
          (if ret = 0 then 0 else 3, { s with mFrames := s.mFrames.set s.wIndex slot' })
      else some (1, s)

/-- What they go on with when the data is written. -/
def commit (s : PlaybackFrames) (frame : MediaFrame) : PlaybackFrames :=
  { s with
    mFrames := s.mFrames.modify s.wIndex fun slot =>
      { slot with mFrame := frame.writeHead slot.mFrame }
    wIndex := (s.wIndex + 1) % s.mFrames.length }

/-- A whole call of the producer. -/
def onJsonMedia (s : PlaybackFrames) (frame : MediaFrame) : Option (Int × PlaybackFrames) :=
  (s.write frame.data).map fun (ret, s') => if ret = 0 then (0, s'.commit frame) else (ret, s')

def onJsonMediaVideoStream (s : PlaybackFrames) (code : MediaCodec) (data : List UInt8)
    (fps ibp w h : UInt16) (pts : UInt64) : Option (Int × PlaybackFrames) :=
  s.onJsonMedia (.video code data fps ibp w h pts)

def onJsonMediaAudioStream (s : PlaybackFrames) (code : MediaCodec) (data : List UInt8)
    (chl sampleRate : UInt32) : Option (Int × PlaybackFrames) :=
  s.onJsonMedia (.audio code data chl sampleRate)

/-- `GetNextFrameEx`: the result, and the frame and the index that it assigns with 0. The
frame is a copy of the header that shares the memory of the slot. -/
def getNextFrameEx (s : PlaybackFrames) : Int × Option (AvFrame × Nat) :=
  match s.mFrames[s.rIndex]? with
  | none => (2, none)
  | some slot => if !slot.isIde then (0, some (slot, s.rIndex)) else (1, none)

def freeFrameByIndex (s : PlaybackFrames) (fIndex : Nat) : PlaybackFrames :=
  if fIndex < s.mFrames.length then
    { s with
      mFrames := s.mFrames.modify fIndex AvFrame.clearData
      rIndex := (fIndex + 1) % s.mFrames.length }
  else s

/-! ### What the getters say -/

/-- What a frame says of itself that was given to `OnJsonMediaVideoStream` with this codec,
frame rate, type and time. -/
structure Reports (f : AvFrame) (code : MediaCodec) (fps ibp : UInt16) (pts : UInt64) :
    Prop where
  codec : f.getCodecType = code
  ibpType : f.getIBPType = ibp.toNat
  key : f.isKeyFram = true ↔ ibp = 0 ∨ ibp = 1
  idr : f.isIDRFram = true ↔ ibp = 0
  frameRate : f.getFramRate = fps.toNat
  time : f.getPTS = pts

/-- The header of a call of the producer says all of it exactly when its type got there. -/
theorem reports_writeHead_iff {f : AvFrame} {head : MediaAvFrame} {code : MediaCodec}
    (data : List UInt8) (fps ibp w h : UInt16) (pts : UInt64) (hcode : code.isVideo)
    (hhead : f.mFrame = (MediaFrame.video code data fps ibp w h pts).writeHead head) :
    Reports f code fps ibp pts ↔ head.codect.isVideo ∨ head.frameType = ibp := by
  have hcodec : f.mFrame.codect = code := by
    rw [hhead]
    simp [MediaFrame.writeHead, hcode]
  have hrate : f.mFrame.frameRate = fps := by
    rw [hhead]
    simp [MediaFrame.writeHead, hcode]
  have htime : f.mFrame.timestamp = pts := by
    rw [hhead]
    simp [MediaFrame.writeHead, hcode]
  have htype : f.mFrame.frameType = if head.codect.isVideo then ibp else head.frameType := by
    rw [hhead]
    by_cases hold : head.codect.isVideo
    · simp [MediaFrame.writeHead, hcode, hold]
    · simp [MediaFrame.writeHead, hcode, hold]
  have hvideo : f.mFrame.codect.isVideo := by
    rw [hcodec]
    exact hcode
  constructor
  · intro hreports
    by_cases hold : head.codect.isVideo
    · exact .inl hold
    · right
      have hibp := hreports.ibpType
      rw [AvFrame.getIBPType, if_pos hvideo, htype, if_neg hold] at hibp
      exact UInt16.toNat_inj.mp (Int.ofNat.inj hibp)
  · intro hkept
    have hibp : f.mFrame.frameType = ibp := by
      rw [htype]
      split
      · rfl
      · rename_i hold
        exact hkept.resolve_left hold
    refine ⟨hcodec, ?_, ?_, ?_, ?_, ?_⟩
    · rw [AvFrame.getIBPType, if_pos hvideo, hibp]
    · simp [AvFrame.isKeyFram, hvideo, hibp]
    · simp [AvFrame.isIDRFram, hvideo, hibp]
    · rw [AvFrame.getFramRate, if_pos hvideo, hrate]
    · rw [AvFrame.getPTS, if_pos hvideo, htime]

/-- A call that returns 0 wrote into an idle slot, and its header over the one there. -/
theorem onJsonMedia_zero {s s' : PlaybackFrames} {frame : MediaFrame}
    (hcall : s.onJsonMedia frame = some (0, s')) :
    ∃ slot slot', s.mFrames[s.wIndex]? = some slot ∧ s'.mFrames[s.wIndex]? = some slot' ∧
      slot'.mFrame = frame.writeHead slot.mFrame := by
  obtain ⟨⟨ret, s₁⟩, hwrite, hafter⟩ := Option.map_eq_some_iff.mp hcall
  dsimp only at hafter
  split at hafter
  · rename_i hret
    cases hafter
    unfold write at hwrite
    split at hwrite
    · cases hwrite
      cases hret
    · rename_i slot hslot
      split at hwrite
      · rename_i hidle
        obtain ⟨⟨ret', filled⟩, hfill, hpair⟩ := Option.map_eq_some_iff.mp hwrite
        cases hpair
        rcases AvFrame.fill_idle hidle frame.data with ⟨hnone, -⟩ | ⟨f, hsome, -, -, hhead⟩
        · rw [hnone] at hfill
          cases hfill
        · rw [hsome] at hfill
          cases hfill
          have hlt : s.wIndex < s.mFrames.length := (List.getElem?_eq_some_iff.mp hslot).1
          refine ⟨slot, { filled with mFrame := frame.writeHead filled.mFrame }, hslot, ?_, ?_⟩
          · simp [commit, hlt]
          · rw [hhead]
      · cases hwrite
        cases hret
  · rename_i hret
    cases hafter
    exact absurd rfl hret

/-- A video frame that `GetNextFrameEx` delivers from the slot it was written to reports the
codec, type, frame rate and time of its call exactly when the slot was one of a video frame
before, or the bits of the type there were by chance those of the call. -/
theorem delivered_reports_iff {s s' t : PlaybackFrames} {code : MediaCodec} {data : List UInt8}
    {fps ibp w h : UInt16} {pts : UInt64} {slot frame : AvFrame} {i : Nat} (hcode : code.isVideo)
    (hslot : s.mFrames[s.wIndex]? = some slot)
    (hcall : s.onJsonMediaVideoStream code data fps ibp w h pts = some (0, s'))
    (hturn : t.rIndex = s.wIndex) (hsame : t.mFrames[s.wIndex]? = s'.mFrames[s.wIndex]?)
    (hget : t.getNextFrameEx = (0, some (frame, i))) :
    Reports frame code fps ibp pts ↔ slot.mFrame.codect.isVideo ∨ slot.mFrame.frameType = ibp := by
  obtain ⟨old, new, hold, hnew, hhead⟩ := onJsonMedia_zero hcall
  rw [hslot, Option.some.injEq] at hold
  have hframe : frame = new := by
    unfold getNextFrameEx at hget
    rw [hturn, hsame, hnew] at hget
    dsimp only at hget
    split at hget
    · cases hget
      rfl
    · cases hget
  rw [hframe, reports_writeHead_iff data fps ibp w h pts hcode hhead, hold]

/-- The first frame of a fresh ring, a P frame, is delivered as a key frame. -/
theorem p_frame_reported_as_key :
    ∃ s' frame i, PlaybackFrames.new.onJsonMediaVideoStream .CODEC_H264 [1] 25 3 0 0 40 =
        some (0, s') ∧ s'.getNextFrameEx = (0, some (frame, i)) ∧
      ¬ Reports frame .CODEC_H264 25 3 40 ∧ frame.isIDRFram = true := by
  refine ⟨_, _, _, rfl, rfl, fun hreports => ?_, by decide⟩
  exact absurd (hreports.key.mp (by decide)) (by decide)

theorem key_frame_reported :
    Reports ⟨some [1], 1, 1, ⟨.CODEC_H264, 25, 0, 1920, 1080, 40⟩⟩ .CODEC_H264 25 0 40 := by
  have hcall : PlaybackFrames.new.onJsonMediaVideoStream .CODEC_H264 [1] 25 0 1920 1080 40 =
      some (0, ⟨[⟨some [1], 1, 1, ⟨.CODEC_H264, 25, 0, 1920, 1080, 40⟩⟩, {}], 0, 1⟩) := by
    decide +kernel
  exact (delivered_reports_iff rfl rfl hcall rfl rfl rfl).mpr (.inr rfl)

/-! ### Runs -/

/-- A step of the producer, which is in a call or between two, or of the consumer. -/
inductive Event
  | write (frame : MediaFrame)
  | commit
  | get
  | free

/-- The ring with the call that the producer is in, the index that the consumer has to free,
and the history: the frames whose data was written, for which the producer gets 0, the
frames the consumer got, and how many of them it has freed. -/
structure Run where
  ring : PlaybackFrames
  call : Option MediaFrame
  held : Option Nat
  frames : List MediaFrame
  delivered : List AvFrame
  freed : Nat

namespace Run

def start : Run where
  ring := .new
  call := none
  held := none
  frames := []
  delivered := []
  freed := 0

def step : Lts.Step Run Event
  | s, .write frame =>
      match s.call with
      | some _ => none
      | none =>
          (s.ring.write frame.data).map fun (ret, ring) =>
            if ret = 0 then
              { s with ring := ring, call := some frame, frames := s.frames ++ [frame] }
            else { s with ring := ring }
  | s, .commit => s.call.map fun frame => { s with ring := s.ring.commit frame, call := none }
  | s, .get =>
      match s.held with
      | some _ => none
      | none =>
          match s.ring.getNextFrameEx.2 with
          | some (frame, fIndex) =>
              some { s with held := some fIndex, delivered := s.delivered ++ [frame] }
          | none => some s
  | s, .free =>
      s.held.map fun fIndex =>
        { s with ring := s.ring.freeFrameByIndex fIndex, held := none, freed := s.freed + 1 }

/-- The frame shows the data and the header of a call. -/
def Shows (slot : AvFrame) (frame : MediaFrame) : Prop :=
  slot.content = frame.data ∧ frame.ShownBy slot.mFrame

/-- The consumer got the frames of the producer in their order, and those that it has not
freed are in their slots. A frame that it has not got yet also has its header, unless the
producer is still in the call. -/
structure Lossless (s : Run) : Prop where
  delivered : ∀ ⦃i : Nat⦄ ⦃slot : AvFrame⦄, s.delivered[i]? = some slot →
    ∃ frame, s.frames[i]? = some frame ∧ Shows slot frame
  kept : ∀ ⦃j : Nat⦄ ⦃frame : MediaFrame⦄, s.frames[j]? = some frame → s.freed ≤ j →
    ∃ slot, s.ring.mFrames[j % s.ring.mFrames.length]? = some slot ∧ slot.isIde = false ∧
      slot.content = frame.data
  heads : ∀ ⦃j : Nat⦄ ⦃frame : MediaFrame⦄, s.frames[j]? = some frame → s.delivered.length ≤ j →
    (s.call.isSome → j + 1 < s.frames.length) →
      ∀ slot ∈ s.ring.mFrames[j % s.ring.mFrames.length]?, frame.ShownBy slot.mFrame

/-- The data that goes into an idle slot is not empty and its length is an `int`. The type
of a frame that has not been read yet gets into the header. A frame that is read before
its call has ended shows its header already. -/
def Settled (s : Run) : Event → Prop
  | .write frame => ∀ slot ∈ s.ring.mFrames[s.ring.wIndex]?, slot.isIde →
      0 < frame.data.length ∧ frame.data.length < 2 ^ 31
  | .commit => ∀ frame ∈ s.call, s.delivered.length < s.frames.length →
      ∀ slot ∈ s.ring.mFrames[s.ring.wIndex]?, frame.TypeKept slot.mFrame
  | .get => ∀ frame ∈ s.call, s.delivered.length + 1 = s.frames.length →
      ∀ slot ∈ s.ring.mFrames[s.ring.rIndex]?, frame.ShownBy slot.mFrame
  | .free => True

instance (s : Run) : ∀ e, Decidable (s.Settled e)
  | .write _ => inferInstanceAs (Decidable (∀ slot ∈ s.ring.mFrames[s.ring.wIndex]?, _ → _))
  | .commit => inferInstanceAs (Decidable (∀ frame ∈ s.call, _ →
      ∀ slot ∈ s.ring.mFrames[s.ring.wIndex]?, frame.TypeKept slot.mFrame))
  | .get => inferInstanceAs (Decidable (∀ frame ∈ s.call, _ →
      ∀ slot ∈ s.ring.mFrames[s.ring.rIndex]?, frame.ShownBy slot.mFrame))
  | .free => isTrue trivial

/-! ### The invariant -/

/-- The indices count the frames that were freed and those that were committed, a slot is
idle just when no frame is in it, and nothing is lost. -/
structure Sound (s : Run) : Prop where
  slots : 0 < s.ring.mFrames.length
  rIndex : s.ring.rIndex = s.freed % s.ring.mFrames.length
  wIndex : s.ring.wIndex =
    (s.frames.length - if s.call.isSome then 1 else 0) % s.ring.mFrames.length
  call : ∀ frame ∈ s.call, s.frames.getLast? = some frame
  held : s.held =
    if s.freed < s.delivered.length then some (s.freed % s.ring.mFrames.length) else none
  freed_le : s.freed ≤ s.delivered.length
  delivered_le : s.delivered.length ≤ s.freed + 1
  frames_le : s.frames.length ≤ s.freed + s.ring.mFrames.length
  idle : ∀ ⦃j : Nat⦄, s.frames.length ≤ j → j < s.freed + s.ring.mFrames.length →
    ∀ slot ∈ s.ring.mFrames[j % s.ring.mFrames.length]?, slot.isIde
  lossless : s.Lossless

theorem sound_start : start.Sound where
  slots := by decide
  rIndex := rfl
  wIndex := rfl
  call frame h := by cases h
  held := rfl
  freed_le := Nat.le_refl 0
  delivered_le := Nat.zero_le 1
  frames_le := Nat.zero_le _
  idle j _ _ slot hslot := by
    have hmem := List.mem_of_getElem? (show start.ring.mFrames[j % 2]? = some slot from hslot)
    rw [List.eq_of_mem_replicate hmem]
    rfl
  lossless :=
    { delivered := fun i slot h => by cases (show ([] : List AvFrame)[i]? = some slot from h)
      kept := fun j frame h => by cases (show ([] : List MediaFrame)[j]? = some frame from h)
      heads := fun j frame h => by cases (show ([] : List MediaFrame)[j]? = some frame from h) }

theorem Sound.delivered_le_frames {s : Run} (hs : s.Sound) :
    s.delivered.length ≤ s.frames.length := by
  by_contra hmore
  obtain ⟨frame, hframe, -⟩ := hs.lossless.delivered
    (List.getElem?_eq_getElem (show s.frames.length < s.delivered.length by omega))
  exact Nat.lt_irrefl _ (List.getElem?_eq_some_iff.mp hframe).1

/-! ### The producer -/

/-- Between two calls the write index is at the first free slot, if there is one. -/
theorem Sound.wIndex_eq {s : Run} (hs : s.Sound) (hcall : s.call = none) :
    s.ring.wIndex = s.frames.length % s.ring.mFrames.length := by
  rw [hs.wIndex, hcall]
  rfl

theorem Sound.lt_of_idle {s : Run} (hs : s.Sound) (hcall : s.call = none) {slot : AvFrame}
    (hslot : s.ring.mFrames[s.ring.wIndex]? = some slot) (hidle : slot.isIde) :
    s.frames.length < s.freed + s.ring.mFrames.length := by
  have hle := hs.frames_le
  have hslots := hs.slots
  rcases Nat.lt_or_eq_of_le hle with hlt | hfull
  · exact hlt
  · -- the slot would hold the oldest frame that is not freed yet
    obtain ⟨slot', hslot', hused, -⟩ := hs.lossless.kept
      (List.getElem?_eq_getElem (show s.freed < s.frames.length by omega)) (Nat.le_refl _)
    rw [hs.wIndex_eq hcall, hfull, Nat.add_mod_right, hslot', Option.some.injEq] at hslot
    subst hslot
    rw [hidle] at hused
    cases hused

theorem Sound.write {s : Run} (hs : s.Sound) (hcall : s.call = none) {frame : MediaFrame}
    {slot slot' : AvFrame} (hslot : s.ring.mFrames[s.ring.wIndex]? = some slot)
    (hidle : slot.isIde) (hused : slot'.isIde = false) (hdata : slot'.content = frame.data) :
    ({ s with
      ring := { s.ring with mFrames := s.ring.mFrames.set s.ring.wIndex slot' }
      call := some frame
      frames := s.frames ++ [frame] }).Sound := by
  have hslots := hs.slots
  have hfree := hs.lt_of_idle hcall hslot hidle
  have hfreed := hs.freed_le
  have hdelivered := hs.delivered_le_frames
  have hindex := hs.wIndex_eq hcall
  have hlength : (s.frames ++ [frame]).length = s.frames.length + 1 := by
    rw [List.length_append, List.length_singleton]
  have hset : (s.ring.mFrames.set s.ring.wIndex slot').length = s.ring.mFrames.length :=
    List.length_set
  -- the slots of the other frames are left alone
  have hother : ∀ j, s.freed ≤ j → j < s.freed + s.ring.mFrames.length → j ≠ s.frames.length →
      (s.ring.mFrames.set s.ring.wIndex slot')[j % s.ring.mFrames.length]? =
        s.ring.mFrames[j % s.ring.mFrames.length]? := by
    intro j hlow hhigh hne
    rw [hindex]
    exact List.getElem?_set_ne
      (Ring.mod_ne (by omega) hfree hlow hhigh (Ne.symm hne))
  have hnew : (s.ring.mFrames.set s.ring.wIndex slot')[s.frames.length % s.ring.mFrames.length]? =
      some slot' := by
    rw [hindex, List.getElem?_set_self (Nat.mod_lt _ hslots)]
  refine
    { slots := ?slots, rIndex := ?rIndex, wIndex := ?wIndex, call := ?call, held := ?held
      freed_le := hfreed, delivered_le := hs.delivered_le, frames_le := ?frames_le, idle := ?idle
      lossless := { delivered := ?delivered, kept := ?kept, heads := ?heads } }
  case slots =>
    show 0 < (s.ring.mFrames.set s.ring.wIndex slot').length
    rw [hset]
    exact hslots
  case rIndex =>
    show s.ring.rIndex = s.freed % (s.ring.mFrames.set s.ring.wIndex slot').length
    rw [hset]
    exact hs.rIndex
  case wIndex =>
    show s.ring.wIndex = ((s.frames ++ [frame]).length - 1) % (s.ring.mFrames.set _ slot').length
    rw [hset, hlength]
    exact hindex
  case call =>
    intro f hf
    cases hf
    exact List.getLast?_concat
  case held =>
    show s.held = if s.freed < s.delivered.length then
      some (s.freed % (s.ring.mFrames.set s.ring.wIndex slot').length) else none
    rw [hset]
    exact hs.held
  case frames_le =>
    show (s.frames ++ [frame]).length ≤ s.freed + (s.ring.mFrames.set s.ring.wIndex slot').length
    rw [hset, hlength]
    exact hfree
  case idle =>
    intro j hj hlap
    dsimp only at hj hlap ⊢
    rw [hlength] at hj
    rw [hset] at hlap ⊢
    rw [hother j (by omega) hlap (by omega)]
    exact hs.idle (by omega) hlap
  case delivered =>
    intro i f hi
    obtain ⟨g, hg, hshows⟩ := hs.lossless.delivered hi
    have hlt : i < s.frames.length := (List.getElem?_eq_some_iff.mp hg).1
    exact ⟨g, by rw [List.getElem?_append_left hlt]; exact hg, hshows⟩
  case kept =>
    intro j f hj hlow
    dsimp only at hj hlow ⊢
    rw [hset]
    rcases Ring.getElem?_concat_cases hj with ⟨hlt, hj⟩ | ⟨rfl, rfl⟩
    · rw [hother j hlow (by omega) (by omega)]
      exact hs.lossless.kept hj hlow
    · exact ⟨slot', hnew, hused, hdata⟩
  case heads =>
    intro j f hj hlow hopen
    dsimp only at hj hlow hopen ⊢
    have hlt := hopen rfl
    rw [hlength] at hlt
    rw [List.getElem?_append_left (by omega)] at hj
    rw [hset, hother j (by omega) (by omega) (by omega)]
    refine hs.lossless.heads hj hlow ?_
    rw [hcall]
    intro hnone
    cases hnone

/-- The position of the frame that the producer is in the call for. -/
theorem Sound.wIndex_in_call {s : Run} (hs : s.Sound) {frame : MediaFrame}
    (hcall : s.call = some frame) :
    s.frames[s.frames.length - 1]? = some frame ∧ 0 < s.frames.length ∧
      s.ring.wIndex = (s.frames.length - 1) % s.ring.mFrames.length := by
  have hlast := hs.call frame hcall
  rw [List.getLast?_eq_getElem?] at hlast
  refine ⟨hlast, ?_, ?_⟩
  · have hlt := (List.getElem?_eq_some_iff.mp hlast).1
    omega
  · rw [hs.wIndex, hcall]
    rfl

/-- The end of a call changes the header of one slot. -/
theorem commit_getElem? (ring : PlaybackFrames) (frame : MediaFrame) (i : Nat) :
    (ring.commit frame).mFrames[i]? = (ring.mFrames[i]?).map fun slot =>
      { slot with
        mFrame := if ring.wIndex = i then frame.writeHead slot.mFrame else slot.mFrame } := by
  show (ring.mFrames.modify ring.wIndex _)[i]? = _
  rw [List.getElem?_modify]
  cases ring.mFrames[i]? with
  | none => rfl
  | some slot =>
      dsimp only [Option.map_eq_map, Option.map_some]
      split
      · rfl
      · rfl

theorem Sound.commit {s : Run} (hs : s.Sound) {frame : MediaFrame} (hcall : s.call = some frame)
    (hkept : s.Settled .commit) :
    ({ s with ring := s.ring.commit frame, call := none }).Sound := by
  obtain ⟨hlast, hpos, hindex⟩ := hs.wIndex_in_call hcall
  have hfreed := hs.freed_le
  have hle := hs.frames_le
  have hlength : (s.ring.commit frame).mFrames.length = s.ring.mFrames.length :=
    List.length_modify _ _ _
  refine
    { slots := ?slots, rIndex := ?rIndex, wIndex := ?wIndex, call := ?call, held := ?held
      freed_le := hfreed, delivered_le := hs.delivered_le, frames_le := ?frames_le, idle := ?idle
      lossless := { delivered := hs.lossless.delivered, kept := ?kept, heads := ?heads } }
  case slots =>
    rw [hlength]
    exact hs.slots
  case rIndex =>
    show s.ring.rIndex = _
    rw [hlength]
    exact hs.rIndex
  case wIndex =>
    show (s.ring.wIndex + 1) % s.ring.mFrames.length =
      s.frames.length % (s.ring.commit frame).mFrames.length
    rw [hlength, hindex, Nat.mod_add_mod, Nat.sub_add_cancel hpos]
  case call =>
    intro f hf
    cases hf
  case held =>
    show s.held = _
    rw [hlength]
    exact hs.held
  case frames_le =>
    rw [hlength]
    exact hle
  case idle =>
    intro j hj hlap slot hslot
    rw [hlength] at hlap hslot
    rw [commit_getElem?] at hslot
    obtain ⟨slot', hslot', rfl⟩ := Option.map_eq_some_iff.mp hslot
    exact hs.idle hj hlap slot' hslot'
  case kept =>
    intro j f hf hlow
    obtain ⟨slot, hslot, hused, hdata⟩ := hs.lossless.kept hf hlow
    rw [hlength, commit_getElem?, hslot]
    exact ⟨_, rfl, hused, hdata⟩
  case heads =>
    intro j f hf hlow _ slot hslot
    dsimp only at hf hlow
    have hj : j < s.frames.length := (List.getElem?_eq_some_iff.mp hf).1
    rw [hlength, commit_getElem?] at hslot
    obtain ⟨slot', hslot', rfl⟩ := Option.map_eq_some_iff.mp hslot
    by_cases hnew : j = s.frames.length - 1
    · -- the frame of the call itself
      subst hnew
      rw [hlast, Option.some.injEq] at hf
      subst hf
      rw [if_pos hindex]
      refine (frame.shownBy_writeHead_iff _).mpr (hkept frame hcall (by omega) slot' ?_)
      rw [hindex]
      exact hslot'
    · rw [if_neg]
      · exact hs.lossless.heads hf hlow (fun _ => by omega) slot' hslot'
      · rw [hindex]
        have hfreed : s.freed ≤ s.frames.length - 1 := by omega
        exact Ring.mod_ne hfreed (by omega) (by omega) (by omega) (by omega)

/-! ### The consumer -/

/-- Between two frames the consumer has freed all that it got. -/
theorem Sound.freed_eq {s : Run} (hs : s.Sound) (hheld : s.held = none) :
    s.delivered.length = s.freed := by
  have hle := hs.freed_le
  have hhold := hs.held
  rw [hheld] at hhold
  split at hhold
  · cases hhold
  · omega

/-- What a read does: nothing, or it takes the oldest frame that is not freed. -/
theorem Sound.get_cases {s s' : Run} (hs : s.Sound) (hstep : step s .get = some s') :
    s.held = none ∧ ((s' = s ∧ s.frames.length ≤ s.freed) ∨ ∃ slot,
      s.ring.mFrames[s.freed % s.ring.mFrames.length]? = some slot ∧
      s.freed < s.frames.length ∧ s' =
        { s with
          held := some (s.freed % s.ring.mFrames.length)
          delivered := s.delivered ++ [slot] }) := by
  have hslots := hs.slots
  have hslot := List.getElem?_eq_getElem (Nat.mod_lt s.freed hslots)
  rw [step] at hstep
  cases hheld : s.held with
  | some fIndex =>
      rw [hheld] at hstep
      cases hstep
  | none =>
      rw [hheld, getNextFrameEx, hs.rIndex, hslot] at hstep
      refine ⟨rfl, ?_⟩
      rcases Nat.lt_or_ge s.freed s.frames.length with hlt | hnone
      · right
        obtain ⟨slot, hslot', hused, -⟩ :=
          hs.lossless.kept (List.getElem?_eq_getElem hlt) (Nat.le_refl _)
        rw [hslot, Option.some.injEq] at hslot'
        simp only [hslot', hused, Bool.not_false, if_pos] at hstep
        cases hstep
        exact ⟨slot, by rw [hslot, hslot'], hlt, rfl⟩
      · left
        have hidle := hs.idle hnone (by omega) _ hslot
        simp only [hidle, Bool.not_true] at hstep
        cases hstep
        exact ⟨rfl, hnone⟩

theorem Sound.get {s s' : Run} (hs : s.Sound) (hshown : s.Settled .get)
    (hstep : step s .get = some s') : s'.Sound := by
  obtain ⟨hheld, ⟨rfl, -⟩ | ⟨slot, hslot, hlt, rfl⟩⟩ := hs.get_cases hstep
  · exact hs
  have hfreed := hs.freed_eq hheld
  have hlength : (s.delivered ++ [slot]).length = s.freed + 1 := by
    rw [List.length_append, hfreed, List.length_singleton]
  have hframe := List.getElem?_eq_getElem hlt
  -- the frame in the slot is the next one of the producer, and its header is there
  have hshows : Shows slot s.frames[s.freed] := by
    obtain ⟨slot', hslot', -, hdata⟩ := hs.lossless.kept hframe (Nat.le_refl _)
    rw [hslot, Option.some.injEq] at hslot'
    subst hslot'
    refine ⟨hdata, ?_⟩
    by_cases hopen : s.call.isSome ∧ s.freed + 1 = s.frames.length
    · obtain ⟨frame, hcall⟩ := Option.isSome_iff_exists.mp hopen.1
      obtain ⟨hlast, -, -⟩ := hs.wIndex_in_call hcall
      rw [← hopen.2, Nat.add_sub_cancel, hframe, Option.some.injEq] at hlast
      rw [hlast]
      refine hshown frame hcall (by rw [hfreed]; exact hopen.2) slot ?_
      rw [hs.rIndex]
      exact hslot
    · refine hs.lossless.heads hframe (Nat.le_of_eq hfreed) (fun hsome => ?_) slot hslot
      have hne : s.freed + 1 ≠ s.frames.length := fun heq => hopen ⟨hsome, heq⟩
      omega
  refine
    { slots := hs.slots, rIndex := hs.rIndex, wIndex := hs.wIndex, call := hs.call, held := ?held
      freed_le := ?freed_le, delivered_le := ?delivered_le, frames_le := hs.frames_le
      idle := hs.idle
      lossless := { delivered := ?delivered, kept := hs.lossless.kept, heads := ?heads } }
  case held =>
    dsimp only
    rw [hlength, if_pos (Nat.lt_succ_self _)]
  case freed_le =>
    dsimp only
    rw [hlength]
    exact Nat.le_succ _
  case delivered_le =>
    exact Nat.le_of_eq hlength
  case delivered =>
    intro i f hi
    rcases Ring.getElem?_concat_cases hi with ⟨-, hi⟩ | ⟨rfl, rfl⟩
    · exact hs.lossless.delivered hi
    · rw [hfreed]
      exact ⟨_, hframe, hshows⟩
  case heads =>
    intro j f hf hlow
    dsimp only at hlow
    rw [hlength] at hlow
    exact hs.lossless.heads hf (by omega)

theorem free_getElem? {ring : PlaybackFrames} {fIndex : Nat} (h : fIndex < ring.mFrames.length)
    (i : Nat) : (ring.freeFrameByIndex fIndex).mFrames[i]? =
      (ring.mFrames[i]?).map fun slot => if fIndex = i then slot.clearData else slot := by
  rw [freeFrameByIndex, if_pos h]
  show (ring.mFrames.modify fIndex _)[i]? = _
  rw [List.getElem?_modify]
  rfl

theorem Sound.free {s : Run} (hs : s.Sound) {fIndex : Nat} (hheld : s.held = some fIndex) :
    ({ s with
      ring := s.ring.freeFrameByIndex fIndex
      held := none
      freed := s.freed + 1 }).Sound := by
  have hslots := hs.slots
  have hle := hs.delivered_le
  have hframes := hs.frames_le
  have hdelivered := hs.delivered_le_frames
  have hhold := hs.held
  rw [hheld] at hhold
  split at hhold
  · rename_i hlt
    rw [Option.some.injEq] at hhold
    have hbound : fIndex < s.ring.mFrames.length := hhold ▸ Nat.mod_lt _ hslots
    have hlength : (s.ring.freeFrameByIndex fIndex).mFrames.length = s.ring.mFrames.length := by
      rw [freeFrameByIndex, if_pos hbound]
      exact List.length_modify _ _ _
    -- only the slot of the frame that is freed changes
    have hother : ∀ j, s.freed < j → j < s.freed + s.ring.mFrames.length →
        (s.ring.freeFrameByIndex fIndex).mFrames[j % s.ring.mFrames.length]? =
          s.ring.mFrames[j % s.ring.mFrames.length]? := by
      intro j hlow hhigh
      rw [free_getElem? hbound, hhold]
      simp only [if_neg (Ring.mod_ne (Nat.le_refl s.freed) (by omega) (Nat.le_of_lt hlow) hhigh
        (Nat.ne_of_lt hlow)), Option.map_id']
    refine
      { slots := ?slots, rIndex := ?rIndex, wIndex := ?wIndex, call := hs.call, held := ?held
        freed_le := hlt, delivered_le := ?delivered_le, frames_le := ?frames_le, idle := ?idle
        lossless := { delivered := hs.lossless.delivered, kept := ?kept, heads := ?heads } }
    case slots =>
      rw [hlength]
      exact hslots
    case rIndex =>
      rw [hlength]
      dsimp only
      rw [freeFrameByIndex, if_pos hbound, hhold, Nat.mod_add_mod]
    case wIndex =>
      rw [hlength]
      dsimp only
      rw [freeFrameByIndex, if_pos hbound]
      exact hs.wIndex
    case held =>
      dsimp only
      rw [if_neg (by omega)]
    case delivered_le =>
      exact Nat.le_succ_of_le hle
    case frames_le =>
      rw [hlength]
      dsimp only
      omega
    case idle =>
      intro j hj hlap slot hslot
      rw [hlength] at hlap hslot
      dsimp only at hj hlap hslot
      rcases Nat.lt_or_ge j (s.freed + s.ring.mFrames.length) with hwithin | hnew
      · rw [hother j (by omega) hwithin] at hslot
        exact hs.idle hj hwithin slot hslot
      · -- the slot that has just become free
        rw [show j = s.freed + s.ring.mFrames.length by omega, Nat.add_mod_right,
          free_getElem? hbound] at hslot
        obtain ⟨slot', -, rfl⟩ := Option.map_eq_some_iff.mp hslot
        rw [if_pos hhold]
        rfl
    case kept =>
      intro j f hf hlow
      dsimp only at hf hlow ⊢
      have hj : j < s.frames.length := (List.getElem?_eq_some_iff.mp hf).1
      rw [hlength, hother j (by omega) (by omega)]
      exact hs.lossless.kept hf (by omega)
    case heads =>
      intro j f hf hlow hopen
      dsimp only at hf hlow hopen ⊢
      have hj : j < s.frames.length := (List.getElem?_eq_some_iff.mp hf).1
      rw [hlength, hother j (by omega) (by omega)]
      exact hs.lossless.heads hf hlow hopen
  · cases hhold

/-! ### Every step -/

/-- What the first step of a call does: nothing, or it writes the data into an idle slot. -/
theorem write_cases {s s' : Run} {frame : MediaFrame} (hstep : step s (.write frame) = some s') :
    s.call = none ∧ ((s' = s ∧ ∀ slot ∈ s.ring.mFrames[s.ring.wIndex]?, slot.isIde = false) ∨
      ∃ slot slot', s.ring.mFrames[s.ring.wIndex]? = some slot ∧
      slot.isIde ∧ slot'.mDataSize = AvFrame.toInt frame.data.length ∧
      slot'.content = frame.data.take (AvFrame.toInt frame.data.length).toNat ∧
      s' =
        { s with
          ring := { s.ring with mFrames := s.ring.mFrames.set s.ring.wIndex slot' }
          call := some frame
          frames := s.frames ++ [frame] }) := by
  obtain ⟨ring, call, held, frames, delivered, freed⟩ := s
  cases call with
  | some f => cases hstep
  | none =>
      rw [step, PlaybackFrames.write] at hstep
      refine ⟨rfl, ?_⟩
      dsimp only at hstep ⊢
      cases hslot : ring.mFrames[ring.wIndex]? with
      | none =>
          rw [hslot] at hstep
          cases hstep
          exact .inl ⟨rfl, fun slot h => by cases h⟩
      | some slot =>
          rw [hslot] at hstep
          dsimp only at hstep
          split at hstep
          · rename_i hidle
            -- without memory `Fill` returns without a frame, and there is no step
            rcases AvFrame.fill_idle hidle frame.data with
              ⟨hnone, -⟩ | ⟨slot', hfill, hsize, hdata, -⟩
            · rw [hnone] at hstep
              cases hstep
            · rw [hfill] at hstep
              cases hstep
              exact .inr ⟨slot, slot', rfl, hidle, hsize, hdata, rfl⟩
          · rename_i hused
            cases hstep
            refine .inl ⟨rfl, fun slot' h => ?_⟩
            cases h
            exact Bool.eq_false_iff.mpr hused

theorem preserves_sound : Lts.Preserves step Settled Sound := by
  intro s e s' hs hsettled hstep
  cases e with
  | write frame =>
      rcases write_cases hstep with
        ⟨hcall, ⟨rfl, -⟩ | ⟨slot, slot', hslot, hidle, hsize, hdata, rfl⟩⟩
      · exact hs
      · obtain ⟨hpos, hlt⟩ := hsettled slot hslot hidle
        -- within an `int`, the slot holds all bytes of the frame
        rw [AvFrame.toInt_eq_iff.mpr hlt] at hsize hdata
        refine hs.write hcall hslot hidle ?_ ?_
        · rw [← Bool.not_eq_true, AvFrame.isIde_iff, hsize]
          omega
        · rw [hdata, Int.toNat_natCast, List.take_length]
  | commit =>
      obtain ⟨frame, hcall, hs'⟩ := Option.map_eq_some_iff.mp hstep
      subst hs'
      exact hs.commit hcall hsettled
  | get => exact hs.get hsettled hstep
  | free =>
      obtain ⟨fIndex, hheld, hs'⟩ := Option.map_eq_some_iff.mp hstep
      subst hs'
      exact hs.free hheld

/-- A step outside the condition loses a frame, cuts it short, or shows it with a header
that is not its own. -/
theorem Sound.settled {s s' : Run} {e : Event} (hs : s.Sound) (hstep : step s e = some s')
    (hlossless : s'.Lossless) : s.Settled e := by
  cases e with
  | write frame =>
      rcases write_cases hstep with
        ⟨hcall, ⟨rfl, hused⟩ | ⟨slot, slot', hslot, hidle, hsize, hdata, rfl⟩⟩
      · intro slot hslot hidle
        rw [hused slot hslot] at hidle
        cases hidle
      · intro _ _ _
        have hfree := hs.lt_of_idle hcall hslot hidle
        have hframes : (s.frames ++ [frame])[s.frames.length]? = some frame :=
          List.getElem?_concat_length
        have hlow : s.freed ≤ s.frames.length :=
          Nat.le_trans hs.freed_le hs.delivered_le_frames
        -- the frame just written is still kept, so its size was not cut
        obtain ⟨f, hf, hused, hcontent⟩ := hlossless.kept hframes hlow
        have hset : (s.ring.mFrames.set s.ring.wIndex slot').length = s.ring.mFrames.length :=
          List.length_set
        dsimp only at hf
        rw [hset, ← hs.wIndex_eq hcall,
          List.getElem?_set_self (hs.wIndex_eq hcall ▸ Nat.mod_lt _ hs.slots)] at hf
        cases hf
        rw [← Bool.not_eq_true, AvFrame.isIde_iff, hsize] at hused
        have hlength := congrArg List.length (hdata.symm.trans hcontent)
        rw [List.length_take] at hlength
        have hle := AvFrame.toInt_le frame.data.length
        have hsame : AvFrame.toInt frame.data.length = frame.data.length := by omega
        exact ⟨by omega, AvFrame.toInt_eq_iff.mp hsame⟩
  | commit =>
      obtain ⟨frame, hcall, rfl⟩ := Option.map_eq_some_iff.mp hstep
      intro f hf hlt slot hslot
      rw [hcall] at hf
      cases hf
      obtain ⟨hlast, hpos, hindex⟩ := hs.wIndex_in_call hcall
      -- with the call over, the header shown is the one this step wrote
      have hhead := hlossless.heads (j := s.frames.length - 1) hlast
        (show s.delivered.length ≤ s.frames.length - 1 by omega) (fun h => by cases h)
        { slot with mFrame := frame.writeHead slot.mFrame }
      refine (frame.shownBy_writeHead_iff _).mp (hhead ?_)
      have hlength : (s.ring.commit frame).mFrames.length = s.ring.mFrames.length :=
        List.length_modify _ _ _
      dsimp only
      rw [hlength, ← hindex, commit_getElem?, show s.ring.mFrames[s.ring.wIndex]? = _ from hslot,
        Option.map_some, if_pos rfl]
      rfl
  | get =>
      intro frame hcall hnext slot hslot
      obtain ⟨hheld, ⟨rfl, hnone⟩ | ⟨slot', hslot', hlt, rfl⟩⟩ := hs.get_cases hstep
      · -- nothing was there to get, so the condition speaks of no frame
        have hfreed := hs.freed_eq hheld
        omega
      · have hfreed := hs.freed_eq hheld
        rw [hs.rIndex, show s.ring.mFrames[s.freed % s.ring.mFrames.length]? = _ from hslot'] at hslot
        cases hslot
        have hgot : (s.delivered ++ [slot])[s.freed]? = some slot := by
          rw [← hfreed]
          exact List.getElem?_concat_length
        obtain ⟨f, hf, -, hshown⟩ := hlossless.delivered hgot
        obtain ⟨hlast, -, -⟩ := hs.wIndex_in_call hcall
        rw [← hnext, Nat.add_sub_cancel, hfreed, show s.frames[s.freed]? = _ from hf,
          Option.some.injEq] at hlast
        rw [← hlast]
        exact hshown
  | free => trivial

/-- The frames of the producer reach the consumer complete, in order and with their headers
exactly while every step of the run meets the condition. -/
theorem lossless_iff_settled (events : List Event) :
    Lts.Along step Lossless start events ↔ Lts.Guarded step Settled start events :=
  Lts.along_iff_guarded preserves_sound (fun _ hs => hs.lossless)
    (fun _ _ _ hs hstep hlossless => hs.settled hstep hlossless) sound_start

/-- A whole call of the producer that returns 0 is its two steps, and any other call is the
first of them. -/
theorem onJsonMedia_eq {s : Run} {frame : MediaFrame} {ret : Int} {ring : PlaybackFrames}
    (hcall : s.call = none) (h : s.ring.onJsonMedia frame = some (ret, ring)) :
    if ret = 0 then
      Lts.exec step s [.write frame, .commit] =
        some { s with ring := ring, frames := s.frames ++ [frame] }
    else step s (.write frame) = some { s with ring := ring } := by
  obtain ⟨ring₀, call, held, frames, delivered, freed⟩ := s
  cases hcall
  obtain ⟨⟨ret', ring'⟩, hwrite, hafter⟩ := Option.map_eq_some_iff.mp h
  dsimp only at hwrite hafter ⊢
  by_cases hret : ret' = 0
  · rw [if_pos hret, Prod.mk.injEq] at hafter
    obtain ⟨rfl, rfl⟩ := hafter
    rw [if_pos rfl, Lts.exec_cons, step]
    dsimp only
    rw [hwrite, hret]
    rfl
  · rw [if_neg hret, Prod.mk.injEq] at hafter
    obtain ⟨rfl, rfl⟩ := hafter
    rw [if_neg hret, step]
    dsimp only
    rw [hwrite, Option.map_some, if_neg hret]

/-- An empty frame leaves its slot idle. The next two frames come out in the wrong order, the
empty one never, and the second of them as a key frame, since its slot was not one of a
video frame before. -/
theorem empty_frame_lost :
    ∃ s, Lts.exec step start
        [.write (.video .CODEC_H264 [] 25 0 1920 1080 0), .commit,
          .write (.video .CODEC_H264 [1] 25 3 0 0 40), .commit,
          .write (.video .CODEC_H264 [2] 25 3 0 0 80), .commit,
          .get, .free, .get, .free] = some s ∧ ¬ s.Lossless := by
  have hrun : (Lts.exec step start
      [.write (.video .CODEC_H264 [] 25 0 1920 1080 0), .commit,
        .write (.video .CODEC_H264 [1] 25 3 0 0 40), .commit,
        .write (.video .CODEC_H264 [2] 25 3 0 0 80), .commit,
        .get, .free, .get, .free]).map
          (fun s => (s.frames[0]?.map MediaFrame.data, s.delivered.map AvFrame.content,
            s.delivered.map fun slot => slot.mFrame.frameType)) =
      some (some [], [[2], [1]], [3, 0]) := by
    decide +kernel
  obtain ⟨s, hs, hresult⟩ := Option.map_eq_some_iff.mp hrun
  simp only [Prod.mk.injEq] at hresult
  obtain ⟨hfirst, hdelivered, -⟩ := hresult
  refine ⟨s, hs, fun hlossless => ?_⟩
  cases hslots : s.delivered with
  | nil =>
      rw [hslots] at hdelivered
      cases hdelivered
  | cons slot slots =>
      obtain ⟨frame, hframe, hdata, -⟩ :=
        hlossless.delivered (show s.delivered[0]? = some slot by rw [hslots]; rfl)
      rw [hslots, List.map_cons, List.cons.injEq] at hdelivered
      rw [hframe, Option.map_some, Option.some.injEq, ← hdata, hdelivered.1] at hfirst
      cases hfirst

end Run

end PlaybackFrames

end SignalingServer
