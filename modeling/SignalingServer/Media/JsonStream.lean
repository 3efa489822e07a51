import SignalingServer.Lib.LittleEndian
import SignalingServer.Lib.Lts
import SignalingServer.Media.FrameMemPool
import SignalingServer.Tools.Kmp
import SignalingServer.Tools.LineBuf

/-!
Streams of an NVR (`media/mediaIn/JsonStream.cpp`). The device calls back with one
frame at a time, behind a header of its own. Parameter sets are collected in a buffer
and handed on together with the next key frame.
-/

namespace SignalingServer

/-- The `PAYLOAD_TYPE_E` that the code compares with. -/
abbrev ptH264 : Nat := 26

abbrev ptH265 : Nat := 35

/-- The types of audio that have a header of their own length. -/
def ptAudio : List Nat := [8, 14, 15, 22, 28, 29, 30, 31]

def ptPointCloud : List Nat := [39, 40]

/-- `DataHeard`. The sizes and the time of a key frame share their place with the two fields
of an audio frame, but no header has both. -/
structure DataHeard where
  codect : Nat := 0
  framet : Nat := 0
  gapms : Nat := 0
  framerate : Nat := 0
  framelen : Nat := 0
  vwidth : Nat := 0
  vheight : Nat := 0
  timestamp : Nat := 0
  chl : Nat := 0
  frate : Nat := 0
  deriving DecidableEq, Repr

namespace DataHeard

/-- SPS of H.264, VPS or SPS of H.265: they have a size of picture in their header. -/
def SizedSet (h : DataHeard) : Prop :=
  (h.codect = ptH264 ∧ h.framet = 7) ∨ (h.codect = ptH265 ∧ (h.framet = 32 ∨ h.framet = 33))

/-- The frames that are collected for the next key frame. -/
def ParameterSet (h : DataHeard) : Prop :=
  (h.codect = ptH264 ∧ (h.framet = 7 ∨ h.framet = 8)) ∨
    (h.codect = ptH265 ∧ (h.framet = 32 ∨ h.framet = 33 ∨ h.framet = 34))

/-- The slices of a key frame. -/
def KeySlice (h : DataHeard) : Prop :=
  (h.codect = ptH264 ∧ h.framet = 5) ∨ (h.codect = ptH265 ∧ (h.framet = 19 ∨ h.framet = 20))

instance (h : DataHeard) : Decidable h.SizedSet := inferInstanceAs (Decidable (_ ∨ _))
instance (h : DataHeard) : Decidable h.ParameterSet := inferInstanceAs (Decidable (_ ∨ _))
instance (h : DataHeard) : Decidable h.KeySlice := inferInstanceAs (Decidable (_ ∨ _))

/-- `FrameHeardLen`. -/
def frameHeardLen (h : DataHeard) : Nat :=
  if h.SizedSet ∨ h.KeySlice then 16 + 4 + 4 + 8
  else if h.codect ∈ ptAudio then 16 + 1 + 4
  else if h.codect ∈ ptPointCloud then 2 ^ 32 - 1
  else 16

end DataHeard

/-- `VISKINGFILEHEARD_3` or `VISKINGFILEHEARD_2`. -/
def startCode (extended : Bool) : List UInt8 := [0, 0, 1, if extended then 0xFE else 0xF0]

/-- `MatchDataHeard`. `KMPMatch` takes the length as an `int`, and finds nothing where that
is negative. -/
def matchDataHeard (pbuf : List UInt8) : Int :=
  if pbuf.length < 2 ^ 31 then
    let temp := kmpMatch pbuf (startCode true)
    if temp ≥ 0 then temp else kmpMatch pbuf (startCode false)
  else -1

/-- A number of the header, which lies in the data. -/
def headerField (pbuf : List UInt8) (pos len : Nat) : Nat :=
  LittleEndian.decode ((pbuf.drop pos).take len)

/-- What `PraseFrameHeard` returns: a header with the place where it was found, or
that there are not enough data. -/
inductive HeardResult where
  | ok (heard : DataHeard) (skipsize : Nat)
  | notEnough
  deriving DecidableEq, Repr

/-- The header from its start code on. -/
def readHeard (pbuf : List UInt8) : DataHeard where
  codect := headerField pbuf 4 2
  framet := headerField pbuf 6 2
  gapms := headerField pbuf 8 2
  framerate := headerField pbuf 10 2
  framelen := headerField pbuf 12 4

def readSizes (h : DataHeard) (pbuf : List UInt8) : DataHeard :=
  { h with
    vwidth := headerField pbuf 16 4
    vheight := headerField pbuf 20 4
    timestamp := headerField pbuf 24 8 }

def readAudio (h : DataHeard) (pbuf : List UInt8) : DataHeard :=
  { h with
    chl := headerField pbuf 16 1
    frate := headerField pbuf 17 4 }

/-- `PraseFrameHeard`: `none` where it reads a time stamp that lies behind the data. -/
def praseFrameHeard (data : List UInt8) : Option HeardResult :=
  if matchDataHeard data ≥ 0 then
    let pbuf := data.drop (matchDataHeard data).toNat
    let heard := readHeard pbuf
    if pbuf.length < 16 then some .notEnough
    else if heard.SizedSet then
      if pbuf.length < 16 + 4 + 4 then some .notEnough
      else if pbuf.length < 16 + 4 + 4 + 8 then none
      else some (.ok (readSizes heard pbuf) (matchDataHeard data).toNat)
    else if heard.KeySlice then
      if pbuf.length < 16 + 4 + 4 + 8 then some .notEnough
      else some (.ok (readSizes heard pbuf) (matchDataHeard data).toNat)
    else if heard.codect ∈ ptAudio then
      if pbuf.length < 16 + 1 + 4 then some .notEnough
      else some (.ok (readAudio heard pbuf) (matchDataHeard data).toNat)
    else some (.ok heard (matchDataHeard data).toNat)
  else some (.ok {} data.length)

/-- `switchFromToGB`. -/
def switchFromToGB (type : Nat) : StreamCodec :=
  if type = ptH264 then .GB_CODEC_H264
  else if type = ptH265 then .GB_CODEC_H265
  else .GB_CODEC_UNKNOWN

/-- `switchFromToMediacodec`. -/
def switchFromToMediacodec (type : Nat) : MediaCodec :=
  if type = ptH264 then .CODEC_H264
  else if type = ptH265 then .CODEC_H265
  else .CODEC_UNKNOW

/-- A call of `OnMediaStream` or `OnJsonMediaVideoStream`. -/
inductive MediaOutput where
  | onMediaStream (code : StreamCodec) (data : List UInt8) (gap : Nat)
  | onJsonMediaVideoStream (code : MediaCodec) (data : List UInt8) (fps ibp w h : Nat) (pts : Int)
  deriving DecidableEq, Repr

/-- The data that are handed on. -/
def MediaOutput.data : MediaOutput → List UInt8
  | .onMediaStream _ data _ => data
  | .onJsonMediaVideoStream _ data _ _ _ _ _ => data

/-- What a callback meets: the two calls of `time`, the two of the steady clock (in
nanoseconds), the configured frame rate, and whether `realloc` succeeds. -/
structure Surroundings where
  curTime : Int
  lastTime : Int
  firstTime : Int
  latestTime : Int
  frameRate : Int
  realloc : Bool
  deriving DecidableEq, Repr

/-- `JsonStream`. -/
structure JsonStream where
  mFrame : LineBuffer
  lastTime : Int := 0
  curTime : Int := 0
  nFrameNum : Nat := 0
  frameRate : Nat := 0
  exitCode : Bool := false
  firstTime : Int := 0
  latestTime : Int := 0
  deriving DecidableEq, Repr

namespace JsonStream

/-- The constructor, with whether `malloc` succeeds. -/
def new (malloc : Bool) : JsonStream where
  mFrame := .new (512 * 1024) malloc

/-- The milliseconds between the first and the latest frame, as an `int`. -/
def interval (s : JsonStream) : Int := ((s.latestTime - s.firstTime).tdiv 1000000).bmod (2 ^ 32)

/-- The frame rate that is measured every five seconds: `none` for a division by zero. -/
def measureRate (s : JsonStream) (env : Surroundings) : Option JsonStream :=
  let lastTime := if s.lastTime = 0 then env.lastTime else s.lastTime
  if env.curTime - lastTime > 5 then
    if env.frameRate = 0 then
      if s.interval = 0 then none
      else
        let rate := s.nFrameNum * 1000 % 2 ^ 64 / (s.interval % 2 ^ 64).toNat
        some { s with
          curTime := env.curTime, lastTime := env.curTime, frameRate := rate % 2 ^ 32 }
    else
      some { s with
        curTime := env.curTime, lastTime := env.curTime
        frameRate := (env.frameRate % 2 ^ 32).toNat }
  else some { s with curTime := env.curTime, lastTime := lastTime }

/-- The count of a frame that is no parameter set. -/
def countFrame (s : JsonStream) (env : Surroundings) : JsonStream :=
  { s with
    firstTime := if s.nFrameNum = 0 then env.firstTime else s.firstTime
    nFrameNum := (s.nFrameNum + 1) % 2 ^ 64
    latestTime := env.latestTime }

/-- `gap`. -/
def frameGap (s : JsonStream) (h : DataHeard) : Nat :=
  if s.frameRate = 0 then
    if h.framerate > 0 then 1000 / h.framerate else if h.gapms > 0 then h.gapms else 40
  else 1000 / s.frameRate

/-- The frame behind its header: `none` where it ends behind the data. -/
def frameData (data : List UInt8) (h : DataHeard) (skipsize : Nat) : Option (List UInt8) :=
  if skipsize + h.frameHeardLen + h.framelen ≤ data.length then
    some ((data.drop (skipsize + h.frameHeardLen)).take h.framelen)
  else none

/-- `mFrame.writeBuf` of a parameter set. -/
def collect (s : JsonStream) (buf : List UInt8) : Option JsonStream :=
  (s.mFrame.writeBuf buf).map fun r => { s with mFrame := r.1 }

/-- The part of `OnVskJsonStream` for a header that was read. -/
def onFrame (s : JsonStream) (env : Surroundings) (data : List UInt8) (h : DataHeard)
    (skipsize : Nat) : Option (JsonStream × Option MediaOutput) :=
  if h.codect = ptH264 ∨ h.codect = ptH265 then
    (frameData data h skipsize).bind fun buf =>
      if h.ParameterSet then (s.collect buf).map fun s => (s, none)
      else
        let s := s.countFrame env
        let gap := s.frameGap h
        if h.KeySlice then
          (s.mFrame.finishFrame buf env.realloc).map fun r =>
            ({ s with mFrame := r.1 },
              some (.onMediaStream (switchFromToGB h.codect) r.2 gap))
        else some (s, some (.onMediaStream (switchFromToGB h.codect) buf gap))
  else some (s, none)

/-- The frame rate of the AV frames: for H.264 it is settled by the first frame. -/
def settleRate (s : JsonStream) (h : DataHeard) : JsonStream :=
  if h.codect = ptH264 ∧ s.frameRate = 0 then
    { s with frameRate := if h.framerate < 15 ∨ h.framerate > 60 then 30 else h.framerate }
  else s

/-- The part of `OnVskJsonStreamToAvFrame` for a header that was read. While the queue
of the stream is full, the loop hands on the same data again. -/
def onAvFrame (s : JsonStream) (env : Surroundings) (data : List UInt8) (h : DataHeard)
    (skipsize : Nat) : Option (JsonStream × Option MediaOutput) :=
  if h.codect = ptH264 ∨ h.codect = ptH265 then
    (frameData data h skipsize).bind fun buf =>
      if h.ParameterSet then (s.collect buf).map fun s => (s, none)
      else
        let s := (s.countFrame env).settleRate h
        let gap := s.frameGap h
        if h.KeySlice then
          let curTime := ((h.timestamp * 1000 : Nat) : Int).bmod (2 ^ 64)
          (s.mFrame.finishFrame buf env.realloc).map fun r =>
            ({ s with mFrame := r.1, curTime := curTime, lastTime := curTime + gap },
              some (.onJsonMediaVideoStream (switchFromToMediacodec h.codect) r.2
                (s.frameRate % 2 ^ 16) 0 (h.vwidth % 2 ^ 16) (h.vheight % 2 ^ 16) curTime))
        else
          some ({ s with lastTime := s.lastTime + gap },
            some (.onJsonMediaVideoStream (switchFromToMediacodec h.codect) buf
              (s.frameRate % 2 ^ 16) 3 0 0 s.lastTime))
  else some (s, none)

/-- The header is read, and a frame that has a length is handed to `next`. -/
def onHeard (data : List UInt8) (s : JsonStream)
    (next : DataHeard → Nat → Option (JsonStream × Option MediaOutput)) :
    Option (JsonStream × Option MediaOutput) :=
  (praseFrameHeard data).bind fun
    | .ok h skipsize =>
        if AvFrame.toInt h.framelen > 0 then next h skipsize else some (s, none)
    | .notEnough => some (s, none)

/-- `OnVskJsonStream`. -/
def onVskJsonStream (s : JsonStream) (env : Surroundings) (data : List UInt8) :
    Option (JsonStream × Option MediaOutput) :=
  if s.exitCode then some (s, none)
  else (s.measureRate env).bind fun s => onHeard data s (s.onFrame env data)

/-- `OnVskJsonStreamToAvFrame`. -/
def onVskJsonStreamToAvFrame (s : JsonStream) (env : Surroundings) (data : List UInt8) :
    Option (JsonStream × Option MediaOutput) :=
  if s.exitCode then some (s, none) else onHeard data s (s.onAvFrame env data)

end JsonStream

/-! ### Complete frames -/

/-- The frames of a stream. -/
inductive H264Slice where
  | sps
  | pps
  | iSlice
  | pSlice
  deriving DecidableEq, Repr

namespace H264Slice

/-- `H264E_NALU_TYPE_E`. -/
def code : H264Slice → Nat
  | sps => 7
  | pps => 8
  | iSlice => 5
  | pSlice => 1

/-- The header has a size of picture and a time stamp. -/
def Sized (t : H264Slice) : Prop := t = sps ∨ t = iSlice

instance (t : H264Slice) : Decidable t.Sized := inferInstanceAs (Decidable (_ ∨ _))

end H264Slice

/-- One complete frame with a header, and what may stand behind it, such as the end
marker. -/
structure H264Frame where
  extended : Bool
  type : H264Slice
  gapms : UInt16
  framerate : UInt16
  vwidth : UInt32
  vheight : UInt32
  timestamp : UInt64
  payload : List UInt8
  tail : List UInt8
  pos : 0 < payload.length
  lt : payload.length < 2 ^ 30

namespace H264Frame

def sizes (f : H264Frame) : List UInt8 :=
  if f.type.Sized then
    LittleEndian.encode 4 f.vwidth.toNat ++ (LittleEndian.encode 4 f.vheight.toNat ++
      LittleEndian.encode 8 f.timestamp.toNat)
  else []

/-- The bytes that the device calls back with. -/
def data (f : H264Frame) : List UInt8 :=
  startCode f.extended ++ (LittleEndian.encode 2 ptH264 ++ (LittleEndian.encode 2 f.type.code ++
    (LittleEndian.encode 2 f.gapms.toNat ++ (LittleEndian.encode 2 f.framerate.toNat ++
      (LittleEndian.encode 4 f.payload.length ++ (f.sizes ++ (f.payload ++ f.tail)))))))

/-- The search for a start code finds the frame's own. -/
def Found (f : H264Frame) : Prop := matchDataHeard f.data = 0

instance (f : H264Frame) : Decidable f.Found := inferInstanceAs (Decidable (_ = _))

/-- The extended start code is searched for first. -/
theorem found_of_extended {f : H264Frame} (h : f.extended = true) (hlen : f.data.length < 2 ^ 31) :
    f.Found := by
  rw [Found, matchDataHeard, if_pos hlen, data, h]
  rfl

/-- The header as it is read. -/
def heard (f : H264Frame) : DataHeard where
  codect := ptH264
  framet := f.type.code
  gapms := f.gapms.toNat
  framerate := f.framerate.toNat
  framelen := f.payload.length
  vwidth := if f.type.Sized then f.vwidth.toNat else 0
  vheight := if f.type.Sized then f.vheight.toNat else 0
  timestamp := if f.type.Sized then f.timestamp.toNat else 0

theorem headerField_shift {xs ys : List UInt8} {m : Nat} (hlen : xs.length = m) (pos len : Nat) :
    headerField (xs ++ ys) (m + pos) len = headerField ys pos len := by
  rw [headerField, ← hlen, List.drop_length_add_append]
  rfl

theorem headerField_encode {k n : Nat} (h : n < 256 ^ k) (ys : List UInt8) :
    headerField (LittleEndian.encode k n ++ ys) 0 k = n := by
  rw [headerField, List.drop_zero, List.take_left' (LittleEndian.length_encode k n),
    LittleEndian.decode_encode_of_lt h]

/-- The part of the header that every frame has. -/
def basicHeard (f : H264Frame) : List UInt8 :=
  startCode f.extended ++ (LittleEndian.encode 2 ptH264 ++ (LittleEndian.encode 2 f.type.code ++
    (LittleEndian.encode 2 f.gapms.toNat ++ (LittleEndian.encode 2 f.framerate.toNat ++
      LittleEndian.encode 4 f.payload.length))))

theorem data_eq (f : H264Frame) : f.data = f.basicHeard ++ (f.sizes ++ (f.payload ++ f.tail)) := by
  simp only [data, basicHeard, List.append_assoc]

theorem length_basicHeard (f : H264Frame) : f.basicHeard.length = 16 := by
  simp only [basicHeard, startCode, List.length_append, LittleEndian.length_encode,
    List.length_cons, List.length_nil]

theorem length_sizes (f : H264Frame) : f.sizes.length = if f.type.Sized then 16 else 0 := by
  unfold sizes
  split
  · simp only [List.length_append, LittleEndian.length_encode]
  · rfl

theorem readHeard_data (f : H264Frame) :
    readHeard f.data = { f.heard with vwidth := 0, vheight := 0, timestamp := 0 } := by
  have hlen := fun n => LittleEndian.length_encode 2 n
  have hcode : f.type.code < 256 ^ 2 := by cases f.type <;> decide
  have hpayload : f.payload.length < 256 ^ 4 := Nat.lt_trans f.lt (by decide)
  have hcodect : headerField f.data 4 2 = ptH264 :=
    (headerField_shift rfl 0 2).trans (headerField_encode (by decide) _)
  have hframet : headerField f.data 6 2 = f.type.code :=
    (headerField_shift rfl 2 2).trans <| (headerField_shift (hlen _) 0 2).trans <|
      headerField_encode hcode _
  have hgapms : headerField f.data 8 2 = f.gapms.toNat :=
    (headerField_shift rfl 4 2).trans <| (headerField_shift (hlen _) 2 2).trans <|
      (headerField_shift (hlen _) 0 2).trans <| headerField_encode f.gapms.toNat_lt _
  have hframerate : headerField f.data 10 2 = f.framerate.toNat :=
    (headerField_shift rfl 6 2).trans <| (headerField_shift (hlen _) 4 2).trans <|
      (headerField_shift (hlen _) 2 2).trans <| (headerField_shift (hlen _) 0 2).trans <|
        headerField_encode f.framerate.toNat_lt _
  have hframelen : headerField f.data 12 4 = f.payload.length :=
    (headerField_shift rfl 8 4).trans <| (headerField_shift (hlen _) 6 4).trans <|
      (headerField_shift (hlen _) 4 4).trans <| (headerField_shift (hlen _) 2 4).trans <|
        (headerField_shift (hlen _) 0 4).trans <| headerField_encode hpayload _
  rw [readHeard, hcodect, hframet, hgapms, hframerate, hframelen]
  rfl

theorem readSizes_data {f : H264Frame} (h : f.type.Sized) (heard : DataHeard) :
    readSizes heard f.data =
      { heard with
        vwidth := f.vwidth.toNat, vheight := f.vheight.toNat, timestamp := f.timestamp.toNat } := by
  have hdata : f.data = f.basicHeard ++ (LittleEndian.encode 4 f.vwidth.toNat ++
      (LittleEndian.encode 4 f.vheight.toNat ++ (LittleEndian.encode 8 f.timestamp.toNat ++
        (f.payload ++ f.tail)))) := by
    rw [data_eq, sizes, if_pos h, List.append_assoc, List.append_assoc]
  have hlen := fun n => LittleEndian.length_encode 4 n
  have hvwidth : headerField f.data 16 4 = f.vwidth.toNat := by
    rw [hdata]
    exact (headerField_shift f.length_basicHeard 0 4).trans <|
      headerField_encode f.vwidth.toNat_lt _
  have hvheight : headerField f.data 20 4 = f.vheight.toNat := by
    rw [hdata]
    exact (headerField_shift f.length_basicHeard 4 4).trans <|
      (headerField_shift (hlen _) 0 4).trans <| headerField_encode f.vheight.toNat_lt _
  have htimestamp : headerField f.data 24 8 = f.timestamp.toNat := by
    rw [hdata]
    exact (headerField_shift f.length_basicHeard 8 8).trans <|
      (headerField_shift (hlen _) 4 8).trans <| (headerField_shift (hlen _) 0 8).trans <|
        headerField_encode f.timestamp.toNat_lt _
  rw [readSizes, hvwidth, hvheight, htimestamp]

theorem length_data (f : H264Frame) :
    f.data.length = 16 + f.sizes.length + (f.payload ++ f.tail).length := by
  rw [data_eq, List.length_append, List.length_append, f.length_basicHeard, Nat.add_assoc]

/-- A frame with the extended start code is found as long as its length is an `int`. -/
theorem found_of_short {f : H264Frame} (h : f.extended = true)
    (hlen : f.payload.length + f.tail.length < 2 ^ 31 - 32) : f.Found := by
  apply found_of_extended h
  rw [length_data, length_sizes, List.length_append]
  split <;> omega

/-- What the code asks about a header of H.264. -/
theorem kind_iff {h : DataHeard} {t : H264Slice} (hcodect : h.codect = ptH264)
    (hframet : h.framet = t.code) :
    (h.SizedSet ↔ t = .sps) ∧ (h.KeySlice ↔ t = .iSlice) ∧
      (h.ParameterSet ↔ t = .sps ∨ t = .pps) := by
  unfold DataHeard.SizedSet DataHeard.KeySlice DataHeard.ParameterSet
  rw [hcodect, hframet]
  cases t <;> decide

theorem frameHeardLen_heard (f : H264Frame) :
    f.heard.frameHeardLen = if f.type.Sized then 32 else 16 := by
  obtain ⟨hset, hkey, -⟩ := kind_iff (h := f.heard) (t := f.type) rfl rfl
  have hsized : f.heard.SizedSet ∨ f.heard.KeySlice ↔ f.type.Sized := or_congr hset hkey
  unfold DataHeard.frameHeardLen
  split
  · rename_i h
    rw [if_pos (hsized.mp h)]
  · rename_i h
    rw [if_neg fun hs => h (hsized.mpr hs)]
    rfl

/-- A frame that is found is read as it is. -/
theorem praseFrameHeard_data {f : H264Frame} (h : f.Found) :
    praseFrameHeard f.data = some (.ok f.heard 0) := by
  have hfound : matchDataHeard f.data = 0 := h
  have hlen := f.length_data
  rw [f.length_sizes] at hlen
  have hread := f.readHeard_data
  obtain ⟨hset, hkey, -⟩ := kind_iff (h := readHeard f.data) (t := f.type)
    (by rw [hread]; rfl) (by rw [hread]; rfl)
  simp only [praseFrameHeard, hfound, ge_iff_le, Int.le_refl, if_true, Int.toNat_zero,
    List.drop_zero, hset, hkey]
  by_cases hsized : f.type.Sized
  · rw [if_pos hsized] at hlen
    have hfields : readSizes (readHeard f.data) f.data = f.heard := by
      rw [readSizes_data hsized, hread]
      simp only [heard, if_pos hsized]
    rw [if_neg (by omega), hfields]
    rcases hsized with hsps | hslice
    · rw [if_pos hsps, if_neg (by omega), if_neg (by omega)]
    · have hne : ¬ f.type = .sps := by
        rw [hslice]
        decide
      rw [if_neg hne, if_pos hslice, if_neg (by omega)]
  · have hfields : readHeard f.data = f.heard := by
      rw [hread]
      simp only [heard, if_neg hsized]
    have hsps : ¬ f.type = .sps := fun hsps => hsized (.inl hsps)
    have hslice : ¬ f.type = .iSlice := fun hslice => hsized (.inr hslice)
    rw [if_neg (by omega), if_neg hsps, if_neg hslice, hfields]
    rfl

/-- The frame behind the header is the payload. -/
theorem frameData_data (f : H264Frame) :
    JsonStream.frameData f.data f.heard 0 = some f.payload := by
  have hhead : (f.basicHeard ++ f.sizes).length = f.heard.frameHeardLen := by
    rw [List.length_append, f.length_basicHeard, f.length_sizes, f.frameHeardLen_heard]
    split <;> rfl
  have hdata : f.data = (f.basicHeard ++ f.sizes) ++ (f.payload ++ f.tail) := by
    rw [data_eq, List.append_assoc]
  have hframelen : f.heard.framelen = f.payload.length := rfl
  rw [JsonStream.frameData, Nat.zero_add, hframelen, hdata, List.drop_left' hhead,
    List.take_left' rfl, if_pos]
  rw [List.length_append, hhead, List.length_append]
  omega

end H264Frame

/-! ### What a call does with a frame -/

namespace JsonStream

variable {s : JsonStream} {f : H264Frame}

/-- What a call leaves of the buffer and the exit code, and the data that it hands on. -/
def effect (s : JsonStream) (f : H264Frame) (realloc : Bool) :
    Option (LineBuffer × Bool × Option (List UInt8)) :=
  match f.type with
  | .sps | .pps => (s.mFrame.writeBuf f.payload).map fun r => (r.1, s.exitCode, none)
  | .iSlice => (s.mFrame.finishFrame f.payload realloc).map fun r => (r.1, s.exitCode, some r.2)
  | .pSlice => some (s.mFrame, s.exitCode, some f.payload)

/-- The same of a result. -/
def seen (r : JsonStream × Option MediaOutput) : LineBuffer × Bool × Option (List UInt8) :=
  (r.1.mFrame, r.1.exitCode, r.2.map (·.data))

theorem onHeard_found (hfound : f.Found)
    (next : DataHeard → Nat → Option (JsonStream × Option MediaOutput)) :
    onHeard f.data s next = next f.heard 0 := by
  have hlen : AvFrame.toInt f.payload.length > 0 := by
    have hlt := f.lt
    have hpos := f.pos
    rw [AvFrame.toInt_eq_iff.mpr (by omega)]
    exact Int.natCast_pos.mpr hpos
  rw [onHeard, H264Frame.praseFrameHeard_data hfound]
  exact if_pos hlen

theorem measureRate_keeps {s' : JsonStream} {env : Surroundings}
    (h : s.measureRate env = some s') : s'.mFrame = s.mFrame ∧ s'.exitCode = s.exitCode := by
  unfold measureRate at h
  dsimp only at h
  split_ifs at h <;> cases h <;> exact ⟨rfl, rfl⟩

theorem map_collect (buf : List UInt8) :
    ((s.collect buf).map fun s => (s, (none : Option MediaOutput))).map seen =
      (s.mFrame.writeBuf buf).map fun r => (r.1, s.exitCode, none) := by
  rw [collect, Option.map_map, Option.map_map]
  rfl

theorem seen_onFrame (s : JsonStream) (env : Surroundings) (f : H264Frame) :
    (s.onFrame env f.data f.heard 0).map seen = s.effect f env.realloc := by
  obtain ⟨-, hkey, hset⟩ := H264Frame.kind_iff (h := f.heard) (t := f.type) rfl rfl
  have hcodect : f.heard.codect = ptH264 := rfl
  rw [onFrame, if_pos (.inl hcodect), f.frameData_data, Option.bind_some]
  simp only [hset, hkey]
  unfold effect
  cases f.type with
  | sps => exact map_collect f.payload
  | pps => exact map_collect f.payload
  | iSlice =>
      show Option.map seen (Option.map _ (LineBuffer.finishFrame s.mFrame _ _)) = _
      rw [Option.map_map]
      rfl
  | pSlice => rfl

theorem seen_onAvFrame (s : JsonStream) (env : Surroundings) (f : H264Frame) :
    (s.onAvFrame env f.data f.heard 0).map seen = s.effect f env.realloc := by
  obtain ⟨-, hkey, hset⟩ := H264Frame.kind_iff (h := f.heard) (t := f.type) rfl rfl
  have hcodect : f.heard.codect = ptH264 := rfl
  have hkept : ((s.countFrame env).settleRate f.heard).mFrame = s.mFrame ∧
      ((s.countFrame env).settleRate f.heard).exitCode = s.exitCode := by
    unfold settleRate
    split <;> exact ⟨rfl, rfl⟩
  rw [onAvFrame, if_pos (.inl hcodect), f.frameData_data, Option.bind_some]
  simp only [hset, hkey]
  unfold effect
  cases f.type with
  | sps => exact map_collect f.payload
  | pps => exact map_collect f.payload
  | iSlice =>
      show Option.map seen (Option.map _ (LineBuffer.finishFrame _ _ _)) = _
      rw [hkept.1, Option.map_map, ← hkept.2]
      rfl
  | pSlice =>
      show some (((s.countFrame env).settleRate f.heard).mFrame, _, some f.payload) = _
      rw [hkept.1, ← hkept.2]

end JsonStream

/-! ### Runs -/

/-- Which function a callback goes to. -/
inductive StreamSink where
  | media
  | avFrame
  deriving DecidableEq, Repr

/-- A callback of the device with one complete frame. -/
structure FrameCallback where
  sink : StreamSink
  frame : H264Frame
  env : Surroundings

/-- A stream, `none` after an undefined step, and the data that it handed on. The last
two are history: the parameter sets since the last key frame, and what should have
been handed on. -/
structure StreamRun where
  stream : Option JsonStream
  handed : List (List UInt8)
  pending : List UInt8
  expected : List (List UInt8)

namespace StreamRun

/-- A fresh stream, with whether its buffer could be allocated. -/
def start (malloc : Bool) : StreamRun where
  stream := some (.new malloc)
  handed := []
  pending := []
  expected := []

def call (js : JsonStream) (c : FrameCallback) : Option (JsonStream × Option MediaOutput) :=
  match c.sink with
  | .media => js.onVskJsonStream c.env c.frame.data
  | .avFrame => js.onVskJsonStreamToAvFrame c.env c.frame.data

/-- The history after a frame. -/
def expect (s : StreamRun) (f : H264Frame) : StreamRun :=
  match f.type with
  | .sps | .pps => { s with pending := s.pending ++ f.payload }
  | .iSlice => { s with pending := [], expected := s.expected ++ [s.pending ++ f.payload] }
  | .pSlice => { s with expected := s.expected ++ [f.payload] }

def callback (s : StreamRun) (c : FrameCallback) : StreamRun :=
  match s.stream.bind fun js => call js c with
  | some (js, out) =>
      { s.expect c.frame with stream := some js, handed := s.handed ++ (out.map (·.data)).toList }
  | none => { s.expect c.frame with stream := none }

def step : Lts.Step StreamRun FrameCallback := fun s c => some (s.callback c)

/-- The data of every frame were handed on as they should. -/
def Reassembled (s : StreamRun) : Prop := s.stream.isSome ∧ s.handed = s.expected

/-- The measurement of the frame rate does not divide by zero. -/
def RateKnown (js : JsonStream) (c : FrameCallback) : Prop :=
  c.sink = .media → (js.measureRate c.env).isSome

instance (js : JsonStream) (c : FrameCallback) : Decidable (RateKnown js c) :=
  inferInstanceAs (Decidable (_ → _))

/-- A parameter set does not take the write position beyond an `int`, and a key frame
fits behind all the parameter sets since the last one. -/
def RoomFor (js : JsonStream) (pending : List UInt8) (c : FrameCallback) : Prop :=
  match c.frame.type with
  | .sps | .pps => js.mFrame.pBuf.isSome → js.mFrame.wPos + c.frame.payload.length < 2 ^ 31
  | .iSlice => js.mFrame.Fits pending.length c.frame.payload.length c.env.realloc
  | .pSlice => True

/-- The frame is found and there is room for it. -/
def Acceptable (s : StreamRun) (c : FrameCallback) : Prop :=
  c.frame.Found ∧ ∀ js, s.stream = some js → RateKnown js c ∧ RoomFor js s.pending c

/-- The invariant of the runs in which every frame is acceptable. -/
structure Sound (s : StreamRun) (js : JsonStream) : Prop where
  stream : s.stream = some js
  exitCode : js.exitCode = false
  handed : s.handed = s.expected
  filled : js.mFrame.Filled s.pending

theorem sound_start (malloc : Bool) : (start malloc).Sound (.new malloc) where
  stream := rfl
  exitCode := rfl
  handed := rfl
  filled := LineBuffer.filled_new (by decide) (by decide) malloc

open JsonStream

variable {s s' : StreamRun} {js : JsonStream} {c : FrameCallback}

theorem seen_call (hexit : js.exitCode = false) (hfound : c.frame.Found) :
    (call js c).map seen = if RateKnown js c then js.effect c.frame c.env.realloc else none := by
  obtain ⟨sink, frame, env⟩ := c
  cases sink with
  | media =>
      simp only [call, onVskJsonStream, hexit, Bool.false_eq_true, if_false]
      cases hrate : js.measureRate env with
      | none =>
          have hunknown : ¬ RateKnown js ⟨.media, frame, env⟩ := by
            intro hknown
            have hsome := hknown rfl
            rw [hrate] at hsome
            cases hsome
          rw [if_neg hunknown]
          rfl
      | some js' =>
          have hknown : RateKnown js ⟨.media, frame, env⟩ := by
            intro _
            rw [hrate]
            rfl
          obtain ⟨hframe, hcode⟩ := measureRate_keeps hrate
          have heffect : js'.effect frame env.realloc = js.effect frame env.realloc := by
            rw [effect, hframe, hcode, effect]
          rw [Option.bind_some, onHeard_found hfound, seen_onFrame, heffect, if_pos hknown]
  | avFrame =>
      have hknown : RateKnown js ⟨.avFrame, frame, env⟩ := by
        intro hsink
        cases hsink
      simp only [call, onVskJsonStreamToAvFrame, hexit, Bool.false_eq_true, if_false]
      rw [onHeard_found hfound, seen_onAvFrame, if_pos hknown]

theorem callback_of_effect (hs : s.Sound js) (hfound : c.frame.Found) (hrate : RateKnown js c)
    {b : LineBuffer} {exit : Bool} {out : Option (List UInt8)}
    (heffect : js.effect c.frame c.env.realloc = some (b, exit, out)) :
    ∃ js', js'.mFrame = b ∧ js'.exitCode = exit ∧
      s.callback c =
        { s.expect c.frame with stream := some js', handed := s.handed ++ out.toList } := by
  have hseen := seen_call hs.exitCode hfound
  rw [if_pos hrate, heffect] at hseen
  obtain ⟨r, hcall, hr⟩ := Option.map_eq_some_iff.mp hseen
  cases hr
  refine ⟨r.1, rfl, rfl, ?_⟩
  rw [callback, hs.stream, Option.bind_some, hcall]

/-- A callback after which the stream is defined. -/
theorem effect_of_defined (hs : s.Sound js) (hfound : c.frame.Found)
    (hdefined : (s.callback c).stream.isSome) :
    RateKnown js c ∧ ∃ b exit out, js.effect c.frame c.env.realloc = some (b, exit, out) := by
  have hseen := seen_call hs.exitCode hfound
  rw [callback, hs.stream, Option.bind_some] at hdefined
  cases hcall : call js c with
  | none =>
      rw [hcall] at hdefined
      cases hdefined
  | some r =>
      rw [hcall] at hseen
      split at hseen
      · rename_i hrate
        exact ⟨hrate, _, _, _, hseen.symm⟩
      · cases hseen

/-- A parameter set for which there is an `int` is collected. -/
theorem Sound.collect (hs : s.Sound js) (hfound : c.frame.Found) (hrate : RateKnown js c)
    (hint : js.mFrame.pBuf.isSome → js.mFrame.wPos + c.frame.payload.length < 2 ^ 31)
    (heffect : js.effect c.frame c.env.realloc =
      (js.mFrame.writeBuf c.frame.payload).map fun r => (r.1, js.exitCode, none))
    (hexpect : s.expect c.frame = { s with pending := s.pending ++ c.frame.payload }) :
    ∃ js', (s.callback c).Sound js' := by
  obtain ⟨b, wrote, hwrite, hfilled⟩ := hs.filled.writeBuf c.frame.pos hint
  rw [hwrite] at heffect
  obtain ⟨js', rfl, hexit, hafter⟩ := callback_of_effect hs hfound hrate heffect
  rw [hafter, hexpect]
  refine ⟨js', ⟨rfl, hexit.trans hs.exitCode, ?_, hfilled⟩⟩
  show s.handed ++ [] = s.expected
  rw [List.append_nil, hs.handed]

/-- An acceptable frame is handed on as it should. -/
theorem Sound.callback (hs : s.Sound js) (hc : s.Acceptable c) :
    ∃ js', (s.callback c).Sound js' := by
  obtain ⟨hfound, hroom⟩ := hc
  obtain ⟨hrate, hroom⟩ := hroom js hs.stream
  unfold RoomFor at hroom
  cases htype : c.frame.type with
  | sps =>
      simp only [htype] at hroom
      exact hs.collect hfound hrate hroom (by simp only [effect, htype])
        (by simp only [expect, htype])
  | pps =>
      simp only [htype] at hroom
      exact hs.collect hfound hrate hroom (by simp only [effect, htype])
        (by simp only [expect, htype])
  | iSlice =>
      simp only [htype] at hroom
      obtain ⟨b, hfinish⟩ := hs.filled.finishFrame_of_fits c.frame.pos c.frame.lt hroom
      have hempty := hs.filled.finishFrame c.frame.pos c.frame.lt hfinish
      have heffect : js.effect c.frame c.env.realloc =
          some (b, js.exitCode, some (s.pending ++ c.frame.payload)) := by
        simp only [effect, htype, hfinish, Option.map_some]
      obtain ⟨js', rfl, hexit, hafter⟩ := callback_of_effect hs hfound hrate heffect
      rw [hafter]
      simp only [expect, htype]
      refine ⟨js', ⟨rfl, hexit.trans hs.exitCode, ?_, hempty⟩⟩
      show s.handed ++ [_] = s.expected ++ [_]
      rw [hs.handed]
  | pSlice =>
      have heffect : js.effect c.frame c.env.realloc =
          some (js.mFrame, js.exitCode, some c.frame.payload) := by
        simp only [effect, htype]
      obtain ⟨js', hframe, hexit, hafter⟩ := callback_of_effect hs hfound hrate heffect
      rw [hafter]
      simp only [expect, htype]
      refine ⟨js', ⟨rfl, hexit.trans hs.exitCode, ?_, ?_⟩⟩
      · show s.handed ++ [_] = s.expected ++ [_]
        rw [hs.handed]
      · rw [hframe]
        exact hs.filled

/-- A frame that was handed on as it should was acceptable. -/
theorem Sound.acceptable (hs : s.Sound js) (hfound : c.frame.Found)
    (h : (s.callback c).Reassembled) : s.Acceptable c := by
  obtain ⟨hdefined, hhanded⟩ := h
  obtain ⟨hrate, b, exit, out, heffect⟩ := effect_of_defined hs hfound hdefined
  obtain ⟨js', -, -, hafter⟩ := callback_of_effect hs hfound hrate heffect
  refine ⟨hfound, fun js'' hsome => ?_⟩
  rw [hs.stream] at hsome
  cases hsome
  refine ⟨hrate, ?_⟩
  unfold RoomFor
  cases htype : c.frame.type with
  | sps =>
      simp only [effect, htype] at heffect
      obtain ⟨r, hwrite, -⟩ := Option.map_eq_some_iff.mp heffect
      exact LineBuffer.int_of_writeBuf hwrite c.frame.pos
  | pps =>
      simp only [effect, htype] at heffect
      obtain ⟨r, hwrite, -⟩ := Option.map_eq_some_iff.mp heffect
      exact LineBuffer.int_of_writeBuf hwrite c.frame.pos
  | iSlice =>
      simp only [effect, htype] at heffect
      obtain ⟨⟨b', data⟩, hfinish, hpair⟩ := Option.map_eq_some_iff.mp heffect
      cases hpair
      rw [hafter] at hhanded
      simp only [expect, htype, hs.handed, Option.toList_some, List.append_cancel_left_eq,
        List.cons.injEq, and_true] at hhanded
      rw [hhanded] at hfinish
      exact hs.filled.fits_of_finishFrame c.frame.pos c.frame.lt hfinish
  | pSlice => trivial

/-- Runs in which every frame is acceptable. -/
theorem preserves_sound : Lts.Preserves step Acceptable fun s => ∃ js, s.Sound js := by
  rintro s c s' ⟨js, hs⟩ hc hstep
  cases hstep
  exact hs.callback hc

theorem Sound.reassembled (hs : s.Sound js) : s.Reassembled := ⟨by rw [hs.stream]; rfl, hs.handed⟩

/-- Key frames are reassembled in every state of a run whose frames are all acceptable,
and, where every frame is found, in no other run. -/
theorem reassembled_along (malloc : Bool) (callbacks : List FrameCallback) :
    (Lts.Guarded step Acceptable (start malloc) callbacks →
      Lts.Along step Reassembled (start malloc) callbacks) ∧
    ((∀ c ∈ callbacks, c.frame.Found) →
      Lts.Along step Reassembled (start malloc) callbacks →
        Lts.Guarded step Acceptable (start malloc) callbacks) := by
  constructor
  · intro hguarded
    exact (preserves_sound.along ⟨_, sound_start malloc⟩ hguarded).mono
      fun s ⟨js, hs⟩ => hs.reassembled
  · have hrun : ∀ s : StreamRun, (∃ js, s.Sound js) → (∀ c ∈ callbacks, c.frame.Found) →
        Lts.Along step Reassembled s callbacks → Lts.Guarded step Acceptable s callbacks := by
      induction callbacks with
      | nil => exact fun _ _ _ _ => trivial
      | cons c callbacks ih =>
          rintro s ⟨js, hs⟩ hfound ⟨-, hrest⟩ s' hstep
          have hc := hs.acceptable (hfound c List.mem_cons_self) ((hrest _ rfl).head)
          cases hstep
          exact ⟨hc, ih _ (hs.callback hc) (fun c' hc' => hfound c' (List.mem_cons_of_mem _ hc'))
            (hrest _ rfl)⟩
    exact hrun _ ⟨_, sound_start malloc⟩

/-- The first callback of a stream, with a key frame as long as its buffer. -/
def exactFit : FrameCallback where
  sink := .media
  frame :=
    { extended := true, type := .iSlice, gapms := 40, framerate := 25, vwidth := 1920
      vheight := 1080, timestamp := 1000, payload := List.replicate (512 * 1024) 0, tail := []
      pos := by rw [List.length_replicate]; decide
      lt := by rw [List.length_replicate]; decide }
  env :=
    { curTime := 1700000000, lastTime := 1700000000, firstTime := 0, latestTime := 0
      frameRate := 0, realloc := true }

theorem exactFit_not_handed : ¬ Lts.Along step Reassembled (start true) [exactFit] := by
  rintro ⟨-, hrest⟩
  have hfound : exactFit.frame.Found := by
    apply H264Frame.found_of_short rfl
    rw [show exactFit.frame.payload.length = 512 * 1024 from List.length_replicate]
    decide
  obtain ⟨-, hroom⟩ := (sound_start true).acceptable hfound (hrest _ rfl).head
  obtain ⟨-, hfits⟩ := hroom _ rfl
  -- The free size is the length of the frame, so that the buffer is not resized, and
  -- the frame would reach the last place.
  have hlen : exactFit.frame.payload.length = 512 * 1024 := List.length_replicate
  change (JsonStream.new true).mFrame.Fits 0 exactFit.frame.payload.length true at hfits
  rw [hlen] at hfits
  exact absurd hfits (by decide)

end StreamRun

end SignalingServer
