import Mathlib.Algebra.Group.Int.Defs
import Mathlib.Algebra.Group.Nat.Defs
import Mathlib.Data.List.Basic

/-!
The frame buffer of `tools/avFrame.h`: a block of memory with a length that says how much
of it is in use, and a header whose video and audio parts share their bytes.
-/

namespace SignalingServer

/-- `MEDIA_CODEC_TYPE`. -/
inductive MediaCodec
  | CODEC_UNKNOW
  | CODEC_H264
  | CODEC_H265
  | CODEC_G711A
  | CODEC_G711U
  | CODEC_PCMA
  | CODEC_PCMU
  | CODEC_AAC
deriving DecidableEq, Repr

/-- The test that the video setters and getters make. -/
def MediaCodec.isVideo (t : MediaCodec) : Bool := t == .CODEC_H264 || t == .CODEC_H265

/-- `MediaAvFrame`. The fields of `_videoInfo` are stored; those of `_audioInfo` lie over
the first eight bytes of them. -/
structure MediaAvFrame where
  codect : MediaCodec := .CODEC_UNKNOW
  frameRate : UInt16 := 0
  frameType : UInt16 := 0
  vwidth : UInt16 := 0
  vheight : UInt16 := 0
  timestamp : UInt64 := 0
deriving DecidableEq, Repr

namespace MediaAvFrame

/-- A number of 32 bits from its two halves, the lower one first. -/
def join (lo hi : UInt16) : UInt32 := UInt32.ofNat (lo.toNat + 2 ^ 16 * hi.toNat)

def low (v : UInt32) : UInt16 := UInt16.ofNat v.toNat

def high (v : UInt32) : UInt16 := UInt16.ofNat (v.toNat / 2 ^ 16)

@[simp] theorem join_low_high (v : UInt32) : join (low v) (high v) = v := by
  apply UInt32.toNat_inj.mp
  have hv := v.toNat_lt
  rw [join, low, high, UInt32.toNat_ofNat', UInt16.toNat_ofNat', UInt16.toNat_ofNat']
  omega

/-- `audio.chl`, as the bits of an `int`. -/
def chl (h : MediaAvFrame) : UInt32 := join h.frameRate h.frameType

/-- `audio.sampleRate`. -/
def sampleRate (h : MediaAvFrame) : UInt32 := join h.vwidth h.vheight

@[simp] def setCodecType (h : MediaAvFrame) (t : MediaCodec) : MediaAvFrame := { h with codect := t }

@[simp] def setIBPType (h : MediaAvFrame) (ibp : UInt16) : MediaAvFrame :=
  if h.codect.isVideo then { h with frameType := ibp } else h

@[simp] def setWidHeight (h : MediaAvFrame) (width height : UInt16) : MediaAvFrame :=
  if h.codect.isVideo then { h with vheight := height, vwidth := width } else h

@[simp] def setFrameRate (h : MediaAvFrame) (fr : UInt16) : MediaAvFrame :=
  if h.codect.isVideo then { h with frameRate := fr } else h

@[simp] def setPTS (h : MediaAvFrame) (pts : UInt64) : MediaAvFrame :=
  if h.codect.isVideo then { h with timestamp := pts } else h

@[simp] def setChls (h : MediaAvFrame) (chl : UInt32) : MediaAvFrame :=
  if h.codect == .CODEC_AAC then { h with frameRate := low chl, frameType := high chl } else h

@[simp] def setSampleRate (h : MediaAvFrame) (sampleRate : UInt32) : MediaAvFrame :=
  if h.codect == .CODEC_AAC then
    { h with vwidth := low sampleRate, vheight := high sampleRate }
  else h

end MediaAvFrame

/-- The members of `av_Frame`. `mData` is `none` for a null pointer, and otherwise the part
of the memory that has been written. -/
structure AvFrame where
  mData : Option (List UInt8) := none
  mDataSize : Int := 0
  mBufSize : Int := 0
  mFrame : MediaAvFrame := {}
deriving DecidableEq, Repr

instance : Inhabited AvFrame := ⟨{}⟩

namespace AvFrame

/-- The conversion of a `size_t` to an `int`. -/
def toInt (size : Nat) : Int :=
  if size % 2 ^ 32 < 2 ^ 31 then (size % 2 ^ 32 : Nat) else (size % 2 ^ 32 : Nat) - 2 ^ 32

/-- `writeData`: `none` where `memcpy` gets a negative length. -/
def writeData (f : AvFrame) (data : List UInt8) (size : Int) : Option (Int × AvFrame) :=
  match f.mData with
  | some old =>
      if size ≤ f.mBufSize then
        if size < 0 then none
        else
          some (0,
            { f with
              mData := some (data.take size.toNat ++ old.drop size.toNat)
              mDataSize := size })
      else some (1, f)
  | none => some (1, f)

/-- `IsIde`. -/
def isIde (f : AvFrame) : Bool := !(0 < f.mDataSize : Bool)

/-- `ClearData`. -/
def clearData (f : AvFrame) : AvFrame := { f with mDataSize := 0 }

/-- `reSizeBuf`: `none` where `new` gets a negative length and throws. -/
def reSizeBuf (f : AvFrame) (size : Int) : Option (Bool × AvFrame) :=
  if f.isIde then
    if size < 0 then none else some (true, { f with mData := some [], mBufSize := size })
  else some (false, f)

def getCodecType (f : AvFrame) : MediaCodec := f.mFrame.codect

/-- `GetIBPType`, which is -1 where the frame is no video frame. -/
def getIBPType (f : AvFrame) : Int :=
  if f.mFrame.codect.isVideo then f.mFrame.frameType.toNat else -1

def getFramRate (f : AvFrame) : Nat :=
  if f.mFrame.codect.isVideo then f.mFrame.frameRate.toNat else 0

/-- `GetChls`. -/
def getChls (f : AvFrame) : Int :=
  if f.mFrame.codect = .CODEC_AAC then toInt f.mFrame.chl.toNat else 0

def getSampleRate (f : AvFrame) : Int :=
  if f.mFrame.codect = .CODEC_AAC then toInt f.mFrame.sampleRate.toNat else 0

/-- `PTS`. -/
def getPTS (f : AvFrame) : UInt64 := if f.mFrame.codect.isVideo then f.mFrame.timestamp else 0

def isKeyFram (f : AvFrame) : Bool :=
  f.mFrame.codect.isVideo && (f.mFrame.frameType == 0 || f.mFrame.frameType == 1)

def isIDRFram (f : AvFrame) : Bool := f.mFrame.codect.isVideo && f.mFrame.frameType == 0

/-- The bytes from `Data()` on, as many as `DataLen()` says. -/
def content (f : AvFrame) : List UInt8 :=
  match f.mData with
  | some data => data.take f.mDataSize.toNat
  | none => []

@[simp] theorem isIde_iff (f : AvFrame) : f.isIde = true ↔ f.mDataSize ≤ 0 := by
  simp [isIde]

theorem toInt_le (size : Nat) : toInt size ≤ size := by
  rw [toInt]
  split <;> omega

/-- The length survives the conversion just when it is below `2 ^ 31`. -/
theorem toInt_eq_iff {size : Nat} : toInt size = size ↔ size < 2 ^ 31 := by
  rw [toInt]
  split <;> omega

end AvFrame

end SignalingServer
