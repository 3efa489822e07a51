import SignalingServer.Lib.BigEndian
import SignalingServer.Media.FrameRates
import SignalingServer.Media.PlaybackFrames

/-!
The binary messages of the web socket (`ws/ws.cpp`). For every frame that the ring of its stream
delivers, the thread of a preview or of a playback puts a header of sixteen bytes and the data
of the frame into a buffer of a fixed size, and sends what is in it. The numbers of the header
are in network byte order.
-/

namespace SignalingServer

def htonl (n : UInt32) : UInt32 := UInt32.ofNat (BigEndian.swap 4 n.toNat)

def htons (n : UInt16) : UInt16 := UInt16.ofNat (BigEndian.swap 2 n.toNat)

/-- What the threads do with `pts`, whose two halves they swap one by one. -/
def swapPts (pts : UInt64) : UInt64 :=
  ((htonl pts.toUInt32).toUInt64 <<< 32) + (htonl (pts >>> 32).toUInt32).toUInt64

/-- `nfps`, or `auChl` and `auRate`. -/
inductive HeaderRate
  | video (nfps : UInt32)
  | audio (auChl auRate : UInt16)
deriving DecidableEq, Repr

/-- The local variables that go into the header of a message, before they are swapped. -/
structure WsHeader where
  type : UInt32
  pts : UInt64
  rate : HeaderRate
deriving DecidableEq, Repr

/-- A `memcpy` to `pBuffer + offset`, where the first `offset` bytes of the buffer are given:
`none` where it writes behind the end of the buffer. -/
def copyIn (capacity : Nat) (data pBuffer : List UInt8) : Option (List UInt8) :=
  if pBuffer.length + data.length ≤ capacity then some (pBuffer ++ data) else none

/-- The message that the threads assemble. -/
def WsHeader.assemble (h : WsHeader) (capacity : Nat) (data : List UInt8) :
    Option (List UInt8) :=
  (copyIn capacity (LittleEndian.encode 4 (htonl h.type).toNat) []).bind fun pBuffer =>
    (copyIn capacity (LittleEndian.encode 8 (swapPts h.pts).toNat) pBuffer).bind fun pBuffer =>
      (match h.rate with
        | .video nfps => copyIn capacity (LittleEndian.encode 4 (htonl nfps).toNat) pBuffer
        | .audio auChl auRate =>
            (copyIn capacity (LittleEndian.encode 2 (htons auChl).toNat) pBuffer).bind
              (copyIn capacity (LittleEndian.encode 2 (htons auRate).toNat))).bind
        (copyIn capacity data)

/-! ### The two threads -/

/-- The header of `RtPreviewThread`. -/
def VFrame.header (frame : VFrame) (mGap : Int) (clock : UInt64) : WsHeader where
  type := if frame.frameType = 0 then 0 else if frame.frameType = 1 then 1 else 0
  pts := clock
  rate :=
    if frame.frameType = 0 ∨ frame.frameType = 1 then .video (UInt32.ofInt ((1000 : Int).tdiv mGap))
    else .audio 1 8000

/-- `mGap` behind a frame, of which `RtPreviewThread` takes that of a key frame. -/
def VFrame.gapAfter (frame : VFrame) (mGap : Int) : Int := if frame.idr then frame.gap else mGap

/-- What a round of `RtPreviewThread` does with the frame that `GetNextFrame` gave it: `none`
where it divides by zero or writes behind its buffer, and otherwise the message that it sends,
if it sends one. -/
def LiveFrames.previewMessage (s : LiveFrames) (frame : VFrame) (mGap : Int) (clock : UInt64) :
    Option (Option (List UInt8)) :=
  match frame.nalu with
  | none => some none
  | some nalu =>
      if s.framePool.mem.bytes nalu.half nalu.pos ≠ 0 then some none
      else if frame.gapAfter mGap = 0 then none
      else
        ((frame.header (frame.gapAfter mGap) clock).assemble (1024 * 1024)
          (s.framePool.mem.read nalu frame.bytes)).map some

namespace AvFrame

/-- The `type` of a message of `PlayBackThread`; a codec that it has no number for keeps its own. -/
def messageType (f : AvFrame) : UInt32 :=
  match f.getCodecType with
  | .CODEC_H264 => 0
  | .CODEC_H265 => 1
  | .CODEC_AAC => 37
  | .CODEC_PCMA => 19
  | .CODEC_PCMU => 20
  | .CODEC_UNKNOW => 0
  | .CODEC_G711A => 3
  | .CODEC_G711U => 4

/-- The header of `PlayBackThread`. -/
def header (f : AvFrame) : WsHeader where
  type := f.messageType
  pts := if f.getCodecType.isVideo then f.getPTS else 0
  rate :=
    if f.getCodecType.isVideo then .video (UInt32.ofNat f.getFramRate)
    else
      .audio (UInt16.ofInt (if f.getChls > 0 then f.getChls else 1))
        (UInt16.ofInt (if f.getSampleRate = 0 then 8000 else f.getSampleRate))

/-- What a round of `PlayBackThread` does with the frame that `GetNextFrameEx` gave it, as
`previewMessage` says it for a preview. After a jump it leaves out the frames before its goal. -/
def playBackMessage (f : AvFrame) (ctrlType : Int) (nFrameTime : UInt64) :
    Option (Option (List UInt8)) :=
  if ctrlType = 3 ∧ f.getPTS < nFrameTime then some none
  else (f.header.assemble (1024 * 1024 * 2) f.content).map some

end AvFrame

/-! ### What a receiver reads -/

/-- The frame rate of a video frame, or the channels and the sample rate of an audio frame. -/
inductive MessageRate
  | video (fps : Int)
  | audio (chl sampleRate : Int)
deriving DecidableEq, Repr

structure WsMessage where
  type : Nat
  pts : Nat
  rate : MessageRate
  payload : List UInt8
deriving DecidableEq, Repr

namespace WsMessage

/-- The number in `len` bytes from `pos` on. -/
def field (bytes : List UInt8) (pos len : Nat) : Nat := BigEndian.decode ((bytes.drop pos).take len)

/-- The types 0 and 1 are those of video. -/
def decode (bytes : List UInt8) : Option WsMessage :=
  if bytes.length < 16 then none
  else
    some
      { type := field bytes 0 4
        pts := field bytes 4 8
        rate :=
          if field bytes 0 4 = 0 ∨ field bytes 0 4 = 1 then
            .video (AvFrame.toInt (field bytes 12 4))
          else .audio (field bytes 12 2) (field bytes 14 2)
        payload := bytes.drop 16 }

end WsMessage

/-! ### The bytes of a header -/

theorem encode_htonl (n : UInt32) :
    LittleEndian.encode 4 (htonl n).toNat = BigEndian.encode 4 n.toNat := by
  rw [htonl, UInt32.toNat_ofNat_of_lt' (BigEndian.swap_lt 4 n.toNat), BigEndian.encode_swap]

theorem encode_htons (n : UInt16) :
    LittleEndian.encode 2 (htons n).toNat = BigEndian.encode 2 n.toNat := by
  rw [htons, UInt16.toNat_ofNat_of_lt' (BigEndian.swap_lt 2 n.toNat), BigEndian.encode_swap]

/-- The two swapped halves are the eight bytes of `pts` in network byte order. -/
theorem encode_swapPts (pts : UInt64) :
    LittleEndian.encode 8 (swapPts pts).toNat = BigEndian.encode 8 pts.toNat := by
  have hhigh := (htonl (pts >>> 32).toUInt32).toNat_lt
  have hlow := (htonl pts.toUInt32).toNat_lt
  have hjoin : (swapPts pts).toNat =
      (htonl (pts >>> 32).toUInt32).toNat + 256 ^ 4 * (htonl pts.toUInt32).toNat := by
    rw [swapPts, UInt64.toNat_add, UInt64.toNat_shiftLeft, UInt32.toNat_toUInt64,
      UInt32.toNat_toUInt64, Nat.shiftLeft_eq, show (UInt64.toNat 32 % 64) = 32 by rfl]
    omega
  rw [hjoin, LittleEndian.encode_join (j := 4) (k := 4) hhigh, encode_htonl, encode_htonl,
    UInt64.toNat_toUInt32, UInt64.toNat_toUInt32, UInt64.toNat_shiftRight,
    Nat.shiftRight_eq_div_pow, BigEndian.encode_add 4 4]
  congr 1
  · exact BigEndian.encode_mod 4 _
  · exact BigEndian.encode_mod 4 _

def HeaderRate.bytes : HeaderRate → List UInt8
  | .video nfps => BigEndian.encode 4 nfps.toNat
  | .audio auChl auRate => BigEndian.encode 2 auChl.toNat ++ BigEndian.encode 2 auRate.toNat

@[simp] theorem HeaderRate.length_bytes (rate : HeaderRate) : rate.bytes.length = 4 := by
  cases rate with
  | video nfps => exact BigEndian.length_encode 4 _
  | audio auChl auRate => simp [bytes]

theorem copyIn_of_le {capacity : Nat} {data pBuffer : List UInt8}
    (h : pBuffer.length + data.length ≤ capacity) :
    copyIn capacity data pBuffer = some (pBuffer ++ data) := if_pos h

namespace WsHeader

/-- The sixteen bytes before the data of a frame. -/
def bytes (h : WsHeader) : List UInt8 :=
  BigEndian.encode 4 h.type.toNat ++ (BigEndian.encode 8 h.pts.toNat ++ h.rate.bytes)

@[simp] theorem length_bytes (h : WsHeader) : h.bytes.length = 16 := by simp [bytes]

/-- Only the data of the frame can be too long for the buffer. -/
theorem assemble_eq (h : WsHeader) {capacity : Nat} (hcapacity : 16 ≤ capacity)
    (data : List UInt8) :
    h.assemble capacity data =
      if 16 + data.length ≤ capacity then some (h.bytes ++ data) else none := by
  have htype : copyIn capacity (BigEndian.encode 4 h.type.toNat) [] =
      some (BigEndian.encode 4 h.type.toNat) := copyIn_of_le (by simp; omega)
  have hpts : copyIn capacity (BigEndian.encode 8 h.pts.toNat) (BigEndian.encode 4 h.type.toNat) =
      some (BigEndian.encode 4 h.type.toNat ++ BigEndian.encode 8 h.pts.toNat) :=
    copyIn_of_le (by simp; omega)
  have hdata : copyIn capacity data h.bytes =
      if 16 + data.length ≤ capacity then some (h.bytes ++ data) else none := by
    rw [copyIn, length_bytes]
  rw [assemble, encode_htonl, encode_swapPts, htype, Option.bind_some, hpts, Option.bind_some,
    ← hdata, bytes, ← List.append_assoc]
  cases h.rate with
  | video nfps =>
      dsimp only
      rw [encode_htonl, copyIn_of_le (by simp; omega)]
      rfl
  | audio auChl auRate =>
      dsimp only
      rw [encode_htons, encode_htons, copyIn_of_le (by simp; omega), Option.bind_some,
        copyIn_of_le (by simp; omega), List.append_assoc]
      rfl

end WsHeader

/-! ### Reading a message -/

namespace WsMessage

theorem field_encode {k n : Nat} (hn : n < 256 ^ k) (rest : List UInt8) :
    field (BigEndian.encode k n ++ rest) 0 k = n := by
  rw [field, List.drop_zero, List.take_left' (BigEndian.length_encode k n), BigEndian.decode_encode,
    Nat.mod_eq_of_lt hn]

/-- A field lies where it does behind the bytes before it. -/
theorem field_append {front : List UInt8} {k : Nat} (hfront : front.length = k)
    (rest : List UInt8) (pos len : Nat) :
    field (front ++ rest) (k + pos) len = field rest pos len := by
  rw [field, field, ← List.drop_drop, List.drop_left' hfront]

end WsMessage

namespace WsHeader

/-- The rate as it is read behind a type. -/
def readRate (h : WsHeader) : MessageRate :=
  if h.type.toNat = 0 ∨ h.type.toNat = 1 then
    .video (AvFrame.toInt (WsMessage.field h.rate.bytes 0 4))
  else .audio (WsMessage.field h.rate.bytes 0 2) (WsMessage.field h.rate.bytes 2 2)

/-- The type, the time and the data of a message are read back as they were written. -/
theorem decode_bytes (h : WsHeader) (data : List UInt8) :
    WsMessage.decode (h.bytes ++ data) =
      some
        { type := h.type.toNat
          pts := h.pts.toNat
          rate := h.readRate
          payload := data } := by
  have hlength : ¬ (h.bytes ++ data).length < 16 := by simp
  have htype : WsMessage.field (h.bytes ++ data) 0 4 = h.type.toNat := by
    rw [bytes, List.append_assoc]
    exact WsMessage.field_encode h.type.toNat_lt _
  have hpts : WsMessage.field (h.bytes ++ data) 4 8 = h.pts.toNat := by
    rw [bytes, List.append_assoc, List.append_assoc]
    exact (WsMessage.field_append (BigEndian.length_encode 4 _) _ 0 8).trans
      (WsMessage.field_encode h.pts.toNat_lt _)
  -- what is behind the eight bytes of `pts`
  have hrate : ∀ pos len, pos + len ≤ 4 →
      WsMessage.field (h.bytes ++ data) (12 + pos) len =
        WsMessage.field h.rate.bytes pos len := by
    intro pos len hlen
    have hfront :
        (BigEndian.encode 4 h.type.toNat ++ BigEndian.encode 8 h.pts.toNat).length = 12 := by
      simp
    rw [bytes, ← List.append_assoc, List.append_assoc, WsMessage.field_append hfront,
      WsMessage.field, WsMessage.field, List.drop_append_of_le_length (by simp; omega),
      List.take_append_of_le_length (by simp; omega)]
  rw [WsMessage.decode, if_neg hlength, htype, hpts, hrate 0 4 (by omega), hrate 0 2 (by omega),
    hrate 2 2 (by omega), List.drop_left' h.length_bytes, readRate]

end WsHeader

/-! ### Messages that are read as they should -/

/-- A round comes to its end, and a message that it sends fits into the buffer and is read as
`m`. -/
def Decodable (capacity : Nat) (round : Option (Option (List UInt8))) (m : WsMessage) : Prop :=
  ∃ message, round = some message ∧
    ∀ bytes ∈ message, bytes.length ≤ capacity ∧ WsMessage.decode bytes = some m

theorem decodable_skip (capacity : Nat) (m : WsMessage) : Decodable capacity (some none) m :=
  ⟨none, rfl, by rintro bytes ⟨⟩⟩

theorem not_decodable_none {capacity : Nat} {m : WsMessage} : ¬ Decodable capacity none m := by
  rintro ⟨message, hround, -⟩
  cases hround

theorem WsHeader.decodable_iff (h : WsHeader) {capacity : Nat} (hcapacity : 16 ≤ capacity)
    (data : List UInt8) (m : WsMessage) :
    Decodable capacity ((h.assemble capacity data).map some) m ↔
      16 + data.length ≤ capacity ∧
        { type := h.type.toNat, pts := h.pts.toNat, rate := h.readRate, payload := data } = m := by
  rw [h.assemble_eq hcapacity]
  by_cases hfits : 16 + data.length ≤ capacity
  · rw [if_pos hfits, Option.map_some]
    constructor
    · rintro ⟨message, hround, hread⟩
      cases hround
      obtain ⟨-, hdecode⟩ := hread _ rfl
      rw [h.decode_bytes] at hdecode
      exact ⟨hfits, Option.some.inj hdecode⟩
    · rintro ⟨-, hm⟩
      refine ⟨_, rfl, fun bytes hbytes => ?_⟩
      cases hbytes
      refine ⟨by simpa using hfits, ?_⟩
      rw [h.decode_bytes, hm]
  · rw [if_neg hfits]
    exact ⟨fun hround => absurd hround not_decodable_none, fun hboth => absurd hboth.1 hfits⟩

/-- The bits of a number that an `int` can hold are read as that number. -/
theorem toInt_ofInt {n : Int} (hlow : -2 ^ 31 ≤ n) (hhigh : n < 2 ^ 31) :
    AvFrame.toInt (UInt32.ofInt n).toNat = n := by
  have hbits : (UInt32.ofInt n).toNat = (n % 2 ^ 32).toNat := by
    rw [UInt32.ofInt, UInt32.toNat_ofNat_of_lt' (by show (n % 2 ^ 32).toNat < 2 ^ 32; omega)]
  rw [hbits, AvFrame.toInt]
  split <;> omega

theorem tdiv_bounds (k : Nat) (n : Int) : -(k : Int) ≤ (k : Int).tdiv n ∧ (k : Int).tdiv n ≤ k := by
  have hle : ((k : Int).tdiv n).natAbs ≤ k := by
    rw [Int.natAbs_tdiv, Int.natAbs_natCast]
    exact Nat.div_le_self k n.natAbs
  omega

theorem toNat_ofInt16 (n : Int) : ((UInt16.ofInt n).toNat : Int) = n % 2 ^ 16 := by
  rw [UInt16.ofInt, UInt16.toNat_ofNat_of_lt' (by show (n % 2 ^ 16).toNat < 2 ^ 16; omega)]
  omega

/-- A header of audio is read as audio, with what 16 bits hold of the two numbers, unless its
type is one of video. -/
theorem WsHeader.readRate_audio {h : WsHeader} {n m : Int}
    (hrate : h.rate = .audio (UInt16.ofInt n) (UInt16.ofInt m)) (htype : 1 < h.type.toNat) :
    h.readRate = .audio (n % 2 ^ 16) (m % 2 ^ 16) := by
  have hchl : WsMessage.field h.rate.bytes 0 2 = (UInt16.ofInt n).toNat := by
    rw [hrate]
    exact WsMessage.field_encode (UInt16.toNat_lt _) _
  have hsample : WsMessage.field h.rate.bytes 2 2 = (UInt16.ofInt m).toNat := by
    rw [hrate, HeaderRate.bytes, ← List.append_nil (BigEndian.encode 2 (UInt16.ofInt m).toNat)]
    exact (WsMessage.field_append (BigEndian.length_encode 2 _) _ 0 2).trans
      (WsMessage.field_encode (UInt16.toNat_lt _) [])
  rw [readRate, if_neg (by omega), hchl, hsample, toNat_ofInt16, toNat_ofInt16]

theorem WsHeader.readRate_video {h : WsHeader} {nfps : UInt32} (hrate : h.rate = .video nfps)
    (htype : h.type.toNat = 0 ∨ h.type.toNat = 1) :
    h.readRate = .video (AvFrame.toInt nfps.toNat) := by
  have hread : WsMessage.field h.rate.bytes 0 4 = nfps.toNat := by
    rw [hrate, HeaderRate.bytes, ← List.append_nil (BigEndian.encode 4 _)]
    exact WsMessage.field_encode (UInt32.toNat_lt _) []
  rw [readRate, if_pos htype, hread]

/-! ### The frames of a preview -/

namespace LiveFrames

/-- What a receiver should read of a frame of H.264 or H.265. -/
def described (s : LiveFrames) (frame : VFrame) (mGap : Int) (clock : UInt64) : WsMessage where
  type := frame.frameType.toNat
  pts := clock.toNat
  rate := .video ((1000 : Int).tdiv (frame.gapAfter mGap))
  payload :=
    match frame.nalu with
    | some nalu => s.framePool.mem.read nalu frame.bytes
    | none => []

/-- A frame that is not left out has a gap, and the buffer has room for it. -/
def Sendable (s : LiveFrames) (frame : VFrame) (mGap : Int) : Prop :=
  ∀ nalu ∈ frame.nalu, s.framePool.mem.bytes nalu.half nalu.pos = 0 →
    frame.gapAfter mGap ≠ 0 ∧ 16 + frame.bytes ≤ 1024 * 1024

instance (s : LiveFrames) (frame : VFrame) (mGap : Int) : Decidable (s.Sendable frame mGap) :=
  inferInstanceAs (Decidable (∀ nalu ∈ frame.nalu, _ → _))

theorem previewMessage_iff (s : LiveFrames) {frame : VFrame} {nalu : PoolPtr}
    (hnalu : frame.nalu = some nalu) (htype : frame.frameType = 0 ∨ frame.frameType = 1)
    (mGap : Int) (clock : UInt64) :
    Decodable (1024 * 1024) (s.previewMessage frame mGap clock) (s.described frame mGap clock) ↔
      s.Sendable frame mGap := by
  have hheader : (frame.header (frame.gapAfter mGap) clock).type.toNat = frame.frameType.toNat := by
    rcases htype with htype | htype
    · simp [VFrame.header, htype]
    · simp [VFrame.header, htype]
  have hrate : (frame.header (frame.gapAfter mGap) clock).readRate =
      .video ((1000 : Int).tdiv (frame.gapAfter mGap)) := by
    have hbounds : -1000 ≤ (1000 : Int).tdiv (frame.gapAfter mGap) ∧
        (1000 : Int).tdiv (frame.gapAfter mGap) ≤ 1000 := tdiv_bounds 1000 _
    rw [WsHeader.readRate_video (if_pos htype) (by omega), toInt_ofInt (by omega) (by omega)]
  have hsendable : s.Sendable frame mGap ↔ (s.framePool.mem.bytes nalu.half nalu.pos = 0 →
      frame.gapAfter mGap ≠ 0 ∧ 16 + frame.bytes ≤ 1024 * 1024) := by
    rw [Sendable, hnalu]
    exact ⟨fun h => h nalu rfl, fun h nalu' hnalu' => by cases hnalu'; exact h⟩
  rw [hsendable, previewMessage, hnalu]
  dsimp only
  split
  · rename_i hskip
    exact ⟨fun _ hzero => absurd hzero hskip, fun _ => decodable_skip _ _⟩
  · rename_i hzero
    have hzero' := not_not.mp hzero
    split
    · rename_i hgap
      exact ⟨fun hround => absurd hround not_decodable_none, fun h => absurd hgap (h hzero').1⟩
    · rename_i hgap
      rw [WsHeader.decodable_iff _ (by decide), AvMemPool.length_read, hheader, hrate, described,
        hnalu]
      exact ⟨fun h _ => ⟨hgap, h.1⟩, fun h => ⟨(h hzero').2, rfl⟩⟩

/-- A call on a live stream: its device sets the frame rate or hands data on, or a viewer comes,
reads or leaves. -/
inductive StreamCall
  | setFrameRate (fps : Int)
  | onMediaStream (code : StreamCodec) (data : Option (List UInt8)) (gap : Nat)
  | createReader
  | removeReader (handle : UInt32)
  | getNextFrame (handle : UInt32)

def call : Lts.Step LiveFrames StreamCall
  | s, .setFrameRate fps => some (s.setFrameRate fps)
  | s, .onMediaStream code data gap => some (s.onMediaStream code data gap)
  | s, .createReader => some s.createReader.2
  | s, .removeReader handle => some (s.removeReader handle)
  | s, .getNextFrame handle => some (s.getNextFrame handle).2.2

/-- `mHandler` is not initialised by the source: `handler` is what it starts with. -/
def new (length : Nat) (allocated : Bool) (garbage : PoolGarbage) (handler : UInt32) :
    LiveFrames where
  framePool := .new length allocated garbage
  mHandler := handler
  mReaderMap := ∅

/-- Every stored frame is one of H.264 or H.265. -/
def Typed (s : LiveFrames) : Prop :=
  s.framePool.queue.All fun frame => frame.frameType = 0 ∨ frame.frameType = 1

theorem typed_new (length : Nat) (allocated : Bool) (garbage : PoolGarbage)
    (handler : UInt32) : (new length allocated garbage handler).Typed := by
  show (UnLockQueue.new 128 : UnLockQueue VFrame).All _
  exact UnLockQueue.all_new (.inl rfl) 128

theorem typed_call ⦃s : LiveFrames⦄ ⦃c : StreamCall⦄ ⦃s' : LiveFrames⦄ (hs : s.Typed)
    (hcall : call s c = some s') : s'.Typed := by
  cases c with
  | setFrameRate fps =>
      cases hcall
      rw [setFrameRate]
      split
      · exact hs
      · exact hs
  | onMediaStream code data gap =>
      cases hcall
      have hstores : (s.framePool.setCodec code gap).Stores fun frame =>
          frame.frameType = 0 ∨ frame.frameType = 1 := ⟨hs, fun _ _ htype => htype⟩
      exact (hstores.inputFrame data).frames
  | createReader =>
      cases hcall
      exact hs
  | removeReader handle =>
      cases hcall
      exact hs
  | getNextFrame handle =>
      cases hcall
      rw [Typed, getNextFrame_framePool]
      exact hs

/-- What is delivered has its data and is of H.264 or H.265. -/
theorem Typed.delivered {s : LiveFrames} (hs : s.Typed) {handle : UInt32} {frame : VFrame}
    (h : s.delivered handle = some frame) :
    (∃ nalu, frame.nalu = some nalu) ∧ (frame.frameType = 0 ∨ frame.frameType = 1) := by
  obtain ⟨⟨pos, hnext⟩, hnalu⟩ := getNextByHanlde_of_delivered h
  exact ⟨hnalu, hs.getNextByHanlde hnext⟩

end LiveFrames

/-! ### The frames of a playback -/

namespace AvFrame

/-- What a receiver should read of a frame of a playback. A frame of audio without channels has
one, and a sample rate that is not given is 8000. -/
def described (f : AvFrame) : WsMessage where
  type := f.messageType.toNat
  pts := f.getPTS.toNat
  rate :=
    if f.getCodecType.isVideo then .video f.getFramRate
    else
      .audio (if f.getChls > 0 then f.getChls else 1)
        (if f.getSampleRate = 0 then 8000 else f.getSampleRate)
  payload := f.content

/-- The type of a message tells the codec, and its 16 bits hold the channels and the sample
rate. -/
structure HeaderFits (f : AvFrame) : Prop where
  codec : f.getCodecType ≠ .CODEC_UNKNOW
  chls : f.getChls < 2 ^ 16
  sampleRate : 0 ≤ f.getSampleRate ∧ f.getSampleRate < 2 ^ 16

/-- A frame that is not left out fits into the header and into the buffer. -/
def Sendable (f : AvFrame) (ctrlType : Int) (nFrameTime : UInt64) : Prop :=
  ¬ (ctrlType = 3 ∧ f.getPTS < nFrameTime) → f.HeaderFits ∧ 16 + f.mDataSize ≤ 1024 * 1024 * 2

theorem getChls_of_ne {f : AvFrame} (hcodec : f.getCodecType ≠ .CODEC_AAC) : f.getChls = 0 :=
  if_neg hcodec

theorem getSampleRate_of_ne {f : AvFrame} (hcodec : f.getCodecType ≠ .CODEC_AAC) :
    f.getSampleRate = 0 :=
  if_neg hcodec

theorem header_of_video {f : AvFrame} (hcodec : f.getCodecType.isVideo = true) :
    f.header.readRate = .video f.getFramRate := by
  have hvideo : f.header.rate = .video (UInt32.ofNat f.getFramRate) := if_pos hcodec
  have htype : f.header.type.toNat = 0 ∨ f.header.type.toNat = 1 := by
    show f.messageType.toNat = 0 ∨ f.messageType.toNat = 1
    rw [messageType]
    cases hcode : f.getCodecType with
    | CODEC_H264 => exact .inl rfl
    | CODEC_H265 => exact .inr rfl
    | _ =>
        rw [hcode] at hcodec
        cases hcodec
  have hrate : f.getFramRate < 2 ^ 16 := by
    rw [getFramRate]
    split
    · exact UInt16.toNat_lt _
    · decide
  rw [WsHeader.readRate_video hvideo htype,
    UInt32.toNat_ofNat_of_lt' (Nat.lt_trans hrate (by decide)), toInt, if_pos (by omega),
    Nat.mod_eq_of_lt (by omega)]

theorem header_of_audio {f : AvFrame} (hcodec : f.getCodecType.isVideo = false)
    (hknown : f.getCodecType ≠ .CODEC_UNKNOW) :
    f.header.readRate =
      .audio ((if f.getChls > 0 then f.getChls else 1) % 2 ^ 16)
        ((if f.getSampleRate = 0 then 8000 else f.getSampleRate) % 2 ^ 16) := by
  apply WsHeader.readRate_audio
  · exact if_neg (by rw [hcodec]; decide)
  · show 1 < f.messageType.toNat
    rw [messageType]
    cases hcode : f.getCodecType with
    | CODEC_UNKNOW => exact absurd hcode hknown
    | CODEC_H264 | CODEC_H265 =>
        rw [hcode] at hcodec
        cases hcodec
    | _ => decide

/-- The header of a frame is read as what the frame says of itself just when it fits. -/
theorem readRate_header_iff (f : AvFrame) :
    f.header.readRate = f.described.rate ↔ f.HeaderFits := by
  by_cases hvideo : f.getCodecType.isVideo = true
  · have haac : f.getCodecType ≠ .CODEC_AAC := by
      intro heq
      rw [heq] at hvideo
      cases hvideo
    have hknown : f.getCodecType ≠ .CODEC_UNKNOW := by
      intro heq
      rw [heq] at hvideo
      cases hvideo
    rw [header_of_video hvideo, described, if_pos hvideo]
    refine ⟨fun _ => ⟨hknown, ?_, ?_⟩, fun _ => rfl⟩
    · rw [getChls_of_ne haac]
      decide
    · rw [getSampleRate_of_ne haac]
      decide
  · rw [described, if_neg hvideo]
    by_cases hknown : f.getCodecType = .CODEC_UNKNOW
    · -- the type of a frame without a codec is that of H.264
      have hread : f.header.readRate =
          .video (toInt (WsMessage.field f.header.rate.bytes 0 4)) := by
        rw [WsHeader.readRate, if_pos]
        left
        show f.messageType.toNat = 0
        rw [messageType, hknown]
        rfl
      rw [hread]
      exact ⟨fun heq => (by cases heq), fun hfits => absurd hknown hfits.codec⟩
    · rw [header_of_audio (Bool.eq_false_iff.mpr hvideo) hknown, MessageRate.audio.injEq]
      constructor
      · rintro ⟨hchl, hsample⟩
        refine ⟨hknown, ?_, ?_⟩
        · split at hchl <;> omega
        · split at hsample <;> omega
      · intro hfits
        have hchl := hfits.chls
        have hsample := hfits.sampleRate
        constructor
        · split <;> omega
        · split <;> omega

/-- The message of a frame whose data is all there. -/
theorem playBackMessage_iff {f : AvFrame} (hcontent : (f.content.length : Int) = f.mDataSize)
    (ctrlType : Int) (nFrameTime : UInt64) :
    Decodable (1024 * 1024 * 2) (f.playBackMessage ctrlType nFrameTime) f.described ↔
      f.Sendable ctrlType nFrameTime := by
  have hpts : f.header.pts = f.getPTS := by
    show (if f.getCodecType.isVideo then f.getPTS else 0) = f.getPTS
    split
    · rfl
    · rename_i hcodec
      exact (if_neg hcodec).symm
  have hmessage : WsMessage.mk f.header.type.toNat f.header.pts.toNat f.header.readRate f.content =
      f.described ↔ f.HeaderFits := by
    rw [← f.readRate_header_iff, hpts]
    constructor
    · intro heq
      rw [← heq]
    · intro hrate
      rw [hrate]
      rfl
  rw [playBackMessage, Sendable]
  split
  · rename_i hskip
    exact ⟨fun _ hsent => absurd hskip hsent, fun _ => decodable_skip _ _⟩
  · rename_i hsent
    rw [WsHeader.decodable_iff _ (by decide), hmessage]
    constructor
    · rintro ⟨hfits, hheader⟩ -
      exact ⟨hheader, by omega⟩
    · intro hboth
      obtain ⟨hheader, hfits⟩ := hboth hsent
      exact ⟨by omega, hheader⟩

end AvFrame

namespace PlaybackFrames.Run

/-- In a slot that is in use is as much data as its length says. -/
def Filled (s : Run) : Prop :=
  ∀ (i : Nat) (slot : AvFrame), s.ring.mFrames[i]? = some slot → slot.isIde = false →
    (slot.content.length : Int) = slot.mDataSize

theorem filled_start : start.Filled := by
  intro i slot hslot hused
  have hfresh : slot = {} := List.eq_of_mem_replicate (List.mem_of_getElem? hslot)
  rw [hfresh] at hused
  cases hused

theorem filled_step ⦃s : Run⦄ ⦃e : Event⦄ ⦃s' : Run⦄ (hs : s.Filled)
    (hstep : step s e = some s') : s'.Filled := by
  cases e with
  | write frame =>
      rcases write_cases hstep with ⟨-, ⟨rfl, -⟩ | ⟨old, new, hold, -, hsize, hdata, rfl⟩⟩
      · exact hs
      · intro i slot hslot hused
        dsimp only at hslot
        rw [List.getElem?_set] at hslot
        split at hslot
        · split at hslot
          · cases hslot
            have hpos : 0 < new.mDataSize := by simpa [AvFrame.isIde] using hused
            have hle := AvFrame.toInt_le frame.data.length
            rw [hdata, List.length_take]
            omega
          · cases hslot
        · exact hs i slot hslot hused
  | commit =>
      obtain ⟨frame, -, rfl⟩ := Option.map_eq_some_iff.mp hstep
      intro i slot hslot hused
      dsimp only at hslot
      rw [commit_getElem?] at hslot
      obtain ⟨old, hold, rfl⟩ := Option.map_eq_some_iff.mp hslot
      -- only the header of a slot is written
      exact hs i old hold hused
  | get =>
      rw [step] at hstep
      split at hstep
      · cases hstep
      · split at hstep
        · cases hstep
          exact hs
        · cases hstep
          exact hs
  | free =>
      obtain ⟨fIndex, -, rfl⟩ := Option.map_eq_some_iff.mp hstep
      intro i slot hslot hused
      dsimp only at hslot
      by_cases hindex : fIndex < s.ring.mFrames.length
      · rw [free_getElem? hindex] at hslot
        obtain ⟨old, hold, rfl⟩ := Option.map_eq_some_iff.mp hslot
        by_cases hsame : fIndex = i
        · rw [if_pos hsame] at hused
          cases hused
        · rw [if_neg hsame] at hused ⊢
          exact hs i old hold hused
      · rw [freeFrameByIndex, if_neg hindex] at hslot
        exact hs i slot hslot hused

/-- What `GetNextFrameEx` delivers lies in a slot that is in use. -/
theorem Filled.getNextFrameEx {s : Run} (hs : s.Filled) {frame : AvFrame} {i : Nat}
    (hget : s.ring.getNextFrameEx = (0, some (frame, i))) :
    (frame.content.length : Int) = frame.mDataSize := by
  unfold PlaybackFrames.getNextFrameEx at hget
  split at hget
  · cases hget
  · rename_i slot hslot
    split at hget
    · rename_i hused
      cases hget
      exact hs _ frame hslot (by simpa using hused)
    · cases hget

/-- The first frame of a playback, when it has data. -/
theorem first_frame (frame : MediaFrame) (hpos : 0 < frame.data.length)
    (hlt : frame.data.length < 2 ^ 31) :
    ∃ s slot, Lts.exec step start [.write frame, .commit] = some s ∧
      s.ring.getNextFrameEx = (0, some (slot, 0)) ∧ slot.mDataSize = frame.data.length ∧
      slot.mFrame = frame.writeHead {} := by
  have hidle : ({} : AvFrame).isIde = true := rfl
  have hsize := AvFrame.toInt_eq_iff.mpr hlt
  rcases AvFrame.fill_idle hidle frame.data with ⟨-, hneg⟩ | ⟨slot, hfill, hdata, -, hhead⟩
  · omega
  have hwrite : start.ring.write frame.data =
      some (0, { start.ring with mFrames := [slot, {}] }) := by
    have hslot : start.ring.mFrames[start.ring.wIndex]? = some {} := rfl
    rw [PlaybackFrames.write, hslot]
    dsimp only
    rw [if_pos hidle, hfill]
    rfl
  have hused : ({ slot with mFrame := frame.writeHead slot.mFrame } : AvFrame).isIde = false := by
    rw [← Bool.not_eq_true, AvFrame.isIde_iff]
    show ¬ slot.mDataSize ≤ 0
    omega
  refine ⟨{ start with
      ring := ({ start.ring with mFrames := [slot, {}] } : PlaybackFrames).commit frame
      frames := [frame] },
    { slot with mFrame := frame.writeHead slot.mFrame }, ?_, ?_, ?_, ?_⟩
  · rw [Lts.exec_cons, step]
    show ((start.ring.write frame.data).map _).bind _ = _
    rw [hwrite]
    rfl
  · show (if !({ slot with mFrame := frame.writeHead slot.mFrame } : AvFrame).isIde then _
      else _) = _
    rw [hused]
    rfl
  · exact hdata.trans hsize
  · show frame.writeHead slot.mFrame = _
    rw [hhead]

end PlaybackFrames.Run

/-! ### Every frame that a ring delivers -/

/-- In every run of a live stream and of a playback, the message of a frame that the ring delivers
fits into the buffer of the thread and is read as it should be exactly when the frame can be sent:
the frame of a preview, whatever `mGap` is and whatever the clock shows, and the frame of a
playback, wherever the viewer has jumped to. -/
theorem frame_messages_iff {length : Nat} {allocated : Bool} {garbage : PoolGarbage}
    {handler : UInt32} {calls : List LiveFrames.StreamCall} {live : LiveFrames}
    (hlive : Lts.exec LiveFrames.call (.new length allocated garbage handler) calls = some live)
    {events : List PlaybackFrames.Event} {playback : PlaybackFrames.Run}
    (hplayback : Lts.exec PlaybackFrames.Run.step .start events = some playback) :
    (∀ readhandle frame, live.delivered readhandle = some frame → ∀ mGap clock,
      Decodable (1024 * 1024) (live.previewMessage frame mGap clock)
        (live.described frame mGap clock) ↔ live.Sendable frame mGap) ∧
    ∀ frame index, playback.ring.getNextFrameEx = (0, some (frame, index)) →
      ∀ ctrlType nFrameTime,
        Decodable (1024 * 1024 * 2) (frame.playBackMessage ctrlType nFrameTime)
          frame.described ↔ frame.Sendable ctrlType nFrameTime := by
  constructor
  · intro readhandle frame hframe mGap clock
    have htyped : live.Typed := Lts.exec_invariant LiveFrames.typed_call
      (LiveFrames.typed_new length allocated garbage handler) hlive
    obtain ⟨⟨nalu, hnalu⟩, htype⟩ := htyped.delivered hframe
    exact live.previewMessage_iff hnalu htype mGap clock
  · intro frame index hget ctrlType nFrameTime
    have hfilled : playback.Filled := Lts.exec_invariant PlaybackFrames.Run.filled_step
      PlaybackFrames.Run.filled_start hplayback
    exact AvFrame.playBackMessage_iff (hfilled.getNextFrameEx hget) ctrlType nFrameTime

/-- A viewer comes, and a key frame of H.264 follows with a gap of 40. -/
def keyFrameCalls : List LiveFrames.StreamCall :=
  [.createReader, .onMediaStream .GB_CODEC_H264 (some [0, 0, 0, 1, 0x65, 0x88, 0x84, 0]) 40]

theorem frames_decodable :
    (∃ live frame, Lts.exec LiveFrames.call (.new 10485760 true default 0) keyFrameCalls =
        some live ∧ live.delivered 1 = some frame ∧
      Decodable (1024 * 1024) (live.previewMessage frame 40 1000)
        (live.described frame 40 1000)) ∧
    ∃ playback frame, Lts.exec PlaybackFrames.Run.step .start
        [.write (.audio .CODEC_PCMA [0xD5, 0x55] 1 8000), .commit] = some playback ∧
      playback.ring.getNextFrameEx = (0, some (frame, 0)) ∧
      Decodable (1024 * 1024 * 2) (frame.playBackMessage 0 0) frame.described := by
  have hsendable : (Lts.exec LiveFrames.call (.new 10485760 true default 0)
      keyFrameCalls).bind (fun s => (s.delivered 1).map fun frame =>
        decide (s.Sendable frame 40)) = some true := by
    decide +kernel
  obtain ⟨live, hlive, hframe⟩ := Option.bind_eq_some_iff.mp hsendable
  obtain ⟨frame, hdelivered, hsend⟩ := Option.map_eq_some_iff.mp hframe
  obtain ⟨playback, slot, hplayback, hget, hsize, hhead⟩ := PlaybackFrames.Run.first_frame
    (.audio .CODEC_PCMA [0xD5, 0x55] 1 8000) (by decide) (by decide)
  obtain ⟨hpreview, hplay⟩ := frame_messages_iff hlive hplayback
  refine ⟨⟨live, frame, hlive, hdelivered,
    (hpreview 1 frame hdelivered 40 1000).mpr (of_decide_eq_true hsend)⟩,
    playback, slot, hplayback, hget, (hplay slot 0 hget 0 0).mpr ?_⟩
  have hcodec : slot.getCodecType = .CODEC_PCMA := by rw [AvFrame.getCodecType, hhead]; rfl
  have haac : slot.getCodecType ≠ .CODEC_AAC := by rw [hcodec]; decide
  intro _
  refine ⟨⟨by rw [hcodec]; decide, ?_, ?_⟩, by rw [hsize]; decide⟩
  · rw [AvFrame.getChls_of_ne haac]
    decide
  · rw [AvFrame.getSampleRate_of_ne haac]
    decide

/-- The device has set a frame rate, and the key frame comes without a gap. The frame of a
playback is as large as the buffer, or is read before its codec is set. -/
theorem not_decodable :
    (∃ s frame, Lts.exec LiveFrames.call (.new 10485760 true default 0)
        [.setFrameRate 25, .createReader,
          .onMediaStream .GB_CODEC_H264 (some [0, 0, 0, 1, 0x65, 0x88, 0x84, 0]) 0] = some s ∧
      s.delivered 1 = some frame ∧
      ¬ Decodable (1024 * 1024) (s.previewMessage frame 40 1000) (s.described frame 40 1000)) ∧
    (∃ s frame, Lts.exec PlaybackFrames.Run.step .start
        [.write (.video .CODEC_H264 (List.replicate (1024 * 1024 * 2) 0) 25 0 1920 1080 0),
          .commit] = some s ∧
      s.ring.getNextFrameEx = (0, some (frame, 0)) ∧
      ¬ Decodable (1024 * 1024 * 2) (frame.playBackMessage 0 0) frame.described) ∧
    ∃ s frame, Lts.exec PlaybackFrames.Run.step .start
        [.write (.audio .CODEC_PCMA [0xD5, 0x55] 1 8000)] = some s ∧
      s.ring.getNextFrameEx = (0, some (frame, 0)) ∧
      ¬ Decodable (1024 * 1024 * 2) (frame.playBackMessage 0 0) frame.described := by
  refine ⟨?_, ?_, ?_⟩
  · have hnone : (Lts.exec LiveFrames.call (.new 10485760 true default 0)
        [.setFrameRate 25, .createReader,
          .onMediaStream .GB_CODEC_H264 (some [0, 0, 0, 1, 0x65, 0x88, 0x84, 0]) 0]).bind
        (fun s => (s.delivered 1).map fun frame => s.previewMessage frame 40 1000) =
          some none := by
      decide +kernel
    obtain ⟨s, hrun, hframe⟩ := Option.bind_eq_some_iff.mp hnone
    obtain ⟨frame, hdelivered, hmessage⟩ := Option.map_eq_some_iff.mp hframe
    refine ⟨s, frame, hrun, hdelivered, ?_⟩
    rw [hmessage]
    exact not_decodable_none
  · have hlength : (List.replicate (1024 * 1024 * 2) (0 : UInt8)).length = 1024 * 1024 * 2 :=
      List.length_replicate
    obtain ⟨s, frame, hrun, hget, hsize, -⟩ := PlaybackFrames.Run.first_frame
      (.video .CODEC_H264 (List.replicate (1024 * 1024 * 2) 0) 25 0 1920 1080 0)
      (by rw [MediaFrame.data, hlength]; decide) (by rw [MediaFrame.data, hlength]; decide)
    rw [MediaFrame.data, hlength] at hsize
    have hfilled : s.Filled := Lts.exec_invariant PlaybackFrames.Run.filled_step
      PlaybackFrames.Run.filled_start hrun
    refine ⟨s, frame, hrun, hget, fun hread => ?_⟩
    have hsend := (AvFrame.playBackMessage_iff (hfilled.getNextFrameEx hget) 0 0).mp hread
    have hroom := (hsend fun hskip => absurd hskip.1 (by decide)).2
    rw [hsize] at hroom
    exact absurd hroom (by decide)
  · refine ⟨_, _, rfl, rfl, fun hread => ?_⟩
    exact (((AvFrame.playBackMessage_iff rfl 0 0).mp hread) (by decide)).1.codec rfl

end SignalingServer
