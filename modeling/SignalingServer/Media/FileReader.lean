import SignalingServer.Lib.LowerBound
import SignalingServer.Media.ReaderQueue
import SignalingServer.Media.VideoNalu

/-!
The readers of stored H.264 and H.265 streams (`media/h264-file-reader.cpp`,
`media/h265-file-reader.cpp`). A file is cut into frames when it is opened; data that comes in
later is collected in one of two halves and cut there. The two classes are two copies of one
text: what they share is one definition with the codec as a parameter.
-/

namespace SignalingServer

/-- A block of memory: the number of the allocation that gave it, and its size. -/
structure Block where
  id : Nat
  size : Nat
deriving DecidableEq, Repr

/-- The address of a byte of a block. -/
structure BlockPtr where
  block : Nat
  pos : Nat
deriving DecidableEq, Repr

/-- `vframe_t` of the readers. -/
structure ReaderFrame where
  nalu : BlockPtr
  time : Int
  bytes : Nat
  idr : Bool
deriving DecidableEq, Repr

/-- The members of `H264FileReader` and `H265FileReader`. `m_vit` is the place it points at in
`m_videos`. `memory` is what the blocks contain, and `blocks` the number of the next one. The
last two fields are history: the blocks and ranges that `Input` has copied to, and the old and
the new half at each of its switches. -/
structure FileReader where
  queue : ReaderQueue ReaderFrame
  m_vit : Nat
  spspps2 : Bool
  m_sps : List (BlockPtr × Nat)
  m_ptr : Option Block
  bm_ptr : Option Block
  m_capacity : Nat
  rPos : Nat
  wPos : Nat
  frPos : Nat
  fwPos : Nat
  memory : Nat → Nat → UInt8
  blocks : Nat
  copies : List (Block × Nat × Nat)
  switches : List (Option Block × Option Block)

namespace FileReader

open VideoNalu

/-- `malloc`, which gives no block where it fails. -/
def malloc (r : FileReader) (size : Nat) (succeeds : Bool) : Option Block × FileReader :=
  (if succeeds then some ⟨r.blocks, size⟩ else none, { r with blocks := r.blocks + 1 })

/-! ### Reading frames -/

/-- `H264FileReader::GetNextFrame`: the frame that it fills in, or none where it returns -1. It
is undefined where `m_vit` points behind the end. -/
def getNextFrame264 (r : FileReader) : Option (Option ReaderFrame × FileReader) :=
  if r.m_vit = r.queue.m_videos.length then some (none, r)
  else
    r.queue.m_videos[r.m_vit]?.map fun frame =>
      (some frame, { r with
        m_vit := r.m_vit + 1
        queue := { r.queue with m_videos := r.queue.m_videos.dropLast } })

/-- `H265FileReader::GetNextFrame`. -/
def getNextFrame265 (r : FileReader) : Option (Option ReaderFrame × FileReader) :=
  if r.m_vit = r.queue.m_videos.length then some (none, r)
  else r.queue.m_videos[r.m_vit]?.map fun frame => (some frame, { r with m_vit := r.m_vit + 1 })

/-- The walk of `Seek` from a place back to the first frame, at which it stops without a look
at it: the place at which it sets `m_vit`. -/
def walkBack (videos : List ReaderFrame) : Nat → Option Nat
  | 0 => none
  | i + 1 => if videos[i + 1]?.any (·.idr) then some (i + 1) else walkBack videos i

/-- `Seek` of both classes. -/
def seek (r : FileReader) (dts : Int) : Int × FileReader :=
  let it := LowerBound.lowerBound (fun frame => frame.time < dts) r.queue.m_videos
  if it = r.queue.m_videos.length then (-1, r)
  else (0, { r with m_vit := (walkBack r.queue.m_videos it).getD r.m_vit })

/-! ### Cutting into frames -/

/-- `h264_nal_type` or `h265_nal_type`. -/
def nalType : ReaderCodec → (Nat → UInt8) → Nat → Nat
  | .h264 => h264NalType
  | .h265 => h265NalType

/-- The NAL units that a reader takes for parameter sets. `H265FileReader` compares with
`NAL_SPS`, not with `NAL_SPS_5`. -/
def isParameterSet : ReaderCodec → Nat → Bool
  | .h264, t => t == NAL_SPS || t == NAL_PPS
  | .h265, t => t == NAL_VPS || t == NAL_SPS || t == NAL_PPS_5

/-- The NAL units that can end a frame in `Init2` are those up to this type. -/
def lastSlice : ReaderCodec → Nat
  | .h264 => 5
  | .h265 => 31

def isIdr : ReaderCodec → Nat → Bool
  | .h264, t => t == NAL_IDR
  | .h265, t => t == NAL_IDR_N_LP || t == NAL_IDR_W_RADL

/-- The local variables of `Init` and `Init2`; `spspps` is `vpsspspps` in `H265FileReader`, and
`Init2` has the member `spspps2` in its place. -/
structure Scan where
  block : Nat
  stop : Nat
  nalu : Nat
  p : Nat
  count : Nat := 0
  spspps : Bool := true
deriving DecidableEq, Repr

/-- The local variables before the loop, for the bytes from `start` up to `stop`. -/
def startScan (r : FileReader) (block start stop : Nat) : Scan :=
  let nalu := searchStartCode (r.memory block) start stop
  { block := block, stop := stop, nalu := nalu, p := nalu }

/-- The frame from `nalu` to `pn`. -/
def frameAt (c : ReaderCodec) (r : FileReader) (s : Scan) (pn : Nat) : ReaderFrame where
  nalu := ⟨s.block, s.nalu⟩
  time := 40 * s.count
  bytes := pn - s.nalu
  idr := isIdr c (nalType c (r.memory s.block) s.p)

/-- What is kept of the parameter set at `p`: the place behind its start code, and `bytes`. -/
def keepSet (r : FileReader) (s : Scan) (pn : Nat) : FileReader :=
  let n := if r.memory s.block (s.p + 2) == 1 then 3 else 4
  { r with m_sps := r.m_sps ++ [(⟨s.block, s.p + n⟩, pn - s.nalu)] }

/-- `push`; `none` where it writes outside `m_videos`. -/
def push (c : ReaderCodec) (r : FileReader) (frame : ReaderFrame) : Option FileReader :=
  (r.queue.push c frame).map fun queue => { r with queue := queue }

/-- The body of the loop of `H264FileReader::Init`. -/
def round264 (r : FileReader) (s : Scan) : FileReader × Scan :=
  let byte := r.memory s.block
  let pn := searchStartCode byte (s.p + 4) s.stop
  if nalType .h264 byte s.p ≤ 5 && h264NalNewAccess byte pn s.stop then
    ({ r with queue := { r.queue with m_videos := r.queue.m_videos ++ [frameAt .h264 r s pn] } },
      { s with
        nalu := pn, p := pn, count := s.count + 1, spspps := s.spspps && r.m_sps.isEmpty })
  else if isParameterSet .h264 (nalType .h264 byte s.p) && s.spspps then
    (r.keepSet s pn, { s with p := pn })
  else (r, { s with p := pn })

/-- The body of the loop of `H265FileReader::Init`, which pushes every NAL unit as a frame. -/
def round265 (r : FileReader) (s : Scan) : Option (FileReader × Scan) :=
  let byte := r.memory s.block
  let pn := searchStartCode byte (s.p + 4) s.stop
  let kept :=
    if isParameterSet .h265 (nalType .h265 byte s.p) && s.spspps then r.keepSet s pn else r
  (kept.push .h265 (frameAt .h265 r s pn)).map fun r =>
    (r, { s with
      nalu := pn, p := pn, count := s.count + 1, spspps := s.spspps && r.m_sps.isEmpty })

/-- What `Init2` does to the read positions when it has pushed a frame. -/
def advance (r : FileReader) (bytes : Nat) : FileReader :=
  if r.fwPos ≠ 0 then
    if r.frPos + bytes = r.fwPos then { r with fwPos := 0, frPos := 0 }
    else { r with frPos := r.frPos + bytes }
  else { r with rPos := r.rPos + bytes }

/-- The body of the loop of `Init2`. -/
def round2 (c : ReaderCodec) (r : FileReader) (s : Scan) : Option (FileReader × Scan) :=
  let byte := r.memory s.block
  let pn := searchStartCode byte (s.p + 4) s.stop
  if nalType c byte s.p ≤ lastSlice c && h264NalNewAccess byte pn s.stop then
    let noted : FileReader := { r with spspps2 := r.spspps2 && r.m_sps.isEmpty }
    (noted.push c (frameAt c r s pn)).map fun r =>
      (r.advance (pn - s.nalu), { s with nalu := pn, p := pn, count := s.count + 1 })
  else if isParameterSet c (nalType c byte s.p) && r.spspps2 then
    some (r.keepSet s pn, { s with p := pn })
  else some (r, { s with p := pn })

/-- The loop `while (p < end)`; `none` where a round writes outside `m_videos`, or where it has
not ended after `fuel` rounds. -/
def scanLoop (round : FileReader → Scan → Option (FileReader × Scan)) :
    Nat → FileReader → Scan → Option FileReader
  | 0, r, s => if s.p < s.stop then none else some r
  | fuel + 1, r, s =>
      if s.p < s.stop then (round r s).bind fun (r, s) => scanLoop round fuel r s else some r

/-- `Init`, on the block that holds the file. -/
def init (c : ReaderCodec) (r : FileReader) (block : Nat) : Option FileReader :=
  let round := match c with
    | .h264 => fun r s => some (round264 r s)
    | .h265 => round265
  scanLoop round r.m_capacity r (r.startScan block 0 r.m_capacity)

/-- `Init2`, on the bytes of `oneFrame`. -/
def init2 (c : ReaderCodec) (r : FileReader) (oneFrame : BlockPtr) (oneFrameSize : Nat) :
    Option FileReader :=
  scanLoop (round2 c) oneFrameSize r
    (r.startScan oneFrame.block oneFrame.pos (oneFrame.pos + oneFrameSize))

/-! ### Construction -/

/-- A reader before its constructor has come to the file; `spspps2` is not initialised in
`H264FileReader`. -/
def blank (slots : List ReaderFrame) (spspps2 : Bool) (garbage : Nat → Nat → UInt8) :
    FileReader where
  queue := { m_videos := slots, readIdx := 0, writeIdx := 0, cacheQueue := [] }
  m_vit := 0
  spspps2 := spspps2
  m_sps := []
  m_ptr := none
  bm_ptr := none
  m_capacity := 0
  rPos := 0
  wPos := 0
  frPos := 0
  fwPos := 0
  memory := garbage
  blocks := 0
  copies := []
  switches := []

/-- A file that is read into a block of its size. -/
def load (r : FileReader) (file : List UInt8) : FileReader :=
  { r with
    m_capacity := file.length
    m_ptr := some ⟨r.blocks, file.length⟩
    memory := fun id pos =>
      if id = r.blocks then (file[pos]?).getD (r.memory id pos) else r.memory id pos
    blocks := r.blocks + 1 }

/-! ### Data that comes in -/

/-- What `data` points at: the first `size` bytes are the chunk. -/
structure Chunk where
  byte : Nat → UInt8
  size : Nat

/-- Which allocations of a call of `Input` succeed: the two at the first call of
`H265FileReader`, and those after a switch. -/
structure Mallocs where
  m_ptr : Bool
  bm_ptr : Bool
  switched : Bool
deriving DecidableEq, Repr

/-- What `H265FileReader::Input` begins with. -/
def allocate (c : ReaderCodec) (env : Mallocs) (r : FileReader) : FileReader :=
  match c with
  | .h264 => r
  | .h265 =>
      if r.m_capacity = 0 then
        let (m_ptr, r) := r.malloc (1024 * 1024) env.m_ptr
        let (bm_ptr, r) := r.malloc (1024 * 1024) env.bm_ptr
        { r with m_capacity := 1024 * 1024, m_ptr := m_ptr, bm_ptr := bm_ptr }
      else r

/-- The two halves change places; where there was a second one, the new half is a new block. -/
def switchBuf (env : Mallocs) (r : FileReader) : FileReader :=
  let moved := { r with frPos := r.rPos, fwPos := r.wPos, wPos := 0, rPos := 0, bm_ptr := r.m_ptr }
  let new :=
    match r.bm_ptr with
    | none => moved
    | some _ =>
        let (m_ptr, moved) := moved.malloc r.m_capacity env.switched
        { moved with m_ptr := m_ptr }
  { new with switches := new.switches ++ [(new.bm_ptr, new.m_ptr)] }

/-- `memcpy(m_ptr + wPos, data, size)` into a block, with the assignment behind it. -/
def copyChunk (r : FileReader) (b : Block) (data : Chunk) : FileReader :=
  { r with
    memory := fun id pos =>
      if id = b.id ∧ r.wPos ≤ pos ∧ pos < r.wPos + data.size then data.byte (pos - r.wPos)
      else r.memory id pos
    wPos := r.wPos + data.size
    copies := r.copies ++ [(b, r.wPos, data.size)] }

/-- `oneFrame` and `oneFrameSize`: the rest of the old half, or else of the current one. `none`
where there is no block. -/
def nextPart (r : FileReader) : Option (BlockPtr × Nat) :=
  if r.fwPos ≠ 0 then r.bm_ptr.map fun b => (⟨b.id, r.frPos⟩, r.fwPos - r.frPos)
  else r.m_ptr.map fun b => (⟨b.id, r.rPos⟩, r.wPos - r.rPos)

/-- The branch of `Input` in which the chunk fits; `none` where it is copied to NULL. -/
def takeIn (c : ReaderCodec) (r : FileReader) (data : Chunk) : Option FileReader :=
  r.m_ptr.bind fun b =>
    let copied := r.copyChunk b data
    if isParameterSet c (nalType c data.byte 0) then some copied
    else copied.nextPart.bind fun (oneFrame, oneFrameSize) => copied.init2 c oneFrame oneFrameSize

/-- `Input`, which calls itself after a switch; `none` where `fuel` calls are not enough. -/
def input (c : ReaderCodec) (env : Mallocs) (data : Chunk) : Nat → FileReader → Option FileReader
  | 0, _ => none
  | fuel + 1, r =>
      let r := r.allocate c env
      if data.size ≤ r.m_capacity - r.wPos then r.takeIn c data
      else input c env data fuel (r.switchBuf env)

end FileReader

namespace H264FileReader

/-- `H264FileReader(file)`, with `none` where the file cannot be opened. There `resize` gives
128 frames with any content, and the block may be missing. -/
def new (file : Option (List UInt8)) (slots : List ReaderFrame) (spspps2 malloc : Bool)
    (garbage : Nat → Nat → UInt8) : Option FileReader :=
  match file with
  | some file => ((FileReader.blank [] spspps2 garbage).load file).init .h264 0
  | none =>
      let (m_ptr, r) := (FileReader.blank slots true garbage).malloc (10 * 1024 * 1024) malloc
      some { r with m_ptr := m_ptr, m_capacity := 10 * 1024 * 1024 }

def getNextFrame := FileReader.getNextFrame264
def seek := FileReader.seek
def init2 := FileReader.init2 .h264
def input := FileReader.input .h264

end H264FileReader

namespace H265FileReader

/-- `H265FileReader()` and `H265FileReader(file)`, both with 300 frames in `m_videos`. -/
def new (file : Option (List UInt8)) (slots : List ReaderFrame) (garbage : Nat → Nat → UInt8) :
    Option FileReader :=
  match file with
  | some file => ((FileReader.blank slots true garbage).load file).init .h265 0
  | none => some (FileReader.blank slots true garbage)

def getNextFrame := FileReader.getNextFrame265
def seek := FileReader.seek
def init2 := FileReader.init2 .h265
def input := FileReader.input .h265

end H265FileReader

end SignalingServer
