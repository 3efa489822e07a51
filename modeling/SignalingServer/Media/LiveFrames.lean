import Mathlib.Data.List.Chain
import SignalingServer.Lib.Lts
import SignalingServer.Lib.Table
import SignalingServer.Media.FrameMemPool

/-!
The readers of a live stream (`media/MediaStream.cpp`). A reader is a handle with
a position in the ring of the frame pool; nothing tells it how often the ring has
gone round since it read last. The runs here interleave one writer, which pushes
frame after frame, with any number of readers.
-/

namespace SignalingServer

/-- The members of `MediaStream` that the readers of a live stream use. -/
structure LiveFrames where
  framePool : FrameMemPool
  mHandler : UInt32
  mReaderMap : Table UInt32 Nat

namespace LiveFrames

/-- `createReader`; the handle counter is an unsigned 32-bit number. -/
def createReader (s : LiveFrames) : UInt32 × LiveFrames :=
  (s.mHandler + 1,
    { s with
      mHandler := s.mHandler + 1
      mReaderMap := s.mReaderMap.insert (s.mHandler + 1) s.framePool.getReader })

def removeReader (s : LiveFrames) (handle : UInt32) : LiveFrames :=
  { s with mReaderMap := s.mReaderMap.erase handle }

def getReadPos (s : LiveFrames) (readhandle : UInt32) : Int :=
  let readPos : Int :=
    match s.mReaderMap.lookup readhandle with
    | some pos => pos
    | none => -1
  if readPos < 0 then s.framePool.getReader else readPos

def setReadPos (s : LiveFrames) (readhandle : UInt32) (pos : Nat) : LiveFrames :=
  match s.mReaderMap.lookup readhandle with
  | some _ => { s with mReaderMap := s.mReaderMap.insert readhandle pos }
  | none => s

/-- `GetNextFrame`: the result, the frame that it assigns, and the stream after it. -/
def getNextFrame (s : LiveFrames) (handle : UInt32) : Int × Option VFrame × LiveFrames :=
  let readpos := s.getReadPos handle
  if readpos = -1 then (-1, none, s)
  else if readpos = s.framePool.queue.write then (-2, none, s)
  else
    match s.framePool.queue.getNextByHanlde readpos.toNat with
    | some frame =>
        if frame.nalu.isNone then (-3, some frame, s)
        else
          (0, some frame,
            s.setReadPos handle ((readpos.toNat + 1) % s.framePool.queue.maxSize))
    | none => (-4, none, s)

/-- The frame that a call of `GetNextFrame` delivers: the one it assigns when it
returns 0. -/
def delivered (s : LiveFrames) (handle : UInt32) : Option VFrame :=
  if (s.getNextFrame handle).1 = 0 then (s.getNextFrame handle).2.1 else none

section

variable {s : LiveFrames} {handle : UInt32}

theorem getReadPos_of_lookup {pos : Nat} (h : s.mReaderMap.lookup handle = some pos) :
    s.getReadPos handle = pos := by
  simp only [getReadPos, h]
  rw [if_neg (Int.not_lt.mpr (Int.natCast_nonneg pos))]

/-- What `GetNextFrame` does for a reader of the table. -/
theorem getNextFrame_cases {pos : Nat} (h : s.mReaderMap.lookup handle = some pos) :
    (s.delivered handle = none ∧ (s.getNextFrame handle).2.2 = s ∧
        (pos = s.framePool.queue.write ∨ ∀ frame,
          s.framePool.queue.getNextByHanlde pos = some frame → frame.nalu = none)) ∨
      ∃ frame, s.framePool.queue.getNextByHanlde pos = some frame ∧ frame.nalu.isSome ∧
        s.delivered handle = some frame ∧ (s.getNextFrame handle).2.2 =
          { s with mReaderMap :=
            s.mReaderMap.insert handle ((pos + 1) % s.framePool.queue.maxSize) } := by
  -- `GetReadPos` gives -1 only for a handle that is not in the table
  have hne : ¬ (pos : Int) = -1 := by omega
  by_cases hwrite : (pos : Int) = s.framePool.queue.write
  · left
    refine ⟨?_, ?_, .inl (Int.ofNat.inj hwrite)⟩
    · simp [delivered, getNextFrame, getReadPos_of_lookup h, hwrite]
    · simp [getNextFrame, getReadPos_of_lookup h, hwrite]
  · cases hnext : s.framePool.queue.getNextByHanlde pos with
    | none =>
        left
        refine ⟨?_, ?_, .inr fun frame hframe => by cases hframe⟩
        · simp [delivered, getNextFrame, getReadPos_of_lookup h, hne, hwrite, hnext]
        · simp [getNextFrame, getReadPos_of_lookup h, hne, hwrite, hnext]
    | some frame =>
        cases hnalu : frame.nalu with
        | none =>
            left
            refine ⟨?_, ?_, .inr fun frame' hframe => by cases hframe; exact hnalu⟩
            · simp [delivered, getNextFrame, getReadPos_of_lookup h, hne, hwrite, hnext, hnalu]
            · simp [getNextFrame, getReadPos_of_lookup h, hne, hwrite, hnext, hnalu]
        | some ptr =>
            right
            refine ⟨frame, rfl, by rw [hnalu]; rfl, ?_, ?_⟩
            · simp [delivered, getNextFrame, getReadPos_of_lookup h, hne, hwrite, hnext, hnalu]
            · simp [getNextFrame, getReadPos_of_lookup h, hne, hwrite, hnext, hnalu, setReadPos, h]

/-- A call with a handle that is not in the table changes nothing. -/
theorem getNextFrame_of_unknown (h : s.mReaderMap.lookup handle = none) :
    (s.getNextFrame handle).2.2 = s := by
  unfold getNextFrame
  dsimp only
  split
  · rfl
  · split
    · rfl
    · split
      · split
        · rfl
        · rw [setReadPos, h]
      · rfl

end

/-! ### Runs -/

/-- A call on the stream: the writer pushes an access unit of H.264 or a NAL unit of
H.265, or a viewer comes, reads or leaves. -/
inductive Event
  | pushAccessUnit (nalu : PoolPtr) (bytes : Nat) (idr : Bool)
  | pushNalu (nalu : PoolPtr) (bytes count : Nat) (idr : Bool)
  | createReader
  | removeReader (handle : UInt32)
  | getNextFrame (handle : UInt32)

/-- The history of a reader: the key frame it should start on, and the numbers of the
frames it got. -/
structure Reader where
  target : Option Nat
  delivered : List Nat
deriving DecidableEq, Repr

/-- A stream with its history: the number of the last IDR frame of H.264 that was
pushed, and the readers since their handles were given out. -/
structure Run where
  stream : LiveFrames
  lastIdr : Option Nat
  readers : Table UInt32 Reader

namespace Run

/-- The frame with number `j` is stored in a slot of the ring. -/
def Stored (s : Run) (j : Nat) : Prop :=
  ∃ frame ∈ s.stream.framePool.queue.mVector, frame.nalu.isSome ∧ frame.seq = j

instance (s : Run) (j : Nat) : Decidable (s.Stored j) :=
  inferInstanceAs (Decidable (∃ frame ∈ s.stream.framePool.queue.mVector, _ ∧ _))

/-- `mHandler` is not initialised by the source: `handler` is what it starts with. -/
def start (length : Nat) (allocated : Bool) (garbage : PoolGarbage)
    (handler : UInt32) : Run where
  stream :=
    { framePool := .new length allocated garbage
      mHandler := handler
      mReaderMap := ∅ }
  lastIdr := none
  readers := ∅

def step : Lts.Step Run Event
  | s, .pushAccessUnit nalu bytes idr =>
      some { s with
        stream := { s.stream with framePool := s.stream.framePool.pushAccessUnit nalu bytes idr }
        lastIdr := if idr then some s.stream.framePool.pushed else s.lastIdr }
  | s, .pushNalu nalu bytes count idr =>
      some { s with
        stream := { s.stream with framePool := s.stream.framePool.pushNalu nalu bytes count idr } }
  | s, .createReader =>
      some { s with
        stream := s.stream.createReader.2
        readers := s.readers.insert s.stream.createReader.1
          { target := s.lastIdr.filter fun j => s.Stored j, delivered := [] } }
  | s, .removeReader handle =>
      some { s with
        stream := s.stream.removeReader handle
        readers := s.readers.erase handle }
  | s, .getNextFrame handle =>
      match s.stream.delivered handle, s.readers.lookup handle with
      | some frame, some r =>
          some { s with
            stream := (s.stream.getNextFrame handle).2.2
            readers :=
              s.readers.insert handle { r with delivered := r.delivered ++ [frame.seq] } }
      | _, _ => some { s with stream := (s.stream.getNextFrame handle).2.2 }

/-! ### What a position means -/

/-- The slot that `lastIdrPos` names when the frame with number `j` is a key frame: from
frame `m` on, the slot of the frame before it, which still waits in the overflow. -/
def recordedPos (m j : Nat) : Nat := (if j < m then j else j - 1) % m

/-- How the position of a reader goes with its history: behind the frame it got last, or
where it was created. -/
structure Follows (pool : FrameMemPool) (written : List VFrame) (r : Reader) (pos : Nat) :
    Prop where
  ordered : r.delivered.IsChain (· < ·)
  after : ∀ a ∈ r.delivered.getLast?, pos = (a + 1) % pool.queue.maxSize ∧ a < written.length
  fresh : r.delivered = [] → ∀ j ∈ r.target,
    pos = recordedPos pool.queue.maxSize j ∧ j < written.length

/-- The frames are numbered, the last key frame is recorded in `lastIdrPos`, and every
reader has a position that goes with its history. -/
def Sound (s : Run) : Prop :=
  ∃ written, s.stream.framePool.Numbered written ∧
    (∀ j ∈ s.lastIdr, j < s.stream.framePool.pushed ∧
      s.stream.framePool.lastIdrPos = recordedPos s.stream.framePool.queue.maxSize j) ∧
    ∀ handle r, s.readers.lookup handle = some r →
      ∃ pos, s.stream.mReaderMap.lookup handle = some pos ∧
        Follows s.stream.framePool written r pos

theorem Follows.mono {pool pool' : FrameMemPool} {written written' : List VFrame} {r : Reader}
    {pos : Nat} (h : Follows pool written r pos)
    (hmax : pool'.queue.maxSize = pool.queue.maxSize)
    (hle : written.length ≤ written'.length) : Follows pool' written' r pos where
  ordered := h.ordered
  after a ha := by
    obtain ⟨hpos, hlt⟩ := h.after a ha
    rw [hmax]
    exact ⟨hpos, by omega⟩
  fresh hnone j hj := by
    obtain ⟨hpos, hlt⟩ := h.fresh hnone j hj
    rw [hmax]
    exact ⟨hpos, by omega⟩

/-- A frame in the slot behind the one that was delivered last is a later frame: an
earlier one would have been replaced there by the frame that is still missing. -/
theorem later_of_behind {m written a j : Nat} (ha : a < written) (hslot : j % m = (a + 1) % m)
    (hlap : written < j + m) : a < j := by
  by_contra hle
  have heq := (Ring.mod_eq_mod_iff (m := m) (a := j) (b := a + 1) (by omega) (by omega)).mp
    hslot.symm
  omega

/-- A delivery puts one more frame behind those that the reader has got. -/
theorem Follows.deliver {pool : FrameMemPool} {written : List VFrame} {r : Reader} {pos : Nat}
    (h : Follows pool written r pos) (hpool : pool.Numbered written) {frame : VFrame}
    (hnext : pool.queue.getNextByHanlde pos = some frame) (hnalu : frame.nalu.isSome) :
    Follows pool written { r with delivered := r.delivered ++ [frame.seq] }
      ((pos + 1) % pool.queue.maxSize) := by
  obtain ⟨hwritten, hslot, hlap⟩ := hpool.getNextByHanlde hnext hnalu
  have hseq : frame.seq < written.length := (List.getElem?_eq_some_iff.mp hwritten).1
  refine ⟨?_, ?_, ?_⟩
  · rw [List.isChain_append]
    refine ⟨h.ordered, List.isChain_singleton _, ?_⟩
    intro a ha j hj
    obtain ⟨hpos, hlt⟩ := h.after a ha
    cases hj
    exact later_of_behind hlt (hslot.trans hpos) hlap
  · intro a ha
    rw [List.getLast?_concat] at ha
    cases ha
    exact ⟨by rw [← hslot, Nat.mod_add_mod], hseq⟩
  · intro hnone
    exact absurd hnone (List.append_ne_nil_of_right_ne_nil _ (List.cons_ne_nil _ _))

/-! ### Every step keeps it -/

theorem sound_start (length : Nat) (allocated : Bool) (garbage : PoolGarbage)
    (handler : UInt32) : (start length allocated garbage handler).Sound := by
  refine ⟨[], FrameMemPool.numbered_new length allocated garbage, ?_, ?_⟩
  · intro j hj
    cases hj
  · intro handle r hr
    rw [show (start length allocated garbage handler).readers = ∅ from rfl,
      AList.lookup_empty] at hr
    cases hr

/-- A push, whichever codec the frame is of. -/
theorem Sound.push {s : Run} (hs : s.Sound) (pool : FrameMemPool) {frame : VFrame}
    {lastIdr : Option Nat} (hnalu : frame.nalu.isSome)
    (hqueue : pool.queue =
      s.stream.framePool.queue.push { frame with seq := s.stream.framePool.pushed })
    (hpushed : pool.pushed = s.stream.framePool.pushed + 1)
    (hidr : (lastIdr = s.lastIdr ∧ pool.lastIdrPos = s.stream.framePool.lastIdrPos) ∨
      (lastIdr = some s.stream.framePool.pushed ∧
        pool.lastIdrPos = s.stream.framePool.queue.write)) :
    ({ s with stream := { s.stream with framePool := pool }, lastIdr := lastIdr }).Sound := by
  obtain ⟨written, hpool, hlast, hreaders⟩ := hs
  obtain ⟨written', hpool', -⟩ := hpool.push hnalu hqueue hpushed
  have hmax : pool.queue.maxSize = s.stream.framePool.queue.maxSize := by
    rw [hqueue, UnLockQueue.push_maxSize]
  refine ⟨written', hpool', ?_, ?_⟩
  · intro j hj
    show j < pool.pushed ∧ pool.lastIdrPos = recordedPos pool.queue.maxSize j
    rw [hmax, hpushed]
    rcases hidr with ⟨rfl, hpos⟩ | ⟨rfl, hpos⟩
    · obtain ⟨hlt, hrecorded⟩ := hlast j hj
      exact ⟨by omega, hpos.trans hrecorded⟩
    · cases hj
      refine ⟨Nat.lt_succ_self _, ?_⟩
      rw [hpos, hpool.holds.write, hpool.length, recordedPos]
  · intro handle r hr
    obtain ⟨pos, hpos, hfollows⟩ := hreaders handle r hr
    exact ⟨pos, hpos, hfollows.mono hmax (hpool.length_le hpool' hmax hpushed)⟩

theorem Stored.lt {s : Run} {written : List VFrame}
    (hpool : s.stream.framePool.Numbered written) {j : Nat} (h : s.Stored j) :
    j < written.length := by
  obtain ⟨frame, hmem, hnalu, hseq⟩ := h
  obtain ⟨i, hvector, hslot⟩ := List.mem_iff_getElem.mp hmem
  have hi : i < s.stream.framePool.queue.maxSize := hpool.holds.length ▸ hvector
  have hframe := hpool.holds.slots i hi
  rw [List.getElem?_eq_getElem hvector, hslot] at hframe
  rcases Ring.slot_cases written hi with ⟨-, hdefault⟩ | ⟨k, -, -, hwritten⟩
  · rw [hdefault, Option.some.injEq] at hframe
    rw [hframe] at hnalu
    cases hnalu
  · rw [← hframe] at hwritten
    have hk : k < written.length := (List.getElem?_eq_some_iff.mp hwritten).1
    have hnumber := (hpool.frame (by rw [List.getElem?_append_left hk]; exact hwritten)).1
    omega

theorem Sound.createReader {s : Run} (hs : s.Sound) :
    ({ s with
      stream := s.stream.createReader.2
      readers := s.readers.insert s.stream.createReader.1
        { target := s.lastIdr.filter fun j => s.Stored j, delivered := [] } }).Sound := by
  obtain ⟨written, hpool, hlast, hreaders⟩ := hs
  refine ⟨written, hpool, hlast, ?_⟩
  intro handle r hr
  dsimp only [LiveFrames.createReader] at hr ⊢
  rw [Table.lookup_insert] at hr ⊢
  split at hr
  · rename_i hnew
    cases hr
    rw [if_pos hnew]
    refine ⟨s.stream.framePool.getReader, rfl, List.IsChain.nil, ?_, ?_⟩
    · intro a ha
      cases ha
    · intro _ j hj
      obtain ⟨hidr, hstored⟩ := Option.mem_filter_iff.mp hj
      exact ⟨(hlast j hidr).2, Stored.lt hpool (of_decide_eq_true hstored)⟩
  · rename_i hold
    rw [if_neg hold]
    exact hreaders handle r hr

theorem Sound.removeReader {s : Run} (hs : s.Sound) (handle : UInt32) :
    ({ s with
      stream := s.stream.removeReader handle
      readers := s.readers.erase handle }).Sound := by
  obtain ⟨written, hpool, hlast, hreaders⟩ := hs
  refine ⟨written, hpool, hlast, ?_⟩
  intro handle' r hr
  dsimp only [LiveFrames.removeReader] at hr ⊢
  rw [Table.lookup_erase] at hr ⊢
  split at hr
  · cases hr
  · rename_i hne
    rw [if_neg hne]
    exact hreaders handle' r hr

/-- What a read does to a run: nothing, or it takes the reader one slot on and adds the
frame to its history. -/
theorem Sound.getNextFrame_cases {s s' : Run} (hs : s.Sound) {handle : UInt32}
    (hstep : step s (.getNextFrame handle) = some s') :
    s' = s ∨ ∃ pos frame, s.stream.mReaderMap.lookup handle = some pos ∧
      s.stream.framePool.queue.getNextByHanlde pos = some frame ∧ frame.nalu.isSome ∧
      s' =
        { s with
          stream :=
            { s.stream with
              mReaderMap := s.stream.mReaderMap.insert handle
                ((pos + 1) % s.stream.framePool.queue.maxSize) }
          readers :=
            match s.readers.lookup handle with
            | some r => s.readers.insert handle { r with delivered := r.delivered ++ [frame.seq] }
            | none => s.readers } := by
  obtain ⟨written, -, -, hreaders⟩ := hs
  cases hentry : s.stream.mReaderMap.lookup handle with
  | none =>
      left
      -- the handle is in neither table
      have hsame := getNextFrame_of_unknown hentry
      cases hr : s.readers.lookup handle with
      | none =>
          rw [step, hr, hsame] at hstep
          split at hstep
          · rename_i hnone
            cases hnone
          · cases hstep
            rfl
      | some r =>
          obtain ⟨pos, hpos, -⟩ := hreaders handle r hr
          rw [hentry] at hpos
          cases hpos
  | some pos =>
      rcases LiveFrames.getNextFrame_cases hentry with
        ⟨hnone, hsame, -⟩ | ⟨frame, hnext, hnalu, hdelivered, hafter⟩
      · left
        rw [step, hnone, hsame] at hstep
        cases hstep
        rfl
      · right
        refine ⟨pos, frame, rfl, hnext, hnalu, ?_⟩
        rw [step, hdelivered, hafter] at hstep
        cases hr : s.readers.lookup handle with
        | none =>
            rw [hr] at hstep
            cases hstep
            rfl
        | some r =>
            rw [hr] at hstep
            cases hstep
            rfl

theorem Sound.getNextFrame {s s' : Run} (hs : s.Sound) {handle : UInt32}
    (hstep : step s (.getNextFrame handle) = some s') : s'.Sound := by
  rcases hs.getNextFrame_cases hstep with rfl | ⟨pos, frame, hentry, hnext, hnalu, rfl⟩
  · exact hs
  obtain ⟨written, hpool, hlast, hreaders⟩ := hs
  refine ⟨written, hpool, hlast, ?_⟩
  intro handle' r' hr'
  dsimp only at hr' ⊢
  cases hr : s.readers.lookup handle with
  | none =>
      rw [hr] at hr'
      rw [Table.lookup_insert, if_neg (by rintro rfl; rw [hr] at hr'; cases hr')]
      exact hreaders handle' r' hr'
  | some r =>
      rw [hr] at hr'
      dsimp only at hr'
      rw [Table.lookup_insert] at hr' ⊢
      split at hr'
      · rename_i hhandle
        cases hr'
        rw [if_pos hhandle]
        obtain ⟨pos', hpos', hfollows⟩ := hreaders handle r hr
        rw [hentry, Option.some.injEq] at hpos'
        subst hpos'
        exact ⟨_, rfl, hfollows.deliver hpool hnext hnalu⟩
      · rename_i hhandle
        rw [if_neg hhandle]
        exact hreaders handle' r' hr'

theorem sound_step ⦃s : Run⦄ ⦃e : Event⦄ ⦃s' : Run⦄ (hs : s.Sound) (hstep : step s e = some s') :
    s'.Sound := by
  cases e with
  | pushAccessUnit nalu bytes idr =>
      cases hstep
      refine hs.push (s.stream.framePool.pushAccessUnit nalu bytes idr) rfl rfl rfl ?_
      cases idr with
      | false => exact .inl ⟨rfl, rfl⟩
      | true => exact .inr ⟨rfl, rfl⟩
  | pushNalu nalu bytes count idr =>
      cases hstep
      exact hs.push (s.stream.framePool.pushNalu nalu bytes count idr) rfl rfl rfl
        (.inl ⟨rfl, rfl⟩)
  | createReader =>
      cases hstep
      exact hs.createReader
  | removeReader handle =>
      cases hstep
      exact hs.removeReader handle
  | getNextFrame handle => exact hs.getNextFrame hstep

/-! ### Frames come in order -/

/-- The numbers of the frames that a reader got are strictly increasing. -/
def InOrder (s : Run) : Prop :=
  ∀ handle r, s.readers.lookup handle = some r → r.delivered.Pairwise (· < ·)

theorem Sound.inOrder {s : Run} (hs : s.Sound) : s.InOrder := by
  obtain ⟨written, -, -, hreaders⟩ := hs
  intro handle r hr
  obtain ⟨pos, -, hfollows⟩ := hreaders handle r hr
  exact List.isChain_iff_pairwise.mp hfollows.ordered

/-- Whatever the order of pushes and reads, a reader gets the frames in the order in
which they were pushed, and none of them twice. -/
theorem delivered_inOrder (length : Nat) (allocated : Bool) (garbage : PoolGarbage)
    (handler : UInt32) (events : List Event) :
    Lts.Along step InOrder (start length allocated garbage handler) events :=
  (Lts.Preserves.along (fun _ _ _ hs _ hstep => sound_step hs hstep)
    (sound_start length allocated garbage handler)
    (Lts.guarded_of_forall (g := fun _ _ => True) (fun _ _ => trivial) _ _)).mono
    fun _ hs => hs.inOrder

/-! ### Where a new reader starts -/

/-- A reader that was created while the last key frame was in the ring gets that frame
first. -/
def StartsOnIdr (s : Run) : Prop :=
  ∀ handle r, s.readers.lookup handle = some r → ∀ j ∈ r.target, ∀ k ∈ r.delivered.head?, k = j

/-- The frame with number `j` is in a slot of the ring other than the one that is written
next. -/
def Readable (s : Run) (j : Nat) : Prop :=
  ∃ pos < s.stream.framePool.queue.maxSize, pos ≠ s.stream.framePool.queue.write ∧
    ∃ frame ∈ s.stream.framePool.queue.mVector[pos]?, frame.nalu.isSome ∧ frame.seq = j

instance (s : Run) (j : Nat) : Decidable (s.Readable j) :=
  inferInstanceAs (Decidable (∃ pos < s.stream.framePool.queue.maxSize, _ ∧ _))

/-- The first read of a reader with new frames finds its key frame in the ring, and that
frame is one of the first that filled the ring. -/
def StartsInTime (s : Run) : Event → Prop
  | .getNextFrame handle =>
      s.stream.getReadPos handle ≠ s.stream.framePool.queue.write →
        ∀ r ∈ s.readers.lookup handle, r.delivered = [] →
          ∀ j ∈ r.target, j < s.stream.framePool.queue.maxSize ∧ s.Readable j
  | _ => True

instance (s : Run) : ∀ e, Decidable (s.StartsInTime e)
  | .getNextFrame handle =>
      inferInstanceAs (Decidable (_ → ∀ r ∈ s.readers.lookup handle, _ → ∀ j ∈ r.target, _))
  | .pushAccessUnit _ _ _ | .pushNalu _ _ _ _ | .createReader | .removeReader _ => isTrue trivial

theorem Readable.lap {s : Run} {written : List VFrame}
    (hpool : s.stream.framePool.Numbered written) {j : Nat} (h : s.Readable j) :
    j < written.length ∧ written.length < j + s.stream.framePool.queue.maxSize := by
  obtain ⟨pos, hpos, hwrite, frame, hframe, hnalu, rfl⟩ := h
  have hslot : s.stream.framePool.queue.mVector[pos]? = some frame := hframe
  rw [hpool.holds.slots pos hpos, Option.some.injEq] at hslot
  have hnext : s.stream.framePool.queue.getNextByHanlde pos = some frame := by
    rw [UnLockQueue.getNextByHanlde, hpool.holds.frontAt_eq, if_pos ⟨hpos, hwrite⟩, hslot]
  obtain ⟨hwritten, -, hlap⟩ := hpool.getNextByHanlde hnext hnalu
  exact ⟨(List.getElem?_eq_some_iff.mp hwritten).1, hlap⟩

theorem recordedPos_eq_iff {m j : Nat} (hm : 2 ≤ m) : recordedPos m j = j % m ↔ j < m := by
  rw [recordedPos]
  split
  · rename_i hj
    exact ⟨fun _ => hj, fun _ => rfl⟩
  · rename_i hj
    refine ⟨fun h => ?_, fun h => absurd h hj⟩
    have heq := (Ring.mod_eq_mod_iff (m := m) (a := j - 1) (b := j) (by omega) (by omega)).mp h.symm
    omega

theorem recordedPos_le (m j : Nat) : recordedPos m j ≤ j := by
  rw [recordedPos]
  split
  · exact Nat.mod_le j m
  · exact Nat.le_trans (Nat.mod_le (j - 1) m) (Nat.sub_le j 1)

/-- A reader that has not read yet gets its key frame just when that frame is in time. -/
theorem first_frame {s : Run} {written : List VFrame}
    (hpool : s.stream.framePool.Numbered written) {r : Reader} {pos j : Nat} {frame : VFrame}
    (hfollows : Follows s.stream.framePool written r pos) (hfirst : r.delivered = [])
    (hj : j ∈ r.target) (hnext : s.stream.framePool.queue.getNextByHanlde pos = some frame)
    (hnalu : frame.nalu.isSome) :
    frame.seq = j ↔ j < s.stream.framePool.queue.maxSize ∧ s.Readable j := by
  obtain ⟨hwritten, hslot, hlap⟩ := hpool.getNextByHanlde hnext hnalu
  obtain ⟨hpos, hlt⟩ := hfollows.fresh hfirst j hj
  have hseq : frame.seq < written.length := (List.getElem?_eq_some_iff.mp hwritten).1
  constructor
  · rintro rfl
    refine ⟨(recordedPos_eq_iff hpool.holds.size).mp (hpos.symm.trans hslot.symm), pos, ?_⟩
    rw [UnLockQueue.getNextByHanlde, hpool.holds.frontAt_eq] at hnext
    split at hnext
    · rename_i hboth
      refine ⟨hboth.1, hboth.2, frame, ?_, hnalu, rfl⟩
      rw [hpool.holds.slots pos hboth.1]
      exact hnext
    · cases hnext
  · rintro ⟨hearly, hreadable⟩
    obtain ⟨hstored, hlapj⟩ := hreadable.lap hpool
    rw [(recordedPos_eq_iff hpool.holds.size).mpr hearly] at hpos
    exact Ring.same_lap (hslot.trans hpos) hseq hstored hlap hlapj

/-- A reader with a target and a position other than the write position gets a frame. -/
theorem reads_frame {s : Run} {written : List VFrame}
    (hpool : s.stream.framePool.Numbered written) {r : Reader} {pos j : Nat}
    (hfollows : Follows s.stream.framePool written r pos) (hfirst : r.delivered = [])
    (hj : j ∈ r.target) (hwrite : pos ≠ s.stream.framePool.queue.write) :
    ∃ frame, s.stream.framePool.queue.getNextByHanlde pos = some frame ∧ frame.nalu.isSome := by
  obtain ⟨hpos, hlt⟩ := hfollows.fresh hfirst j hj
  have hbound : pos < s.stream.framePool.queue.maxSize :=
    hpos ▸ Nat.mod_lt _ hpool.holds.pos
  refine ⟨_, by rw [UnLockQueue.getNextByHanlde, hpool.holds.frontAt_eq, if_pos ⟨hbound, hwrite⟩],
    ?_⟩
  rcases Ring.slot_cases written hbound with ⟨hnone, -⟩ | ⟨k, -, -, hk⟩
  · have hle := recordedPos_le s.stream.framePool.queue.maxSize j
    omega
  · have hklt : k < written.length := (List.getElem?_eq_some_iff.mp hk).1
    exact (hpool.frame (by rw [List.getElem?_append_left hklt]; exact hk)).2

theorem preserves_startsOnIdr :
    Lts.Preserves step StartsInTime fun s => s.Sound ∧ s.StartsOnIdr := by
  intro s e s' hs hguard hstep
  refine ⟨sound_step hs.1 hstep, ?_⟩
  obtain ⟨hsound, hstarts⟩ := hs
  cases e with
  | pushAccessUnit nalu bytes idr =>
      cases hstep
      exact hstarts
  | pushNalu nalu bytes count idr =>
      cases hstep
      exact hstarts
  | createReader =>
      cases hstep
      intro handle r hr j hj k hk
      dsimp only at hr
      rw [Table.lookup_insert] at hr
      split at hr
      · cases hr
        cases hk
      · exact hstarts handle r hr j hj k hk
  | removeReader handle' =>
      cases hstep
      intro handle r hr
      dsimp only at hr
      rw [Table.lookup_erase] at hr
      split at hr
      · cases hr
      · exact hstarts handle r hr
  | getNextFrame handle' =>
      rcases hsound.getNextFrame_cases hstep with rfl | ⟨pos, frame, hentry, hnext, hnalu, rfl⟩
      · exact hstarts
      intro handle r hr j hj k hk
      dsimp only at hr
      cases hr' : s.readers.lookup handle' with
      | none =>
          rw [hr'] at hr
          exact hstarts handle r hr j hj k hk
      | some r' =>
          rw [hr'] at hr
          dsimp only at hr
          rw [Table.lookup_insert] at hr
          split at hr
          · cases hr
            cases hdelivered : r'.delivered with
            | nil =>
                -- this is the first frame of the reader
                rw [hdelivered] at hk
                cases hk
                obtain ⟨written, hpool, -, hreaders⟩ := hsound
                obtain ⟨pos', hpos', hfollows⟩ := hreaders handle' r' hr'
                rw [hentry, Option.some.injEq] at hpos'
                subst hpos'
                -- and the step condition puts its position on the key frame
                refine (first_frame hpool hfollows hdelivered hj hnext hnalu).mpr
                  (hguard ?_ r' hr' hdelivered j hj)
                rw [getReadPos_of_lookup hentry]
                rw [UnLockQueue.getNextByHanlde, hpool.holds.frontAt_eq] at hnext
                split at hnext
                · rename_i hboth
                  exact fun heq => hboth.2 (Int.ofNat.inj heq)
                · cases hnext
            | cons a as =>
                rw [hdelivered] at hk
                exact hstarts handle' r' hr' j hj k (by rw [hdelivered]; exact hk)
          · exact hstarts handle r hr j hj k hk

/-- A first read outside the condition gives the reader another frame. -/
theorem Sound.startsInTime {s s' : Run} {e : Event} (hs : s.Sound) (hstep : step s e = some s')
    (hstarts : s'.StartsOnIdr) : s.StartsInTime e := by
  cases e with
  | getNextFrame handle =>
      intro hwrite r hr hfirst j hj
      obtain ⟨written, hpool, -, hreaders⟩ := id hs
      obtain ⟨pos, hentry, hfollows⟩ := hreaders handle r hr
      rw [getReadPos_of_lookup hentry] at hwrite
      have hne : pos ≠ s.stream.framePool.queue.write := fun heq => hwrite (by rw [heq])
      obtain ⟨frame, hnext, hnalu⟩ := reads_frame hpool hfollows hfirst hj hne
      refine (first_frame hpool hfollows hfirst hj hnext hnalu).mp ?_
      -- the reader is behind the writer, so this read does deliver the frame
      rcases LiveFrames.getNextFrame_cases hentry with
        ⟨-, -, hwhy⟩ | ⟨frame', hnext', hnalu', hdelivered, hafter⟩
      · rcases hwhy with heq | hnull
        · exact absurd heq hne
        · rw [hnull frame hnext] at hnalu
          cases hnalu
      · rw [hnext, Option.some.injEq] at hnext'
        subst hnext'
        rw [step, hdelivered, show s.readers.lookup handle = some r from hr] at hstep
        cases hstep
        exact hstarts handle _ (AList.lookup_insert _) j hj frame.seq (by
          show frame.seq ∈ (r.delivered ++ [frame.seq]).head?
          rw [hfirst]
          rfl)
  | pushAccessUnit nalu bytes idr => trivial
  | pushNalu nalu bytes count idr => trivial
  | createReader => trivial
  | removeReader handle => trivial

/-- Readers start on the last key frame exactly while every reader that was created on a
key frame of the ring reads first as long as that frame is there, and the frame is one of
the first `MAX_SIZE` frames of the stream. -/
theorem starts_on_idr_iff (length : Nat) (allocated : Bool) (garbage : PoolGarbage)
    (handler : UInt32) (events : List Event) :
    Lts.Along step StartsOnIdr (start length allocated garbage handler) events ↔
      Lts.Guarded step StartsInTime (start length allocated garbage handler) events :=
  Lts.along_iff_guarded preserves_startsOnIdr
    (fun _ hs => hs.2) (fun _ _ _ hs hstep hstarts => hs.1.startsInTime hstep hstarts)
    ⟨sound_start length allocated garbage handler, by
      intro handle r hr
      rw [show (start length allocated garbage handler).readers = ∅ from rfl,
        AList.lookup_empty] at hr
      cases hr⟩

/-- The ring has been full when the only key frame of the stream comes, and the reader
starts on the frame before it. -/
theorem starts_before_idr :
    ∃ s, Lts.exec step (start 10485760 true default 0)
        ((List.range 128).map (fun i => .pushAccessUnit ⟨.buf, 5 * i⟩ 5 false) ++
          [.pushAccessUnit ⟨.buf, 640⟩ 5 true, .pushAccessUnit ⟨.buf, 645⟩ 5 false,
            .createReader, .getNextFrame 1]) = some s ∧ ¬ s.StartsOnIdr := by
  have hreader : (Lts.exec step (start 10485760 true default 0)
      ((List.range 128).map (fun i => .pushAccessUnit ⟨.buf, 5 * i⟩ 5 false) ++
        [.pushAccessUnit ⟨.buf, 640⟩ 5 true, .pushAccessUnit ⟨.buf, 645⟩ 5 false,
          .createReader, .getNextFrame 1])).bind (fun s => s.readers.lookup 1) =
        some { target := some 128, delivered := [127] } := by
    decide +kernel
  obtain ⟨s, hrun, hlookup⟩ := Option.bind_eq_some_iff.mp hreader
  exact ⟨s, hrun, fun h => absurd (h 1 _ hlookup 128 rfl 127 rfl) (by decide)⟩

end Run

end LiveFrames

end SignalingServer
