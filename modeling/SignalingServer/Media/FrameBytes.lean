import SignalingServer.Lib.Lts
import SignalingServer.Media.FrameMemPool

/-!
The bytes that the frames of a live stream point at. A frame in the queue is only an
address in the memory pool, and the pool goes back to its beginning when a buffer is
used up, whatever the queue still holds. The runs here take a call of `InputFrame`
apart into the copy of the data and the rounds of the loop behind it, so that a reader
can look at the queue between any two of them.
-/

namespace SignalingServer

namespace FrameMemPool

open VideoNalu

/-- A call of `InputFrame` that is past the copy. `data` is history: the data of the call,
which begins at the place `base` of the buffer. -/
structure Call where
  scan : Scan
  data : List UInt8
  base : Nat

/-- A pool in use, with the bytes that were pushed for each frame. -/
structure Writing where
  pool : FrameMemPool
  call : Option Call
  contents : List (List UInt8)

/-- A call of `InputFrame` up to its loop, or one round of that loop. -/
inductive WriterEvent
  | inputFrame (type : StreamCodec) (data : Option (List UInt8)) (gap : Int)
  | scan

namespace Writing

def start (length : Nat) (allocated : Bool) (garbage : PoolGarbage) : Writing where
  pool := .new length allocated garbage
  call := none
  contents := []

/-- `InputFrame` up to the loop of `Init264` or `Init265`. -/
def input (s : Writing) (type : StreamCodec) (data : Option (List UInt8)) (gap : Int) : Writing :=
  match (s.pool.setCodec type gap).mem.wirteData data with
  | none => { s with pool := s.pool.setCodec type gap }
  | some mem =>
      { s with
        pool := { s.pool.setCodec type gap with mem := mem }
        call :=
          match type, mem.readPtr with
          | .GB_CODEC_UNKNOWN, _ => none
          | _, none => none
          | _, some readPtr =>
              some
                { scan := { s.pool.setCodec type gap with mem := mem }.startScan readPtr
                  data := data.getD []
                  base := readPtr.pos } }

/-- One round of the loop, or the end of the call. The bytes between `nalu` and the next
NAL unit are pushed when the round pushes a frame. -/
def round (s : Writing) (c : Call) : Writing :=
  if c.scan.p < c.scan.stop then
    { pool := (s.pool.scan c.scan).1
      call := some { c with scan := (s.pool.scan c.scan).2 }
      contents :=
        if (s.pool.scan c.scan).1.pushed = s.pool.pushed then s.contents
        else
          s.contents ++
            [(c.data.drop (c.scan.nalu - c.base)).take
              ((s.pool.scan c.scan).2.p - c.scan.nalu)] }
  else { s with pool := s.pool.finish, call := none }

def step : Lts.Step Writing WriterEvent
  | s, .inputFrame type data gap =>
      match s.call with
      | none => some (s.input type data gap)
      | some _ => none
  | s, .scan => s.call.map s.round

/-- The frames that are stored: those in the slots of the ring other than the one that is
written next, and those in the overflow. -/
def stored (q : UnLockQueue VFrame) : List VFrame :=
  ((List.range q.maxSize).filter fun i => i ≠ q.write).filterMap (fun i => q.mVector[i]?) ++
    q.cacheQueue

/-- Every frame that `GetNextFrame` can deliver, at whatever position a reader stands,
points at the bytes that were pushed for it. -/
def Intact (s : Writing) : Prop :=
  ∀ pos frame ptr, s.pool.queue.getNextByHanlde pos = some frame → frame.nalu = some ptr →
    s.contents[frame.seq]? = some (s.pool.mem.read ptr frame.bytes)

/-- The copy of the data of a call puts no other value into a byte of a stored frame. -/
def SafeCopy (s : Writing) : WriterEvent → Prop
  | .inputFrame _ (some data) _ =>
      data.length ≤ s.pool.mem.bufSize → ∀ cur ∈ s.pool.mem.curBuf,
        ∀ frame ∈ stored s.pool.queue, ∀ ptr ∈ frame.nalu,
          ptr.half = (s.pool.mem.place cur data.length).1 → ∀ i < frame.bytes,
            (s.pool.mem.place cur data.length).2.wPos ≤ ptr.pos + i →
              ∀ b ∈ data[ptr.pos + i - (s.pool.mem.place cur data.length).2.wPos]?,
                b = s.pool.mem.bytes ptr.half (ptr.pos + i)
  | _ => True

instance (s : Writing) : ∀ e, Decidable (s.SafeCopy e)
  | .inputFrame _ (some data) _ =>
      inferInstanceAs (Decidable (data.length ≤ s.pool.mem.bufSize →
        ∀ cur ∈ s.pool.mem.curBuf, ∀ frame ∈ stored s.pool.queue, ∀ ptr ∈ frame.nalu, _ →
          ∀ i < frame.bytes, _ → ∀ b ∈ data[_]?, _))
  | .inputFrame _ none _ | .scan => isTrue trivial

/-! ### The invariant -/

/-- The local variables of a call lie within the data that was copied, and the data is
there. -/
structure Reading (pool : FrameMemPool) (c : Call) : Prop where
  codec : pool.frameType ≠ .GB_CODEC_UNKNOWN
  base : c.base ≤ c.scan.nalu
  nalu : c.scan.nalu ≤ c.scan.p
  p : c.scan.p ≤ c.scan.stop
  room : c.scan.p < c.scan.stop → c.scan.p + 4 ≤ c.scan.stop
  stop : c.scan.stop = c.base + c.data.length
  copied : ∀ off size, off + size ≤ c.data.length →
    pool.mem.read ⟨c.scan.half, c.base + off⟩ size = (c.data.drop off).take size

/-- The stored frames point at the bytes that were pushed for them. -/
structure Sound (s : Writing) (written : List VFrame) : Prop where
  numbered : s.pool.Numbered written
  count : s.contents.length = s.pool.pushed
  bytes : ∀ ⦃j : Nat⦄ ⦃frame : VFrame⦄,
    (written ++ s.pool.queue.cacheQueue)[j]? = some frame →
      written.length < j + s.pool.queue.maxSize → ∀ ptr ∈ frame.nalu,
        s.contents[j]? = some (s.pool.mem.read ptr frame.bytes)
  reading : ∀ c ∈ s.call, Reading s.pool c

theorem Sound.intact {s : Writing} {written : List VFrame} (hs : s.Sound written) : s.Intact := by
  intro pos frame ptr hnext hptr
  obtain ⟨hwritten, -, hlap⟩ :=
    hs.numbered.getNextByHanlde hnext (by rw [hptr]; rfl)
  have hlt : frame.seq < written.length := (List.getElem?_eq_some_iff.mp hwritten).1
  exact hs.bytes (by rw [List.getElem?_append_left hlt]; exact hwritten) hlap ptr hptr

theorem sound_start (length : Nat) (allocated : Bool) (garbage : PoolGarbage) :
    (start length allocated garbage).Sound [] where
  numbered := numbered_new length allocated garbage
  count := rfl
  bytes j frame h := by
    have hnone : ([] : List VFrame)[j]? = some frame := h
    cases hnone
  reading c hc := by cases hc

/-- A frame of the sequence that is less than a lap old is stored. -/
theorem mem_stored {pool : FrameMemPool} {written : List VFrame} (h : pool.Numbered written)
    {j : Nat} {frame : VFrame} (hframe : (written ++ pool.queue.cacheQueue)[j]? = some frame)
    (hlap : written.length < j + pool.queue.maxSize) : frame ∈ stored pool.queue := by
  rw [stored, List.mem_append]
  rw [List.getElem?_append] at hframe
  split at hframe
  · rename_i hj
    left
    rw [List.mem_filterMap]
    refine ⟨j % pool.queue.maxSize, ?_, ?_⟩
    · rw [List.mem_filter, List.mem_range]
      refine ⟨Nat.mod_lt _ h.holds.pos, decide_eq_true ?_⟩
      intro hwrite
      rw [h.holds.write] at hwrite
      have heq := (Ring.mod_eq_mod_iff (Nat.le_of_lt hj) hlap).mp hwrite.symm
      omega
    · rw [h.holds.getElem? hj (Nat.le_of_lt hlap)]
      exact hframe
  · exact .inr (List.mem_of_getElem? hframe)

/-! ### The copy -/

theorem read_copyData_of_safe {mem : AvMemPool} {cur : PoolHalf} {data : List UInt8}
    {ptr : PoolPtr} {size : Nat}
    (h : ptr.half = cur → ∀ i < size, mem.wPos ≤ ptr.pos + i →
      ∀ b ∈ data[ptr.pos + i - mem.wPos]?, b = mem.bytes ptr.half (ptr.pos + i)) :
    (mem.copyData cur data).read ptr size = mem.read ptr size := by
  rw [AvMemPool.read_eq_iff]
  intro i hi
  show (if ptr.half = cur ∧ mem.wPos ≤ ptr.pos + i then
    (data[ptr.pos + i - mem.wPos]?).getD (mem.bytes ptr.half (ptr.pos + i)) else _) = _
  split
  · rename_i hregion
    cases hdata : data[ptr.pos + i - mem.wPos]? with
    | none => rfl
    | some b => exact h hregion.1 i hi hregion.2 b hdata
  · rfl

/-- A write that is safe for the stored frames leaves their bytes as they were. -/
theorem read_wirteData_of_safe {s : Writing} {type : StreamCodec} {data : Option (List UInt8)}
    {gap : Int} {mem : AvMemPool} (hsafe : s.SafeCopy (.inputFrame type data gap))
    (hwrite : s.pool.mem.wirteData data = some mem) {frame : VFrame}
    (hframe : frame ∈ stored s.pool.queue) {ptr : PoolPtr} (hptr : ptr ∈ frame.nalu) :
    mem.read ptr frame.bytes = s.pool.mem.read ptr frame.bytes := by
  cases data with
  | none => cases hwrite
  | some data =>
      rw [AvMemPool.wirteData] at hwrite
      split at hwrite
      · cases hwrite
      · rename_i hsize
        cases hcur : s.pool.mem.curBuf with
        | none =>
            rw [hcur] at hwrite
            cases hwrite
        | some cur =>
            rw [hcur] at hwrite
            cases hwrite
            have hkept := hsafe (Nat.not_lt.mp hsize) cur hcur frame hframe ptr hptr
            rw [read_copyData_of_safe (by
              rw [AvMemPool.place_bytes]
              exact hkept)]
            rw [AvMemPool.read_eq_iff, AvMemPool.place_bytes]
            exact fun _ _ => rfl

/-- The local variables before the first round. -/
theorem reading_startScan {pool : FrameMemPool} {readPtr : PoolPtr} {data : List UInt8}
    (hcodec : pool.frameType ≠ .GB_CODEC_UNKNOWN) (hsize : pool.mem.readSize = data.length)
    (hread : ∀ off size, off + size ≤ data.length →
      pool.mem.read ⟨readPtr.half, readPtr.pos + off⟩ size = (data.drop off).take size) :
    Reading pool ⟨pool.startScan readPtr, data, readPtr.pos⟩ := by
  have hrange := searchStartCode_le (pool.mem.bytes readPtr.half)
    (Nat.le_add_right readPtr.pos pool.mem.readSize)
  refine ⟨hcodec, hrange.1, Nat.le_refl _, hrange.2, ?_, ?_, hread⟩
  · intro hlt
    have hroom := searchStartCode_add_lt hlt
    exact hroom
  · show readPtr.pos + pool.mem.readSize = _
    rw [hsize]

theorem reading_input {s : Writing} (hidle : s.call = none) (type : StreamCodec)
    (data : Option (List UInt8)) (gap : Int) :
    ∀ c ∈ (s.input type data gap).call, Reading (s.input type data gap).pool c := by
  intro c hc
  unfold Writing.input at hc ⊢
  cases hwrite : (s.pool.setCodec type gap).mem.wirteData data with
  | none =>
      rw [hwrite] at hc
      rw [show s.call = some c from hc] at hidle
      cases hidle
  | some mem =>
      rw [hwrite] at hc
      cases data with
      | none => cases hwrite
      | some data =>
          obtain ⟨readPtr, hreadPtr, hsize, hread⟩ := AvMemPool.read_wirteData hwrite
          dsimp only at hc ⊢
          rw [hreadPtr] at hc
          cases type with
          | GB_CODEC_UNKNOWN => cases hc
          | GB_CODEC_H264 =>
              cases hc
              exact reading_startScan (by rintro ⟨⟩) hsize hread
          | GB_CODEC_H265 =>
              cases hc
              exact reading_startScan (by rintro ⟨⟩) hsize hread

theorem Sound.input {s : Writing} {written : List VFrame} (hs : s.Sound written)
    (hidle : s.call = none) {type : StreamCodec} {data : Option (List UInt8)} {gap : Int}
    (hsafe : s.SafeCopy (.inputFrame type data gap)) : (s.input type data gap).Sound written := by
  have hreading := reading_input hidle type data gap
  unfold Writing.input at hreading ⊢
  cases hwrite : (s.pool.setCodec type gap).mem.wirteData data with
  | none =>
      rw [hwrite] at hreading
      exact ⟨⟨hs.numbered.holds, hs.numbered.length, hs.numbered.count, hs.numbered.frame⟩,
        hs.count, hs.bytes, hreading⟩
  | some mem =>
      rw [hwrite] at hreading
      refine ⟨⟨hs.numbered.holds, hs.numbered.length, hs.numbered.count, hs.numbered.frame⟩,
        hs.count, ?_, hreading⟩
      intro j frame hframe hlap ptr hptr
      dsimp only
      rw [read_wirteData_of_safe hsafe hwrite (mem_stored hs.numbered hframe hlap) hptr]
      exact hs.bytes hframe hlap ptr hptr

/-! ### The rounds of the loop -/

theorem finish_eq (pool : FrameMemPool) :
    ∃ mem, pool.finish = { pool with mem := mem } ∧ mem.bytes = pool.mem.bytes := by
  rw [FrameMemPool.finish]
  split
  · exact ⟨_, rfl, rfl⟩
  · exact ⟨pool.mem, rfl, rfl⟩
  · exact ⟨pool.mem, rfl, rfl⟩

theorem Sound.finish {s : Writing} {written : List VFrame} (hs : s.Sound written) :
    ({ s with pool := s.pool.finish, call := none }).Sound written := by
  obtain ⟨mem, hfinish, hbytes⟩ := finish_eq s.pool
  rw [hfinish]
  refine ⟨⟨hs.numbered.holds, hs.numbered.length, hs.numbered.count, hs.numbered.frame⟩,
    hs.count, ?_, ?_⟩
  · intro j frame hframe hlap ptr hptr
    have hread : mem.read ptr frame.bytes = s.pool.mem.read ptr frame.bytes := by
      rw [AvMemPool.read_eq_iff, hbytes]
      exact fun _ _ => rfl
    show s.contents[j]? = some (mem.read ptr frame.bytes)
    rw [hread]
    exact hs.bytes hframe hlap ptr hptr
  · intro c hc
    cases hc

/-- A round keeps the local variables within the data. -/
theorem Reading.scan {pool : FrameMemPool} {c : Call} (h : Reading pool c)
    (hp : c.scan.p < c.scan.stop) :
    Reading (pool.scan c.scan).1 { c with scan := (pool.scan c.scan).2 } := by
  have hspec := scan_spec pool c.scan h.codec (h.room hp)
  obtain ⟨hsame, hhalf, hstop, hforward, hwithin, hroom, hround⟩ := hspec
  have hnalu := h.nalu
  have hbase := h.base
  refine ⟨?_, ?_, ?_, ?_, ?_, ?_, ?_⟩
  · rw [hsame.frameType]
    exact h.codec
  · show c.base ≤ (pool.scan c.scan).2.nalu
    cases hround with
    | pushed frame _ _ _ _ hnext =>
        rw [hnext]
        omega
    | skipped _ _ hnext =>
        rw [hnext]
        exact hbase
  · show (pool.scan c.scan).2.nalu ≤ (pool.scan c.scan).2.p
    cases hround with
    | pushed frame _ _ _ _ hnext => exact Nat.le_of_eq hnext
    | skipped _ _ hnext =>
        rw [hnext]
        omega
  · show (pool.scan c.scan).2.p ≤ (pool.scan c.scan).2.stop
    rw [hstop]
    exact hwithin
  · show (pool.scan c.scan).2.p < (pool.scan c.scan).2.stop → _ ≤ (pool.scan c.scan).2.stop
    rw [hstop]
    exact hroom
  · show (pool.scan c.scan).2.stop = _
    rw [hstop]
    exact h.stop
  · show ∀ off size, _ → (pool.scan c.scan).1.mem.read ⟨(pool.scan c.scan).2.half, _⟩ size = _
    rw [hsame.mem, hhalf]
    exact h.copied

theorem Sound.round {s : Writing} {written : List VFrame} (hs : s.Sound written) {c : Call}
    (hcall : s.call = some c) : ∃ written', (s.round c).Sound written' := by
  have hreading := hs.reading c hcall
  unfold Writing.round
  by_cases hp : c.scan.p < c.scan.stop
  · rw [if_pos hp]
    obtain ⟨hsame, hhalf, hstop, hforward, hwithin, hroom, hround⟩ :=
      scan_spec s.pool c.scan hreading.codec (hreading.room hp)
    have hnext := hreading.scan hp
    have hcount := hs.count
    cases hround with
    | skipped hqueue hpushed hnalu =>
        -- no NAL unit ended in this round: queue and contents stay
        rw [if_pos hpushed]
        refine ⟨written, ⟨?_, ?_, ?_, ?_⟩⟩
        · obtain ⟨hholds, hlength, hsum, hframe⟩ := hs.numbered
          rw [← hqueue, ← hpushed] at hholds hlength
          rw [← hqueue] at hsum hframe
          rw [← hpushed] at hsum
          exact ⟨hholds, hlength, hsum, hframe⟩
        · rw [hpushed]
          exact hcount
        · rw [hqueue, hsame.mem]
          exact hs.bytes
        · intro c' hc'
          cases hc'
          exact hnext
    | pushed frame hnalu hbytes hqueue hpushed hnextNalu =>
        rw [if_neg (by omega)]
        -- one frame more, numbered behind the last one
        obtain ⟨written', hnumbered, hsequence⟩ :=
          hs.numbered.push (by rw [hnalu]; rfl) hqueue hpushed
        have hmax : (s.pool.scan c.scan).1.queue.maxSize = s.pool.queue.maxSize := by
          rw [hqueue, UnLockQueue.push_maxSize]
        have hle := hs.numbered.length_le hnumbered hmax hpushed
        refine ⟨written', ⟨hnumbered, ?_, ?_, ?_⟩⟩
        · rw [List.length_append, hpushed, hcount]
          rfl
        · intro j f hf hlap ptr hptr
          dsimp only at hf hlap ⊢
          rw [hsequence] at hf
          rw [hmax] at hlap
          rw [hsame.mem]
          rcases Ring.getElem?_concat_cases hf with ⟨hj, hf⟩ | ⟨hj, rfl⟩
          · -- an older frame: its bytes are where they were
            rw [List.length_append, hs.numbered.count] at hj
            rw [List.getElem?_append_left (by omega)]
            exact hs.bytes hf (by omega) ptr hptr
          · -- the frame that this round has pushed
            rw [List.length_append, hs.numbered.count] at hj
            rw [show frame.nalu = some _ from hnalu] at hptr
            cases hptr
            have hbase := hreading.base
            have hbehind := hreading.nalu
            have hend := hreading.stop
            have hread := hreading.copied (c.scan.nalu - c.base)
              ((s.pool.scan c.scan).2.p - c.scan.nalu) (by omega)
            rw [Nat.add_sub_cancel' hbase] at hread
            rw [List.getElem?_append_right (by omega), show j - s.contents.length = 0 by omega,
              List.getElem?_cons_zero, ← hread]
            exact congrArg (fun n => some (s.pool.mem.read _ n)) hbytes.symm
        · intro c' hc'
          cases hc'
          exact hnext
  · rw [if_neg hp]
    exact ⟨written, hs.finish⟩

theorem preserves_sound : Lts.Preserves step SafeCopy fun s => ∃ written, s.Sound written := by
  rintro s e s' ⟨written, hs⟩ hsafe hstep
  cases e with
  | inputFrame type data gap =>
      rw [step] at hstep
      cases hcall : s.call with
      | none =>
          rw [hcall] at hstep
          cases hstep
          exact ⟨written, hs.input hcall hsafe⟩
      | some c =>
          rw [hcall] at hstep
          cases hstep
  | scan =>
      obtain ⟨c, hcall, hround⟩ := Option.map_eq_some_iff.mp hstep
      subst hround
      exact hs.round hcall

/-- In a run in which no copy puts another value into a byte of a stored frame, readers
find the bytes of every frame as they were pushed. -/
theorem intact_of_safeCopy (length : Nat) (allocated : Bool) (garbage : PoolGarbage)
    (events : List WriterEvent)
    (hsafe : Lts.Guarded step SafeCopy (start length allocated garbage) events) :
    Lts.Along step Intact (start length allocated garbage) events :=
  (preserves_sound.along ⟨[], sound_start length allocated garbage⟩ hsafe).mono
    fun _ ⟨_, hs⟩ => hs.intact

/-- Three small frames in a pool of eight bytes: each switches the buffer, and the third
puts the bytes of the first in their place again. -/
theorem intact_of_safeCopy_sample :
    Lts.Along step Intact (start 8 true default)
      [.inputFrame .GB_CODEC_H264 (some [0, 0, 1, 0x65, 0x88]) 40, .scan, .scan,
        .inputFrame .GB_CODEC_H264 (some [0, 0, 1, 0x41, 0x9a]) 40, .scan, .scan,
        .inputFrame .GB_CODEC_H264 (some [0, 0, 1, 0x65, 0x88]) 40, .scan, .scan] :=
  intact_of_safeCopy 8 true _ _ (by decide +kernel)

/-! ### The calls as a whole -/

/-- The rounds of a call come to the end of the loop, after no more of them than there are
bytes left. -/
theorem exec_scan (fuel : Nat) {pool : FrameMemPool} {c : Call} (contents : List (List UInt8))
    (h : Reading pool c) (hfuel : c.scan.stop ≤ c.scan.p + fuel) :
    ∃ k s', Lts.exec step ⟨pool, some c, contents⟩ (List.replicate k .scan) = some s' ∧
      s'.pool = (scanLoop fuel pool c.scan).1.finish ∧ s'.call = none := by
  -- every round but the last is one unit of the fuel
  induction fuel generalizing pool c contents with
  | zero =>
      have hdone : ¬ c.scan.p < c.scan.stop := by omega
      refine ⟨1, { pool := pool.finish, call := none, contents := contents }, ?_, rfl, rfl⟩
      show some (Writing.round ⟨pool, some c, contents⟩ c) = _
      rw [Writing.round, if_neg hdone]
  | succ fuel ih =>
      by_cases hp : c.scan.p < c.scan.stop
      · have hforward := (scan_spec pool c.scan h.codec (h.room hp)).forward
        have hstop := (scan_spec pool c.scan h.codec (h.room hp)).stop
        have hnext : (pool.scan c.scan).2.stop ≤ (pool.scan c.scan).2.p + fuel := by omega
        obtain ⟨k, s', hrun, hpool, hcall⟩ := ih
          (if (pool.scan c.scan).1.pushed = pool.pushed then contents
            else contents ++ [(c.data.drop (c.scan.nalu - c.base)).take
              ((pool.scan c.scan).2.p - c.scan.nalu)]) (h.scan hp) hnext
        refine ⟨k + 1, s', ?_, ?_, hcall⟩
        · rw [List.replicate_succ, Lts.exec_cons]
          show (some (Writing.round ⟨pool, some c, contents⟩ c)).bind _ = _
          rw [Writing.round, if_pos hp]
          exact hrun
        · rw [scanLoop, if_pos hp]
          exact hpool
      · refine ⟨1, { pool := pool.finish, call := none, contents := contents }, ?_, ?_, rfl⟩
        · show some (Writing.round ⟨pool, some c, contents⟩ c) = _
          rw [Writing.round, if_neg hp]
        · rw [scanLoop, if_neg hp]

/-- A call of `InputFrame` is its copy and some rounds of its loop. -/
theorem exec_inputFrame {s : Writing} (hidle : s.call = none) (type : StreamCodec)
    (data : Option (List UInt8)) (gap : Int) :
    ∃ k s', Lts.exec step s (.inputFrame type data gap :: List.replicate k .scan) = some s' ∧
      s'.pool = (s.pool.inputFrame type data gap).2 ∧ s'.call = none := by
  have hstep : step s (.inputFrame type data gap) = some (s.input type data gap) := by
    rw [step, hidle]
  have hreading := reading_input hidle type data gap
  simp only [Lts.exec_cons, hstep, Option.bind_some]
  unfold Writing.input at hreading ⊢
  unfold inputFrame
  cases hwrite : (s.pool.setCodec type gap).mem.wirteData data with
  | none => exact ⟨0, _, rfl, rfl, hidle⟩
  | some mem =>
      rw [hwrite] at hreading
      cases data with
      | none => cases hwrite
      | some data =>
          obtain ⟨readPtr, hreadPtr, -, -⟩ := AvMemPool.read_wirteData hwrite
          dsimp only at hreading ⊢
          rw [hreadPtr] at hreading ⊢
          cases type with
          | GB_CODEC_UNKNOWN => exact ⟨0, _, rfl, rfl, rfl⟩
          | GB_CODEC_H264 | GB_CODEC_H265 =>
              dsimp only at hreading ⊢
              have hscan := hreading _ rfl
              obtain ⟨k, s', hrun, hpool, hcall⟩ := exec_scan mem.readSize s.contents hscan
                (Nat.add_le_add_right (Nat.le_trans hscan.base hscan.nalu) mem.readSize)
              refine ⟨k, s', hrun, ?_, hcall⟩
              rw [hpool, init]
              dsimp only [setCodec]
              rw [hreadPtr]

/-! ### A frame that is overwritten -/

/-- The pool behind the copy when the data goes to the beginning of the other buffer. -/
def switched (pool : FrameMemPool) (cur : PoolHalf) (data : List UInt8) : FrameMemPool :=
  { pool.setCodec .GB_CODEC_H264 40 with
    mem := (pool.mem.switchBuf cur).copyData cur.other data }

theorem input_of_switch {s : Writing} (cur : PoolHalf) {data : List UInt8}
    (hcur : s.pool.mem.curBuf = some cur) (hfits : data.length ≤ s.pool.mem.bufSize)
    (hfull : s.pool.mem.bufSize - s.pool.mem.wPos < data.length) :
    s.input .GB_CODEC_H264 (some data) 40 =
      { s with
        pool := switched s.pool cur data
        call := some ⟨(switched s.pool cur data).startScan ⟨cur.other, 0⟩, data, 0⟩ } := by
  have hwrite : (s.pool.setCodec .GB_CODEC_H264 40).mem.wirteData (some data) =
      some ((s.pool.mem.switchBuf cur).copyData cur.other data) := by
    show s.pool.mem.wirteData (some data) = _
    rw [AvMemPool.wirteData, if_neg (Nat.not_lt.mpr hfits)]
    simp only [hcur, AvMemPool.place, if_neg (Nat.not_le.mpr hfull)]
  unfold Writing.input
  rw [hwrite]
  rfl

/-- A call with data that contains no start code only fills the other buffer. -/
theorem exec_filler {s : Writing} (hidle : s.call = none) {cur : PoolHalf}
    (hcur : s.pool.mem.curBuf = some cur) (size : Nat) (hfits : size ≤ s.pool.mem.bufSize)
    (hfull : s.pool.mem.bufSize - s.pool.mem.wPos < size) :
    Lts.exec step s [.inputFrame .GB_CODEC_H264 (some (List.replicate size 0xFF)) 40, .scan] =
      some { s with
        pool := (switched s.pool cur (List.replicate size 0xFF)).finish
        call := none } := by
  have hlength : (List.replicate size (0xFF : UInt8)).length = size := List.length_replicate
  have hinput := input_of_switch cur hcur (hlength.symm ▸ hfits) (hlength.symm ▸ hfull)
  have hnone : ∀ q, 0 ≤ q → q < 0 + size →
      (switched s.pool cur (List.replicate size 0xFF)).mem.bytes cur.other q ≠ 0 := by
    intro q _ hq
    have hbyte : (List.replicate size (0xFF : UInt8))[q - 0]? = some 0xFF := by
      rw [List.getElem?_replicate, if_pos (by omega)]
    have hcopied : (switched s.pool cur (List.replicate size 0xFF)).mem.bytes cur.other q =
        ((List.replicate size (0xFF : UInt8))[q - 0]?).getD _ :=
      if_pos ⟨rfl, Nat.zero_le q⟩
    rw [hcopied, hbyte, Option.getD_some]
    decide
  have hdone : ((switched s.pool cur (List.replicate size 0xFF)).startScan ⟨cur.other, 0⟩).p =
      ((switched s.pool cur (List.replicate size 0xFF)).startScan ⟨cur.other, 0⟩).stop := by
    show searchStartCode _ 0 (0 + (List.replicate size (0xFF : UInt8)).length) = _
    rw [hlength, searchStartCode_eq_stop hnone]
    show 0 + size = 0 + (List.replicate size (0xFF : UInt8)).length
    rw [hlength]
  rw [Lts.exec_cons, step, hidle, Option.bind_some, hinput, Lts.exec_cons, step, Option.map_some,
    Option.bind_some, Lts.exec_nil, Writing.round, if_neg (by rw [hdone]; exact Nat.lt_irrefl _)]

/-- A small key frame, data that fills the other buffer, and a frame that is put over the key
frame while a reader can still get it. -/
theorem key_frame_overwritten :
    ∃ s, Lts.exec step (start 10485760 true default)
        [.inputFrame .GB_CODEC_H264 (some [0, 0, 1, 0x65, 0x88]) 40, .scan, .scan,
          .inputFrame .GB_CODEC_H264 (some (List.replicate 10485760 0xFF)) 40, .scan,
          .inputFrame .GB_CODEC_H264 (some [0, 0, 1, 0x41, 0x9a]) 40] = some s ∧
      ¬ s.Intact := by
  have hfirst : (Lts.exec step (start 10485760 true default)
      [.inputFrame .GB_CODEC_H264 (some [0, 0, 1, 0x65, 0x88]) 40, .scan, .scan]).map
        (fun s => ((s.pool.queue.getNextByHanlde 0, s.contents, s.call.isNone),
          (s.pool.mem.curBuf, s.pool.mem.bufSize, s.pool.mem.wPos))) =
      some ((some { nalu := some ⟨.buf, 0⟩, bytes := 5, idr := true },
        [[0, 0, 1, 0x65, 0x88]], true), (some .buf, 10485760, 5)) := by
    decide +kernel
  obtain ⟨s, hrun, hs⟩ := Option.map_eq_some_iff.mp hfirst
  simp only [Prod.mk.injEq, Option.isNone_iff_eq_none] at hs
  obtain ⟨⟨hnext, hcontents, hidle⟩, hcur, hsize, hpos⟩ := hs
  have hfiller := exec_filler hidle hcur 10485760 (by omega) (by omega)
  let t : Writing :=
    { s with
      pool := (switched s.pool .buf (List.replicate 10485760 0xFF)).finish
      call := none }
  have hfull : t.pool.mem.bufSize - t.pool.mem.wPos < [0, 0, 1, 0x41, (0x9a : UInt8)].length := by
    show s.pool.mem.bufSize - (0 + (List.replicate 10485760 (0xFF : UInt8)).length) < 5
    rw [List.length_replicate]
    omega
  have hinput := input_of_switch (s := t) .bm_ptr rfl
    (show [0, 0, 1, 0x41, (0x9a : UInt8)].length ≤ s.pool.mem.bufSize by rw [hsize]; decide) hfull
  refine ⟨t.input .GB_CODEC_H264 (some [0, 0, 1, 0x41, 0x9a]) 40, ?_, ?_⟩
  · rw [show ([.inputFrame .GB_CODEC_H264 (some [0, 0, 1, 0x65, 0x88]) 40, .scan, .scan,
          .inputFrame .GB_CODEC_H264 (some (List.replicate 10485760 0xFF)) 40, .scan,
          .inputFrame .GB_CODEC_H264 (some [0, 0, 1, 0x41, 0x9a]) 40] : List WriterEvent) =
        [.inputFrame .GB_CODEC_H264 (some [0, 0, 1, 0x65, 0x88]) 40, .scan, .scan] ++
          ([.inputFrame .GB_CODEC_H264 (some (List.replicate 10485760 0xFF)) 40, .scan] ++
            [.inputFrame .GB_CODEC_H264 (some [0, 0, 1, 0x41, 0x9a]) 40]) from rfl,
      Lts.exec_append, hrun, Option.bind_some, Lts.exec_append, hfiller, Option.bind_some]
    rfl
  · rw [hinput]
    intro hintact
    have hcontent := hintact 0 _ ⟨.buf, 0⟩ hnext rfl
    have hread := AvMemPool.read_copyData (t.pool.mem.switchBuf .bm_ptr) .buf
      [0, 0, 1, 0x41, 0x9a] 0 5 (by decide)
    have hpushed : s.contents[0]? = some [0, 0, 1, 0x65, 0x88] := by
      rw [hcontents]
      rfl
    have heq := hpushed.symm.trans (hcontent.trans (congrArg some hread))
    revert heq
    decide

end Writing

end FrameMemPool

end SignalingServer
