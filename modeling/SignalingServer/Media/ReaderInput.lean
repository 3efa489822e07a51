import SignalingServer.Media.FileReader

/-!
`Input` of the file readers: when a call ends, where it copies to, and what becomes of the two
halves of the memory.
-/

namespace SignalingServer

namespace FileReader

open VideoNalu

/-! ### The loops -/

/-- What a loop over the NAL units leaves as it is. -/
structure SameBuffers (r r' : FileReader) : Prop where
  m_ptr : r'.m_ptr = r.m_ptr
  bm_ptr : r'.bm_ptr = r.bm_ptr
  m_capacity : r'.m_capacity = r.m_capacity
  wPos : r'.wPos = r.wPos
  memory : r'.memory = r.memory
  blocks : r'.blocks = r.blocks
  copies : r'.copies = r.copies
  switches : r'.switches = r.switches

theorem SameBuffers.refl (r : FileReader) : SameBuffers r r :=
  ⟨rfl, rfl, rfl, rfl, rfl, rfl, rfl, rfl⟩

theorem SameBuffers.trans {r r' r'' : FileReader} (h : SameBuffers r r')
    (h' : SameBuffers r' r'') : SameBuffers r r'' :=
  ⟨h'.m_ptr.trans h.m_ptr, h'.bm_ptr.trans h.bm_ptr, h'.m_capacity.trans h.m_capacity,
    h'.wPos.trans h.wPos, h'.memory.trans h.memory, h'.blocks.trans h.blocks,
    h'.copies.trans h.copies, h'.switches.trans h.switches⟩

/-- A round goes on to the next NAL unit. -/
structure Forward (s s' : Scan) : Prop where
  stop : s'.stop = s.stop
  forward : s.p < s'.p
  room : s'.p < s'.stop → s'.p + 4 ≤ s'.stop

/-- What a round that is defined does, if it keeps `I`. -/
def Proceeds (I : FileReader → Scan → Prop) (r : FileReader) (s : Scan)
    (after : FileReader × Scan) : Prop :=
  Forward s after.2 ∧ SameBuffers r after.1 ∧ I after.1 after.2

section

variable {round : FileReader → Scan → Option (FileReader × Scan)} {I : FileReader → Scan → Prop}

/-- What every round keeps is kept by the loop. -/
theorem scanLoop_keeps
    (hround : ∀ r s, s.p + 4 ≤ s.stop → I r s → ∀ after ∈ round r s, Proceeds I r s after)
    {fuel : Nat} {r r' : FileReader} {s : Scan} (hI : I r s)
    (hroom : s.p < s.stop → s.p + 4 ≤ s.stop) (h : scanLoop round fuel r s = some r') :
    SameBuffers r r' ∧ ∃ s', I r' s' := by
  induction fuel generalizing r s with
  | zero =>
      rw [scanLoop] at h
      split at h
      · cases h
      · obtain rfl := Option.some.inj h
        exact ⟨.refl r, s, hI⟩
  | succ fuel ih =>
      rw [scanLoop] at h
      split at h
      · rename_i hmore
        obtain ⟨after, hafter, hrest⟩ := Option.bind_eq_some_iff.mp h
        obtain ⟨hforward, hsame, hI'⟩ := hround r s (hroom hmore) hI after hafter
        obtain ⟨hsame', hlast⟩ := ih hI' hforward.room hrest
        exact ⟨hsame.trans hsame', hlast⟩
      · obtain rfl := Option.some.inj h
        exact ⟨.refl r, s, hI⟩

/-- A loop whose rounds are defined ends, since they go forward. -/
theorem scanLoop_isSome
    (hround : ∀ r s, s.p + 4 ≤ s.stop → I r s → ∃ after ∈ round r s, Proceeds I r s after)
    (fuel : Nat) {r : FileReader} {s : Scan} (hI : I r s) (hfuel : s.stop ≤ s.p + fuel)
    (hroom : s.p < s.stop → s.p + 4 ≤ s.stop) : (scanLoop round fuel r s).isSome := by
  induction fuel generalizing r s with
  | zero =>
      rw [scanLoop, if_neg (by omega)]
      rfl
  | succ fuel ih =>
      rw [scanLoop]
      split
      · rename_i hmore
        obtain ⟨after, hafter, hforward, -, hI'⟩ := hround r s (hroom hmore) hI
        have hstop := hforward.stop
        have hless := hforward.forward
        rw [Option.mem_def.mp hafter, Option.bind_some]
        exact ih hI' (by omega) hforward.room
      · rfl

end

theorem startScan_room (r : FileReader) (block : Nat) {start stop : Nat} :
    (r.startScan block start stop).p < (r.startScan block start stop).stop →
      (r.startScan block start stop).p + 4 ≤ (r.startScan block start stop).stop :=
  searchStartCode_add_lt

theorem startScan_le (r : FileReader) (block : Nat) {start stop : Nat} (h : start ≤ stop) :
    start ≤ (r.startScan block start stop).p ∧ (r.startScan block start stop).p ≤ stop :=
  searchStartCode_le (r.memory block) h

/-! ### `Init` -/

/-- The read positions, which `Init` does not move. -/
structure SameReads (r r' : FileReader) : Prop where
  rPos : r'.rPos = r.rPos
  frPos : r'.frPos = r.frPos
  fwPos : r'.fwPos = r.fwPos

theorem SameReads.trans {r r' r'' : FileReader} (h : SameReads r r') (h' : SameReads r' r'') :
    SameReads r r'' :=
  ⟨h'.rPos.trans h.rPos, h'.frPos.trans h.frPos, h'.fwPos.trans h.fwPos⟩

theorem push_eq_some_iff {c : ReaderCodec} {r r' : FileReader} {frame : ReaderFrame} :
    r.push c frame = some r' ↔
      ∃ queue, r.queue.push c frame = some queue ∧ r' = { r with queue := queue } := by
  rw [push, Option.map_eq_some_iff]
  exact exists_congr fun queue => and_congr_right fun _ => eq_comm

/-- What holds of a reader in `Init`, which began with `old`. -/
structure Opening (c : ReaderCodec) (old r : FileReader) : Prop where
  reads : SameReads old r
  packed : r.queue.Packed c
  slots : c = .h265 → c.maxSize ≤ r.queue.m_videos.length

theorem round264_proceeds {old r : FileReader} {s : Scan} (h : s.p + 4 ≤ s.stop)
    (hopening : Opening .h264 old r) :
    Proceeds (fun r _ => Opening .h264 old r) r s (round264 r s) := by
  obtain ⟨hforward, -, hroom⟩ := next_nalu (r.memory s.block) h
  obtain ⟨hreads, hpacked, hslots⟩ := hopening
  unfold round264
  dsimp only
  split
  · exact ⟨⟨rfl, hforward, hroom⟩, ⟨rfl, rfl, rfl, rfl, rfl, rfl, rfl, rfl⟩,
      ⟨hreads.rPos, hreads.frPos, hreads.fwPos⟩, hpacked.push_back _,
        fun h => absurd h (by decide)⟩
  · split
    · exact ⟨⟨rfl, hforward, hroom⟩, ⟨rfl, rfl, rfl, rfl, rfl, rfl, rfl, rfl⟩,
        ⟨hreads.rPos, hreads.frPos, hreads.fwPos⟩, hpacked, hslots⟩
    · exact ⟨⟨rfl, hforward, hroom⟩, .refl r, hreads, hpacked, hslots⟩

/-- With its 300 slots `H265FileReader` has room for every frame. -/
theorem round265_proceeds {old r : FileReader} {s : Scan} (h : s.p + 4 ≤ s.stop)
    (hopening : Opening .h265 old r) :
    ∃ after ∈ round265 r s, Proceeds (fun r _ => Opening .h265 old r) r s after := by
  obtain ⟨hforward, -, hroom⟩ := next_nalu (r.memory s.block) h
  obtain ⟨hreads, hpacked, hslots⟩ := hopening
  obtain ⟨hsome, hspec⟩ := hpacked.push (n := 0)
    (frameAt .h265 r s (searchStartCode (r.memory s.block) (s.p + 4) s.stop))
  obtain ⟨queue, hqueue⟩ := Option.isSome_iff_exists.mp
    (hsome.mpr (ReaderQueue.takes_of_length (hslots rfl)))
  obtain ⟨hpacked', hlength, -⟩ := hspec queue hqueue
  have hslots' : ReaderCodec.h265 = .h265 → ReaderCodec.h265.maxSize ≤ queue.m_videos.length :=
    fun _ => hlength ▸ hslots rfl
  unfold round265
  dsimp only
  split
  · rw [(push_eq_some_iff (r := r.keepSet s _)).mpr ⟨queue, hqueue, rfl⟩]
    exact ⟨_, rfl, ⟨rfl, hforward, hroom⟩, ⟨rfl, rfl, rfl, rfl, rfl, rfl, rfl, rfl⟩,
      ⟨hreads.rPos, hreads.frPos, hreads.fwPos⟩, hpacked', hslots'⟩
  · rw [push_eq_some_iff.mpr ⟨queue, hqueue, rfl⟩]
    exact ⟨_, rfl, ⟨rfl, hforward, hroom⟩, ⟨rfl, rfl, rfl, rfl, rfl, rfl, rfl, rfl⟩,
      ⟨hreads.rPos, hreads.frPos, hreads.fwPos⟩, hpacked', hslots'⟩

/-- `Init` ends, and leaves the positions and the memory as they are. -/
theorem init_spec {c : ReaderCodec} {r : FileReader} (hopening : Opening c r r) (block : Nat) :
    ∃ r', r.init c block = some r' ∧ SameBuffers r r' ∧ Opening c r r' := by
  have hround : ∀ (round : FileReader → Scan → Option (FileReader × Scan)),
      (∀ r₁ s, s.p + 4 ≤ s.stop → Opening c r r₁ →
        ∃ after ∈ round r₁ s, Proceeds (fun r' _ => Opening c r r') r₁ s after) →
      ∃ r', scanLoop round r.m_capacity r (r.startScan block 0 r.m_capacity) = some r' ∧
        SameBuffers r r' ∧ Opening c r r' := by
    intro round hround
    obtain ⟨r', hloop⟩ := Option.isSome_iff_exists.mp (scanLoop_isSome hround r.m_capacity
      hopening (Nat.le_add_left r.m_capacity _) (r.startScan_room block))
    obtain ⟨hsame, -, hopening'⟩ := scanLoop_keeps
      (fun r₁ s h hI after hafter => by
        obtain ⟨after', hafter', hproceeds⟩ := hround r₁ s h hI
        obtain rfl := Option.some.inj (hafter.symm.trans hafter')
        exact hproceeds)
      hopening (r.startScan_room block) hloop
    exact ⟨r', hloop, hsame, hopening'⟩
  cases c with
  | h264 =>
      exact hround (fun r s => some (round264 r s)) fun r₁ s h hI =>
        ⟨_, rfl, round264_proceeds h hI⟩
  | h265 => exact hround round265 fun r₁ s h hI => round265_proceeds h hI

/-! ### `Init2` -/

/-- The bytes behind `nalu` are in the part of the memory that has not been read; `fwPos` was
`old` before the loop. -/
structure Unread (old : Nat) (r : FileReader) (s : Scan) : Prop where
  kept : r.fwPos = old ∨ r.fwPos = 0
  rPos : r.rPos ≤ r.wPos
  frPos : r.frPos ≤ r.fwPos
  nalu : s.nalu ≤ s.p
  rest : if r.fwPos ≠ 0 then r.frPos + (s.stop - s.nalu) ≤ r.fwPos
    else r.rPos + (s.stop - s.nalu) ≤ r.wPos

/-- The positions are moved over a frame. -/
theorem Unread.advance {old : Nat} {r : FileReader} {s : Scan} (h : Unread old r s) {pn : Nat}
    (hlow : s.nalu ≤ pn) (hhigh : pn ≤ s.stop) (s' : Scan) (hstop : s'.stop = s.stop)
    (hnalu : s'.nalu = pn) (hp : s'.p = pn) : Unread old (r.advance (pn - s.nalu)) s' := by
  obtain ⟨hkept, hread, hold, -, hrest⟩ := h
  unfold FileReader.advance
  split
  · rename_i hfw
    rw [if_pos hfw] at hrest
    split
    · -- the old half is read to its end, and with it the bytes of this call
      refine ⟨.inr rfl, hread, Nat.le_refl 0, by omega, ?_⟩
      rw [if_neg (fun h => h rfl)]
      dsimp only
      omega
    · refine ⟨hkept, hread, by dsimp only; omega, by omega, ?_⟩
      rw [if_pos hfw]
      dsimp only
      omega
  · rename_i hfw
    rw [if_neg hfw] at hrest
    refine ⟨hkept, by dsimp only; omega, hold, by omega, ?_⟩
    rw [if_neg hfw]
    dsimp only
    omega

/-- A NAL unit that ends a frame in `Init2`. -/
def endsFrame2 (c : ReaderCodec) (byte : Nat → UInt8) (p stop : Nat) : Bool :=
  nalType c byte p ≤ lastSlice c && h264NalNewAccess byte (searchStartCode byte (p + 4) stop) stop

/-- What a round of `Init2` leaves when it has pushed a frame. -/
def cut (r : FileReader) (s : Scan) (queue : ReaderQueue ReaderFrame) : FileReader × Scan :=
  let pn := searchStartCode (r.memory s.block) (s.p + 4) s.stop
  ({ r with spspps2 := r.spspps2 && r.m_sps.isEmpty, queue := queue }.advance (pn - s.nalu),
    { s with nalu := pn, p := pn, count := s.count + 1 })

theorem round2_of_ends {c : ReaderCodec} {r : FileReader} {s : Scan}
    (h : endsFrame2 c (r.memory s.block) s.p s.stop = true) :
    ∃ frame, round2 c r s = (r.queue.push c frame).map (cut r s) := by
  unfold endsFrame2 at h
  unfold round2
  dsimp only
  refine ⟨frameAt c r s (searchStartCode (r.memory s.block) (s.p + 4) s.stop), ?_⟩
  rw [if_pos h, push, Option.map_map]
  rfl

/-- At the other NAL units only `m_sps` can change. -/
theorem round2_of_not_ends {c : ReaderCodec} {r : FileReader} {s : Scan}
    (h : ¬ endsFrame2 c (r.memory s.block) s.p s.stop = true) :
    ∃ m_sps, round2 c r s = some ({ r with m_sps := m_sps },
      { s with p := searchStartCode (r.memory s.block) (s.p + 4) s.stop }) := by
  unfold endsFrame2 at h
  unfold round2
  dsimp only
  rw [if_neg h]
  split
  · exact ⟨_, rfl⟩
  · exact ⟨r.m_sps, rfl⟩

theorem sameBuffers_cut (r : FileReader) (s : Scan) (queue : ReaderQueue ReaderFrame) :
    SameBuffers r (cut r s queue).1 := by
  unfold cut advance
  dsimp only
  split
  · split
    · exact ⟨rfl, rfl, rfl, rfl, rfl, rfl, rfl, rfl⟩
    · exact ⟨rfl, rfl, rfl, rfl, rfl, rfl, rfl, rfl⟩
  · exact ⟨rfl, rfl, rfl, rfl, rfl, rfl, rfl, rfl⟩

theorem cut_queue (r : FileReader) (s : Scan) (queue : ReaderQueue ReaderFrame) :
    (cut r s queue).1.queue = queue := by
  unfold cut advance
  dsimp only
  split
  · split
    · rfl
    · rfl
  · rfl

theorem round2_proceeds {c : ReaderCodec} {old : Nat} {r : FileReader} {s : Scan}
    (hp : s.p + 4 ≤ s.stop) (h : Unread old r s) :
    ∀ after ∈ round2 c r s, Proceeds (Unread old) r s after := by
  obtain ⟨hforward, hwithin, hroom⟩ := next_nalu (r.memory s.block) hp
  have hlow := h.nalu
  intro after hafter
  by_cases hends : endsFrame2 c (r.memory s.block) s.p s.stop = true
  · -- the frame from `nalu` to the next NAL unit has been read
    obtain ⟨frame, hround⟩ := round2_of_ends hends
    rw [hround] at hafter
    obtain ⟨queue, -, rfl⟩ := Option.map_eq_some_iff.mp hafter
    have hpushed : Unread old { r with
        spspps2 := r.spspps2 && r.m_sps.isEmpty, queue := queue } s :=
      ⟨h.kept, h.rPos, h.frPos, h.nalu, h.rest⟩
    exact ⟨⟨rfl, hforward, hroom⟩, sameBuffers_cut r s queue,
      hpushed.advance (by omega) hwithin _ rfl rfl rfl⟩
  · obtain ⟨m_sps, hround⟩ := round2_of_not_ends hends
    rw [hround] at hafter
    obtain rfl := Option.some.inj hafter
    exact ⟨⟨rfl, hforward, hroom⟩, ⟨rfl, rfl, rfl, rfl, rfl, rfl, rfl, rfl⟩,
      ⟨h.kept, h.rPos, h.frPos, Nat.le_trans hlow (Nat.le_of_lt hforward), h.rest⟩⟩

/-- The number of frames that end at or behind the NAL unit at `p`. -/
def frameEnds (c : ReaderCodec) (byte : Nat → UInt8) (stop : Nat) : Nat → Nat → Nat
  | 0, _ => 0
  | fuel + 1, p =>
      if p < stop then
        frameEnds c byte stop fuel (searchStartCode byte (p + 4) stop) +
          if endsFrame2 c byte p stop then 1 else 0
      else 0

/-- The number of frames in the bytes from `start` up to `stop`. -/
def frameCount (c : ReaderCodec) (byte : Nat → UInt8) (start stop : Nat) : Nat :=
  frameEnds c byte stop (stop - start) (searchStartCode byte start stop)

/-- The loop of `Init2` pushes a frame at each of the ends. -/
theorem scanLoop_round2_queue (c : ReaderCodec) (fuel : Nat) {r : FileReader} {s : Scan}
    (hfuel : s.stop ≤ s.p + fuel) (hroom : s.p < s.stop → s.p + 4 ≤ s.stop) :
    ∃ frames : List ReaderFrame,
      frames.length = frameEnds c (r.memory s.block) s.stop fuel s.p ∧
        (scanLoop (round2 c) fuel r s).map (·.queue) =
          frames.foldlM (ReaderQueue.push c) r.queue := by
  induction fuel generalizing r s with
  | zero =>
      refine ⟨[], rfl, ?_⟩
      rw [scanLoop, if_neg (by omega)]
      rfl
  | succ fuel ih =>
      rw [scanLoop, frameEnds]
      split
      · rename_i hmore
        obtain ⟨hforward, -, hroom'⟩ := next_nalu (r.memory s.block) (hroom hmore)
        by_cases hends : endsFrame2 c (r.memory s.block) s.p s.stop = true
        · obtain ⟨frame, hround⟩ := round2_of_ends hends
          rw [hround, if_pos hends]
          cases hpush : r.queue.push c frame with
          | none =>
              refine ⟨List.replicate _ frame, List.length_replicate, ?_⟩
              rw [List.replicate_succ, List.foldlM_cons, hpush]
              rfl
          | some queue =>
              obtain ⟨frames, hlength, hqueue⟩ := ih (r := (cut r s queue).1)
                (s := (cut r s queue).2)
                (by show s.stop ≤ searchStartCode _ _ _ + fuel; omega) hroom'
              rw [(sameBuffers_cut r s queue).memory] at hlength
              rw [cut_queue] at hqueue
              refine ⟨frame :: frames, congrArg (· + 1) hlength, ?_⟩
              rw [List.foldlM_cons, hpush]
              exact hqueue
        · obtain ⟨m_sps, hround⟩ := round2_of_not_ends hends
          obtain ⟨frames, hlength, hqueue⟩ := ih (r := { r with m_sps := m_sps })
            (s := { s with p := searchStartCode (r.memory s.block) (s.p + 4) s.stop })
            (by dsimp only; omega) hroom'
          rw [hround, if_neg hends]
          exact ⟨frames, hlength, hqueue⟩
      · exact ⟨[], rfl, rfl⟩

/-- `Init2` ends exactly where the queue takes the frames, and reads no more than what is
there. -/
theorem init2_spec {c : ReaderCodec} {r : FileReader} {oneFrame : BlockPtr} {oneFrameSize : Nat}
    (hread : r.rPos ≤ r.wPos) (hold : r.frPos ≤ r.fwPos) (hpacked : r.queue.Packed c)
    (hpart : r.nextPart = some (oneFrame, oneFrameSize)) :
    ((r.init2 c oneFrame oneFrameSize).isSome ↔ r.queue.Takes c
      (frameCount c (r.memory oneFrame.block) oneFrame.pos (oneFrame.pos + oneFrameSize))) ∧
    ∀ r', r.init2 c oneFrame oneFrameSize = some r' → SameBuffers r r' ∧ r'.queue.Packed c ∧
      r'.rPos ≤ r'.wPos ∧ r'.frPos ≤ r'.fwPos ∧ (r'.fwPos = r.fwPos ∨ r'.fwPos = 0) := by
  have hstart := r.startScan_le oneFrame.block (Nat.le_add_right oneFrame.pos oneFrameSize)
  have hunread : Unread r.fwPos r (r.startScan oneFrame.block oneFrame.pos
      (oneFrame.pos + oneFrameSize)) := by
    refine ⟨.inl rfl, hread, hold, Nat.le_refl _, ?_⟩
    have hsize : (r.startScan oneFrame.block oneFrame.pos (oneFrame.pos + oneFrameSize)).stop -
        (r.startScan oneFrame.block oneFrame.pos (oneFrame.pos + oneFrameSize)).nalu ≤
          oneFrameSize := by
      have hnalu : (r.startScan oneFrame.block oneFrame.pos (oneFrame.pos + oneFrameSize)).nalu =
        (r.startScan oneFrame.block oneFrame.pos (oneFrame.pos + oneFrameSize)).p := rfl
      rw [hnalu]
      show oneFrame.pos + oneFrameSize - _ ≤ oneFrameSize
      omega
    unfold nextPart at hpart
    split at hpart
    · rename_i hfw
      obtain ⟨b, -, heq⟩ := Option.map_eq_some_iff.mp hpart
      obtain ⟨-, rfl⟩ := Prod.mk.inj heq
      rw [if_pos hfw]
      omega
    · rename_i hfw
      obtain ⟨b, -, heq⟩ := Option.map_eq_some_iff.mp hpart
      obtain ⟨-, rfl⟩ := Prod.mk.inj heq
      rw [if_neg hfw]
      omega
  obtain ⟨frames, hlength, hqueue⟩ := scanLoop_round2_queue c oneFrameSize
    (r := r) (s := r.startScan oneFrame.block oneFrame.pos (oneFrame.pos + oneFrameSize))
    (by show oneFrame.pos + oneFrameSize ≤ _; omega) (r.startScan_room oneFrame.block)
  obtain ⟨hsome, hspec⟩ := hpacked.pushes frames
  constructor
  · rw [frameCount, Nat.add_sub_cancel_left]
    rw [← hqueue, Option.isSome_map, hlength] at hsome
    exact hsome
  · intro r' hr'
    obtain ⟨hsame, _, hafter⟩ := scanLoop_keeps
      (fun _ _ hp hI => round2_proceeds hp hI) hunread (r.startScan_room oneFrame.block) hr'
    have hpacked' : r'.queue.Packed c :=
      hspec r'.queue (hqueue ▸ Option.map_eq_some_iff.mpr ⟨r', hr', rfl⟩)
    exact ⟨hsame, hpacked', hafter.rPos, hafter.frPos, hafter.kept⟩

/-! ### One call -/

/-- A chunk with the allocations of the call that takes it in. -/
abbrev Event := Mallocs × Chunk

/-- One call of `Input`; the second call that it may make of itself is the last, see
`input_of_more`. -/
def step (c : ReaderCodec) : Lts.Step FileReader Event := fun r e => r.input c e.1 e.2 2

/-- Every copy went into its block. -/
def CopiesInside (r : FileReader) : Prop :=
  ∀ copy ∈ r.copies, copy.2.1 + copy.2.2 ≤ copy.1.size

/-- After every switch the halves were different blocks. -/
def Alternates (r : FileReader) : Prop :=
  ∀ halves ∈ r.switches, halves.1 ≠ halves.2

/-- A call that switches leaves the half that it switches from as it is. -/
def KeepsOld (r r' : FileReader) : Prop :=
  r'.switches ≠ r.switches → ∀ b ∈ r.m_ptr, r'.memory b.id = r.memory b.id

/-- The bytes of a half; those of a half that is not there are of no matter. -/
def bytes (r : FileReader) (half : Option Block) : Nat → UInt8 :=
  fun pos => half.elim 0 fun b => r.memory b.id pos

/-- The frames that a call cuts which puts the chunk behind what the current half contains: those
in the rest of the old half, or else in the rest of the current one with the chunk. -/
def framesBehind (c : ReaderCodec) (r : FileReader) (data : Chunk) : Nat :=
  if isParameterSet c (nalType c data.byte 0) then 0
  else if r.fwPos ≠ 0 then frameCount c (r.bytes r.bm_ptr) r.frPos r.fwPos
  else
    frameCount c
      (fun pos => if r.wPos ≤ pos ∧ pos < r.wPos + data.size then data.byte (pos - r.wPos)
        else r.bytes r.m_ptr pos)
      r.rPos (r.wPos + data.size)

/-- The frames that a call cuts which puts the chunk into a new half: those in the rest of the
half that was the current one. -/
def framesBefore (c : ReaderCodec) (r : FileReader) (data : Chunk) : Nat :=
  if isParameterSet c (nalType c data.byte 0) then 0
  else frameCount c (r.bytes r.m_ptr) r.rPos r.wPos

/-- The chunk is not larger than a half. It goes into the current half, which is there, or the
half behind it has been used before and a new block is given for it. The frames that the call
cuts find their slots. -/
def Fits (c : ReaderCodec) (r : FileReader) (e : Event) : Prop :=
  e.2.size ≤ (r.allocate c e.1).m_capacity ∧
    if e.2.size ≤ (r.allocate c e.1).m_capacity - (r.allocate c e.1).wPos then
      (r.allocate c e.1).m_ptr.isSome = true ∧
        r.queue.Takes c ((r.allocate c e.1).framesBehind c e.2)
    else ((r.allocate c e.1).bm_ptr.isSome = true ∧ e.1.switched = true) ∧
      r.queue.Takes c ((r.allocate c e.1).framesBefore c e.2)

instance (c : ReaderCodec) (r : FileReader) (e : Event) : Decidable (r.Fits c e) :=
  inferInstanceAs (Decidable (_ ∧ _))

/-- What holds of the positions and blocks between two calls. -/
structure Shape (r : FileReader) : Prop where
  sizes : ∀ b ∈ r.m_ptr, b.size = r.m_capacity ∧ b.id < r.blocks
  old : r.fwPos ≠ 0 → r.bm_ptr.isSome
  rPos : r.rPos ≤ r.wPos
  wPos : r.wPos ≤ r.m_capacity
  frPos : r.frPos ≤ r.fwPos
  fwPos : r.fwPos ≤ r.m_capacity
  present : r.wPos ≠ 0 → r.m_ptr.isSome

section

variable {c : ReaderCodec} {env : Mallocs} {data : Chunk} {r r' : FileReader} {b : Block}

theorem eq_of_mem_malloc {size : Nat} {ok : Bool} (h : b ∈ (r.malloc size ok).1) :
    b = ⟨r.blocks, size⟩ := by
  cases ok with
  | false => cases h
  | true => exact (Option.some.inj h).symm

theorem Shape.allocate (h : r.Shape) (c : ReaderCodec) (env : Mallocs) :
    (r.allocate c env).Shape := by
  unfold FileReader.allocate
  cases c with
  | h264 => exact h
  | h265 =>
      dsimp only
      split
      · rename_i hnone
        have hw := h.wPos
        have hfw := h.fwPos
        have hr := h.rPos
        refine ⟨?_, fun hne => ?_, h.rPos, ?_, h.frPos, ?_, fun hne => ?_⟩
        · intro b hb
          obtain rfl := eq_of_mem_malloc hb
          exact ⟨rfl, Nat.lt_add_of_pos_right Nat.two_pos⟩
        · exact absurd (show r.fwPos = 0 by omega) hne
        · show r.wPos ≤ 1024 * 1024
          omega
        · show r.fwPos ≤ 1024 * 1024
          omega
        · exact absurd (show r.wPos = 0 by omega) hne
      · exact h

theorem Shape.switchBuf (h : r.Shape) (env : Mallocs) : (r.switchBuf env).Shape := by
  have hmoved : ∀ b ∈ r.m_ptr, b.size = r.m_capacity ∧ b.id < r.blocks + 1 :=
    fun b hb => ⟨(h.sizes b hb).1, Nat.lt_succ_of_lt (h.sizes b hb).2⟩
  unfold FileReader.switchBuf
  cases r.bm_ptr with
  | none =>
      exact ⟨h.sizes, h.present, Nat.le_refl 0, Nat.zero_le _, h.rPos, h.wPos,
        fun h => absurd rfl h⟩
  | some tmpe =>
      refine ⟨?_, h.present, Nat.le_refl 0, Nat.zero_le _, h.rPos, h.wPos, fun h => absurd rfl h⟩
      intro b hb
      obtain rfl := eq_of_mem_malloc hb
      exact ⟨rfl, Nat.lt_succ_self _⟩

theorem Shape.copyChunk (h : r.Shape) (hfits : data.size ≤ r.m_capacity - r.wPos)
    (hb : r.m_ptr = some b) : (r.copyChunk b data).Shape := by
  have hw := h.wPos
  exact ⟨h.sizes, h.old, Nat.le_add_right_of_le h.rPos,
    by show r.wPos + data.size ≤ r.m_capacity; omega, h.frPos, h.fwPos,
    fun _ => by show r.m_ptr.isSome; rw [hb]; rfl⟩

/-- With a block to copy to there is a part of the memory to look at. -/
theorem Shape.nextPart (h : r.Shape) (c : ReaderCodec) (hb : r.m_ptr = some b) :
    ∃ oneFrame oneFrameSize, r.nextPart = some (oneFrame, oneFrameSize) ∧
      frameCount c (r.memory oneFrame.block) oneFrame.pos (oneFrame.pos + oneFrameSize) =
        if r.fwPos ≠ 0 then frameCount c (r.bytes r.bm_ptr) r.frPos r.fwPos
        else frameCount c (r.bytes r.m_ptr) r.rPos r.wPos := by
  unfold FileReader.nextPart
  split
  · rename_i hfw
    obtain ⟨old, hold⟩ := Option.isSome_iff_exists.mp (h.old hfw)
    rw [hold, Option.map_some]
    refine ⟨_, _, rfl, ?_⟩
    rw [Nat.add_sub_cancel' h.frPos]
    rfl
  · rw [hb, Option.map_some]
    refine ⟨_, _, rfl, ?_⟩
    rw [Nat.add_sub_cancel' h.rPos]
    rfl

/-- What a call has done that has taken a chunk in, with `b` as the current half. -/
structure TakenIn (c : ReaderCodec) (r : FileReader) (b : Block) (data : Chunk)
    (r' : FileReader) : Prop where
  shape : r'.Shape
  packed : r'.queue.Packed c
  m_ptr : r'.m_ptr = r.m_ptr
  bm_ptr : r'.bm_ptr = r.bm_ptr
  fwPos : r'.fwPos = r.fwPos ∨ r'.fwPos = 0
  switches : r'.switches = r.switches
  copies : r'.copies = r.copies ++ [(b, r.wPos, data.size)]
  memory : ∀ id, id ≠ b.id → r'.memory id = r.memory id

theorem Shape.takeIn (h : r.Shape) (hpacked : r.queue.Packed c)
    (hfits : data.size ≤ r.m_capacity - r.wPos) (hb : r.m_ptr = some b)
    (htake : r.takeIn c data = some r') : TakenIn c r b data r' := by
  have hcopied := h.copyChunk hfits hb
  have hmemory : ∀ id, id ≠ b.id → (r.copyChunk b data).memory id = r.memory id := by
    intro id hid
    funext pos
    exact if_neg fun hboth => hid hboth.1
  rw [FileReader.takeIn, hb, Option.bind_some] at htake
  dsimp only at htake
  split at htake
  · obtain rfl := Option.some.inj htake
    exact ⟨hcopied, hpacked, rfl, rfl, .inl rfl, rfl, rfl, hmemory⟩
  · obtain ⟨oneFrame, oneFrameSize, hpart, -⟩ := hcopied.nextPart c hb
    rw [hpart, Option.bind_some] at htake
    obtain ⟨hsame, hpacked', hread, hold, hkept⟩ :=
      (init2_spec hcopied.rPos hcopied.frPos hpacked hpart).2 r' htake
    refine ⟨⟨?_, ?_, hread, ?_, hold, ?_, ?_⟩, hpacked', hsame.m_ptr, hsame.bm_ptr, hkept,
      hsame.switches, hsame.copies, ?_⟩
    · rw [hsame.m_ptr, hsame.m_capacity, hsame.blocks]
      exact hcopied.sizes
    · intro hne
      rw [hsame.bm_ptr]
      exact hcopied.old (hkept.resolve_right hne ▸ hne)
    · rw [hsame.wPos, hsame.m_capacity]
      exact hcopied.wPos
    · rw [hsame.m_capacity]
      rcases hkept with heq | hzero
      · rw [heq]
        exact hcopied.fwPos
      · rw [hzero]
        exact Nat.zero_le _
    · rw [hsame.wPos, hsame.m_ptr]
      exact hcopied.present
    · rw [hsame.memory]
      exact hmemory

/-- The halves are different blocks while both are in use. -/
def Apart (r : FileReader) : Prop :=
  r.fwPos ≠ 0 → ∀ b ∈ r.m_ptr, ∀ old ∈ r.bm_ptr, old.id ≠ b.id

/-- A chunk that has room in its block is taken in exactly where the frames find their slots. -/
theorem Shape.takeIn_isSome_iff (h : r.Shape) (hpacked : r.queue.Packed c) (hapart : r.Apart)
    (hfits : data.size ≤ r.m_capacity - r.wPos) (hb : r.m_ptr = some b) :
    (r.takeIn c data).isSome ↔ r.queue.Takes c (r.framesBehind c data) := by
  have hcopied := h.copyChunk hfits hb
  rw [FileReader.takeIn, hb, Option.bind_some, framesBehind]
  dsimp only
  split
  · exact iff_of_true rfl hpacked.takes_zero
  · obtain ⟨oneFrame, oneFrameSize, hpart, hcount⟩ := hcopied.nextPart c hb
    rw [hpart, Option.bind_some]
    refine (init2_spec hcopied.rPos hcopied.frPos hpacked hpart).1.trans (iff_of_eq ?_)
    rw [hcount]
    refine congrArg (r.queue.Takes c) ?_
    show (if r.fwPos ≠ 0 then frameCount c ((r.copyChunk b data).bytes r.bm_ptr) r.frPos r.fwPos
      else frameCount c ((r.copyChunk b data).bytes r.m_ptr) r.rPos (r.wPos + data.size)) = _
    split
    · -- the old half is another block than the one that is copied to
      rename_i hfw
      obtain ⟨old, hold⟩ := Option.isSome_iff_exists.mp (h.old hfw)
      have hbytes : (r.copyChunk b data).bytes r.bm_ptr = r.bytes r.bm_ptr := by
        rw [hold]
        funext pos
        exact if_neg fun hboth => hapart hfw b hb old hold hboth.1
      rw [hbytes]
    · have hbytes : (r.copyChunk b data).bytes r.m_ptr = fun pos =>
          if r.wPos ≤ pos ∧ pos < r.wPos + data.size then data.byte (pos - r.wPos)
          else r.bytes r.m_ptr pos := by
        rw [hb]
        funext pos
        show (if b.id = b.id ∧ _ then _ else _) = _
        simp only [true_and]
        rfl
      rw [hbytes]

/-! ### The recursion -/

theorem switchBuf_m_capacity (r : FileReader) (env : Mallocs) :
    (r.switchBuf env).m_capacity = r.m_capacity := by
  unfold switchBuf
  cases r.bm_ptr with
  | none => rfl
  | some tmpe => rfl

theorem switchBuf_queue (r : FileReader) (env : Mallocs) : (r.switchBuf env).queue = r.queue := by
  unfold switchBuf
  cases r.bm_ptr with
  | none => rfl
  | some tmpe => rfl

/-- After a switch the whole half is free. -/
theorem switchBuf_room (r : FileReader) (env : Mallocs) :
    (r.switchBuf env).m_capacity - (r.switchBuf env).wPos = r.m_capacity := by
  rw [switchBuf_m_capacity]
  unfold switchBuf
  cases r.bm_ptr with
  | none => rfl
  | some tmpe => rfl

theorem allocate_of_capacity (h : c = .h265 → r.m_capacity ≠ 0) : r.allocate c env = r := by
  cases c with
  | h264 => rfl
  | h265 => exact if_neg (h rfl)

theorem allocate_m_capacity_ne (r : FileReader) (env : Mallocs) :
    (r.allocate .h265 env).m_capacity ≠ 0 := by
  unfold allocate
  dsimp only
  split
  · show (1024 * 1024 : Nat) ≠ 0
    decide
  · assumption

/-- The second call of itself finds the members allocated. -/
theorem allocate_switchBuf (c : ReaderCodec) (r : FileReader) (env : Mallocs) :
    ((r.allocate c env).switchBuf env).allocate c env = (r.allocate c env).switchBuf env := by
  apply allocate_of_capacity
  rintro rfl
  rw [switchBuf_m_capacity]
  exact allocate_m_capacity_ne r env

theorem input_of_fits (h : data.size ≤ (r.allocate c env).m_capacity - (r.allocate c env).wPos)
    (fuel : Nat) : r.input c env data (fuel + 1) = (r.allocate c env).takeIn c data := by
  rw [input]
  exact if_pos h

theorem input_of_not_fits
    (h : ¬ data.size ≤ (r.allocate c env).m_capacity - (r.allocate c env).wPos) (fuel : Nat) :
    r.input c env data (fuel + 1) = ((r.allocate c env).switchBuf env).input c env data fuel := by
  rw [input]
  exact if_neg h

/-- After a switch the chunk fits, if it is not larger than a half. -/
theorem input_of_switched (h : data.size ≤ (r.allocate c env).m_capacity) (fuel : Nat) :
    ((r.allocate c env).switchBuf env).input c env data (fuel + 1) =
      ((r.allocate c env).switchBuf env).takeIn c data := by
  rw [input_of_fits, allocate_switchBuf]
  rw [allocate_switchBuf, switchBuf_room]
  exact h

/-- A chunk that is larger than a half is never taken in, however often the halves change. -/
theorem input_of_more (h : (r.allocate c env).m_capacity < data.size) (fuel : Nat) :
    r.input c env data fuel = none := by
  induction fuel generalizing r with
  | zero => rfl
  | succ fuel ih =>
      rw [input_of_not_fits (by omega)]
      apply ih
      rw [allocate_switchBuf, switchBuf_m_capacity]
      exact h

/-- Two calls are enough for `Input`, if any number is. -/
theorem input_two {fuel : Nat} (h : r.input c env data fuel = some r') :
    r.input c env data 2 = some r' := by
  by_cases hmore : (r.allocate c env).m_capacity < data.size
  · rw [input_of_more hmore] at h
    cases h
  cases fuel with
  | zero => cases h
  | succ fuel =>
      by_cases hfits : data.size ≤ (r.allocate c env).m_capacity - (r.allocate c env).wPos
      · rw [input_of_fits hfits] at h ⊢
        exact h
      · rw [input_of_not_fits hfits] at h ⊢
        cases fuel with
        | zero => cases h
        | succ fuel =>
            rw [input_of_switched (Nat.le_of_not_lt hmore)] at h ⊢
            exact h

theorem takeIn_of_none (h : r.m_ptr = none) : r.takeIn c data = none := by
  rw [takeIn, h]
  rfl

/-! ### Runs -/

/-- What a call must do: come to its end, copy into the block only, and switch to another
one, so that the half that it leaves keeps its data. -/
def Behaves (r : FileReader) (_ : Event) (r' : FileReader) : Prop :=
  r'.CopiesInside ∧ r'.Alternates ∧ r.KeepsOld r'

/-- What holds between two calls of a run in which all calls behave. -/
structure Sound (c : ReaderCodec) (r : FileReader) : Prop where
  shape : r.Shape
  packed : r.queue.Packed c
  apart : r.Apart
  inside : r.CopiesInside
  alternates : r.Alternates

theorem allocate_rest (c : ReaderCodec) (r : FileReader) (env : Mallocs) :
    (r.allocate c env).copies = r.copies ∧ (r.allocate c env).switches = r.switches ∧
      (r.allocate c env).memory = r.memory ∧ r.blocks ≤ (r.allocate c env).blocks ∧
        (r.allocate c env).queue = r.queue := by
  unfold allocate
  cases c with
  | h264 => exact ⟨rfl, rfl, rfl, Nat.le_refl _, rfl⟩
  | h265 =>
      dsimp only
      split
      · exact ⟨rfl, rfl, rfl, Nat.le_add_right r.blocks 2, rfl⟩
      · exact ⟨rfl, rfl, rfl, Nat.le_refl _, rfl⟩

theorem Apart.allocate (h : r.Apart) (hshape : r.Shape) (c : ReaderCodec) (env : Mallocs) :
    (r.allocate c env).Apart := by
  unfold FileReader.allocate
  cases c with
  | h264 => exact h
  | h265 =>
      dsimp only
      split
      · rename_i hnone
        have hfw := hshape.fwPos
        exact fun hne => absurd (show r.fwPos = 0 by omega) hne
      · exact h

theorem Sound.allocate (h : r.Sound c) (env : Mallocs) : (r.allocate c env).Sound c := by
  obtain ⟨hcopies, hswitches, -, -, hqueue⟩ := allocate_rest c r env
  refine ⟨h.shape.allocate c env, hqueue ▸ h.packed, h.apart.allocate h.shape c env, ?_, ?_⟩
  · unfold CopiesInside
    rw [hcopies]
    exact h.inside
  · unfold Alternates
    rw [hswitches]
    exact h.alternates

/-- A chunk that fits into the block of the current half is copied into it. -/
theorem Sound.takeIn (h : r.Sound c) (hfits : data.size ≤ r.m_capacity - r.wPos)
    (hb : r.m_ptr = some b) (htake : r.takeIn c data = some r') : r'.Sound c := by
  have hw := h.shape.wPos
  have htaken := h.shape.takeIn h.packed hfits hb htake
  refine ⟨htaken.shape, htaken.packed, fun hne => ?_, fun copy hcopy => ?_, ?_⟩
  · rw [htaken.m_ptr, htaken.bm_ptr]
    exact h.apart (htaken.fwPos.resolve_right hne ▸ hne)
  · rw [htaken.copies] at hcopy
    rcases List.mem_append.mp hcopy with hold | hnew
    · exact h.inside copy hold
    · obtain rfl := List.mem_singleton.mp hnew
      show r.wPos + data.size ≤ b.size
      rw [(h.shape.sizes b hb).1]
      omega
  · unfold Alternates
    rw [htaken.switches]
    exact h.alternates

/-- With a block behind it, the current half is exchanged for a new block. -/
theorem switchBuf_eq (hold : r.bm_ptr.isSome) (henv : env.switched = true) : r.switchBuf env =
    { r with
      frPos := r.rPos, fwPos := r.wPos, wPos := 0, rPos := 0, bm_ptr := r.m_ptr
      blocks := r.blocks + 1
      m_ptr := some ⟨r.blocks, r.m_capacity⟩
      switches := r.switches ++ [(r.m_ptr, some ⟨r.blocks, r.m_capacity⟩)] } := by
  obtain ⟨tmpe, htmpe⟩ := Option.isSome_iff_exists.mp hold
  unfold FileReader.switchBuf
  rw [htmpe]
  simp only [malloc, henv, if_pos]

theorem Sound.switchBuf (h : r.Sound c) (hold : r.bm_ptr.isSome) (henv : env.switched = true) :
    (r.switchBuf env).Sound c := by
  have hshape := h.shape.switchBuf env
  rw [switchBuf_eq hold henv] at hshape ⊢
  refine ⟨hshape, h.packed, fun _ b hb old hmem => ?_, h.inside, fun halves hhalves => ?_⟩
  · obtain rfl := Option.some.inj hb
    exact Nat.ne_of_lt (h.shape.sizes old hmem).2
  · rcases List.mem_append.mp hhalves with hbefore | hlast
    · exact h.alternates halves hbefore
    · obtain rfl := List.mem_singleton.mp hlast
      intro heq
      exact absurd (h.shape.sizes _ heq).2 (Nat.lt_irrefl _)

/-- A switch puts what was the current half before the frames of the chunk. -/
theorem framesBehind_switchBuf (hold : r.bm_ptr.isSome) (henv : env.switched = true)
    (hw : r.wPos ≠ 0) : (r.switchBuf env).framesBehind c data = r.framesBefore c data := by
  rw [switchBuf_eq hold henv, framesBehind, framesBefore]
  dsimp only
  rw [if_pos hw]
  rfl

/-- A call that fits behaves. -/
theorem Sound.step_of_fits {e : Event} (h : r.Sound c) (hfits : r.Fits c e) :
    ∃ r', step c r e = some r' ∧ Behaves r e r' ∧ r'.Sound c := by
  obtain ⟨env, data⟩ := e
  obtain ⟨hsize, hfits⟩ := hfits
  obtain ⟨-, hswitches, hmemory, hblocks, hqueue⟩ := allocate_rest c r env
  have hsound := h.allocate env
  dsimp only at hsize hfits
  split at hfits
  · rename_i hcurrent
    obtain ⟨b, hb⟩ := Option.isSome_iff_exists.mp hfits.1
    obtain ⟨r', htake⟩ := Option.isSome_iff_exists.mp
      ((hsound.shape.takeIn_isSome_iff hsound.packed hsound.apart hcurrent hb).mpr
        (hqueue.symm ▸ hfits.2))
    have hsound' := hsound.takeIn hcurrent hb htake
    have hsame := (hsound.shape.takeIn hsound.packed hcurrent hb htake).switches
    refine ⟨r', (input_of_fits hcurrent 1).trans htake,
      ⟨hsound'.inside, hsound'.alternates, fun hne => ?_⟩, hsound'⟩
    exact absurd (hsame.trans hswitches) hne
  · rename_i hcurrent
    obtain ⟨⟨hold, henv⟩, htakes⟩ := hfits
    have hw : (r.allocate c env).wPos ≠ 0 := by omega
    have hsound₂ := hsound.switchBuf hold henv
    have hnew := congrArg m_ptr (switchBuf_eq hold henv)
    have hroom : data.size ≤ ((r.allocate c env).switchBuf env).m_capacity -
        ((r.allocate c env).switchBuf env).wPos := by
      rw [switchBuf_eq hold henv]
      exact hsize
    have hkept : ((r.allocate c env).switchBuf env).memory = (r.allocate c env).memory ∧
        ((r.allocate c env).switchBuf env).queue = (r.allocate c env).queue := by
      rw [switchBuf_eq hold henv]
      exact ⟨rfl, rfl⟩
    obtain ⟨r', htake⟩ := Option.isSome_iff_exists.mp
      ((hsound₂.shape.takeIn_isSome_iff hsound₂.packed hsound₂.apart hroom hnew).mpr (by
        rw [framesBehind_switchBuf hold henv hw, hkept.2, hqueue]
        exact htakes))
    have hsound' := hsound₂.takeIn hroom hnew htake
    have hother := (hsound₂.shape.takeIn hsound₂.packed hroom hnew htake).memory
    refine ⟨r', (input_of_not_fits hcurrent 1).trans ((input_of_switched hsize 0).trans htake),
      ⟨hsound'.inside, hsound'.alternates, fun _ b hb => ?_⟩, hsound'⟩
    -- the block that is copied to is newer than all blocks before the call
    rw [hother b.id (Nat.ne_of_lt (Nat.lt_of_lt_of_le (h.shape.sizes b hb).2 hblocks)), hkept.1,
      hmemory]

/-- After a switch to no new block the two halves are the same, or there is no block to copy
to. -/
theorem switchBuf_bad (h : ¬ (r.bm_ptr.isSome ∧ env.switched = true)) :
    (r.switchBuf env).m_ptr = none ∨
      (r.m_ptr, r.m_ptr) ∈ (r.switchBuf env).switches := by
  unfold switchBuf
  cases hbm : r.bm_ptr with
  | none => exact .inr (List.mem_append_right _ (List.mem_singleton_self _))
  | some tmpe =>
      left
      have henv : env.switched = false := by simpa [hbm] using h
      simp only [malloc, henv]
      rfl

/-- A call that takes its chunk in has a current half to copy it to. -/
theorem exists_of_takeIn (h : r.takeIn c data = some r') : ∃ b, r.m_ptr = some b := by
  cases hb : r.m_ptr with
  | none =>
      rw [takeIn_of_none hb] at h
      cases h
  | some b => exact ⟨b, rfl⟩

/-- A call that behaves has fitted. -/
theorem Sound.fits_of_behaves {e : Event} (h : r.Sound c) (hstep : step c r e = some r')
    (hbehaves : Behaves r e r') : r.Fits c e := by
  obtain ⟨env, data⟩ := e
  obtain ⟨-, -, -, -, hqueue⟩ := allocate_rest c r env
  have hsound := h.allocate env
  have hsize : data.size ≤ (r.allocate c env).m_capacity := by
    by_contra hmore
    rw [show step c r (env, data) = none from input_of_more (Nat.lt_of_not_le hmore) 2] at hstep
    cases hstep
  refine ⟨hsize, ?_⟩
  dsimp only
  split
  · rename_i hcurrent
    rw [step, input_of_fits hcurrent] at hstep
    obtain ⟨b, hb⟩ := exists_of_takeIn hstep
    have htakes := (hsound.shape.takeIn_isSome_iff hsound.packed hsound.apart hcurrent hb).mp
      (hstep ▸ rfl)
    exact ⟨hb ▸ rfl, hqueue ▸ htakes⟩
  · rename_i hcurrent
    have hw : (r.allocate c env).wPos ≠ 0 := by omega
    rw [step, input_of_not_fits hcurrent, input_of_switched hsize] at hstep
    obtain ⟨b, hb⟩ := exists_of_takeIn hstep
    have hroom : data.size ≤ ((r.allocate c env).switchBuf env).m_capacity -
        ((r.allocate c env).switchBuf env).wPos := by
      rw [switchBuf_room]
      exact hsize
    have hgood : (r.allocate c env).bm_ptr.isSome = true ∧ env.switched = true := by
      by_contra hbad
      rcases switchBuf_bad hbad with hnone | hequal
      · rw [hb] at hnone
        cases hnone
      · have htaken := (hsound.shape.switchBuf env).takeIn
          ((switchBuf_queue _ env).symm ▸ hsound.packed) hroom hb hstep
        exact hbehaves.2.1 _ (htaken.switches ▸ hequal) rfl
    have hsound₂ := hsound.switchBuf hgood.1 hgood.2
    have htakes := (hsound₂.shape.takeIn_isSome_iff hsound₂.packed hsound₂.apart hroom hb).mp
      (hstep ▸ rfl)
    rw [framesBehind_switchBuf hgood.1 hgood.2 hw, switchBuf_queue, hqueue] at htakes
    exact ⟨hgood, htakes⟩

end

/-- The readers that the constructors give. -/
inductive Opened : ReaderCodec → FileReader → Prop
  | h264 {file slots spspps2 malloc garbage r} (hslots : slots.length = ReaderCodec.h264.maxSize)
      (h : H264FileReader.new file slots spspps2 malloc garbage = some r) : Opened .h264 r
  | h265 {file slots garbage r} (hslots : slots.length = ReaderCodec.h265.maxSize)
      (h : H265FileReader.new file slots garbage = some r) : Opened .h265 r

/-- A file is cut into frames to its end. -/
theorem sound_of_file {c : ReaderCodec} {slots : List ReaderFrame}
    (hslots : c = .h265 → slots.length = c.maxSize) (file : List UInt8) (spspps2 : Bool)
    (garbage : Nat → Nat → UInt8) :
    ∃ r, ((blank slots spspps2 garbage).load file).init c 0 = some r ∧ r.Sound c := by
  obtain ⟨r, hinit, hsame, hreads, hpacked, -⟩ :=
    init_spec (c := c) (r := (blank slots spspps2 garbage).load file)
      ⟨⟨rfl, rfl, rfl⟩, ReaderQueue.packed_start c slots, fun hc => Nat.le_of_eq (hslots hc).symm⟩ 0
  have hw : r.wPos = 0 := hsame.wPos
  have hr : r.rPos = 0 := hreads.rPos
  have hfr : r.frPos = 0 := hreads.frPos
  have hfw : r.fwPos = 0 := hreads.fwPos
  refine ⟨r, hinit, ⟨fun b hb => ?_, fun hne => absurd hfw hne, by omega, by omega, by omega,
    by omega, fun hne => absurd hw hne⟩, hpacked, fun hne => absurd hfw hne,
    fun copy hcopy => ?_, fun halves hhalves => ?_⟩
  · rw [hsame.m_ptr] at hb
    rw [hsame.m_capacity, hsame.blocks]
    cases hb
    exact ⟨rfl, Nat.lt_succ_self 0⟩
  · rw [hsame.copies] at hcopy
    cases hcopy
  · rw [hsame.switches] at hhalves
    cases hhalves

/-- So is a reader that was opened without a file, with a block or without one. -/
theorem sound_of_none {c : ReaderCodec} {r : FileReader} (hpacked : r.queue.Packed c)
    (hsizes : ∀ b ∈ r.m_ptr, b.size = r.m_capacity ∧ b.id < r.blocks)
    (hzero : r.rPos = 0 ∧ r.wPos = 0 ∧ r.frPos = 0 ∧ r.fwPos = 0) (hcopies : r.copies = [])
    (hswitches : r.switches = []) : r.Sound c := by
  obtain ⟨hr, hw, hfr, hfw⟩ := hzero
  refine ⟨⟨hsizes, fun hne => absurd hfw hne, by omega, by omega, by omega, by omega,
    fun hne => absurd hw hne⟩, hpacked, fun hne => absurd hfw hne, fun copy hcopy => ?_,
    fun halves hhalves => ?_⟩
  · rw [hcopies] at hcopy
    cases hcopy
  · rw [hswitches] at hhalves
    cases hhalves

theorem Opened.sound {c : ReaderCodec} {r : FileReader} (h : Opened c r) : r.Sound c := by
  cases h with
  | @h264 file slots spspps2 malloc garbage r hslots h =>
      cases file with
      | some file =>
          obtain ⟨r', hinit, hsound⟩ := @sound_of_file .h264 [] (fun hc => absurd hc (by decide))
            file spspps2 garbage
          obtain rfl := Option.some.inj (h.symm.trans hinit)
          exact hsound
      | none =>
          obtain rfl := Option.some.inj h
          refine sound_of_none (ReaderQueue.packed_start _ slots) (fun b hb => ?_)
            ⟨rfl, rfl, rfl, rfl⟩ rfl rfl
          obtain rfl := eq_of_mem_malloc hb
          exact ⟨rfl, Nat.lt_succ_self 0⟩
  | @h265 file slots garbage r hslots h =>
      cases file with
      | some file =>
          obtain ⟨r', hinit, hsound⟩ := sound_of_file (fun _ => hslots) file true garbage
          obtain rfl := Option.some.inj (h.symm.trans hinit)
          exact hsound
      | none =>
          obtain rfl := Option.some.inj h
          exact sound_of_none (ReaderQueue.packed_start _ slots) (fun b hb => by cases hb)
            ⟨rfl, rfl, rfl, rfl⟩ rfl rfl

/-- Between two calls, whether the next ones behave depends on their sizes, on the blocks and on
the slots. -/
theorem Sound.completes_iff {c : ReaderCodec} {r : FileReader} (h : r.Sound c)
    (events : List Event) :
    Lts.Completes (step c) Behaves r events ↔ Lts.Checked (step c) (Fits c) r events := by
  apply Lts.completes_iff_checked (I := Sound c) _ _ h
  · exact fun _ _ hsound hfits => hsound.step_of_fits hfits
  · exact fun _ _ _ hsound hstep hbehaves => hsound.fits_of_behaves hstep hbehaves

/-- The calls of a reader come to their end, copy inside the blocks and keep the halves apart
exactly when every chunk fits. -/
theorem behaves_iff_fits {c : ReaderCodec} {r : FileReader} (hopened : Opened c r)
    (events : List Event) :
    Lts.Completes (step c) Behaves r events ↔ Lts.Checked (step c) (Fits c) r events :=
  hopened.sound.completes_iff events

/-- The frames of a new `m_videos`. -/
def freshSlots (c : ReaderCodec) : List ReaderFrame :=
  List.replicate c.maxSize ⟨⟨0, 0⟩, 0, 0, false⟩

/-- A reader that was not opened from a file, with a block of 10 MiB. -/
def liveReader : FileReader :=
  { blank (freshSlots .h264) true fun _ _ => 0 with
    m_ptr := some ⟨0, 10 * 1024 * 1024⟩, m_capacity := 10 * 1024 * 1024, blocks := 1 }

theorem opened_liveReader : Opened .h264 liveReader :=
  @Opened.h264 none (freshSlots .h264) true true (fun _ _ => 0) _ List.length_replicate rfl

/-- A chunk of any size that begins with a NAL unit of this header. -/
def chunkOf (header : UInt8) (size : Nat) : Chunk where
  byte pos := if pos = 2 then 1 else if pos = 3 then header else 0
  size := size

theorem behaves_iff_fits_live :
    Opened .h264 liveReader ∧ Lts.Completes (step .h264) Behaves liveReader
      [(⟨true, true, true⟩, chunkOf 0x67 9), (⟨true, true, true⟩, chunkOf 0x65 7)] :=
  ⟨opened_liveReader, (behaves_iff_fits opened_liveReader _).mpr (by decide +kernel)⟩

/-- A reader of a file in which there is no frame. -/
def emptyReader : FileReader := (blank [] true fun _ _ => 0).load (List.replicate 8 0xff)

theorem opened_emptyReader : Opened .h264 emptyReader :=
  @Opened.h264 (some (List.replicate 8 0xff)) (freshSlots .h264) true true (fun _ _ => 0) _
    List.length_replicate rfl

/-- Where the first half is full `H264FileReader` has no second one, and goes on in the same
block. A reader of a file without frames has no slot for the first one that comes in. -/
theorem not_behaves :
    (Opened .h264 liveReader ∧ ¬ Lts.Completes (step .h264) Behaves liveReader
      [(⟨true, true, true⟩, chunkOf 0x67 (10 * 1024 * 1024)),
        (⟨true, true, true⟩, chunkOf 0x65 7)]) ∧
    Opened .h264 emptyReader ∧ ¬ Lts.Completes (step .h264) Behaves emptyReader
      [(⟨true, true, true⟩, chunkOf 0x65 7)] := by
  refine ⟨⟨opened_liveReader, ?_⟩, opened_emptyReader, ?_⟩
  · rw [opened_liveReader.sound.completes_iff]
    intro hchecked
    -- no room is left after the first chunk, and `bm_ptr` is still NULL
    have hswitch := ((hchecked.2 _ rfl).1).2.1.1
    cases hswitch
  · rw [opened_emptyReader.sound.completes_iff]
    decide

end FileReader

end SignalingServer
