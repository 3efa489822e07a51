import SignalingServer.Tools.AvFrame

/-!
The buffer of `tools/lineBuf.cpp`. It is written at one end and read from the
other; `writeBuf` refuses data that would reach the last place of the buffer.
-/

namespace SignalingServer

/-- `LineBuffer`. `pBuf` is `none` for a null pointer, and otherwise the part of the
memory that has been written. -/
structure LineBuffer where
  pBuf : Option (List UInt8)
  bufLen : Nat
  wPos : Nat := 0
  rPos : Nat := 0
  deriving DecidableEq, Repr

namespace LineBuffer

/-- The constructor, with whether `malloc` succeeds. -/
def new (size : Nat) (malloc : Bool) : LineBuffer where
  pBuf := if 0 < size ∧ malloc then some [] else none
  bufLen := size

def dataSize (b : LineBuffer) : Int := (b.wPos : Int) - b.rPos

def freeSize (b : LineBuffer) : Int := (b.bufLen : Int) - b.dataSize

/-- The bytes from `data()` on, as many as `dataSize()` says: `none` where these are
not all in the buffer. -/
def content (b : LineBuffer) : Option (List UInt8) :=
  match b.pBuf with
  | some mem =>
      if b.wPos > b.rPos then
        if b.wPos ≤ b.bufLen then some ((mem.take b.wPos).drop b.rPos) else none
      else some []
  | none => some []

/-- `resetBuf`, with whether `realloc` succeeds; a negative size is a length that no
allocator grants. -/
def resetBuf (b : LineBuffer) (size : Int) (realloc : Bool) : LineBuffer :=
  match b.pBuf with
  | some mem =>
      if 0 ≤ size ∧ realloc then
        { b with pBuf := some (mem.take size.toNat), bufLen := size.toNat }
      else b
  | none => b

/-- `writeBuf`: `none` where the new write position is no `int`. -/
def writeBuf (b : LineBuffer) (buf : List UInt8) : Option (LineBuffer × Bool) :=
  match b.pBuf with
  | some mem =>
      if 0 < buf.length then
        if b.wPos + buf.length < 2 ^ 31 then
          if b.wPos + buf.length < b.bufLen then
            some ({ b with
              pBuf := some (mem.take b.wPos ++ buf ++ mem.drop (b.wPos + buf.length))
              wPos := b.wPos + buf.length }, true)
          else some (b, false)
        else none
      else some (b, false)
  | none => some (b, false)

def clear (b : LineBuffer) : LineBuffer := { b with wPos := 0, rPos := 0 }

def tailSize (b : LineBuffer) : Int := (b.bufLen : Int) - b.wPos

/-- `DataForward`: `none` where the bytes moved are not all in the buffer. -/
def dataForward (b : LineBuffer) : Option LineBuffer :=
  match b.pBuf with
  | some mem =>
      if b.rPos ≤ b.wPos ∧ b.wPos ≤ b.bufLen then
        some { b with
          pBuf := some ((mem.take b.wPos).drop b.rPos ++ mem.drop (b.wPos - b.rPos))
          wPos := b.wPos - b.rPos
          rPos := 0 }
      else none
  | none => some b

/-- `setReadSize`: `none` where the new read position is no `int`. -/
def setReadSize (b : LineBuffer) (size : Nat) : Option LineBuffer :=
  if b.rPos + size < 2 ^ 31 then
    let b := if b.rPos + size ≤ b.wPos then { b with rPos := b.rPos + size } else b
    some (if b.rPos = b.wPos then { b with rPos := 0, wPos := 0 } else b)
  else none

/-- `setWriteSize(stored.length)`, where `stored` are the bytes that the memory has from
`writePos()` on: the caller has put them there. -/
def setWriteSize (b : LineBuffer) (stored : List UInt8) : Option LineBuffer :=
  if b.wPos + stored.length < 2 ^ 31 then
    if b.wPos + stored.length ≤ b.bufLen then
      some { b with
        pBuf := b.pBuf.map fun mem =>
          mem.take b.wPos ++ stored ++ mem.drop (b.wPos + stored.length)
        wPos := b.wPos + stored.length }
    else some b
  else none

/-- The writes of a key frame: the buffer is resized when the frame does not fit, the
frame is written, the content is read and the buffer is cleared. -/
def finishFrame (b : LineBuffer) (buf : List UInt8) (realloc : Bool) :
    Option (LineBuffer × List UInt8) :=
  let b :=
    if b.freeSize < buf.length then b.resetBuf (AvFrame.toInt (2 * buf.length)) realloc else b
  (b.writeBuf buf).bind fun r => r.1.content.map fun data => (r.1.clear, data)

/-! ### What the buffer holds -/

/-- There is memory, and more of it than this. -/
def Roomy (b : LineBuffer) (size : Nat) : Prop := b.pBuf.isSome ∧ size < b.bufLen

instance (b : LineBuffer) (size : Nat) : Decidable (b.Roomy size) :=
  inferInstanceAs (Decidable (_ ∧ _))

/-- The buffer was cleared and this was given to `writeBuf` since: it holds all of it
if there is room for all of it, and otherwise less. -/
structure Filled (b : LineBuffer) (data : List UInt8) : Prop where
  rPos : b.rPos = 0
  inside : b.wPos < b.bufLen
  bufLen : b.bufLen < 2 ^ 31
  covered : ∀ mem, b.pBuf = some mem → b.wPos ≤ mem.length
  part : b.wPos ≤ data.length
  whole : b.Roomy data.length → ∀ mem, b.pBuf = some mem → mem.take b.wPos = data
  lost : b.pBuf.isSome → ¬ b.Roomy data.length → b.wPos < data.length

variable {b : LineBuffer} {data buf mem : List UInt8} {realloc : Bool}

theorem filled_clear (hpos : 0 < b.bufLen) (hlt : b.bufLen < 2 ^ 31) : b.clear.Filled [] where
  rPos := rfl
  inside := hpos
  bufLen := hlt
  covered _ _ := Nat.zero_le _
  part := Nat.zero_le _
  whole _ _ _ := rfl
  lost hmem hroom := absurd ⟨hmem, hpos⟩ hroom

theorem filled_new {size : Nat} (hpos : 0 < size) (hlt : size < 2 ^ 31) (malloc : Bool) :
    (new size malloc).Filled [] :=
  filled_clear (b := new size malloc) hpos hlt

theorem Filled.wPos_eq (h : b.Filled data) (hroom : b.Roomy data.length) :
    b.wPos = data.length := by
  obtain ⟨mem, hmem⟩ := Option.isSome_iff_exists.mp hroom.1
  have hlen := congrArg List.length (h.whole hroom mem hmem)
  rw [List.length_take, Nat.min_eq_left (h.covered mem hmem)] at hlen
  exact hlen

/-- A write to a buffer that has memory. -/
theorem writeBuf_of_mem (hmem : b.pBuf = some mem) (hne : 0 < buf.length)
    (hint : b.wPos + buf.length < 2 ^ 31) :
    b.writeBuf buf =
      if b.wPos + buf.length < b.bufLen then
        some ({ b with
          pBuf := some (mem.take b.wPos ++ buf ++ mem.drop (b.wPos + buf.length))
          wPos := b.wPos + buf.length }, true)
      else some (b, false) := by
  simp only [writeBuf, hmem, if_pos hne, if_pos hint]

theorem take_written (hcovered : b.wPos ≤ mem.length) :
    (mem.take b.wPos ++ buf ++ mem.drop (b.wPos + buf.length)).take (b.wPos + buf.length) =
      mem.take b.wPos ++ buf := by
  apply List.take_left'
  rw [List.length_append, List.length_take, Nat.min_eq_left hcovered]

/-- Nothing is written without memory. -/
theorem Filled.no_memory (h : b.Filled data) (hmem : b.pBuf = none) : b.Filled (data ++ buf) where
  rPos := h.rPos
  inside := h.inside
  bufLen := h.bufLen
  covered := h.covered
  part := Nat.le_trans h.part (by rw [List.length_append]; omega)
  whole _ mem hsome := by
    rw [hmem] at hsome
    cases hsome
  lost hsome := by
    rw [hmem] at hsome
    cases hsome

/-- What is written stands behind the data that are there. -/
theorem Filled.written (h : b.Filled data) (hmem : b.pBuf = some mem)
    (hfits : b.wPos + buf.length < b.bufLen) :
    Filled { b with
      pBuf := some (mem.take b.wPos ++ buf ++ mem.drop (b.wPos + buf.length))
      wPos := b.wPos + buf.length } (data ++ buf) := by
  have hcovered := h.covered mem hmem
  refine { rPos := h.rPos, inside := hfits, bufLen := h.bufLen, covered := ?covered,
           part := by rw [List.length_append]; exact Nat.add_le_add_right h.part _
           whole := ?whole, lost := ?lost }
  case covered =>
    rintro mem' ⟨⟩
    simp only [List.length_append, List.length_take, Nat.min_eq_left hcovered]
    omega
  case whole =>
    rintro hroom mem' ⟨⟩
    have hlt : data.length + buf.length < b.bufLen := by
      simpa [Roomy] using hroom
    have hold : b.Roomy data.length := ⟨by rw [hmem]; rfl, by omega⟩
    show (mem.take b.wPos ++ buf ++ _).take (b.wPos + buf.length) = _
    rw [take_written hcovered, h.whole hold mem hmem]
  case lost =>
    intro _ hroom
    have hle : b.bufLen ≤ data.length + buf.length := by
      by_contra hlt
      refine hroom ⟨rfl, ?_⟩
      rw [List.length_append]
      exact Nat.lt_of_not_le hlt
    show b.wPos + buf.length < (data ++ buf).length
    rw [List.length_append]
    omega

/-- Data that would reach the last place are refused. -/
theorem Filled.refused (h : b.Filled data) (hne : 0 < buf.length)
    (hfull : ¬ b.wPos + buf.length < b.bufLen) : b.Filled (data ++ buf) := by
  have hpart := h.part
  have hlt : b.wPos < (data ++ buf).length := by
    rw [List.length_append]
    omega
  refine { rPos := h.rPos, inside := h.inside, bufLen := h.bufLen, covered := h.covered,
           part := Nat.le_of_lt hlt, whole := ?whole, lost := fun _ _ => hlt }
  case whole =>
    intro hroom
    have hbig : data.length + buf.length < b.bufLen := by
      rw [← List.length_append]
      exact hroom.2
    omega

/-- A write that does not overflow keeps the account. -/
theorem Filled.writeBuf (h : b.Filled data) (hne : 0 < buf.length)
    (hint : b.pBuf.isSome → b.wPos + buf.length < 2 ^ 31) :
    ∃ b' wrote, b.writeBuf buf = some (b', wrote) ∧ b'.Filled (data ++ buf) := by
  cases hmem : b.pBuf with
  | none => exact ⟨b, false, by rw [LineBuffer.writeBuf, hmem], h.no_memory hmem⟩
  | some mem =>
      rw [writeBuf_of_mem hmem hne (hint (by rw [hmem]; rfl))]
      split
      · rename_i hfits
        exact ⟨_, true, rfl, h.written hmem hfits⟩
      · rename_i hfull
        exact ⟨b, false, rfl, h.refused hne hfull⟩

/-- A write that is defined does not overflow. -/
theorem int_of_writeBuf {r : LineBuffer × Bool} (h : b.writeBuf buf = some r)
    (hne : 0 < buf.length) (hmem : b.pBuf.isSome) : b.wPos + buf.length < 2 ^ 31 := by
  obtain ⟨mem, hsome⟩ := Option.isSome_iff_exists.mp hmem
  by_contra hover
  simp only [LineBuffer.writeBuf, hsome, if_pos hne, if_neg hover] at h
  cases h

/-! ### Key frames -/

/-- All that was given to the buffer is in it, and the key frame fits behind it, if
need be after a resize to twice the frame. -/
def Fits (b : LineBuffer) (size frame : Nat) (realloc : Bool) : Prop :=
  b.Roomy size ∧
    if b.bufLen - size < frame then realloc = true ∧ size < frame else size + frame < b.bufLen

instance (b : LineBuffer) (size frame : Nat) (realloc : Bool) :
    Decidable (b.Fits size frame realloc) :=
  inferInstanceAs (Decidable (_ ∧ _))

theorem resetBuf_of_mem (hmem : b.pBuf = some mem) (size : Nat) (realloc : Bool) :
    b.resetBuf size realloc =
      if realloc then { b with pBuf := some (mem.take size), bufLen := size } else b := by
  have hpos : (0 : Int) ≤ size := Int.natCast_nonneg size
  simp only [resetBuf, hmem, hpos, true_and, Int.toNat_natCast]

theorem content_of_mem (hmem : b.pBuf = some mem) (hread : b.rPos < b.wPos)
    (hinside : b.wPos ≤ b.bufLen) : b.content = some ((mem.take b.wPos).drop b.rPos) := by
  rw [content, hmem]
  exact (if_pos hread).trans (if_pos hinside)

/-- What is read has no more bytes than were written. -/
theorem length_content_le (h : b.content = some data) : data.length ≤ b.wPos := by
  unfold content at h
  split at h
  · split at h
    · split at h
      · cases h
        rw [List.length_drop, List.length_take]
        omega
      · cases h
    · cases h
      exact Nat.zero_le _
  · cases h
    exact Nat.zero_le _

/-- The buffer in which the key frame is written. -/
def resized (b : LineBuffer) (frame : Nat) (realloc : Bool) : LineBuffer :=
  if b.freeSize < frame then b.resetBuf (AvFrame.toInt (2 * frame)) realloc else b

theorem finishFrame_eq (b : LineBuffer) (buf : List UInt8) (realloc : Bool) :
    b.finishFrame buf realloc =
      ((b.resized buf.length realloc).writeBuf buf).bind fun r =>
        r.1.content.map fun data => (r.1.clear, data) := rfl

theorem Filled.freeSize (h : b.Filled data) : b.freeSize = (b.bufLen - b.wPos : Nat) := by
  have hinside := h.inside
  rw [LineBuffer.freeSize, dataSize, h.rPos]
  omega

theorem Filled.resized_of_mem (h : b.Filled data) (hmem : b.pBuf = some mem) {frame : Nat}
    (hlt : frame < 2 ^ 30) (realloc : Bool) :
    b.resized frame realloc =
      if b.bufLen - b.wPos < frame ∧ realloc then
        { b with pBuf := some (mem.take (2 * frame)), bufLen := 2 * frame }
      else b := by
  unfold resized
  rw [h.freeSize]
  by_cases hlow : b.bufLen - b.wPos < frame
  · rw [if_pos (by omega)]
    rw [AvFrame.toInt_eq_iff.mpr (by omega : 2 * frame < 2 ^ 31), resetBuf_of_mem hmem]
    simp only [hlow, true_and]
  · rw [if_neg (by omega), if_neg fun hboth => hlow hboth.1]

theorem Filled.bufLen_resized (h : b.Filled data) {frame : Nat} (hpos : 0 < frame)
    (hlt : frame < 2 ^ 30) (realloc : Bool) :
    0 < (b.resized frame realloc).bufLen ∧ (b.resized frame realloc).bufLen < 2 ^ 31 := by
  have hinside := h.inside
  have hint := h.bufLen
  cases hmem : b.pBuf with
  | none =>
      have hsame : b.resized frame realloc = b := by
        simp only [resized, resetBuf, hmem, ite_self]
      rw [hsame]
      omega
  | some mem =>
      rw [h.resized_of_mem hmem hlt]
      split
      · dsimp only
        omega
      · omega

theorem wPos_resized (b : LineBuffer) (frame : Nat) (realloc : Bool) :
    (b.resized frame realloc).wPos = b.wPos := by
  unfold resized resetBuf
  split
  · split
    · split <;> rfl
    · rfl
  · rfl

theorem pBuf_resized (b : LineBuffer) (frame : Nat) (realloc : Bool) :
    (b.resized frame realloc).pBuf.isSome = b.pBuf.isSome := by
  unfold resized resetBuf
  split
  · split
    · rename_i hmem
      rw [hmem]
      split
      · rfl
      · rw [hmem]
    · rfl
  · rfl

/-- What a write leaves behind when it is taken, and when it is refused. -/
theorem writeBuf_cases {b' : LineBuffer} {wrote : Bool} (h : b.writeBuf buf = some (b', wrote)) :
    (b.pBuf.isSome ∧ b.wPos + buf.length < b.bufLen ∧ b'.wPos = b.wPos + buf.length) ∨ b' = b := by
  unfold LineBuffer.writeBuf at h
  split at h
  · rename_i hmem
    split_ifs at h with hpos hint hfits
    · cases h
      exact .inl ⟨by rw [hmem]; rfl, hfits, rfl⟩
    · cases h
      exact .inr rfl
    · cases h
      exact .inr rfl
  · cases h
    exact .inr rfl

theorem writeBuf_bufLen {b' : LineBuffer} {wrote : Bool} (h : b.writeBuf buf = some (b', wrote)) :
    b'.bufLen = b.bufLen := by
  unfold LineBuffer.writeBuf at h
  split at h
  · split_ifs at h <;> cases h <;> rfl
  · cases h
    rfl

/-- After a key frame the buffer is empty. -/
theorem Filled.finishFrame (h : b.Filled data) (hpos : 0 < buf.length)
    (hlt : buf.length < 2 ^ 30) {b' : LineBuffer} {out : List UInt8}
    (hfinish : b.finishFrame buf realloc = some (b', out)) : b'.Filled [] := by
  rw [finishFrame_eq] at hfinish
  obtain ⟨⟨b'', wrote⟩, hwrite, hread⟩ := Option.bind_eq_some_iff.mp hfinish
  obtain ⟨content, -, hpair⟩ := Option.map_eq_some_iff.mp hread
  cases hpair
  obtain ⟨hsize, hint⟩ := h.bufLen_resized hpos hlt realloc
  rw [← writeBuf_bufLen hwrite] at hsize hint
  exact filled_clear hsize hint

/-- A key frame that fits is read with all that was written before it. -/
theorem Filled.finishFrame_of_fits (h : b.Filled data) (hpos : 0 < buf.length)
    (hlt : buf.length < 2 ^ 30) (hfits : b.Fits data.length buf.length realloc) :
    ∃ b', b.finishFrame buf realloc = some (b', data ++ buf) := by
  obtain ⟨hroom, hfit⟩ := hfits
  obtain ⟨mem, hmem⟩ := Option.isSome_iff_exists.mp hroom.1
  have hcovered := h.covered mem hmem
  have hwhole := h.whole hroom mem hmem
  have hwPos := h.wPos_eq hroom
  have hint := h.bufLen
  -- In both cases the data written so far is kept, and the frame fits behind it.
  obtain ⟨mem', hmem', hkept, hcovered', hbehind⟩ : ∃ mem',
      (b.resized buf.length realloc).pBuf = some mem' ∧ mem'.take b.wPos = data ∧
        b.wPos ≤ mem'.length ∧
        b.wPos + buf.length < (b.resized buf.length realloc).bufLen := by
    rw [h.resized_of_mem hmem hlt]
    by_cases hlow : b.bufLen - data.length < buf.length
    · rw [if_pos hlow] at hfit
      rw [if_pos ⟨by rw [hwPos]; exact hlow, hfit.1⟩]
      refine ⟨mem.take (2 * buf.length), rfl, ?_, ?_, ?_⟩
      · rw [List.take_take, Nat.min_eq_left (by omega), hwhole]
      · rw [List.length_take]
        omega
      · dsimp only
        omega
    · rw [if_neg hlow] at hfit
      rw [if_neg fun hboth => hlow (by rw [← hwPos]; exact hboth.1)]
      exact ⟨mem, hmem, hwhole, hcovered, by rw [hwPos]; exact hfit⟩
  have hwritePos : (b.resized buf.length realloc).wPos = b.wPos ∧
      (b.resized buf.length realloc).rPos = 0 := by
    rw [h.resized_of_mem hmem hlt, ← h.rPos]
    split <;> exact ⟨rfl, rfl⟩
  have hbound := (h.bufLen_resized hpos hlt realloc).2
  rw [finishFrame_eq]
  generalize b.resized buf.length realloc = b₁ at hmem' hbehind hwritePos hbound ⊢
  rw [← hwritePos.1] at hbehind hkept hcovered'
  rw [writeBuf_of_mem hmem' hpos (by omega), if_pos hbehind]
  have hcontent : ({ b₁ with
      pBuf := some (mem'.take b₁.wPos ++ buf ++ mem'.drop (b₁.wPos + buf.length))
      wPos := b₁.wPos + buf.length } : LineBuffer).content = some (data ++ buf) := by
    have hread : b₁.rPos < b₁.wPos + buf.length := by omega
    refine (content_of_mem rfl hread (Nat.le_of_lt hbehind)).trans ?_
    dsimp only
    rw [take_written hcovered', hwritePos.2, List.drop_zero, hkept]
  exact ⟨_, congrArg (Option.map fun data => (LineBuffer.clear _, data)) hcontent⟩

/-- A key frame that does not fit is read with less than was written before it. -/
theorem Filled.fits_of_finishFrame (h : b.Filled data) (hpos : 0 < buf.length)
    (hlt : buf.length < 2 ^ 30) {b' : LineBuffer}
    (hfinish : b.finishFrame buf realloc = some (b', data ++ buf)) :
    b.Fits data.length buf.length realloc := by
  rw [finishFrame_eq] at hfinish
  obtain ⟨⟨b₂, wrote⟩, hwrite, hread⟩ := Option.bind_eq_some_iff.mp hfinish
  obtain ⟨content, hcontent, hpair⟩ := Option.map_eq_some_iff.mp hread
  have hout : content = data ++ buf := congrArg Prod.snd hpair
  subst hout
  have hlen : data.length + buf.length ≤ b₂.wPos := by
    rw [← List.length_append]
    exact length_content_le hcontent
  have hpart := h.part
  have hwPos : (b.resized buf.length realloc).wPos = b.wPos := wPos_resized b buf.length realloc
  rcases writeBuf_cases hwrite with ⟨hmem, hbehind, hwritten⟩ | hsame
  · have hall : b.wPos = data.length := by omega
    have hmem' : b.pBuf.isSome := by rwa [pBuf_resized] at hmem
    obtain ⟨mem, hsome⟩ := Option.isSome_iff_exists.mp hmem'
    have hroom : b.Roomy data.length := by
      by_contra hnot
      exact absurd (h.lost hmem' hnot) (by omega)
    refine ⟨hroom, ?_⟩
    rw [h.resized_of_mem hsome hlt, hall] at hbehind
    split
    · rename_i hlow
      by_cases hgrown : realloc = true
      · rw [if_pos ⟨hlow, hgrown⟩] at hbehind
        have hlt : data.length + buf.length < 2 * buf.length := hbehind
        exact ⟨hgrown, by omega⟩
      · rw [if_neg fun hboth => hgrown hboth.2] at hbehind
        omega
    · rename_i hhigh
      rw [if_neg fun hboth => hhigh hboth.1] at hbehind
      omega
  · -- Without the frame there is less than the frame alone.
    rw [hsame, hwPos] at hlen
    omega

end LineBuffer

end SignalingServer
