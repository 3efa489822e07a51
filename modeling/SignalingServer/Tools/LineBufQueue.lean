import SignalingServer.Lib.Fifo
import SignalingServer.Lib.Lts
import SignalingServer.Tools.LineBuf

/-!
The buffer of `tools/lineBuf.cpp` as a queue of bytes: any calls in any order, with the
account of the bytes that came in and of those that were read. It is a queue as long as
no write fills it to its last place, no resize cuts below the write position, and the
sums of position and size are `int`s.
-/

namespace SignalingServer

namespace LineBuffer

/-- A call. The bytes of `setWriteSize` are those the memory has from `writePos()` on, and
`resetBuf` comes with whether `realloc` succeeds. -/
inductive Op where
  | writeBuf (buf : List UInt8)
  | setWriteSize (stored : List UInt8)
  | setReadSize (size : Nat)
  | dataForward
  | resetBuf (size : Nat) (realloc : Bool)
  | clear
  deriving DecidableEq, Repr

/-- The buffer with the account of its bytes since the last `clear()`. -/
structure Traced where
  buf : LineBuffer
  log : Fifo.Log UInt8 := {}

/-- One call; `none` where it is undefined. The reader takes the first `size` bytes that
`data()` shows before it calls `setReadSize(size)`. -/
def step : Lts.Step Traced Op
  | ⟨b, log⟩, .writeBuf buf =>
      (b.writeBuf buf).map fun r => ⟨r.1, if r.2 then log.push buf else log⟩
  | ⟨b, log⟩, .setWriteSize stored =>
      (b.setWriteSize stored).map fun b' =>
        ⟨b', if b.pBuf.isSome ∧ b.wPos + stored.length ≤ b.bufLen then log.push stored else log⟩
  | ⟨b, log⟩, .setReadSize size =>
      b.content.bind fun data => (b.setReadSize size).map fun b' =>
        ⟨b', if b.rPos + size ≤ b.wPos then log.pop (data.take size) else log⟩
  | ⟨b, log⟩, .dataForward => b.dataForward.map fun b' => ⟨b', log⟩
  | ⟨b, log⟩, .resetBuf size realloc =>
      -- `realloc` to no bytes gives the memory back, and `pBuf` still points to it.
      if b.pBuf.isSome ∧ size = 0 then none else some ⟨b.resetBuf size realloc, log⟩
  | ⟨b, _⟩, .clear => some ⟨b.clear, {}⟩

/-- What is expected of a call, from the states before and after it. -/
structure Expected (s : Traced) (op : Op) (s' : Traced) : Prop where
  positions : s'.buf.rPos ≤ s'.buf.wPos ∧ s'.buf.wPos ≤ s'.buf.bufLen
  inOrder : s'.log.consumed <+: s'.log.written
  kept : ∀ size realloc, op = .resetBuf size realloc → s.buf.dataSize ≤ size →
    s'.buf.content = s.buf.content
  taken : ∀ buf, op = .writeBuf buf → 0 < buf.length →
    ((s.buf.writeBuf buf).map Prod.snd = some true ↔ (buf.length : Int) ≤ s.buf.tailSize)

/-- When a call does what is expected of it. -/
def Op.Sound (b : LineBuffer) : Op → Prop
  | .writeBuf buf => 0 < buf.length →
      (b.pBuf.isSome → b.wPos + buf.length < 2 ^ 31 ∧ b.wPos + buf.length ≠ b.bufLen) ∧
        (b.pBuf.isNone → b.bufLen < b.wPos + buf.length)
  | .setWriteSize stored => b.wPos + stored.length < 2 ^ 31
  | .setReadSize size => b.rPos + size < 2 ^ 31
  | .dataForward => True
  | .resetBuf size realloc => b.pBuf.isSome → 0 < size ∧ (realloc = true → b.wPos ≤ size)
  | .clear => True

instance (b : LineBuffer) : (op : Op) → Decidable (op.Sound b)
  | .writeBuf _ => inferInstanceAs (Decidable (_ → _))
  | .setWriteSize _ => inferInstanceAs (Decidable (_ < _))
  | .setReadSize _ => inferInstanceAs (Decidable (_ < _))
  | .dataForward => isTrue trivial
  | .resetBuf _ _ => inferInstanceAs (Decidable (_ → _))
  | .clear => isTrue trivial

variable {b b' : LineBuffer} {mem buf : List UInt8} {log : Fifo.Log UInt8}

/-- The bytes between the two positions. -/
def held (b : LineBuffer) : List UInt8 :=
  match b.pBuf with
  | some mem => (mem.take b.wPos).drop b.rPos
  | none => []

theorem held_of_mem (hmem : b.pBuf = some mem) : b.held = (mem.take b.wPos).drop b.rPos := by
  rw [held, hmem]

theorem held_of_null (hmem : b.pBuf = none) : b.held = [] := by
  rw [held, hmem]

/-- The positions are in order, inside the buffer and inside what has been written. -/
structure Valid (b : LineBuffer) : Prop where
  read : b.rPos ≤ b.wPos
  write : b.wPos ≤ b.bufLen
  covered : ∀ mem, b.pBuf = some mem → b.wPos ≤ mem.length

theorem valid_new (size : Nat) (malloc : Bool) : (new size malloc).Valid where
  read := Nat.le_refl _
  write := Nat.zero_le _
  covered _ _ := Nat.zero_le _

theorem held_new (size : Nat) (malloc : Bool) : (new size malloc).held = [] := by
  by_cases hmem : 0 < size ∧ malloc
  · exact held_of_mem (if_pos hmem)
  · exact held_of_null (if_neg hmem)

theorem Valid.clear (b : LineBuffer) : b.clear.Valid where
  read := Nat.le_refl _
  write := Nat.zero_le _
  covered _ _ := Nat.zero_le _

theorem held_clear (b : LineBuffer) : b.clear.held = [] := by
  cases hmem : b.pBuf with
  | none => exact held_of_null hmem
  | some mem => exact held_of_mem hmem

/-- What `data()` shows. -/
theorem Valid.content (h : b.Valid) : b.content = some b.held := by
  cases hmem : b.pBuf with
  | none => rw [LineBuffer.content, held, hmem]
  | some mem =>
      rw [held_of_mem hmem]
      by_cases hread : b.rPos < b.wPos
      · exact content_of_mem hmem hread h.write
      · have hempty : (mem.take b.wPos).drop b.rPos = [] := by
          apply List.drop_eq_nil_of_le
          rw [List.length_take]
          omega
        simp only [LineBuffer.content, hmem, gt_iff_lt, if_neg hread, hempty]

/-- The buffer with bytes put behind those it has. -/
def stored (b : LineBuffer) (mem buf : List UInt8) : LineBuffer :=
  { b with
    pBuf := some (mem.take b.wPos ++ buf ++ mem.drop (b.wPos + buf.length))
    wPos := b.wPos + buf.length }

theorem Valid.stored (h : b.Valid) (hmem : b.pBuf = some mem)
    (hfits : b.wPos + buf.length ≤ b.bufLen) : (b.stored mem buf).Valid where
  read := Nat.le_add_right_of_le h.read
  write := hfits
  covered := by
    rintro mem' ⟨⟩
    have hcovered := h.covered mem hmem
    simp only [LineBuffer.stored, List.length_append, List.length_take]
    omega

theorem Valid.held_stored (h : b.Valid) (hmem : b.pBuf = some mem) (buf : List UInt8) :
    (b.stored mem buf).held = b.held ++ buf := by
  have hcovered := h.covered mem hmem
  have hread : b.rPos ≤ (mem.take b.wPos).length := by
    rw [List.length_take, Nat.min_eq_left hcovered]
    exact h.read
  rw [held_of_mem hmem, held_of_mem (b := b.stored mem buf) rfl]
  show ((mem.take b.wPos ++ buf ++ mem.drop (b.wPos + buf.length)).take
    (b.wPos + buf.length)).drop b.rPos = _
  rw [take_written hcovered, List.drop_append_of_le_length hread]

/-- Both positions at the end of the bytes are both at the start. -/
theorem held_restart (hall : b.rPos = b.wPos) :
    held { b with rPos := 0, wPos := 0 } = b.held := by
  cases hmem : b.pBuf with
  | none => exact (held_of_null rfl).trans (held_of_null hmem).symm
  | some mem =>
      have hnone : (mem.take b.wPos).drop b.rPos = [] := by
        rw [hall]
        exact List.drop_eq_nil_of_le (List.length_take_le _ _)
      rw [held_of_mem hmem, hnone]
      exact held_of_mem rfl

theorem Valid.setReadSize (h : b.Valid) {size : Nat} (hint : b.rPos + size < 2 ^ 31) :
    ∃ b', b.setReadSize size = some b' ∧ b'.Valid ∧
      b'.held = if b.rPos + size ≤ b.wPos then b.held.drop size else b.held := by
  rw [LineBuffer.setReadSize, if_pos hint]
  -- First the position moves, and then both start again where nothing is left.
  obtain ⟨b₁, hmoved, hvalid, hheld⟩ : ∃ b₁,
      (if b.rPos + size ≤ b.wPos then { b with rPos := b.rPos + size } else b) = b₁ ∧
        b₁.Valid ∧ b₁.held = if b.rPos + size ≤ b.wPos then b.held.drop size else b.held := by
    refine ⟨_, rfl, ?_⟩
    split
    · rename_i hfits
      refine ⟨⟨hfits, h.write, h.covered⟩, ?_⟩
      cases hmem : b.pBuf with
      | none => rw [held_of_null (b := b) hmem, List.drop_nil, held_of_null rfl]
      | some mem => rw [held_of_mem (b := b) hmem, List.drop_drop, held_of_mem rfl]
    · exact ⟨h, rfl⟩
  rw [hmoved]
  refine ⟨_, rfl, ?_⟩
  split
  · rename_i hall
    exact ⟨⟨Nat.le_refl _, Nat.zero_le _, fun _ _ => Nat.zero_le _⟩,
      (held_restart hall).trans hheld⟩
  · exact ⟨hvalid, hheld⟩

theorem Valid.dataForward (h : b.Valid) :
    ∃ b', b.dataForward = some b' ∧ b'.Valid ∧ b'.held = b.held := by
  cases hmem : b.pBuf with
  | none => exact ⟨b, by rw [LineBuffer.dataForward, hmem], h, rfl⟩
  | some mem =>
      have hlen : ((mem.take b.wPos).drop b.rPos).length = b.wPos - b.rPos := by
        rw [List.length_drop, List.length_take, Nat.min_eq_left (h.covered mem hmem)]
      simp only [LineBuffer.dataForward, hmem, if_pos (And.intro h.read h.write)]
      refine ⟨_, rfl, ⟨Nat.zero_le _, ?_, ?_⟩, ?_⟩
      · exact Nat.le_trans (Nat.sub_le _ _) h.write
      · rintro mem' ⟨⟩
        show b.wPos - b.rPos ≤ _
        rw [List.length_append, hlen]
        exact Nat.le_add_right _ _
      · rw [held_of_mem hmem]
        exact List.take_left' hlen

theorem Valid.resetBuf (h : b.Valid) {size : Nat} {realloc : Bool}
    (hkept : b.pBuf.isSome → realloc = true → b.wPos ≤ size) :
    (b.resetBuf size realloc).Valid ∧ (b.resetBuf size realloc).held = b.held := by
  cases hmem : b.pBuf with
  | none =>
      simp only [LineBuffer.resetBuf, hmem]
      exact ⟨h, trivial⟩
  | some mem =>
      rw [resetBuf_of_mem hmem]
      split
      · rename_i hgrown
        have hle : b.wPos ≤ size := hkept (by rw [hmem]; rfl) hgrown
        refine ⟨⟨h.read, hle, ?_⟩, ?_⟩
        · rintro mem' ⟨⟩
          show b.wPos ≤ (mem.take size).length
          rw [List.length_take]
          exact Nat.le_min.mpr ⟨hle, h.covered mem hmem⟩
        · rw [held_of_mem hmem, @held_of_mem _ (mem.take size) rfl]
          show ((mem.take size).take b.wPos).drop b.rPos = _
          rw [List.take_take, Nat.min_eq_left hle]
      · exact ⟨h, rfl⟩

/-! ### Calls that are defined -/

theorem int_of_setWriteSize (h : b.setWriteSize buf = some b') :
    b.wPos + buf.length < 2 ^ 31 := by
  by_contra hover
  rw [setWriteSize, if_neg hover] at h
  cases h

theorem int_of_setReadSize {size : Nat} (h : b.setReadSize size = some b') :
    b.rPos + size < 2 ^ 31 := by
  by_contra hover
  rw [LineBuffer.setReadSize, if_neg hover] at h
  cases h

/-! ### The account of a run -/

/-- The state between two calls: a valid buffer that holds what was put in and not read. -/
structure Traced.Queue (s : Traced) : Prop where
  valid : s.buf.Valid
  account : s.log.Accounts s.buf.held

namespace Traced.Queue

variable {s : Traced}

theorem writeBuf (h : s.Queue) (hsound : (Op.writeBuf buf).Sound s.buf) :
    ∃ s', step s (.writeBuf buf) = some s' ∧ s'.Queue := by
  cases hmem : s.buf.pBuf with
  | none =>
      have hwrite : s.buf.writeBuf buf = some (s.buf, false) := by
        rw [LineBuffer.writeBuf, hmem]
      exact ⟨s, congrArg (Option.map _) hwrite, h⟩
  | some mem =>
      by_cases hne : 0 < buf.length
      · obtain ⟨hint, -⟩ := (hsound hne).1 (by rw [hmem]; rfl)
        have hwrite := writeBuf_of_mem hmem hne hint
        split at hwrite
        · rename_i hfits
          refine ⟨⟨s.buf.stored mem buf, s.log.push buf⟩, congrArg (Option.map _) hwrite, ?_, ?_⟩
          · exact h.valid.stored hmem (Nat.le_of_lt hfits)
          · show (s.log.push buf).Accounts (s.buf.stored mem buf).held
            rw [h.valid.held_stored hmem]
            exact h.account.push buf
        · exact ⟨s, congrArg (Option.map _) hwrite, h⟩
      · have hwrite : s.buf.writeBuf buf = some (s.buf, false) := by
          simp only [LineBuffer.writeBuf, hmem, if_neg hne]
        exact ⟨s, congrArg (Option.map _) hwrite, h⟩

theorem setWriteSize (h : s.Queue) (hint : s.buf.wPos + buf.length < 2 ^ 31) :
    ∃ s', step s (.setWriteSize buf) = some s' ∧ s'.Queue := by
  have hstep : step s (.setWriteSize buf) = (s.buf.setWriteSize buf).map fun b' =>
      ⟨b', if s.buf.pBuf.isSome ∧ s.buf.wPos + buf.length ≤ s.buf.bufLen
        then s.log.push buf else s.log⟩ := rfl
  rw [hstep, LineBuffer.setWriteSize, if_pos hint]
  by_cases hfits : s.buf.wPos + buf.length ≤ s.buf.bufLen
  · rw [if_pos hfits]
    cases hmem : s.buf.pBuf with
    | none =>
        -- Without memory the position moves and nothing is held.
        refine ⟨⟨{ s.buf with pBuf := none, wPos := s.buf.wPos + buf.length }, s.log⟩, ?_, ?_⟩
        · simp
        · refine ⟨⟨Nat.le_add_right_of_le h.valid.read, hfits, by rintro mem ⟨⟩⟩, ?_⟩
          have haccount := h.account
          rw [held_of_null hmem] at haccount
          exact haccount
    | some mem =>
        refine ⟨⟨s.buf.stored mem buf, s.log.push buf⟩, ?_, h.valid.stored hmem hfits, ?_⟩
        · simp [hfits, stored]
        · show (s.log.push buf).Accounts (s.buf.stored mem buf).held
          rw [h.valid.held_stored hmem]
          exact h.account.push buf
  · rw [if_neg hfits]
    refine ⟨s, ?_, h⟩
    simp only [Option.map_some, hfits, and_false, if_false]

theorem setReadSize (h : s.Queue) {size : Nat} (hint : s.buf.rPos + size < 2 ^ 31) :
    ∃ s', step s (.setReadSize size) = some s' ∧ s'.Queue := by
  obtain ⟨b', hread, hvalid, hheld⟩ := h.valid.setReadSize hint
  have hstep : step s (.setReadSize size) =
      s.buf.content.bind fun data => (s.buf.setReadSize size).map fun b' =>
        ⟨b', if s.buf.rPos + size ≤ s.buf.wPos then s.log.pop (data.take size) else s.log⟩ := rfl
  rw [hstep, h.valid.content, hread]
  refine ⟨_, rfl, hvalid, ?_⟩
  show Fifo.Log.Accounts _ b'.held
  rw [hheld]
  split
  · exact h.account.pop size
  · exact h.account

theorem dataForward (h : s.Queue) : ∃ s', step s .dataForward = some s' ∧ s'.Queue := by
  obtain ⟨b', hmove, hvalid, hheld⟩ := h.valid.dataForward
  refine ⟨⟨b', s.log⟩, congrArg (Option.map _) hmove, hvalid, ?_⟩
  exact hheld ▸ h.account

theorem resetBuf (h : s.Queue) {size : Nat} {realloc : Bool}
    (hsound : (Op.resetBuf size realloc).Sound s.buf) :
    ∃ s', step s (.resetBuf size realloc) = some s' ∧ s'.Queue ∧
      s'.buf.content = s.buf.content := by
  have hpos : ¬ (s.buf.pBuf.isSome ∧ size = 0) := by
    rintro ⟨hmem, rfl⟩
    exact Nat.lt_irrefl 0 (hsound hmem).1
  obtain ⟨hvalid, hheld⟩ := h.valid.resetBuf fun hmem => (hsound hmem).2
  refine ⟨⟨s.buf.resetBuf size realloc, s.log⟩, if_neg hpos, ⟨hvalid, ?_⟩, ?_⟩
  · exact hheld ▸ h.account
  · rw [hvalid.content, h.valid.content, hheld]

theorem clear (s : Traced) : Traced.Queue ⟨s.buf.clear, {}⟩ := by
  refine ⟨Valid.clear s.buf, ?_⟩
  show Fifo.Log.Accounts {} s.buf.clear.held
  rw [held_clear]
  exact Fifo.Log.accounts_empty

/-- A queue takes a write exactly when the bytes fit behind the others, given that they
do not fill the buffer. -/
theorem taken_iff (h : s.Queue) (hne : 0 < buf.length) (hsound : (Op.writeBuf buf).Sound s.buf) :
    (s.buf.writeBuf buf).map Prod.snd = some true ↔ (buf.length : Int) ≤ s.buf.tailSize := by
  have hwrite := h.valid.write
  obtain ⟨hsome, hnone⟩ := hsound hne
  unfold tailSize
  cases hmem : s.buf.pBuf with
  | none =>
      have hover := hnone (by rw [hmem]; rfl)
      simp only [LineBuffer.writeBuf, hmem, Option.map_some, Option.some.injEq,
        Bool.false_eq_true, false_iff]
      omega
  | some mem =>
      obtain ⟨hint, hexact⟩ := hsome (by rw [hmem]; rfl)
      rw [writeBuf_of_mem hmem hne hint]
      split
      · simp only [Option.map_some, true_iff]
        omega
      · simp only [Option.map_some, Option.some.injEq, Bool.false_eq_true, false_iff]
        omega

/-- A call that keeps the account does what is expected of it in the positions and in the
order of the bytes. -/
theorem expected {s' : Traced} {op : Op} (h' : s'.Queue)
    (hkept : ∀ size realloc, op = .resetBuf size realloc → s'.buf.content = s.buf.content)
    (htaken : ∀ buf, op = .writeBuf buf → 0 < buf.length →
      ((s.buf.writeBuf buf).map Prod.snd = some true ↔ (buf.length : Int) ≤ s.buf.tailSize)) :
    Expected s op s' where
  positions := ⟨h'.valid.read, h'.valid.write⟩
  inOrder := h'.account.prefix
  kept size realloc hop _ := hkept size realloc hop
  taken := htaken

/-- A call of a queue under the condition. -/
theorem step_of_sound (h : s.Queue) {op : Op} (hsound : op.Sound s.buf) :
    ∃ s', step s op = some s' ∧ Expected s op s' ∧ s'.Queue := by
  cases op with
  | writeBuf buf =>
      obtain ⟨s', hstep, h'⟩ := h.writeBuf hsound
      refine ⟨s', hstep, h'.expected (by rintro _ _ ⟨⟩) ?_, h'⟩
      rintro _ ⟨⟩ hne
      exact h.taken_iff hne hsound
  | setWriteSize stored =>
      obtain ⟨s', hstep, h'⟩ := h.setWriteSize hsound
      exact ⟨s', hstep, h'.expected (by rintro _ _ ⟨⟩) (by rintro _ ⟨⟩), h'⟩
  | setReadSize size =>
      obtain ⟨s', hstep, h'⟩ := h.setReadSize hsound
      exact ⟨s', hstep, h'.expected (by rintro _ _ ⟨⟩) (by rintro _ ⟨⟩), h'⟩
  | dataForward =>
      obtain ⟨s', hstep, h'⟩ := h.dataForward
      exact ⟨s', hstep, h'.expected (by rintro _ _ ⟨⟩) (by rintro _ ⟨⟩), h'⟩
  | resetBuf size realloc =>
      obtain ⟨s', hstep, h', hcontent⟩ := h.resetBuf hsound
      refine ⟨s', hstep, h'.expected ?_ (by rintro _ ⟨⟩), h'⟩
      rintro _ _ ⟨⟩
      exact hcontent
  | clear => exact ⟨_, rfl, (clear s).expected (by rintro _ _ ⟨⟩) (by rintro _ ⟨⟩), clear s⟩

/-- A call that is defined and does what is expected meets the condition. -/
theorem sound_of_expected (h : s.Queue) {op : Op} {s' : Traced} (hstep : step s op = some s')
    (hexpected : Expected s op s') : op.Sound s.buf := by
  have hwrite := h.valid.write
  cases op with
  | writeBuf buf =>
      intro hne
      have htaken := hexpected.taken buf rfl hne
      unfold tailSize at htaken
      obtain ⟨r, hr, -⟩ := Option.map_eq_some_iff.mp hstep
      cases hmem : s.buf.pBuf with
      | none =>
          refine ⟨by rintro ⟨⟩, fun _ => ?_⟩
          simp only [LineBuffer.writeBuf, hmem, Option.map_some, Option.some.injEq,
            Bool.false_eq_true, false_iff] at htaken
          omega
      | some mem =>
          have hint := int_of_writeBuf hr hne (by rw [hmem]; rfl)
          refine ⟨fun _ => ⟨hint, fun hexact => ?_⟩, by rintro ⟨⟩⟩
          rw [writeBuf_of_mem hmem hne hint, if_neg (by omega)] at htaken
          exact absurd (htaken.mpr (by omega)) (by simp)
  | setWriteSize stored =>
      obtain ⟨b', hb', -⟩ := Option.map_eq_some_iff.mp hstep
      exact int_of_setWriteSize hb'
  | setReadSize size =>
      obtain ⟨data, -, hread⟩ := Option.bind_eq_some_iff.mp hstep
      obtain ⟨b', hb', -⟩ := Option.map_eq_some_iff.mp hread
      exact int_of_setReadSize hb'
  | dataForward => trivial
  | resetBuf size realloc =>
      intro hmem
      have hdefined : step s (.resetBuf size realloc) =
          if s.buf.pBuf.isSome ∧ size = 0 then none
          else some ⟨s.buf.resetBuf size realloc, s.log⟩ := rfl
      rw [hdefined] at hstep
      split_ifs at hstep with hfreed
      cases hstep
      refine ⟨Nat.pos_of_ne_zero fun hzero => hfreed ⟨hmem, hzero⟩, fun hgrown => ?_⟩
      obtain ⟨mem, hsome⟩ := Option.isSome_iff_exists.mp hmem
      have hinside := hexpected.positions.2
      rw [resetBuf_of_mem hsome, if_pos hgrown] at hinside
      exact hinside
  | clear => trivial

theorem new (size : Nat) (malloc : Bool) : Traced.Queue ⟨LineBuffer.new size malloc, {}⟩ := by
  refine ⟨valid_new size malloc, ?_⟩
  show Fifo.Log.Accounts {} (LineBuffer.new size malloc).held
  rw [held_new]
  exact Fifo.Log.accounts_empty

/-- Calls of a queue are what is expected exactly when they meet the condition in turn. -/
theorem completes_iff (h : s.Queue) (ops : List Op) :
    Lts.Completes step Expected s ops ↔ Lts.Checked step (fun s op => op.Sound s.buf) s ops :=
  Lts.completes_iff_checked (fun _ _ h hsound => h.step_of_sound hsound)
    (fun _ _ _ h hstep hexpected => h.sound_of_expected hstep hexpected) h

end Traced.Queue

/-- A new buffer is a queue for any calls in any order exactly when no write fills it to
the last place, no resize cuts below the write position or to nothing, the sums of position
and size are `int`s, and what is written to a buffer without memory is longer than it. -/
theorem queue_iff (size : Nat) (malloc : Bool) (ops : List Op) :
    Lts.Completes step Expected ⟨new size malloc, {}⟩ ops ↔
      Lts.Checked step (fun s op => op.Sound s.buf) ⟨new size malloc, {}⟩ ops :=
  (Traced.Queue.new size malloc).completes_iff ops

/-- Four bytes are not taken by an empty buffer of four bytes, and a resize to the bytes
that are left cuts them off when others were read before them. -/
theorem not_queue_full_or_cut :
    ¬ Lts.Completes step Expected ⟨new 4 true, {}⟩ [.writeBuf [1, 2, 3, 4]] ∧
      ¬ Lts.Completes step Expected ⟨new 8 true, {}⟩
        [.writeBuf [1, 2, 3, 4, 5, 6], .setReadSize 4, .resetBuf 4 true] := by
  rw [(Traced.Queue.new 4 true).completes_iff, (Traced.Queue.new 8 true).completes_iff]
  decide

end LineBuffer

end SignalingServer
