import Mathlib.Data.List.TakeWhile
import SignalingServer.Media.HeaderSync
import SignalingServer.Tools.LineBufQueue

/-!
What the callbacks of a device stream read (`media/mediaIn/JsonStream.cpp`): the bytes that
`PraseFrameHeard` looks at, and the ranges that the two handlers pass on. All of them are
chosen by the bytes of the buffer, its length and the buffer of the stream.
-/

namespace SignalingServer

/-- A range of bytes: of the data of the callback, or `data()` with `dataSize()` of the buffer
of the stream. -/
inductive Access where
  | input (pos len : Nat)
  | frame (b : LineBuffer)
  deriving DecidableEq, Repr

/-- The bytes are in the data, or have been written to the buffer. -/
def Access.Inside (data : List UInt8) : Access → Prop
  | .input pos len => pos + len ≤ data.length
  | .frame b => ∃ bytes, b.content = some bytes ∧ (bytes.length : Int) = b.dataSize

/-! ### `PraseFrameHeard` -/

/-- The fields of `ReadBasicHeardFormBuf`, with their places. -/
def basicFields : List (Nat × Nat) := [(4, 2), (6, 2), (8, 2), (10, 2), (12, 4)]

/-- The fields behind them. -/
def kindFields (h : DataHeard) : List (Nat × Nat) :=
  if h.SizedSet ∨ h.KeySlice then [(16, 4), (20, 4), (24, 8)]
  else if h.codect ∈ ptAudio then [(16, 1), (17, 4)]
  else []

/-- The bytes that are asked for before the fields behind the basic ones are read. -/
def DataHeard.asked (h : DataHeard) : Nat :=
  if h.SizedSet then 16 + 4 + 4
  else if h.KeySlice then 16 + 4 + 4 + 8
  else if h.codect ∈ ptAudio then 16 + 1 + 4
  else 16

/-- The bytes that are read behind the start code at this place. A field of the basic ones
that is not there ends the reading. -/
def heardReads (data : List UInt8) (pos : Nat) : List Access :=
  let at' (field : Nat × Nat) : Access := .input (pos + field.1) field.2
  let h := readHeard (data.drop pos)
  (basicFields.takeWhile fun field => pos + field.1 + field.2 ≤ data.length).map at' ++
    if pos + 16 ≤ data.length ∧ pos + h.asked ≤ data.length then (kindFields h).map at' else []

/-- The bytes that `PraseFrameHeard` reads: the search runs over all of them at most. -/
def praseReads (data : List UInt8) : List Access :=
  .input 0 data.length ::
    if matchDataHeard data ≥ 0 then heardReads data (matchDataHeard data).toNat else []

/-! ### The handlers -/

namespace JsonStream

/-- The ranges that are passed on for a header that was read, by both handlers: the frame
to `writeBuf` or to the stream, and behind a key frame the content of the buffer. -/
def handledReads (s : JsonStream) (env : Surroundings) (data : List UInt8) (h : DataHeard)
    (skipsize : Nat) : List Access :=
  if h.codect = ptH264 ∨ h.codect = ptH265 then
    .input (skipsize + h.frameHeardLen) h.framelen ::
      if h.KeySlice then
        let buf := (data.drop (skipsize + h.frameHeardLen)).take h.framelen
        (((s.mFrame.resized h.framelen env.realloc).writeBuf buf).map fun r => .frame r.1).toList
      else []
  else []

end JsonStream

/-- A callback of the device with any bytes. -/
structure DataCallback where
  sink : StreamSink
  env : Surroundings
  data : List UInt8
  deriving Repr

namespace DataCallback

open JsonStream

def call (s : JsonStream) (c : DataCallback) : Option (JsonStream × Option MediaOutput) :=
  match c.sink with
  | .media => s.onVskJsonStream c.env c.data
  | .avFrame => s.onVskJsonStreamToAvFrame c.env c.data

def step : Lts.Step JsonStream DataCallback := fun s c => (call s c).map Prod.fst

/-- The callback comes to its data: it does not divide by zero before. -/
def Reaches (s : JsonStream) (c : DataCallback) : Prop :=
  s.exitCode = false ∧ (c.sink = .media → (s.measureRate c.env).isSome)

instance (s : JsonStream) (c : DataCallback) : Decidable (Reaches s c) :=
  inferInstanceAs (Decidable (_ ∧ _))

/-- All that a callback reads and passes on. -/
def accesses (s : JsonStream) (c : DataCallback) : List Access :=
  if Reaches s c then
    praseReads c.data ++
      match praseFrameHeard c.data with
      | some (.ok h skipsize) =>
          if AvFrame.toInt h.framelen > 0 then s.handledReads c.env c.data h skipsize else []
      | _ => []
  else []

/-- Every range lies in the data or in the valid part of the buffer. -/
def ReadsInside (s : JsonStream) (c : DataCallback) : Prop := ∀ a ∈ accesses s c, a.Inside c.data

end DataCallback

/-! ### When this is so -/

/-- A parameter set that ends in its time stamp or in front of it. -/
def TimeBehind (data : List UInt8) (pos : Nat) : Prop :=
  (heardAt data pos).SizedSet ∧ pos + 24 ≤ data.length ∧ data.length < pos + 32

/-- A resize for this key frame cuts off bytes that were written. -/
def LineBuffer.CutsOff (b : LineBuffer) (frame : Nat) (realloc : Bool) : Prop :=
  b.pBuf.isSome ∧ realloc = true ∧ b.bufLen - b.wPos < frame ∧ 2 * frame < b.wPos ∧
    b.wPos + frame < 2 ^ 31

variable {data : List UInt8} {pos : Nat}

/-- All but a parameter set is asked for all of its bytes. -/
theorem asked_eq (h : DataHeard) : h.asked = if h.SizedSet then 16 + 4 + 4 else h.size := by
  unfold DataHeard.asked DataHeard.size
  by_cases hset : h.SizedSet
  · rw [if_pos hset, if_pos hset]
  · rw [if_neg hset, if_neg hset]
    by_cases hkey : h.KeySlice
    · rw [if_pos hkey, if_pos (.inr hkey)]
    · rw [if_neg hkey, if_neg (not_or.mpr ⟨hset, hkey⟩)]

/-- The fields of a header end with it. -/
theorem kindFields_inside_iff (h : DataHeard) (hlen : pos + h.asked ≤ data.length) :
    (∀ field ∈ kindFields h, pos + field.1 + field.2 ≤ data.length) ↔
      (h.SizedSet → pos + 32 ≤ data.length) := by
  unfold kindFields
  unfold DataHeard.asked at hlen
  by_cases hset : h.SizedSet
  · rw [if_pos (.inl hset)]
    simp only [hset, true_imp_iff, List.forall_mem_cons, List.not_mem_nil, false_imp_iff,
      implies_true, and_true]
    omega
  · rw [if_neg hset] at hlen
    refine iff_of_true ?_ fun h => absurd h hset
    by_cases hkey : h.KeySlice
    · rw [if_pos hkey] at hlen
      rw [if_pos (.inr hkey)]
      simp only [List.forall_mem_cons, List.not_mem_nil, false_imp_iff, implies_true, and_true]
      omega
    · rw [if_neg hkey] at hlen
      rw [if_neg (not_or.mpr ⟨hset, hkey⟩)]
      split
      · rename_i haudio
        rw [if_pos haudio] at hlen
        simp only [List.forall_mem_cons, List.not_mem_nil, false_imp_iff, implies_true, and_true]
        omega
      · rintro field ⟨⟩

theorem heardReads_inside_iff (data : List UInt8) (pos : Nat) :
    (∀ a ∈ heardReads data pos, a.Inside data) ↔ ¬ TimeBehind data pos := by
  obtain ⟨hcodect, hframet⟩ := heardAt_kind data pos
  obtain ⟨hset, -, hsize⟩ := kinds_of_eq hcodect hframet
  have hbasic : ∀ a ∈ (basicFields.takeWhile fun field => pos + field.1 + field.2 ≤ data.length).map
      (fun field => Access.input (pos + field.1) field.2), a.Inside data := by
    intro a ha
    obtain ⟨field, hfield, rfl⟩ := List.mem_map.mp ha
    have hfits := List.mem_takeWhile_imp hfield
    show pos + field.1 + field.2 ≤ data.length
    exact of_decide_eq_true hfits
  unfold heardReads TimeBehind
  simp only [readHeard_drop, hset]
  rw [List.forall_mem_append, and_iff_right hbasic]
  split
  · rename_i hlen
    rw [List.forall_mem_map]
    refine (kindFields_inside_iff _ hlen.2).trans ?_
    have hasked := hlen.2
    rw [asked_eq] at hasked
    constructor
    · rintro hinside ⟨hsized, -, hshort⟩
      have hle := hinside hsized
      omega
    · intro hnot hsized
      rw [if_pos hsized] at hasked
      by_contra hshort
      exact hnot ⟨hsized, by omega, by omega⟩
  · rename_i hlen
    refine iff_of_true (by rintro a ⟨⟩) ?_
    rintro ⟨hsized, hle, -⟩
    rw [asked_eq, if_pos hsized] at hlen
    omega

/-- `PraseFrameHeard` reads behind the data exactly for a time stamp that is not there. -/
theorem praseReads_inside_iff (data : List UInt8) :
    (∀ a ∈ praseReads data, a.Inside data) ↔ ∀ pos, Used data pos → ¬ TimeBehind data pos := by
  have hsearch : (Access.input 0 data.length).Inside data := Nat.le_of_eq (Nat.zero_add _)
  rw [praseReads, List.forall_mem_cons, and_iff_right hsearch]
  rcases matchDataHeard_cases data with ⟨pos, hmatch, hused⟩ | ⟨hmatch, hnone⟩
  · rw [hmatch, if_pos (Int.natCast_nonneg pos), Int.toNat_natCast, heardReads_inside_iff]
    constructor
    · intro hnot pos' hused'
      rw [hused'.unique hused]
      exact hnot
    · exact fun h => h pos hused
  · rw [hmatch, if_neg (by decide)]
    refine iff_of_true (by rintro a ⟨⟩) fun pos hused => absurd hused (hnone pos)

/-! ### The buffer -/

/-- The buffer between two callbacks: it is read from its start, and without memory nothing
is in it. -/
structure LineBuffer.Ready (b : LineBuffer) : Prop where
  valid : b.Valid
  rPos : b.rPos = 0
  bufLen : b.bufLen < 2 ^ 31
  empty : b.pBuf = none → b.wPos = 0

namespace LineBuffer

variable {b b' : LineBuffer} {buf : List UInt8} {wrote realloc : Bool}

theorem Ready.writeBuf (h : b.Ready) (hwrite : b.writeBuf buf = some (b', wrote)) : b'.Ready := by
  cases hmem : b.pBuf with
  | none =>
      rw [LineBuffer.writeBuf, hmem] at hwrite
      cases hwrite
      exact h
  | some mem =>
      by_cases hne : 0 < buf.length
      · rw [writeBuf_of_mem hmem hne (int_of_writeBuf hwrite hne (by rw [hmem]; rfl))] at hwrite
        split at hwrite
        · rename_i hfits
          cases hwrite
          refine ⟨h.valid.stored hmem (Nat.le_of_lt hfits), h.rPos, h.bufLen, ?_⟩
          rintro ⟨⟩
        · cases hwrite
          exact h
      · simp only [LineBuffer.writeBuf, hmem, if_neg hne] at hwrite
        cases hwrite
        exact h

theorem toInt_lt (size : Nat) : AvFrame.toInt size < 2 ^ 31 := by
  rw [AvFrame.toInt]
  split <;> omega

theorem bufLen_resized_lt (h : b.bufLen < 2 ^ 31) (frame : Nat) (realloc : Bool) :
    (b.resized frame realloc).bufLen < 2 ^ 31 := by
  have hint := toInt_lt (2 * frame)
  unfold resized LineBuffer.resetBuf
  split
  · split
    · split
      · dsimp only
        omega
      · exact h
    · exact h
  · exact h

theorem Ready.clear (h : b.bufLen < 2 ^ 31) : b.clear.Ready :=
  ⟨Valid.clear b, rfl, h, fun _ => rfl⟩

theorem Ready.finishFrame (h : b.Ready) {data : List UInt8}
    (hfinish : b.finishFrame buf realloc = some (b', data)) : b'.Ready := by
  rw [finishFrame_eq] at hfinish
  obtain ⟨⟨b₁, wrote⟩, hwrite, hread⟩ := Option.bind_eq_some_iff.mp hfinish
  obtain ⟨bytes, -, hpair⟩ := Option.map_eq_some_iff.mp hread
  cases hpair
  apply Ready.clear
  rw [writeBuf_bufLen hwrite]
  exact bufLen_resized_lt h.bufLen buf.length realloc

/-- The content of a valid buffer is in it. -/
theorem Ready.inside (h : b.Ready) (data : List UInt8) : (Access.frame b).Inside data := by
  refine ⟨b.held, h.valid.content, ?_⟩
  have hread := h.valid.read
  unfold dataSize
  cases hmem : b.pBuf with
  | none =>
      rw [held_of_null hmem, h.empty hmem, h.rPos]
      rfl
  | some mem =>
      rw [held_of_mem hmem, List.length_drop, List.length_take,
        Nat.min_eq_left (h.valid.covered mem hmem)]
      omega

/-- The buffer after the resize, in which the key frame is written. -/
theorem Ready.resized_of_mem (h : b.Ready) {mem : List UInt8} (hmem : b.pBuf = some mem)
    {frame : Nat} (hlt : frame < 2 ^ 31) (realloc : Bool) :
    b.resized frame realloc =
      if b.bufLen - b.wPos < frame ∧ 2 * frame < 2 ^ 31 ∧ realloc = true then
        { b with pBuf := some (mem.take (2 * frame)), bufLen := 2 * frame }
      else b := by
  have hwrite := h.valid.write
  have hfree : b.freeSize < frame ↔ b.bufLen - b.wPos < frame := by
    rw [freeSize, dataSize, h.rPos]
    omega
  have hint : 0 ≤ AvFrame.toInt (2 * frame) ↔ 2 * frame < 2 ^ 31 := by
    rw [AvFrame.toInt]
    split <;> omega
  unfold resized
  simp only [hfree, LineBuffer.resetBuf, hmem, hint]
  by_cases hlow : b.bufLen - b.wPos < frame
  · by_cases hgrown : 2 * frame < 2 ^ 31 ∧ realloc = true
    · rw [if_pos hlow, if_pos hgrown, if_pos ⟨hlow, hgrown⟩, AvFrame.toInt_eq_iff.mpr hgrown.1,
        Int.toNat_natCast]
    · rw [if_pos hlow, if_neg hgrown, if_neg fun hall => hgrown hall.2]
  · rw [if_neg hlow, if_neg fun hall => hlow hall.1]

/-- Where the key frame is written to a buffer that is ready, its content is read from it. -/
theorem Ready.written_inside (h : b.Ready) (data buf : List UInt8) :
    ∀ a ∈ ((b.writeBuf buf).map fun r => Access.frame r.1).toList, a.Inside data := by
  intro a ha
  obtain ⟨⟨b', wrote⟩, hwrite, rfl⟩ := Option.map_eq_some_iff.mp (Option.mem_toList.mp ha)
  exact (h.writeBuf hwrite).inside data

/-- Where the write position is behind the end of the buffer, the frame is refused, and what
is read goes on behind the buffer. -/
theorem not_inside_of_behind {mem : List UInt8} (hmem : b.pBuf = some mem) (hread : b.rPos = 0)
    (hbehind : b.bufLen < b.wPos) (hne : 0 < buf.length) (hint : b.wPos + buf.length < 2 ^ 31)
    (data : List UInt8) :
    ¬ ∀ a ∈ ((b.writeBuf buf).map fun r => Access.frame r.1).toList, a.Inside data := by
  intro hinside
  rw [writeBuf_of_mem hmem hne hint, if_neg (by omega)] at hinside
  obtain ⟨bytes, hcontent, -⟩ := hinside _ (List.mem_singleton_self _)
  simp only [content, hmem] at hcontent
  rw [if_pos (by omega), if_neg (by omega)] at hcontent
  cases hcontent

/-- A key frame's content is read from the buffer exactly when the resize does not cut it. -/
theorem Ready.frame_inside_iff (h : b.Ready) (data : List UInt8) (hne : 0 < buf.length)
    (hlt : buf.length < 2 ^ 31) (realloc : Bool) :
    (∀ a ∈ (((b.resized buf.length realloc).writeBuf buf).map fun r => Access.frame r.1).toList,
      a.Inside data) ↔ ¬ b.CutsOff buf.length realloc := by
  have hbound := h.bufLen
  have hwrite := h.valid.write
  cases hmem : b.pBuf with
  | none =>
      have hsame : b.resized buf.length realloc = b := by
        simp only [resized, LineBuffer.resetBuf, hmem, ite_self]
      rw [hsame]
      refine iff_of_true (h.written_inside data buf) ?_
      rintro ⟨hsome, -⟩
      rw [hmem] at hsome
      cases hsome
  | some mem =>
      rw [h.resized_of_mem hmem hlt]
      split
      · rename_i hgrown
        obtain ⟨hlow, hint, hrealloc⟩ := hgrown
        by_cases hcut : 2 * buf.length < b.wPos
        · -- The write position is behind the new end, so that the frame is refused.
          by_cases hover : b.wPos + buf.length < 2 ^ 31
          · refine iff_of_false ?_ fun hnot => hnot
              ⟨by rw [hmem]; rfl, hrealloc, hlow, hcut, hover⟩
            apply not_inside_of_behind
            · rfl
            · exact h.rPos
            · exact hcut
            · exact hne
            · exact hover
          · refine iff_of_true ?_ fun hcuts => hover hcuts.2.2.2.2
            intro a ha
            simp only [LineBuffer.writeBuf, if_pos hne, if_neg hover] at ha
            cases ha
        · refine iff_of_true (Ready.written_inside ?_ data buf) fun hcuts => hcut hcuts.2.2.2.1
          refine ⟨⟨h.valid.read, by dsimp only; omega, ?_⟩, h.rPos, hint, by rintro ⟨⟩⟩
          rintro mem' ⟨⟩
          have hcovered := h.valid.covered mem hmem
          rw [List.length_take]
          dsimp only
          omega
      · rename_i hkept
        refine iff_of_true (h.written_inside data buf) fun hcuts => ?_
        obtain ⟨-, hrealloc, hlow, hcut, -⟩ := hcuts
        exact hkept ⟨hlow, by omega, hrealloc⟩

end LineBuffer

namespace DataCallback

open JsonStream

/-- The header at the start code that is used has its time stamp if it asks for the sizes in
front of it. Behind a complete header of video the whole frame is there, and a key frame does
not cut off what is written. -/
def Contained (s : JsonStream) (c : DataCallback) : Prop :=
  Reaches s c → ∀ pos, Used c.data pos →
    ¬ TimeBehind c.data pos ∧
      (HeaderAt c.data pos → 0 < AvFrame.toInt (heardAt c.data pos).framelen →
        (heardAt c.data pos).codect = ptH264 ∨ (heardAt c.data pos).codect = ptH265 →
          pos + (heardAt c.data pos).size + (heardAt c.data pos).framelen ≤ c.data.length ∧
            ((heardAt c.data pos).KeySlice →
              ¬ s.mFrame.CutsOff (heardAt c.data pos).framelen c.env.realloc))

/-- The stream between two callbacks. -/
structure Open (s : JsonStream) : Prop where
  exitCode : s.exitCode = false
  buffer : s.mFrame.Ready

theorem open_new (malloc : Bool) : Open (.new malloc) where
  exitCode := rfl
  buffer := ⟨LineBuffer.valid_new _ malloc, rfl, show 512 * 1024 < 2 ^ 31 by decide, fun _ => rfl⟩

variable {s s' : JsonStream} {c : DataCallback} {env : Surroundings} {data : List UInt8}
  {h : DataHeard} {skipsize : Nat} {r : JsonStream × Option MediaOutput}

theorem Open.collect (hs : Open s) {buf : List UInt8} (hcollect : s.collect buf = some s') :
    Open s' := by
  obtain ⟨⟨b, wrote⟩, hwrite, rfl⟩ := Option.map_eq_some_iff.mp hcollect
  exact ⟨hs.exitCode, hs.buffer.writeBuf hwrite⟩

theorem Open.onFrame (hs : Open s) (hcall : s.onFrame env data h skipsize = some r) :
    Open r.1 := by
  unfold JsonStream.onFrame at hcall
  split at hcall
  · obtain ⟨buf, -, hcall⟩ := Option.bind_eq_some_iff.mp hcall
    dsimp only at hcall
    split at hcall
    · obtain ⟨s₁, hcollect, rfl⟩ := Option.map_eq_some_iff.mp hcall
      exact hs.collect hcollect
    · split at hcall
      · obtain ⟨⟨b, out⟩, hfinish, rfl⟩ := Option.map_eq_some_iff.mp hcall
        exact ⟨hs.exitCode, hs.buffer.finishFrame hfinish⟩
      · cases hcall
        exact ⟨hs.exitCode, hs.buffer⟩
  · cases hcall
    exact hs

theorem Open.settled (hs : Open s) (env : Surroundings) (h : DataHeard) :
    Open ((s.countFrame env).settleRate h) := by
  unfold JsonStream.settleRate
  split
  · exact ⟨hs.exitCode, hs.buffer⟩
  · exact ⟨hs.exitCode, hs.buffer⟩

theorem Open.onAvFrame (hs : Open s) (hcall : s.onAvFrame env data h skipsize = some r) :
    Open r.1 := by
  have hsettled := hs.settled env h
  unfold JsonStream.onAvFrame at hcall
  split at hcall
  · obtain ⟨buf, -, hcall⟩ := Option.bind_eq_some_iff.mp hcall
    dsimp only at hcall
    split at hcall
    · obtain ⟨s₁, hcollect, rfl⟩ := Option.map_eq_some_iff.mp hcall
      exact hs.collect hcollect
    · split at hcall
      · obtain ⟨⟨b, out⟩, hfinish, rfl⟩ := Option.map_eq_some_iff.mp hcall
        exact ⟨hsettled.exitCode, hsettled.buffer.finishFrame hfinish⟩
      · cases hcall
        exact ⟨hsettled.exitCode, hsettled.buffer⟩
  · cases hcall
    exact hs

theorem Open.onHeard (hs : Open s)
    {next : DataHeard → Nat → Option (JsonStream × Option MediaOutput)}
    (hnext : ∀ h skipsize r, next h skipsize = some r → Open r.1)
    (hcall : JsonStream.onHeard data s next = some r) : Open r.1 := by
  obtain ⟨result, -, hcall⟩ := Option.bind_eq_some_iff.mp hcall
  cases result with
  | ok h skipsize =>
      dsimp only at hcall
      split at hcall
      · exact hnext h skipsize r hcall
      · cases hcall
        exact hs
  | notEnough =>
      cases hcall
      exact hs

/-- A callback that comes to its end leaves the stream open. -/
theorem Open.step (hs : Open s) (hstep : step s c = some s') : Open s' := by
  obtain ⟨r, hcall, rfl⟩ := Option.map_eq_some_iff.mp hstep
  obtain ⟨sink, env, data⟩ := c
  cases sink with
  | media =>
      simp only [call, onVskJsonStream, hs.exitCode, Bool.false_eq_true, if_false] at hcall
      obtain ⟨s₁, hrate, hcall⟩ := Option.bind_eq_some_iff.mp hcall
      obtain ⟨hframe, hexit⟩ := measureRate_keeps hrate
      have hs₁ : Open s₁ := ⟨hexit.trans hs.exitCode, by rw [hframe]; exact hs.buffer⟩
      exact hs₁.onHeard (fun h skipsize r => hs₁.onFrame) hcall
  | avFrame =>
      simp only [call, onVskJsonStreamToAvFrame, hs.exitCode, Bool.false_eq_true, if_false] at hcall
      exact hs.onHeard (fun h skipsize r => hs.onAvFrame) hcall

theorem framelen_lt (data : List UInt8) (pos : Nat) : (heardAt data pos).framelen < 2 ^ 32 := by
  have hlen : (heardAt data pos).framelen = fieldAt data (pos + 12) 4 := by
    simp only [heardAt]
    split_ifs <;> rfl
  rw [hlen]
  exact LittleEndian.decode_take_lt 4 _

theorem not_noticed {pos : Nat} (h : HeaderAt data pos) : ¬ Noticed data pos := by
  have hsize := size_ge (heardAt data pos)
  have hle := h.2
  rintro (hshort | hshort)
  · omega
  · split at hshort
    · rename_i hset
      rw [DataHeard.size, if_pos (.inl hset)] at hle
      omega
    · omega

/-- What is passed on for a complete header. -/
theorem Open.handled_inside_iff (hs : Open s) {pos : Nat}
    (hpos : 0 < AvFrame.toInt (heardAt data pos).framelen) :
    (∀ a ∈ s.handledReads env data (heardAt data pos) pos, a.Inside data) ↔
      ((heardAt data pos).codect = ptH264 ∨ (heardAt data pos).codect = ptH265 →
        pos + (heardAt data pos).size + (heardAt data pos).framelen ≤ data.length ∧
          ((heardAt data pos).KeySlice →
            ¬ s.mFrame.CutsOff (heardAt data pos).framelen env.realloc)) := by
  have hlt : (heardAt data pos).framelen < 2 ^ 31 := by
    have hbound := framelen_lt data pos
    rw [AvFrame.toInt, Nat.mod_eq_of_lt hbound] at hpos
    split at hpos
    · assumption
    · omega
  generalize hh : heardAt data pos = h at hpos hlt ⊢
  unfold JsonStream.handledReads
  by_cases hvideo : h.codect = ptH264 ∨ h.codect = ptH265
  · have hlen : h.frameHeardLen = h.size := by
      rw [frameHeardLen_eq_size_iff]
      rcases hvideo with hcodect | hcodect
      · rw [hcodect]
        decide
      · rw [hcodect]
        decide
    rw [if_pos hvideo, hlen, List.forall_mem_cons, imp_iff_right hvideo]
    refine and_congr_right fun hinside => ?_
    by_cases hkey : h.KeySlice
    · have hbuf : ((data.drop (pos + h.size)).take h.framelen).length = h.framelen := by
        have hle : pos + h.size + h.framelen ≤ data.length := hinside
        rw [List.length_take, List.length_drop]
        omega
      have hne : 0 < h.framelen := by
        have hle := AvFrame.toInt_le h.framelen
        omega
      rw [if_pos hkey, imp_iff_right hkey]
      have hframe := hs.buffer.frame_inside_iff data (by rw [hbuf]; exact hne)
        (by rw [hbuf]; exact hlt) env.realloc
      rw [hbuf] at hframe
      exact hframe
    · rw [if_neg hkey]
      exact iff_of_true (by rintro a ⟨⟩) fun h => absurd h hkey
  · rw [if_neg hvideo]
    exact iff_of_true (by rintro a ⟨⟩) fun h => absurd h hvideo

/-- A callback of an open stream reads its data and its buffer only, exactly when they
contain what the header says. -/
theorem Open.readsInside_iff (hs : Open s) (c : DataCallback) :
    ReadsInside s c ↔ Contained s c := by
  unfold ReadsInside accesses Contained
  by_cases hreach : Reaches s c
  · rw [if_pos hreach, imp_iff_right hreach, List.forall_mem_append, praseReads_inside_iff,
      forall₂_and]
    refine and_congr_right fun _ => ?_
    by_cases hany : ∃ pos, Used c.data pos
    · obtain ⟨pos, hused⟩ := hany
      have hone : ∀ {P : Nat → Prop}, (∀ pos', Used c.data pos' → P pos') ↔ P pos := by
        intro P
        refine ⟨fun h => h pos hused, fun h pos' hused' => ?_⟩
        rw [hused'.unique hused]
        exact h
      rw [hone, praseFrameHeard_used hused]
      by_cases hnoticed : Noticed c.data pos
      · rw [if_pos hnoticed]
        exact iff_of_true (by rintro a ⟨⟩) fun h => absurd hnoticed (not_noticed h)
      · rw [if_neg hnoticed]
        by_cases hcomplete : pos + (heardAt c.data pos).size ≤ c.data.length
        · have hheader : HeaderAt c.data pos := by
            obtain ⟨extended, hcode⟩ := hused.code
            cases extended with
            | true => exact ⟨.inl hcode, hcomplete⟩
            | false => exact ⟨.inr hcode, hcomplete⟩
          rw [if_pos hcomplete, imp_iff_right hheader]
          dsimp only
          by_cases hlen : AvFrame.toInt (heardAt c.data pos).framelen > 0
          · rw [if_pos hlen, imp_iff_right hlen]
            exact hs.handled_inside_iff hlen
          · rw [if_neg hlen]
            exact iff_of_true (by rintro a ⟨⟩) fun h => absurd h hlen
        · rw [if_neg hcomplete]
          exact iff_of_true (by rintro a ⟨⟩) fun h => absurd h.2 hcomplete
    · rw [praseFrameHeard_unused (not_exists.mp hany)]
      refine iff_of_true (by rintro a ⟨⟩) fun pos hused => absurd ⟨pos, hused⟩ hany
  · rw [if_neg hreach]
    exact iff_of_true (by rintro a ⟨⟩) fun h => absurd h hreach

/-- The callbacks of a stream, of both kinds and in any order, read and pass on only bytes of
their data and of the buffer that were written, exactly when each of them contains what its
header says and no key frame cuts the buffer. -/
theorem readsInside_iff_contained (malloc : Bool) (callbacks : List DataCallback) :
    Lts.Checked step ReadsInside (.new malloc) callbacks ↔
      Lts.Checked step Contained (.new malloc) callbacks :=
  Lts.checked_congr (fun _ _ _ => Open.step) (fun _ c hs => hs.readsInside_iff c) (open_new malloc)

/-- A parameter set without its time stamp, and a P slice that says it has 100 bytes. -/
theorem not_readsInside :
    ¬ Lts.Checked step ReadsInside (.new true)
        [⟨.media, ⟨0, 0, 0, 0, 0, true⟩, [0, 0, 1, 0xF0, 26, 0, 7, 0, 40, 0, 25, 0, 20, 0, 0, 0] ++
          [128, 7, 0, 0, 56, 4, 0, 0]⟩] ∧
      ¬ Lts.Checked step ReadsInside (.new true)
        [⟨.avFrame, ⟨0, 0, 0, 0, 0, true⟩,
          [0, 0, 1, 0xF0, 26, 0, 1, 0, 40, 0, 25, 0, 100, 0, 0, 0, 1, 2]⟩] := by
  constructor
  · rintro ⟨hinside, -⟩
    have hbehind := hinside (.input 24 8) (by decide +kernel)
    exact absurd (show 24 + 8 ≤ 24 from hbehind) (by decide)
  · rintro ⟨hinside, -⟩
    have hbehind := hinside (.input 16 100) (by decide +kernel)
    exact absurd (show 16 + 100 ≤ 18 from hbehind) (by decide)

end DataCallback

end SignalingServer
