import SignalingServer.Media.JsonStream

/-!
The frames that `OnVskJsonStreamToAvFrame` hands on in a playback
(`media/mediaIn/JsonStream.cpp`): their frame rates and times, for H.264 and for H.265.
An I frame has the time of its header. The frames behind it follow at a distance that the
branch of H.264 takes from the frame rate of the first slice, and the one of H.265 from
each header.
-/

namespace SignalingServer

/-- A buffer in which a header is read, with the complete frame behind it. -/
structure ReadFrame where
  data : List UInt8
  heard : DataHeard
  skipsize : Nat
  payload : List UInt8
  read : praseFrameHeard data = some (.ok heard skipsize)
  frame : JsonStream.frameData data heard skipsize = some payload
  pos : 0 < AvFrame.toInt heard.framelen

/-- What `OnJsonMediaVideoStream` is given; `pts` as the number of 64 bits that it takes. -/
structure HandedFrame where
  size : Nat
  fps : Nat
  ibp : Nat
  pts : Nat
  deriving DecidableEq, Repr

def MediaOutput.handed : MediaOutput → Option HandedFrame
  | .onMediaStream _ _ _ => none
  | .onJsonMediaVideoStream _ data fps ibp _ _ pts =>
      some ⟨data.length, fps, ibp, (pts % 2 ^ 64).toNat⟩

namespace ReadFrame

theorem length_payload (f : ReadFrame) : f.payload.length = f.heard.framelen := by
  have hframe := f.frame
  unfold JsonStream.frameData at hframe
  split at hframe
  · rw [← Option.some.inj hframe, List.length_take, List.length_drop]
    omega
  · cases hframe

theorem payload_pos (f : ReadFrame) : 0 < f.payload.length := by
  have hpos := f.pos
  have hle := AvFrame.toInt_le f.heard.framelen
  rw [f.length_payload]
  omega

end ReadFrame

/-- A complete frame of H.264 whose start code is found is read. -/
def H264Frame.toRead (f : H264Frame) (hfound : f.Found) : ReadFrame where
  data := f.data
  heard := f.heard
  skipsize := 0
  payload := f.payload
  read := H264Frame.praseFrameHeard_data hfound
  frame := f.frameData_data
  pos := by
    have hlt := f.lt
    have hpos := f.pos
    show 0 < AvFrame.toInt f.payload.length
    rw [AvFrame.toInt_eq_iff.mpr (by omega)]
    omega

namespace JsonStream

/-- Callbacks one after the other and the frames that are handed on: `none` where one of
the callbacks is undefined. -/
def playback : JsonStream → List (Surroundings × List UInt8) → Option (List HandedFrame)
  | _, [] => some []
  | s, (env, data) :: calls =>
      (s.onVskJsonStreamToAvFrame env data).bind fun r =>
        (playback r.1 calls).map ((r.2.bind MediaOutput.handed).toList ++ ·)

variable {s : JsonStream} {env : Surroundings} {f : ReadFrame}

/-! ### One callback -/

theorem onVskJsonStreamToAvFrame_read (hexit : s.exitCode = false) (env : Surroundings)
    (f : ReadFrame) (hvideo : f.heard.codect = ptH264 ∨ f.heard.codect = ptH265) :
    s.onVskJsonStreamToAvFrame env f.data =
      if f.heard.ParameterSet then (s.collect f.payload).map fun s => (s, none)
      else
        let s := (s.countFrame env).settleRate f.heard
        let gap := s.frameGap f.heard
        if f.heard.KeySlice then
          let curTime := ((f.heard.timestamp * 1000 : Nat) : Int).bmod (2 ^ 64)
          (s.mFrame.finishFrame f.payload env.realloc).map fun r =>
            ({ s with mFrame := r.1, curTime := curTime, lastTime := curTime + gap },
              some (.onJsonMediaVideoStream (switchFromToMediacodec f.heard.codect) r.2
                (s.frameRate % 2 ^ 16) 0 (f.heard.vwidth % 2 ^ 16) (f.heard.vheight % 2 ^ 16)
                curTime))
        else
          some ({ s with lastTime := s.lastTime + gap },
            some (.onJsonMediaVideoStream (switchFromToMediacodec f.heard.codect) f.payload
              (s.frameRate % 2 ^ 16) 3 0 0 s.lastTime)) := by
  have hcall : s.onVskJsonStreamToAvFrame env f.data =
      s.onAvFrame env f.data f.heard f.skipsize := by
    rw [onVskJsonStreamToAvFrame, hexit, onHeard, f.read]
    exact if_pos f.pos
  rw [hcall, onAvFrame, if_pos hvideo, f.frame, Option.bind_some]

/-- A parameter set is collected as long as the write position stays an `int`. -/
theorem collect_cases (s : JsonStream) {buf : List UInt8} (hne : 0 < buf.length) :
    (s.collect buf = none ∧ ¬ (s.mFrame.pBuf.isSome → s.mFrame.wPos + buf.length < 2 ^ 31)) ∨
      ((s.mFrame.pBuf.isSome → s.mFrame.wPos + buf.length < 2 ^ 31) ∧
        ∃ b, ∀ t : JsonStream, t.mFrame = s.mFrame →
          t.collect buf = some { t with mFrame := b }) := by
  cases hmem : s.mFrame.pBuf with
  | none =>
      refine .inr ⟨by rintro ⟨⟩, s.mFrame, fun t ht => ?_⟩
      rw [collect, ht, LineBuffer.writeBuf, hmem, ← ht]
      rfl
  | some mem =>
      by_cases hint : s.mFrame.wPos + buf.length < 2 ^ 31
      · refine .inr ⟨fun _ => hint, ?_⟩
        have hwrite := LineBuffer.writeBuf_of_mem hmem hne hint
        obtain ⟨r, hr⟩ : ∃ r, s.mFrame.writeBuf buf = some r := by
          rw [hwrite]
          split
          · exact ⟨_, rfl⟩
          · exact ⟨_, rfl⟩
        refine ⟨r.1, fun t ht => ?_⟩
        rw [collect, ht, hr]
        rfl
      · refine .inl ⟨?_, fun h => hint (h rfl)⟩
        rw [collect]
        simp only [LineBuffer.writeBuf, hmem, if_pos hne, if_neg hint]
        rfl

end JsonStream

/-! ### H.264 and H.265 -/

/-- A frame with a header of H.264 and with one of H.265. -/
structure FramePair where
  h264 : ReadFrame
  h265 : ReadFrame
  codect : h264.heard.codect = ptH264
  fields : h265.heard = { h264.heard with codect := ptH265, framet := h265.heard.framet }
  parameterSet : h264.heard.ParameterSet ↔ h265.heard.ParameterSet
  keySlice : h264.heard.KeySlice ↔ h265.heard.KeySlice
  payload : h264.payload = h265.payload

namespace FramePair

/-- Both playbacks hand on the same, and no frame rate of 0. -/
def TreatedAlike (malloc : Bool) (calls : List (Surroundings × FramePair)) : Prop :=
  ∃ out, (JsonStream.new malloc).playback (calls.map fun c => (c.1, c.2.h264.data)) = some out ∧
    (JsonStream.new malloc).playback (calls.map fun c => (c.1, c.2.h265.data)) = some out ∧
    ∀ frame ∈ out, frame.fps ≠ 0

/-- The stream after a callback with the frame of H.264. -/
def step : Lts.Step JsonStream (Surroundings × FramePair) := fun s c =>
  (s.onVskJsonStreamToAvFrame c.1 c.2.h264.data).map Prod.fst

/-- The frame is a parameter set, and the buffer can add it to its write position. -/
def Collected (s : JsonStream) (c : Surroundings × FramePair) : Prop :=
  c.2.h264.heard.ParameterSet ∧
    (s.mFrame.pBuf.isSome → s.mFrame.wPos + c.2.h264.payload.length < 2 ^ 31)

instance (s : JsonStream) (c : Surroundings × FramePair) : Decidable (Collected s c) :=
  inferInstanceAs (Decidable (_ ∧ _))

variable {s s' : JsonStream}

/-- The branch of H.265 hands on the frame rate of the stream, which it never sets. -/
theorem fps_of_h265 {f : ReadFrame} {env : Surroundings} {r : JsonStream × Option MediaOutput}
    (hcodect : f.heard.codect = ptH265) (hexit : s.exitCode = false) (hrate : s.frameRate = 0)
    (hslice : ¬ f.heard.ParameterSet) (hcall : s.onVskJsonStreamToAvFrame env f.data = some r) :
    ∃ frame, r.2.bind MediaOutput.handed = some frame ∧ frame.fps = 0 := by
  have hsettled : ((s.countFrame env).settleRate f.heard).frameRate = 0 := by
    rw [JsonStream.settleRate, if_neg]
    · exact hrate
    · rw [hcodect]
      rintro ⟨⟨⟩, -⟩
  rw [JsonStream.onVskJsonStreamToAvFrame_read hexit env f (.inr hcodect), if_neg hslice] at hcall
  dsimp only at hcall
  split at hcall
  · obtain ⟨b, -, rfl⟩ := Option.map_eq_some_iff.mp hcall
    exact ⟨_, rfl, congrArg (· % 2 ^ 16) hsettled⟩
  · cases hcall
    exact ⟨_, rfl, congrArg (· % 2 ^ 16) hsettled⟩

/-- So a playback with a slice of H.265 hands on a frame rate of 0. -/
theorem fps_of_playback {f : ReadFrame} {env : Surroundings}
    {calls : List (Surroundings × List UInt8)} {out : List HandedFrame}
    (hcodect : f.heard.codect = ptH265) (hexit : s.exitCode = false) (hrate : s.frameRate = 0)
    (hslice : ¬ f.heard.ParameterSet) (hout : s.playback ((env, f.data) :: calls) = some out) :
    ∃ frame ∈ out, frame.fps = 0 := by
  rw [JsonStream.playback] at hout
  obtain ⟨r, hcall, hrest⟩ := Option.bind_eq_some_iff.mp hout
  obtain ⟨out', -, rfl⟩ := Option.map_eq_some_iff.mp hrest
  obtain ⟨frame, hhanded, hzero⟩ := fps_of_h265 hcodect hexit hrate hslice hcall
  rw [hhanded]
  exact ⟨frame, List.mem_cons_self, hzero⟩

/-- From two streams with the same buffer, of which the second has no frame rate. -/
theorem playback_iff (calls : List (Surroundings × FramePair)) (hexit : s.exitCode = false)
    (hexit' : s'.exitCode = false) (hframe : s'.mFrame = s.mFrame) (hrate : s'.frameRate = 0) :
    (∃ out, s.playback (calls.map fun c => (c.1, c.2.h264.data)) = some out ∧
      s'.playback (calls.map fun c => (c.1, c.2.h265.data)) = some out ∧
      ∀ frame ∈ out, frame.fps ≠ 0) ↔ Lts.Checked step Collected s calls := by
  induction calls generalizing s s' with
  | nil =>
      refine ⟨fun _ => trivial, fun _ => ⟨[], rfl, rfl, ?_⟩⟩
      rintro frame ⟨⟩
  | cons c calls ih =>
      obtain ⟨env, p⟩ := c
      have hcodect' : p.h265.heard.codect = ptH265 := by
        rw [p.fields]
      by_cases hset : p.h264.heard.ParameterSet
      · have hcall := JsonStream.onVskJsonStreamToAvFrame_read hexit env p.h264 (.inl p.codect)
        have hcall' := JsonStream.onVskJsonStreamToAvFrame_read hexit' env p.h265 (.inr hcodect')
        rw [if_pos hset] at hcall
        rw [if_pos (p.parameterSet.mp hset), ← p.payload] at hcall'
        rcases JsonStream.collect_cases s p.h264.payload_pos with ⟨hnone, hover⟩ | ⟨hint, b, hb⟩
        · constructor
          · rintro ⟨out, hout, -⟩
            rw [List.map_cons, JsonStream.playback, hcall, hnone] at hout
            cases hout
          · rintro ⟨⟨-, hint⟩, -⟩
            exact absurd hint hover
        · rw [hb s rfl, Option.map_some] at hcall
          rw [hb s' hframe, Option.map_some] at hcall'
          have hnext : step s (env, p) = some { s with mFrame := b } := by
            rw [step, hcall]
            rfl
          have hrest := @ih { s with mFrame := b } { s' with mFrame := b } hexit hexit' rfl hrate
          simp only [List.map_cons, JsonStream.playback, hcall, hcall', Option.bind_some,
            Option.bind_none, Option.toList_none, List.nil_append, Option.map_id']
          rw [hrest]
          constructor
          · intro hchecked
            refine ⟨⟨hset, hint⟩, fun m hm => ?_⟩
            rw [hnext] at hm
            cases hm
            exact hchecked
          · exact fun hchecked => hchecked.2 _ hnext
      · constructor
        · rintro ⟨out, -, hout, hrates⟩
          rw [List.map_cons] at hout
          obtain ⟨frame, hmem, hzero⟩ := fps_of_playback hcodect' hexit' hrate
            (fun h => hset (p.parameterSet.mpr h)) hout
          exact absurd hzero (hrates frame hmem)
        · rintro ⟨⟨h, -⟩, -⟩
          exact absurd h hset

/-- A playback of H.264 and one of H.265 hand on the same, with frame rates that are not 0,
exactly when there is no slice among the frames, so that nothing is handed on. -/
theorem treatedAlike_iff (malloc : Bool) (calls : List (Surroundings × FramePair)) :
    TreatedAlike malloc calls ↔ Lts.Checked step Collected (JsonStream.new malloc) calls :=
  playback_iff calls rfl rfl rfl rfl

/-- A P frame at 25 frames a second, in both codecs. -/
def pSlices : FramePair where
  h264 := H264Frame.toRead
    { extended := true, type := .pSlice, gapms := 40, framerate := 25, vwidth := 0, vheight := 0
      timestamp := 0, payload := [1, 2], tail := [], pos := by decide, lt := by decide }
    (H264Frame.found_of_short rfl (by decide))
  h265 :=
    { data := [0, 0, 1, 0xFE, 35, 0, 1, 0, 40, 0, 25, 0, 2, 0, 0, 0, 1, 2]
      heard := { codect := ptH265, framet := 1, gapms := 40, framerate := 25, framelen := 2 }
      skipsize := 0, payload := [1, 2]
      read := by decide +kernel
      frame := by decide
      pos := by decide }
  codect := rfl
  fields := rfl
  parameterSet := by decide
  keySlice := by decide
  payload := rfl

theorem pSlices_not_alike : ¬ TreatedAlike true [(⟨0, 0, 0, 0, 0, true⟩, pSlices)] := by
  intro halike
  have hchecked := (playback_iff (s := JsonStream.new true) _ rfl rfl rfl rfl).mp halike
  have hslice : ¬ pSlices.h264.heard.ParameterSet := by decide
  exact hslice hchecked.1.1

end FramePair

/-! ### The times of H.264 -/

namespace JsonStream

/-- The frame rate that a playback of H.264 settles on. -/
def settledRate (h : DataHeard) : Nat :=
  if h.framerate < 15 ∨ h.framerate > 60 then 30 else h.framerate

/-- The distance of its frames, from the header of the first slice. -/
def settledGap (heards : List DataHeard) : Nat :=
  match heards.find? fun h => ¬ h.ParameterSet with
  | some h => 1000 / settledRate h
  | none => 0

/-- The times of the slices: an I frame has its own, and what follows has the next. -/
def clock (gap : Nat) : Nat → List DataHeard → List Nat
  | _, [] => []
  | next, h :: heards =>
      if h.ParameterSet then clock gap next heards
      else if h.KeySlice then
        h.timestamp * 1000 :: clock gap (h.timestamp * 1000 + gap) heards
      else next :: clock gap (next + gap) heards

/-- No I frame has a time before that of the slice in front of it, where `last` is the time
of the last slice so far. -/
def KeepsPace (gap : Nat) : Option Nat → List DataHeard → Prop
  | _, [] => True
  | last, h :: heards =>
      if h.ParameterSet then KeepsPace gap last heards
      else if h.KeySlice then
        (∀ t ∈ last, t ≤ h.timestamp * 1000) ∧ KeepsPace gap (some (h.timestamp * 1000)) heards
      else KeepsPace gap (last.map (· + gap)) heards

theorem settledRate_pos (h : DataHeard) : settledRate h ≠ 0 := by
  unfold settledRate
  split <;> omega

/-- The times do not run backwards behind a slice exactly when they keep pace. -/
theorem isChain_clock_iff (gap t : Nat) (heards : List DataHeard) :
    (t :: clock gap (t + gap) heards).IsChain (· ≤ ·) ↔ KeepsPace gap (some t) heards := by
  induction heards generalizing t with
  | nil => simp [clock, KeepsPace]
  | cons h heards ih =>
      unfold clock KeepsPace
      by_cases hset : h.ParameterSet
      · simp only [if_pos hset, ih]
      · simp only [if_neg hset]
        by_cases hkey : h.KeySlice
        · simp only [if_pos hkey, List.isChain_cons_cons, ih, Option.mem_some_iff, forall_eq']
        · simp only [if_neg hkey, List.isChain_cons_cons, ih, Option.map_some,
            Nat.le_add_right, true_and]

/-- The first slice is one of an I frame. -/
def StartsWithKey (heards : List DataHeard) : Prop :=
  ∀ h ∈ heards.find? fun h => ¬ h.ParameterSet, h.KeySlice

theorem isChain_clock_of_start {gap next : Nat} {heards : List DataHeard}
    (hstart : StartsWithKey heards) :
    (clock gap next heards).IsChain (· ≤ ·) ↔ KeepsPace gap none heards := by
  induction heards with
  | nil => simp [clock, KeepsPace]
  | cons h heards ih =>
      unfold clock KeepsPace
      by_cases hset : h.ParameterSet
      · have hrest : StartsWithKey heards := by
          simpa [StartsWithKey, hset] using hstart
        simp only [if_pos hset, ih hrest]
      · have hkey : h.KeySlice := by
          simpa [StartsWithKey, hset] using hstart
        simp only [if_neg hset, if_pos hkey, isChain_clock_iff, Option.not_mem_none, false_imp_iff,
          implies_true, true_and]

variable {s : JsonStream} {env : Surroundings} {f : ReadFrame} {r : JsonStream × Option MediaOutput}

/-- A time that is known up to its first 64 bits, as it is handed on and one gap later. -/
theorem time_step {a : Int} {t : Nat} (h : a % 2 ^ 64 = (t : Int) % 2 ^ 64) (gap : Nat) :
    (a % 2 ^ 64).toNat = t % 2 ^ 64 ∧ (a + gap) % 2 ^ 64 = ((t + gap : Nat) : Int) % 2 ^ 64 := by
  omega

/-- A frame of H.264 settles the frame rate if there is none, and no other field of these. -/
theorem settled_of_h264 (env : Surroundings) {h : DataHeard} (hcodect : h.codect = ptH264) :
    ((s.countFrame env).settleRate h).frameRate =
        (if s.frameRate = 0 then settledRate h else s.frameRate) ∧
      ((s.countFrame env).settleRate h).exitCode = s.exitCode ∧
      ((s.countFrame env).settleRate h).lastTime = s.lastTime := by
  rw [settleRate]
  by_cases hzero : s.frameRate = 0
  · rw [if_pos ⟨hcodect, hzero⟩, if_pos hzero]
    exact ⟨rfl, rfl, rfl⟩
  · rw [if_neg fun h => hzero h.2, if_neg hzero]
    exact ⟨rfl, rfl, rfl⟩

/-- A slice of H.264 is handed on with its own time or the next one, at the frame rate that
is settled with it or was before. -/
theorem h264_slice (hcodect : f.heard.codect = ptH264) (hexit : s.exitCode = false)
    (hslice : ¬ f.heard.ParameterSet) (hcall : s.onVskJsonStreamToAvFrame env f.data = some r)
    {rate next : Nat} (hrate : rate = if s.frameRate = 0 then settledRate f.heard else s.frameRate)
    (hnext : s.lastTime % 2 ^ 64 = (next : Int) % 2 ^ 64) :
    r.1.exitCode = false ∧ r.1.frameRate = rate ∧
      ∃ frame, r.2.bind MediaOutput.handed = some frame ∧
        ∃ t : Nat, t = (if f.heard.KeySlice then f.heard.timestamp * 1000 else next) ∧
          frame.pts = t % 2 ^ 64 ∧
          r.1.lastTime % 2 ^ 64 = ((t + 1000 / rate : Nat) : Int) % 2 ^ 64 := by
  have hne : rate ≠ 0 := by
    rw [hrate]
    split
    · exact settledRate_pos _
    · assumption
  rw [onVskJsonStreamToAvFrame_read hexit env f (.inl hcodect), if_neg hslice] at hcall
  obtain ⟨hfps, hopen, hlast⟩ := settled_of_h264 (s := s) env hcodect
  rw [← hrate] at hfps
  rw [hexit] at hopen
  generalize (s.countFrame env).settleRate f.heard = s₁ at hcall hfps hopen hlast
  have hgap : s₁.frameGap f.heard = 1000 / rate := by
    rw [frameGap, hfps, if_neg hne]
  dsimp only at hcall
  rw [hgap] at hcall
  split at hcall
  · rename_i hkey
    obtain ⟨b, -, rfl⟩ := Option.map_eq_some_iff.mp hcall
    have htime : ((f.heard.timestamp * 1000 : Nat) : Int).bmod (2 ^ 64) % 2 ^ 64 =
        ((f.heard.timestamp * 1000 : Nat) : Int) % 2 ^ 64 := by
      exact_mod_cast @Int.bmod_emod (f.heard.timestamp * 1000 : Nat) (2 ^ 64)
    obtain ⟨hpts, hafter⟩ := time_step htime (1000 / rate)
    refine ⟨hopen, hfps, _, rfl, f.heard.timestamp * 1000, (if_pos hkey).symm, ?_, ?_⟩
    · dsimp only
      exact hpts
    · dsimp only
      exact hafter
  · rename_i hkey
    cases hcall
    rw [← hlast] at hnext
    obtain ⟨hpts, hafter⟩ := time_step hnext (1000 / rate)
    refine ⟨hopen, hfps, _, rfl, next, (if_neg hkey).symm, ?_, ?_⟩
    · dsimp only
      exact hpts
    · dsimp only
      exact hafter

/-- The times that are handed on, as numbers of 64 bits. -/
theorem playback_pts {calls : List (Surroundings × ReadFrame)} {out : List HandedFrame}
    {gap next : Nat} (hcodect : ∀ c ∈ calls, c.2.heard.codect = ptH264)
    (hexit : s.exitCode = false)
    (hgap : gap = if s.frameRate = 0 then settledGap (calls.map (·.2.heard))
      else 1000 / s.frameRate)
    (hnext : s.lastTime % 2 ^ 64 = (next : Int) % 2 ^ 64)
    (hrun : s.playback (calls.map fun c => (c.1, c.2.data)) = some out) :
    out.map HandedFrame.pts =
      (clock gap next (calls.map (·.2.heard))).map (· % 2 ^ 64) := by
  induction calls generalizing s next out with
  | nil =>
      cases hrun
      rfl
  | cons c calls ih =>
      obtain ⟨env, f⟩ := c
      have hcodect' := hcodect _ List.mem_cons_self
      have hrest := fun c hc => hcodect c (List.mem_cons_of_mem _ hc)
      rw [List.map_cons, playback] at hrun
      obtain ⟨r, hcall, hmap⟩ := Option.bind_eq_some_iff.mp hrun
      obtain ⟨out', hout', rfl⟩ := Option.map_eq_some_iff.mp hmap
      rw [List.map_cons, clock]
      by_cases hset : f.heard.ParameterSet
      · -- A parameter set leaves all but the buffer.
        rw [onVskJsonStreamToAvFrame_read hexit env f (.inl hcodect'), if_pos hset] at hcall
        obtain ⟨s₁, hcollect, rfl⟩ := Option.map_eq_some_iff.mp hcall
        obtain ⟨w, -, rfl⟩ := Option.map_eq_some_iff.mp hcollect
        rw [if_pos hset]
        refine @ih { s with mFrame := w.1 } out' next hrest hexit ?_ hnext hout'
        rw [hgap, List.map_cons, settledGap, List.find?_cons_of_neg (by simpa using hset)]
        rfl
      · obtain ⟨hopen, hfps, frame, hhanded, t, ht, hpts, hlast⟩ :=
          h264_slice hcodect' hexit hset hcall rfl hnext
        have hgap' : gap = 1000 / r.1.frameRate := by
          rw [hgap, hfps]
          split
          · rw [List.map_cons, settledGap, List.find?_cons_of_pos (by simpa using hset)]
          · rfl
        have hne : r.1.frameRate ≠ 0 := by
          rw [hfps]
          split
          · exact settledRate_pos _
          · assumption
        have htimes := @ih r.1 out' (t + gap) hrest hopen (by rw [if_neg hne]; exact hgap')
          (by rw [hgap', hfps]; exact hlast) hout'
        rw [hhanded]
        show (frame :: out').map HandedFrame.pts = _
        rw [List.map_cons, htimes, hpts, if_neg hset]
        split
        · rename_i hkey
          rw [if_pos hkey] at ht
          rw [ht, List.map_cons]
        · rename_i hkey
          rw [if_neg hkey] at ht
          rw [ht, List.map_cons]

/-- A playback of H.264 that starts with an I frame: an I frame is handed on with the time of
its header in milliseconds, and the slices behind it at the settled distance. While these
times are numbers of 63 bits, they do not run backwards exactly when no I frame has a time
before that of the slice in front of it. -/
theorem playback_pts_iff {malloc : Bool} {calls : List (Surroundings × ReadFrame)}
    {out : List HandedFrame} (hcodect : ∀ c ∈ calls, c.2.heard.codect = ptH264)
    (hstart : StartsWithKey (calls.map (·.2.heard)))
    (hrange :
      ∀ t ∈ clock (settledGap (calls.map (·.2.heard))) 0 (calls.map (·.2.heard)), t < 2 ^ 63)
    (hrun : (new malloc).playback (calls.map fun c => (c.1, c.2.data)) = some out) :
    out.map HandedFrame.pts =
        clock (settledGap (calls.map (·.2.heard))) 0 (calls.map (·.2.heard)) ∧
      ((out.map HandedFrame.pts).IsChain (· ≤ ·) ↔
        KeepsPace (settledGap (calls.map (·.2.heard))) none (calls.map (·.2.heard))) := by
  have hpts := @playback_pts (new malloc) calls out _ 0 hcodect rfl (if_pos rfl).symm rfl hrun
  have hsame : ∀ t ∈ clock (settledGap (calls.map (·.2.heard))) 0 (calls.map (·.2.heard)),
      t % 2 ^ 64 = id t := by
    intro t ht
    have hlt := hrange t ht
    exact Nat.mod_eq_of_lt (by omega)
  rw [List.map_congr_left hsame, List.map_id] at hpts
  exact ⟨hpts, by rw [hpts]; exact isChain_clock_of_start hstart⟩

/-- A slice at 25 frames a second with the time of its header. -/
def slice (type : H264Slice) (timestamp : UInt64) : ReadFrame :=
  H264Frame.toRead
    { extended := true, type := type, gapms := 40, framerate := 25, vwidth := 1920, vheight := 1080
      timestamp := timestamp, payload := [1], tail := [], pos := by decide, lt := by decide }
    (H264Frame.found_of_short rfl (show 1 + 0 < 2 ^ 31 - 32 by decide))

/-- The callbacks with an I frame of second 1, a P frame and an I frame of this second. -/
def twoGroups (second : UInt64) : List (Surroundings × ReadFrame) :=
  [slice .iSlice 1, slice .pSlice 0, slice .iSlice second].map (⟨0, 0, 0, 0, 0, true⟩, ·)

/-- With two I frames in one second the second one is behind the P frame between them. And
where the time of the header in milliseconds is no number of 64 bits, it starts again at 0. -/
theorem pts_run_backwards :
    (∃ out, (new true).playback ((twoGroups 1).map fun c => (c.1, c.2.data)) = some out ∧
      ¬ (out.map HandedFrame.pts).IsChain (· ≤ ·)) ∧
    ∃ out, (new true).playback ((twoGroups 18446744073709552).map fun c => (c.1, c.2.data)) =
        some out ∧ ¬ (out.map HandedFrame.pts).IsChain (· ≤ ·) :=
  ⟨⟨[⟨1, 25, 0, 1000⟩, ⟨1, 25, 3, 1040⟩, ⟨1, 25, 0, 1000⟩], by decide +kernel, by decide⟩,
    ⟨[⟨1, 25, 0, 1000⟩, ⟨1, 25, 3, 1040⟩, ⟨1, 25, 0, 384⟩], by decide +kernel, by decide⟩⟩

theorem twoGroups_in_order : ([1000, 1040, 2000] : List Nat).IsChain (· ≤ ·) := by
  have hrun : (new true).playback ((twoGroups 2).map fun c => (c.1, c.2.data)) =
      some [⟨1, 25, 0, 1000⟩, ⟨1, 25, 3, 1040⟩, ⟨1, 25, 0, 2000⟩] := by
    decide +kernel
  have hclock : clock (settledGap ((twoGroups 2).map (·.2.heard))) 0
      ((twoGroups 2).map (·.2.heard)) = [1000, 1040, 2000] := by
    decide +kernel
  have hfirst : ((twoGroups 2).map (·.2.heard)).find? (fun h => ¬ h.ParameterSet) =
      some (slice .iSlice 1).heard := by
    decide +kernel
  have hstart : StartsWithKey ((twoGroups 2).map (·.2.heard)) := by
    intro h hh
    rw [hfirst, Option.mem_some_iff] at hh
    rw [← hh]
    decide
  have hcodect : ∀ c ∈ twoGroups 2, c.2.heard.codect = ptH264 := by
    rintro c hc
    obtain ⟨f, hf, rfl⟩ := List.mem_map.mp hc
    rcases List.mem_cons.mp hf with rfl | hf
    · rfl
    · rcases List.mem_cons.mp hf with rfl | hf
      · rfl
      · rw [List.mem_singleton.mp hf]
        rfl
  refine (playback_pts_iff hcodect hstart ?_ hrun).2.mpr ?_
  · rw [hclock]
    decide
  · rw [← @isChain_clock_of_start _ 0 _ hstart, hclock]
    decide

end JsonStream

end SignalingServer
