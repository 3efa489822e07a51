import SignalingServer.Lib.Pacing
import SignalingServer.Tools.AvFrame
import Mathlib.Tactic.Ring

/-!
The sender of program streams (`media/ps-file-source.cpp`). `Play` sends the next frame of a
live stream and `Playback` that of a recording when the clock has gone on far enough. Both wait
for `mGap`, which they take from key frames, and count 40 milliseconds for every video frame.
-/

namespace SignalingServer

/-- `vframe_t` as a reader of the stream gets it, with the bytes that `nalu` points to. -/
structure LiveFrame where
  nalu : Option (List UInt8)
  idr : Bool
  frameType : Int
  gap : Int
  deriving DecidableEq, Repr

/-- The types of elementary streams. -/
inductive PsiStream where
  | H264
  | H265
  | AAC
  | AUDIO_G711A
  | AUDIO_G711U
  deriving DecidableEq, Repr

/-- A call of the muxer: `ps_muxer_add_stream`, or `ps_muxer_input` for one of the streams. -/
inductive MuxCall where
  | addStream (stream : PsiStream)
  | inputVideo (pts : Int) (data : List UInt8)
  | inputAudio (data : List UInt8)
  deriving DecidableEq, Repr

/-- The members of `PSFileSource` that pace the frames, and the calls of the muxer so far. -/
structure PSFileSource where
  m_status : Int
  m_ps_clock : Int
  m_rtp_clock : Int
  mGap : Int
  frameNum : Nat
  m_ps_video_stream_inited : Bool
  m_ps_audio_stream_inited : Bool
  muxCalls : List MuxCall

namespace PSFileSource

/-- A number of 64 bits as an `uint64_t`. -/
def toU64 (n : Int) : Int := if n < 0 then n + 2 ^ 64 else n

/-- The test of the clock, in which `m_ps_clock` makes the difference unsigned. -/
def Eligible (s : PSFileSource) (clock : Int) : Prop :=
  s.m_rtp_clock = 0 ∨ toU64 (s.m_rtp_clock + s.mGap) < toU64 (clock - s.m_ps_clock)

instance (s : PSFileSource) (clock : Int) : Decidable (s.Eligible clock) :=
  inferInstanceAs (Decidable (_ ∨ _))

/-- The clock of the first frame is kept. -/
def startClock (s : PSFileSource) (clock : Int) : PSFileSource :=
  { s with m_ps_clock := if s.m_ps_clock = 0 then clock else s.m_ps_clock }

/-- A video frame goes to the muxer. -/
def inputVideo (s : PSFileSource) (stream : PsiStream) (clock : Int) (data : List UInt8) :
    PSFileSource :=
  { s with
    m_ps_video_stream_inited := true
    muxCalls := s.muxCalls ++ (if s.m_ps_video_stream_inited then [] else [.addStream stream]) ++
      [.inputVideo ((clock - s.m_ps_clock) * 90) data]
    m_rtp_clock := s.m_rtp_clock + 40 }

/-- An audio frame, of one of the three types or of another one, goes to the muxer; `none` where
the function returns. -/
def inputAudio (s : PSFileSource) (stream : Option PsiStream) (data : List UInt8) :
    Option PSFileSource :=
  if s.m_ps_audio_stream_inited then
    match stream with
    | some _ => some { s with muxCalls := s.muxCalls ++ [.inputAudio data] }
    | none => some s
  else
    stream.map fun stream =>
      { s with
        m_ps_audio_stream_inited := true
        muxCalls := s.muxCalls ++ [.addStream stream, .inputAudio data] }

/-- The audio streams by `frameType`, which is compared with `CODEC_G711A`, `CODEC_G711U` and
`CODEC_AAC`. -/
def liveAudio (frameType : Int) : Option PsiStream :=
  if frameType = 3 then some .AUDIO_G711A
  else if frameType = 4 then some .AUDIO_G711U
  else if frameType = 7 then some .AAC
  else none

/-- The audio streams by codec. -/
def fileAudio : MediaCodec → Option PsiStream
  | .CODEC_G711A => some .AUDIO_G711A
  | .CODEC_G711U => some .AUDIO_G711U
  | .CODEC_AAC => some .AAC
  | _ => none

/-- `PSFileSource::Play`, with the frame that `GetNextFrame` gives. `GB_CODEC_H264` is 0 and
`GB_CODEC_H265` is 1. -/
def play (s : PSFileSource) (clock : Int) (next : Option LiveFrame) : PSFileSource × Int :=
  let s := { s with m_status := 1 }
  if s.Eligible clock then
    match next with
    | none => (s, 0)
    | some frame =>
        match frame.nalu with
        | none => (s, 0)
        | some data =>
            let s := s.startClock clock
            if data.head? ≠ some 0 then (s, 0)
            else
              let input :=
                if frame.frameType = 0 ∨ frame.frameType = 1 then
                  some ({ s with frameNum := s.frameNum + 1 }.inputVideo
                    (if frame.frameType = 0 then .H264 else .H265) clock data)
                else s.inputAudio (liveAudio frame.frameType) data
              match input with
              | none => (s, 0)
              | some s => ({ s with mGap := if frame.idr then frame.gap else s.mGap }, 1)
  else (s, 0)

/-- The gap that a key frame of a recording gives. -/
def fileGap (frame : AvFrame) : Int :=
  if frame.getFramRate > 0 then 1000 / frame.getFramRate else 40

/-- `PSFileSource::Playback`, with the frame that `GetNextFrameEx` gives, which is freed in every
case. -/
def playback (s : PSFileSource) (clock : Int) (next : Option AvFrame) : PSFileSource × Int :=
  let s := { s with m_status := 1 }
  if s.Eligible clock then
    match next with
    | none => (s, 0)
    | some frame =>
        let s := s.startClock clock
        let input :=
          if frame.getCodecType.isVideo then
            some ({ s with frameNum := s.frameNum + 1 }.inputVideo
              (if frame.getCodecType = MediaCodec.CODEC_H265 then .H265 else .H264) clock
              frame.content)
          else s.inputAudio (fileAudio frame.getCodecType) frame.content
        match input with
        | none => (s, 0)
        | some s => ({ s with mGap := if frame.isKeyFram then fileGap frame else s.mGap }, 1)
  else (s, 0)

/-- The call of `SourceLoop` or of `SourceLoopPlayBack`, with what the stream gives. -/
inductive Call where
  | play (next : Option LiveFrame)
  | playback (next : Option AvFrame)
  deriving DecidableEq, Repr

def call (s : PSFileSource) (clock : Int) : Call → PSFileSource
  | .play next => (s.play clock next).1
  | .playback next => (s.playback clock next).1

/-- Which of the two loops runs. -/
inductive Loop where
  | sourceLoop
  | sourceLoopPlayBack
  deriving DecidableEq, Repr

/-- The call of the loop finds a video frame, and the gap stays the same. -/
def Feeds (g : Int) : Loop → Call → Prop
  | .sourceLoop, .play (some frame) =>
      (∃ data, frame.nalu = some data ∧ data.head? = some 0) ∧
        (frame.frameType = 0 ∨ frame.frameType = 1) ∧ (frame.idr → frame.gap = g)
  | .sourceLoopPlayBack, .playback (some frame) =>
      frame.getCodecType.isVideo ∧ (frame.isKeyFram → fileGap frame = g)
  | _, _ => False

/-- How many video frames have been sent. -/
def framesSent (s : PSFileSource) : Nat :=
  s.muxCalls.countP fun c => c matches .inputVideo _ _

/-- Nothing has been sent, and the gap is that of the stream. -/
structure Fresh (g : Int) (s : PSFileSource) : Prop where
  psClock : s.m_ps_clock = 0
  rtpClock : s.m_rtp_clock = 0
  gap : s.mGap = g
  muxCalls : s.muxCalls = []

/-- The states after the calls of a loop, from the first one at `t₀` to the last one at `now`. -/
inductive Run (loop : Loop) (g t₀ : Int) : Int → PSFileSource → Prop
  | first {s : PSFileSource} {c : Call} :
      Fresh g s → Feeds g loop c → Run loop g t₀ t₀ (s.call t₀ c)
  | next {s : PSFileSource} {now clock : Int} {c : Call} :
      Run loop g t₀ now s → now ≤ clock → clock ≤ now + 1 → Feeds g loop c →
      Run loop g t₀ clock (s.call clock c)

/-- The frames that were sent are no more than two away from those of a stream with this gap. -/
def Paced (g t₀ now : Int) (s : PSFileSource) : Prop :=
  |(s.framesSent : Int) * g - (now - t₀)| ≤ 2 * g

/-! ### One call -/

variable {s : PSFileSource} {g clock : Int} {loop : Loop} {c : Call}

@[simp] theorem framesSent_inputVideo (s : PSFileSource) (stream : PsiStream) (clock : Int)
    (data : List UInt8) : (s.inputVideo stream clock data).framesSent = s.framesSent + 1 := by
  unfold framesSent inputVideo
  split
  · simp
  · simp

/-- A call that may send its frame. -/
structure Sends (g clock : Int) (s s' : PSFileSource) : Prop where
  psClock : s'.m_ps_clock = if s.m_ps_clock = 0 then clock else s.m_ps_clock
  rtpClock : s'.m_rtp_clock = s.m_rtp_clock + 40
  gap : s'.mGap = g
  framesSent : s'.framesSent = s.framesSent + 1

theorem sends_play {frame : LiveFrame} (hfeeds : Feeds g .sourceLoop (.play (some frame)))
    (hgap : s.mGap = g) (heligible : s.Eligible clock) :
    Sends g clock s (s.play clock (some frame)).1 := by
  obtain ⟨⟨data, hnalu, hfirst⟩, htype, hidr⟩ := hfeeds
  have heligible' : ({ s with m_status := 1 } : PSFileSource).Eligible clock := heligible
  unfold play
  simp only [if_pos heligible', hnalu, if_neg (not_not.mpr hfirst), if_pos htype]
  refine { psClock := rfl, rtpClock := rfl, gap := ?_, framesSent := framesSent_inputVideo _ _ _ _ }
  show (if frame.idr then frame.gap else s.mGap) = g
  split
  · rename_i h
    exact hidr h
  · exact hgap

theorem sends_playback {frame : AvFrame}
    (hfeeds : Feeds g .sourceLoopPlayBack (.playback (some frame))) (hgap : s.mGap = g)
    (heligible : s.Eligible clock) : Sends g clock s (s.playback clock (some frame)).1 := by
  obtain ⟨hvideo, hkey⟩ := hfeeds
  have heligible' : ({ s with m_status := 1 } : PSFileSource).Eligible clock := heligible
  unfold playback
  simp only [if_pos heligible', if_pos hvideo]
  refine { psClock := rfl, rtpClock := rfl, gap := ?_, framesSent := framesSent_inputVideo _ _ _ _ }
  show (if frame.isKeyFram then fileGap frame else s.mGap) = g
  split
  · rename_i h
    exact hkey h
  · exact hgap

/-- Both functions send a video frame in the same way. -/
theorem sends_call (hfeeds : Feeds g loop c) (hgap : s.mGap = g) (heligible : s.Eligible clock) :
    Sends g clock s (s.call clock c) := by
  cases loop with
  | sourceLoop =>
      rcases c with (- | frame) | next
      · exact hfeeds.elim
      · exact sends_play hfeeds hgap heligible
      · exact hfeeds.elim
  | sourceLoopPlayBack =>
      rcases c with next | (- | frame)
      · exact hfeeds.elim
      · exact hfeeds.elim
      · exact sends_playback hfeeds hgap heligible

/-- Before its time a call sends nothing. -/
theorem call_of_not_eligible (heligible : ¬ s.Eligible clock) (c : Call) :
    s.call clock c = { s with m_status := 1 } := by
  have heligible' : ¬ ({ s with m_status := 1 } : PSFileSource).Eligible clock := heligible
  cases c with
  | play next => exact congrArg Prod.fst (if_neg heligible')
  | playback next => exact congrArg Prod.fst (if_neg heligible')

/-! ### Runs -/

/-- The clocks of the sender, when its frames have been counted from `start` on and `given` of
them were sent by then. -/
structure Tracks (g start now : Int) (given : Nat) (s : PSFileSource) : Prop where
  psClock : s.m_ps_clock = start
  rtpClock : s.m_rtp_clock = 40 * s.framesSent
  gap : s.mGap = g
  onTime : Pacing.OnTime 40 g start now given s.framesSent
  start_le : start ≤ now

theorem toU64_of_nonneg {n : Int} (h : 0 ≤ n) : toU64 n = n := if_neg (not_lt.mpr h)

/-- The test of the clock is that of a sender which counts 40 milliseconds for a frame. -/
theorem eligible_iff_due {start : Int} (hps : s.m_ps_clock = start)
    (hrtp : s.m_rtp_clock = 40 * s.framesSent) (hgap : s.mGap = g) (hg : 0 < g)
    (hsent : 0 < s.framesSent) (hclock : start ≤ clock) :
    s.Eligible clock ↔ Pacing.Due 40 g start clock s.framesSent := by
  have hpos : s.m_rtp_clock ≠ 0 := by omega
  rw [Eligible, or_iff_right hpos, hps, hgap, toU64_of_nonneg (by omega),
    toU64_of_nonneg (by omega), hrtp]
  rfl

/-- A call that comes too early keeps everything but the time. -/
theorem Tracks.wait {start now : Int} {given : Nat} (h : Tracks g start now given s) (hg : 0 < g)
    (hgiven : 0 < given) (hle : now ≤ clock) (heligible : ¬ s.Eligible clock) (c : Call) :
    Tracks g start clock given (s.call clock c) ∧ (s.call clock c).framesSent = s.framesSent := by
  have hsent : 0 < s.framesSent := hgiven.trans_le h.onTime.given_le
  have hclock : start ≤ clock := h.start_le.trans hle
  have hdue := eligible_iff_due h.psClock h.rtpClock h.gap hg hsent hclock
  rw [call_of_not_eligible heligible]
  refine ⟨?_, rfl⟩
  exact { psClock := h.psClock, rtpClock := h.rtpClock, gap := h.gap
          onTime := h.onTime.wait hle (mt hdue.mpr heligible), start_le := hclock }

theorem Tracks.call {start now : Int} {given : Nat} (h : Tracks g start now given s) (hg : 0 < g)
    (hstart : start ≠ 0) (hgiven : 0 < given) (hle : now ≤ clock) (hnext : clock ≤ now + 1)
    (hfeeds : Feeds g loop c) : Tracks g start clock given (s.call clock c) := by
  by_cases heligible : s.Eligible clock
  · have hsent : 0 < s.framesSent := hgiven.trans_le h.onTime.given_le
    have hclock : start ≤ clock := h.start_le.trans hle
    have hdue := eligible_iff_due h.psClock h.rtpClock h.gap hg hsent hclock
    have hsends := sends_call hfeeds h.gap heligible
    refine { psClock := ?_, rtpClock := ?_, gap := hsends.gap, onTime := ?_, start_le := hclock }
    · rw [hsends.psClock, h.psClock, if_neg hstart]
    · rw [hsends.rtpClock, h.rtpClock, hsends.framesSent, Nat.cast_succ, mul_add, mul_one]
    · rw [hsends.framesSent]
      exact h.onTime.send (by decide) hnext (hdue.mp heligible)
  · exact (h.wait hg hgiven hle heligible c).1

/-- The first frame is sent at once. -/
theorem Fresh.sends (h : Fresh g s) (clock : Int) (hfeeds : Feeds g loop c) :
    Sends g clock s (s.call clock c) ∧ s.framesSent = 0 := by
  refine ⟨sends_call hfeeds h.gap (.inl h.rtpClock), ?_⟩
  rw [framesSent, h.muxCalls]
  rfl

theorem Fresh.tracks (h : Fresh g s) (hg : 0 < g) (hfeeds : Feeds g loop c) :
    Tracks g clock clock 1 (s.call clock c) := by
  obtain ⟨hsends, hzero⟩ := h.sends clock hfeeds
  have hone : (s.call clock c).framesSent = 1 := by rw [hsends.framesSent, hzero]
  refine { psClock := ?_, rtpClock := ?_, gap := hsends.gap, onTime := ?_, start_le := le_refl _ }
  · rw [hsends.psClock, if_pos h.psClock]
  · rw [hsends.rtpClock, h.rtpClock, hone]
    rfl
  · rw [hone]
    refine { notDue := ?_, wasDue := fun hlt => absurd hlt (lt_irrefl 1), given_le := le_refl 1 }
    unfold Pacing.Due
    omega

/-- From a clock that is not 0 on, `m_ps_clock` is the time of the first frame. -/
theorem Run.tracks {t₀ now : Int} (h : Run loop g t₀ now s) (hg : 0 < g) (ht₀ : t₀ ≠ 0) :
    Tracks g t₀ now 1 s := by
  induction h with
  | first hfresh hfeeds => exact hfresh.tracks hg hfeeds
  | next hrun hle hnext hfeeds ih => exact ih.call hg ht₀ Nat.one_pos hle hnext hfeeds

/-- If the clock is 0 at the first frame, the second one is taken for the first. -/
theorem Run.tracks_zero {now : Int} (h : Run loop g 0 now s) (hg : 0 < g) :
    (Tracks g 0 now 1 s ∧ s.framesSent = 1) ∨ Tracks g (41 + g) now 2 s := by
  induction h with
  | first hfresh hfeeds =>
      refine .inl ⟨hfresh.tracks hg hfeeds, ?_⟩
      obtain ⟨hsends, hzero⟩ := hfresh.sends _ hfeeds
      rw [hsends.framesSent, hzero]
  | @next s now clock c hrun hle hnext hfeeds ih =>
      rcases ih with ⟨htracks, hone⟩ | htracks
      · by_cases heligible : s.Eligible clock
        · right
          have hdue := eligible_iff_due htracks.psClock htracks.rtpClock htracks.gap hg
            (by omega) (htracks.start_le.trans hle)
          have hsends := sends_call hfeeds htracks.gap heligible
          have htwo : (s.call clock c).framesSent = 2 := by rw [hsends.framesSent, hone]
          have hclock : clock = 41 + g := by
            have hbefore := htracks.onTime.notDue
            have hnow := hdue.mp heligible
            unfold Pacing.Due at hbefore hnow
            rw [hone] at hbefore hnow
            omega
          refine { psClock := ?_, rtpClock := ?_, gap := hsends.gap, onTime := ?_,
                   start_le := hclock.ge }
          · rw [hsends.psClock, if_pos htracks.psClock, hclock]
          · rw [hsends.rtpClock, htracks.rtpClock, htwo, hone]
            rfl
          · rw [htwo]
            refine { notDue := ?_, wasDue := fun hlt => absurd hlt (lt_irrefl 2),
                     given_le := le_refl 2 }
            unfold Pacing.Due
            omega
        · obtain ⟨hwait, hkept⟩ := htracks.wait hg Nat.one_pos hle heligible c
          exact .inl ⟨hwait, hkept.trans hone⟩
      · exact .inr (htracks.call hg (by omega) (by decide) hle hnext hfeeds)

/-! ### The pace -/

/-- A frame that is always there: of the live stream, and of a recording. -/
def steadyCall (g : Int) : Loop → Call
  | .sourceLoop => .play (some { nalu := some [0], idr := false, frameType := 0, gap := g })
  | .sourceLoopPlayBack =>
      .playback (some { mFrame := { codect := .CODEC_H264, frameType := 2 } })

theorem feeds_steadyCall (g : Int) (loop : Loop) : Feeds g loop (steadyCall g loop) := by
  cases loop with
  | sourceLoop => exact ⟨⟨[0], rfl, rfl⟩, .inl rfl, fun h => absurd h Bool.false_ne_true⟩
  | sourceLoopPlayBack => exact ⟨rfl, fun h => absurd h Bool.false_ne_true⟩

/-- A sender as it is made, when the gap has been set. -/
def fresh (g : Int) : PSFileSource where
  m_status := 0
  m_ps_clock := 0
  m_rtp_clock := 0
  mGap := g
  frameNum := 0
  m_ps_video_stream_inited := false
  m_ps_audio_stream_inited := false
  muxCalls := []

theorem fresh_fresh (g : Int) : Fresh g (fresh g) := ⟨rfl, rfl, rfl, rfl⟩

/-- A clock can be looked at in every millisecond for any time. -/
theorem exists_run (loop : Loop) (g t₀ : Int) (elapsed : Nat) :
    ∃ s, Run loop g t₀ (t₀ + elapsed) s := by
  induction elapsed with
  | zero =>
      rw [Nat.cast_zero, add_zero]
      exact ⟨_, .first (fresh_fresh g) (feeds_steadyCall g loop)⟩
  | succ elapsed ih =>
      obtain ⟨s, hrun⟩ := ih
      rw [Nat.cast_succ, ← add_assoc]
      exact ⟨_, .next hrun (by omega) le_rfl (feeds_steadyCall g loop)⟩

/-- After many frames of 40 milliseconds a stream with another gap is elsewhere. -/
theorem far_apart {sent late : Int} (hg : 0 < g) (hne : g ≠ 40) (hlate : 0 ≤ late)
    (hmany : 2 * g + late < sent) : 2 * g < |sent * g - (40 * sent + late)| := by
  have hdiff : sent * g - (40 * sent + late) = sent * (g - 40) - late := by ring
  have hsent : 0 ≤ sent := by omega
  rw [hdiff, lt_abs]
  rcases lt_or_gt_of_ne hne with hlt | hgt
  · right
    have hmul : sent * (g - 40) ≤ sent * (-1) := mul_le_mul_of_nonneg_left (by omega) hsent
    omega
  · left
    have hmul : sent * 1 ≤ sent * (g - 40) := mul_le_mul_of_nonneg_left (by omega) hsent
    omega

/-- A long run of a stream with another gap, or from clock 0 on, is not paced. -/
theorem exists_not_paced (loop : Loop) {t₀ : Int} (hg : 0 < g) (hcond : ¬ (g = 40 ∧ t₀ ≠ 0)) :
    ∃ now s, Run loop g t₀ now s ∧ ¬ Paced g t₀ now s := by
  obtain ⟨n, rfl⟩ : ∃ n : Nat, g = n := ⟨g.toNat, (Int.toNat_of_nonneg hg.le).symm⟩
  by_cases ht₀ : t₀ = 0
  · subst ht₀
    obtain ⟨s, hrun⟩ := exists_run loop n 0 (41 + n + (40 * (4 * n + 42) + n))
    refine ⟨_, s, hrun, ?_⟩
    rcases hrun.tracks_zero hg with ⟨htracks, hone⟩ | htracks
    · have hearly := htracks.onTime.notDue
      rw [hone] at hearly
      unfold Pacing.Due at hearly
      omega
    · have hsent : s.framesSent = 4 * n + 42 :=
        htracks.onTime.sent_eq (by decide) (by omega) (by push_cast; ring)
      have helapsed : ((0 + ((41 + n + (40 * (4 * n + 42) + n) : Nat) : Int)) - 0) =
          40 * ((4 * n + 42 : Nat) : Int) + (41 + 2 * n) := by push_cast; ring
      rw [Paced, hsent, helapsed, not_le]
      by_cases hne : (n : Int) = 40
      · have hforty : n = 40 := by exact_mod_cast hne
        subst hforty
        decide
      · exact far_apart hg hne (by omega) (by omega)
  · have hne : (n : Int) ≠ 40 := fun h => hcond ⟨h, ht₀⟩
    obtain ⟨s, hrun⟩ := exists_run loop n t₀ (40 * (3 * n + 1) + n)
    refine ⟨_, s, hrun, ?_⟩
    have hsent : s.framesSent = 3 * n + 1 :=
      (hrun.tracks hg ht₀).onTime.sent_eq (by decide) (by omega) (by push_cast; ring)
    have helapsed : t₀ + ((40 * (3 * n + 1) + n : Nat) : Int) - t₀ =
        40 * ((3 * n + 1 : Nat) : Int) + n := by push_cast; ring
    rw [Paced, hsent, helapsed, not_le]
    exact far_apart hg hne (by omega) (by omega)

/-- The sender keeps the pace of every stream with a gap of 40 milliseconds, from any clock but 0
on, and of no other stream: the frames of both loops are sent every 40 milliseconds. -/
theorem paced_iff (loop : Loop) (g t₀ : Int) (hg : 0 < g) :
    (∀ now s, Run loop g t₀ now s → Paced g t₀ now s) ↔ g = 40 ∧ t₀ ≠ 0 := by
  constructor
  · intro hall
    by_contra hcond
    obtain ⟨now, s, hrun, hnot⟩ := exists_not_paced loop hg hcond
    exact hnot (hall now s hrun)
  · rintro ⟨rfl, ht₀⟩ now s hrun
    have htracks := hrun.tracks hg ht₀
    have hpace := htracks.onTime.keeps_pace hg.le htracks.start_le
    unfold Paced
    omega

theorem paced_iff_forty :
    (∀ now s, Run .sourceLoop 40 1 now s → Paced 40 1 now s) ↔ (40 : Int) = 40 ∧ (1 : Int) ≠ 0 :=
  paced_iff .sourceLoop 40 1 (by decide)

/-- A stream with 50 frames in a second is sent with 25. -/
theorem not_paced : ¬ ∀ now s, Run .sourceLoop 20 1 now s → Paced 20 1 now s := by
  intro hall
  obtain ⟨now, s, hrun, hnot⟩ : ∃ now s, Run .sourceLoop 20 1 now s ∧ ¬ Paced 20 1 now s :=
    exists_not_paced .sourceLoop (by decide) fun h => absurd h.1 (by decide)
  exact hnot (hall now s hrun)

end PSFileSource

end SignalingServer
