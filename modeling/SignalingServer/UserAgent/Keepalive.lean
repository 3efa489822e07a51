import Mathlib.Tactic.Common
import SignalingServer.Lib.Lts
import SignalingServer.UserAgent.UaInfo

/-!
Supervision of a registered session. Every round of `CheckRegistState` either
sends a keepalive or, once too many keepalives failed, takes the session offline
and asks for a registration refresh. Answers come back at any later time, so any
number of keepalives can be in flight next to a refresh. The registration handle
stays valid.
-/

namespace SignalingServer

open Lts

/-- A session under supervision together with its requests in flight. -/
structure Supervised where
  ua : UaSessionInfo
  keepalives : Nat
  refreshing : Bool
  deriving DecidableEq, Repr

/-- The events of the supervision. -/
inductive SupervisionEvent where
  /-- A round of `CheckRegistState` at clock reading `now`. -/
  | round (now : Int)
  /-- A keepalive in flight ends with this status. -/
  | keepaliveAnswered (status : Int)
  /-- The refresh in flight ends with this status. -/
  | refreshAnswered (status : Int)
  deriving DecidableEq, Repr

namespace Supervised

/-- The registration handle is valid throughout; a handle that was never set is not. -/
def validHandle (h : ClientRegistrationHandle) : Bool := h.isSome

/-- The requests that a round puts in flight. -/
def emit (s : Supervised) : UaOutput → Supervised
  | .keepalive _ => { s with keepalives := s.keepalives + 1 }
  | .refresh _ => { s with refreshing := true }
  | _ => s

/-- A session right after its first REGISTER was answered 200. -/
def registered (toUri fromUri : Uri) (passwd ssName callId : String) (h : Nat) :
    Supervised where
  ua :=
    (UaSessionInfo.regist
      { toUri := toUri, fromUri := fromUri, passwd := passwd, ssName := ssName }
      callId).1.registState (some h) 200
  keepalives := 0
  refreshing := false

/-- The outputs of a round of `CheckRegistState`. The call-id is only read when
a re-registration was scheduled. -/
def roundOutput (mDevCfg : DevConfig) (s : Supervised) (now : Int) : List UaOutput :=
  (s.ua.checkRegistState mDevCfg validHandle now s.ua.regcallid).2

/-- One event of the supervision. -/
def step (mDevCfg : DevConfig) : Step Supervised SupervisionEvent
  | s, .round now =>
      let (ua, out) := s.ua.checkRegistState mDevCfg validHandle now s.ua.regcallid
      some (out.foldl emit { s with ua := ua })
  | s, .keepaliveAnswered status =>
      if 0 < s.keepalives then
        some { s with ua := s.ua.registPageMsg status, keepalives := s.keepalives - 1 }
      else none
  | s, .refreshAnswered status =>
      if s.refreshing then
        some { s with ua := s.ua.registState s.ua.mh status, refreshing := false }
      else none

/-- Nothing that could still change the session is in flight. -/
def Idle (s : Supervised) : Prop := s.keepalives = 0 ∧ s.refreshing = false

/-- The interval since the last keepalive has passed. -/
def Elapsed (mDevCfg : DevConfig) (s : Supervised) (now : Int) : Prop :=
  s.ua.lastSendHeartTime = 0 ∨ now - s.ua.lastSendHeartTime > mDevCfg.heartBeatInterval

/-- A keepalive or a refresh is among the outputs of a round. -/
def Acts (out : List UaOutput) : Prop :=
  ∃ o ∈ out, (∃ user, o = .keepalive user) ∨ ∃ h, o = .refresh h

/-- The supervision is not stuck: in an idle state the next round with the
interval elapsed sends a keepalive or requests a refresh. -/
def Alive (mDevCfg : DevConfig) (s : Supervised) : Prop :=
  s.Idle → ∀ now, Elapsed mDevCfg s now → Acts (roundOutput mDevCfg s now)

/-- The sessions from which the next round acts: still counting while
registered, or over the limit at one of its multiples. -/
def Responsive (mDevCfg : DevConfig) (ua : UaSessionInfo) : Prop :=
  (ua.heartTimeOutCount < mDevCfg.heartBeatCount ∧ ua.iState = 200) ∨
    (mDevCfg.heartBeatCount ≤ ua.heartTimeOutCount ∧
      mDevCfg.heartBeatCount ∣ ua.heartTimeOutCount)

/-- The answers that are harmless. An answer that leaves other requests in
flight is; the last keepalive has to come back to a session that is still
registered and below the limit, or bring the count to a multiple of the limit;
the last refresh has to succeed or come back to such a multiple. -/
def LastAnswerHeard (mDevCfg : DevConfig) (s : Supervised) : SupervisionEvent → Prop
  | .round _ => True
  | .keepaliveAnswered status =>
      s.keepalives = 1 → s.refreshing = false →
        if status = 200 then s.ua.iState = 200
        else
          (s.ua.heartTimeOutCount + 1 < mDevCfg.heartBeatCount ∧ s.ua.iState = 200) ∨
            (mDevCfg.heartBeatCount ≤ s.ua.heartTimeOutCount + 1 ∧
              mDevCfg.heartBeatCount ∣ s.ua.heartTimeOutCount + 1)
  | .refreshAnswered status =>
      s.keepalives = 0 → status ≠ 200 →
        mDevCfg.heartBeatCount ≤ s.ua.heartTimeOutCount ∧
          mDevCfg.heartBeatCount ∣ s.ua.heartTimeOutCount

/-- What stays true of a supervised session throughout: its handle was set and
no re-registration was scheduled. -/
structure Settled (s : Supervised) : Prop where
  handle : validHandle s.ua.mh = true
  reissue : s.ua.reissueRegistrationLater = 0

theorem settled_registered (toUri fromUri : Uri) (passwd ssName callId : String) (h : Nat) :
    Settled (registered toUri fromUri passwd ssName callId h) := ⟨rfl, rfl⟩

/-! ### One round -/

/-- Every way a round of a settled session can go. -/
theorem checkRegistState_cases (mDevCfg : DevConfig) {s : Supervised} (hs : Settled s)
    (now : Int) (callId : String) :
    (mDevCfg.heartBeatCount ≤ s.ua.heartTimeOutCount ∧
        s.ua.heartTimeOutCount.tmod mDevCfg.heartBeatCount = 0 ∧
        s.ua.checkRegistState mDevCfg validHandle now callId =
          ({ s.ua with iState := 0 }, [.refresh s.ua.mh])) ∨
      (mDevCfg.heartBeatCount ≤ s.ua.heartTimeOutCount ∧
        s.ua.heartTimeOutCount.tmod mDevCfg.heartBeatCount ≠ 0 ∧
        s.ua.checkRegistState mDevCfg validHandle now callId =
          ({ s.ua with iState := 0 }, [])) ∨
      (s.ua.heartTimeOutCount < mDevCfg.heartBeatCount ∧ s.ua.iState = 200 ∧
        Elapsed mDevCfg s now ∧
        s.ua.checkRegistState mDevCfg validHandle now callId =
          ({ s.ua with lastSendHeartTime := now }, [.keepalive s.ua.toUri.user])) ∨
      (s.ua.heartTimeOutCount < mDevCfg.heartBeatCount ∧
        ¬ (s.ua.iState = 200 ∧ Elapsed mDevCfg s now) ∧
        s.ua.checkRegistState mDevCfg validHandle now callId = (s.ua, [])) := by
  unfold UaSessionInfo.checkRegistState
  -- unanswered heartbeats first, as in `CheckRegistState`; the handle is valid throughout
  by_cases hcount : s.ua.heartTimeOutCount ≥ mDevCfg.heartBeatCount
  · rw [if_pos hcount, if_pos hs.handle]
    by_cases hmod : s.ua.heartTimeOutCount.tmod mDevCfg.heartBeatCount = 0
    · exact .inl ⟨hcount, hmod, by rw [if_pos hmod]⟩
    · exact .inr (.inl ⟨hcount, hmod, by rw [if_neg hmod]⟩)
  · have hlt : s.ua.heartTimeOutCount < mDevCfg.heartBeatCount := by omega
    rw [if_neg hcount, if_neg (fun h => h.1 hs.reissue)]
    unfold UaSessionInfo.sendHeart
    by_cases hstate : s.ua.iState = 200
    · rw [if_pos ⟨hstate, hlt.le⟩]
      by_cases helapsed : Elapsed mDevCfg s now
      · exact .inr (.inr (.inl ⟨hlt, hstate, helapsed, if_pos helapsed⟩))
      · exact .inr (.inr (.inr ⟨hlt, fun h => helapsed h.2, if_neg helapsed⟩))
    · rw [if_neg (fun h => hstate h.1)]
      exact .inr (.inr (.inr ⟨hlt, fun h => hstate h.1, rfl⟩))

theorem dvd_of_tmod {a b : Int} (h : a.tmod b = 0) : b ∣ a := Int.dvd_of_tmod_eq_zero h

/-- With the interval elapsed, a round acts exactly on the responsive sessions. -/
theorem acts_roundOutput_iff (mDevCfg : DevConfig) {s : Supervised} (hs : Settled s)
    {now : Int} (hnow : Elapsed mDevCfg s now) :
    Acts (roundOutput mDevCfg s now) ↔ Responsive mDevCfg s.ua := by
  unfold roundOutput Responsive
  obtain ⟨hle, hmod, heq⟩ | ⟨hle, hmod, heq⟩ | ⟨hlt, hstate, -, heq⟩ | ⟨hlt, hno, heq⟩ :=
    checkRegistState_cases mDevCfg hs now s.ua.regcallid
  · rw [heq]
    refine ⟨fun _ => .inr ⟨hle, dvd_of_tmod hmod⟩, fun _ => ?_⟩
    exact ⟨_, List.mem_singleton_self _, .inr ⟨_, rfl⟩⟩
  · rw [heq]
    constructor
    · rintro ⟨o, ho, -⟩
      cases ho
    · rintro (⟨hlt, -⟩ | ⟨-, hdvd⟩)
      · omega
      · exact absurd (Int.tmod_eq_zero_of_dvd hdvd) hmod
  · rw [heq]
    refine ⟨fun _ => .inl ⟨hlt, hstate⟩, fun _ => ?_⟩
    exact ⟨_, List.mem_singleton_self _, .inl ⟨_, rfl⟩⟩
  · rw [heq]
    constructor
    · rintro ⟨o, ho, -⟩
      cases ho
    · rintro (⟨-, hstate⟩ | ⟨hle, -⟩)
      · exact absurd ⟨hstate, hnow⟩ hno
      · omega

theorem alive_iff (mDevCfg : DevConfig) {s : Supervised} (hs : Settled s) :
    Alive mDevCfg s ↔ (s.Idle → Responsive mDevCfg s.ua) := by
  constructor
  · intro halive hidle
    have helapsed : Elapsed mDevCfg s
        (s.ua.lastSendHeartTime + mDevCfg.heartBeatInterval + 1) := .inr (by omega)
    exact (acts_roundOutput_iff mDevCfg hs helapsed).mp (halive hidle _ helapsed)
  · intro hresp hidle now hnow
    exact (acts_roundOutput_iff mDevCfg hs hnow).mpr (hresp hidle)

/-! ### One event -/

theorem settled_step {mDevCfg : DevConfig} {s s' : Supervised} {e : SupervisionEvent}
    (hs : Settled s) (hstep : step mDevCfg s e = some s') : Settled s' := by
  cases e with
  | round now =>
      simp only [step, Option.some.injEq] at hstep
      obtain ⟨-, -, heq⟩ | ⟨-, -, heq⟩ | ⟨-, -, -, heq⟩ | ⟨-, -, heq⟩ :=
        checkRegistState_cases mDevCfg hs now s.ua.regcallid <;>
      · rw [heq] at hstep
        subst hstep
        exact ⟨hs.handle, hs.reissue⟩
  | keepaliveAnswered status =>
      simp only [step] at hstep
      split at hstep
      · cases hstep
        exact ⟨hs.handle, hs.reissue⟩
      · cases hstep
  | refreshAnswered status =>
      simp only [step] at hstep
      split at hstep
      · cases hstep
        exact ⟨hs.handle, hs.reissue⟩
      · cases hstep

/-- A round never leaves a session idle and stuck that was not so before. -/
theorem responsive_round {mDevCfg : DevConfig} {s s' : Supervised} (hs : Settled s)
    (hresp : s.Idle → Responsive mDevCfg s.ua) {now : Int}
    (hstep : step mDevCfg s (.round now) = some s') (hidle : s'.Idle) :
    Responsive mDevCfg s'.ua := by
  simp only [step, Option.some.injEq] at hstep
  obtain ⟨-, -, heq⟩ | ⟨hle, hmod, heq⟩ | ⟨-, -, -, heq⟩ | ⟨-, -, heq⟩ :=
    checkRegistState_cases mDevCfg hs now s.ua.regcallid
  · rw [heq] at hstep
    subst hstep
    exact absurd hidle.2 (by simp [emit])
  · rw [heq] at hstep
    subst hstep
    rcases hresp hidle with ⟨hlt, -⟩ | ⟨-, hdvd⟩
    · omega
    · exact absurd (Int.tmod_eq_zero_of_dvd hdvd) hmod
  · rw [heq] at hstep
    subst hstep
    exact absurd hidle.1 (by simp [emit])
  · rw [heq] at hstep
    subst hstep
    exact hresp hidle

/-- The condition on a keepalive answer says what the session looks like after it. -/
theorem responsive_keepalive_iff {mDevCfg : DevConfig} (hH : 1 ≤ mDevCfg.heartBeatCount)
    {s s' : Supervised} {status : Int}
    (hstep : step mDevCfg s (.keepaliveAnswered status) = some s') :
    (s'.Idle → Responsive mDevCfg s'.ua) ↔
      LastAnswerHeard mDevCfg s (.keepaliveAnswered status) := by
  simp only [step] at hstep
  split at hstep
  · rename_i hpos
    cases hstep
    by_cases hok : status = 200
    · simp only [Idle, Responsive, LastAnswerHeard, UaSessionInfo.registPageMsg, if_pos hok]
      constructor
      · intro h hone href
        rcases h ⟨by omega, href⟩ with ⟨-, hstate⟩ | ⟨hle, -⟩
        · exact hstate
        · omega
      · rintro h ⟨hzero, href⟩
        exact .inl ⟨by omega, h (by omega) href⟩
    · simp only [Idle, Responsive, LastAnswerHeard, UaSessionInfo.registPageMsg, if_neg hok]
      constructor
      · exact fun h hone href => h ⟨by omega, href⟩
      · rintro h ⟨hzero, href⟩
        exact h (by omega) href
  · cases hstep

theorem responsive_refresh_iff {mDevCfg : DevConfig} (hH : 1 ≤ mDevCfg.heartBeatCount)
    {s s' : Supervised} {status : Int}
    (hstep : step mDevCfg s (.refreshAnswered status) = some s') :
    (s'.Idle → Responsive mDevCfg s'.ua) ↔
      LastAnswerHeard mDevCfg s (.refreshAnswered status) := by
  simp only [step] at hstep
  split at hstep
  · cases hstep
    by_cases hok : status = 200
    · subst hok
      simp only [Idle, Responsive, LastAnswerHeard, UaSessionInfo.registState_ok_count,
        UaSessionInfo.registState_iState]
      exact ⟨fun _ _ h => absurd rfl h, fun _ _ => .inl ⟨by omega, trivial⟩⟩
    · simp only [Idle, Responsive, LastAnswerHeard, UaSessionInfo.registState_iState,
        UaSessionInfo.registState_failed_count _ _ hok]
      constructor
      · intro h hzero _
        rcases h ⟨hzero, trivial⟩ with ⟨-, hfalse⟩ | hmul
        · exact absurd hfalse hok
        · exact hmul
      · rintro h ⟨hzero, -⟩
        exact .inr (h hzero hok)
  · cases hstep

/-- The session is settled and, when idle, responsive. -/
structure Inv (mDevCfg : DevConfig) (s : Supervised) : Prop extends Settled s where
  responsive : s.Idle → Responsive mDevCfg s.ua

theorem inv_registered {mDevCfg : DevConfig} (hH : 1 ≤ mDevCfg.heartBeatCount)
    (toUri fromUri : Uri) (passwd ssName callId : String) (h : Nat) :
    Inv mDevCfg (registered toUri fromUri passwd ssName callId h) where
  toSettled := settled_registered toUri fromUri passwd ssName callId h
  responsive := fun _ => .inl ⟨by simp [registered]; omega, rfl⟩

theorem preserves_inv {mDevCfg : DevConfig} (hH : 1 ≤ mDevCfg.heartBeatCount) :
    Preserves (step mDevCfg) (LastAnswerHeard mDevCfg) (Inv mDevCfg) := by
  intro s e s' hs hg hstep
  refine ⟨settled_step hs.toSettled hstep, ?_⟩
  cases e with
  | round now => exact responsive_round hs.toSettled hs.responsive hstep
  | keepaliveAnswered status => exact (responsive_keepalive_iff hH hstep).mpr hg
  | refreshAnswered status => exact (responsive_refresh_iff hH hstep).mpr hg

theorem lastAnswerHeard_of_alive {mDevCfg : DevConfig} (hH : 1 ≤ mDevCfg.heartBeatCount)
    ⦃s : Supervised⦄ ⦃e : SupervisionEvent⦄ ⦃s' : Supervised⦄ (hs : Inv mDevCfg s)
    (hstep : step mDevCfg s e = some s') (halive : Alive mDevCfg s') :
    LastAnswerHeard mDevCfg s e := by
  have hresp := (alive_iff mDevCfg (settled_step hs.toSettled hstep)).mp halive
  cases e with
  | round now => trivial
  | keepaliveAnswered status => exact (responsive_keepalive_iff hH hstep).mp hresp
  | refreshAnswered status => exact (responsive_refresh_iff hH hstep).mp hresp

/-! ### Supervision of a whole run -/

/-- For every configuration with a positive limit and every interleaving of
rounds and answers, the supervision is alive in every state of the run exactly
when every answer of the run is harmless. -/
theorem supervision_alive_iff (mDevCfg : DevConfig) (hH : 1 ≤ mDevCfg.heartBeatCount)
    (toUri fromUri : Uri) (passwd ssName callId : String) (h : Nat)
    (events : List SupervisionEvent) :
    Along (step mDevCfg) (Alive mDevCfg)
        (registered toUri fromUri passwd ssName callId h) events ↔
      Guarded (step mDevCfg) (LastAnswerHeard mDevCfg)
        (registered toUri fromUri passwd ssName callId h) events :=
  along_iff_guarded (preserves_inv hH)
    (fun _ hs => (alive_iff mDevCfg hs.toSettled).mpr hs.responsive)
    (lastAnswerHeard_of_alive hH)
    (inv_registered hH toUri fromUri passwd ssName callId h)

/-- The platform, the device and the configuration of the sample runs. -/
def sampleSession : Supervised :=
  registered ⟨"34020000002000000002", "192.168.1.3", 5060⟩
    ⟨"34020000002000000001", "192.168.1.2", 5060⟩ "12345" "node" "call-1" 1

def sampleConfig : DevConfig := ⟨3, 5, 3600⟩

/-- One keepalive fails and the next one is answered. -/
theorem supervision_alive_sample :
    1 ≤ sampleConfig.heartBeatCount ∧
      Along (step sampleConfig) (Alive sampleConfig) sampleSession
        [.round 100, .keepaliveAnswered 408, .round 106, .keepaliveAnswered 200] := by
  refine ⟨by decide, (supervision_alive_iff sampleConfig (by decide) _ _ _ _ _ _ _).mpr ?_⟩
  intro s₁ h₁
  cases h₁
  refine ⟨trivial, fun s₂ h₂ => ?_⟩
  cases h₂
  refine ⟨fun _ _ => .inl (by decide), fun s₃ h₃ => ?_⟩
  cases h₃
  refine ⟨trivial, fun s₄ h₄ => ?_⟩
  cases h₄
  exact ⟨fun _ _ => rfl, trivial⟩

/-- The sample session after four keepalives left and all failed. -/
def stuckSession : Supervised :=
  { sampleSession with
    ua := { sampleSession.ua with lastSendHeartTime := 118, heartTimeOutCount := 4 } }

/-- Four keepalives leave within the SIP timeout and all fail, against a limit
of three: the count steps over the limit and no later round acts. -/
theorem supervision_stuck :
    exec (step sampleConfig) sampleSession
        [.round 100, .round 106, .round 112, .round 118, .keepaliveAnswered 408,
          .keepaliveAnswered 408, .keepaliveAnswered 408, .keepaliveAnswered 408] =
      some stuckSession ∧
      ¬ Alive sampleConfig stuckSession := by
  refine ⟨by decide, fun halive => ?_⟩
  have hnow : Elapsed sampleConfig stuckSession 124 := .inr (by decide)
  obtain ⟨o, ho, -⟩ := halive ⟨rfl, rfl⟩ 124 hnow
  have hout : roundOutput sampleConfig stuckSession 124 = [] := by decide
  rw [hout] at ho
  cases ho

end Supervised

end SignalingServer
