import SignalingServer.DeviceMng.JsonDevice
import SignalingServer.Lib.Lts

/-!
The sessions of a `JsonNvrDevic` over its life. The calls of the SDK are read back per
session id: a log-in that returns the id opens the session, the next logout of the id
closes it, and in between it may be used. A device has one session at most, its
`mLoginId`; nothing but the destructor and `DevDisConnect` is meant to close one that
is still good.
-/

namespace SignalingServer

open Lts

/-- What a call of the SDK is to a session. -/
inductive SessionEvent where
  | logIn
  | use
  | logOut
  deriving DecidableEq, Repr

/-- The session that a call names. -/
def SdkCall.userID : SdkCall → Option Nat
  | .getChannelEncoderParam userID _ => some userID
  | .vskPreview userID _ _ => some userID
  | .searchRecordFileList userID _ _ _ => some userID
  | .playBack userID _ _ _ => some userID
  | .ptzCtrl userID _ _ _ => some userID
  | .listIPC userID => some userID
  | _ => none

namespace SessionEvent

/-- What a call with its answer is to session `id`. -/
def ofCall (id : Nat) : SdkCall × SdkAnswer → Option SessionEvent
  | (.jsonSdkLogIn _ _ _ _, a) => if a.handle = id then some .logIn else none
  | (.jsonSdkLogOut loginId, _) => if loginId = id then some .logOut else none
  | (c, _) => if c.userID = some id then some .use else none

/-- Whether the session is open after an event; `none` is an event out of turn. -/
def next : Bool → SessionEvent → Option Bool
  | false, .logIn => some true
  | true, .use => some true
  | true, .logOut => some false
  | _, _ => none

end SessionEvent

/-- The events of a session in the calls made, from its first log-in on; `none` when one
of them is out of turn, otherwise whether the session is open at the end. -/
def sessionOpen (id : Nat) (log : List (SdkCall × SdkAnswer)) : Option Bool :=
  (log.filterMap (SessionEvent.ofCall id)).foldlM SessionEvent.next false

/-- Each log-in that returned a session is followed by one logout of it before the next
one, and no call uses it in between but after the log-in and before the logout. -/
def Balanced (log : List (SdkCall × SdkAnswer)) : Prop :=
  ∀ id > 0, sessionOpen id log = some false

theorem sessionOpen_append (id : Nat) (log : List (SdkCall × SdkAnswer))
    (e : SdkCall × SdkAnswer) :
    sessionOpen id (log ++ [e]) =
      match SessionEvent.ofCall id e with
      | none => sessionOpen id log
      | some event => (sessionOpen id log).bind fun b => SessionEvent.next b event := by
  rw [sessionOpen, List.filterMap_append, List.foldlM_append]
  cases hevent : SessionEvent.ofCall id e with
  | none => simp [hevent, sessionOpen]
  | some event => simp [hevent, sessionOpen]

namespace NvrSession

/-- The session that is open is `mLoginId`, and all others are closed. -/
def Tracked (s : NvrSession) : Prop :=
  ∀ id > 0, sessionOpen id s.sdk.log = some (decide (s.nvr.mLoginId = id))

/-! ### What the calls do to the sessions -/

theorem sessionOpen_call (s : NvrSession) (env : Sdk) (c : SdkCall) (id : Nat) :
    sessionOpen id (s.call env c).sdk.log =
      match SessionEvent.ofCall id (c, s.ask env c) with
      | none => sessionOpen id s.sdk.log
      | some event => (sessionOpen id s.sdk.log).bind fun b => SessionEvent.next b event :=
  sessionOpen_append id s.sdk.log _

/-- A call that uses the open session, or none. -/
def UsesOpen (s : NvrSession) (c : SdkCall) : Prop :=
  ∀ id > 0, ∀ a, SessionEvent.ofCall id (c, a) = none ∨
    (SessionEvent.ofCall id (c, a) = some .use ∧ s.nvr.mLoginId = id)

theorem tracked_call {s : NvrSession} (hs : s.Tracked) (env : Sdk) {c : SdkCall}
    (hc : s.UsesOpen c) : (s.call env c).Tracked := by
  intro id hid
  have hold := hs id hid
  rw [sessionOpen_call]
  rcases hc id hid (s.ask env c) with hnone | ⟨huse, hopen⟩
  · rw [hnone]
    exact hold
  · rw [huse, hold]
    simp [call, hopen, SessionEvent.next]

theorem tracked_initSdk {s : NvrSession} (hs : s.Tracked) (env : Sdk) :
    (s.initSdk env).1.Tracked := by
  unfold initSdk
  split
  · exact hs
  · exact tracked_call hs env fun _ _ _ => .inl rfl

theorem tracked_logIn {s : NvrSession} (hs : s.Tracked) (env : Sdk) (err : Int) :
    (s.logIn env err).1.Tracked := by
  unfold logIn
  split
  · rename_i hclosed
    intro id hid
    have hne : s.nvr.mLoginId ≠ id := by omega
    have hevent : SessionEvent.ofCall id (s.logInCall, s.ask env s.logInCall) =
        if (s.ask env s.logInCall).handle = id then some .logIn else none := rfl
    have hlog := sessionOpen_call s env s.logInCall id
    rw [hevent, hs id hid, decide_eq_false hne] at hlog
    refine hlog.trans ?_
    by_cases hhandle : (s.ask env s.logInCall).handle = id
    · simp [hhandle, setLoginId, SessionEvent.next]
    · simp [hhandle, setLoginId]
  · exact hs

theorem tracked_logOut {s : NvrSession} (hs : s.Tracked) (env : Sdk) :
    ((s.call env (.jsonSdkLogOut s.nvr.mLoginId)).setLoginId 0).Tracked := by
  intro id hid
  have hevent : SessionEvent.ofCall id (.jsonSdkLogOut s.nvr.mLoginId,
      s.ask env (.jsonSdkLogOut s.nvr.mLoginId)) =
        if s.nvr.mLoginId = id then some .logOut else none := rfl
  have hlog := sessionOpen_call s env (.jsonSdkLogOut s.nvr.mLoginId) id
  rw [hevent, hs id hid] at hlog
  refine hlog.trans ?_
  have hzero : (0 : Nat) ≠ id := by omega
  by_cases heq : s.nvr.mLoginId = id
  · simp [heq, setLoginId, SessionEvent.next, hzero]
  · simp [heq, setLoginId, hzero]

theorem tracked_operate {s : NvrSession} (hs : s.Tracked) (env : Sdk) (err : Int)
    {op : Nat → SdkCall} (hop : s.UsesOpen (op s.nvr.mLoginId)) :
    (s.operate env err op).session.Tracked := by
  unfold operate
  by_cases hopen : s.nvr.mLoginId > 0
  · have hcalled := tracked_call hs env hop
    simp only [if_pos hopen]
    by_cases hexp : Expired (s.ask env (op s.nvr.mLoginId)).err
    · simp only [if_pos hexp]
      exact tracked_logOut hcalled env
    · simp only [if_neg hexp]
      exact hcalled
  · simp only [if_neg hopen]
    exact hs

theorem tracked_opened {s : NvrSession} (hs : s.Tracked) (env : Sdk) : (s.opened env).1.Tracked :=
  tracked_logIn (tracked_initSdk hs env) env _

theorem tracked_logInOp {s : NvrSession} (hs : s.Tracked) (env : Sdk) {op : Nat → SdkCall}
    (hop : ∀ s : NvrSession, s.UsesOpen (op s.nvr.mLoginId)) :
    (s.logInOp env op).session.Tracked :=
  tracked_operate (tracked_opened hs env) env _ (hop _)

theorem tracked_openOp {s : NvrSession} (hs : s.Tracked) (env : Sdk) {op : Nat → SdkCall}
    (hop : ∀ s : NvrSession, s.UsesOpen (op s.nvr.mLoginId)) :
    (s.openOp env op).session.Tracked :=
  tracked_operate (tracked_initSdk hs env) env _ (hop _)

/-- A call that names the open session. -/
theorem usesOpen_of_userID {s : NvrSession} {c : SdkCall} (hc : c.userID = some s.nvr.mLoginId) :
    s.UsesOpen c := by
  have hevent : ∀ id a, SessionEvent.ofCall id (c, a) =
      if c.userID = some id then some .use else none := by
    intro id a
    cases c with
    | initSdk => rfl
    | jsonSdkLogIn ip port user pswd => cases hc
    | jsonSdkLogOut loginId => cases hc
    | _ => rfl
  intro id _ a
  rw [hevent, hc]
  by_cases heq : s.nvr.mLoginId = id
  · exact .inr ⟨if_pos (congrArg some heq), heq⟩
  · exact .inl (if_neg fun h => heq (Option.some.inj h))

theorem tracked_jsonNvrLogOut {s : NvrSession} (hs : s.Tracked) (env : Sdk) :
    (s.jsonNvrLogOut env).session.Tracked := by
  have hinit := tracked_initSdk hs env
  unfold jsonNvrLogOut
  by_cases hact : (s.initSdk env).2 = 0 ∧ (s.initSdk env).1.nvr.mLoginId = 0
  · -- session 0, which is none, is logged out
    have huses : ∀ s' : NvrSession, s'.UsesOpen (.jsonSdkLogOut (s.initSdk env).1.nvr.mLoginId) := by
      intro s' id hid a
      rw [hact.2]
      exact .inl (if_neg (Nat.ne_of_lt hid))
    have hcalled := tracked_call hinit env (huses _)
    simp only [if_pos hact]
    split
    · have hagain := tracked_call hcalled env (huses _)
      intro id hid
      have hlog := hagain id hid
      have hzero : ((s.initSdk env).1.call env (.jsonSdkLogOut
          (s.initSdk env).1.nvr.mLoginId)).nvr.mLoginId = 0 := hact.2
      rw [call, hzero] at hlog
      exact hlog
    · exact hcalled
  · simp only [if_neg hact]
    exact hinit

end NvrSession

/-- An operation, also one that the SDK refuses, leaves the sessions tracked. -/
theorem NvrOp.tracked_run {s : NvrSession} (hs : s.Tracked) (env : Sdk) (op : NvrOp) :
    (op.run env s).session.Tracked := by
  cases op with
  | devStopPreview handle => exact NvrSession.tracked_openOp hs env fun _ _ _ _ => .inl rfl
  | devStopPlayBack handle => exact NvrSession.tracked_openOp hs env fun _ _ _ _ => .inl rfl
  | devPlayBackCtrl handle cmd param1 param2 =>
      exact NvrSession.tracked_openOp hs env fun _ _ _ _ => .inl rfl
  | devPbCtrlTimePos handle pos => exact NvrSession.tracked_openOp hs env fun _ _ _ _ => .inl rfl
  | getChannelEncoderParam channel =>
      have hopened := NvrSession.tracked_opened hs env
      simp only [NvrOp.run, NvrSession.getChannelEncoderParam]
      split
      · exact hopened
      · exact NvrSession.tracked_operate hopened env _ (NvrSession.usesOpen_of_userID rfl)
  | jsonNvrLogOut => exact NvrSession.tracked_jsonNvrLogOut hs env
  | _ => exact NvrSession.tracked_logInOp hs env fun _ => NvrSession.usesOpen_of_userID rfl

/-- A log-out in whatever state leaves `mLoginId` as it is. -/
theorem NvrSession.mLoginId_jsonNvrLogOut (s : NvrSession) (env : Sdk) :
    (s.jsonNvrLogOut env).session.nvr.mLoginId = s.nvr.mLoginId := by
  have hinit : (s.initSdk env).1.nvr = s.nvr := by
    unfold initSdk
    split <;> rfl
  unfold jsonNvrLogOut
  by_cases hact : (s.initSdk env).2 = 0 ∧ (s.initSdk env).1.nvr.mLoginId = 0
  · have hzero : s.nvr.mLoginId = 0 := by rw [← hinit, hact.2]
    simp only [if_pos hact]
    split
    · exact hzero.symm
    · exact congrArg JsonNvrDevic.mLoginId hinit
  · simp only [if_neg hact]
    rw [hinit]

/-! ### The life of a device -/

/-- What happens to a device. `DevDisConnect`, also in the destructor, is the operation
`jsonNvrLogOut`; other devices may initialise the SDK. -/
inductive DeviceEvent where
  | devConnect
  | operation (op : NvrOp)
  | setAddress (ip : String) (port : Int) (user pswd : String)
  | sdkInitialised
  deriving DecidableEq, Repr

namespace DeviceEvent

def devDisConnect : DeviceEvent := .operation .jsonNvrLogOut

def run (env : Sdk) (s : NvrSession) : DeviceEvent → NvrSession
  | .devConnect => (s.opened env).1
  | .operation op => (op.run env s).session
  | .setAddress ip port user pswd =>
      { s with nvr := { s.nvr with mIP := ip, mPort := toShort port, mUser := user, mPswd := pswd } }
  | .sdkInitialised => { s with sdk := { s.sdk with isInit := true } }

def step (env : Sdk) : Step NvrSession DeviceEvent := fun s e => some (e.run env s)

end DeviceEvent

namespace NvrSession

open DeviceEvent

/-- A new device, with an SDK that has no calls of it yet. -/
def created (isInit : Bool) (id ip : String) (port : Int) (user pswd : String) : NvrSession where
  sdk := { isInit := isInit, log := [] }
  nvr := { deviceId := id, mIP := ip, mPort := toShort port, mUser := user, mPswd := pswd }

theorem tracked_created (isInit : Bool) (id ip : String) (port : Int) (user pswd : String) :
    (created isInit id ip port user pswd).Tracked := by
  intro x hx
  have hne : (0 : Nat) ≠ x := by omega
  exact congrArg some (decide_eq_false hne).symm

theorem tracked_step {env : Sdk} {s s' : NvrSession} {e : DeviceEvent} (hs : s.Tracked)
    (h : step env s e = some s') : s'.Tracked := by
  cases h
  cases e with
  | devConnect => exact tracked_opened hs env
  | operation op => exact op.tracked_run hs env
  | setAddress ip port user pswd => exact hs
  | sdkInitialised => exact hs

/-- `DevDisConnect` on a logged-in device ends with `mLoginId` 0. -/
def Disconnects (env : Sdk) (s : NvrSession) (e : DeviceEvent) : Prop :=
  e = devDisConnect → s.nvr.mLoginId > 0 → (e.run env s).nvr.mLoginId = 0

/-- What is asked of the life of a device that ends with its destructor. -/
structure SessionsBalanced (env : Sdk) (s : NvrSession) (events : List DeviceEvent) : Prop where
  balanced : ∀ t, exec (step env) s (events ++ [devDisConnect]) = some t → Balanced t.sdk.log
  disconnects : Guarded (step env) (Disconnects env) s (events ++ [devDisConnect])

/-- The device is only disconnected or destroyed when it has no session. -/
def LoggedOutFirst (s : NvrSession) (e : DeviceEvent) : Prop :=
  e = devDisConnect → s.nvr.mLoginId = 0

theorem disconnects_iff (env : Sdk) (s : NvrSession) (e : DeviceEvent) :
    s.Disconnects env e ↔ s.LoggedOutFirst e := by
  constructor
  · rintro h rfl
    by_contra hopen
    have hafter := h rfl (Nat.pos_of_ne_zero hopen)
    exact hopen ((mLoginId_jsonNvrLogOut s env).symm.trans hafter)
  · intro h he hopen
    exact absurd (h he) (Nat.ne_of_gt hopen)

/-- The sessions of a device are balanced exactly if none is left to be closed when the
device is disconnected or destroyed. -/
theorem sessions_balanced_iff (env : Sdk) (isInit : Bool) (id ip : String) (port : Int)
    (user pswd : String) (events : List DeviceEvent) :
    SessionsBalanced env (created isInit id ip port user pswd) events ↔
      Guarded (step env) LoggedOutFirst (created isInit id ip port user pswd)
        (events ++ [devDisConnect]) := by
  constructor
  · exact fun h => h.disconnects.mono fun s e => (disconnects_iff env s e).mp
  · intro h
    refine ⟨fun t hrun => ?_, h.mono fun s e => (disconnects_iff env s e).mpr⟩
    have htracked : t.Tracked :=
      exec_invariant (fun _ _ _ => tracked_step) (tracked_created isInit id ip port user pswd) hrun
    rw [exec_append, Option.bind_eq_some_iff] at hrun
    obtain ⟨s, hrun, hlast⟩ := hrun
    obtain ⟨hclosed, -⟩ := h.of_append hrun _ rfl
    have hzero : t.nvr.mLoginId = 0 := by
      cases hlast
      exact (mLoginId_jsonNvrLogOut s env).trans (hclosed rfl)
    intro x hx
    have hne : (0 : Nat) ≠ x := by omega
    rw [htracked x hx, hzero, decide_eq_false hne]

/-- An NVR that gives out session 1. -/
def oneSession : Sdk := fun _ c =>
  match c with
  | .jsonSdkLogIn _ _ _ _ => { handle := 1 }
  | _ => {}

/-- Session 1 is never logged out. -/
theorem session_left_open :
    ¬ ∀ (env : Sdk) (isInit : Bool) (id ip : String) (port : Int) (user pswd : String)
      (events : List DeviceEvent),
        SessionsBalanced env (created isInit id ip port user pswd) events := by
  intro h
  have hrun := h oneSession false "7" "192.168.1.10" 8000 "admin" "admin" [.devConnect]
  have hopen := hrun.balanced _ rfl 1 (by decide)
  revert hopen
  decide

end NvrSession

end SignalingServer
