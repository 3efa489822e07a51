import Mathlib.Data.Finset.Basic
import SignalingServer.Lib.OrdMap

/-!
The session record that the user agent keeps for each parent platform and the
operations that read or write a single session: building a REGISTER, taking
over the answer of a registration, the answer of a keepalive, and one round of
the supervision. A DUM handle is the number of the usage it refers to; a
default-constructed handle is `none`.
-/

namespace SignalingServer

/-- The parts of `resip::Uri` that the user agent reads. -/
structure Uri where
  user : String
  host : String
  port : Int
  deriving DecidableEq, Repr

/-- A `ClientRegistrationHandle`; `none` is the default-constructed one. -/
abbrev ClientRegistrationHandle := Option Nat

/-- `UaSessionInfo` (uainfo.h), with the defaults of its constructors. -/
structure UaSessionInfo where
  toUri : Uri
  fromUri : Uri
  passwd : String
  iState : Int := 0
  mh : ClientRegistrationHandle := none
  lastSendHeartTime : Int := 0
  reissueRegistrationLater : Int := 0
  heartTimeOutCount : Int := 0
  regcallid : String := ""
  ssName : String := ""
  deriving DecidableEq, Repr

/-- `DevConfig` (uainfo.h). -/
structure DevConfig where
  heartBeatCount : Int
  heartBeatInterval : Int
  expires : Int
  deriving DecidableEq, Repr

/-- What an operation on a session hands to the DUM. -/
inductive UaOutput where
  /-- A REGISTER request is sent under this call-id. -/
  | register (callId : String)
  /-- A Keepalive message is paged to the platform. -/
  | keepalive (user : String)
  /-- `requestRefresh` is called on the registration. -/
  | refresh (h : ClientRegistrationHandle)
  /-- `removeMyBindingsCommand` is called on the registration. -/
  | removeMyBindings (h : ClientRegistrationHandle)
  deriving DecidableEq, Repr

namespace UaSessionInfo

/-- `UaMgr::Regist`: the REGISTER is made under a call-id the stack chose, the
session remembers it, and only then the message is sent. -/
def regist (ua : UaSessionInfo) (callId : String) : UaSessionInfo × UaOutput :=
  ({ ua with regcallid := callId, heartTimeOutCount := 0 }, .register callId)

/-- The writes of `UaMgr::RegistStateCallBack` to the session it found. -/
def registState (ua : UaSessionInfo) (h : ClientRegistrationHandle) (reason : Int) :
    UaSessionInfo :=
  { ua with
    iState := reason
    mh := h
    heartTimeOutCount := if reason = 200 then 0 else ua.heartTimeOutCount }

/-- The writes of `UaMgr::RegistPageMsgCallBack` for an answered Keepalive. -/
def registPageMsg (ua : UaSessionInfo) (reason : Int) : UaSessionInfo :=
  { ua with
    heartTimeOutCount := if reason = 200 then 0 else ua.heartTimeOutCount + 1 }

/-- `CUserMessageMrg::SendHeart` at clock reading `now`. -/
def sendHeart (ua : UaSessionInfo) (config : DevConfig) (now : Int) :
    UaSessionInfo × List UaOutput :=
  if ua.iState = 200 ∧ ua.heartTimeOutCount ≤ config.heartBeatCount then
    if ua.lastSendHeartTime = 0 ∨ now - ua.lastSendHeartTime > config.heartBeatInterval then
      ({ ua with lastSendHeartTime := now }, [.keepalive ua.toUri.user])
    else (ua, [])
  else (ua, [])

/-- The body of the loop in `UaMgr::CheckRegistState` for one session. The
argument `valid` answers `isValid` on handles, `now` is the clock and `callId`
the call-id the stack would choose for a new REGISTER. -/
def checkRegistState (ua : UaSessionInfo) (mDevCfg : DevConfig)
    (valid : ClientRegistrationHandle → Bool) (now : Int) (callId : String) :
    UaSessionInfo × List UaOutput :=
  if ua.heartTimeOutCount ≥ mDevCfg.heartBeatCount then
    if valid ua.mh then
      ({ ua with iState := 0 },
        if ua.heartTimeOutCount.tmod mDevCfg.heartBeatCount = 0 then [.refresh ua.mh] else [])
    else (ua, [])
  else if ua.reissueRegistrationLater ≠ 0 ∧ ua.reissueRegistrationLater < now then
    let (ua', out) := regist { ua with reissueRegistrationLater := 0 } callId
    (ua', [out])
  else sendHeart ua mDevCfg now

@[simp] theorem regist_regcallid (ua : UaSessionInfo) (callId : String) :
    (ua.regist callId).1.regcallid = callId := rfl

@[simp] theorem regist_iState (ua : UaSessionInfo) (callId : String) :
    (ua.regist callId).1.iState = ua.iState := rfl

@[simp] theorem registState_iState (ua : UaSessionInfo) (h : ClientRegistrationHandle)
    (reason : Int) : (ua.registState h reason).iState = reason := rfl

@[simp] theorem registState_regcallid (ua : UaSessionInfo) (h : ClientRegistrationHandle)
    (reason : Int) : (ua.registState h reason).regcallid = ua.regcallid := rfl

@[simp] theorem registState_reissue (ua : UaSessionInfo) (h : ClientRegistrationHandle)
    (reason : Int) :
    (ua.registState h reason).reissueRegistrationLater = ua.reissueRegistrationLater := rfl

@[simp] theorem registState_ok_count (ua : UaSessionInfo) (h : ClientRegistrationHandle) :
    (ua.registState h 200).heartTimeOutCount = 0 := by
  simp [registState]

theorem registState_failed_count (ua : UaSessionInfo) (h : ClientRegistrationHandle)
    {reason : Int} (hr : reason ≠ 200) :
    (ua.registState h reason).heartTimeOutCount = ua.heartTimeOutCount := by
  simp [registState, hr]

end UaSessionInfo

end SignalingServer
