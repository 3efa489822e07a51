import Mathlib.Algebra.Group.Nat.Defs
import SignalingServer.DeviceMng.JsonSdk

/-!
`JsonNvrDevic` (JsonDevice.cpp). Almost every operation has the same frame: the
SDK is initialised when it is not, a session is opened when there is none, the
SDK function runs, and an expired session is logged out. All of them pass the
caller's `err` by reference through these steps.
-/

namespace SignalingServer

/-- The conversion of an `int` to the `short` of `BaseDevice::mPort`. -/
def toShort (n : Int) : Int := n.bmod (2 ^ 16)

/-- `JsonNvrDevic` with the fields of `BaseDevice` that its operations read. -/
structure JsonNvrDevic where
  deviceId : String
  mIP : String
  mPort : Int
  mUser : String
  mPswd : String
  mLoginId : Nat := 0
  mGBID : String := ""
  deriving DecidableEq, Repr

/-- An NVR and the SDK it uses. -/
structure NvrSession where
  sdk : JsonSdkInterface
  nvr : JsonNvrDevic
  deriving DecidableEq, Repr

/-- What an operation leaves behind: the session, the answer of the SDK
operation if it was called, and the caller's `err`. -/
structure SdkResult where
  session : NvrSession
  answer : Option SdkAnswer
  err : Int

namespace SdkResult

/-- The handle that `Dev_Preview` and `Dev_PlayBack` return. -/
def handle (r : SdkResult) : Nat := (r.answer.map (·.handle)).getD 0

/-- The caller sees no error only if the SDK operation ended without one. -/
def NoFalseSuccess (r : SdkResult) : Prop := r.err = 0 → ∃ a, r.answer = some a ∧ a.err = 0

end SdkResult

namespace NvrSession

/-- `err == 3001 || err == 2007`. -/
def Expired (err : Int) : Prop := err = 3001 ∨ err = 2007

instance (err : Int) : Decidable (Expired err) := inferInstanceAs (Decidable (_ ∨ _))

def ask (s : NvrSession) (env : Sdk) (c : SdkCall) : SdkAnswer := s.sdk.ask env c

def call (s : NvrSession) (env : Sdk) (c : SdkCall) : NvrSession :=
  { s with sdk := s.sdk.call env c }

def setLoginId (s : NvrSession) (id : Nat) : NvrSession :=
  { s with nvr := { s.nvr with mLoginId := id } }

def logInCall (s : NvrSession) : SdkCall :=
  .jsonSdkLogIn s.nvr.mIP s.nvr.mPort s.nvr.mUser s.nvr.mPswd

/-! ### The frame of the operations -/

/-- `if (!SdkIsInit()) InitSdk(err);` on `err = 0`. -/
def initSdk (s : NvrSession) (env : Sdk) : NvrSession × Int :=
  if s.sdk.isInit then (s, 0) else (s.call env .initSdk, (s.ask env .initSdk).err)

/-- `if (err == 0 && mLoginId == 0) mLoginId = JsonSdkLogIn(.., err);` -/
def logIn (s : NvrSession) (env : Sdk) (err : Int) : NvrSession × Int :=
  if err = 0 ∧ s.nvr.mLoginId = 0 then
    ((s.call env s.logInCall).setLoginId (s.ask env s.logInCall).handle,
      (s.ask env s.logInCall).err)
  else (s, err)

/-- The block under `if (mLoginId > 0)`. -/
def operate (s : NvrSession) (env : Sdk) (err : Int) (op : Nat → SdkCall) : SdkResult :=
  if s.nvr.mLoginId > 0 then
    let c := op s.nvr.mLoginId
    let a := s.ask env c
    let s' := s.call env c
    if Expired a.err then
      let logOut := .jsonSdkLogOut s.nvr.mLoginId
      ⟨(s'.call env logOut).setLoginId 0, some a, (s'.ask env logOut).err⟩
    else ⟨s', some a, a.err⟩
  else ⟨s, none, err⟩

/-- The session in which an operation that logs in meets the SDK function. -/
def opened (s : NvrSession) (env : Sdk) : NvrSession × Int :=
  (s.initSdk env).1.logIn env (s.initSdk env).2

/-- An operation that opens a session. -/
def logInOp (s : NvrSession) (env : Sdk) (op : Nat → SdkCall) : SdkResult :=
  (s.opened env).1.operate env (s.opened env).2 op

/-- An operation that only uses a session that is open. -/
def openOp (s : NvrSession) (env : Sdk) (op : Nat → SdkCall) : SdkResult :=
  (s.initSdk env).1.operate env (s.initSdk env).2 op

/-! ### The operations -/

def devPreview (s : NvrSession) (env : Sdk) (channelId streamType : Int) : SdkResult :=
  s.logInOp env fun id => .vskPreview id channelId streamType

def devStopPreview (s : NvrSession) (env : Sdk) (handle : Nat) : SdkResult :=
  s.openOp env fun _ => .stopPreview handle

def searchRecordInfoList (s : NvrSession) (env : Sdk) (channel st et : Int) : SdkResult :=
  s.logInOp env fun id => .searchRecordFileList id channel st et

def devPlayBack (s : NvrSession) (env : Sdk) (channelId start stop : Int) : SdkResult :=
  s.logInOp env fun id => .playBack id channelId start stop

def devStopPlayBack (s : NvrSession) (env : Sdk) (handle : Nat) : SdkResult :=
  s.openOp env fun _ => .stopPlayBack handle

def devPlayBackCtrl (s : NvrSession) (env : Sdk) (handle : Nat) (cmd param1 param2 : Int) :
    SdkResult :=
  s.openOp env fun _ => .playBackCtrl handle cmd param1 param2

def devPbCtrlTimePos (s : NvrSession) (env : Sdk) (handle : Nat) (pos : Int) : SdkResult :=
  s.openOp env fun _ => .setTimePos handle pos

def devPTZCtrl (s : NvrSession) (env : Sdk) (channelId : Int) (ptzCommand argument : UInt32) :
    SdkResult :=
  s.logInOp env fun id => .ptzCtrl id (UInt32.ofInt channelId) ptzCommand argument

def devListIPC (s : NvrSession) (env : Sdk) : SdkResult :=
  s.logInOp env fun id => .listIPC id

/-- `GetChannelEncoderParam` returns at once when its log-in reports an error. -/
def getChannelEncoderParam (s : NvrSession) (env : Sdk) (channel : Int) : SdkResult :=
  if (s.initSdk env).2 = 0 ∧ (s.initSdk env).1.nvr.mLoginId = 0 ∧ (s.opened env).2 ≠ 0 then
    ⟨(s.opened env).1, none, (s.opened env).2⟩
  else (s.opened env).1.operate env (s.opened env).2 fun id => .getChannelEncoderParam id channel

/-- `JsonNvrLogOut` acts when `mLoginId` is 0, and its retry logs out once more. -/
def jsonNvrLogOut (s : NvrSession) (env : Sdk) : SdkResult :=
  let s₁ := (s.initSdk env).1
  if (s.initSdk env).2 = 0 ∧ s₁.nvr.mLoginId = 0 then
    let logOut := .jsonSdkLogOut s₁.nvr.mLoginId
    let a := s₁.ask env logOut
    let s₂ := s₁.call env logOut
    if Expired a.err then
      ⟨(s₂.call env logOut).setLoginId 0, some (s₂.ask env logOut), (s₂.ask env logOut).err⟩
    else ⟨s₂, some a, a.err⟩
  else ⟨s₁, none, (s.initSdk env).2⟩

end NvrSession

/-- The operations that take `int& err` and know an expired session. -/
inductive NvrOp where
  | devPreview (channelId streamType : Int)
  | devStopPreview (handle : Nat)
  | searchRecordInfoList (channel st et : Int)
  | devPlayBack (channelId start stop : Int)
  | devStopPlayBack (handle : Nat)
  | devPlayBackCtrl (handle : Nat) (cmd param1 param2 : Int)
  | devPbCtrlTimePos (handle : Nat) (pos : Int)
  | devPTZCtrl (channelId : Int) (ptzCommand argument : UInt32)
  | devListIPC
  | getChannelEncoderParam (channel : Int)
  | jsonNvrLogOut
  deriving DecidableEq, Repr

namespace NvrOp

def run (env : Sdk) (s : NvrSession) : NvrOp → SdkResult
  | .devPreview channelId streamType => s.devPreview env channelId streamType
  | .devStopPreview handle => s.devStopPreview env handle
  | .searchRecordInfoList channel st et => s.searchRecordInfoList env channel st et
  | .devPlayBack channelId start stop => s.devPlayBack env channelId start stop
  | .devStopPlayBack handle => s.devStopPlayBack env handle
  | .devPlayBackCtrl handle cmd param1 param2 => s.devPlayBackCtrl env handle cmd param1 param2
  | .devPbCtrlTimePos handle pos => s.devPbCtrlTimePos env handle pos
  | .devPTZCtrl channelId ptzCommand argument => s.devPTZCtrl env channelId ptzCommand argument
  | .devListIPC => s.devListIPC env
  | .getChannelEncoderParam channel => s.getChannelEncoderParam env channel
  | .jsonNvrLogOut => s.jsonNvrLogOut env

end NvrOp

/-! ### When the caller's error can be trusted -/

namespace NvrSession

/-- The SDK function runs in this session and does not end in the pair that
hides its error, an expired session whose logout succeeds; or it does not run,
and the error of the steps before it is there to be seen. -/
def Truthful (s : NvrSession) (env : Sdk) (err : Int) (op : Nat → SdkCall) : Prop :=
  if s.nvr.mLoginId > 0 then
    Expired (s.ask env (op s.nvr.mLoginId)).err →
      ((s.call env (op s.nvr.mLoginId)).ask env (.jsonSdkLogOut s.nvr.mLoginId)).err ≠ 0
  else err ≠ 0

theorem expired_ne_zero {err : Int} (h : Expired err) : err ≠ 0 := by
  rcases h with rfl | rfl <;> decide

theorem noFalseSuccess_operate_iff (s : NvrSession) (env : Sdk) (err : Int)
    (op : Nat → SdkCall) :
    (s.operate env err op).NoFalseSuccess ↔ s.Truthful env err op := by
  unfold operate Truthful SdkResult.NoFalseSuccess
  by_cases hlogin : s.nvr.mLoginId > 0
  · simp only [if_pos hlogin]
    by_cases hexp : Expired (s.ask env (op s.nvr.mLoginId)).err
    · simp only [if_pos hexp]
      constructor
      · intro htrue _ hout
        obtain ⟨a, ha, hzero⟩ := htrue hout
        cases ha
        exact expired_ne_zero hexp hzero
      · intro htrue hout
        exact absurd hout (htrue hexp)
    · simp only [if_neg hexp]
      exact ⟨fun _ h => absurd h hexp, fun _ hzero => ⟨_, rfl, hzero⟩⟩
  · simp only [if_neg hlogin]
    constructor
    · intro htrue hzero
      obtain ⟨a, ha, -⟩ := htrue hzero
      cases ha
    · intro hne hzero
      exact absurd hzero hne

/-- In an open session the SDK function is the first call of an operation. -/
theorem operate_open {s : NvrSession} (hlogin : s.nvr.mLoginId > 0) (env : Sdk) (err : Int)
    (op : Nat → SdkCall) :
    (s.operate env err op).answer = some (s.ask env (op s.nvr.mLoginId)) ∧
      ∃ rest, (s.operate env err op).session.sdk.log =
        s.sdk.log ++ (op s.nvr.mLoginId, s.ask env (op s.nvr.mLoginId)) :: rest := by
  unfold operate
  simp only [if_pos hlogin]
  by_cases hexp : Expired (s.ask env (op s.nvr.mLoginId)).err
  · rw [if_pos hexp]
    refine ⟨rfl, ?_⟩
    simp only [setLoginId, call, JsonSdkInterface.call_log, List.append_assoc]
    exact ⟨_, rfl⟩
  · rw [if_neg hexp]
    exact ⟨rfl, [], rfl⟩

theorem operate_closed {s : NvrSession} (hlogin : ¬ s.nvr.mLoginId > 0) (env : Sdk) (err : Int)
    (op : Nat → SdkCall) : s.operate env err op = ⟨s, none, err⟩ := by
  rw [operate, if_neg hlogin]

/-! ### Which calls an operation makes -/

variable {P : SdkCall → Prop}

theorem callsOnly_initSdk (hinit : P .initSdk) (s : NvrSession) (env : Sdk) :
    s.sdk.CallsOnly P (s.initSdk env).1.sdk := by
  unfold initSdk
  split
  · exact .refl P _
  · exact JsonSdkInterface.callsOnly_call hinit _ _

theorem callsOnly_logIn (hlogin : ∀ ip port user pswd, P (.jsonSdkLogIn ip port user pswd))
    (s : NvrSession) (env : Sdk) (err : Int) : s.sdk.CallsOnly P (s.logIn env err).1.sdk := by
  unfold logIn
  split
  · exact JsonSdkInterface.callsOnly_call (hlogin _ _ _ _) _ _
  · exact .refl P _

theorem callsOnly_operate {op : Nat → SdkCall} (hop : ∀ id, P (op id))
    (hlogout : ∀ id, P (.jsonSdkLogOut id)) (s : NvrSession) (env : Sdk) (err : Int) :
    s.sdk.CallsOnly P (s.operate env err op).session.sdk := by
  unfold operate
  have hcall := JsonSdkInterface.callsOnly_call (hop s.nvr.mLoginId) s.sdk env
  split
  · by_cases hexp : Expired (s.ask env (op s.nvr.mLoginId)).err
    · simp only [if_pos hexp]
      exact hcall.trans (JsonSdkInterface.callsOnly_call (hlogout _) _ _)
    · simp only [if_neg hexp]
      exact hcall
  · exact .refl P _

/-- The calls that frame an operation. -/
def Frame (P : SdkCall → Prop) : Prop :=
  P .initSdk ∧ (∀ ip port user pswd, P (.jsonSdkLogIn ip port user pswd)) ∧
    ∀ id, P (.jsonSdkLogOut id)

theorem frame_onChannel (chid : Int) : Frame (SdkCall.OnChannel chid) := by
  simp [Frame, SdkCall.OnChannel, SdkCall.channel]

theorem callsOnly_opened (hframe : Frame P) (s : NvrSession) (env : Sdk) :
    s.sdk.CallsOnly P (s.opened env).1.sdk :=
  (callsOnly_initSdk hframe.1 s env).trans (callsOnly_logIn hframe.2.1 _ env _)

theorem callsOnly_logInOp (hframe : Frame P) {op : Nat → SdkCall} (hop : ∀ id, P (op id))
    (s : NvrSession) (env : Sdk) : s.sdk.CallsOnly P (s.logInOp env op).session.sdk :=
  (callsOnly_opened hframe s env).trans (callsOnly_operate hop hframe.2.2 _ env _)

theorem callsOnly_getChannelEncoderParam (hframe : Frame P) {channel : Int}
    (hop : ∀ id, P (.getChannelEncoderParam id channel)) (s : NvrSession) (env : Sdk) :
    s.sdk.CallsOnly P (s.getChannelEncoderParam env channel).session.sdk := by
  unfold getChannelEncoderParam
  split
  · exact callsOnly_opened hframe s env
  · exact (callsOnly_opened hframe s env).trans (callsOnly_operate hop hframe.2.2 _ env _)

end NvrSession

namespace NvrOp

/-- The condition of each operation, on the session in which it meets the SDK
function. `GetChannelEncoderParam` also reports a failed log-in; `JsonNvrLogOut`
must not meet the open session it was meant for. -/
def Truthful (env : Sdk) (s : NvrSession) : NvrOp → Prop
  | .devPreview channelId streamType =>
      (s.opened env).1.Truthful env (s.opened env).2 fun id => .vskPreview id channelId streamType
  | .devStopPreview handle =>
      (s.initSdk env).1.Truthful env (s.initSdk env).2 fun _ => .stopPreview handle
  | .searchRecordInfoList channel st et =>
      (s.opened env).1.Truthful env (s.opened env).2 fun id =>
        .searchRecordFileList id channel st et
  | .devPlayBack channelId start stop =>
      (s.opened env).1.Truthful env (s.opened env).2 fun id => .playBack id channelId start stop
  | .devStopPlayBack handle =>
      (s.initSdk env).1.Truthful env (s.initSdk env).2 fun _ => .stopPlayBack handle
  | .devPlayBackCtrl handle cmd param1 param2 =>
      (s.initSdk env).1.Truthful env (s.initSdk env).2 fun _ =>
        .playBackCtrl handle cmd param1 param2
  | .devPbCtrlTimePos handle pos =>
      (s.initSdk env).1.Truthful env (s.initSdk env).2 fun _ => .setTimePos handle pos
  | .devPTZCtrl channelId ptzCommand argument =>
      (s.opened env).1.Truthful env (s.opened env).2 fun id =>
        .ptzCtrl id (UInt32.ofInt channelId) ptzCommand argument
  | .devListIPC =>
      (s.opened env).1.Truthful env (s.opened env).2 fun id => .listIPC id
  | .getChannelEncoderParam channel =>
      ((s.initSdk env).2 = 0 ∧ (s.initSdk env).1.nvr.mLoginId = 0 ∧ (s.opened env).2 ≠ 0) ∨
        (s.opened env).1.Truthful env (s.opened env).2 fun id =>
          .getChannelEncoderParam id channel
  | .jsonNvrLogOut => ¬ ((s.initSdk env).2 = 0 ∧ (s.initSdk env).1.nvr.mLoginId > 0)

theorem noFalseSuccess_getChannelEncoderParam_iff (env : Sdk) (s : NvrSession) (channel : Int) :
    (s.getChannelEncoderParam env channel).NoFalseSuccess ↔
      (NvrOp.getChannelEncoderParam channel).Truthful env s := by
  unfold NvrSession.getChannelEncoderParam
  simp only [Truthful]
  split
  · rename_i hfail
    exact ⟨fun _ => .inl hfail, fun _ hzero => absurd hzero hfail.2.2⟩
  · rename_i hopen
    rw [NvrSession.noFalseSuccess_operate_iff]
    exact ⟨.inr, fun h => h.resolve_left hopen⟩

theorem noFalseSuccess_jsonNvrLogOut_iff (env : Sdk) (s : NvrSession) :
    (s.jsonNvrLogOut env).NoFalseSuccess ↔ NvrOp.jsonNvrLogOut.Truthful env s := by
  unfold NvrSession.jsonNvrLogOut
  simp only [Truthful]
  by_cases hact : (s.initSdk env).2 = 0 ∧ (s.initSdk env).1.nvr.mLoginId = 0
  · simp only [if_pos hact]
    refine ⟨fun _ h => absurd hact.2 (Nat.pos_iff_ne_zero.mp h.2), fun _ => ?_⟩
    split
    · exact fun hzero => ⟨_, rfl, hzero⟩
    · exact fun hzero => ⟨_, rfl, hzero⟩
  · simp only [if_neg hact]
    constructor
    · rintro htrue ⟨hzero, -⟩
      obtain ⟨a, ha, -⟩ := htrue hzero
      cases ha
    · intro hclosed hzero
      have hpos : (s.initSdk env).1.nvr.mLoginId > 0 :=
        Nat.pos_of_ne_zero fun hid => hact ⟨hzero, hid⟩
      exact absurd ⟨hzero, hpos⟩ hclosed

/-- An operation reports no failure as success exactly under its condition. -/
theorem noFalseSuccess_run_iff (env : Sdk) (s : NvrSession) (op : NvrOp) :
    (op.run env s).NoFalseSuccess ↔ op.Truthful env s := by
  cases op with
  | getChannelEncoderParam channel => exact noFalseSuccess_getChannelEncoderParam_iff env s channel
  | jsonNvrLogOut => exact noFalseSuccess_jsonNvrLogOut_iff env s
  | _ => exact NvrSession.noFalseSuccess_operate_iff _ _ _ _

end NvrOp

end SignalingServer
