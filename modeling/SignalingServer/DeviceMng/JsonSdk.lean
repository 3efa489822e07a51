import Mathlib.Tactic.TypeStar

/-!
The NVR SDK behind `JsonSdkInterface`. Nothing is assumed of it: it is an
arbitrary function from the calls made so far and the call at hand to an answer,
so it may return any handle and set any error code, and answer the same call
differently each time.
-/

namespace SignalingServer

/-- The functions of `JsonSdkInterface`, with the arguments that reach the NVR. -/
inductive SdkCall where
  | initSdk
  | jsonSdkLogIn (ip : String) (port : Int) (user pswd : String)
  | jsonSdkLogOut (loginId : Nat)
  | getChannelEncoderParam (userID : Nat) (chid : Int)
  | vskPreview (userID : Nat) (channel streamId : Int)
  | stopPreview (rthandle : Nat)
  | searchRecordFileList (userID : Nat) (channel start stop : Int)
  | playBack (userID : Nat) (channel start stop : Int)
  | stopPlayBack (handle : Nat)
  | playBackCtrl (handle : Nat) (cmd param1 param2 : Int)
  | setTimePos (handle : Nat) (pos : Int)
  | ptzCtrl (userID : Nat) (channel : UInt32) (ptzCommand argument : UInt32)
  | listIPC (userID : Nat)
  deriving DecidableEq, Repr

namespace SdkCall

/-- The channel argument of the calls that have one. -/
def channel : SdkCall → Option Int
  | .getChannelEncoderParam _ chid => some chid
  | .vskPreview _ channel _ => some channel
  | .searchRecordFileList _ channel _ _ => some channel
  | .playBack _ channel _ _ => some channel
  | .ptzCtrl _ channel _ _ => some channel.toNat
  | _ => none

/-- The call is about this channel, or about none. -/
def OnChannel (chid : Int) (c : SdkCall) : Prop := ∀ channel, c.channel = some channel → channel = chid

/-- A PTZ call with a channel counted from one is not on the channel counted from zero. -/
theorem not_onChannel_ptzCtrl {channel : Int} (_ : 0 < channel) (userID : Nat)
    (ptzCommand argument : UInt32) :
    ¬ OnChannel (channel - 1) (.ptzCtrl userID (UInt32.ofInt channel) ptzCommand argument) := by
  intro h
  have hsame : ((UInt32.ofInt channel).toNat : Int) = channel - 1 := h _ rfl
  have hmod : (UInt32.ofInt channel).toNat = (channel % 2 ^ 32).toNat := by
    rw [UInt32.ofInt, UInt32.toNat_ofNat']
    apply Nat.mod_eq_of_lt
    omega
  omega

end SdkCall

/-- One entry of the `ipc_list` that `ListIPC` writes, as far as it is read. -/
structure JsonIpc where
  chid : Int
  onlineStatus : Int
  deviceName : String := ""
  deviceNumber : String := ""
  deriving DecidableEq, Repr

/-- `JsonRecordInfo`, as far as it is read. -/
structure JsonRecordInfo where
  startTime : Nat
  endTime : Nat
  deriving DecidableEq, Repr

/-- What a call returns: its handle, its `err`, and the data it fills in. A
buffer without a readable `ipc_list` is `none`. -/
structure SdkAnswer where
  handle : Nat := 0
  err : Int := 0
  ipcList : Option (List JsonIpc) := none
  records : List JsonRecordInfo := []
  deriving DecidableEq, Repr

/-- A behaviour of the SDK. -/
abbrev Sdk := List (SdkCall × SdkAnswer) → SdkCall → SdkAnswer

/-- `JsonSdkInterface` with the calls made so far. -/
structure JsonSdkInterface where
  isInit : Bool
  log : List (SdkCall × SdkAnswer)
  deriving DecidableEq, Repr

namespace JsonSdkInterface

/-- The answer of the SDK to the next call. -/
def ask (w : JsonSdkInterface) (sdk : Sdk) (c : SdkCall) : SdkAnswer := sdk w.log c

/-- The call is made. `InitSdk` sets `IsInit` when it succeeds. -/
def call (w : JsonSdkInterface) (sdk : Sdk) (c : SdkCall) : JsonSdkInterface where
  isInit := w.isInit || (c = .initSdk && (w.ask sdk c).err = 0)
  log := w.log ++ [(c, w.ask sdk c)]

@[simp] theorem call_log (w : JsonSdkInterface) (sdk : Sdk) (c : SdkCall) :
    (w.call sdk c).log = w.log ++ [(c, w.ask sdk c)] := rfl

/-- `w'` is `w` after further calls, all of which satisfy `P`. -/
def CallsOnly (P : SdkCall → Prop) (w w' : JsonSdkInterface) : Prop :=
  ∃ made, w'.log = w.log ++ made ∧ ∀ e ∈ made, P e.1

theorem CallsOnly.refl (P : SdkCall → Prop) (w : JsonSdkInterface) : CallsOnly P w w :=
  ⟨[], by simp, by simp⟩

theorem CallsOnly.trans {P : SdkCall → Prop} {w w' w'' : JsonSdkInterface}
    (h : CallsOnly P w w') (h' : CallsOnly P w' w'') : CallsOnly P w w'' := by
  obtain ⟨made, hlog, hmade⟩ := h
  obtain ⟨made', hlog', hmade'⟩ := h'
  refine ⟨made ++ made', by rw [hlog', hlog, List.append_assoc], fun e he => ?_⟩
  rcases List.mem_append.mp he with he | he
  · exact hmade e he
  · exact hmade' e he

theorem callsOnly_call {P : SdkCall → Prop} {c : SdkCall} (hc : P c) (w : JsonSdkInterface)
    (sdk : Sdk) : CallsOnly P w (w.call sdk c) :=
  ⟨[(c, w.ask sdk c)], rfl, by simpa using hc⟩

end JsonSdkInterface

end SignalingServer
