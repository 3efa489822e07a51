import Mathlib.Logic.Function.Basic
import SignalingServer.Lib.Lts
import SignalingServer.Media.MediaMng
import SignalingServer.UserAgent.GB28181Msg

/-!
PTZ control messages (UaMessageMgr.cpp). The task of a `DeviceControl` message
looks the child up, reads the movement from the command string and hands an SDK
command to the NVR. A string without a movement repeats the last command that
was stored in the child, which is how a movement is stopped.
-/

namespace SignalingServer

/-- The arguments of a call of `Dev_PTZCtrl`. -/
structure PtzSent where
  channel : Int
  command : Int
  argument : Nat
  deriving DecidableEq, Repr

/-- What the task does for a message: nothing; a read through a null parent; or
a call to an NVR, after the child was written. -/
inductive PtzPlan where
  | nothing
  | nullParent
  | control (ref : Nat) (nvr : JsonNvrDevic) (child : JsonChildDevic) (sent : PtzSent)

namespace PTZCMDType

/-- The SDK command of the string's movement. -/
def movement (p : PTZCMDType) : PTZControlCommand :=
  PTZControlCommand.switchFromGB28181 p.getPTZUDLREx.1

/-- `arg`: the argument of the movement, scaled by `100 / 8`. -/
def speed (p : PTZCMDType) : Nat :=
  (if p.getPTZUDLREx.2.1 > 0 then p.getPTZUDLREx.2.1 else p.getPTZUDLREx.2.2) * (100 / 8)

end PTZCMDType

/-- `setLastPtzCmd` of the string's movement, if it has one. -/
def JsonChildDevic.store (child : JsonChildDevic) (p : PTZCMDType) : JsonChildDevic :=
  if p.movement ≠ .unknown then { child with ptzCmd := p.movement.code } else child

namespace ServerState

/-- `PtzControlResponseTask` up to the call of `Dev_PTZCtrl`. -/
def ptzPlan (w : ServerState) (deviceId : String) (p : PTZCMDType) : PtzPlan :=
  match w.children.findChildDevice deviceId with
  | none => .nothing
  | some child =>
      match child.mParentDev with
      | none => .nullParent
      | some ref =>
          match w.nvrs ref with
          | none => .nothing
          | some nvr =>
              if child.channel > 0 ∧ child.status ≠ 0 then
                if p.movement ≠ .unknown then
                  .control ref nvr { child with ptzCmd := p.movement.code }
                    ⟨child.channel, p.movement.code, p.speed⟩
                else .control ref nvr child ⟨child.channel, child.ptzCmd, p.speed⟩
              else .nothing

/-- `CUserMessageMrg::PtzControlResponseTask`; `none` where it reads through a
null pointer. -/
def ptzControlResponseTask (w : ServerState) (env : Env) (deviceId : String) (p : PTZCMDType) :
    Option (ServerState × Option PtzSent) :=
  match w.ptzPlan deviceId p with
  | .nothing => some (w, none)
  | .nullParent => none
  | .control ref nvr child sent =>
      let r := (w.session nvr).devPTZCtrl env.sdk sent.channel (UInt32.ofInt sent.command)
        (UInt32.ofNat sent.argument)
      some ((w.setChild child).putSession ref r.session, some sent)

/-- The child is shown as online and its parent is an NVR. -/
def OnlineChild (w : ServerState) (deviceId : String) (child : JsonChildDevic) : Prop :=
  w.children.findChildDevice deviceId = some child ∧ child.channel > 0 ∧ child.status ≠ 0 ∧
    (w.parentNvr child).isSome

/-- The task acts for online children only. It stores the string's movement and
sends what the child then holds. -/
theorem ptzPlan_cases (w : ServerState) (deviceId : String) (p : PTZCMDType) :
    (∃ child ref nvr, w.OnlineChild deviceId child ∧ w.parentNvr child = some (ref, nvr) ∧
      w.ptzPlan deviceId p =
        .control ref nvr (child.store p) ⟨child.channel, (child.store p).ptzCmd, p.speed⟩) ∨
      ((∀ child, ¬ w.OnlineChild deviceId child) ∧
        (w.ptzPlan deviceId p = .nothing ∨ w.ptzPlan deviceId p = .nullParent)) := by
  unfold ptzPlan OnlineChild parentNvr
  cases hfind : w.children.findChildDevice deviceId with
  | none => simp
  | some child =>
      cases href : child.mParentDev with
      | none => simp [href]
      | some ref =>
          cases hnvr : w.nvrs ref with
          | none => simp [href, hnvr]
          | some nvr =>
              by_cases honline : child.channel > 0 ∧ child.status ≠ 0
              · refine .inl ⟨child, ref, nvr, by simp [href, hnvr, honline], by simp [href, hnvr], ?_⟩
                by_cases hmove : p.movement = .unknown
                · simp [JsonChildDevic.store, href, hnvr, honline, hmove]
                · simp [JsonChildDevic.store, href, hnvr, honline, hmove]
              · refine .inr ⟨?_, by simp [href, hnvr, honline]⟩
                rintro child' ⟨heq, hchannel, hstatus, -⟩
                cases heq
                exact honline ⟨hchannel, hstatus⟩

theorem ptzControlResponseTask_online {w : ServerState} {deviceId : String}
    {child : JsonChildDevic} (h : w.OnlineChild deviceId child) (env : Env) (p : PTZCMDType) :
    ∃ w', w.ptzControlResponseTask env deviceId p =
        some (w', some ⟨child.channel, (child.store p).ptzCmd, p.speed⟩) ∧
      w'.children = w.children.addChildDevice (child.store p) := by
  rcases w.ptzPlan_cases deviceId p with ⟨child', ref, nvr, honline, -, hplan⟩ | ⟨hoff, -⟩
  · have hsame : child' = child := by
      have := honline.1.symm.trans h.1
      exact Option.some.inj this
    subst hsame
    simp [ptzControlResponseTask, hplan, putSession, setChild]
  · exact absurd h (hoff child)

theorem ptzControlResponseTask_offline {w w' : ServerState} {env : Env} {deviceId : String}
    {p : PTZCMDType} {sent : Option PtzSent} (hoff : ∀ child, ¬ w.OnlineChild deviceId child)
    (h : w.ptzControlResponseTask env deviceId p = some (w', sent)) : w' = w ∧ sent = none := by
  rcases w.ptzPlan_cases deviceId p with ⟨child, ref, nvr, honline, -⟩ | ⟨-, hplan | hplan⟩
  · exact absurd honline (hoff child)
  · simp [ptzControlResponseTask, hplan] at h
    exact ⟨h.1.symm, h.2.symm⟩
  · simp [ptzControlResponseTask, hplan] at h

end ServerState

/-! ### The readers and the movement -/

namespace PTZCMDType

theorem leftRight_cases (p : PTZCMDType) :
    p.leftRight.1 = .right ∨ p.leftRight.1 = .left ∨ p.leftRight = (.no, 0) := by
  unfold leftRight
  split
  · exact .inl rfl
  · split
    · exact .inr (.inl rfl)
    · exact .inr (.inr rfl)

theorem upDown_cases (p : PTZCMDType) :
    p.upDown.1 = .down ∨ p.upDown.1 = .up ∨ p.upDown = (.no, 0) := by
  unfold upDown
  split
  · exact .inl rfl
  · split
    · exact .inr (.inl rfl)
    · exact .inr (.inr rfl)

/-- The movement of a string is one of the eight movements, or there is none. -/
theorem movement_cases (p : PTZCMDType) :
    (p.getPTZUDLREx.1 ≠ .no ∧ p.movement ≠ .unknown ∧
        PTZControlCommand.IsMovement p.movement.code) ∨
      (p.getPTZUDLREx.1 = .no ∧ p.movement = .unknown) := by
  unfold movement getPTZUDLREx PTZControlCommand.IsMovement
  rcases p.leftRight_cases with hlr | hlr | hlr <;> rcases p.upDown_cases with hud | hud | hud <;>
    simp [hlr, hud, PTZControlCommand.switchFromGB28181, PTZControlCommand.code]

/-- Without command bits there is neither a movement nor a speed. -/
theorem noCommandBits_movement {p : PTZCMDType} (h : p.noCommandBits) :
    p.movement = .unknown ∧ p.speed = 0 := by
  have hlr : p.leftRight = (.no, 0) := by simp [leftRight, h.2]
  have hud : p.upDown = (.no, 0) := by simp [upDown, h.2]
  constructor
  · simp [movement, getPTZUDLREx, hlr, hud, PTZControlCommand.switchFromGB28181]
  · simp [speed, getPTZUDLREx, hlr, hud]

end PTZCMDType

/-! ### What a message demands -/

/-- A call answers a string as its class demands, when `last` is the command
that was started last. -/
structure PtzSent.Faithful (p : PTZCMDType) (last : Int) (sent : PtzSent) : Prop where
  lens : p.LensOrPreset → ∃ c, p.Recognised c ∧
    sent.command = (PTZControlCommand.switchFromGB28181 c).code ∧
      ¬ PTZControlCommand.IsMovement sent.command
  move : ¬ p.LensOrPreset → p.getPTZUDLREx.1 ≠ .no → sent.command = p.movement.code
  stop : p.noCommandBits → sent.command = last ∧ sent.argument = 0

/-- A command that can be in a child's `ptzCmd`. -/
def Startable (command : Int) : Prop := command = -1 ∨ PTZControlCommand.IsMovement command

theorem PTZControlCommand.code_nonneg (c : PTZControlCommand) : 0 ≤ c.code := by
  cases c <;> decide

/-- What the task sends is startable whenever the child's command is. -/
theorem startable_store {child : JsonChildDevic} (h : Startable child.ptzCmd) (p : PTZCMDType) :
    Startable (child.store p).ptzCmd := by
  rcases p.movement_cases with ⟨-, hmove, hcode⟩ | ⟨-, hmove⟩
  · rw [JsonChildDevic.store, if_pos hmove]
    exact .inr hcode
  · rw [JsonChildDevic.store, if_neg (by simp [hmove])]
    exact h

theorem faithful_iff {child : JsonChildDevic} (h : Startable child.ptzCmd) (p : PTZCMDType) :
    PtzSent.Faithful p child.ptzCmd ⟨child.channel, (child.store p).ptzCmd, p.speed⟩ ↔
      ¬ p.LensOrPreset := by
  constructor
  · intro hfaithful hlens
    obtain ⟨c, -, hcommand, hnomove⟩ := hfaithful.lens hlens
    rcases startable_store h p with hnone | hmove
    · have hpos := (PTZControlCommand.switchFromGB28181 c).code_nonneg
      have hcommand : (child.store p).ptzCmd = _ := hcommand
      omega
    · exact hnomove hmove
  · intro hlens
    refine ⟨fun h => absurd h hlens, fun _ hmove => ?_, fun hstop => ?_⟩
    · rcases p.movement_cases with ⟨-, hknown, -⟩ | ⟨hno, -⟩
      · simp [JsonChildDevic.store, hknown]
      · exact absurd hno hmove
    · obtain ⟨hunknown, hspeed⟩ := PTZCMDType.noCommandBits_movement hstop
      exact ⟨by simp [JsonChildDevic.store, hunknown], hspeed⟩

/-! ### Histories -/

/-- The process, with the command that was started last on each child id. -/
structure PtzHistory where
  w : ServerState
  lastStarted : String → Int

/-- What happens between messages: children come and go and are written to, NVRs
change and other SDK calls are made, but only control messages write `ptzCmd`. -/
inductive PtzEvent where
  | control (deviceId value : String)
  | addChild (child : JsonChildDevic)
  | removeChild (deviceId : String)
  | setChild (child : JsonChildDevic)
  | others (sdk : JsonSdkInterface) (nvrs : Nat → Option JsonNvrDevic)

namespace PtzHistory

def step (env : Env) : Lts.Step PtzHistory PtzEvent
  | s, .control deviceId value =>
      let p := PTZCMDType.ofString value
      (s.w.ptzControlResponseTask env deviceId p).map fun r =>
        ⟨r.1, if r.2.isSome ∧ p.movement ≠ .unknown then
          Function.update s.lastStarted deviceId p.movement.code else s.lastStarted⟩
  | s, .addChild child =>
      some ⟨s.w.setChild { child with ptzCmd := -1 },
        Function.update s.lastStarted child.deviceId (-1)⟩
  | s, .removeChild deviceId =>
      (s.w.children.findChildDevice deviceId).map fun _ =>
        ⟨{ s.w with children := s.w.children.removeChildDevice deviceId }, s.lastStarted⟩
  | s, .setChild child =>
      (s.w.children.findChildDevice child.deviceId).map fun old =>
        ⟨s.w.setChild { child with ptzCmd := old.ptzCmd }, s.lastStarted⟩
  | s, .others sdk nvrs => some ⟨{ s.w with sdk := sdk, nvrs := nvrs }, s.lastStarted⟩

/-- Every child has the constructor's `ptzCmd`, and nothing was started. -/
def Start (s : PtzHistory) : Prop :=
  (∀ id child, s.w.children.findChildDevice id = some child → child.ptzCmd = -1) ∧
    ∀ id, s.lastStarted id = -1

/-- The stored commands are the ones that were started last. -/
def Inv (s : PtzHistory) : Prop :=
  ∀ id child, s.w.children.findChildDevice id = some child →
    child.ptzCmd = s.lastStarted id ∧ Startable child.ptzCmd

theorem Start.inv {s : PtzHistory} (h : s.Start) : s.Inv := by
  intro id child hchild
  have hcmd := h.1 id child hchild
  exact ⟨by rw [hcmd, h.2], .inl hcmd⟩

/-- A write to one child keeps the invariant if the child agrees with what was
started last on its id. -/
theorem Inv.write {s s' : PtzHistory} (h : s.Inv) {child : JsonChildDevic}
    (hchildren : s'.w.children = s.w.children.addChildDevice child)
    (hsame : ∀ id, id ≠ child.deviceId → s'.lastStarted id = s.lastStarted id)
    (hchild : child.ptzCmd = s'.lastStarted child.deviceId ∧ Startable child.ptzCmd) : s'.Inv := by
  intro id child' hfind
  rw [hchildren, ChildMap.findChildDevice_addChildDevice] at hfind
  split at hfind
  · rename_i heq
    cases hfind
    rw [heq]
    exact hchild
  · rename_i hne
    rw [hsame id hne]
    exact h id child' hfind

theorem Inv.control {s s' : PtzHistory} {env : Env} {deviceId value : String} (h : s.Inv)
    (hstep : step env s (.control deviceId value) = some s') : s'.Inv := by
  obtain ⟨⟨w', sent⟩, htask, rfl⟩ := Option.map_eq_some_iff.mp hstep
  by_cases hon : ∃ child, s.w.OnlineChild deviceId child
  · obtain ⟨child, honline⟩ := hon
    have hkey : child.deviceId = deviceId := s.w.children.keyed deviceId child honline.1
    obtain ⟨hlast, hstart⟩ := h deviceId child honline.1
    obtain ⟨w₂, hsent, hchildren⟩ :=
      ServerState.ptzControlResponseTask_online honline env (PTZCMDType.ofString value)
    rw [htask] at hsent
    cases hsent
    have hstore := startable_store hstart (PTZCMDType.ofString value)
    by_cases hmove : (PTZCMDType.ofString value).movement = .unknown
    · refine h.write hchildren (fun id _ => by simp [hmove]) ⟨?_, hstore⟩
      simp [JsonChildDevic.store, hmove, hkey, hlast]
    · refine h.write hchildren (fun id hne => ?_) ⟨?_, hstore⟩
      · have hne : id ≠ deviceId := by simpa [JsonChildDevic.store, hmove, hkey] using hne
        simp [hmove, hne]
      · simp [JsonChildDevic.store, hmove, hkey]
  · have hoff : ∀ child, ¬ s.w.OnlineChild deviceId child := fun child hc => hon ⟨child, hc⟩
    obtain ⟨rfl, rfl⟩ := ServerState.ptzControlResponseTask_offline hoff htask
    simpa [Inv] using h

theorem preserves_inv (env : Env) {s s' : PtzHistory} {e : PtzEvent} (h : s.Inv)
    (hstep : step env s e = some s') : s'.Inv := by
  cases e with
  | control deviceId value => exact h.control hstep
  | addChild child =>
      cases hstep
      refine h.write rfl (fun id hne => ?_) ⟨?_, .inl rfl⟩
      · simpa using Function.update_of_ne hne _ _
      · simp
  | removeChild deviceId =>
      obtain ⟨_, -, rfl⟩ := Option.map_eq_some_iff.mp hstep
      intro id child hchild
      apply h id child
      rw [ChildMap.findChildDevice_removeChildDevice] at hchild
      split at hchild
      · cases hchild
      · exact hchild
  | setChild child =>
      obtain ⟨old, hold, rfl⟩ := Option.map_eq_some_iff.mp hstep
      exact h.write rfl (fun _ _ => rfl) (h child.deviceId old hold)
  | others sdk nvrs =>
      cases hstep
      exact h

/-- In every state of every history, a message to an online child reaches its
NVR with the command its class demands exactly when it is no lens or preset
command. -/
theorem ptz_dispatch_faithful_iff (env : Env) (s₀ : PtzHistory) (hstart : s₀.Start)
    (events : List PtzEvent) (s : PtzHistory) (hrun : Lts.exec (step env) s₀ events = some s)
    (deviceId : String) (child : JsonChildDevic) (honline : s.w.OnlineChild deviceId child)
    (value : String) :
    ∃ w' sent,
      s.w.ptzControlResponseTask env deviceId (.ofString value) = some (w', some sent) ∧
      (sent.Faithful (.ofString value) (s.lastStarted deviceId) ↔
        ¬ (PTZCMDType.ofString value).LensOrPreset) := by
  have hinv : s.Inv := Lts.exec_invariant (fun _ _ _ h hs => preserves_inv env h hs) hstart.inv hrun
  obtain ⟨hlast, hstartable⟩ := hinv deviceId child honline.1
  obtain ⟨w', hsent, -⟩ :=
    ServerState.ptzControlResponseTask_online honline env (PTZCMDType.ofString value)
  refine ⟨w', _, hsent, ?_⟩
  rw [← hlast]
  exact faithful_iff hstartable _

/-! ### A sample child -/

/-- One child under the database id 7, on channel 1 of an online NVR. -/
def sample : PtzHistory where
  w := ServerState.sampleState (ChildMap.empty.addChildDevice
    (ServerState.sampleChild "7" "34020000001320000001" 1))
  lastStarted := fun _ => -1

theorem sample_start : sample.Start := by
  refine ⟨fun id child hchild => ?_, fun _ => rfl⟩
  rw [sample, ServerState.sampleState, ChildMap.findChildDevice_addChildDevice] at hchild
  split at hchild
  · cases hchild
    rfl
  · simp [ChildMap.findChildDevice, ChildMap.empty] at hchild

/-- The sample after a message that moves the camera to the right. -/
def movedRight : PtzHistory :=
  (step (ServerState.sampleEnv ServerState.workingSdk) sample
    (.control "7" "A50F010120000096")).getD sample

theorem ptz_dispatch_faithful_sample :
    ∃ w' sent,
      movedRight.w.ptzControlResponseTask (ServerState.sampleEnv ServerState.workingSdk) "7"
          (.ofString "A50F0100000000B5") = some (w', some sent) ∧
      (sent.Faithful (.ofString "A50F0100000000B5") (movedRight.lastStarted "7") ↔
        ¬ (PTZCMDType.ofString "A50F0100000000B5").LensOrPreset) :=
  ptz_dispatch_faithful_iff (ServerState.sampleEnv ServerState.workingSdk) sample
    sample_start [.control "7" "A50F010120000096"] movedRight rfl "7"
    { ServerState.sampleChild "7" "34020000001320000001" 1 with ptzCmd := 4 }
    ⟨by decide, by decide, by decide, by decide⟩ "A50F0100000000B5"

/-- A zoom command has no movement bits, so the task sends the stored command,
here the one of a child on which nothing was started. -/
theorem zoom_not_dispatched :
    (PTZCMDType.ofString "A50F0110000010D5").Recognised .zoomIn ∧
      sample.w.OnlineChild "7" (ServerState.sampleChild "7" "34020000001320000001" 1) ∧
      (sample.w.ptzControlResponseTask (ServerState.sampleEnv ServerState.workingSdk) "7"
        (.ofString "A50F0110000010D5")).map (·.2) = some (some ⟨1, -1, 0⟩) ∧
      ¬ PtzSent.Faithful (.ofString "A50F0110000010D5") (sample.lastStarted "7") ⟨1, -1, 0⟩ := by
  have hzoom : (PTZCMDType.ofString "A50F0110000010D5").Recognised .zoomIn :=
    ⟨by decide, .inl (by decide)⟩
  refine ⟨hzoom, ⟨by decide, by decide, by decide, by decide⟩, by decide, ?_⟩
  intro hfaithful
  obtain ⟨c, -, hcommand, -⟩ := hfaithful.lens ⟨_, hzoom⟩
  cases c <;> revert hcommand <;> decide

end PtzHistory

end SignalingServer
