import SignalingServer.UserAgent.UaMessageMgr

/-!
What a PTZ message can do to the server and to an NVR (`PtzControlResponseTask`). The task reads
the type of the parent where there is no parent, and a string without a movement sends the stored
command, whatever it is.
-/

namespace SignalingServer

/-- A command of `PTZCONTROL_COMMAND` other than `JSON_PTZCOMMAND_UNKNOWN`. -/
def PTZControlCommand.Known (command : Int) : Prop := 1 ≤ command ∧ command ≤ 23

instance (command : Int) : Decidable (PTZControlCommand.Known command) :=
  inferInstanceAs (Decidable (_ ∧ _))

open PTZControlCommand

namespace ServerState

/-- The task uses no null pointer, and what it sends is a known command: the one of the string's
movement, or the one that is stored in the child. -/
def PtzSafe (w : ServerState) (env : Env) (deviceId : String) (p : PTZCMDType) : Prop :=
  ∃ w' sent, w.ptzControlResponseTask env deviceId p = some (w', sent) ∧
    ∀ call ∈ sent, Known call.command ∧
      (call.command = p.movement.code ∨
        ∃ child, w.children.findChildDevice deviceId = some child ∧ call.command = child.ptzCmd)

/-- The child, if there is one, has a parent, and if it is online and the string has no movement, a
known command is stored in it. -/
def PtzReady (w : ServerState) (deviceId : String) (p : PTZCMDType) : Prop :=
  ∀ child, w.children.findChildDevice deviceId = some child →
    child.mParentDev.isSome ∧
      (w.OnlineChild deviceId child → p.movement = .unknown → Known child.ptzCmd)

theorem known_movement {p : PTZCMDType} (h : p.movement ≠ .unknown) : Known p.movement.code := by
  rcases p.movement_cases with ⟨-, -, hlow, hhigh⟩ | ⟨-, hunknown⟩
  · exact ⟨hlow, Int.le_trans hhigh (by decide)⟩
  · exact absurd hunknown h

/-- What is sent is the command of the movement, or the stored one where there is none. -/
theorem store_ptzCmd (child : JsonChildDevic) (p : PTZCMDType) :
    (child.store p).ptzCmd = if p.movement = .unknown then child.ptzCmd else p.movement.code := by
  rw [JsonChildDevic.store]
  by_cases hmove : p.movement = .unknown
  · rw [if_neg (not_not.mpr hmove), if_pos hmove]
  · rw [if_pos hmove, if_neg hmove]

section

variable {w : ServerState} {env : Env} {deviceId : String} {p : PTZCMDType}

/-- The task reads through a null pointer only for a child without a parent. -/
theorem ptzPlan_eq_nullParent :
    w.ptzPlan deviceId p = .nullParent ↔
      ∃ child, w.children.findChildDevice deviceId = some child ∧ child.mParentDev = none := by
  rw [ptzPlan]
  cases hfind : w.children.findChildDevice deviceId with
  | none => exact iff_of_false nofun nofun
  | some child =>
      cases href : child.mParentDev with
      | none => exact iff_of_true (by simp only [href]) ⟨child, rfl, href⟩
      | some ref =>
          refine iff_of_false ?_ ?_
          · cases hnvr : w.nvrs ref with
            | none => simp only [href, hnvr, reduceCtorEq, not_false_eq_true]
            | some nvr =>
                simp only [href, hnvr]
                split
                · split <;> nofun
                · nofun
          · rintro ⟨child', hchild, hnone⟩
            cases hchild
            rw [href] at hnone
            cases hnone

/-- A message for an online child sends what the child holds then. -/
theorem ptzSafe_iff_online {child : JsonChildDevic} (honline : w.OnlineChild deviceId child) :
    w.PtzSafe env deviceId p ↔ (p.movement = .unknown → Known child.ptzCmd) := by
  obtain ⟨w', htask, -⟩ := ptzControlResponseTask_online honline env p
  constructor
  · rintro ⟨w₂, sent, hsent, hcalls⟩ hmove
    rw [htask] at hsent
    cases hsent
    have hknown := (hcalls _ rfl).1
    rwa [store_ptzCmd, if_pos hmove] at hknown
  · intro hstored
    refine ⟨w', _, htask, fun call hcall => ?_⟩
    cases hcall
    dsimp only
    rw [store_ptzCmd]
    by_cases hmove : p.movement = .unknown
    · rw [if_pos hmove]
      exact ⟨hstored hmove, .inr ⟨child, honline.1, rfl⟩⟩
    · rw [if_neg hmove]
      exact ⟨known_movement hmove, .inl rfl⟩

/-- Without an online child, only the parent matters. -/
theorem ptzSafe_iff_offline (hoff : ∀ child, ¬ w.OnlineChild deviceId child) :
    w.PtzSafe env deviceId p ↔ w.ptzPlan deviceId p ≠ .nullParent := by
  rcases w.ptzPlan_cases deviceId p with ⟨child, ref, nvr, honline, -⟩ | ⟨-, hplan | hplan⟩
  · exact absurd honline (hoff child)
  · refine iff_of_true ⟨w, none, ?_, fun call hcall => ?_⟩ ?_
    · rw [ptzControlResponseTask, hplan]
    · cases hcall
    · rw [hplan]
      intro hnull
      cases hnull
  · refine iff_of_false ?_ (not_not.mpr hplan)
    rintro ⟨w', sent, htask, -⟩
    rw [ptzControlResponseTask, hplan] at htask
    cases htask

end

/-- In every state of the table, a message is safe just when its child is ready. -/
theorem ptzSafe_iff (w : ServerState) (env : Env) (deviceId : String) (p : PTZCMDType) :
    w.PtzSafe env deviceId p ↔ w.PtzReady deviceId p := by
  by_cases hon : ∃ child, w.OnlineChild deviceId child
  · obtain ⟨child, honline⟩ := hon
    rw [ptzSafe_iff_online honline]
    have hparent : child.mParentDev.isSome := by
      have hnvr := honline.2.2.2
      cases href : child.mParentDev with
      | none =>
          rw [parentNvr, href] at hnvr
          cases hnvr
      | some ref => rfl
    constructor
    · intro hstored child' hchild
      rw [honline.1] at hchild
      cases hchild
      exact ⟨hparent, fun _ => hstored⟩
    · exact fun hready => (hready child honline.1).2 honline
  · have hoff : ∀ child, ¬ w.OnlineChild deviceId child := fun child h => hon ⟨child, h⟩
    rw [ptzSafe_iff_offline hoff, Ne, ptzPlan_eq_nullParent]
    constructor
    · intro hnull child hchild
      refine ⟨?_, fun h => absurd h (hoff child)⟩
      rw [Option.isSome_iff_ne_none]
      exact fun hnone => hnull ⟨child, hchild, hnone⟩
    · rintro hready ⟨child, hchild, hnone⟩
      have hparent := (hready child hchild).1
      rw [hnone] at hparent
      cases hparent

/-- A stop for a child on which nothing was started sends -1, and any message for a child without
a parent reads through a null pointer. -/
theorem not_ptzSafe :
    ¬ (sampleState (ChildMap.empty.addChildDevice
        (sampleChild "7" "34020000001320000001" 1))).PtzSafe (sampleEnv workingSdk) "7"
          (.ofString "A50F0100000000B5") ∧
      ¬ (sampleState (ChildMap.empty.addChildDevice
        { sampleChild "7" "34020000001320000001" 1 with mParentDev := none })).PtzSafe
          (sampleEnv workingSdk) "7" (.ofString "A50F010120000096") := by
  constructor
  · have honline : (sampleState (ChildMap.empty.addChildDevice
        (sampleChild "7" "34020000001320000001" 1))).OnlineChild "7"
          (sampleChild "7" "34020000001320000001" 1) :=
      ⟨by decide, by decide, by decide, by decide⟩
    intro hsafe
    have hknown := (ptzSafe_iff_online honline).mp hsafe (by decide)
    exact absurd hknown (by decide)
  · rintro ⟨w', sent, htask, -⟩
    have hnone : (sampleState (ChildMap.empty.addChildDevice
        { sampleChild "7" "34020000001320000001" 1 with mParentDev := none })).ptzPlan "7"
          (.ofString "A50F010120000096") = .nullParent :=
      ptzPlan_eq_nullParent.mpr
        ⟨{ sampleChild "7" "34020000001320000001" 1 with mParentDev := none }, by decide, rfl⟩
    rw [ptzControlResponseTask, hnone] at htask
    cases htask

end ServerState

/-! ### Histories -/

namespace PtzHistory

/-- A command that can be stored is known once one was started. -/
theorem known_iff_started {command : Int} (h : Startable command) :
    Known command ↔ command ≠ -1 := by
  unfold Known
  rcases h with rfl | ⟨hlow, hhigh⟩
  · decide
  · constructor <;> omega

/-- In every state of every history, a child is ready for a message just when it has a parent, and
when a movement was started on it before if it is online and the message has none. -/
theorem ptzReady_iff_started (env : Env) (s₀ : PtzHistory) (hstart : s₀.Start)
    (events : List PtzEvent) (s : PtzHistory) (hrun : Lts.exec (step env) s₀ events = some s)
    (deviceId : String) (p : PTZCMDType) :
    s.w.PtzReady deviceId p ↔ ∀ child, s.w.children.findChildDevice deviceId = some child →
      child.mParentDev.isSome ∧ (s.w.OnlineChild deviceId child → p.movement = .unknown →
        s.lastStarted deviceId ≠ -1) := by
  have hinv : s.Inv := Lts.exec_invariant (fun _ _ _ h hs => preserves_inv env h hs) hstart.inv hrun
  refine forall_congr' fun child => forall_congr' fun hchild => ?_
  obtain ⟨hlast, hstartable⟩ := hinv deviceId child hchild
  rw [known_iff_started hstartable, hlast]

end PtzHistory

end SignalingServer
