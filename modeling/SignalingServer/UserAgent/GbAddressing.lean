import SignalingServer.UserAgent.UaMessageMgr

/-!
The SIP operations that name a child by its GB id. Live view, playback and
record search scan the table for the GB id and translate the child's channel to
the NVR's numbering. PTZ messages and INFO look the same string up as a database
id (`PtzControlResponseTask`, `onInfo`), and PTZ passes the channel as stored.
-/

namespace SignalingServer

namespace ServerState

/-- The child that `onInfo` finds for the stream of its call. -/
def infoTarget (w : ServerState) (streamId : String) : Option (MediaStream × JsonChildDevic) :=
  (w.findStream streamId).bind fun stream =>
    (w.children.findChildDevice stream.deviceId).map fun child => (stream, child)

end ServerState

/-- The requests that name a child by its GB id. -/
inductive GbRequest where
  | liveView (streamNo : Int)
  | playback (start stop : Int)
  | recordSearch (query : RecordInfoQueryMsg)
  | ptzControl (value : String)

namespace GbRequest

/-- The child that the request resolves its id to. -/
def target (w : ServerState) (gbId : String) : GbRequest → Option JsonChildDevic
  | .liveView _ => (w.locate gbId).map (·.1)
  | .playback _ _ => (w.locate gbId).map (·.1)
  | .recordSearch _ => (w.locate gbId).map (·.1)
  | .ptzControl _ => w.children.findChildDevice gbId

/-- The state after the request; `none` where a null pointer is read. -/
def run (w : ServerState) (env : Env) (gbId : String) : GbRequest → Option ServerState
  | .liveView streamNo => some (w.createLiveStream env gbId streamNo).1
  | .playback start stop => some (w.createVodStream env gbId start stop).1
  | .recordSearch query => some (w.gb28181QueryRecordInfo env { query with deviceID := gbId }).1
  | .ptzControl value => (w.ptzControlResponseTask env gbId (.ofString value)).map (·.1)

end GbRequest

namespace ServerState

/-- The NVR answers with a channel list that has the child's channel. -/
def ListsChannel (w : ServerState) (env : Env) (nvr : JsonNvrDevic) (child : JsonChildDevic) :
    Prop :=
  ((w.session nvr).devListIPC env.sdk).err = 0 ∧
    ∃ a l ipc, ((w.session nvr).devListIPC env.sdk).answer = some a ∧ a.ipcList = some l ∧
      ipc ∈ l ∧ 0 ≤ ipc.chid ∧ child.channel = ipc.chid + 1

/-- A stream that live view or playback opens for a GB id, and the state after it. -/
def Opens (w : ServerState) (env : Env) (gbId : String) (w' : ServerState)
    (stream : MediaStream) : Prop :=
  (∃ streamNo, w.createLiveStream env gbId streamNo = (w', some stream)) ∨
    ∃ start stop, w.createVodStream env gbId start stop = (w', some stream)

/-- Every operation that names the GB id of `child` reaches `child`, and passes
no channel to the SDK but the child's channel in the NVR's numbering. -/
structure SameCamera (w : ServerState) (env : Env) (child : JsonChildDevic) : Prop where
  target : ∀ r : GbRequest, r.target w child.mGBID = some child
  info : ∀ w' stream, w.Opens env child.mGBID w' stream →
    (w'.infoTarget stream.streamId).map (fun p => (p.1, p.2.deviceId)) =
      some (stream, child.deviceId)
  channel : ∀ (r : GbRequest) w', r.run w env child.mGBID = some w' →
    w.sdk.CallsOnly (SdkCall.OnChannel (child.channel - 1)) w'.sdk

/-! ### What the requests reach -/

theorem locate_of_nvr {w : ServerState} {child : JsonChildDevic} (hgb : child.mGBID ≠ "")
    (hfind : w.children.findChildDeviceByGBID child.mGBID = some child) {ref : Nat}
    {nvr : JsonNvrDevic} (hparent : w.parentNvr child = some (ref, nvr)) :
    w.locate child.mGBID = some (child, ref, nvr) := by
  simp [locate, hgb, hfind, hparent]

/-- A new stream is found under its id, and its owner is the GB id of the request. -/
theorem Requested.found {child : JsonChildDevic} {w w' : ServerState} {deviceId streamId : String}
    {streamType : Int} {stream : MediaStream}
    (h : Requested child w deviceId streamId streamType (w', some stream)) :
    w'.findStream stream.streamId = some stream ∧ stream.deviceId = deviceId ∧
      (w'.children = w.children ∨
        ∃ status, w'.children = w.children.addChildDevice { child with status := status }) := by
  obtain ⟨w₁, hlooked, hr | ⟨handle, hr⟩⟩ := h
  · cases hr
  · cases hr
    exact ⟨by simp [findStream, addStream, newStream], rfl, hlooked.children⟩

theorem Requested.calls {child : JsonChildDevic} {w : ServerState} {deviceId streamId : String}
    {streamType : Int} {r : ServerState × Option MediaStream}
    (h : Requested child w deviceId streamId streamType r) :
    w.sdk.CallsOnly (SdkCall.OnChannel (child.channel - 1)) r.1.sdk := by
  obtain ⟨w₁, hlooked, rfl | ⟨handle, rfl⟩⟩ := h
  · exact hlooked.calls
  · exact hlooked.calls

theorem infoTarget_of_opens {w w' : ServerState} {env : Env} {child : JsonChildDevic}
    {stream : MediaStream} {ref : Nat} {nvr : JsonNvrDevic}
    (hloc : w.locate child.mGBID = some (child, ref, nvr))
    (hkey : w.children.findChildDevice child.mGBID = some child)
    (hopen : w.Opens env child.mGBID w' stream) :
    (w'.infoTarget stream.streamId).map (fun p => (p.1, p.2.deviceId)) =
      some (stream, child.deviceId) := by
  have hid : child.deviceId = child.mGBID := w.children.keyed _ _ hkey
  have hfound : w'.findStream stream.streamId = some stream ∧ stream.deviceId = child.mGBID ∧
      (w'.children = w.children ∨
        ∃ status, w'.children = w.children.addChildDevice { child with status := status }) := by
    rcases hopen with ⟨streamNo, hlive⟩ | ⟨start, stop, hvod⟩
    · have hreq := requested_createLiveStream env streamNo hloc
      rw [hlive] at hreq
      exact hreq.found
    · have hreq := requested_createVodStream env start stop hloc
      rw [hvod] at hreq
      exact hreq.found
  obtain ⟨hstream, howner, hchildren | ⟨status, hchildren⟩⟩ := hfound
  · simp [infoTarget, hstream, howner, hchildren, hkey]
  · simp [infoTarget, hstream, howner, hchildren, ChildMap.findChildDevice_addChildDevice, hid]

/-- A request other than PTZ only names the child's channel in the NVR's numbering. -/
theorem callsOnly_of_locate {w w' : ServerState} {env : Env} {gbId : String}
    {child : JsonChildDevic} {ref : Nat} {nvr : JsonNvrDevic}
    (hloc : w.locate gbId = some (child, ref, nvr)) {r : GbRequest}
    (hptz : ∀ value, r ≠ .ptzControl value) (hrun : r.run w env gbId = some w') :
    w.sdk.CallsOnly (SdkCall.OnChannel (child.channel - 1)) w'.sdk := by
  cases r with
  | liveView streamNo =>
      cases hrun
      exact (requested_createLiveStream env streamNo hloc).calls
  | playback start stop =>
      cases hrun
      exact (requested_createVodStream env start stop hloc).calls
  | recordSearch query =>
      cases hrun
      exact (lookedUp_gb28181QueryRecordInfo env { query with deviceID := gbId } hloc).calls
  | ptzControl value => exact absurd rfl (hptz value)

/-- An NVR that lists its channels has a session for the next operation. -/
theorem ListsChannel.opened {w : ServerState} {env : Env} {nvr : JsonNvrDevic}
    {child : JsonChildDevic} (h : w.ListsChannel env nvr child) :
    ((w.session nvr).opened env.sdk).1.nvr.mLoginId > 0 ∧ child.channel > 0 := by
  obtain ⟨-, a, l, ipc, ha, -, -, hpos, hchannel⟩ := h
  refine ⟨?_, by omega⟩
  apply Decidable.byContradiction
  intro hclosed
  rw [NvrSession.devListIPC, NvrSession.logInOp, NvrSession.operate_closed hclosed] at ha
  cases ha

/-- PTZ passes the stored channel to an NVR that answers, one above the NVR's own number. -/
theorem ptzControl_off_channel {w w' : ServerState} {env : Env} {child : JsonChildDevic}
    {ref : Nat} {nvr : JsonNvrDevic} (hlists : w.ListsChannel env nvr child)
    (hkey : w.children.findChildDevice child.mGBID = some child) (hstatus : child.status ≠ 0)
    (hparent : w.parentNvr child = some (ref, nvr)) {value : String}
    (hrun : (GbRequest.ptzControl value).run w env child.mGBID = some w') :
    ¬ w.sdk.CallsOnly (SdkCall.OnChannel (child.channel - 1)) w'.sdk := by
  obtain ⟨hlogin, hchannel⟩ := hlists.opened
  obtain ⟨⟨w₁, sent⟩, htask, rfl⟩ := Option.map_eq_some_iff.mp hrun
  rcases w.ptzPlan_cases child.mGBID (.ofString value) with
    ⟨child', ref', nvr', honline, hparent', hplan⟩ | ⟨hoff, -⟩
  · have hsame : child = child' := Option.some.inj (hkey.symm.trans honline.1)
    subst hsame
    rw [hparent] at hparent'
    cases hparent'
    simp only [ptzControlResponseTask, hplan, Option.some.injEq, Prod.mk.injEq] at htask
    obtain ⟨rfl, -⟩ := htask
    rintro ⟨made, hmade, hall⟩
    obtain ⟨-, rest, hlog⟩ := NvrSession.operate_open hlogin env.sdk
      ((w.session nvr).opened env.sdk).2 fun id =>
        .ptzCtrl id (UInt32.ofInt child.channel)
          (UInt32.ofInt (child.store (.ofString value)).ptzCmd)
          (UInt32.ofNat (PTZCMDType.ofString value).speed)
    -- the calls are those that open the channel, and the PTZ call behind them
    obtain ⟨made₀, hopened, -⟩ := NvrSession.callsOnly_opened
      (NvrSession.frame_onChannel 0) (w.session nvr) env.sdk
    have hmade : _ = w.sdk.log ++ made := hlog.symm.trans hmade
    rw [hopened, List.append_assoc] at hmade
    have hmade := List.append_cancel_left hmade
    rw [← hmade] at hall
    have hptz := hall _ (List.mem_append_right made₀ List.mem_cons_self)
    exact SdkCall.not_onChannel_ptzCtrl hchannel _ _ _ hptz
  · exact absurd ⟨hkey, hchannel, hstatus, by simp [hparent]⟩ (hoff child)

/-- A child shown as offline gets no PTZ call. -/
theorem ptzControl_offline {w w' : ServerState} {env : Env} {gbId value : String}
    {child : JsonChildDevic} (hkey : w.children.findChildDevice gbId = some child)
    (hstatus : child.status = 0)
    (hrun : (GbRequest.ptzControl value).run w env gbId = some w') : w' = w := by
  obtain ⟨⟨w₁, sent⟩, htask, rfl⟩ := Option.map_eq_some_iff.mp hrun
  refine (ptzControlResponseTask_offline ?_ htask).1
  rintro child' ⟨hfind, -, honline, -⟩
  rw [hkey] at hfind
  cases hfind
  exact honline hstatus

/-- For a child whose NVR lists its channel, all operations that name its GB id
reach it on the same channel exactly when it is stored under its GB id and shown
as offline, so that PTZ makes no call at all. -/
theorem same_camera_iff {w : ServerState} {env : Env} {child : JsonChildDevic} {ref : Nat}
    {nvr : JsonNvrDevic} (hdistinct : w.children.DistinctGBIDs)
    (hchild : w.children.findChildDevice child.deviceId = some child)
    (hparent : w.parentNvr child = some (ref, nvr)) (hlists : w.ListsChannel env nvr child) :
    w.SameCamera env child ↔
      child.mGBID ≠ "" ∧ child.deviceId = child.mGBID ∧ child.status = 0 := by
  constructor
  · intro hsame
    have hkey : w.children.findChildDevice child.mGBID = some child :=
      hsame.target (.ptzControl "")
    have hgb : child.mGBID ≠ "" := by
      intro hempty
      have hlive := hsame.target (.liveView 0)
      simp [GbRequest.target, locate, hempty] at hlive
    refine ⟨hgb, w.children.keyed _ _ hkey, ?_⟩
    -- shown as online, the child gets a PTZ call one channel too high
    apply Decidable.byContradiction
    intro hstatus
    obtain ⟨hlogin, hchannel⟩ := hlists.opened
    obtain ⟨w', htask, -⟩ := ptzControlResponseTask_online
      (⟨hkey, hchannel, hstatus, by simp [hparent]⟩ : w.OnlineChild _ child) env (.ofString "")
    have hrun : (GbRequest.ptzControl "").run w env child.mGBID = some w' := by
      simp [GbRequest.run, htask]
    exact ptzControl_off_channel hlists hkey hstatus hparent hrun (hsame.channel _ _ hrun)
  · rintro ⟨hgb, hid, hstatus⟩
    have hkey : w.children.findChildDevice child.mGBID = some child := hid ▸ hchild
    have hloc := locate_of_nvr hgb (hdistinct.findChildDeviceByGBID hchild) hparent
    refine ⟨fun r => ?_, fun w' stream hopen => infoTarget_of_opens hloc hkey hopen, ?_⟩
    · cases r with
      | ptzControl value => exact hkey
      | _ => simp [GbRequest.target, hloc]
    · intro r w' hrun
      -- PTZ is the request that makes no call; the others go by the GB id
      by_cases hptz : ∃ value, r = .ptzControl value
      · obtain ⟨value, rfl⟩ := hptz
        rw [ptzControl_offline hkey hstatus hrun]
        exact .refl _ _
      · exact callsOnly_of_locate hloc (fun value h => hptz ⟨value, h⟩) hrun

/-! ### A sample child -/

/-- A child under its GB id, shown as offline. -/
def offlineChild : JsonChildDevic :=
  { sampleChild "34020000001320000001" "34020000001320000001" 1 with status := 0 }

theorem sample_listsChannel (children : ChildMap) {child : JsonChildDevic}
    (h : child.channel = 1) :
    (sampleState children).ListsChannel (sampleEnv workingSdk) sampleNvr child :=
  ⟨rfl, { ipcList := some sampleIpcs }, sampleIpcs, ⟨0, 1, "gate", ""⟩, rfl, rfl, by decide, by decide,
    by simp [h]⟩

theorem same_camera_offline :
    (sampleState (ChildMap.empty.addChildDevice offlineChild)).SameCamera (sampleEnv workingSdk)
      offlineChild := by
  have hparent : (sampleState (ChildMap.empty.addChildDevice offlineChild)).parentNvr offlineChild =
      some (0, sampleNvr) := by decide
  exact (same_camera_iff (ChildMap.distinctGBIDs_single _) (by decide) hparent
    (sample_listsChannel _ (by decide))).mpr (by decide)

/-- A child with a database id of its own: PTZ messages that name its GB id find
no child, although its NVR lists the channel and live view opens it. -/
theorem ptz_misses_camera :
    (sampleState (ChildMap.empty.addChildDevice
        (sampleChild "7" "34020000001320000001" 1))).children.DistinctGBIDs ∧
      (sampleState (ChildMap.empty.addChildDevice
        (sampleChild "7" "34020000001320000001" 1))).ListsChannel (sampleEnv workingSdk) sampleNvr
          (sampleChild "7" "34020000001320000001" 1) ∧
      (GbRequest.liveView 0).target (sampleState (ChildMap.empty.addChildDevice
        (sampleChild "7" "34020000001320000001" 1))) "34020000001320000001" =
          some (sampleChild "7" "34020000001320000001" 1) ∧
      ¬ (sampleState (ChildMap.empty.addChildDevice
        (sampleChild "7" "34020000001320000001" 1))).SameCamera (sampleEnv workingSdk)
          (sampleChild "7" "34020000001320000001" 1) := by
  refine ⟨ChildMap.distinctGBIDs_single _,
    sample_listsChannel _ (by decide), by decide, ?_⟩
  intro hsame
  have hptz := hsame.target (.ptzControl "")
  exact absurd hptz (by decide)

end ServerState

end SignalingServer
