import SignalingServer.Media.MediaMng
import SignalingServer.Tools.TypeConversion

/-!
The catalog (UaMessageMgr.cpp, BaseDevice.cpp, UserAgentMgr.cpp). The same
`CatalogItem` is written out twice: once in the response to a catalog query, and
once in `GetCatalogItem`, which the notifications use. The two copies take their
ids from different fields of the child and of its NVR.
-/

namespace SignalingServer

/-- `CatalogItemExpandInfo` as its constructor leaves it. -/
structure CatalogItemExpandInfo where
  ptzType : Int := 0
  positionType : Int := 0
  roomType : Int := 1
  useType : Int := 0
  supplyLightType : Int := 1
  directionType : Int := 0
  resolution : String := ""
  businessGroupID : String := ""
  downloadSpeed : String := ""
  svcSpaceSupportMode : Int := 0
  svcTimeSupportMode : Int := 0
  deriving DecidableEq, Repr

/-- `CatalogItem`. -/
structure CatalogItem where
  deviceID : String
  name : String
  manufacturer : String
  model : String
  owner : String
  civilCode : String
  block : String
  address : String
  parental : Int
  parentID : String
  safetyWay : Int
  registerWay : Int
  certNum : Int
  certifiable : Int
  errCode : Int
  endTime : String
  secrecy : Int
  ipAddress : String
  port : Int
  password : String
  status : String
  longitude : Int
  latitude : Int
  info : CatalogItemExpandInfo := {}
  deriving DecidableEq, Repr

/-- `Utf8ToGbk`: a text that `charset_convert` cannot convert is kept. -/
def utf8ToGbk (charsetConvert : String → Option String) (strutf8 : String) : String :=
  (charsetConvert strutf8).getD strutf8

namespace JsonChildDevic

/-- The id under which a notification puts the child. -/
def catalogParent (child : JsonChildDevic) (myId : String) : String :=
  if child.parentId = "" then myId else child.parentId

/-- `BaseChildDevice::GetCatalogItem`. -/
def getCatalogItem (child : JsonChildDevic) (charsetConvert : String → Option String)
    (myId : String) : CatalogItem where
  deviceID := child.deviceId
  parentID := child.catalogParent myId
  name := if child.name = "" then "" else utf8ToGbk charsetConvert child.name
  manufacturer := "VSK"
  model := ""
  owner := ""
  civilCode := substr child.deviceId 0 6
  block := ""
  address := ""
  parental := 0
  safetyWay := 0
  registerWay := 1
  certNum := 0
  certifiable := 0
  errCode := 0
  endTime := ""
  secrecy := 0
  ipAddress := child.childIp
  port := 0
  password := ""
  status := if child.status ≠ 0 then "ON" else "OFF"
  longitude := 0
  latitude := 0

end JsonChildDevic

/-- `NOTIFY_EVENT`. -/
inductive CatalogEvent where
  | on
  | off
  | vlost
  | defect
  | add
  | del
  | update
  deriving DecidableEq, Repr

namespace ServerState

variable {charsetConvert : String → Option String} {myId : String} {isAll : Bool}

/-- The item that `CatalogQueryResponseTask` builds for a child. A child whose
parent is not an NVR gets none, so the NVR the item refers to is always there. -/
def catalogResponseItem (w : ServerState) (charsetConvert : String → Option String)
    (child : JsonChildDevic) : Option CatalogItem :=
  (w.parentNvr child).map fun (_, devNvr) =>
    { deviceID := child.mGBID
      parentID := devNvr.mGBID
      name := if child.name = "" then "" else utf8ToGbk charsetConvert child.name
      manufacturer := "VSK"
      model := ""
      owner := ""
      civilCode := substr child.mGBID 0 6
      block := ""
      address := ""
      parental := 0
      safetyWay := 0
      registerWay := 1
      certNum := 0
      certifiable := 0
      errCode := 0
      endTime := ""
      secrecy := 0
      ipAddress := child.childIp
      port := 0
      password := ""
      status := if child.status ≠ 0 then "ON" else "OFF"
      longitude := 0
      latitude := 0 }

/-! ### Notifications -/

/-- The child that `getJsonNvrChannelList` makes of a listed channel. It has no id. -/
def listedChannel (parentId : String) (ipc : JsonIpc) : JsonChildDevic where
  deviceId := ""
  status := if ipc.onlineStatus = 1 then 1 else 0
  name := ipc.deviceName
  parentId := parentId
  childIp := ""
  mGBID := ""
  channel := ipc.chid + 1

/-- `getJsonNvrChannelList`: the NVR connects and lists its channels. -/
def getJsonNvrChannelList (w : ServerState) (env : Env) (ref : Nat) (nvr : JsonNvrDevic) :
    ServerState × List JsonChildDevic :=
  let (session, err) := (w.session nvr).opened env.sdk
  let w := w.putSession ref session
  if err = 0 then
    let r := session.devListIPC env.sdk
    let w := w.putSession ref r.session
    if r.err = 0 then
      (w, ((r.answer.bind (·.ipcList)).getD []).map (listedChannel nvr.deviceId))
    else (w, [])
  else (w, [])

/-- The body of the inner loop of `NotifyYixinHwInfo`: what one listed channel
changes in the table, and the notification it makes. -/
def notifyChannel (w : ServerState) (charsetConvert : String → Option String) (myId : String)
    (isAll : Bool) (ref : Nat) (it : JsonNvrDevic) (item : JsonChildDevic) :
    ServerState × Option (CatalogEvent × CatalogItem) :=
  match w.children.findChildDevice item.deviceId with
  | none => (w, none)
  | some child =>
      if (w.parentNvr child).isSome then
        if child.name ≠ item.name ∨ child.parentId ≠ it.deviceId then
          let child := { child with
            mParentDev := some ref, name := item.name, status := item.status,
            parentId := it.deviceId }
          (w.setChild child, some (.update, child.getCatalogItem charsetConvert myId))
        else if isAll ∨ child.status ≠ item.status then
          let child := { child with status := item.status }
          (w.setChild child, some (if item.status ≠ 0 then .on else .off,
            child.getCatalogItem charsetConvert myId))
        else (w, none)
      else (w, none)

/-- The inner loop of `NotifyYixinHwInfo`. -/
def notifyChannels (charsetConvert : String → Option String) (myId : String) (isAll : Bool)
    (ref : Nat) (it : JsonNvrDevic) :
    List JsonChildDevic → ServerState → ServerState × List (CatalogEvent × CatalogItem)
  | [], w => (w, [])
  | item :: channelList, w =>
      let (w, notified) := w.notifyChannel charsetConvert myId isAll ref it item
      let (w, rest) := notifyChannels charsetConvert myId isAll ref it channelList w
      (w, notified.toList ++ rest)

/-- `UaMgr::NotifyYixinHwInfo` on the NVRs of the data base, up to the timer for
the next run. -/
def notifyYixinHwInfo (env : Env) (charsetConvert : String → Option String) (myId : String)
    (isAll : Bool) : List Nat → ServerState → ServerState × List (CatalogEvent × CatalogItem)
  | [], w => (w, [])
  | ref :: devList, w =>
      match w.nvrs ref with
      | none => notifyYixinHwInfo env charsetConvert myId isAll devList w
      | some it =>
          let (w, channelList) := w.getJsonNvrChannelList env ref it
          let (w, notified) := notifyChannels charsetConvert myId isAll ref it channelList w
          let (w, rest) := notifyYixinHwInfo env charsetConvert myId isAll devList w
          (w, notified ++ rest)

/-! ### The two copies of the item -/

/-- The copies differ in the two ids and in the civil code, which is cut from one of them. -/
theorem catalogResponseItem_eq (myId : String) {w : ServerState} {child : JsonChildDevic}
    {ref : Nat} {nvr : JsonNvrDevic} (hparent : w.parentNvr child = some (ref, nvr)) :
    w.catalogResponseItem charsetConvert child =
      some { child.getCatalogItem charsetConvert myId with
        deviceID := child.mGBID, civilCode := substr child.mGBID 0 6, parentID := nvr.mGBID } := by
  rw [catalogResponseItem, hparent]
  rfl

/-- The ids of the response and those of a notification are the same: database id and
GB id of the child, and the parent id stored with the child and the GB id of its NVR. -/
def SameIds (child : JsonChildDevic) (nvr : JsonNvrDevic) (myId : String) : Prop :=
  child.mGBID = child.deviceId ∧ nvr.mGBID = if child.parentId = "" then myId else child.parentId

theorem catalogResponseItem_eq_iff {w : ServerState} {child : JsonChildDevic} {ref : Nat}
    {nvr : JsonNvrDevic} (hparent : w.parentNvr child = some (ref, nvr)) :
    w.catalogResponseItem charsetConvert child =
        some (child.getCatalogItem charsetConvert myId) ↔ SameIds child nvr myId := by
  rw [catalogResponseItem_eq myId hparent, Option.some_inj]
  constructor
  · intro hsame
    exact ⟨congrArg CatalogItem.deviceID hsame, congrArg CatalogItem.parentID hsame⟩
  · intro ⟨hid, hgb⟩
    rw [hid, hgb]
    rfl

theorem parentNvr_isSome (w : ServerState) (child : JsonChildDevic) :
    (w.parentNvr child).isSome = (child.mParentDev.any fun ref => (w.nvrs ref).isSome) := by
  unfold parentNvr
  cases child.mParentDev with
  | none => rfl
  | some ref => simp

theorem findChildDevice_setChild (w : ServerState) {child : JsonChildDevic} {id : String}
    (hid : child.deviceId = id) : (w.setChild child).children.findChildDevice id = some child := by
  rw [setChild, ChildMap.findChildDevice_addChildDevice, if_pos hid.symm]

/-- A notification carries the item of the child that its channel names, as the
table holds it afterwards. -/
theorem notifyChannel_item {w w' : ServerState} {ref : Nat} {it : JsonNvrDevic}
    {item : JsonChildDevic} {event : CatalogEvent} {n : CatalogItem}
    (h : w.notifyChannel charsetConvert myId isAll ref it item = (w', some (event, n))) :
    ∃ child, w'.children.findChildDevice item.deviceId = some child ∧
      child.parentId = it.deviceId ∧ n = child.getCatalogItem charsetConvert myId := by
  unfold notifyChannel at h
  split at h
  · cases h
  · rename_i child hchild
    have hid : child.deviceId = item.deviceId := w.children.keyed _ _ hchild
    split at h
    · split at h
      · cases h
        exact ⟨_, w.findChildDevice_setChild hid, rfl, rfl⟩
      · rename_i hsame
        have hparent : child.parentId = it.deviceId := by
          simpa using fun hne => hsame (.inr hne)
        split at h
        · cases h
          exact ⟨_, w.findChildDevice_setChild hid, hparent, rfl⟩
        · cases h
    · cases h

theorem notifyChannel_deviceID {w : ServerState} {ref : Nat} {it : JsonNvrDevic}
    {item : JsonChildDevic} {n : CatalogEvent × CatalogItem}
    (h : (w.notifyChannel charsetConvert myId isAll ref it item).2 = some n) :
    n.2.deviceID = item.deviceId := by
  obtain ⟨child, hchild, -, hn⟩ := notifyChannel_item (Prod.ext rfl h)
  rw [hn]
  exact ChildMap.keyed _ _ _ hchild

theorem notifyChannels_deviceID {channelList : List JsonChildDevic} {id : String}
    (hids : ∀ item ∈ channelList, item.deviceId = id) (ref : Nat) (it : JsonNvrDevic)
    (w : ServerState) :
    ∀ n ∈ (notifyChannels charsetConvert myId isAll ref it channelList w).2,
      n.2.deviceID = id := by
  induction channelList generalizing w with
  | nil => simp [notifyChannels]
  | cons item channelList ih =>
      intro n hn
      rcases List.mem_append.mp hn with hn | hn
      · rw [notifyChannel_deviceID (Option.mem_toList.mp hn)]
        exact hids item List.mem_cons_self
      · exact ih (fun item' hmem => hids item' (List.mem_cons_of_mem _ hmem)) _ n hn

theorem getJsonNvrChannelList_deviceId (w : ServerState) (env : Env) (ref : Nat)
    (nvr : JsonNvrDevic) :
    ∀ item ∈ (w.getJsonNvrChannelList env ref nvr).2, item.deviceId = "" := by
  intro item hitem
  unfold getJsonNvrChannelList at hitem
  split at hitem
  dsimp only at hitem
  split at hitem
  · split at hitem
    · obtain ⟨ipc, -, rfl⟩ := List.mem_map.mp hitem
      rfl
    · cases hitem
  · cases hitem

/-- No notification of a run names its device: the listed channels have no id, so
only a child stored under the empty id is ever found. -/
theorem notifyYixinHwInfo_deviceID (env : Env) (devList : List Nat) (w : ServerState) :
    ∀ n ∈ (notifyYixinHwInfo env charsetConvert myId isAll devList w).2, n.2.deviceID = "" := by
  induction devList generalizing w with
  | nil => simp [notifyYixinHwInfo]
  | cons ref devList ih =>
      intro n hn
      unfold notifyYixinHwInfo at hn
      split at hn
      · exact ih w n hn
      · rename_i it _
        rcases List.mem_append.mp hn with hn | hn
        · exact notifyChannels_deviceID (w.getJsonNvrChannelList_deviceId env ref it) ref it _ n hn
        · exact ih _ n hn

/-- Response and notification describe a child alike exactly when their ids are
the same. A notification that a run has just made for the child is no exception. -/
theorem catalog_item_alike_iff (charsetConvert : String → Option String) (myId : String)
    {w : ServerState} {child : JsonChildDevic} {ref : Nat} {nvr : JsonNvrDevic}
    (hparent : w.parentNvr child = some (ref, nvr)) :
    (w.catalogResponseItem charsetConvert child =
        some (child.getCatalogItem charsetConvert myId) ↔ SameIds child nvr myId) ∧
      ∀ w₀ isAll it₀ it item event n,
        notifyChannel w₀ charsetConvert myId isAll it₀ it item = (w, some (event, n)) →
        w.children.findChildDevice item.deviceId = some child →
        (w.catalogResponseItem charsetConvert child = some n ↔ SameIds child nvr myId) := by
  refine ⟨catalogResponseItem_eq_iff hparent, ?_⟩
  intro w₀ isAll it₀ it item event n hstep hchild
  obtain ⟨child', hchild', -, rfl⟩ := notifyChannel_item hstep
  have hsame : child' = child := Option.some.inj (hchild'.symm.trans hchild)
  rw [hsame]
  exact catalogResponseItem_eq_iff hparent

/-- A child that is stored under its GB id, with the GB id of its NVR as parent id. -/
def sampleAlike : JsonChildDevic :=
  { sampleChild "34020000001320000001" "34020000001320000001" 1 with
    parentId := "34020000001180000001" }

/-- A child that has gone offline. -/
def sampleOffline : JsonChildDevic := { sampleChild "7" "7" 1 with status := 0 }

/-- The child under GB ids is described alike. A child of an NVR whose database id
is `1` is not, in the notification that it is offline. -/
theorem catalog_item_alike_sample :
    (sampleState ChildMap.empty).catalogResponseItem some sampleAlike =
        some (sampleAlike.getCatalogItem some "34020000002000000001") ∧
      ∃ w n,
        (sampleState (ChildMap.empty.addChildDevice (sampleChild "7" "7" 1))).notifyChannel some
            "34020000002000000001" false 0 sampleNvr sampleOffline = (w, some (.off, n)) ∧
        w.catalogResponseItem some sampleOffline ≠ some n := by
  have halike : (sampleState ChildMap.empty).parentNvr sampleAlike = some (0, sampleNvr) := rfl
  refine ⟨(catalog_item_alike_iff some "34020000002000000001" halike).1.mpr ⟨rfl, rfl⟩, ?_⟩
  have hstep :
      (sampleState (ChildMap.empty.addChildDevice (sampleChild "7" "7" 1))).notifyChannel some
          "34020000002000000001" false 0 sampleNvr sampleOffline =
        ((sampleState (ChildMap.empty.addChildDevice (sampleChild "7" "7" 1))).setChild
            sampleOffline,
          some (.off, sampleOffline.getCatalogItem some "34020000002000000001")) := rfl
  have hparent : ((sampleState (ChildMap.empty.addChildDevice (sampleChild "7" "7" 1))).setChild
      sampleOffline).parentNvr sampleOffline = some (0, sampleNvr) := rfl
  refine ⟨_, _, hstep, fun hsame => ?_⟩
  have hids := ((catalog_item_alike_iff some "34020000002000000001" hparent).2 _ _ _ _ _ _ _ hstep
    (findChildDevice_setChild _ rfl)).mp hsame
  exact absurd hids.2 (by decide)

/-- A child with a database id of its own: the notification carries the database
ids of the child and of its NVR, the response their GB ids. -/
theorem catalog_item_differs :
    ∃ item, (sampleState (ChildMap.empty.addChildDevice
          (sampleChild "7" "34020000001320000001" 1))).children.findChildDevice "7" =
        some (sampleChild "7" "34020000001320000001" 1) ∧
      (sampleState (ChildMap.empty.addChildDevice
          (sampleChild "7" "34020000001320000001" 1))).catalogResponseItem some
        (sampleChild "7" "34020000001320000001" 1) = some item ∧
      item.deviceID = "34020000001320000001" ∧ item.parentID = "34020000001180000001" ∧
      ((sampleChild "7" "34020000001320000001" 1).getCatalogItem some
        "34020000002000000001").deviceID = "7" ∧
      ((sampleChild "7" "34020000001320000001" 1).getCatalogItem some
        "34020000002000000001").parentID = "1" ∧
      item ≠ (sampleChild "7" "34020000001320000001" 1).getCatalogItem some
        "34020000002000000001" := by
  refine ⟨_, ?_, rfl, rfl, rfl, rfl, rfl, ?_⟩
  · rw [sampleState, ChildMap.findChildDevice_addChildDevice]
    rfl
  · intro hsame
    exact absurd (congrArg CatalogItem.deviceID hsame) (by decide)

end ServerState

end SignalingServer
