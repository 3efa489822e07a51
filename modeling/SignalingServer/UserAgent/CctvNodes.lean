import SignalingServer.DeviceMng.VirtualOrganization
import SignalingServer.Lib.Collect
import SignalingServer.UserAgent.Catalog

/-!
Synchronisation with the CCTV platform (`NotifyQDCCTVNodeInfo`). The platform
answers with nodes: an NVR each, whose cameras stand in up to three sections. The
loop over a section's cameras is written out three times, and the third copy has
one more condition around it.
-/

namespace SignalingServer

/-- An entry of a section. A member that is not there reads as an empty text or 0. -/
structure CctvIpc where
  ipc : String
  gbId : String
  status : Int
  deriving DecidableEq, Repr

/-- `Upward`, `Downward` or `KKIpc`; `data` is `none` where `Data` is no array. -/
structure CctvSection where
  title : String
  gbId : String
  data : Option (List CctvIpc)
  deriving DecidableEq, Repr

/-- A node; a section that is no object is `none`. -/
structure CctvNode where
  title : String
  gbId : String
  managePort : Int
  manageUser : String
  managePass : String
  manageIp : String
  nvrDid : String
  status : Int
  upward : Option CctvSection
  downward : Option CctvSection
  kkIpc : Option CctvSection
  deriving DecidableEq, Repr

/-- The `data` of an answer. -/
structure CctvData where
  count : Int
  data : Option (List CctvNode)
  deriving DecidableEq, Repr

/-- An answer that is a JSON object. -/
structure CctvReply where
  code : Int
  data : Option CctvData
  deriving DecidableEq, Repr

/-- What a NOTIFY of the synchronisation is about. -/
inductive CctvNotify where
  | organization (ev : CatalogEvent) (vo : VirtualOrganization)
  | device (ev : CatalogEvent) (item : CatalogItem)
  deriving DecidableEq, Repr

/-- What stays the same throughout a run. -/
structure CctvRun where
  charsetConvert : String → Option String
  myId : String
  isAll : Bool

/-- `s.substr(0, s.find(" "))`, and `s` itself without a blank. -/
def cutAtBlank (s : String) : String := String.ofList (s.toList.takeWhile (· ≠ ' '))

namespace CctvIpc

def childName (entry : CctvIpc) : String := cutAtBlank entry.ipc

/-- The status of the entry, unless its NVR lists a channel of its name. -/
def ipcStatus (entry : CctvIpc) (statusMap : Std.TreeMap String Int) : Int :=
  (statusMap[entry.childName]?).getD (if entry.status ≠ 0 then 0 else 1)

end CctvIpc

/-- The status that `getJsonNvrChannelStatus` enters for each listed channel. -/
def channelStatuses (ipcs : List JsonIpc) : Std.TreeMap String Int :=
  ipcs.foldl (fun statusMap ipc =>
    statusMap.insert (cutAtBlank ipc.deviceNumber) ipc.onlineStatus) ∅

namespace CctvSection

/-- `subVo`. -/
def subVo (s : CctvSection) (voTop : String) : VirtualOrganization where
  deviceID := s.gbId
  name := cutAtBlank s.title
  parentID := voTop
  businessGroupID := ""

def entries (s : CctvSection) : List CctvIpc := s.data.getD []

end CctvSection

namespace DeviceMng

/-- Organisations, by id. -/
def putOrganization (t : DeviceMng) (vo : VirtualOrganization) : DeviceMng :=
  { t with mVoMap := t.mVoMap.addVirtualOrganization vo }

def putChild (t : DeviceMng) (child : JsonChildDevic) : DeviceMng :=
  { t with server := t.server.setChild child }

/-- An NVR at its place on the heap. -/
def putNvr (t : DeviceMng) (ref : Nat) (nvr : JsonNvrDevic) (status : Int) : DeviceMng :=
  { t with
    server := { t.server with nvrs := fun r => if r = ref then some nvr else t.server.nvrs r }
    nvrStatus := fun r => if r = ref then status else t.nvrStatus r }

/-- The blocks that find an organisation and update it, or add it. -/
def syncOrganization (t : DeviceMng) (vo : VirtualOrganization) : DeviceMng × List CctvNotify :=
  match t.mVoMap.findVirtualOrganization vo.deviceID with
  | some old =>
      if old.name ≠ vo.name ∨ old.parentID ≠ vo.parentID then
        (t.putOrganization { old with name := vo.name, parentID := vo.parentID },
          [.organization .update vo])
      else (t, [])
  | none => (t.putOrganization vo, [.organization .add vo])

/-- What a node writes to its NVR. -/
def nodeNvr (node : CctvNode) (nvr : JsonNvrDevic) : JsonNvrDevic :=
  { nvr with
    mIP := node.manageIp, mPort := toShort node.managePort, mUser := node.manageUser,
    mPswd := node.managePass }

/-- The block that finds the NVR of a node and updates it, or adds it. -/
def syncNvr (t : DeviceMng) (node : CctvNode) : DeviceMng × Nat :=
  let nvrId := cutAtBlank node.nvrDid
  let status := if node.status ≠ 0 then 0 else 1
  match t.mDeviceMap[nvrId]? with
  | some ref =>
      match t.server.nvrs ref with
      | some nvr => (t.putNvr ref (nodeNvr node nvr) status, ref)
      | none => (t, ref)
  | none =>
      let jsonNvr : JsonNvrDevic :=
        { deviceId := nvrId, mIP := node.manageIp, mPort := toShort node.managePort,
          mUser := node.manageUser, mPswd := node.managePass }
      ({ t.putNvr t.nextDev jsonNvr status with
          mDeviceMap := t.mDeviceMap.insert nvrId t.nextDev
          nextDev := t.nextDev + 1 }, t.nextDev)

/-- The session of the NVR after `Dev_ListIPC`, and the channels that it lists. -/
def listIpc (t : DeviceMng) (env : Env) (nvr : JsonNvrDevic) : NvrSession × List JsonIpc :=
  let r := (t.server.session nvr).devListIPC env.sdk
  (r.session, if r.err = 0 then (r.answer.bind (·.ipcList)).getD [] else [])

/-- `getJsonNvrChannelStatus`. -/
def getJsonNvrChannelStatus (t : DeviceMng) (env : Env) (dev : Nat) :
    DeviceMng × Std.TreeMap String Int :=
  match t.server.nvrs dev with
  | none => (t, ∅)
  | some nvr =>
      ({ t with server := t.server.putSession dev (t.listIpc env nvr).1 },
        channelStatuses (t.listIpc env nvr).2)

/-- A camera that has been found gets a new name, status and organisation. -/
def updateChild (t : DeviceMng) (r : CctvRun) (dev : Nat) (sub : String) (child : JsonChildDevic)
    (childName : String) (ipcStatus : Int) : DeviceMng × List CctvNotify :=
  let child := { child with
    mParentDev := some dev, name := childName, status := ipcStatus, parentId := sub }
  (t.putChild child, [.device .update (child.getCatalogItem r.charsetConvert r.myId)])

/-- A camera that has been found gets a new status. -/
def changeStatus (t : DeviceMng) (r : CctvRun) (child : JsonChildDevic) (ipcStatus : Int) :
    DeviceMng × List CctvNotify :=
  let child := { child with status := ipcStatus }
  (t.putChild child,
    [.device (if ipcStatus ≠ 0 then .on else .off) (child.getCatalogItem r.charsetConvert r.myId)])

/-- A camera that is new. Its constructor sets the GB id in the builds that
synchronise with the platform. -/
def addChild (t : DeviceMng) (r : CctvRun) (dev : Nat) (sub childId childName : String)
    (ipcStatus : Int) : DeviceMng × List CctvNotify :=
  let childDev : JsonChildDevic :=
    { deviceId := childId, mParentDev := some dev, name := childName, status := ipcStatus,
      parentId := sub, mGBID := childId }
  (t.putChild childDev, [.device .add (childDev.getCatalogItem r.charsetConvert r.myId)])

/-- The body of the loop over the entries of `Upward`. -/
def syncUpwardIpc (r : CctvRun) (dev : Nat) (statusMap : Std.TreeMap String Int) (sub : String)
    (t : DeviceMng) (entry : CctvIpc) : DeviceMng × List CctvNotify :=
  let ipcStatus := entry.ipcStatus statusMap
  match t.server.children.findChildDevice entry.gbId with
  | some child =>
      if (t.server.parentNvr child).isSome then
        if child.name ≠ entry.childName ∨ child.parentId ≠ sub then
          t.updateChild r dev sub child entry.childName ipcStatus
        else if r.isAll ∨ child.status ≠ ipcStatus then t.changeStatus r child ipcStatus
        else (t, [])
      else (t, [])
  | none => t.addChild r dev sub entry.gbId entry.childName ipcStatus

/-- The body of the loop over the entries of `Downward`. -/
def syncDownwardIpc (r : CctvRun) (dev : Nat) (statusMap : Std.TreeMap String Int) (sub : String)
    (t : DeviceMng) (entry : CctvIpc) : DeviceMng × List CctvNotify :=
  syncUpwardIpc r dev statusMap sub t entry

/-- The body of the loop over the entries of `KKIpc`. -/
def syncKkIpc (r : CctvRun) (dev : Nat) (statusMap : Std.TreeMap String Int) (sub : String)
    (t : DeviceMng) (entry : CctvIpc) : DeviceMng × List CctvNotify :=
  let ipcStatus := entry.ipcStatus statusMap
  match t.server.children.findChildDevice entry.gbId with
  | some child =>
      if (t.server.parentNvr child).isSome then
        if child.name ≠ entry.childName ∨ child.status ≠ ipcStatus ∨ child.parentId ≠ sub then
          if child.name ≠ entry.childName ∨ child.parentId ≠ sub then
            t.updateChild r dev sub child entry.childName ipcStatus
          else if r.isAll ∨ child.status ≠ ipcStatus then t.changeStatus r child ipcStatus
          else (t, [])
        else (t, [])
      else (t, [])
  | none => t.addChild r dev sub entry.gbId entry.childName ipcStatus

/-- The block of a section: its organisation, and the loop over its entries. -/
def syncSection (sync : String → DeviceMng → CctvIpc → DeviceMng × List CctvNotify)
    (voTop : String) (t : DeviceMng) : Option CctvSection → DeviceMng × List CctvNotify
  | none => (t, [])
  | some s =>
      let (t, organization) := t.syncOrganization (s.subVo voTop)
      let (t, devices) := Collect.run (sync s.gbId) t s.entries
      (t, organization ++ devices)

/-- `voTop`. -/
def voTop (t : DeviceMng) (node : CctvNode) : VirtualOrganization where
  deviceID := node.gbId
  name := cutAtBlank node.title
  parentID := t.selfId
  businessGroupID := ""

/-- The body of the loop over the nodes. -/
def syncNode (env : Env) (r : CctvRun) (t : DeviceMng) (node : CctvNode) :
    DeviceMng × List CctvNotify :=
  let (t, top) := t.syncOrganization (t.voTop node)
  let (t, dev) := t.syncNvr node
  let (t, statusMap) := t.getJsonNvrChannelStatus env dev
  let (t, up) := syncSection (syncUpwardIpc r dev statusMap) node.gbId t node.upward
  let (t, down) := syncSection (syncDownwardIpc r dev statusMap) node.gbId t node.downward
  let (t, kk) := syncSection (syncKkIpc r dev statusMap) node.gbId t node.kkIpc
  (t, top ++ up ++ down ++ kk)

/-- `UaMgr::NotifyQDCCTVNodeInfo` on the answer of the platform, up to the timer
for the next run: the tables, the NOTIFYs and the number that it returns. -/
def notifyQDCCTVNodeInfo (t : DeviceMng) (env : Env) (r : CctvRun) (reply : Option CctvReply) :
    DeviceMng × List CctvNotify × Int :=
  match reply with
  | none => (t, [], 0)
  | some reply =>
      if reply.code = 200 then
        match reply.data with
        | none => (t, [], 0)
        | some body =>
            let (t, notified) := Collect.run (syncNode env r) t (body.data.getD [])
            (t, notified, body.count)
      else (t, [], 0)

/-! ### Organisations -/

section

variable {t t' : DeviceMng} {vo : VirtualOrganization} {r : CctvRun} {dev : Nat}
  {statusMap : Std.TreeMap String Int} {sub : String} {entry : CctvIpc}

/-- The organisation is in the table with its name and parent. -/
def OrganizationSettled (t : DeviceMng) (vo : VirtualOrganization) : Prop :=
  ∃ old, t.mVoMap.findVirtualOrganization vo.deviceID = some old ∧ old.name = vo.name ∧
    old.parentID = vo.parentID

theorem syncOrganization_of_settled (h : t.OrganizationSettled vo) :
    t.syncOrganization vo = (t, []) := by
  obtain ⟨old, hfind, hname, hparent⟩ := h
  simp [syncOrganization, hfind, hname, hparent]

theorem settled_putOrganization {new : VirtualOrganization} (hid : new.deviceID = vo.deviceID)
    (hname : new.name = vo.name) (hparent : new.parentID = vo.parentID) :
    (t.putOrganization new).OrganizationSettled vo := by
  refine ⟨new, ?_, hname, hparent⟩
  rw [putOrganization, VoMap.findVirtualOrganization_addVirtualOrganization, if_pos hid.symm]

theorem settled_syncOrganization (t : DeviceMng) (vo : VirtualOrganization) :
    (t.syncOrganization vo).1.OrganizationSettled vo := by
  unfold syncOrganization
  split
  · rename_i old hfind
    split
    · have hid := t.mVoMap.keyed _ old hfind
      exact settled_putOrganization hid rfl rfl
    · rename_i hsame
      obtain ⟨hname, hparent⟩ : old.name = vo.name ∧ old.parentID = vo.parentID := by
        simpa using hsame
      exact ⟨old, hfind, hname, hparent⟩
  · exact settled_putOrganization rfl rfl rfl

theorem OrganizationSettled.of_mVoMap (h : t.OrganizationSettled vo) (hmap : t'.mVoMap = t.mVoMap) :
    t'.OrganizationSettled vo := by
  unfold OrganizationSettled at h ⊢
  rw [hmap]
  exact h

/-! ### What is done to an entry -/

/-- The camera and the NVRs are the same. -/
structure SameCamera (id : String) (t t' : DeviceMng) : Prop where
  child : t'.server.children.findChildDevice id = t.server.children.findChildDevice id
  nvrs : t'.server.nvrs = t.server.nvrs

/-- A camera is read, and both tables are left alone or get the same write to it, which makes it
one of the NVR `dev` or leaves it its own. -/
inductive SameWrite (dev : Nat) (id : String) (t t' : DeviceMng) :
    DeviceMng × List CctvNotify → DeviceMng × List CctvNotify → Prop
  | idle : SameWrite dev id t t' (t, []) (t', [])
  | put {child : JsonChildDevic} (hid : child.deviceId = id)
      (hparent : child.mParentDev = some dev ∨
        ∃ old, t.server.children.findChildDevice id = some old ∧
          child.mParentDev = old.mParentDev) (notified : List CctvNotify) :
      SameWrite dev id t t' (t.putChild child, notified) (t'.putChild child, notified)

theorem SameCamera.refl (id : String) (t : DeviceMng) : SameCamera id t t := ⟨rfl, rfl⟩

theorem SameCamera.parentNvr {id : String} (h : SameCamera id t t') (child : JsonChildDevic) :
    t'.server.parentNvr child = t.server.parentNvr child := by
  rw [ServerState.parentNvr, ServerState.parentNvr, h.nvrs]

section

variable {id : String} {child : JsonChildDevic}

theorem sameWrite_updateChild (hid : child.deviceId = id) (name : String) (status : Int) :
    SameWrite dev id t t' (t.updateChild r dev sub child name status)
      (t'.updateChild r dev sub child name status) :=
  @SameWrite.put dev id t t'
    { child with mParentDev := some dev, name := name, status := status, parentId := sub } hid
    (.inl rfl) _

theorem sameWrite_changeStatus (hchild : t.server.children.findChildDevice id = some child)
    (status : Int) :
    SameWrite dev id t t' (t.changeStatus r child status) (t'.changeStatus r child status) :=
  @SameWrite.put dev id t t' { child with status := status }
    (t.server.children.keyed _ child hchild) (.inr ⟨child, hchild, rfl⟩) _

theorem sameWrite_addChild (name : String) (status : Int) :
    SameWrite dev id t t' (t.addChild r dev sub id name status)
      (t'.addChild r dev sub id name status) :=
  @SameWrite.put dev id t t'
    { deviceId := id, mParentDev := some dev, name := name, status := status, parentId := sub,
      mGBID := id } rfl (.inl rfl) _

end

/-- What is done to an entry is told by its camera and the NVRs. -/
theorem sameWrite_syncUpwardIpc (r : CctvRun) (dev : Nat) (statusMap : Std.TreeMap String Int)
    (sub : String) (entry : CctvIpc) (h : SameCamera entry.gbId t t') :
    SameWrite dev entry.gbId t t' (syncUpwardIpc r dev statusMap sub t entry)
      (syncUpwardIpc r dev statusMap sub t' entry) := by
  simp only [syncUpwardIpc, h.child, h.parentNvr]
  split
  · rename_i child hchild
    have hid := t.server.children.keyed _ child hchild
    split_ifs
    · exact sameWrite_updateChild hid _ _
    · exact sameWrite_changeStatus hchild _
    · exact .idle
    · exact .idle
  · exact sameWrite_addChild _ _

theorem sameWrite_syncKkIpc (r : CctvRun) (dev : Nat) (statusMap : Std.TreeMap String Int)
    (sub : String) (entry : CctvIpc) (h : SameCamera entry.gbId t t') :
    SameWrite dev entry.gbId t t' (syncKkIpc r dev statusMap sub t entry)
      (syncKkIpc r dev statusMap sub t' entry) := by
  simp only [syncKkIpc, h.child, h.parentNvr]
  split
  · rename_i child hchild
    have hid := t.server.children.keyed _ child hchild
    split_ifs
    · exact sameWrite_updateChild hid _ _
    · exact sameWrite_changeStatus hchild _
    · exact .idle
    · exact .idle
    · exact .idle
  · exact sameWrite_addChild _ _

theorem SameWrite.mVoMap {id : String} {u u' : DeviceMng × List CctvNotify}
    (h : SameWrite dev id t t' u u') : u.1.mVoMap = t.mVoMap := by
  cases h with
  | idle => rfl
  | put hid hparent notified => rfl

/-- The loops over the entries do not touch the organisations. -/
theorem syncUpwardIpc_mVoMap (r : CctvRun) (dev : Nat) (statusMap : Std.TreeMap String Int)
    (sub : String) (t : DeviceMng) (entry : CctvIpc) :
    (syncUpwardIpc r dev statusMap sub t entry).1.mVoMap = t.mVoMap :=
  (sameWrite_syncUpwardIpc r dev statusMap sub entry (SameCamera.refl _ t)).mVoMap

theorem run_syncUpwardIpc_mVoMap (r : CctvRun) (dev : Nat) (statusMap : Std.TreeMap String Int)
    (sub : String) (t : DeviceMng) (entries : List CctvIpc) :
    (Collect.run (syncUpwardIpc r dev statusMap sub) t entries).1.mVoMap = t.mVoMap :=
  Collect.run_rel (R := fun t t' => t'.mVoMap = t.mVoMap) (fun _ => rfl)
    (fun _ _ _ h h' => by rw [h', h])
    (fun t entry _ => syncUpwardIpc_mVoMap r dev statusMap sub t entry) t

/-! ### The three sections -/

/-- The camera has the name, the status and the organisation of its entry. -/
def ChildSettled (statusMap : Std.TreeMap String Int) (sub : String) (entry : CctvIpc)
    (child : JsonChildDevic) : Prop :=
  child.name = entry.childName ∧ child.parentId = sub ∧ child.status = entry.ipcStatus statusMap

/-- An entry is synchronised in the same way in each section, and with everything
to be notified, one that is a known camera is notified once. -/
structure SectionsAlike (r : CctvRun) (dev : Nat) (statusMap : Std.TreeMap String Int)
    (sub : String) (t : DeviceMng) (entry : CctvIpc) : Prop where
  downward : syncDownwardIpc r dev statusMap sub t entry = syncUpwardIpc r dev statusMap sub t entry
  kkIpc : syncKkIpc r dev statusMap sub t entry = syncUpwardIpc r dev statusMap sub t entry
  once : r.isAll = true → (t.server.children.findChildDevice entry.gbId).isSome →
    (syncUpwardIpc r dev statusMap sub t entry).2.length = 1 ∧
      (syncDownwardIpc r dev statusMap sub t entry).2.length = 1 ∧
      (syncKkIpc r dev statusMap sub t entry).2.length = 1

/-- With everything to be notified, a known camera is of an NVR and has something
to change. -/
def ChangedIfAll (r : CctvRun) (statusMap : Std.TreeMap String Int) (sub : String)
    (t : DeviceMng) (entry : CctvIpc) : Prop :=
  r.isAll = true → ∀ child, t.server.children.findChildDevice entry.gbId = some child →
    (t.server.parentNvr child).isSome ∧ ¬ ChildSettled statusMap sub entry child

theorem syncKkIpc_of_changed (h : ChangedIfAll r statusMap sub t entry) :
    syncKkIpc r dev statusMap sub t entry = syncUpwardIpc r dev statusMap sub t entry := by
  unfold syncKkIpc syncUpwardIpc
  dsimp only
  split
  · rename_i child hchild
    by_cases hparent : (t.server.parentNvr child).isSome
    · rw [if_pos hparent, if_pos hparent]
      split
      · rfl
      · rename_i hsettled
        -- Nothing is to be changed, so not everything is to be notified.
        push Not at hsettled
        obtain ⟨hname, hstatus, hsub⟩ := hsettled
        have hnot : ¬ r.isAll = true := fun hall =>
          (h hall child hchild).2 ⟨hname, hsub, hstatus⟩
        simp [hname, hsub, hstatus, hnot]
    · rw [if_neg hparent, if_neg hparent]
  · rfl

/-- A known camera of an NVR is notified once by the first two copies when
everything is to be notified. -/
theorem length_syncUpwardIpc (hall : r.isAll = true) {child : JsonChildDevic}
    (hchild : t.server.children.findChildDevice entry.gbId = some child) :
    (syncUpwardIpc r dev statusMap sub t entry).2.length = 1 ↔
      (t.server.parentNvr child).isSome := by
  simp only [syncUpwardIpc, hchild]
  split
  · rename_i hparent
    refine ⟨fun _ => hparent, fun _ => ?_⟩
    split
    · rfl
    · rw [if_pos (.inl hall)]
      rfl
  · rename_i hparent
    exact iff_of_false Nat.zero_ne_one hparent

theorem length_syncKkIpc {child : JsonChildDevic}
    (hchild : t.server.children.findChildDevice entry.gbId = some child)
    (h : (syncKkIpc r dev statusMap sub t entry).2.length = 1) :
    ¬ ChildSettled statusMap sub entry child := by
  rintro ⟨hname, hsub, hstatus⟩
  simp only [syncKkIpc, hchild] at h
  split at h
  · simp [hname, hsub, hstatus] at h
  · cases h

/-- The three copies agree on an entry exactly when, with everything to be
notified, a known camera is of an NVR and has something to change. -/
theorem sectionsAlike_iff (r : CctvRun) (dev : Nat) (statusMap : Std.TreeMap String Int)
    (sub : String) (t : DeviceMng) (entry : CctvIpc) :
    SectionsAlike r dev statusMap sub t entry ↔ ChangedIfAll r statusMap sub t entry := by
  constructor
  · intro h hall child hchild
    obtain ⟨hup, -, hkk⟩ := h.once hall (by rw [hchild]; rfl)
    exact ⟨(length_syncUpwardIpc hall hchild).mp hup, length_syncKkIpc hchild hkk⟩
  · intro h
    have hkk : syncKkIpc r dev statusMap sub t entry = syncUpwardIpc r dev statusMap sub t entry :=
      syncKkIpc_of_changed h
    refine { downward := rfl, kkIpc := hkk, once := ?_ }
    intro hall hknown
    obtain ⟨child, hchild⟩ := Option.isSome_iff_exists.mp hknown
    have hup : (syncUpwardIpc r dev statusMap sub t entry).2.length = 1 :=
      (length_syncUpwardIpc hall hchild).mpr (h hall child hchild).1
    exact ⟨hup, hup, hkk ▸ hup⟩

end

/-! ### Moving an entry -/

/-- An entry between two sections of one organisation: the last of the one, or
the first of the other. -/
structure EntryMove where
  title : String
  gbId : String
  before : List CctvIpc
  entry : CctvIpc
  after : List CctvIpc

namespace EntryMove

def withEntry (m : EntryMove) : CctvSection := ⟨m.title, m.gbId, some (m.before ++ [m.entry])⟩

def withoutEntry (m : EntryMove) : CctvSection := ⟨m.title, m.gbId, some m.before⟩

def beforeMove (m : EntryMove) : CctvSection := ⟨m.title, m.gbId, some m.after⟩

def afterMove (m : EntryMove) : CctvSection := ⟨m.title, m.gbId, some (m.entry :: m.after)⟩

end EntryMove

section

variable (sync : String → DeviceMng → CctvIpc → DeviceMng × List CctvNotify)

/-- The two sections in a row, before and after the move, do the same when the
entry is synchronised alike where it is reached. -/
theorem syncSection_move (r : CctvRun) (dev : Nat) (statusMap : Std.TreeMap String Int)
    (voTop : String) (t : DeviceMng) (m : EntryMove)
    (hsame : sync m.gbId
        (syncSection (syncUpwardIpc r dev statusMap) voTop t (some m.withoutEntry)).1 m.entry =
      syncUpwardIpc r dev statusMap m.gbId
        (syncSection (syncUpwardIpc r dev statusMap) voTop t (some m.withoutEntry)).1 m.entry) :
    (syncSection sync voTop
        (syncSection (syncUpwardIpc r dev statusMap) voTop t (some m.withEntry)).1
        (some m.beforeMove)).1 =
      (syncSection sync voTop
        (syncSection (syncUpwardIpc r dev statusMap) voTop t (some m.withoutEntry)).1
        (some m.afterMove)).1 ∧
    (syncSection (syncUpwardIpc r dev statusMap) voTop t (some m.withEntry)).2 ++
        (syncSection sync voTop
          (syncSection (syncUpwardIpc r dev statusMap) voTop t (some m.withEntry)).1
          (some m.beforeMove)).2 =
      (syncSection (syncUpwardIpc r dev statusMap) voTop t (some m.withoutEntry)).2 ++
        (syncSection sync voTop
          (syncSection (syncUpwardIpc r dev statusMap) voTop t (some m.withoutEntry)).1
          (some m.afterMove)).2 := by
  have hvo : ∀ s : CctvSection, s.title = m.title → s.gbId = m.gbId →
      s.subVo voTop = m.withoutEntry.subVo voTop := by
    rintro ⟨title, gbId, data⟩ rfl rfl
    rfl
  have hsettled : ∀ t' : DeviceMng,
      t'.mVoMap = (t.syncOrganization (m.withoutEntry.subVo voTop)).1.mVoMap →
      t'.syncOrganization (m.withoutEntry.subVo voTop) = (t', []) := fun t' hmap =>
    syncOrganization_of_settled ((settled_syncOrganization t _).of_mVoMap hmap)
  simp only [syncSection] at hsame ⊢
  rw [hvo m.withEntry rfl rfl, hvo m.beforeMove rfl rfl, hvo m.afterMove rfl rfl]
  generalize t.syncOrganization (m.withoutEntry.subVo voTop) = top at hsame hsettled ⊢
  have hbefore : m.withEntry.entries = m.before ++ [m.entry] := rfl
  have hafter : m.afterMove.entries = m.entry :: m.after := rfl
  have hrest : m.beforeMove.entries = m.after := rfl
  have hfirst : m.withoutEntry.entries = m.before := rfl
  have hgbId : m.withEntry.gbId = m.gbId ∧ m.withoutEntry.gbId = m.gbId ∧
      m.beforeMove.gbId = m.gbId ∧ m.afterMove.gbId = m.gbId := ⟨rfl, rfl, rfl, rfl⟩
  obtain ⟨h1, h2, h3, h4⟩ := hgbId
  simp only [h1, h2, h3, h4, hbefore, hafter, hrest, hfirst, Collect.run_concat] at hsame ⊢
  have hmap := run_syncUpwardIpc_mVoMap r dev statusMap m.gbId top.1 m.before
  rw [hsettled _ hmap, hsettled _ ((syncUpwardIpc_mVoMap _ _ _ _ _ _).trans hmap)]
  simp only [Collect.run, hsame, List.nil_append, List.append_assoc]
  exact ⟨trivial, trivial⟩

end

/-- Where a node's sections begin: the tables, the NVR, and the statuses that it
lists. -/
def nodeStart (env : Env) (t : DeviceMng) (node : CctvNode) :
    DeviceMng × Nat × Std.TreeMap String Int :=
  let (t, dev) := (t.syncOrganization (t.voTop node)).1.syncNvr node
  let (t, statusMap) := t.getJsonNvrChannelStatus env dev
  (t, dev, statusMap)

/-- The tables in which the entry is reached, in its first place as in its second. -/
def entryReached (env : Env) (r : CctvRun) (t : DeviceMng) (node : CctvNode) (m : EntryMove) :
    DeviceMng :=
  let (t, dev, statusMap) := nodeStart env t node
  (syncSection (syncUpwardIpc r dev statusMap) node.gbId t (some m.withoutEntry)).1

/-- An answer with these nodes. -/
def replyOf (code count : Int) (nodes : List CctvNode) : Option CctvReply :=
  some { code := code, data := some { count := count, data := some nodes } }

/-- Moving an entry from `Upward` to `Downward` or `KKIpc`, where the sections are
of one organisation, leaves everything that a run does as it was, and with
everything to be notified the entry is notified once in each of them if it is a
known camera. -/
structure MovesAlike (env : Env) (r : CctvRun) (t : DeviceMng) (code count : Int)
    (pre post : List CctvNode) (node : CctvNode) (m : EntryMove) : Prop where
  downward :
    t.notifyQDCCTVNodeInfo env r (replyOf code count (pre ++
        { node with upward := some m.withEntry, downward := some m.beforeMove } :: post)) =
      t.notifyQDCCTVNodeInfo env r (replyOf code count (pre ++
        { node with upward := some m.withoutEntry, downward := some m.afterMove } :: post))
  kkIpc :
    t.notifyQDCCTVNodeInfo env r (replyOf code count (pre ++
        { node with upward := some m.withEntry, downward := none, kkIpc := some m.beforeMove } ::
          post)) =
      t.notifyQDCCTVNodeInfo env r (replyOf code count (pre ++
        { node with upward := some m.withoutEntry, downward := none, kkIpc := some m.afterMove } ::
          post))
  reached : code = 200 →
    SectionsAlike r (nodeStart env (Collect.run (syncNode env r) t pre).1 node).2.1
      (nodeStart env (Collect.run (syncNode env r) t pre).1 node).2.2 m.gbId
      (entryReached env r (Collect.run (syncNode env r) t pre).1 node m) m.entry

/-- Nodes that do the same lead to runs that do the same. -/
theorem notifyQDCCTVNodeInfo_congr {env : Env} {r : CctvRun} {t : DeviceMng} {code : Int}
    (count : Int) {pre : List CctvNode} (post : List CctvNode) {node node' : CctvNode}
    (h : code = 200 → syncNode env r (Collect.run (syncNode env r) t pre).1 node =
      syncNode env r (Collect.run (syncNode env r) t pre).1 node') :
    t.notifyQDCCTVNodeInfo env r (replyOf code count (pre ++ node :: post)) =
      t.notifyQDCCTVNodeInfo env r (replyOf code count (pre ++ node' :: post)) := by
  simp only [notifyQDCCTVNodeInfo, replyOf, Option.getD_some]
  split
  · rename_i hcode
    rw [Collect.run_append, Collect.run_append, Collect.run, Collect.run, h hcode]
  · rfl

/-- The three sections of a node. -/
def syncSections (r : CctvRun) (start : DeviceMng × Nat × Std.TreeMap String Int) (voTop : String)
    (upward downward kkIpc : Option CctvSection) : DeviceMng × List CctvNotify :=
  let up := syncSection (syncUpwardIpc r start.2.1 start.2.2) voTop start.1 upward
  let down := syncSection (syncDownwardIpc r start.2.1 start.2.2) voTop up.1 downward
  let kk := syncSection (syncKkIpc r start.2.1 start.2.2) voTop down.1 kkIpc
  (kk.1, up.2 ++ down.2 ++ kk.2)

theorem syncNode_eq (env : Env) (r : CctvRun) (t : DeviceMng) (node : CctvNode) :
    syncNode env r t node =
      ((syncSections r (nodeStart env t node) node.gbId node.upward node.downward node.kkIpc).1,
        (t.syncOrganization (t.voTop node)).2 ++
          (syncSections r (nodeStart env t node) node.gbId node.upward node.downward
            node.kkIpc).2) := by
  unfold syncNode syncSections nodeStart
  simp only [List.append_assoc]

theorem syncSections_downward (r : CctvRun) (start : DeviceMng × Nat × Std.TreeMap String Int)
    (voTop : String) (m : EntryMove) (kkIpc : Option CctvSection) :
    syncSections r start voTop (some m.withEntry) (some m.beforeMove) kkIpc =
      syncSections r start voTop (some m.withoutEntry) (some m.afterMove) kkIpc := by
  obtain ⟨htree, hnotified⟩ := syncSection_move (syncDownwardIpc r start.2.1 start.2.2) r
    start.2.1 start.2.2 voTop start.1 m rfl
  unfold syncSections
  simp only [htree, hnotified]

theorem syncSections_kkIpc (r : CctvRun) (start : DeviceMng × Nat × Std.TreeMap String Int)
    (voTop : String) (m : EntryMove)
    (hsame : syncKkIpc r start.2.1 start.2.2 m.gbId
        (syncSection (syncUpwardIpc r start.2.1 start.2.2) voTop start.1
          (some m.withoutEntry)).1 m.entry =
      syncUpwardIpc r start.2.1 start.2.2 m.gbId
        (syncSection (syncUpwardIpc r start.2.1 start.2.2) voTop start.1
          (some m.withoutEntry)).1 m.entry) :
    syncSections r start voTop (some m.withEntry) none (some m.beforeMove) =
      syncSections r start voTop (some m.withoutEntry) none (some m.afterMove) := by
  obtain ⟨htree, hnotified⟩ := syncSection_move (syncKkIpc r start.2.1 start.2.2) r
    start.2.1 start.2.2 voTop start.1 m hsame
  unfold syncSections
  simp only [syncSection, List.append_nil] at htree hnotified ⊢
  rw [htree, hnotified]

/-- Moving an entry changes nothing exactly when, with everything to be notified,
the entry is of a camera that is new, or of one of an NVR that it changes. -/
theorem movesAlike_iff (env : Env) (r : CctvRun) (t : DeviceMng) (code count : Int)
    (pre post : List CctvNode) (node : CctvNode) (m : EntryMove) :
    MovesAlike env r t code count pre post node m ↔
      (code = 200 → ChangedIfAll r (nodeStart env (Collect.run (syncNode env r) t pre).1 node).2.2
        m.gbId (entryReached env r (Collect.run (syncNode env r) t pre).1 node m) m.entry) := by
  constructor
  · exact fun h hcode => (sectionsAlike_iff _ _ _ _ _ _).mp (h.reached hcode)
  · intro h
    refine { downward := ?downward, kkIpc := ?kkIpc, reached := ?reached }
    case reached => exact fun hcode => (sectionsAlike_iff _ _ _ _ _ _).mpr (h hcode)
    case downward =>
      refine notifyQDCCTVNodeInfo_congr count post fun _ => ?_
      rw [syncNode_eq, syncNode_eq]
      have hsections := syncSections_downward r
        (nodeStart env (Collect.run (syncNode env r) t pre).1 node) node.gbId m node.kkIpc
      exact congrArg (fun s => (s.1, _ ++ s.2)) hsections
    case kkIpc =>
      refine notifyQDCCTVNodeInfo_congr count post fun hcode => ?_
      rw [syncNode_eq, syncNode_eq]
      have hsections := syncSections_kkIpc r
        (nodeStart env (Collect.run (syncNode env r) t pre).1 node) node.gbId m
        (syncKkIpc_of_changed (h hcode))
      exact congrArg (fun s => (s.1, _ ++ s.2)) hsections

/-- A camera of NVR 1 that the platform lists. -/
def knownCamera : JsonChildDevic where
  deviceId := "34020000001320000001"
  mParentDev := some 0
  name := "gate"
  status := 1
  parentId := "34020000002160000002"

/-- A server that knows the NVR and the camera. -/
def knownTree : DeviceMng where
  selfId := "34020000002000000001"
  mDeviceMap := (∅ : Std.TreeMap String Nat).insert "1" 0
  mVoMap := .empty
  server := ServerState.sampleState (ChildMap.empty.addChildDevice knownCamera)
  nvrStatus := fun _ => 1
  nextDev := 1

def sampleNode : CctvNode where
  title := "station"
  gbId := "34020000002160000001"
  managePort := 8000
  manageUser := "admin"
  managePass := "admin"
  manageIp := "192.168.1.10"
  nvrDid := "1"
  status := 0
  upward := none
  downward := none
  kkIpc := none

/-- The camera as the only entry of a section. -/
def cameraMove : EntryMove where
  title := "line"
  gbId := "34020000002160000002"
  before := []
  entry := { ipc := "gate", gbId := "34020000001320000001", status := 0 }
  after := []

def notifyAllRun : CctvRun := { charsetConvert := some, myId := "34020000002000000001", isAll := true }

/-- With everything to be notified, the camera is notified in `Upward` and not in `KKIpc`. -/
theorem camera_not_notified_in_kkIpc :
    (knownTree.notifyQDCCTVNodeInfo (ServerState.sampleEnv ServerState.workingSdk) notifyAllRun
        (replyOf 200 1 [{ sampleNode with
          upward := some cameraMove.withEntry, kkIpc := some cameraMove.beforeMove }])).2.1.length =
        3 ∧
      (knownTree.notifyQDCCTVNodeInfo (ServerState.sampleEnv ServerState.workingSdk) notifyAllRun
        (replyOf 200 1 [{ sampleNode with
          upward := some cameraMove.withoutEntry, kkIpc := some cameraMove.afterMove }])).2.1.length =
        2 ∧
      ¬ MovesAlike (ServerState.sampleEnv ServerState.workingSdk) notifyAllRun knownTree 200 1 [] []
        sampleNode cameraMove := by
  have hup : (knownTree.notifyQDCCTVNodeInfo (ServerState.sampleEnv ServerState.workingSdk)
      notifyAllRun (replyOf 200 1 [{ sampleNode with
        upward := some cameraMove.withEntry, kkIpc := some cameraMove.beforeMove }])).2.1.length =
      3 := by decide
  have hkk : (knownTree.notifyQDCCTVNodeInfo (ServerState.sampleEnv ServerState.workingSdk)
      notifyAllRun (replyOf 200 1 [{ sampleNode with
        upward := some cameraMove.withoutEntry, kkIpc := some cameraMove.afterMove }])).2.1.length =
      2 := by decide
  refine ⟨hup, hkk, fun h => ?_⟩
  have hsame := congrArg (fun result => result.2.1.length) h.kkIpc
  exact absurd (hup.symm.trans (hsame.trans hkk)) (by decide)

end DeviceMng

end SignalingServer
