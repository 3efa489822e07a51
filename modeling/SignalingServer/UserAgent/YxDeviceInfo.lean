import SignalingServer.DeviceDb.YxDb
import SignalingServer.DeviceMng.VirtualOrganization
import SignalingServer.Lib.Lts

/-!
The synchronisation of `DeviceMng` with the database (`UaMgr::getYxDeviceInfo`,
`CDbManager::QueryDeviceInfoList`) beside a request that deletes a device
(`HttpServer::delDevice`). Both run in threads of their own: a step is one SQL
statement or one operation of `DeviceMng`, with what the thread does until its next.
-/

namespace SignalingServer

/-- A `BaseDevice`. Its status and times are left out. -/
structure YxDevice where
  deviceId : String
  /-- `devType == BaseDevice::JSON_NVR`. -/
  jsonNvr : Bool
  fields : DeviceRow
  deriving DecidableEq, Repr

/-- What `getYxDeviceInfo` does next: the rows of a `SELECT` that are left, the devices of
`devList` that are left, as their places on the heap. -/
inductive SyncPc where
  | queryDevices
  | deviceRows (rest : List (Nat × DeviceRow)) (devList : List Nat)
  | addRow (jsonNvr : Nat) (rest : List (Nat × DeviceRow)) (devList : List Nat)
  | devices (devList : List Nat)
  | addBack (it : Nat) (devList : List Nat)
  | channels (dev it : Nat) (channelList : List JsonChildDevic) (devList : List Nat)
  | addChannel (dev it : Nat) (item : JsonChildDevic) (channelList : List JsonChildDevic)
      (devList : List Nat)
  | findChannel (id : Nat) (dev it : Nat) (item : JsonChildDevic)
      (channelList : List JsonChildDevic) (devList : List Nat)
  | queryChildren
  | childRows (rest : List (Nat × SubDeviceRow))
  | findParent (id : Nat) (row : SubDeviceRow) (rest : List (Nat × SubDeviceRow))
  | addChild (child : JsonChildDevic) (rest : List (Nat × SubDeviceRow))
  | done
  deriving DecidableEq, Repr

/-- What `delDevice` does next: the children of its list that are left. -/
inductive DeletePc where
  | delete
  | getChildren
  | removing (rest : List String)
  | done
  deriving DecidableEq, Repr

/-- What a step of `getYxDeviceInfo` meets: whether its statement is executed, the
channels that `getJsonNvrChannelList` makes, the code that `CreateDevCode` makes, the
id of a new row, and the rows that an INSERT leaves whose texts break it. -/
structure SyncEnv where
  ok : Bool := true
  channelList : List JsonChildDevic := []
  gbid : String := ""
  newId : Nat := 0
  read : List (Nat × SubDeviceRow) := []
  deriving DecidableEq, Repr

/-- A step of one of the two threads. -/
inductive YxThread where
  | sync (env : SyncEnv)
  | delete
  deriving DecidableEq, Repr

/-- The tables, the maps of `DeviceMng` and both threads. `listed` is history: the
`SELECT` of the devices was executed. -/
structure YxState where
  db : YxDb
  mDeviceMap : Std.TreeMap String Nat
  mChildMap : ChildMap
  heap : Nat → YxDevice
  nextDev : Nat
  sync : SyncPc
  del : DeletePc
  listed : Bool

namespace SyncPc

/-- The second `SELECT` was executed. -/
def Selected : SyncPc → Prop
  | childRows _ | findParent .. | addChild .. | done => True
  | _ => False

/-- The main loop, over the devices and their channels. -/
def Main : SyncPc → Prop
  | devices _ | addBack .. | channels .. | addChannel .. | findChannel .. | queryChildren => True
  | _ => False

/-- The ids of its rows that are left, with the one of a child that is being made. -/
def rowIds : SyncPc → List String
  | childRows rest => rest.map fun item => toString item.1
  | findParent id _ rest => toString id :: rest.map fun item => toString item.1
  | addChild child rest => child.deviceId :: rest.map fun item => toString item.1
  | _ => []

/-- The id of a child that is being made. -/
def making : SyncPc → Option String
  | findParent id _ _ => some (toString id)
  | addChild child _ => some child.deviceId
  | _ => none

theorem Main.not_selected {pc : SyncPc} (h : pc.Main) : ¬ pc.Selected := by
  cases pc with
  | childRows | findParent | addChild | done => exact h.elim
  | _ => exact id

theorem rowIds_of_not_selected {pc : SyncPc} (h : ¬ pc.Selected) : pc.rowIds = [] := by
  cases pc with
  | childRows | findParent | addChild => exact absurd trivial h
  | _ => rfl

theorem making_of_not_selected {pc : SyncPc} (h : ¬ pc.Selected) : pc.making = none := by
  cases pc with
  | findParent | addChild => exact absurd trivial h
  | _ => rfl

end SyncPc

namespace DeviceRow

/-- The fields of a device that has been made from the row, or compared with it: the
port is a `short`. -/
def asFields (row : DeviceRow) : DeviceRow := { row with devicePort := toShort row.devicePort }

/-- The fields that the main loop of `getYxDeviceInfo` copies. -/
def copyFrom (fields it : DeviceRow) : DeviceRow :=
  { fields with
    deviceIp := it.deviceIp, devicePort := it.devicePort, deviceUser := it.deviceUser,
    devicePswd := it.devicePswd, deviceName := it.deviceName, gbId := it.gbId }

end DeviceRow

namespace YxState

/-- `DeviceMng::addDevice`. -/
def addDevice (s : YxState) (dev : Nat) : YxState :=
  { s with mDeviceMap := s.mDeviceMap.insert (s.heap dev).deviceId dev }

/-- `DeviceMng::addChildDevice`, also the write to a child that is in the map. -/
def addChildDevice (s : YxState) (child : JsonChildDevic) : YxState :=
  { s with mChildMap := s.mChildMap.addChildDevice child }

/-- The fields of a device on the heap. -/
def setFields (s : YxState) (dev : Nat) (fields : DeviceRow) : YxState :=
  { s with heap := fun r => if r = dev then { s.heap dev with fields := fields } else s.heap r }

/-- `std::make_shared<JsonNvrDevic>`. -/
def newNvr (s : YxState) (id : String) (fields : DeviceRow) : YxState :=
  { s with
    heap := fun r => if r = s.nextDev then ⟨id, true, fields⟩ else s.heap r
    nextDev := s.nextDev + 1 }

/-- `child->getParentDev() && child->getParentDev()->devType == BaseDevice::JSON_NVR`. -/
def HasJsonNvr (s : YxState) (child : JsonChildDevic) : Prop :=
  ∃ dev ∈ child.mParentDev, (s.heap dev).jsonNvr

instance (s : YxState) (child : JsonChildDevic) : Decidable (s.HasJsonNvr child) :=
  match h : child.mParentDev with
  | none => isFalse (by rintro ⟨dev, hdev, -⟩; rw [h] at hdev; cases hdev)
  | some dev => decidable_of_iff ((s.heap dev).jsonNvr = true) <| by
      constructor
      · exact fun hnvr => ⟨dev, h, hnvr⟩
      · rintro ⟨dev', hdev, hnvr⟩
        rw [h] at hdev
        cases hdev
        exact hnvr

/-- The child that a row without a child makes. -/
def rowChild (id : Nat) (row : SubDeviceRow) (parent : Option Nat) : JsonChildDevic where
  deviceId := toString id
  mParentDev := parent
  name := row.channelName
  status := 0
  parentId := toString row.parentId
  mGBID := row.gbId
  channel := row.channelNo

/-- A child after the comparison with its row. -/
def setRow (child : JsonChildDevic) (row : SubDeviceRow) : JsonChildDevic :=
  { child with
    name := row.channelName, parentId := toString row.parentId, mGBID := row.gbId,
    channel := row.channelNo }

/-- A child after the comparison with the channel that its NVR lists. -/
def setChannel (child item : JsonChildDevic) : JsonChildDevic :=
  { child with name := item.name, channel := item.channel, status := item.status }

/-- A step of `getYxDeviceInfo`, without the registration at its end; `none` when it is
through. -/
def stepSync (s : YxState) (env : SyncEnv) : Option YxState :=
  match s.sync with
  | .queryDevices =>
      let rows := if env.ok then s.db.deviceInfo.toList else []
      some { s with listed := env.ok, sync := .deviceRows rows [] }
  | .deviceRows ((id, row) :: rest) devList =>
      match s.mDeviceMap[toString id]? with
      | some dev =>
          if (s.heap dev).jsonNvr then
            some { s.setFields dev row.asFields with sync := .deviceRows rest (devList ++ [dev]) }
          else some { s with sync := .deviceRows rest devList }
      | none =>
          some { s.newNvr (toString id) row.asFields with
            sync := .addRow s.nextDev rest (devList ++ [s.nextDev]) }
  | .deviceRows [] devList => some { s with sync := .devices devList }
  | .addRow jsonNvr rest devList =>
      some { s.addDevice jsonNvr with sync := .deviceRows rest devList }
  | .devices (it :: devList) =>
      match s.mDeviceMap[(s.heap it).deviceId]? with
      | some dev =>
          let channelList := if (s.heap dev).jsonNvr then env.channelList else []
          some { s.setFields dev ((s.heap dev).fields.copyFrom (s.heap it).fields) with
            sync := .channels dev it channelList devList }
      | none => some { s with sync := .addBack it devList }
  | .devices [] => some { s with sync := .queryChildren }
  | .addBack it devList => some { s.addDevice it with sync := .devices devList }
  | .channels dev it (item :: channelList) devList =>
      match s.db.querySubDeviceInfo (s.heap dev).deviceId item.channel, env.ok with
      | some id, true => some { s with sync := .findChannel id dev it item channelList devList }
      | _, _ => some { s with sync := .addChannel dev it item channelList devList }
  | .channels _ _ [] devList => some { s with sync := .devices devList }
  | .addChannel dev it item channelList devList =>
      let db :=
        if env.ok then
          s.db.addSubDeviceInfo env.newId (s.heap it).deviceId env.gbid item.channel item.name
            env.read
        else s.db
      some { s with db := db, sync := .channels dev it channelList devList }
  | .findChannel id dev it item channelList devList =>
      match s.mChildMap.findChildDevice (toString id) with
      | some child =>
          some { s.addChildDevice (setChannel child item) with
            sync := .channels dev it channelList devList }
      | none => some { s with sync := .channels dev it channelList devList }
  | .queryChildren =>
      let rows := if env.ok then s.db.subDeviceInfo.toList else []
      some { s with sync := .childRows rows }
  | .childRows ((id, row) :: rest) =>
      match s.mChildMap.findChildDevice (toString id) with
      | some child =>
          if s.HasJsonNvr child then
            some { s.addChildDevice (setRow child row) with sync := .childRows rest }
          else some { s with sync := .childRows rest }
      | none => some { s with sync := .findParent id row rest }
  | .childRows [] => some { s with sync := .done }
  | .findParent id row rest =>
      let dev := s.mDeviceMap[toString row.parentId]?
      some { s with sync := .addChild (rowChild id row dev) rest }
  | .addChild child rest => some { s.addChildDevice child with sync := .childRows rest }
  | .done => none

/-- A step of `delDevice` whose `DELETE` is executed: `none` when it is through, and for
the null pointer of a device or child that is not in its map. -/
def stepDelete (selfId : String) (deviceId : Nat) (s : YxState) : Option YxState :=
  match s.del with
  | .delete => some { s with db := s.db.delDeviceInfo deviceId, del := .getChildren }
  | .getChildren =>
      let vcList := s.mChildMap.getChildDevice selfId (toString deviceId)
      some { s with del := .removing (vcList.map (·.deviceId)) }
  | .removing (id :: rest) =>
      match s.mChildMap.findChildDevice id with
      | some _ =>
          some { s with mChildMap := s.mChildMap.removeChildDevice id, del := .removing rest }
      | none => none
  | .removing [] =>
      match s.mDeviceMap[toString deviceId]? with
      | some _ =>
          some { s with mDeviceMap := s.mDeviceMap.erase (toString deviceId), del := .done }
      | none => none
  | .done => none

/-- The steps of both threads, in any order. -/
def step (selfId : String) (deviceId : Nat) : Lts.Step YxState YxThread
  | s, .sync env => s.stepSync env
  | s, .delete => stepDelete selfId deviceId s

/-- Neither thread has begun. -/
structure Starting (s : YxState) : Prop where
  sync : s.sync = .queryDevices
  del : s.del = .delete

/-- Both threads are through. -/
structure Finished (s : YxState) : Prop where
  sync : s.sync = .done
  del : s.del = .done

/-- The device and its children are gone, and the children that are left have a parent
device. -/
structure DeletionWins (deviceId : Nat) (s : YxState) : Prop where
  device : s.mDeviceMap[toString deviceId]? = none
  children : ∀ id child, s.mChildMap.findChildDevice id = some child →
    child.parentId ≠ toString deviceId
  parents : ∀ id child, s.mChildMap.findChildDevice id = some child → child.mParentDev.isSome

/-! ### What is going to be removed -/

section Course

variable (selfId : String) (deviceId : Nat)

/-- `delDevice` is going to remove the child. -/
def Doomed (del : DeletePc) (child : JsonChildDevic) : Prop :=
  match del with
  | .delete | .getChildren =>
      (toString deviceId = "" ∨ toString deviceId = selfId) ∨ child.parentId = toString deviceId
  | .removing rest => child.deviceId ∈ rest
  | .done => False

/-- A child that must not stay is going to be removed. -/
def Settled (del : DeletePc) (child : JsonChildDevic) : Prop :=
  child.parentId = toString deviceId ∨ child.mParentDev = none → Doomed selfId deviceId del child

/-- The deletion wins if nothing but `delDevice` goes on. -/
structure OnCourse (del : DeletePc) (devices : Std.TreeMap String Nat) (children : ChildMap) :
    Prop where
  device : del = .done → devices[toString deviceId]? = none
  settled : ∀ id child, children.findChildDevice id = some child →
    Settled selfId deviceId del child

/-- A step of the synchronisation that does not undo the deletion: the device is not added
after it was removed, and a child that is stored for it, or, when the devices could not be
listed, without a parent device, is still going to be removed. -/
def Harmless (s : YxState) : YxThread → Prop
  | .delete => True
  | .sync _ =>
      match s.sync with
      | .addRow dev _ _ | .addBack dev _ =>
          (s.heap dev).deviceId = toString deviceId → s.del ≠ .done
      | .childRows ((id, row) :: _) =>
          ∀ child, s.mChildMap.findChildDevice (toString id) = some child → s.HasJsonNvr child →
            toString row.parentId = toString deviceId →
              Doomed selfId deviceId s.del (setRow child row)
      | .addChild child _ =>
          child.parentId = toString deviceId ∨ (s.listed = false ∧ child.mParentDev = none) →
            Doomed selfId deviceId s.del child
      | _ => True

end Course

variable {selfId : String} {deviceId : Nat} {del : DeletePc} {devices : Std.TreeMap String Nat}
  {children : ChildMap} {child : JsonChildDevic}

theorem find_unique {old : JsonChildDevic} {id : String}
    (hfind : children.findChildDevice id = some child)
    (hold : children.findChildDevice child.deviceId = some old) : old = child := by
  rw [children.keyed id child hfind, hfind] at hold
  exact (Option.some.inj hold).symm

theorem onCourse_addDevice (id : String) (dev : Nat) :
    OnCourse selfId deviceId del (devices.insert id dev) children ↔
      OnCourse selfId deviceId del devices children ∧ (id = toString deviceId → del ≠ .done) := by
  constructor
  · intro h
    have habsent := h.device
    rw [OrdMap.getElem?_insert] at habsent
    refine ⟨⟨fun hdone => ?_, h.settled⟩, ?_⟩
    · have hnone := habsent hdone
      split at hnone
      · cases hnone
      · exact hnone
    · rintro rfl hdone
      have hnone := habsent hdone
      rw [if_pos rfl] at hnone
      cases hnone
  · rintro ⟨h, hlate⟩
    refine ⟨fun hdone => ?_, h.settled⟩
    rw [OrdMap.getElem?_insert, if_neg fun heq => hlate heq.symm hdone]
    exact h.device hdone

/-- A child that is stored in the place of one that need not stay settled. -/
theorem onCourse_addChildDevice
    (hold : ∀ old, children.findChildDevice child.deviceId = some old →
      Settled selfId deviceId del child → Settled selfId deviceId del old) :
    OnCourse selfId deviceId del devices (children.addChildDevice child) ↔
      OnCourse selfId deviceId del devices children ∧ Settled selfId deviceId del child := by
  constructor
  · intro h
    have hnew : Settled selfId deviceId del child := by
      apply h.settled child.deviceId child
      rw [ChildMap.findChildDevice_addChildDevice, if_pos rfl]
    refine ⟨⟨h.device, fun id old hfind => ?_⟩, hnew⟩
    by_cases hid : id = child.deviceId
    · subst hid
      exact hold old hfind hnew
    · apply h.settled id old
      rw [ChildMap.findChildDevice_addChildDevice, if_neg hid]
      exact hfind
  · rintro ⟨h, hnew⟩
    refine ⟨h.device, fun id child' hfind => ?_⟩
    rw [ChildMap.findChildDevice_addChildDevice] at hfind
    split at hfind
    · cases hfind
      exact hnew
    · exact h.settled id child' hfind

theorem onCourse_removeChildDevice {id : String} {rest : List String} :
    OnCourse selfId deviceId (.removing rest) devices (children.removeChildDevice id) ↔
      OnCourse selfId deviceId (.removing (id :: rest)) devices children := by
  constructor
  · intro h
    refine ⟨nofun, fun id' child hfind hstay => ?_⟩
    have hkey : child.deviceId = id' := children.keyed id' child hfind
    by_cases hid : id' = id
    · exact List.mem_cons.mpr (.inl (hkey.trans hid))
    · refine List.mem_cons_of_mem _ (h.settled id' child ?_ hstay)
      rw [ChildMap.findChildDevice_removeChildDevice, if_neg hid]
      exact hfind
  · intro h
    refine ⟨nofun, fun id' child hfind hstay => ?_⟩
    rw [ChildMap.findChildDevice_removeChildDevice] at hfind
    split at hfind
    · cases hfind
    · rename_i hid
      have hkey : child.deviceId = id' := children.keyed id' child hfind
      refine List.mem_of_ne_of_mem ?_ (h.settled id' child hfind hstay)
      rw [hkey]
      exact hid

/-- The list of `delDevice` holds the children that it is going to remove. -/
theorem mem_getChildDevice {id : String} (hfind : children.findChildDevice id = some child) :
    child.deviceId ∈ (children.getChildDevice selfId (toString deviceId)).map (·.deviceId) ↔
      Doomed selfId deviceId .getChildren child := by
  have hmem : child ∈ children.childDevices := by
    rw [ChildMap.mem_childDevices, children.keyed id child hfind]
    exact hfind
  constructor
  · intro hlisted
    obtain ⟨child', hchild', hid⟩ := List.mem_map.mp hlisted
    have hmem' := (children.getChildDevice_sublist _ _).subset hchild'
    have heq : some child' = some child := by
      rw [← ChildMap.mem_childDevices.mp hmem', ← ChildMap.mem_childDevices.mp hmem]
      exact congrArg _ hid
    cases heq
    unfold ChildMap.getChildDevice at hchild'
    split at hchild'
    · rename_i hall
      exact .inl hall
    · exact .inr (by simpa using (List.mem_filter.mp hchild').2)
  · intro hdoomed
    apply List.mem_map_of_mem
    unfold ChildMap.getChildDevice
    split
    · exact hmem
    · rename_i hall
      have hparent : child.parentId = toString deviceId := hdoomed.resolve_left hall
      exact List.mem_filter.mpr ⟨hmem, by simpa using hparent⟩

theorem onCourse_getChildren :
    OnCourse selfId deviceId
        (.removing ((children.getChildDevice selfId (toString deviceId)).map (·.deviceId)))
        devices children ↔
      OnCourse selfId deviceId .getChildren devices children := by
  constructor
  · exact fun h => ⟨nofun, fun id child hfind hstay =>
      (mem_getChildDevice hfind).mp (h.settled id child hfind hstay)⟩
  · exact fun h => ⟨nofun, fun id child hfind hstay =>
      (mem_getChildDevice hfind).mpr (h.settled id child hfind hstay)⟩

theorem onCourse_removeDevice :
    OnCourse selfId deviceId .done (devices.erase (toString deviceId)) children ↔
      OnCourse selfId deviceId (.removing []) devices children := by
  have hdoomed : ∀ child, Doomed selfId deviceId (.removing []) child ↔
      Doomed selfId deviceId .done child := fun _ => List.mem_nil_iff _
  constructor
  · exact fun h => ⟨nofun, fun id child hfind hstay =>
      (hdoomed child).mpr (h.settled id child hfind hstay)⟩
  · refine fun h => ⟨fun _ => ?_, fun id child hfind hstay =>
      (hdoomed child).mp (h.settled id child hfind hstay)⟩
    rw [OrdMap.getElem?_erase, if_pos rfl]

/-- A step of `delDevice` itself keeps the deletion on its course. -/
theorem onCourse_stepDelete {s s' : YxState} (hstep : stepDelete selfId deviceId s = some s') :
    OnCourse selfId deviceId s'.del s'.mDeviceMap s'.mChildMap ↔
      OnCourse selfId deviceId s.del s.mDeviceMap s.mChildMap := by
  unfold stepDelete at hstep
  split at hstep
  · rename_i hdel
    cases hstep
    rw [hdel]
    exact ⟨fun h => ⟨nofun, h.settled⟩, fun h => ⟨nofun, h.settled⟩⟩
  · rename_i hdel
    cases hstep
    rw [hdel]
    exact onCourse_getChildren
  · rename_i id rest hdel
    split at hstep
    · cases hstep
      rw [hdel]
      exact onCourse_removeChildDevice
    · cases hstep
  · rename_i hdel
    split at hstep
    · cases hstep
      rw [hdel]
      exact onCourse_removeDevice
    · cases hstep
  · cases hstep

/-! ### The rows that are left -/

/-- What the second loop of the synchronisation relies on: it meets every child once, it
makes a child that is not there, and the children of the device that are not going to be
removed are behind it. -/
structure RowsLeft (selfId : String) (deviceId : Nat) (sync : SyncPc) (del : DeletePc)
    (children : ChildMap) : Prop where
  distinct : sync.rowIds.Nodup
  fresh : ∀ id ∈ sync.making, children.findChildDevice id = none
  passed : ∀ id child, children.findChildDevice id = some child →
    child.parentId = toString deviceId →
      Doomed selfId deviceId del child ∨ (sync.Selected ∧ id ∉ sync.rowIds)

/-- Before the second `SELECT`. -/
theorem rowsLeft_before {sync : SyncPc} (hsync : ¬ sync.Selected)
    (hdoomed : ∀ id child, children.findChildDevice id = some child →
      child.parentId = toString deviceId → Doomed selfId deviceId del child) :
    RowsLeft selfId deviceId sync del children where
  distinct := by
    rw [SyncPc.rowIds_of_not_selected hsync]
    exact List.nodup_nil
  fresh := by
    rw [SyncPc.making_of_not_selected hsync]
    exact nofun
  passed id child hfind hparent := .inl (hdoomed id child hfind hparent)

theorem RowsLeft.doomed {sync : SyncPc} (h : RowsLeft selfId deviceId sync del children)
    (hsync : ¬ sync.Selected) {id : String} (hfind : children.findChildDevice id = some child)
    (hparent : child.parentId = toString deviceId) : Doomed selfId deviceId del child :=
  (h.passed id child hfind hparent).resolve_right fun hselected => hsync hselected.1

/-- A step before the second `SELECT` that leaves the children alone. -/
theorem RowsLeft.before {sync sync' : SyncPc} (h : RowsLeft selfId deviceId sync del children)
    (hsync : ¬ sync.Selected) (hsync' : ¬ sync'.Selected) :
    RowsLeft selfId deviceId sync' del children :=
  rowsLeft_before hsync' fun _ _ hfind hparent => h.doomed hsync hfind hparent

theorem nodup_rowIds (db : YxDb) :
    (db.subDeviceInfo.toList.map fun item => toString item.1).Nodup := by
  have hkeys : (db.subDeviceInfo.toList.map (·.1)).Nodup := by
    rw [Std.TreeMap.map_fst_toList_eq_keys]
    exact Std.TreeMap.nodup_keys
  have hinj : Function.Injective fun n : Nat => toString n := fun _ _ heq => Decimal.toString_inj heq
  have htexts := hkeys.map hinj
  rw [List.map_map] at htexts
  exact htexts

/-- What is kept of the rows when a row was handled. -/
theorem RowsLeft.tail {sync sync' : SyncPc} (h : RowsLeft selfId deviceId sync del children)
    (hsync' : sync'.Selected) (hmaking : sync'.making = none)
    (hrows : List.Sublist sync'.rowIds sync.rowIds) :
    RowsLeft selfId deviceId sync' del children where
  distinct := h.distinct.sublist hrows
  fresh := by
    rw [hmaking]
    exact nofun
  passed id child hfind hparent :=
    (h.passed id child hfind hparent).imp_right fun hpassed =>
      ⟨hsync', fun hmem => hpassed.2 (hrows.subset hmem)⟩

/-- A row was handled by storing a child. -/
theorem RowsLeft.store {sync sync' : SyncPc} (h : RowsLeft selfId deviceId sync del children)
    (hsync' : sync'.Selected) (hmaking : sync'.making = none)
    (hrows : sync.rowIds = child.deviceId :: sync'.rowIds) :
    RowsLeft selfId deviceId sync' del (children.addChildDevice child) where
  distinct := by
    have hnodup := h.distinct
    rw [hrows] at hnodup
    exact hnodup.of_cons
  fresh := by
    rw [hmaking]
    exact nofun
  passed id child' hfind hparent := by
    have hnodup := h.distinct
    rw [hrows] at hnodup
    rw [ChildMap.findChildDevice_addChildDevice] at hfind
    split at hfind
    · rename_i hid
      subst hid
      exact .inr ⟨hsync', (List.nodup_cons.mp hnodup).1⟩
    · refine (h.passed id child' hfind hparent).imp_right fun hpassed => ⟨hsync', fun hmem => ?_⟩
      apply hpassed.2
      rw [hrows]
      exact List.mem_cons_of_mem _ hmem

theorem RowsLeft.stepDelete {s s' : YxState}
    (h : RowsLeft selfId deviceId s.sync s.del s.mChildMap)
    (hstep : stepDelete selfId deviceId s = some s') :
    RowsLeft selfId deviceId s'.sync s'.del s'.mChildMap := by
  unfold YxState.stepDelete at hstep
  split at hstep
  · rename_i hdel
    rw [hdel] at h
    cases hstep
    exact ⟨h.distinct, h.fresh, h.passed⟩
  · rename_i hdel
    rw [hdel] at h
    cases hstep
    refine ⟨h.distinct, h.fresh, fun id child hfind hparent => ?_⟩
    exact (h.passed id child hfind hparent).imp_left (mem_getChildDevice hfind).mpr
  · rename_i id rest hdel
    rw [hdel] at h
    split at hstep
    · cases hstep
      refine ⟨h.distinct, fun id' hmaking => ?_, fun id' child hfind hparent => ?_⟩
      · rw [ChildMap.findChildDevice_removeChildDevice, h.fresh id' hmaking]
        exact ite_self _
      · rw [ChildMap.findChildDevice_removeChildDevice] at hfind
        split at hfind
        · cases hfind
        · rename_i hid
          refine (h.passed id' child hfind hparent).imp_left fun hmem => ?_
          refine List.mem_of_ne_of_mem ?_ hmem
          rw [s.mChildMap.keyed id' child hfind]
          exact hid
    · cases hstep
  · rename_i hdel
    rw [hdel] at h
    split at hstep
    · cases hstep
      refine ⟨h.distinct, h.fresh, fun id child hfind hparent => ?_⟩
      exact (h.passed id child hfind hparent).imp_left (List.mem_nil_iff _).mp
    · cases hstep
  · cases hstep

/-! ### The parents of the rows -/

section Served

variable (deviceId : Nat)

/-- The device is in the map, or is the one that is deleted. -/
def Served (devices : Std.TreeMap String Nat) (id : Nat) : Prop :=
  toString id = toString deviceId ∨ (devices[toString id]?).isSome

/-- When the devices could be listed, those that the tables name are served, but for the
rows that are left of the first loop. -/
def ParentsServed (s : YxState) : Prop :=
  match s.sync with
  | .queryDevices | .done => True
  | .deviceRows rest _ => ∀ id, (s.db.deviceInfo[id]?).isSome →
      Served deviceId s.mDeviceMap id ∨ id ∈ rest.map (·.1)
  | .addRow dev rest _ => ∀ id, (s.db.deviceInfo[id]?).isSome →
      Served deviceId s.mDeviceMap id ∨ id ∈ rest.map (·.1) ∨ (s.heap dev).deviceId = toString id
  | .childRows rest => ∀ item ∈ rest, Served deviceId s.mDeviceMap item.2.parentId
  | .findParent _ row rest => Served deviceId s.mDeviceMap row.parentId ∧
      ∀ item ∈ rest, Served deviceId s.mDeviceMap item.2.parentId
  | .addChild child rest => (child.mParentDev = none → child.parentId = toString deviceId) ∧
      ∀ item ∈ rest, Served deviceId s.mDeviceMap item.2.parentId
  | _ => ∀ id, (s.db.deviceInfo[id]?).isSome → Served deviceId s.mDeviceMap id

end Served

theorem Served.insert {id : Nat} (h : Served deviceId devices id) (key : String) (dev : Nat) :
    Served deviceId (devices.insert key dev) id := by
  refine h.imp_right fun hsome => ?_
  rw [OrdMap.getElem?_insert]
  split
  · rfl
  · exact hsome

theorem served_insert_self (id dev : Nat) :
    Served deviceId (devices.insert (toString id) dev) id := by
  right
  rw [OrdMap.getElem?_insert, if_pos rfl]
  rfl

theorem Served.erase {id : Nat} (h : Served deviceId devices id) :
    Served deviceId (devices.erase (toString deviceId)) id := by
  by_cases heq : toString id = toString deviceId
  · exact .inl heq
  · refine .inr ?_
    rw [OrdMap.getElem?_erase, if_neg heq]
    exact h.resolve_left heq

/-- Fewer rows, and no device less but the one that is deleted. -/
theorem ParentsServed.mono {s s' : YxState} (h : ParentsServed deviceId s)
    (hsync : s'.sync = s.sync) (hheap : s'.heap = s.heap)
    (hrows : ∀ id : Nat, (s'.db.deviceInfo[id]?).isSome → (s.db.deviceInfo[id]?).isSome)
    (hserved : ∀ id, Served deviceId s.mDeviceMap id → Served deviceId s'.mDeviceMap id) :
    ParentsServed deviceId s' := by
  unfold ParentsServed at h ⊢
  rw [hsync, hheap]
  cases hpc : s.sync with
  | queryDevices | done => trivial
  | deviceRows rest devList =>
      rw [hpc] at h
      exact fun id hid => (h id (hrows id hid)).imp_left (hserved id)
  | addRow dev rest devList =>
      rw [hpc] at h
      exact fun id hid => (h id (hrows id hid)).imp_left (hserved id)
  | childRows rest =>
      rw [hpc] at h
      exact fun item hitem => hserved _ (h item hitem)
  | findParent id row rest =>
      rw [hpc] at h
      exact ⟨hserved _ h.1, fun item hitem => hserved _ (h.2 item hitem)⟩
  | addChild child rest =>
      rw [hpc] at h
      exact ⟨h.1, fun item hitem => hserved _ (h.2 item hitem)⟩
  | devices | addBack | channels | addChannel | findChannel | queryChildren =>
      rw [hpc] at h
      exact fun id hid => hserved id (h id (hrows id hid))

theorem ParentsServed.stepDelete {s s' : YxState}
    (h : s.listed = true → ParentsServed deviceId s)
    (hstep : stepDelete selfId deviceId s = some s') :
    s'.listed = true → ParentsServed deviceId s' := by
  unfold YxState.stepDelete at hstep
  split at hstep
  · cases hstep
    intro hlisted
    exact (h hlisted).mono rfl rfl (fun _ => YxDb.deviceInfo_delDeviceInfo) fun _ => id
  · cases hstep
    exact h
  · split at hstep
    · cases hstep
      exact h
    · cases hstep
  · split at hstep
    · cases hstep
      exact fun hlisted => (h hlisted).mono rfl rfl (fun _ => id) fun _ => Served.erase
    · cases hstep
  · cases hstep

/-! ### Steps -/

/-- What the runs keep. -/
structure Consistent (selfId : String) (deviceId : Nat) (s : YxState) : Prop where
  rows : RowsLeft selfId deviceId s.sync s.del s.mChildMap
  served : s.listed = true → ParentsServed deviceId s

/-- A step keeps the invariant, and it keeps the deletion on its course exactly if it is
harmless. -/
structure Keeps (selfId : String) (deviceId : Nat) (s : YxState) (thread : YxThread)
    (s' : YxState) : Prop where
  consistent : Consistent selfId deviceId s'
  course : OnCourse selfId deviceId s'.del s'.mDeviceMap s'.mChildMap ↔
    OnCourse selfId deviceId s.del s.mDeviceMap s.mChildMap ∧ Harmless selfId deviceId s thread

variable {s s' : YxState} {env : SyncEnv} {thread : YxThread}

/-- The step leaves the maps alone. -/
structure SameMaps (s s' : YxState) : Prop where
  del : s'.del = s.del
  devices : s'.mDeviceMap = s.mDeviceMap
  children : s'.mChildMap = s.mChildMap

theorem SameMaps.course (hmaps : SameMaps s s') (hharmless : Harmless selfId deviceId s thread) :
    OnCourse selfId deviceId s'.del s'.mDeviceMap s'.mChildMap ↔
      OnCourse selfId deviceId s.del s.mDeviceMap s.mChildMap ∧
        Harmless selfId deviceId s thread := by
  rw [hmaps.del, hmaps.devices, hmaps.children, and_iff_left hharmless]

/-- A step before the second `SELECT` that leaves the maps alone. -/
theorem Consistent.sameMaps (h : Consistent selfId deviceId s) (hmaps : SameMaps s s')
    (hsync : ¬ s.sync.Selected) (hsync' : ¬ s'.sync.Selected)
    (hserved : s'.listed = true → ParentsServed deviceId s')
    (hharmless : Harmless selfId deviceId s thread) : Keeps selfId deviceId s thread s' where
  consistent := by
    refine ⟨?_, hserved⟩
    rw [hmaps.del, hmaps.children]
    exact h.rows.before hsync hsync'
  course := hmaps.course hharmless

theorem Consistent.addDevice (h : Consistent selfId deviceId s) {dev : Nat} {sync' : SyncPc}
    (hsync : ¬ s.sync.Selected) (hsync' : ¬ sync'.Selected)
    (hserved : s.listed = true → ParentsServed deviceId { s.addDevice dev with sync := sync' })
    (hharmless : Harmless selfId deviceId s thread ↔
      ((s.heap dev).deviceId = toString deviceId → s.del ≠ .done)) :
    Keeps selfId deviceId s thread { s.addDevice dev with sync := sync' } where
  consistent := ⟨h.rows.before hsync hsync', hserved⟩
  course := (onCourse_addDevice _ dev).trans (and_congr_right fun _ => hharmless.symm)

/-! ### The rows of the devices -/

theorem Consistent.queryDevices (h : Consistent selfId deviceId s) (hpc : s.sync = .queryDevices)
    (hstep : s.stepSync env = some s') : Keeps selfId deviceId s (.sync env) s' := by
  unfold stepSync at hstep
  rw [hpc] at hstep
  cases hstep
  refine h.sameMaps ⟨rfl, rfl, rfl⟩ (by rw [hpc]; exact id) id ?_ (by rw [Harmless, hpc]; trivial)
  rintro (hok : env.ok = true) id hid
  right
  rw [if_pos hok, Std.TreeMap.map_fst_toList_eq_keys, Std.TreeMap.mem_keys,
    Std.TreeMap.mem_iff_isSome_getElem?]
  exact hid

theorem Consistent.deviceRows (h : Consistent selfId deviceId s)
    {rest : List (Nat × DeviceRow)} {devList : List Nat} (hpc : s.sync = .deviceRows rest devList)
    (hstep : s.stepSync env = some s') : Keeps selfId deviceId s (.sync env) s' := by
  have hserved := h.served
  have hsync : ¬ s.sync.Selected := by
    rw [hpc]
    exact id
  have hharmless : Harmless selfId deviceId s (.sync env) := by
    rw [Harmless, hpc]
    trivial
  unfold stepSync at hstep
  simp only [ParentsServed, hpc] at hserved hstep
  cases rest with
  | nil =>
      cases hstep
      exact h.sameMaps ⟨rfl, rfl, rfl⟩ hsync id
        (fun hlisted id hid => (hserved hlisted id hid).resolve_right List.not_mem_nil) hharmless
  | cons item rest =>
      -- The head is either served already or the device that is added next.
      have hhead : ∀ {P : Nat → Prop}, P item.1 → s.listed = true →
          ∀ id : Nat, (s.db.deviceInfo[id]?).isSome →
            Served deviceId s.mDeviceMap id ∨ id ∈ rest.map (·.1) ∨ P id := by
        intro P hitem hlisted id hid
        rcases hserved hlisted id hid with hid | hmem
        · exact .inl hid
        · rcases List.mem_cons.mp hmem with rfl | hmem
          · exact .inr (.inr hitem)
          · exact .inr (.inl hmem)
      dsimp only at hstep
      split at hstep
      · rename_i dev hfind
        have hitem : Served deviceId s.mDeviceMap item.1 := .inr (by rw [hfind]; rfl)
        have hrest : s.listed = true → ∀ id : Nat, (s.db.deviceInfo[id]?).isSome →
            Served deviceId s.mDeviceMap id ∨ id ∈ rest.map (·.1) := fun hlisted id hid => by
          rcases hhead hitem hlisted id hid with hid | hmem | hid
          · exact .inl hid
          · exact .inr hmem
          · exact .inl hid
        split at hstep <;> cases hstep <;>
          exact h.sameMaps ⟨rfl, rfl, rfl⟩ hsync id hrest hharmless
      · cases hstep
        refine h.sameMaps ⟨rfl, rfl, rfl⟩ hsync id (hhead ?_) hharmless
        show (if s.nextDev = s.nextDev then _ else _ : YxDevice).deviceId = _
        rw [if_pos rfl]

theorem Consistent.addRow (h : Consistent selfId deviceId s) {jsonNvr : Nat}
    {rest : List (Nat × DeviceRow)} {devList : List Nat}
    (hpc : s.sync = .addRow jsonNvr rest devList) (hstep : s.stepSync env = some s') :
    Keeps selfId deviceId s (.sync env) s' := by
  have hserved := h.served
  unfold stepSync at hstep
  simp only [ParentsServed, hpc] at hserved hstep
  cases hstep
  refine h.addDevice (by rw [hpc]; exact id) id ?_ (by rw [Harmless, hpc])
  intro hlisted id hid
  rcases hserved hlisted id hid with hserved | hmem | hid
  · exact .inl (hserved.insert _ _)
  · exact .inr hmem
  · refine .inl ?_
    show Served deviceId (s.mDeviceMap.insert (s.heap jsonNvr).deviceId jsonNvr) id
    rw [hid]
    exact served_insert_self id jsonNvr

/-! ### The devices and their channels -/

theorem parentsServed_main (hsync : s.sync.Main) :
    ParentsServed deviceId s ↔
      ∀ id : Nat, (s.db.deviceInfo[id]?).isSome → Served deviceId s.mDeviceMap id := by
  unfold ParentsServed
  cases hpc : s.sync with
  | devices | addBack | channels | addChannel | findChannel | queryChildren => exact Iff.rfl
  | queryDevices | deviceRows | addRow | childRows | findParent | addChild | done =>
      rw [hpc] at hsync
      exact hsync.elim

/-- A step of the main loop that leaves the maps alone. -/
theorem Consistent.main (h : Consistent selfId deviceId s) (hmaps : SameMaps s s')
    (hsync : s.sync.Main) (hsync' : s'.sync.Main) (hlisted : s'.listed = s.listed)
    (hrows : s'.db.deviceInfo = s.db.deviceInfo) (hharmless : Harmless selfId deviceId s thread) :
    Keeps selfId deviceId s thread s' := by
  refine h.sameMaps hmaps hsync.not_selected hsync'.not_selected ?_ hharmless
  rw [hlisted, parentsServed_main hsync', hmaps.devices, hrows, ← parentsServed_main hsync]
  exact h.served

theorem Consistent.findDevices (h : Consistent selfId deviceId s) {devList : List Nat}
    (hpc : s.sync = .devices devList) (hstep : s.stepSync env = some s') :
    Keeps selfId deviceId s (.sync env) s' := by
  have hsync : s.sync.Main := by
    rw [hpc]
    trivial
  have hharmless : Harmless selfId deviceId s (.sync env) := by
    rw [Harmless, hpc]
    trivial
  unfold stepSync at hstep
  rw [hpc] at hstep
  cases devList with
  | nil =>
      cases hstep
      exact h.main ⟨rfl, rfl, rfl⟩ hsync trivial rfl rfl hharmless
  | cons it devList =>
      dsimp only at hstep
      split at hstep <;> cases hstep <;>
        exact h.main ⟨rfl, rfl, rfl⟩ hsync trivial rfl rfl hharmless

theorem Consistent.addBack (h : Consistent selfId deviceId s) {it : Nat} {devList : List Nat}
    (hpc : s.sync = .addBack it devList) (hstep : s.stepSync env = some s') :
    Keeps selfId deviceId s (.sync env) s' := by
  have hserved := h.served
  unfold stepSync at hstep
  simp only [ParentsServed, hpc] at hserved hstep
  cases hstep
  exact h.addDevice (by rw [hpc]; exact id) id
    (fun hlisted id hid => (hserved hlisted id hid).insert _ _) (by rw [Harmless, hpc])

theorem Consistent.channels (h : Consistent selfId deviceId s) {dev it : Nat}
    {channelList : List JsonChildDevic} {devList : List Nat}
    (hpc : s.sync = .channels dev it channelList devList) (hstep : s.stepSync env = some s') :
    Keeps selfId deviceId s (.sync env) s' := by
  have hsync : s.sync.Main := by
    rw [hpc]
    trivial
  have hharmless : Harmless selfId deviceId s (.sync env) := by
    rw [Harmless, hpc]
    trivial
  unfold stepSync at hstep
  rw [hpc] at hstep
  cases channelList with
  | nil =>
      cases hstep
      exact h.main ⟨rfl, rfl, rfl⟩ hsync trivial rfl rfl hharmless
  | cons item channelList =>
      dsimp only at hstep
      split at hstep <;> cases hstep <;>
        exact h.main ⟨rfl, rfl, rfl⟩ hsync trivial rfl rfl hharmless

theorem Consistent.addChannel (h : Consistent selfId deviceId s) {dev it : Nat}
    {item : JsonChildDevic} {channelList : List JsonChildDevic} {devList : List Nat}
    (hpc : s.sync = .addChannel dev it item channelList devList)
    (hstep : s.stepSync env = some s') : Keeps selfId deviceId s (.sync env) s' := by
  unfold stepSync at hstep
  rw [hpc] at hstep
  cases hstep
  refine h.main ⟨rfl, rfl, rfl⟩ (by rw [hpc]; trivial) trivial rfl ?_ (by rw [Harmless, hpc]; trivial)
  dsimp only
  split
  · exact YxDb.deviceInfo_addSubDeviceInfo _ _ _ _ _ _ _
  · rfl

/-- The channel keeps its id and its parents. -/
theorem Consistent.findChannel (h : Consistent selfId deviceId s) {id dev it : Nat}
    {item : JsonChildDevic} {channelList : List JsonChildDevic} {devList : List Nat}
    (hpc : s.sync = .findChannel id dev it item channelList devList)
    (hstep : s.stepSync env = some s') : Keeps selfId deviceId s (.sync env) s' := by
  have hsync : s.sync.Main := by
    rw [hpc]
    trivial
  have hharmless : Harmless selfId deviceId s (.sync env) := by
    rw [Harmless, hpc]
    trivial
  unfold stepSync at hstep
  rw [hpc] at hstep
  dsimp only at hstep
  split at hstep
  · rename_i child hfind
    cases hstep
    refine ⟨⟨?_, fun hlisted => ?_⟩, ?_⟩
    · refine rowsLeft_before nofun fun id' child' hfind' hparent => ?_
      rw [addChildDevice, ChildMap.findChildDevice_addChildDevice] at hfind'
      split at hfind'
      · cases hfind'
        have hdoomed : Doomed selfId deviceId s.del child :=
          h.rows.doomed hsync.not_selected hfind hparent
        exact hdoomed
      · exact h.rows.doomed hsync.not_selected hfind' hparent
    · refine (parentsServed_main ?_).mpr ((parentsServed_main hsync).mp (h.served hlisted))
      trivial
    · rw [and_iff_left hharmless]
      refine (onCourse_addChildDevice ?_).trans (and_iff_left_of_imp fun hcourse => ?_)
      · intro old hold hsettled
        cases find_unique hfind hold
        exact hsettled
      · exact hcourse.settled _ child hfind
  · cases hstep
    exact h.main ⟨rfl, rfl, rfl⟩ hsync trivial rfl rfl hharmless

/-! ### The rows of the channels -/

theorem Consistent.queryChildren (h : Consistent selfId deviceId s)
    (hpc : s.sync = .queryChildren) (hstep : s.stepSync env = some s') :
    Keeps selfId deviceId s (.sync env) s' := by
  have hrows := h.rows
  have hserved := h.served
  unfold stepSync at hstep
  simp only [ParentsServed, hpc] at hrows hserved hstep
  cases hstep
  refine ⟨⟨⟨?_, nofun, ?_⟩, ?_⟩, SameMaps.course ⟨rfl, rfl, rfl⟩ (by rw [Harmless, hpc]; trivial)⟩
  · cases env.ok with
    | false => exact List.nodup_nil
    | true => exact nodup_rowIds s.db
  · exact fun id child hfind hparent => .inl (hrows.doomed nofun hfind hparent)
  · intro hlisted item hitem
    split at hitem
    · -- The row has a device by the foreign key.
      have hrow := Std.TreeMap.mem_toList_iff_getElem?_eq_some.mp hitem
      exact hserved hlisted _ (s.db.fkSubDeviceParent hrow)
    · cases hitem

/-- A child of an NVR takes over its row. -/
theorem Consistent.setRow (h : Consistent selfId deviceId s) {id : Nat} {row : SubDeviceRow}
    {rest : List (Nat × SubDeviceRow)} (hpc : s.sync = .childRows ((id, row) :: rest))
    (hfind : s.mChildMap.findChildDevice (toString id) = some child) (hnvr : s.HasJsonNvr child) :
    OnCourse selfId deviceId s.del s.mDeviceMap (s.mChildMap.addChildDevice (setRow child row)) ↔
      OnCourse selfId deviceId s.del s.mDeviceMap s.mChildMap ∧
        Harmless selfId deviceId s (.sync env) := by
  have hparent : child.mParentDev ≠ none := by
    obtain ⟨dev, hdev, -⟩ := hnvr
    rw [Option.mem_def.mp hdev]
    exact nofun
  rw [Harmless, hpc]
  refine (onCourse_addChildDevice ?_).trans (and_congr_right fun _ => ?_)
  · intro old hold _
    cases find_unique hfind hold
    -- The row is still ahead, so the child has not been passed.
    rintro (hdevice | hnone)
    · refine (h.rows.passed _ child hfind hdevice).resolve_right fun hpassed => ?_
      rw [hpc] at hpassed
      exact hpassed.2 List.mem_cons_self
    · exact absurd hnone hparent
  · constructor
    · intro hsettled child' hfind' _ hdevice
      rw [hfind] at hfind'
      cases hfind'
      exact hsettled (.inl hdevice)
    · rintro hharmless (hdevice | hnone)
      · exact hharmless child hfind hnvr hdevice
      · exact absurd hnone hparent

theorem Consistent.childRows (h : Consistent selfId deviceId s)
    {rest : List (Nat × SubDeviceRow)} (hpc : s.sync = .childRows rest)
    (hstep : s.stepSync env = some s') : Keeps selfId deviceId s (.sync env) s' := by
  have hrows := h.rows
  have hserved := h.served
  unfold stepSync at hstep
  simp only [ParentsServed, hpc] at hrows hserved hstep
  cases rest with
  | nil =>
      cases hstep
      exact ⟨⟨hrows.tail trivial rfl (List.Sublist.refl _), fun _ => trivial⟩,
        SameMaps.course ⟨rfl, rfl, rfl⟩ (by rw [Harmless, hpc]; trivial)⟩
  | cons item rest =>
      have hparents := fun hlisted => List.forall_mem_cons.mp (hserved hlisted)
      dsimp only at hstep
      split at hstep
      · rename_i child hfind
        split at hstep
        · rename_i hnvr
          cases hstep
          refine ⟨⟨hrows.store trivial rfl ?_, fun hlisted => (hparents hlisted).2⟩,
            h.setRow hpc hfind hnvr⟩
          rw [YxState.setRow, s.mChildMap.keyed _ child hfind]
          rfl
        · rename_i hnvr
          cases hstep
          refine ⟨⟨hrows.tail trivial rfl (List.sublist_cons_self _ _),
            fun hlisted => (hparents hlisted).2⟩, SameMaps.course ⟨rfl, rfl, rfl⟩ ?_⟩
          rw [Harmless, hpc]
          intro child' hfind' hnvr'
          rw [hfind] at hfind'
          cases hfind'
          exact absurd hnvr' hnvr
      · rename_i hfind
        cases hstep
        refine ⟨⟨⟨hrows.distinct, ?_, hrows.passed⟩, hparents⟩, SameMaps.course ⟨rfl, rfl, rfl⟩ ?_⟩
        · rintro id ⟨⟩
          exact hfind
        · rw [Harmless, hpc]
          intro child' hfind'
          rw [hfind] at hfind'
          cases hfind'

theorem Consistent.findParent (h : Consistent selfId deviceId s) {id : Nat} {row : SubDeviceRow}
    {rest : List (Nat × SubDeviceRow)} (hpc : s.sync = .findParent id row rest)
    (hstep : s.stepSync env = some s') : Keeps selfId deviceId s (.sync env) s' := by
  have hrows := h.rows
  have hserved := h.served
  unfold stepSync at hstep
  simp only [ParentsServed, hpc] at hrows hserved hstep
  cases hstep
  refine ⟨⟨⟨hrows.distinct, hrows.fresh, hrows.passed⟩, fun hlisted => ?_⟩,
    SameMaps.course ⟨rfl, rfl, rfl⟩ (by rw [Harmless, hpc]; trivial)⟩
  refine ⟨fun hnone => (hserved hlisted).1.resolve_right fun hsome => ?_, (hserved hlisted).2⟩
  have habsent : s.mDeviceMap[toString row.parentId]? = none := hnone
  rw [habsent] at hsome
  cases hsome

theorem Consistent.addChild (h : Consistent selfId deviceId s)
    {rest : List (Nat × SubDeviceRow)} (hpc : s.sync = .addChild child rest)
    (hstep : s.stepSync env = some s') : Keeps selfId deviceId s (.sync env) s' := by
  have hrows := h.rows
  have hserved := h.served
  unfold stepSync at hstep
  simp only [ParentsServed, hpc] at hrows hserved hstep
  cases hstep
  refine ⟨⟨hrows.store trivial rfl rfl, fun hlisted => (hserved hlisted).2⟩, ?_⟩
  rw [Harmless, hpc]
  refine (onCourse_addChildDevice ?_).trans (and_congr_right fun _ => ?_)
  · intro old hold
    rw [hrows.fresh _ rfl] at hold
    cases hold
  · refine ⟨fun hsettled hstored => hsettled (hstored.imp_right And.right), ?_⟩
    rintro hharmless (hdevice | hnone)
    · exact hharmless (.inl hdevice)
    · cases hlisted : s.listed with
      | false => exact hharmless (.inr ⟨hlisted, hnone⟩)
      | true => exact hharmless (.inl ((hserved hlisted).1 hnone))

/-! ### Runs -/

theorem Starting.consistent (selfId : String) (deviceId : Nat) (h : s.Starting) :
    Consistent selfId deviceId s where
  rows := by
    rw [h.sync, h.del]
    exact rowsLeft_before nofun fun _ _ _ hparent => .inr hparent
  served _ := by
    unfold ParentsServed
    rw [h.sync]
    trivial

theorem Consistent.stepSync (h : Consistent selfId deviceId s)
    (hstep : s.stepSync env = some s') : Keeps selfId deviceId s (.sync env) s' := by
  cases hpc : s.sync with
  | queryDevices => exact h.queryDevices hpc hstep
  | deviceRows => exact h.deviceRows hpc hstep
  | addRow => exact h.addRow hpc hstep
  | devices => exact h.findDevices hpc hstep
  | addBack => exact h.addBack hpc hstep
  | channels => exact h.channels hpc hstep
  | addChannel => exact h.addChannel hpc hstep
  | findChannel => exact h.findChannel hpc hstep
  | queryChildren => exact h.queryChildren hpc hstep
  | childRows => exact h.childRows hpc hstep
  | findParent => exact h.findParent hpc hstep
  | addChild => exact h.addChild hpc hstep
  | done =>
      unfold YxState.stepSync at hstep
      rw [hpc] at hstep
      cases hstep

theorem Consistent.step (h : Consistent selfId deviceId s)
    (hstep : step selfId deviceId s thread = some s') : Keeps selfId deviceId s thread s' := by
  cases thread with
  | sync env => exact h.stepSync hstep
  | delete =>
      exact ⟨⟨h.rows.stepDelete hstep, ParentsServed.stepDelete h.served hstep⟩,
        (onCourse_stepDelete hstep).trans (and_iff_left trivial).symm⟩

/-- At the end nothing is going to be removed any more. -/
theorem Finished.wins_iff (selfId : String) (h : s.Finished) :
    s.DeletionWins deviceId ↔ OnCourse selfId deviceId s.del s.mDeviceMap s.mChildMap := by
  rw [h.del]
  constructor
  · intro hwins
    refine ⟨fun _ => hwins.device, ?_⟩
    rintro id child hfind (hdevice | hnone)
    · exact hwins.children id child hfind hdevice
    · have hsome := hwins.parents id child hfind
      rw [hnone] at hsome
      cases hsome
  · intro hcourse
    refine ⟨hcourse.device rfl, fun id child hfind hdevice => ?_, fun id child hfind => ?_⟩
    · exact hcourse.settled id child hfind (.inl hdevice)
    · cases hparent : child.mParentDev with
      | none => exact (hcourse.settled id child hfind (.inr hparent)).elim
      | some dev => rfl

/-- The children without a parent device are among those that the deletion removes. -/
def OrphansDeleted (selfId : String) (deviceId : Nat) (s : YxState) : Prop :=
  ∀ id child, s.mChildMap.findChildDevice id = some child → child.mParentDev = none →
    child.parentId = toString deviceId ∨ toString deviceId = selfId

theorem onCourse_delete :
    OnCourse selfId deviceId .delete s.mDeviceMap s.mChildMap ↔
      s.OrphansDeleted selfId deviceId := by
  constructor
  · intro h id child hfind hnone
    rcases h.settled id child hfind (.inr hnone) with hall | hparent
    · exact .inr (hall.resolve_left Nat.repr_ne_empty)
    · exact .inl hparent
  · intro h
    refine ⟨nofun, ?_⟩
    rintro id child hfind (hdevice | hnone)
    · exact .inr hdevice
    · rcases h id child hfind hnone with hparent | hself
      · exact .inr hparent
      · exact .inl (.inr hself)

/-- In every interleaving of a synchronisation with a deletion, the deletion wins exactly if
the children without a parent device were among those it removes and every step of the
synchronisation is harmless. -/
theorem deletionWins_iff {s t : YxState} {threads : List YxThread} (hstart : s.Starting)
    (hrun : Lts.exec (step selfId deviceId) s threads = some t) (hend : t.Finished) :
    t.DeletionWins deviceId ↔
      s.OrphansDeleted selfId deviceId ∧
        Lts.Guarded (step selfId deviceId) (Harmless selfId deviceId) s threads := by
  have hrunIff := Lts.exec_iff_guarded (fun _ _ _ h hstep => (Consistent.step h hstep).consistent)
    (fun _ _ _ h hstep => (Consistent.step h hstep).course) (hstart.consistent selfId deviceId) hrun
  rw [hend.wins_iff selfId, hrunIff, hstart.del]
  exact and_congr_left fun _ => onCourse_delete

/-! ### Two interleavings -/

def gateRow : DeviceRow where
  devType := "NVR"
  protocol := "JSON"
  deviceIp := "192.168.1.10"
  devicePort := 8000
  deviceUser := "admin"
  devicePswd := "admin"
  deviceName := "gate"
  gbId := "34020000001180000001"

/-- Device 7 with its channel 11, in the tables and in the maps. -/
def gateState : YxState where
  db :=
    { deviceInfo := (∅ : Std.TreeMap Nat DeviceRow).insert 7 gateRow
      subDeviceInfo := (∅ : Std.TreeMap Nat SubDeviceRow).insert 11
        ⟨7, "34020000001320000001", 1, "door"⟩
      fkSubDeviceParent := by
        intro id row h
        rcases OrdMap.insert_cases h with ⟨-, rfl⟩ | ⟨-, hnone⟩
        · rfl
        · simp at hnone }
  mDeviceMap := (∅ : Std.TreeMap String Nat).insert "7" 0
  mChildMap := ChildMap.empty.addChildDevice
    (rowChild 11 ⟨7, "34020000001320000001", 1, "door"⟩ (some 0))
  heap := fun _ => ⟨"7", true, gateRow⟩
  nextDev := 1
  sync := .queryDevices
  del := .delete
  listed := false

/-- The whole deletion after the devices were listed. -/
def lateDeletion : List YxThread :=
  List.replicate 2 (.sync {}) ++ List.replicate 4 .delete ++ List.replicate 6 (.sync {})

/-- The whole deletion before the devices are listed. -/
def earlyDeletion : List YxThread := List.replicate 4 .delete ++ List.replicate 5 (.sync {})

theorem starting_gateState : gateState.Starting := ⟨rfl, rfl⟩

theorem deletionWins_earlyDeletion :
    ∃ t, Lts.exec (step "34020000002000000001" 7) gateState earlyDeletion = some t ∧
      (t.DeletionWins 7 ↔
        gateState.OrphansDeleted "34020000002000000001" 7 ∧
          Lts.Guarded (step "34020000002000000001" 7) (Harmless "34020000002000000001" 7)
            gateState earlyDeletion) := by
  have hend : (Lts.exec (step "34020000002000000001" 7) gateState earlyDeletion).any
      (fun t => t.sync = .done ∧ t.del = .done) = true := by decide +kernel
  obtain ⟨t, hrun, hdone⟩ := (Option.any_eq_true _ _).mp hend
  obtain ⟨hsync, hdel⟩ := of_decide_eq_true hdone
  exact ⟨t, hrun, deletionWins_iff starting_gateState hrun ⟨hsync, hdel⟩⟩

/-- Device 7 is in the map again. -/
theorem lateDeletion_undone :
    ∃ t, Lts.exec (step "34020000002000000001" 7) gateState lateDeletion = some t ∧
      t.Finished ∧ ¬ t.DeletionWins 7 := by
  have hend : (Lts.exec (step "34020000002000000001" 7) gateState lateDeletion).any
      (fun t => (t.sync = .done ∧ t.del = .done) ∧ t.mDeviceMap["7"]? = some 0) = true := by
    decide +kernel
  obtain ⟨t, hrun, hdone⟩ := (Option.any_eq_true _ _).mp hend
  obtain ⟨⟨hsync, hdel⟩, hback⟩ := of_decide_eq_true hdone
  refine ⟨t, hrun, ⟨hsync, hdel⟩, fun hwins => ?_⟩
  have hgone : t.mDeviceMap["7"]? = none := hwins.device
  rw [hback] at hgone
  cases hgone

end YxState

end SignalingServer
