import SignalingServer.DeviceMng.JsonDevice
import SignalingServer.Lib.OrdMap

/-!
The table of child devices (deviceMng.cpp, BaseDevice.cpp). A child is stored
under its database id; its GB id is a second identifier that only a scan over
the table resolves. Parent devices are objects on a heap, since a child may
refer to an NVR that is not in the device map.
-/

namespace SignalingServer

/-- `JsonChildDevic` with the defaults of its constructor. -/
structure JsonChildDevic where
  deviceId : String
  mParentDev : Option Nat := none
  name : String := ""
  status : Int := 0
  parentId : String := ""
  childIp : String := ""
  mGBID : String := ""
  channel : Int := -1
  ptzCmd : Int := -1
  deriving DecidableEq, Repr

/-- `mChildMap`: every child is stored under its own id. -/
structure ChildMap where
  map : Std.TreeMap String JsonChildDevic
  keyed : ∀ (id : String) (child : JsonChildDevic), map[id]? = some child → child.deviceId = id

namespace ChildMap

def empty : ChildMap where
  map := ∅
  keyed := by
    intro id child h
    simp at h

/-- `DeviceMng::findChildDevice`. -/
def findChildDevice (t : ChildMap) (id : String) : Option JsonChildDevic := t.map[id]?

/-- `DeviceMng::findChildDeviceByGBID`: the first child in key order with the GB id. -/
def findChildDeviceByGBID (t : ChildMap) (gbId : String) : Option JsonChildDevic :=
  (t.map.toList.find? fun item => item.2.mGBID == gbId).map (·.2)

/-- `DeviceMng::addChildDevice`, also the write to a child that is in the table. -/
def addChildDevice (t : ChildMap) (child : JsonChildDevic) : ChildMap where
  map := t.map.insert child.deviceId child
  keyed := by
    intro id child' h
    rcases OrdMap.insert_cases h with ⟨rfl, rfl⟩ | ⟨-, h⟩
    · rfl
    · exact t.keyed id child' h

/-- `DeviceMng::removeChildDevice` of an id that is in the table. -/
def removeChildDevice (t : ChildMap) (id : String) : ChildMap where
  map := t.map.erase id
  keyed := by
    intro id' child h
    rw [OrdMap.getElem?_erase] at h
    split at h
    · cases h
    · exact t.keyed id' child h

theorem findChildDeviceByGBID_eq_some {t : ChildMap} {gbId : String} {child : JsonChildDevic}
    (h : t.findChildDeviceByGBID gbId = some child) :
    t.findChildDevice child.deviceId = some child ∧ child.mGBID = gbId := by
  obtain ⟨⟨id, child'⟩, hfind, rfl⟩ := Option.map_eq_some_iff.mp h
  have hmem := Std.TreeMap.mem_toList_iff_getElem?_eq_some.mp (List.mem_of_find?_eq_some hfind)
  have hgb : child'.mGBID = gbId := by simpa using List.find?_some hfind
  have hid := t.keyed id child' hmem
  subst hid
  exact ⟨hmem, hgb⟩

theorem findChildDeviceByGBID_eq_none {t : ChildMap} {gbId : String}
    (h : t.findChildDeviceByGBID gbId = none) {id : String} {child : JsonChildDevic}
    (hchild : t.findChildDevice id = some child) : child.mGBID ≠ gbId := by
  have hnone := Option.map_eq_none_iff.mp h
  have hmem := Std.TreeMap.mem_toList_iff_getElem?_eq_some.mpr hchild
  simpa using List.find?_eq_none.mp hnone (id, child) hmem

/-- GB ids name at most one child. -/
def DistinctGBIDs (t : ChildMap) : Prop :=
  ∀ id id' child child', t.findChildDevice id = some child →
    t.findChildDevice id' = some child' → child.mGBID = child'.mGBID → id = id'

/-- With distinct GB ids the scan finds the child that has the GB id. -/
theorem DistinctGBIDs.findChildDeviceByGBID {t : ChildMap} (ht : t.DistinctGBIDs) {id : String}
    {child : JsonChildDevic} (hchild : t.findChildDevice id = some child) :
    t.findChildDeviceByGBID child.mGBID = some child := by
  cases h : t.findChildDeviceByGBID child.mGBID with
  | none => exact absurd rfl (findChildDeviceByGBID_eq_none h hchild)
  | some child' =>
      obtain ⟨hmem, hgb⟩ := findChildDeviceByGBID_eq_some h
      have hid := ht child'.deviceId id child' child hmem hchild hgb
      rw [hid, hchild] at hmem
      exact congrArg some (Option.some.inj hmem).symm

theorem findChildDevice_addChildDevice (t : ChildMap) (child : JsonChildDevic) (id : String) :
    (t.addChildDevice child).findChildDevice id =
      if id = child.deviceId then some child else t.findChildDevice id :=
  OrdMap.getElem?_insert t.map child.deviceId id child

theorem findChildDevice_removeChildDevice (t : ChildMap) (deviceId id : String) :
    (t.removeChildDevice deviceId).findChildDevice id =
      if id = deviceId then none else t.findChildDevice id :=
  OrdMap.getElem?_erase t.map deviceId id

@[simp] theorem findChildDevice_empty (id : String) : empty.findChildDevice id = none := by
  simp [empty, findChildDevice]

theorem distinctGBIDs_single (child : JsonChildDevic) :
    (empty.addChildDevice child).DistinctGBIDs := by
  intro id id' c c' h h' _
  rw [findChildDevice_addChildDevice] at h h'
  split at h
  · split at h'
    · simp_all
    · simp at h'
  · simp at h

end ChildMap

end SignalingServer
