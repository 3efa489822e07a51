import SignalingServer.DeviceMng.DeviceMng
import SignalingServer.Lib.TreeSearch
import SignalingServer.Media.MediaMng

/-!
The virtual organisations of `DeviceMng` (deviceMng.cpp), and what a catalog
query selects: the organisations below the id that it names, and the children
that have it as parent id.
-/

namespace SignalingServer

/-- `VirtualOrganization`. -/
structure VirtualOrganization where
  deviceID : String
  name : String
  parentID : String
  businessGroupID : String
  deriving DecidableEq, Repr

/-- `mVoMap`: every organisation is stored under its own id. -/
structure VoMap where
  map : Std.TreeMap String VirtualOrganization
  keyed : ∀ (id : String) (vo : VirtualOrganization), map[id]? = some vo → vo.deviceID = id

namespace VoMap

def empty : VoMap where
  map := ∅
  keyed := by
    intro id vo h
    simp at h

/-- `DeviceMng::findVirtualOrganization`. -/
def findVirtualOrganization (t : VoMap) (id : String) : Option VirtualOrganization := t.map[id]?

/-- `DeviceMng::addVirtualOrganization`, also the write to an organisation that
is in the table. -/
def addVirtualOrganization (t : VoMap) (vo : VirtualOrganization) : VoMap where
  map := t.map.insert vo.deviceID vo
  keyed := by
    intro id vo' h
    rcases OrdMap.insert_cases h with ⟨rfl, rfl⟩ | ⟨-, h⟩
    · rfl
    · exact t.keyed id vo' h

/-- The organisations in key order. -/
def organizations (t : VoMap) : List VirtualOrganization := t.map.toList.map (·.2)

/-- `DeviceMng::getVirtualOrganization`. -/
def getVirtualOrganization (t : VoMap) (id : String) : List VirtualOrganization :=
  if id = "" then t.organizations
  else
    TreeSearch.search VirtualOrganization.deviceID VirtualOrganization.parentID t.organizations id

/-- The loop over `deviceQueue`, for a number of rounds. -/
def voRounds (t : VoMap) (id : String) (fuel : Nat) :
    TreeSearch.State String VirtualOrganization :=
  TreeSearch.rounds VirtualOrganization.deviceID VirtualOrganization.parentID t.organizations fuel
    (TreeSearch.start id)

theorem findVirtualOrganization_addVirtualOrganization (t : VoMap) (vo : VirtualOrganization)
    (id : String) :
    (t.addVirtualOrganization vo).findVirtualOrganization id =
      if id = vo.deviceID then some vo else t.findVirtualOrganization id :=
  OrdMap.getElem?_insert t.map vo.deviceID id vo

theorem mem_organizations {t : VoMap} {vo : VirtualOrganization} :
    vo ∈ t.organizations ↔ t.findVirtualOrganization vo.deviceID = some vo := by
  constructor
  · intro hvo
    obtain ⟨⟨id, vo'⟩, hmem, rfl⟩ := List.mem_map.mp hvo
    have hfind := Std.TreeMap.mem_toList_iff_getElem?_eq_some.mp hmem
    rw [findVirtualOrganization, t.keyed id vo' hfind]
    exact hfind
  · intro hfind
    have hmem := Std.TreeMap.mem_toList_iff_getElem?_eq_some.mpr hfind
    exact List.mem_map.mpr ⟨(vo.deviceID, vo), hmem, rfl⟩

theorem eq_of_deviceID {t : VoMap} :
    ∀ vo ∈ t.organizations, ∀ vo' ∈ t.organizations, vo.deviceID = vo'.deviceID → vo = vo' := by
  intro vo hvo vo' hvo' hid
  have hfind := mem_organizations.mp hvo
  rw [hid, mem_organizations.mp hvo'] at hfind
  exact (Option.some.inj hfind).symm

theorem nodup_organizations (t : VoMap) : t.organizations.Nodup := by
  refine List.Pairwise.map _ ?_
    (List.Pairwise.and_mem.mp (Std.TreeMap.distinct_keys_toList (t := t.map)))
  rintro ⟨id, vo⟩ ⟨id', vo'⟩ ⟨hmem, hmem', hne⟩ heq
  have hid := t.keyed id vo (Std.TreeMap.mem_toList_iff_getElem?_eq_some.mp hmem)
  have hid' := t.keyed id' vo' (Std.TreeMap.mem_toList_iff_getElem?_eq_some.mp hmem')
  have hsame : vo = vo' := heq
  subst hid hid' hsame
  exact hne Std.ReflCmp.compare_self

/-- A query selects no more organisations than there are. -/
theorem getVirtualOrganization_subperm (t : VoMap) (id : String) :
    List.Subperm (t.getVirtualOrganization id) t.organizations := by
  unfold getVirtualOrganization
  split
  · exact List.Subperm.refl _
  · exact TreeSearch.search_subperm

theorem getVirtualOrganization_perm_iff (t : VoMap) (id : String) :
    List.Perm (t.getVirtualOrganization id) t.organizations ↔
      t.organizations ⊆ t.getVirtualOrganization id :=
  ⟨fun hperm => hperm.symm.subset, fun hsub =>
    (t.getVirtualOrganization_subperm id).antisymm (t.nodup_organizations.subperm hsub)⟩

/-- The organisation has a chain of parents that leads to the id, which is not its own. -/
def Below (t : VoMap) (id : String) (vo : VirtualOrganization) : Prop :=
  TreeSearch.Below VirtualOrganization.deviceID VirtualOrganization.parentID t.organizations id vo ∧
    vo.deviceID ≠ id

theorem mem_getVirtualOrganization {t : VoMap} {id : String} (hid : id ≠ "")
    {vo : VirtualOrganization} : vo ∈ t.getVirtualOrganization id ↔ t.Below id vo := by
  rw [getVirtualOrganization, if_neg hid]
  exact TreeSearch.mem_search t.eq_of_deviceID

/-- A query selects every organisation when it names no id, or an id above all of them. -/
theorem organizations_subset_iff (t : VoMap) (id : String) :
    t.organizations ⊆ t.getVirtualOrganization id ↔
      id = "" ∨ ∀ vo ∈ t.organizations, t.Below id vo := by
  by_cases hempty : id = ""
  · rw [getVirtualOrganization, if_pos hempty]
    exact ⟨fun _ => .inl hempty, fun _ => List.Subset.refl _⟩
  · constructor
    · exact fun hsub => .inr fun vo hvo => (mem_getVirtualOrganization hempty).mp (hsub hvo)
    · rintro (hid | hbelow)
      · exact absurd hid hempty
      · exact fun vo hvo => (mem_getVirtualOrganization hempty).mpr (hbelow vo hvo)

/-- The loop ends, in a round for every organisation and one for the id, and what it has found
are the organisations below the id, each of them once and behind its parent. -/
theorem getVirtualOrganization_subtree (t : VoMap) (id : String) (hid : id ≠ "") :
    (∀ fuel, t.organizations.length < fuel →
      (t.voRounds id fuel).queue = [] ∧
        (t.voRounds id fuel).found = t.getVirtualOrganization id) ∧
      (∀ vo, vo ∈ t.getVirtualOrganization id ↔ t.Below id vo) ∧
      ((t.getVirtualOrganization id).map VirtualOrganization.deviceID).Nodup ∧
      TreeSearch.ParentsFirst VirtualOrganization.deviceID VirtualOrganization.parentID id
        (t.getVirtualOrganization id) := by
  refine ⟨?_, fun vo => mem_getVirtualOrganization hid, ?_, ?_⟩
  · intro fuel hfuel
    refine ⟨(TreeSearch.rounds_over _ _ t.organizations id hfuel).empty, ?_⟩
    rw [getVirtualOrganization, if_neg hid]
    exact TreeSearch.found_rounds hfuel
  · rw [getVirtualOrganization, if_neg hid]
    exact TreeSearch.search_keys_nodup
  · rw [getVirtualOrganization, if_neg hid]
    exact TreeSearch.search_parentsFirst _ _ t.organizations id

/-- Two organisations that are the parents of each other. -/
def voCycle : VoMap :=
  (empty.addVirtualOrganization ⟨"a", "", "b", ""⟩).addVirtualOrganization ⟨"b", "", "a", ""⟩

theorem getVirtualOrganization_subtree_cycle :
    "a" ≠ "" ∧
      (∀ fuel, voCycle.organizations.length < fuel →
        (voCycle.voRounds "a" fuel).queue = [] ∧
          (voCycle.voRounds "a" fuel).found = voCycle.getVirtualOrganization "a") ∧
      (∀ vo, vo ∈ voCycle.getVirtualOrganization "a" ↔ voCycle.Below "a" vo) ∧
      ((voCycle.getVirtualOrganization "a").map VirtualOrganization.deviceID).Nodup ∧
      TreeSearch.ParentsFirst VirtualOrganization.deviceID VirtualOrganization.parentID "a"
        (voCycle.getVirtualOrganization "a") :=
  ⟨by decide, getVirtualOrganization_subtree voCycle "a" (by decide)⟩

end VoMap

namespace ChildMap

/-- The children in key order. -/
def childDevices (t : ChildMap) : List JsonChildDevic := t.map.toList.map (·.2)

/-- `DeviceMng::getChildDevice`. -/
def getChildDevice (t : ChildMap) (selfId id : String) : List JsonChildDevic :=
  if id = "" ∨ id = selfId then t.childDevices
  else t.childDevices.filter fun child => child.parentId = id

theorem mem_childDevices {t : ChildMap} {child : JsonChildDevic} :
    child ∈ t.childDevices ↔ t.findChildDevice child.deviceId = some child := by
  constructor
  · intro hmem
    obtain ⟨⟨id, child'⟩, hitem, rfl⟩ := List.mem_map.mp hmem
    have hfind := Std.TreeMap.mem_toList_iff_getElem?_eq_some.mp hitem
    rw [ChildMap.findChildDevice, t.keyed id child' hfind]
    exact hfind
  · intro hfind
    have hitem := Std.TreeMap.mem_toList_iff_getElem?_eq_some.mpr hfind
    exact List.mem_map.mpr ⟨(child.deviceId, child), hitem, rfl⟩

theorem getChildDevice_sublist (t : ChildMap) (selfId id : String) :
    List.Sublist (t.getChildDevice selfId id) t.childDevices := by
  unfold getChildDevice
  split
  · exact List.Sublist.refl _
  · exact List.filter_sublist

theorem getChildDevice_eq_iff (t : ChildMap) (selfId id : String) :
    t.getChildDevice selfId id = t.childDevices ↔
      t.childDevices ⊆ t.getChildDevice selfId id := by
  constructor
  · intro heq
    rw [heq]
    exact List.Subset.refl _
  · unfold getChildDevice
    split
    · exact fun _ => rfl
    · exact fun hsub => List.filter_eq_self.mpr fun child hchild =>
        (List.mem_filter.mp (hsub hchild)).2

/-- A query selects every child when it names no id or the server, or the parent
of all of them. -/
theorem childDevices_subset_iff (t : ChildMap) (selfId id : String) :
    t.childDevices ⊆ t.getChildDevice selfId id ↔
      (id = "" ∨ id = selfId) ∨ ∀ child ∈ t.childDevices, child.parentId = id := by
  unfold getChildDevice
  split
  · rename_i hall
    exact ⟨fun _ => .inl hall, fun _ => List.Subset.refl _⟩
  · rename_i hne
    constructor
    · exact fun hsub => .inr fun child hchild => by simpa using (List.mem_filter.mp (hsub hchild)).2
    · rintro (hall | hparent)
      · exact absurd hall hne
      · exact fun child hchild => List.mem_filter.mpr ⟨hchild, by simpa using hparent child hchild⟩

end ChildMap

/-- `DeviceMng`, with the NVRs and children as objects of the process. -/
structure DeviceMng where
  selfId : String
  /-- `mDeviceMap`, by the places of the NVRs on the heap. -/
  mDeviceMap : Std.TreeMap String Nat
  mVoMap : VoMap
  server : ServerState
  /-- The status of the NVR at a place on the heap. -/
  nvrStatus : Nat → Int
  /-- The place of the next device that is made. -/
  nextDev : Nat

end SignalingServer
