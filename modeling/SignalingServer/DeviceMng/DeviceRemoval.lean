import SignalingServer.DeviceMng.DeviceMng
import SignalingServer.IDManager

/-!
Removing devices: `removeDevice` and `removeChildDevice` (deviceMng.cpp) and the
handler `delDevice` (http.cpp). Both take the GB id of an entry that they look up
with `operator[]`, so that an id that is not there gives a null pointer.
-/

namespace SignalingServer

/-- `BaseDevice`. -/
structure BaseDevice where
  deviceId : String
  mGBID : String
  deriving DecidableEq, Repr

/-- `std::map::operator[]`: a key that is not there is entered with a null pointer. -/
def subscript {ν : Type} (m : Std.TreeMap String (Option ν)) (id : String) :
    Std.TreeMap String (Option ν) × Option ν :=
  match m[id]? with
  | some ptr => (m, ptr)
  | none => (m.insert id none, none)

/-- The maps of `DeviceMng`, whose pointers may be null, and the GB ids that are in use. -/
structure DeviceMaps where
  selfId : String
  mDeviceMap : Std.TreeMap String (Option BaseDevice)
  mChildMap : Std.TreeMap String (Option JsonChildDevic)
  keyed : ∀ (id : String) (child : JsonChildDevic),
    mChildMap[id]? = some (some child) → child.deviceId = id
  codes : CDevCodeMng

/-- The body of a request: not JSON, without an object `params`, or with one, whose
`deviceId` is left out when it is not an `int`. -/
inductive DelBody where
  | parseError
  | noParams
  | params (deviceId : Option Int32)
  deriving DecidableEq, Repr

/-- The device that the body names, `json_check_int32` as a `uint32_t`. -/
def DelBody.deviceId : DelBody → Option UInt32
  | .parseError | .noParams => none
  | .params deviceId => some (deviceId.getD 0).toUInt32

/-- `g_msg200jsonerror`. -/
def msg200JsonError : String :=
  "HTTP/1.1 200 Json Error\r\n" ++
  "Content-Type: application/json;charset=utf-8\r\n" ++
  "Content-Length: 0\r\n" ++
  "Access-Control-Allow-Methods: POST, GET, OPTIONS\r\n" ++
  "Access-Control-Allow-Headers:Content-Type, Access-Control-Allow-Headers, Authorization, " ++
  "X-Requested-With\r\n" ++
  "Access-Control-Allow-Origin: *\r\n\r\n"

/-- The answer with a code, a message and no data. -/
def delReply (code : Nat) (message : String) : String :=
  "\x7b\"code\":" ++ toString code ++ ",\"message\":\"" ++ message ++ "\",\"data\":\x7b\x7d\x7d"

namespace DeviceMaps

theorem subscript_of_some {ν : Type} {m : Std.TreeMap String (Option ν)} {id : String}
    {ptr : Option ν} (h : m[id]? = some ptr) : subscript m id = (m, ptr) := by
  rw [subscript, h]

/-- Only a pointer that is not null can be taken out. -/
theorem subscript_eq_some_iff {ν : Type} {m : Std.TreeMap String (Option ν)} {id : String}
    {v : ν} : (subscript m id).2 = some v ↔ m[id]? = some (some v) := by
  unfold subscript
  cases h : m[id]? with
  | some ptr => exact Option.some_inj.symm
  | none => exact iff_of_false nofun nofun

theorem keyed_erase_subscript (s : DeviceMaps) (id id' : String) (child : JsonChildDevic)
    (h : ((subscript s.mChildMap id).1.erase id)[id']? = some (some child)) :
    child.deviceId = id' := by
  rw [OrdMap.getElem?_erase] at h
  split at h
  · cases h
  · rename_i hne
    refine s.keyed id' child ?_
    unfold subscript at h
    split at h
    · exact h
    · rwa [OrdMap.getElem?_insert, if_neg hne] at h

/-- `DeviceMng::removeDevice`; `none` where a null pointer is used. -/
def removeDevice (s : DeviceMaps) (id : String) : Option DeviceMaps :=
  (subscript s.mDeviceMap id).2.map fun dev =>
    { s with
      codes := s.codes.delDevCodeID dev.mGBID
      mDeviceMap := (subscript s.mDeviceMap id).1.erase id }

/-- `DeviceMng::removeChildDevice`; `none` where a null pointer is used. -/
def removeChildDevice (s : DeviceMaps) (id : String) : Option DeviceMaps :=
  (subscript s.mChildMap id).2.map fun child =>
    { s with
      codes := s.codes.delDevCodeID child.mGBID
      mChildMap := (subscript s.mChildMap id).1.erase id
      keyed := s.keyed_erase_subscript id }

/-- `DeviceMng::getChildDevice`: all pointers for the own id, also those that are null. -/
def getChildDevice (s : DeviceMaps) (id : String) : List (Option JsonChildDevic) :=
  if id = "" ∨ id = s.selfId then s.mChildMap.toList.map (·.2)
  else (s.mChildMap.toList.map (·.2)).filter fun ptr => ptr.any fun child => child.parentId = id

/-- The loop of `delDevice` over the children. -/
def removeChildren : DeviceMaps → List (Option JsonChildDevic) → Option DeviceMaps
  | s, [] => some s
  | s, some child :: vcList =>
      (s.removeChildDevice child.deviceId).bind fun s' => removeChildren s' vcList
  | s, none :: vcList => removeChildren s vcList

/-- `HttpServer::delDevice`, where `deleted` says whether `delDeviceInfo` gives 0. -/
def delDevice (s : DeviceMaps) (body : DelBody) (deleted : Bool) : Option (DeviceMaps × String) :=
  match body with
  | .parseError => some (s, msg200JsonError)
  | .noParams => some (s, delReply 10000 "参数错误")
  | .params deviceId =>
      let id := toString (deviceId.getD 0).toUInt32.toNat
      if deleted then do
        let s ← s.removeChildren (s.getChildDevice id)
        let s ← s.removeDevice id
        some (s, delReply 200 "删除成功")
      else some (s, delReply 10001 "删除失败")

/-- There is a device under the id. -/
def HasDevice (s : DeviceMaps) (id : String) : Prop := ∃ dev, s.mDeviceMap[id]? = some (some dev)

/-- There is a child under the id. -/
def HasChild (s : DeviceMaps) (id : String) : Prop := ∃ child, s.mChildMap[id]? = some (some child)

/-- A removal uses no null pointer, and leaves both maps as they are when it has no entry to
remove. -/
def Removes (s : DeviceMaps) (known : Prop) (result : Option DeviceMaps) : Prop :=
  ∃ s', result = some s' ∧
    (¬ known → s'.mDeviceMap = s.mDeviceMap ∧ s'.mChildMap = s.mChildMap)

/-- The device and the children with this parent are gone, and everything else is as before. -/
structure Deleted (s s' : DeviceMaps) (id : String) : Prop where
  device : s'.mDeviceMap[id]? = none
  children : ∀ (childId : String) (child : JsonChildDevic),
    s'.mChildMap[childId]? = some (some child) → child.parentId ≠ id
  otherDevices : ∀ id' : String, id' ≠ id → s'.mDeviceMap[id']? = s.mDeviceMap[id']?
  otherChildren : ∀ childId : String,
    (∀ child : JsonChildDevic, s.mChildMap[childId]? = some (some child) → child.parentId ≠ id) →
      s'.mChildMap[childId]? = s.mChildMap[childId]?

/-- `delDevice` uses no null pointer, leaves both maps as they are for a device that is not
there, and deletes the device and its children when it answers so. -/
def Deletes (s : DeviceMaps) (body : DelBody) (deleted : Bool) : Prop :=
  ∃ s' strOut, s.delDevice body deleted = some (s', strOut) ∧
    ((∀ d ∈ body.deviceId, toString d.toNat ∉ s.mDeviceMap) →
      s'.mDeviceMap = s.mDeviceMap ∧ s'.mChildMap = s.mChildMap) ∧
    (strOut = delReply 200 "删除成功" → ∃ d ∈ body.deviceId, s.Deleted s' (toString d.toNat))

/-- The device is there, and if its id is the own one, it is the parent of all children. -/
def Deletable (s : DeviceMaps) (id : String) : Prop :=
  s.HasDevice id ∧
    (id = s.selfId → ∀ (childId : String) (child : JsonChildDevic),
      s.mChildMap[childId]? = some (some child) → child.parentId = id)

/-! ### One entry -/

theorem removeDevice_isSome_iff (s : DeviceMaps) (id : String) :
    (s.removeDevice id).isSome ↔ s.HasDevice id := by
  rw [removeDevice, Option.isSome_map, Option.isSome_iff_exists]
  exact exists_congr fun dev => subscript_eq_some_iff

theorem removeChildDevice_isSome_iff (s : DeviceMaps) (id : String) :
    (s.removeChildDevice id).isSome ↔ s.HasChild id := by
  rw [removeChildDevice, Option.isSome_map, Option.isSome_iff_exists]
  exact exists_congr fun child => subscript_eq_some_iff

/-- What removing a device changes. -/
theorem removeDevice_spec {s : DeviceMaps} {id : String} (h : s.HasDevice id) :
    ∃ s', s.removeDevice id = some s' ∧ s'.mChildMap = s.mChildMap ∧
      s'.mDeviceMap = s.mDeviceMap.erase id := by
  obtain ⟨dev, hdev⟩ := h
  rw [removeDevice, subscript_of_some hdev]
  exact ⟨_, rfl, rfl, rfl⟩

/-- What removing a child changes. -/
theorem removeChildDevice_spec {s : DeviceMaps} {id : String} (h : s.HasChild id) :
    ∃ s', s.removeChildDevice id = some s' ∧ s'.mDeviceMap = s.mDeviceMap ∧
      ∀ id' : String, s'.mChildMap[id']? = if id' = id then none else s.mChildMap[id']? := by
  obtain ⟨s', hs'⟩ := Option.isSome_iff_exists.mp ((s.removeChildDevice_isSome_iff id).mpr h)
  obtain ⟨child, hchild⟩ := h
  refine ⟨s', hs', ?_⟩
  obtain ⟨child', -, rfl⟩ := Option.map_eq_some_iff.mp hs'
  refine ⟨rfl, fun id' => ?_⟩
  show ((subscript s.mChildMap id).1.erase id)[id']? = _
  rw [subscript_of_some hchild]
  exact OrdMap.getElem?_erase s.mChildMap id id'

/-- A removal needs an entry, and then has nothing to leave alone. -/
theorem removes_iff {s : DeviceMaps} {known : Prop} {result : Option DeviceMaps}
    (h : result.isSome → known) : s.Removes known result ↔ result.isSome := by
  rw [Option.isSome_iff_exists] at h ⊢
  constructor
  · rintro ⟨s', hs', -⟩
    exact ⟨s', hs'⟩
  · rintro ⟨s', hs'⟩
    exact ⟨s', hs', fun hunknown => absurd (h ⟨s', hs'⟩) hunknown⟩

theorem HasDevice.mem {s : DeviceMaps} {id : String} (h : s.HasDevice id) : id ∈ s.mDeviceMap := by
  obtain ⟨dev, hdev⟩ := h
  rw [Std.TreeMap.mem_iff_isSome_getElem?, hdev]
  rfl

theorem HasChild.mem {s : DeviceMaps} {id : String} (h : s.HasChild id) : id ∈ s.mChildMap := by
  obtain ⟨child, hchild⟩ := h
  rw [Std.TreeMap.mem_iff_isSome_getElem?, hchild]
  rfl

/-! ### The children of a device -/

/-- The ids of the children that a list of pointers leads to. -/
def childIds (vcList : List (Option JsonChildDevic)) : List String :=
  vcList.filterMap fun ptr => ptr.map (·.deviceId)

theorem removeChildren_spec {s : DeviceMaps} {vcList : List (Option JsonChildDevic)}
    (hnodup : (childIds vcList).Nodup) (hchild : ∀ id ∈ childIds vcList, s.HasChild id) :
    ∃ s', s.removeChildren vcList = some s' ∧ s'.mDeviceMap = s.mDeviceMap ∧
      ∀ id : String,
        s'.mChildMap[id]? = if id ∈ childIds vcList then none else s.mChildMap[id]? := by
  induction vcList generalizing s with
  | nil => exact ⟨s, rfl, rfl, fun id => (if_neg List.not_mem_nil).symm⟩
  | cons ptr vcList ih =>
      cases ptr with
      | none => exact ih hnodup hchild
      | some child =>
          have hids : childIds (some child :: vcList) = child.deviceId :: childIds vcList := rfl
          rw [hids, List.nodup_cons] at hnodup
          rw [hids] at hchild ⊢
          obtain ⟨s₁, hs₁, hdev₁, hmap₁⟩ :=
            removeChildDevice_spec (hchild child.deviceId List.mem_cons_self)
          have hrest : ∀ id ∈ childIds vcList, s₁.HasChild id := by
            intro id hid
            have hne : id ≠ child.deviceId := by
              rintro rfl
              exact hnodup.1 hid
            obtain ⟨child', hchild'⟩ := hchild id (List.mem_cons_of_mem _ hid)
            exact ⟨child', by rw [hmap₁, if_neg hne, hchild']⟩
          obtain ⟨s₂, hs₂, hdev₂, hmap₂⟩ := ih hnodup.2 hrest
          refine ⟨s₂, ?_, hdev₂.trans hdev₁, fun id => ?_⟩
          · rw [removeChildren, hs₁]
            exact hs₂
          · rw [hmap₂, hmap₁]
            by_cases hid : id = child.deviceId
            · rw [if_pos hid, ite_self, if_pos (hid ▸ List.mem_cons_self)]
            · simp only [List.mem_cons, hid, false_or, if_false]

theorem mem_getChildDevice {s : DeviceMaps} {id : String} {child : JsonChildDevic} :
    some child ∈ s.getChildDevice id ↔
      s.mChildMap[child.deviceId]? = some (some child) ∧
        ((id = "" ∨ id = s.selfId) ∨ child.parentId = id) := by
  have hmem : some child ∈ s.mChildMap.toList.map (·.2) ↔
      s.mChildMap[child.deviceId]? = some (some child) := by
    rw [List.mem_map]
    constructor
    · rintro ⟨⟨key, ptr⟩, hentry, rfl⟩
      have hfind := Std.TreeMap.mem_toList_iff_getElem?_eq_some.mp hentry
      rwa [s.keyed key child hfind]
    · intro hfind
      exact ⟨_, Std.TreeMap.mem_toList_iff_getElem?_eq_some.mpr hfind, rfl⟩
  unfold getChildDevice
  split
  · rename_i hall
    rw [hmem, and_iff_left (.inl hall)]
  · rename_i hsome
    rw [List.mem_filter, hmem, or_iff_right hsome]
    simp

theorem mem_childIds {s : DeviceMaps} {id childId : String} :
    childId ∈ childIds (s.getChildDevice id) ↔
      ∃ child, s.mChildMap[childId]? = some (some child) ∧
        ((id = "" ∨ id = s.selfId) ∨ child.parentId = id) := by
  rw [childIds, List.mem_filterMap]
  constructor
  · rintro ⟨ptr, hptr, hid⟩
    obtain ⟨child, rfl, rfl⟩ := Option.map_eq_some_iff.mp hid
    exact ⟨child, mem_getChildDevice.mp hptr⟩
  · rintro ⟨child, hfind, hselected⟩
    obtain rfl := s.keyed childId child hfind
    exact ⟨some child, mem_getChildDevice.mpr ⟨hfind, hselected⟩, rfl⟩

theorem nodup_childIds (s : DeviceMaps) (id : String) :
    (childIds (s.getChildDevice id)).Nodup := by
  have hall : (childIds (s.mChildMap.toList.map (·.2))).Nodup := by
    rw [childIds, List.filterMap_map]
    refine List.Pairwise.filterMap _ ?_
      (List.Pairwise.and_mem.mp (Std.TreeMap.distinct_keys_toList (t := s.mChildMap)))
    rintro ⟨key, ptr⟩ ⟨key', ptr'⟩ ⟨hmem, hmem', hne⟩ childId hid childId' hid' heq
    obtain ⟨child, rfl, rfl⟩ := Option.map_eq_some_iff.mp hid
    obtain ⟨child', rfl, rfl⟩ := Option.map_eq_some_iff.mp hid'
    have hkey := s.keyed key child (Std.TreeMap.mem_toList_iff_getElem?_eq_some.mp hmem)
    have hkey' := s.keyed key' child' (Std.TreeMap.mem_toList_iff_getElem?_eq_some.mp hmem')
    subst hkey hkey'
    rw [heq] at hne
    exact hne Std.ReflCmp.compare_self
  unfold getChildDevice
  split
  · exact hall
  · exact hall.sublist (List.filter_sublist.filterMap _)

/-- The loop over the children of a device never meets a null pointer. -/
theorem removeChildren_getChildDevice (s : DeviceMaps) (id : String) :
    ∃ s', s.removeChildren (s.getChildDevice id) = some s' ∧ s'.mDeviceMap = s.mDeviceMap ∧
      ∀ childId : String, s'.mChildMap[childId]? =
        if childId ∈ childIds (s.getChildDevice id) then none else s.mChildMap[childId]? := by
  have hchild : ∀ childId ∈ childIds (s.getChildDevice id), s.HasChild childId := by
    intro childId hmem
    obtain ⟨child, hfind, -⟩ := mem_childIds.mp hmem
    exact ⟨child, hfind⟩
  exact removeChildren_spec (s.nodup_childIds id) hchild

/-- After the device and the children that were listed for it have been removed, too much is
gone exactly where the list was that of the server itself. -/
theorem deleted_iff {s s' : DeviceMaps} {id : String} (hne : id ≠ "")
    (hdev : s'.mDeviceMap = s.mDeviceMap.erase id)
    (hmap : ∀ childId : String, s'.mChildMap[childId]? =
      if childId ∈ childIds (s.getChildDevice id) then none else s.mChildMap[childId]?) :
    s.Deleted s' id ↔
      (id = s.selfId → ∀ (childId : String) (child : JsonChildDevic),
        s.mChildMap[childId]? = some (some child) → child.parentId = id) := by
  constructor
  · intro hdeleted hself childId child hfind
    by_contra hparent
    have hkept : s'.mChildMap[childId]? = s.mChildMap[childId]? := by
      refine hdeleted.otherChildren childId fun child' hfind' => ?_
      rw [hfind] at hfind'
      rwa [← Option.some.inj (Option.some.inj hfind')]
    have hlisted : childId ∈ childIds (s.getChildDevice id) :=
      mem_childIds.mpr ⟨child, hfind, .inl (.inr hself)⟩
    rw [hmap, if_pos hlisted, hfind] at hkept
    cases hkept
  · intro hown
    refine { device := ?device, children := ?children, otherDevices := ?otherDevices,
             otherChildren := ?otherChildren }
    case device => rw [hdev, OrdMap.getElem?_erase, if_pos rfl]
    case children =>
      intro childId child hfind hparent
      rw [hmap] at hfind
      split at hfind
      · cases hfind
      · rename_i hunlisted
        exact hunlisted (mem_childIds.mpr ⟨child, hfind, .inr hparent⟩)
    case otherDevices =>
      intro id' hid'
      rw [hdev, OrdMap.getElem?_erase, if_neg hid']
    case otherChildren =>
      intro childId hother
      rw [hmap]
      refine if_neg fun hlisted => ?_
      obtain ⟨child, hfind, (hempty | hself) | hparent⟩ := mem_childIds.mp hlisted
      · exact hne hempty
      · exact hother child hfind (hown hself childId child hfind)
      · exact hother child hfind hparent

/-! ### The handler -/

theorem toString_ne_empty (n : Nat) : toString n ≠ "" := by
  intro hempty
  have hdigits := congrArg String.toList hempty
  rw [Nat.toString_eq_repr, Nat.toList_repr] at hdigits
  exact Nat.toDigits_ne_nil hdigits

/-- Only a deletion answers that it succeeded. -/
theorem delReply_ne (strOut : String)
    (h : strOut ∈ [msg200JsonError, delReply 10000 "参数错误", delReply 10001 "删除失败"]) :
    strOut ≠ delReply 200 "删除成功" := by
  have hall : ∀ strOut ∈ [msg200JsonError, delReply 10000 "参数错误", delReply 10001 "删除失败"],
      strOut ≠ delReply 200 "删除成功" := by decide
  exact hall strOut h

/-- A request that is refused leaves everything as it is. -/
theorem delDevice_refused (s : DeviceMaps) {body : DelBody} {deleted : Bool}
    (h : ¬ (deleted = true ∧ ∃ d, d ∈ body.deviceId)) :
    ∃ strOut, s.delDevice body deleted = some (s, strOut) ∧ strOut ≠ delReply 200 "删除成功" := by
  cases body with
  | parseError => exact ⟨_, rfl, delReply_ne _ (by simp)⟩
  | noParams => exact ⟨_, rfl, delReply_ne _ (by simp)⟩
  | params deviceId =>
      cases deleted with
      | false => exact ⟨_, rfl, delReply_ne _ (by simp)⟩
      | true => exact absurd ⟨rfl, _, rfl⟩ h

theorem delDevice_params (s : DeviceMaps) (deviceId : Option Int32) :
    s.delDevice (.params deviceId) true =
      ((s.removeChildren (s.getChildDevice (toString (deviceId.getD 0).toUInt32.toNat))).bind
        fun s' => s'.removeDevice (toString (deviceId.getD 0).toUInt32.toNat)).map
        fun s' => (s', delReply 200 "删除成功") := by
  simp only [delDevice, if_true, Option.bind_eq_bind, Option.map_eq_bind, Option.bind_assoc]
  rfl

/-- Removing what was listed for a device, and then the device. -/
theorem removeListed_iff (s : DeviceMaps) {id : String} (hne : id ≠ "") :
    (∃ s', ((s.removeChildren (s.getChildDevice id)).bind fun s' => s'.removeDevice id) = some s' ∧
      s.Deleted s' id) ↔ s.Deletable id := by
  obtain ⟨s₁, hs₁, hdev₁, hmap₁⟩ := s.removeChildren_getChildDevice id
  rw [hs₁, Option.bind_some]
  constructor
  · rintro ⟨s', hs', hdeleted⟩
    have hdevice : s₁.HasDevice id := (s₁.removeDevice_isSome_iff id).mp (by rw [hs']; rfl)
    obtain ⟨s₂, hs₂, hmap₂, hdev₂⟩ := removeDevice_spec hdevice
    obtain rfl : s₂ = s' := Option.some.inj (hs₂.symm.trans hs')
    rw [HasDevice, hdev₁] at hdevice
    rw [hdev₁] at hdev₂
    rw [← hmap₂] at hmap₁
    exact ⟨hdevice, (deleted_iff hne hdev₂ hmap₁).mp hdeleted⟩
  · rintro ⟨hdevice, hown⟩
    rw [HasDevice, ← hdev₁] at hdevice
    obtain ⟨s₂, hs₂, hmap₂, hdev₂⟩ := removeDevice_spec hdevice
    rw [hdev₁] at hdev₂
    rw [← hmap₂] at hmap₁
    exact ⟨s₂, hs₂, (deleted_iff hne hdev₂ hmap₁).mpr hown⟩

theorem deletes_params_iff (s : DeviceMaps) (deviceId : Option Int32) :
    s.Deletes (.params deviceId) true ↔
      s.Deletable (toString (deviceId.getD 0).toUInt32.toNat) := by
  rw [← s.removeListed_iff (toString_ne_empty _)]
  constructor
  · rintro ⟨s', strOut, hs', -, hsuccess⟩
    rw [delDevice_params] at hs'
    obtain ⟨s'', hremove, hpair⟩ := Option.map_eq_some_iff.mp hs'
    obtain ⟨rfl, rfl⟩ := Prod.mk.inj hpair
    obtain ⟨d, hd, hdeleted⟩ := hsuccess rfl
    obtain rfl : (deviceId.getD 0).toUInt32 = d := Option.some.inj hd
    exact ⟨s'', hremove, hdeleted⟩
  · rintro ⟨s', hremove, hdeleted⟩
    refine ⟨s', delReply 200 "删除成功", ?_, ?_, fun _ => ⟨_, rfl, hdeleted⟩⟩
    · rw [delDevice_params, hremove]
      rfl
    · intro hunknown
      have hdevice := ((s.removeListed_iff (toString_ne_empty _)).mp ⟨s', hremove, hdeleted⟩).1
      exact absurd hdevice.mem (hunknown _ rfl)

/-- `removeDevice` and `removeChildDevice` need an entry under the id. `delDevice` needs the
device as soon as `delDeviceInfo` has succeeded, and an id that is not the own one, unless all
children have it as parent. -/
theorem removal_iff (s : DeviceMaps) :
    (∀ id, s.Removes (id ∈ s.mDeviceMap) (s.removeDevice id) ↔ s.HasDevice id) ∧
      (∀ id, s.Removes (id ∈ s.mChildMap) (s.removeChildDevice id) ↔ s.HasChild id) ∧
      ∀ body deleted, s.Deletes body deleted ↔
        (deleted = true → ∀ d ∈ body.deviceId, s.Deletable (toString d.toNat)) := by
  refine ⟨fun id => ?_, fun id => ?_, fun body deleted => ?_⟩
  · have hknown := fun h => ((s.removeDevice_isSome_iff id).mp h).mem
    rw [removes_iff hknown, removeDevice_isSome_iff]
  · have hknown := fun h => ((s.removeChildDevice_isSome_iff id).mp h).mem
    rw [removes_iff hknown, removeChildDevice_isSome_iff]
  · by_cases haccepted : deleted = true ∧ ∃ d, d ∈ body.deviceId
    · obtain ⟨rfl, d, hd⟩ := haccepted
      cases body with
      | parseError | noParams => cases hd
      | params deviceId =>
          rw [deletes_params_iff]
          constructor
          · rintro hdeletable - d' hd'
            rwa [← Option.some.inj hd']
          · exact fun hall => hall rfl _ rfl
    · obtain ⟨strOut, hs, hanswer⟩ := s.delDevice_refused haccepted
      refine iff_of_true ⟨s, strOut, hs, fun _ => ⟨rfl, rfl⟩, fun h => absurd h hanswer⟩ ?_
      exact fun hdeleted d hd => absurd ⟨hdeleted, d, hd⟩ haccepted

/-- A server without devices and children. -/
def noDevices : DeviceMaps where
  selfId := "34020000002000000001"
  mDeviceMap := ∅
  mChildMap := ∅
  keyed := fun id child h => by simp at h
  codes := CDevCodeMng.new "34020000002000000001"

/-- An id that is not there is a null pointer in all three functions. -/
theorem not_removal :
    ¬ noDevices.Removes ("7" ∈ noDevices.mDeviceMap) (noDevices.removeDevice "7") ∧
      ¬ noDevices.Removes ("7" ∈ noDevices.mChildMap) (noDevices.removeChildDevice "7") ∧
      ¬ noDevices.Deletes (.params (some 7)) true := by
  have hdevice : ¬ noDevices.HasDevice "7" := by
    rintro ⟨dev, h⟩
    simp [noDevices] at h
  have hchild : ¬ noDevices.HasChild "7" := by
    rintro ⟨child, h⟩
    simp [noDevices] at h
  refine ⟨?_, ?_, ?_⟩
  · rintro ⟨s', hs', -⟩
    exact hdevice ((noDevices.removeDevice_isSome_iff "7").mp (by rw [hs']; rfl))
  · rintro ⟨s', hs', -⟩
    exact hchild ((noDevices.removeChildDevice_isSome_iff "7").mp (by rw [hs']; rfl))
  · rw [deletes_params_iff]
    exact fun h => hdevice h.1

end DeviceMaps

end SignalingServer
