import SignalingServer.DeviceMng.VirtualOrganization
import SignalingServer.Tools.AvFrame
import SignalingServer.UserAgent.Catalog

/-!
The answer to a catalog query (UaMessageMgr.cpp, MsgContentXml.cpp). Every
organisation goes out in a message of its own, the children in messages of three.
`SumNum` counts the children that were selected, of which only those of an NVR
become items; the last message goes out even without one.
-/

namespace SignalingServer

/-- The `Item` of a virtual organisation. -/
structure OrganizationItem where
  deviceID : String
  name : String
  parentID : String
  businessGroupID : String
  deriving DecidableEq, Repr

/-- The messages of `CreateVirtualOrganizationCatalogResponse` and of
`CreateCatalogResponse`, with the items of `DeviceList`. -/
structure CatalogResponse where
  sn : UInt32
  deviceID : String
  sumNum : Int
  num : Nat
  deviceList : List (OrganizationItem ⊕ CatalogItem)
  deriving DecidableEq, Repr

section

variable (charsetConvert : String → Option String)

/-- `AddVirtualOrganizationToCatalog`. -/
def addVirtualOrganizationToCatalog (item : VirtualOrganization) : OrganizationItem where
  deviceID := item.deviceID
  name := if item.name = "" then "" else utf8ToGbk charsetConvert item.name
  parentID := item.parentID
  businessGroupID := item.businessGroupID

/-- `AddDeviceItemToCatalog`. -/
def addDeviceItemToCatalog (item : CatalogItem) : CatalogItem :=
  { item with name := if item.name = "" then "" else utf8ToGbk charsetConvert item.name }

/-- `CreateVirtualOrganizationCatalogResponse`. -/
def createVirtualOrganizationCatalogResponse (user : String) (sn : UInt32) (sumNum : Int)
    (items : List VirtualOrganization) : CatalogResponse where
  sn := sn
  deviceID := user
  sumNum := sumNum
  num := items.length
  deviceList := items.map fun item => .inl (addVirtualOrganizationToCatalog charsetConvert item)

/-- `CreateCatalogResponse`, which is not given an expand info. -/
def createCatalogResponse (user : String) (sn : UInt32) (sumNum : Int)
    (items : List CatalogItem) : CatalogResponse where
  sn := sn
  deviceID := user
  sumNum := sumNum
  num := items.length
  deviceList := items.map fun item => .inr (addDeviceItemToCatalog charsetConvert item)

end

/-! ### The loops -/

/-- The loop over `vcList`, with the list `vov` that it fills. `senderNum` is
never counted up. -/
def organizationMsgs (create : List VirtualOrganization → CatalogResponse)
    (itemNum senderNum : Nat) :
    List VirtualOrganization → List VirtualOrganization → List CatalogResponse
  | [], _ => []
  | vo :: vcList, vov =>
      let vov := vov ++ [vo]
      if senderNum ≤ 10 then
        if vov.length ≥ itemNum then
          create vov :: organizationMsgs create itemNum senderNum vcList []
        else organizationMsgs create itemNum senderNum vcList vov
      else if vov.length > 2 * itemNum then
        create vov :: organizationMsgs create itemNum senderNum vcList []
      -- `voSize - i` counts the rest of the list and the organisation itself.
      else if vcList.length + 1 < 2 * itemNum then
        create vov :: organizationMsgs create itemNum senderNum vcList []
      else organizationMsgs create itemNum senderNum vcList vov

/-- The loop over `vChildList`, with the list `ChildTtems` that it fills. -/
def childMsgs (create : List CatalogItem → CatalogResponse)
    (responseItem : JsonChildDevic → Option CatalogItem) (itemNum : Nat) :
    List JsonChildDevic → List CatalogItem → List CatalogResponse
  | [], _ => []
  | child :: vChildList, childTtems =>
      let childTtems := childTtems ++ (responseItem child).toList
      if childTtems.length > 2 * itemNum then
        create childTtems :: childMsgs create responseItem itemNum vChildList []
      else if vChildList.length + 1 < 2 * itemNum then
        create childTtems :: childMsgs create responseItem itemNum vChildList []
      else childMsgs create responseItem itemNum vChildList childTtems

namespace DeviceMng

/-- `CUserMessageMrg::CatalogQueryResponseTask`: the messages that it sends. The
loops compare a `uint32_t` with the sizes as `int`s. -/
def catalogQueryResponseTask (t : DeviceMng) (charsetConvert : String → Option String)
    (user : String) (sn : UInt32) : List CatalogResponse :=
  let vcList := t.mVoMap.getVirtualOrganization user
  let vChildList := t.server.children.getChildDevice t.selfId user
  let voSize := AvFrame.toInt vcList.length
  let childSize := AvFrame.toInt vChildList.length
  let sumnum := (voSize + childSize).bmod (2 ^ 32)
  if sumnum > 0 then
    organizationMsgs (createVirtualOrganizationCatalogResponse charsetConvert user sn sumnum) 1 0
        (vcList.take (vcList.length % 2 ^ 32)) [] ++
      childMsgs (createCatalogResponse charsetConvert user sn sumnum)
        (t.server.catalogResponseItem charsetConvert) 1
        (vChildList.take (vChildList.length % 2 ^ 32)) []
  else []

/-- The items of the organisations and of the children; a child without an item
has no place in any message. -/
def itemsOf (t : DeviceMng) (charsetConvert : String → Option String)
    (organizations : List VirtualOrganization) (children : List JsonChildDevic) :
    List (Option (OrganizationItem ⊕ CatalogItem)) :=
  organizations.map (fun vo => some (.inl (addVirtualOrganizationToCatalog charsetConvert vo))) ++
    children.map fun child =>
      (t.server.catalogResponseItem charsetConvert child).map fun item =>
        .inr (addDeviceItemToCatalog charsetConvert item)

/-- Every organisation and every child is an item of exactly one message, each
message counts its items and has one, and names the number of all items. -/
structure CompleteCatalog (t : DeviceMng) (charsetConvert : String → Option String)
    (organizations : List VirtualOrganization) (children : List JsonChildDevic)
    (msgs : List CatalogResponse) : Prop where
  items : List.Perm ((msgs.flatMap (·.deviceList)).map some)
    (t.itemsOf charsetConvert organizations children)
  num : ∀ msg ∈ msgs, msg.num = msg.deviceList.length ∧ 0 < msg.num
  sumNum : ∀ msg ∈ msgs, msg.sumNum = (msgs.flatMap (·.deviceList)).length

/-- Every child of the list has an NVR as its parent. -/
def NvrParents (t : DeviceMng) (children : List JsonChildDevic) : Prop :=
  ∀ child ∈ children, (t.server.parentNvr child).isSome

/-- The query selects every organisation and every child. -/
def SelectsAll (t : DeviceMng) (user : String) : Prop :=
  (user = "" ∨ ∀ vo ∈ t.mVoMap.organizations, t.mVoMap.Below user vo) ∧
    ((user = "" ∨ user = t.selfId) ∨
      ∀ child ∈ t.server.children.childDevices, child.parentId = user)

/-! ### What the loops send -/

section

variable {createVo : List VirtualOrganization → CatalogResponse}
  {create : List CatalogItem → CatalogResponse}
  {responseItem : JsonChildDevic → Option CatalogItem}

/-- Every organisation is sent by itself. -/
theorem organizationMsgs_eq (vcList : List VirtualOrganization) :
    organizationMsgs createVo 1 0 vcList [] = vcList.map fun vo => createVo [vo] := by
  induction vcList with
  | nil => rfl
  | cons vo vcList ih =>
      rw [organizationMsgs, List.map_cons, ← ih]
      rfl

variable (create responseItem) in
/-- The messages to the children are made of lists that hold the items in order. -/
theorem childMsgs_eq (vChildList : List JsonChildDevic) (childTtems : List CatalogItem)
    (hstart : vChildList = [] → childTtems = []) :
    ∃ lists : List (List CatalogItem),
      childMsgs create responseItem 1 vChildList childTtems = lists.map create ∧
        lists.flatten = childTtems ++ vChildList.filterMap responseItem := by
  induction vChildList generalizing childTtems with
  | nil => exact ⟨[], rfl, by rw [hstart rfl]; rfl⟩
  | cons child vChildList ih =>
      have happend : childTtems ++ (child :: vChildList).filterMap responseItem =
          (childTtems ++ (responseItem child).toList) ++ vChildList.filterMap responseItem := by
        rw [List.append_assoc]
        cases hitem : responseItem child with
        | none => rw [List.filterMap_cons_none hitem]; rfl
        | some item => rw [List.filterMap_cons_some hitem]; rfl
      rw [happend, childMsgs]
      obtain ⟨lists, hlists, hflat⟩ := ih [] fun _ => rfl
      split
      · exact ⟨_ :: lists, by rw [hlists]; rfl, by rw [List.flatten_cons, hflat]; rfl⟩
      · split
        · exact ⟨_ :: lists, by rw [hlists]; rfl, by rw [List.flatten_cons, hflat]; rfl⟩
        · rename_i hlast
          exact ih _ fun hnil => absurd (by rw [hnil]; decide) hlast

/-- When every child has an item, no list is empty. -/
theorem childMsgs_ne_nil {vChildList : List JsonChildDevic} (childTtems : List CatalogItem)
    (hitems : ∀ child ∈ vChildList, (responseItem child).isSome) :
    ∀ msg ∈ childMsgs create responseItem 1 vChildList childTtems,
      ∃ items, items ≠ [] ∧ msg = create items := by
  induction vChildList generalizing childTtems with
  | nil => exact fun msg hmsg => nomatch hmsg
  | cons child vChildList ih =>
      intro msg hmsg
      obtain ⟨item, hitem⟩ := Option.isSome_iff_exists.mp (hitems child List.mem_cons_self)
      have hrest := fun c hc => hitems c (List.mem_cons_of_mem _ hc)
      have hne : childTtems ++ (responseItem child).toList ≠ [] := by
        rw [hitem]
        exact List.append_ne_nil_of_right_ne_nil _ (List.cons_ne_nil _ _)
      rw [childMsgs] at hmsg
      split at hmsg
      · rcases List.mem_cons.mp hmsg with rfl | hmsg
        · exact ⟨_, hne, rfl⟩
        · exact ih [] hrest msg hmsg
      · split at hmsg
        · rcases List.mem_cons.mp hmsg with rfl | hmsg
          · exact ⟨_, hne, rfl⟩
          · exact ih [] hrest msg hmsg
        · exact ih _ hrest msg hmsg

end

/-! ### The answer -/

section

variable {t : DeviceMng} {charsetConvert : String → Option String} {user : String} {sn : UInt32}
  {organizations : List VirtualOrganization} {children : List JsonChildDevic}

theorem bmod_lt (n : Int) : n.bmod (2 ^ 32) < 2 ^ 31 := by
  have hlt := Int.bmod_lt (x := n) (m := 2 ^ 32) (by decide)
  omega

/-- A total below `2 ^ 31` is the sum of the two sizes. -/
theorem sumnum_eq (a b : Nat) (hlt : a + b < 2 ^ 31) :
    (AvFrame.toInt a + AvFrame.toInt b).bmod (2 ^ 32) = (a + b : Nat) := by
  have ha : AvFrame.toInt a = a := AvFrame.toInt_eq_iff.mpr (by omega)
  have hb : AvFrame.toInt b = b := AvFrame.toInt_eq_iff.mpr (by omega)
  rw [ha, hb, ← Nat.cast_add, Int.bmod_def]
  have hmod : ((a + b : Nat) : Int) % ((2 ^ 32 : Nat) : Int) = (a + b : Nat) :=
    Int.emod_eq_of_lt (by omega) (by push_cast; omega)
  rw [hmod, if_pos (by push_cast; omega)]

/-- The items that are sent for the organisations and the children. -/
def sentItems (t : DeviceMng) (charsetConvert : String → Option String)
    (organizations : List VirtualOrganization) (children : List JsonChildDevic) :
    List (OrganizationItem ⊕ CatalogItem) :=
  (organizations.map fun vo => Sum.inl (addVirtualOrganizationToCatalog charsetConvert vo)) ++
    (children.filterMap (t.server.catalogResponseItem charsetConvert)).map fun item =>
      Sum.inr (addDeviceItemToCatalog charsetConvert item)

theorem length_sentItems :
    (t.sentItems charsetConvert organizations children).length = organizations.length +
      (children.filterMap (t.server.catalogResponseItem charsetConvert)).length := by
  rw [sentItems, List.length_append, List.length_map, List.length_map]

theorem length_itemsOf : (t.itemsOf charsetConvert organizations children).length =
    organizations.length + children.length := by
  rw [itemsOf, List.length_append, List.length_map, List.length_map]

/-- A child of an NVR has an item. -/
theorem catalogResponseItem_isSome (child : JsonChildDevic) :
    (t.server.catalogResponseItem charsetConvert child).isSome =
      (t.server.parentNvr child).isSome := by
  rw [ServerState.catalogResponseItem, Option.isSome_map]

theorem itemsOf_eq (hparents : t.NvrParents children) :
    t.itemsOf charsetConvert organizations children =
      (t.sentItems charsetConvert organizations children).map some := by
  rw [itemsOf, sentItems, List.map_append, List.map_map, List.map_map]
  congr 1
  induction children with
  | nil => rfl
  | cons child children ih =>
      have hrest : t.NvrParents children := fun c hc => hparents c (List.mem_cons_of_mem _ hc)
      have hsome : (t.server.catalogResponseItem charsetConvert child).isSome := by
        rw [catalogResponseItem_isSome]
        exact hparents child List.mem_cons_self
      obtain ⟨item, hitem⟩ := Option.isSome_iff_exists.mp hsome
      rw [List.map_cons, ih hrest, List.filterMap_cons_some hitem, hitem]
      rfl

theorem length_sentItems_of_nvrParents (hparents : t.NvrParents children) :
    (t.sentItems charsetConvert organizations children).length =
      organizations.length + children.length := by
  rw [← List.length_map some, ← itemsOf_eq hparents, length_itemsOf]

variable (charsetConvert) in
/-- Children without an NVR have no item, so a list with as many items as
children has none of them. -/
theorem nvrParents_of_length
    (hlength : children.length ≤
      (children.filterMap (t.server.catalogResponseItem charsetConvert)).length) :
    t.NvrParents children := by
  have hall : (children.filter fun child =>
      (t.server.catalogResponseItem charsetConvert child).isSome) = children := by
    refine (List.filter_sublist).eq_of_length_le (hlength.trans (le_of_eq ?_))
    rw [List.length_filterMap_eq_countP, List.countP_eq_length_filter]
  intro child hchild
  have hsome := List.filter_eq_self.mp hall child hchild
  rwa [catalogResponseItem_isSome] at hsome

/-- What the two creating functions make of their lists. -/
structure Created (sumnum : Int) (msg : CatalogResponse) : Prop where
  num : msg.num = msg.deviceList.length
  sumNum : msg.sumNum = sumnum

variable (charsetConvert sn) in
/-- The messages of a query with a positive sum. -/
theorem catalogQueryResponseTask_items {vcList : List VirtualOrganization}
    {vChildList : List JsonChildDevic} {sumnum : Int}
    (hvo : t.mVoMap.getVirtualOrganization user = vcList)
    (hchild : t.server.children.getChildDevice t.selfId user = vChildList)
    (hsum : (AvFrame.toInt vcList.length + AvFrame.toInt vChildList.length).bmod (2 ^ 32) = sumnum)
    (hpos : sumnum > 0) :
    (t.catalogQueryResponseTask charsetConvert user sn).flatMap (·.deviceList) =
        t.sentItems charsetConvert (vcList.take (vcList.length % 2 ^ 32))
          (vChildList.take (vChildList.length % 2 ^ 32)) ∧
      ∀ msg ∈ t.catalogQueryResponseTask charsetConvert user sn, Created sumnum msg := by
  subst hvo hchild hsum
  obtain ⟨lists, hlists, hflat⟩ := childMsgs_eq
    (createCatalogResponse charsetConvert user sn _) (t.server.catalogResponseItem charsetConvert)
    ((t.server.children.getChildDevice t.selfId user).take
      ((t.server.children.getChildDevice t.selfId user).length % 2 ^ 32)) [] fun _ => rfl
  rw [catalogQueryResponseTask, if_pos hpos, organizationMsgs_eq, hlists]
  constructor
  · rw [List.flatMap_append, sentItems]
    congr 1
    · rw [List.flatMap_map, List.map_eq_flatMap]
      rfl
    · rw [List.flatMap_map]
      show lists.flatMap (List.map _) = _
      rw [List.flatMap_def, ← List.map_flatten, hflat, List.nil_append]
  · intro msg hmsg
    rcases List.mem_append.mp hmsg with hmsg | hmsg
    · obtain ⟨vo, -, rfl⟩ := List.mem_map.mp hmsg
      exact ⟨rfl, rfl⟩
    · obtain ⟨items, -, rfl⟩ := List.mem_map.mp hmsg
      exact ⟨(List.length_map _).symm, rfl⟩

/-- No message is without an item when every child has an NVR. -/
theorem deviceList_pos (hparents : t.NvrParents (t.server.children.getChildDevice t.selfId user)) :
    ∀ msg ∈ t.catalogQueryResponseTask charsetConvert user sn, 0 < msg.deviceList.length := by
  intro msg hmsg
  unfold catalogQueryResponseTask at hmsg
  dsimp only at hmsg
  split at hmsg
  · rcases List.mem_append.mp hmsg with hmsg | hmsg
    · rw [organizationMsgs_eq] at hmsg
      obtain ⟨vo, -, rfl⟩ := List.mem_map.mp hmsg
      exact Nat.one_pos
    · obtain ⟨items, hne, rfl⟩ := childMsgs_ne_nil [] (fun child hchild => by
        rw [catalogResponseItem_isSome]
        exact hparents child (List.mem_of_mem_take hchild)) msg hmsg
      rw [createCatalogResponse, List.length_map]
      exact List.length_pos_of_ne_nil hne
  · exact nomatch hmsg

theorem sentItems_perm {organizations' : List VirtualOrganization}
    (hperm : List.Perm organizations' organizations) :
    List.Perm (t.sentItems charsetConvert organizations' children)
      (t.sentItems charsetConvert organizations children) :=
  (hperm.map _).append_right _

theorem itemsOf_nil (hlength : organizations.length + children.length = 0) :
    t.itemsOf charsetConvert organizations children = [] :=
  List.eq_nil_of_length_eq_zero (length_itemsOf.trans hlength)

variable {vcList : List VirtualOrganization} {vChildList : List JsonChildDevic}

/-- An answer that covers the tables has selected all of them, and the total of
an `int` was enough. -/
theorem CompleteCatalog.selected
    (h : t.CompleteCatalog charsetConvert organizations children
      (t.catalogQueryResponseTask charsetConvert user sn))
    (hvcList : t.mVoMap.getVirtualOrganization user = vcList)
    (hvChildList : t.server.children.getChildDevice t.selfId user = vChildList)
    (hvo : List.Subperm vcList organizations) (hchild : List.Sublist vChildList children) :
    List.Perm vcList organizations ∧ vChildList = children ∧ t.NvrParents children ∧
      organizations.length + children.length < 2 ^ 31 := by
  generalize hsum : (AvFrame.toInt vcList.length + AvFrame.toInt vChildList.length).bmod (2 ^ 32) =
    sumnum
  have htotal : ((t.catalogQueryResponseTask charsetConvert user sn).flatMap
      (·.deviceList)).length = organizations.length + children.length := by
    have hlength := h.items.length_eq
    rwa [List.length_map, length_itemsOf] at hlength
  by_cases hpos : sumnum > 0
  · obtain ⟨hitems, hcreated⟩ :=
      catalogQueryResponseTask_items charsetConvert sn hvcList hvChildList hsum hpos
    have hsent := htotal
    rw [hitems, length_sentItems] at hsent
    have hvoLe := hvo.length_le
    have hchildLe := hchild.length_le
    have htakeVo := List.length_take_le' (vcList.length % 2 ^ 32) vcList
    have htakeChild := List.length_take_le' (vChildList.length % 2 ^ 32) vChildList
    have hfilter := List.length_filterMap_le (t.server.catalogResponseItem charsetConvert)
      (vChildList.take (vChildList.length % 2 ^ 32))
    have hsame : vChildList = children := hchild.eq_of_length (by omega)
    have htake : vChildList.take (vChildList.length % 2 ^ 32) = children :=
      ((List.take_sublist _ _).trans hchild).eq_of_length (by omega)
    rw [htake] at hsent hfilter
    refine ⟨hvo.perm_of_length_le (by omega), hsame,
      nvrParents_of_length charsetConvert (by omega), ?_⟩
    cases hmsgs : t.catalogQueryResponseTask charsetConvert user sn with
    | nil =>
        rw [hmsgs] at htotal
        have hzero : organizations.length + children.length = 0 := htotal.symm
        omega
    | cons msg msgs =>
        have hmsg : msg ∈ t.catalogQueryResponseTask charsetConvert user sn :=
          hmsgs ▸ List.mem_cons_self
        have hnum := h.sumNum msg hmsg
        rw [(hcreated msg hmsg).sumNum, htotal, ← hsum] at hnum
        have hlt := bmod_lt (AvFrame.toInt vcList.length + AvFrame.toInt vChildList.length)
        omega
  · have hnone : t.catalogQueryResponseTask charsetConvert user sn = [] := by
      rw [catalogQueryResponseTask, hvcList, hvChildList, if_neg (hsum ▸ hpos)]
    rw [hnone] at htotal
    have hzero : 0 = organizations.length + children.length := htotal
    have horg : organizations = [] := List.eq_nil_of_length_eq_zero (by omega)
    have hchildren : children = [] := List.eq_nil_of_length_eq_zero (by omega)
    subst horg hchildren
    refine ⟨List.Perm.of_eq (List.subperm_nil.mp hvo), List.sublist_nil.mp hchild, ?_, by decide⟩
    exact fun child hmem => nomatch hmem

theorem completeCatalog_of_selected
    (hvcList : t.mVoMap.getVirtualOrganization user = vcList)
    (hvChildList : t.server.children.getChildDevice t.selfId user = vChildList)
    (hperm : List.Perm vcList organizations) (hparents : t.NvrParents vChildList)
    (hlt : organizations.length + vChildList.length < 2 ^ 31) :
    t.CompleteCatalog charsetConvert organizations vChildList
      (t.catalogQueryResponseTask charsetConvert user sn) := by
  have hlength := hperm.length_eq
  have hsum := sumnum_eq vcList.length vChildList.length (by omega)
  by_cases hpos : ((vcList.length + vChildList.length : Nat) : Int) > 0
  · obtain ⟨hitems, hcreated⟩ :=
      catalogQueryResponseTask_items charsetConvert sn hvcList hvChildList hsum hpos
    rw [List.take_of_length_le (by omega), List.take_of_length_le (by omega)] at hitems
    refine { items := ?items, num := ?num, sumNum := ?sumNum }
    case items =>
      rw [hitems, itemsOf_eq hparents]
      exact (sentItems_perm hperm).map some
    case num =>
      intro msg hmsg
      have hnum := (hcreated msg hmsg).num
      exact ⟨hnum, hnum ▸ deviceList_pos (hvChildList ▸ hparents) msg hmsg⟩
    case sumNum =>
      intro msg hmsg
      rw [(hcreated msg hmsg).sumNum, hitems, length_sentItems_of_nvrParents hparents]
  · have hnone : t.catalogQueryResponseTask charsetConvert user sn = [] := by
      rw [catalogQueryResponseTask, hvcList, hvChildList, if_neg (hsum ▸ hpos)]
    rw [hnone]
    exact { items := by rw [itemsOf_nil (by omega)]; exact List.Perm.refl _
            num := fun msg hmsg => nomatch hmsg
            sumNum := fun msg hmsg => nomatch hmsg }

end

/-- The answer covers all organisations and children exactly when the query
selects them, every child has an NVR, and there are not too many for an `int`.
It covers those that the query selects under the last two conditions alone. -/
theorem completeCatalog_iff (t : DeviceMng) (charsetConvert : String → Option String)
    (user : String) (sn : UInt32) :
    (t.CompleteCatalog charsetConvert t.mVoMap.organizations t.server.children.childDevices
        (t.catalogQueryResponseTask charsetConvert user sn) ↔
      t.SelectsAll user ∧ t.NvrParents t.server.children.childDevices ∧
        t.mVoMap.organizations.length + t.server.children.childDevices.length < 2 ^ 31) ∧
    (t.CompleteCatalog charsetConvert (t.mVoMap.getVirtualOrganization user)
        (t.server.children.getChildDevice t.selfId user)
        (t.catalogQueryResponseTask charsetConvert user sn) ↔
      t.NvrParents (t.server.children.getChildDevice t.selfId user) ∧
        (t.mVoMap.getVirtualOrganization user).length +
          (t.server.children.getChildDevice t.selfId user).length < 2 ^ 31) := by
  constructor
  · have hselects : t.SelectsAll user ↔
        List.Perm (t.mVoMap.getVirtualOrganization user) t.mVoMap.organizations ∧
          t.server.children.getChildDevice t.selfId user = t.server.children.childDevices := by
      rw [SelectsAll, VoMap.getVirtualOrganization_perm_iff, VoMap.organizations_subset_iff,
        ChildMap.getChildDevice_eq_iff, ChildMap.childDevices_subset_iff]
    rw [hselects]
    constructor
    · intro h
      obtain ⟨hperm, hsame, hparents, hlt⟩ := h.selected rfl rfl
        (t.mVoMap.getVirtualOrganization_subperm user)
        (t.server.children.getChildDevice_sublist t.selfId user)
      exact ⟨⟨hperm, hsame⟩, hparents, hlt⟩
    · rintro ⟨⟨hperm, hsame⟩, hparents, hlt⟩
      exact completeCatalog_of_selected rfl hsame hperm hparents hlt
  · constructor
    · intro h
      obtain ⟨-, -, hparents, hlt⟩ := h.selected rfl rfl (List.Subperm.refl _) (List.Sublist.refl _)
      exact ⟨hparents, hlt⟩
    · rintro ⟨hparents, hlt⟩
      exact completeCatalog_of_selected rfl rfl (List.Perm.refl _) hparents hlt

/-- A server with one child, which is of no NVR. -/
def orphanTree : DeviceMng where
  selfId := "34020000002000000001"
  mDeviceMap := ∅
  mVoMap := .empty
  server := ServerState.sampleState (ChildMap.empty.addChildDevice
    { ServerState.sampleChild "7" "34020000001320000001" 1 with mParentDev := none })
  nvrStatus := fun _ => 1
  nextDev := 1

/-- The child without an NVR is counted, and a message without an item is sent for it. -/
theorem orphan_counted_not_sent :
    orphanTree.catalogQueryResponseTask some "34020000002000000001" 1 =
        [{ sn := 1, deviceID := "34020000002000000001", sumNum := 1, num := 0, deviceList := [] }] ∧
      ¬ orphanTree.CompleteCatalog some orphanTree.mVoMap.organizations
        orphanTree.server.children.childDevices
        (orphanTree.catalogQueryResponseTask some "34020000002000000001" 1) := by
  have hsent : orphanTree.catalogQueryResponseTask some "34020000002000000001" 1 =
      [{ sn := 1, deviceID := "34020000002000000001", sumNum := 1, num := 0, deviceList := [] }] := by
    decide
  refine ⟨hsent, fun h => ?_⟩
  have hnum := (h.num _ (hsent ▸ List.mem_cons_self)).2
  exact absurd hnum (Nat.lt_irrefl 0)

end DeviceMng

end SignalingServer
