import SignalingServer.DeviceDb.AddDevice
import SignalingServer.DeviceMng.DeviceRemoval
import SignalingServer.UserAgent.YxDeviceInfo

/-!
GB ids from start to start. The ids that `CDevCodeMng` knows are lost with the process, the rows of
the data base stay: `main` reads the ids back, `AddDevice` and the synchronisation make new ones for
rows, and `delDevice` gives back those of the objects it removes. Requests and the steps of the
synchronisation come in any order. The texts of a new row go into its statement as they came, and
`main` goes on without the rows that a failing `SELECT` does not give it.
-/

namespace SignalingServer

open Lts CDevCodeMng

/-! ### Rows and their ids -/

namespace YxDb

/-- The GB id of a row of `device_info` or of `sub_device_info`. -/
def gbIdAt (db : YxDb) : Nat ⊕ Nat → Option String
  | .inl id => (db.deviceInfo[id]?).map (·.gbId)
  | .inr id => (db.subDeviceInfo[id]?).map (·.gbId)

/-- No two rows have the same GB id; a row may be without one. -/
def Distinct (db : YxDb) : Prop :=
  ∀ ⦃a b : Nat ⊕ Nat⦄ ⦃g : String⦄, db.gbIdAt a = some g → db.gbIdAt b = some g → g ≠ "" → a = b

/-- The unique indexes of `device_info` admit a row. -/
def AdmitsDevice (db : YxDb) (id : Nat) (gbId : String) : Prop :=
  ∀ item ∈ db.deviceInfo.toList, item.1 ≠ id ∧ item.2.gbId ≠ gbId

instance (db : YxDb) (id : Nat) (gbId : String) : Decidable (db.AdmitsDevice id gbId) :=
  inferInstanceAs (Decidable (∀ _ ∈ _, _))

/-- A row of `device_info` is added. -/
def insertDevice (db : YxDb) (id : Nat) (row : DeviceRow) : YxDb where
  deviceInfo := db.deviceInfo.insert id row
  subDeviceInfo := db.subDeviceInfo
  fkSubDeviceParent := by
    intro id' row' h
    rw [OrdMap.getElem?_insert]
    split
    · rfl
    · exact db.fkSubDeviceParent h

/-- The row of `CDbManager::AddSubDeviceInfo`, when the keys admit it. -/
def tryInsertSubDevice (db : YxDb) (id : Nat) (parentId gbid : String) (chlNo : Int)
    (name : String) : Option YxDb :=
  match db.deviceInfo.toList.find? fun item => toString item.1 = parentId with
  | some (parent, _) =>
      let row : SubDeviceRow := ⟨parent, gbid, chlNo, name⟩
      if hparent : (db.deviceInfo[row.parentId]?).isSome then
        if db.Admits id row then some (db.insertSubDevice id row hparent) else none
      else none
  | none => none

variable {db db' : YxDb} {id : Nat}

/-- A statement that is refused changes nothing. -/
theorem addSubDeviceInfo_eq (db : YxDb) (id : Nat) {parentId gbid : String} {chlNo : Int}
    {name : String} (hstores : StoresSubDevice parentId gbid chlNo name)
    (read : List (Nat × SubDeviceRow)) : db.addSubDeviceInfo id parentId gbid chlNo name read =
      (db.tryInsertSubDevice id parentId gbid chlNo name).getD db := by
  rw [addSubDeviceInfo, if_pos hstores, tryInsertSubDevice]
  cases db.deviceInfo.toList.find? fun item => decide (toString item.1 = parentId) with
  | none => rfl
  | some item =>
      dsimp only
      by_cases hparent : (db.deviceInfo[item.1]?).isSome
      · rw [dif_pos hparent]
        by_cases hadmitted : db.Admits id ⟨item.1, gbid, chlNo, name⟩
        · rw [dif_pos ⟨hparent, hadmitted⟩, if_pos hadmitted, Option.getD_some]
        · rw [dif_neg fun h => hadmitted h.2, if_neg hadmitted, Option.getD_none]
      · rw [dif_neg fun h => hparent h.1, dif_neg hparent, Option.getD_none]

theorem gbIdAt_insertDevice (db : YxDb) (id : Nat) (row : DeviceRow) (a : Nat ⊕ Nat) :
    (db.insertDevice id row).gbIdAt a = if a = .inl id then some row.gbId else db.gbIdAt a := by
  cases a with
  | inl id' =>
      rw [gbIdAt, insertDevice, OrdMap.getElem?_insert]
      by_cases hid : id' = id
      · rw [if_pos hid, if_pos (congrArg Sum.inl hid), Option.map_some]
      · rw [if_neg hid, if_neg fun h => hid (Sum.inl.inj h), gbIdAt]
  | inr id' => rw [if_neg nofun, gbIdAt, gbIdAt, insertDevice]

/-- What `AddSubDeviceInfo` adds. -/
theorem tryInsertSubDevice_spec {parentId gbid name : String} {chlNo : Int}
    (h : db.tryInsertSubDevice id parentId gbid chlNo name = some db') :
    db.subDeviceInfo[id]? = none ∧ db'.deviceInfo = db.deviceInfo ∧
      ∃ row : SubDeviceRow, row.gbId = gbid ∧
        db'.subDeviceInfo = db.subDeviceInfo.insert id row := by
  rw [tryInsertSubDevice] at h
  split at h
  · rename_i parent _ _
    dsimp only at h
    split at h
    · split at h
      · rename_i hadmitted
        obtain rfl := Option.some.inj h
        refine ⟨?_, rfl, ⟨parent, gbid, chlNo, name⟩, rfl, rfl⟩
        cases hrow : db.subDeviceInfo[id]? with
        | none => rfl
        | some row =>
            have hmem := Std.TreeMap.mem_toList_iff_getElem?_eq_some.mpr hrow
            exact absurd rfl (hadmitted _ hmem).1
      · cases h
    · cases h
  · cases h

theorem gbIdAt_of_insert_sub (hdevices : db'.deviceInfo = db.deviceInfo) {row : SubDeviceRow}
    (hsub : db'.subDeviceInfo = db.subDeviceInfo.insert id row) (a : Nat ⊕ Nat) :
    db'.gbIdAt a = if a = .inr id then some row.gbId else db.gbIdAt a := by
  cases a with
  | inl id' => rw [if_neg nofun, gbIdAt, gbIdAt, hdevices]
  | inr id' =>
      rw [gbIdAt, hsub, OrdMap.getElem?_insert]
      by_cases hid : id' = id
      · rw [if_pos hid, if_pos (congrArg Sum.inr hid), Option.map_some]
      · rw [if_neg hid, if_neg fun h => hid (Sum.inr.inj h), gbIdAt]

theorem subDeviceInfo_delDeviceInfo {deviceId : Nat} {row : SubDeviceRow} :
    (db.delDeviceInfo deviceId).subDeviceInfo[id]? = some row ↔
      db.subDeviceInfo[id]? = some row ∧ row.parentId ≠ deviceId := by
  rw [delDeviceInfo, Std.TreeMap.getElem?_filter', Option.filter_eq_some_iff]
  simp

/-- The rows that a deletion leaves. -/
theorem gbIdAt_delDeviceInfo {deviceId : Nat} {a : Nat ⊕ Nat} {g : String}
    (h : (db.delDeviceInfo deviceId).gbIdAt a = some g) :
    db.gbIdAt a = some g ∧ a ≠ .inl deviceId ∧
      ∀ id row, a = .inr id → db.subDeviceInfo[id]? = some row → row.parentId ≠ deviceId := by
  cases a with
  | inl id =>
      rw [gbIdAt, delDeviceInfo, OrdMap.getElem?_erase] at h
      split at h
      · cases h
      · rename_i hne
        refine ⟨h, fun heq => hne (Sum.inl.inj heq), ?_⟩
        rintro id' row ⟨⟩
  | inr id =>
      obtain ⟨row, hrow, hgb⟩ := Option.map_eq_some_iff.mp h
      obtain ⟨hold, hparent⟩ := subDeviceInfo_delDeviceInfo.mp hrow
      refine ⟨by rw [gbIdAt, hold, Option.map_some, hgb], Sum.inr_ne_inl, ?_⟩
      rintro id' row' heq hrow'
      obtain rfl := Sum.inr.inj heq
      rw [hold] at hrow'
      obtain rfl := Option.some.inj hrow'
      exact hparent

/-- A row with an id that no row has leaves the ids distinct. -/
theorem Distinct.insert (h : db.Distinct) {place : Nat ⊕ Nat} {made : String}
    (hnew : ∀ a, db'.gbIdAt a = if a = place then some made else db.gbIdAt a)
    (hfresh : made ≠ "" → ∀ a, db.gbIdAt a ≠ some made) : db'.Distinct := by
  intro a b g ha hb hg
  rw [hnew] at ha hb
  by_cases hplace : a = place
  · rw [if_pos hplace] at ha
    obtain rfl := Option.some.inj ha
    by_cases hplace' : b = place
    · rw [hplace, hplace']
    · rw [if_neg hplace'] at hb
      exact absurd hb (hfresh hg b)
  · rw [if_neg hplace] at ha
    by_cases hplace' : b = place
    · rw [if_pos hplace'] at hb
      obtain rfl := Option.some.inj hb
      exact absurd ha (hfresh hg a)
    · rw [if_neg hplace'] at hb
      exact h ha hb hg

theorem Distinct.delDeviceInfo (h : db.Distinct) (deviceId : Nat) :
    (db.delDeviceInfo deviceId).Distinct := fun _ _ _ ha hb hg =>
  h (gbIdAt_delDeviceInfo ha).1 (gbIdAt_delDeviceInfo hb).1 hg

end YxDb

/-! ### The statements that add a row -/

/-- The statement of `CDbManager::AddDeviceInfo` is read as it was meant, and its texts fit their
columns. -/
def StoresDevice (nvr : StoredNvr) : Prop :=
  (SqlCall.addDeviceInfo nvr).Plain ∧ nvr.mGBID.length ≤ 20 ∧
    ∀ c : TextColumn, (nvr.row.text c).length ≤ c.size

instance (nvr : StoredNvr) : Decidable (StoresDevice nvr) := inferInstanceAs (Decidable (_ ∧ _))

/-- What MySQL makes of an INSERT: the id that `AUTO_INCREMENT` gives, and whether it executes a
statement that the keys admit. Where a text breaks the statement or does not fit, `read` is what it
makes of the tables, and the id that it reports; `none` is a statement that it refuses. -/
structure InsertOutcome where
  newId : Nat
  ok : Bool
  read : Option (YxDb × Nat)

namespace YxDb

/-- `CDbManager::AddDeviceInfo`: the tables, and the id that it reports. An id is an `INT`. -/
def addDeviceInfo (db : YxDb) (nvr : StoredNvr) (out : InsertOutcome) : Option (YxDb × Nat) :=
  if StoresDevice nvr then
    if out.ok ∧ out.newId < 2 ^ 31 ∧ db.AdmitsDevice out.newId nvr.mGBID then
      some (db.insertDevice out.newId { nvr.row with gbId := nvr.mGBID }, out.newId)
    else none
  else out.read

/-- `CDbManager::AddSubDeviceInfo` when it gives 0. -/
def tryAddSubDeviceInfo (db : YxDb) (parentId gbid : String) (chlNo : Int) (name : String)
    (out : InsertOutcome) : Option YxDb :=
  if StoresSubDevice parentId gbid chlNo name then
    if out.ok then db.tryInsertSubDevice out.newId parentId gbid chlNo name else none
  else out.read.map (·.1)

end YxDb

/-! ### The server and its data base -/

/-- The data base, and the process with its maps and ids; `none` when it has crashed or was not
started. -/
structure GbServer where
  db : YxDb
  process : Option DeviceMaps

/-- What happens to the ids. A flag says whether MySQL executes a `SELECT` or a `DELETE`. -/
inductive GbEvent where
  /-- A start of the process, also one after a crash. -/
  | start (selfId localGbId : String) (devicesOk channelsOk : Bool)
  | addDevice (body : AddBody) (out : InsertOutcome)
  | delDevice (body : DelBody) (ok : Bool)
  /-- `QueryDeviceInfoList` or `getYxDeviceInfo` stores a device for a row. -/
  | loadDevice (id : Nat) (row : DeviceRow)
  /-- `getYxDeviceInfo` stores a child for a row. -/
  | loadChild (id : Nat) (row : SubDeviceRow)
  /-- `getYxDeviceInfo` meets a channel that an NVR lists. -/
  | syncChannel (deviceId : String) (item : JsonChildDevic) (selected : Bool)
      (out : InsertOutcome)

namespace DeviceMaps

/-- A device that is there gets the id of its row, another one is made of it. -/
def loadDevice (maps : DeviceMaps) (id : Nat) (row : DeviceRow) : DeviceMaps :=
  { maps with
    mDeviceMap := maps.mDeviceMap.insert (toString id) (some
      (match maps.mDeviceMap[toString id]? with
        | some (some dev) => { dev with mGBID := row.gbId }
        | _ => ⟨toString id, row.gbId⟩)) }

/-- `DeviceMng::addChildDevice`, also the write to a child that is in the map. -/
def addChildDevice (maps : DeviceMaps) (child : JsonChildDevic) : DeviceMaps :=
  { maps with
    mChildMap := maps.mChildMap.insert child.deviceId (some child)
    keyed := by
      intro id child' h
      rcases OrdMap.insert_cases h with ⟨rfl, heq⟩ | ⟨-, hold⟩
      · rw [Option.some.inj heq]
      · exact maps.keyed id child' hold }

/-- `findChildDevice`. -/
def findChild (maps : DeviceMaps) (id : String) : Option JsonChildDevic :=
  (maps.mChildMap[id]?).join

/-- A child with a parent device gets the fields of its row, another one is made of it. The
parent is named by the id of its row. -/
def loadChild (maps : DeviceMaps) (id : Nat) (row : SubDeviceRow) : DeviceMaps :=
  match maps.findChild (toString id) with
  | some child =>
      if child.mParentDev.isSome then maps.addChildDevice (YxState.setRow child row) else maps
  | none =>
      let dev := (maps.mDeviceMap[toString row.parentId]?).join
      maps.addChildDevice (YxState.rowChild id row (dev.map fun _ => row.parentId))

theorem keyed_empty (id : String) (child : JsonChildDevic)
    (h : (∅ : Std.TreeMap String (Option JsonChildDevic))[id]? = some (some child)) :
    child.deviceId = id := by
  rw [Std.TreeMap.getElem?_emptyc] at h
  cases h

/-- The maps and ids of a process after `main` has read the rows. It does not look at what
`QueryDeviceInfoList` and `QuerySubDeviceInfoList` give back. -/
def start (selfId localGbId : String) (devicesOk channelsOk : Bool) (db : YxDb) : DeviceMaps :=
  let devList := if devicesOk then db.deviceInfo.toList else []
  let chlList := if channelsOk then db.subDeviceInfo.toList else []
  let known := (devList.map (·.2.gbId)) ++ (chlList.map (·.2.gbId))
  devList.foldl (fun maps item => maps.loadDevice item.1 item.2)
    { selfId := selfId
      mDeviceMap := ∅
      mChildMap := ∅
      keyed := keyed_empty
      codes := known.foldl CDevCodeMng.addDevCodeID ((CDevCodeMng.new "").setLocalGBID localGbId) }

/-- A channel without a row gets an id and a row; the id is given back when there is none. -/
def syncChannel (maps : DeviceMaps) (db : YxDb) (deviceId : String) (item : JsonChildDevic)
    (selected : Bool) (out : InsertOutcome) : YxDb × DeviceMaps :=
  match if selected then db.querySubDeviceInfo deviceId item.channel else none with
  | some id =>
      match maps.findChild (toString id) with
      | some child => (db, maps.addChildDevice (YxState.setChannel child item))
      | none => (db, maps)
  | none =>
      let (codes, gbid) := maps.codes.createDevCode 132
      match db.tryAddSubDeviceInfo deviceId gbid item.channel item.name out with
      | some db => (db, { maps with codes := codes })
      | none => (db, { maps with codes := codes.delDevCodeID gbid })

/-- `HttpServer::AddDevice`. -/
def addDevice (maps : DeviceMaps) (db : YxDb) (body : AddBody) (out : InsertOutcome) :
    YxDb × DeviceMaps :=
  let inserted :=
    match body with
    | .params p => db.addDeviceInfo (p.jsonNvr (maps.codes.createDevCode 118).2) out
    | _ => none
  match SignalingServer.addDevice maps.codes (fun _ => inserted.map (·.2)) body with
  | (codes, some nvr, _) =>
      ((inserted.map (·.1)).getD db,
        { maps with
          codes := codes
          mDeviceMap := maps.mDeviceMap.insert nvr.deviceId (some ⟨nvr.deviceId, nvr.mGBID⟩) })
  | (codes, none, _) => (db, { maps with codes := codes })

end DeviceMaps

namespace GbServer

/-- The rows of `delDevice` are gone as soon as the statement is executed, also if the process
crashes after it. -/
def delDevice (s : GbServer) (maps : DeviceMaps) (body : DelBody) (ok : Bool) : GbServer where
  db :=
    match body.deviceId with
    | some deviceId => if ok then s.db.delDeviceInfo deviceId.toNat else s.db
    | none => s.db
  process := (maps.delDevice body ok).map (·.1)

def step : Step GbServer GbEvent
  | s, .start selfId localGbId devicesOk channelsOk =>
      some { s with process := some (.start selfId localGbId devicesOk channelsOk s.db) }
  | s, .addDevice body out =>
      s.process.map fun maps =>
        let r := maps.addDevice s.db body out
        ⟨r.1, some r.2⟩
  | s, .delDevice body ok => s.process.map fun maps => s.delDevice maps body ok
  | s, .loadDevice id row => s.process.map fun maps => ⟨s.db, some (maps.loadDevice id row)⟩
  | s, .loadChild id row => s.process.map fun maps => ⟨s.db, some (maps.loadChild id row)⟩
  | s, .syncChannel deviceId item selected out =>
      s.process.map fun maps =>
        let r := maps.syncChannel s.db deviceId item selected out
        ⟨r.1, some r.2⟩

/-- The type of the id that a step makes. -/
def makes (s : GbServer) : GbEvent → Option Int
  | .addDevice (.params _) _ => some 118
  | .syncChannel deviceId item selected _ =>
      if (if selected then s.db.querySubDeviceInfo deviceId item.channel else none).isSome then none
      else some 132
  | _ => none

/-- Each step works on what is there and is understood: a start reads the rows of both tables, an
INSERT is read as it was meant and its texts fit, what the synchronisation stores comes from a row
that is still there, the own id is not that of a device to delete, and there is a number left for an
id that is made. -/
def Current (s : GbServer) (e : GbEvent) : Prop :=
  (∀ maps ∈ s.process, ∀ devType ∈ s.makes e, maps.codes.RoomFor devType) ∧
    match e with
    | .start _ _ devicesOk channelsOk => devicesOk = true ∧ channelsOk = true
    | .addDevice body _ =>
        ∀ maps ∈ s.process, ∀ p, body = .params p →
          StoresDevice (p.jsonNvr (maps.codes.createDevCode 118).2)
    | .delDevice body _ =>
        ∀ maps ∈ s.process, ∀ deviceId ∈ body.deviceId, toString deviceId.toNat ≠ maps.selfId
    | .loadDevice id row => s.db.deviceInfo[id]? = some row
    | .loadChild id row => s.db.subDeviceInfo[id]? = some row
    | .syncChannel deviceId item _ _ =>
        ∀ maps ∈ s.process, 132 ∈ s.makes e →
          YxDb.StoresSubDevice deviceId (maps.codes.createDevCode 132).2 item.channel item.name

/-- The id that a step makes is the id of no row. -/
def Fresh (s : GbServer) (e : GbEvent) : Prop :=
  ∀ maps ∈ s.process, ∀ devType ∈ s.makes e, (maps.codes.createDevCode devType).2 ≠ "" →
    ∀ a, s.db.gbIdAt a ≠ some (maps.codes.createDevCode devType).2

/-- The maps and ids agree with the rows. -/
structure Linked (db : YxDb) (maps : DeviceMaps) : Prop where
  codes : CDevCodeMng.Inv maps.codes
  known : ∀ a g, db.gbIdAt a = some g → size g = 20 → g ∈ maps.codes.gbidList
  devices : ∀ (key : String) (dev : BaseDevice), maps.mDeviceMap[key]? = some (some dev) →
    ∃ id : Nat, key = toString id ∧ db.gbIdAt (.inl id) = some dev.mGBID
  children : ∀ (key : String) (child : JsonChildDevic), maps.mChildMap[key]? = some (some child) →
    ∃ (id : Nat) (row : SubDeviceRow), key = toString id ∧ db.subDeviceInfo[id]? = some row ∧
      child.mGBID = row.gbId ∧ child.parentId = toString row.parentId

structure Inv (s : GbServer) : Prop where
  distinct : s.db.Distinct
  linked : ∀ maps ∈ s.process, Linked s.db maps

/-! ### An id that is made -/

variable {db db' : YxDb} {maps maps' : DeviceMaps} {devType : Int}

theorem size_of_made {m : CDevCodeMng} (hmade : (m.createDevCode devType).2 ≠ "") :
    size (m.createDevCode devType).2 = 20 := by
  obtain heq | ⟨q, hq, heq⟩ | ⟨q, hq, hpos, hsize, heq⟩ := createDevCode_cases m devType
  · exact absurd (congrArg Prod.snd heq) hmade
  · exact absurd (congrArg Prod.snd heq) hmade
  · obtain ⟨hlow, hhigh⟩ := takenSeq_digits hq hpos
    rw [heq]
    exact size_made (length_domain hsize) hlow hhigh

/-- The id of no row is made while a number is left. -/
theorem Linked.fresh (h : Linked db maps) (hroom : maps.codes.RoomFor devType)
    (hmade : (maps.codes.createDevCode devType).2 ≠ "") (a : Nat ⊕ Nat) :
    db.gbIdAt a ≠ some (maps.codes.createDevCode devType).2 := by
  intro hrow
  have hsize := size_of_made hmade
  have hunknown := h.codes.fresh hroom hmade
  rw [isDevCodeExist, if_neg (not_not.mpr hsize)] at hunknown
  exact of_decide_eq_false hunknown (h.known a _ hrow hsize)

theorem mem_createDevCode {m : CDevCodeMng} {g : String} (hg : g ∈ m.gbidList) :
    g ∈ (m.createDevCode devType).1.gbidList := by
  rw [DevCodes.createDevCode_gbidList]
  split
  · exact hg
  · exact Finset.mem_insert_of_mem hg

theorem made_mem_createDevCode {m : CDevCodeMng} (hmade : (m.createDevCode devType).2 ≠ "") :
    (m.createDevCode devType).2 ∈ (m.createDevCode devType).1.gbidList := by
  rw [DevCodes.createDevCode_gbidList, if_neg hmade]
  exact Finset.mem_insert_self _ _

theorem mem_delDevCodeID {m : CDevCodeMng} {g gbid : String} (hg : g ∈ m.gbidList)
    (hne : g ≠ gbid) : g ∈ (m.delDevCodeID gbid).gbidList := by
  rw [delDevCodeID_gbidList]
  split
  · exact Finset.mem_erase.mpr ⟨hne, hg⟩
  · exact hg

theorem mem_addDevCodeID {m : CDevCodeMng} {g gbid : String}
    (hg : g ∈ m.gbidList ∨ (g = gbid ∧ size g = 20)) : g ∈ (m.addDevCodeID gbid).gbidList := by
  rw [addDevCodeID_gbidList]
  rcases hg with hg | ⟨rfl, hsize⟩
  · split
    · exact Finset.mem_insert_of_mem hg
    · exact hg
  · rw [if_pos hsize]
    exact Finset.mem_insert_self _ _

/-! ### A start -/

theorem inv_foldl_addDevCodeID {m : CDevCodeMng} (hm : CDevCodeMng.Inv m) (ids : List String) :
    CDevCodeMng.Inv (ids.foldl CDevCodeMng.addDevCodeID m) := by
  induction ids generalizing m with
  | nil => exact hm
  | cons id ids ih => exact ih (hm.addDevCodeID id)

theorem mem_foldl_addDevCodeID {m : CDevCodeMng} {g : String} {ids : List String}
    (hsize : size g = 20) (hg : g ∈ m.gbidList ∨ g ∈ ids) :
    g ∈ (ids.foldl CDevCodeMng.addDevCodeID m).gbidList := by
  induction ids generalizing m with
  | nil => exact hg.resolve_right List.not_mem_nil
  | cons id ids ih =>
      apply ih
      rcases hg with hg | hg
      · exact .inl (mem_addDevCodeID (.inl hg))
      · rcases List.mem_cons.mp hg with rfl | hg
        · exact .inl (mem_addDevCodeID (.inr ⟨rfl, hsize⟩))
        · exact .inr hg

/-- A device for a row that is there agrees with it. -/
theorem Linked.loadDevice (h : Linked db maps) {id : Nat} {row : DeviceRow}
    (hrow : db.deviceInfo[id]? = some row) : Linked db (maps.loadDevice id row) where
  codes := h.codes
  known := h.known
  devices := by
    intro key dev hdev
    rcases OrdMap.insert_cases hdev with ⟨rfl, heq⟩ | ⟨-, hold⟩
    · refine ⟨id, rfl, ?_⟩
      have hgb : dev.mGBID = row.gbId := by
        rw [Option.some.inj heq]
        split <;> rfl
      rw [YxDb.gbIdAt, hrow, hgb, Option.map_some]
    · exact h.devices key dev hold
  children := h.children

theorem Linked.loadDevices (h : Linked db maps) {rows : List (Nat × DeviceRow)}
    (hrows : ∀ item ∈ rows, db.deviceInfo[item.1]? = some item.2) :
    Linked db (rows.foldl (fun maps item => maps.loadDevice item.1 item.2) maps) := by
  induction rows generalizing maps with
  | nil => exact h
  | cons item rows ih =>
      rw [List.forall_mem_cons] at hrows
      exact ih (h.loadDevice hrows.1) hrows.2

/-- `main` reads the ids of all rows back. -/
theorem linked_start (selfId localGbId : String) (db : YxDb) :
    Linked db (.start selfId localGbId true true db) := by
  have hlocal : CDevCodeMng.Inv ((CDevCodeMng.new "").setLocalGBID localGbId) :=
    (inv_new "").setLocalGBID fun _ _ _ _ _ _ _ hmem => absurd hmem (Finset.notMem_empty _)
  simp only [DeviceMaps.start, if_true]
  refine Linked.loadDevices ⟨inv_foldl_addDevCodeID hlocal _, ?known, ?devices, ?children⟩
    fun item hitem => Std.TreeMap.mem_toList_iff_getElem?_eq_some.mp hitem
  case known =>
    intro a g hrow hsize
    refine mem_foldl_addDevCodeID hsize (.inr ?_)
    rw [List.mem_append]
    cases a with
    | inl id =>
        obtain ⟨row, hfind, hgb⟩ := Option.map_eq_some_iff.mp hrow
        exact .inl (List.mem_map.mpr
          ⟨(id, row), Std.TreeMap.mem_toList_iff_getElem?_eq_some.mpr hfind, hgb⟩)
    | inr id =>
        obtain ⟨row, hfind, hgb⟩ := Option.map_eq_some_iff.mp hrow
        exact .inr (List.mem_map.mpr
          ⟨(id, row), Std.TreeMap.mem_toList_iff_getElem?_eq_some.mpr hfind, hgb⟩)
  case devices =>
    intro key dev hdev
    rw [Std.TreeMap.getElem?_emptyc] at hdev
    cases hdev
  case children =>
    intro key child hchild
    rw [Std.TreeMap.getElem?_emptyc] at hchild
    cases hchild

/-! ### Children and channels -/

theorem findChild_eq_some {id : String} {child : JsonChildDevic} :
    maps.findChild id = some child ↔ maps.mChildMap[id]? = some (some child) := by
  rw [DeviceMaps.findChild, Option.join_eq_some_iff]

/-- A child that is stored for its row agrees with it. -/
theorem Linked.addChildDevice (h : Linked db maps) {child : JsonChildDevic} {id : Nat}
    {row : SubDeviceRow} (hrow : db.subDeviceInfo[id]? = some row)
    (hid : child.deviceId = toString id) (hgb : child.mGBID = row.gbId)
    (hparent : child.parentId = toString row.parentId) : Linked db (maps.addChildDevice child) where
  codes := h.codes
  known := h.known
  devices := h.devices
  children := by
    intro key child' hchild
    rcases OrdMap.insert_cases hchild with ⟨rfl, heq⟩ | ⟨-, hold⟩
    · obtain rfl := Option.some.inj heq
      exact ⟨id, row, hid, hrow, hgb, hparent⟩
    · exact h.children key child' hold

theorem Linked.loadChild (h : Linked db maps) {id : Nat} {row : SubDeviceRow}
    (hrow : db.subDeviceInfo[id]? = some row) : Linked db (maps.loadChild id row) := by
  rw [DeviceMaps.loadChild]
  split
  · rename_i child hchild
    split
    · have hkey := maps.keyed _ child (findChild_eq_some.mp hchild)
      exact h.addChildDevice hrow hkey rfl rfl
    · exact h
  · exact h.addChildDevice hrow rfl rfl rfl

/-- Rows that are added, and ids that stay known, leave the maps in agreement. -/
theorem Linked.grow (h : Linked db maps) {codes : CDevCodeMng} (hcodes : CDevCodeMng.Inv codes)
    (hknown : ∀ a g, db'.gbIdAt a = some g → size g = 20 → g ∈ codes.gbidList)
    (hrows : ∀ a g, db.gbIdAt a = some g → db'.gbIdAt a = some g)
    (hsub : ∀ (id : Nat) (row : SubDeviceRow), db.subDeviceInfo[id]? = some row →
      db'.subDeviceInfo[id]? = some row) : Linked db' { maps with codes := codes } where
  codes := hcodes
  known := hknown
  devices := by
    intro key dev hdev
    obtain ⟨id, hkey, hgb⟩ := h.devices key dev hdev
    exact ⟨id, hkey, hrows _ _ hgb⟩
  children := by
    intro key child hchild
    obtain ⟨id, row, hkey, hrow, hfields⟩ := h.children key child hchild
    exact ⟨id, row, hkey, hsub id row hrow, hfields⟩

theorem ne_empty_of_size {g : String} (hsize : size g = 20) : g ≠ "" := by
  rintro rfl
  exact absurd hsize (by decide)

/-- After a row with the id that was made, the ids of all rows are known. -/
theorem known_of_insert (h : Linked db maps) {place : Nat ⊕ Nat}
    (hrows : ∀ a, db'.gbIdAt a =
      if a = place then some (maps.codes.createDevCode devType).2 else db.gbIdAt a)
    (a : Nat ⊕ Nat) (g : String) (hrow : db'.gbIdAt a = some g) (hsize : size g = 20) :
    g ∈ (maps.codes.createDevCode devType).1.gbidList := by
  rw [hrows] at hrow
  split at hrow
  · obtain rfl := Option.some.inj hrow
    exact made_mem_createDevCode (ne_empty_of_size hsize)
  · exact mem_createDevCode (h.known a g hrow hsize)

theorem kept_of_insert {place : Nat ⊕ Nat} {made : String}
    (hrows : ∀ a, db'.gbIdAt a = if a = place then some made else db.gbIdAt a)
    (hnew : db.gbIdAt place = none) (a : Nat ⊕ Nat) (g : String) (hrow : db.gbIdAt a = some g) :
    db'.gbIdAt a = some g := by
  rw [hrows, if_neg]
  · exact hrow
  · rintro rfl
    rw [hnew] at hrow
    cases hrow

/-- A channel leaves everything as it was, or with one row more. -/
theorem Inv.syncChannel (hdistinct : db.Distinct) (h : Linked db maps) (deviceId : String)
    (item : JsonChildDevic) (selected : Bool) (out : InsertOutcome)
    (hmakes : (if selected then db.querySubDeviceInfo deviceId item.channel else none) = none →
      maps.codes.RoomFor 132 ∧
        YxDb.StoresSubDevice deviceId (maps.codes.createDevCode 132).2 item.channel item.name) :
    (maps.syncChannel db deviceId item selected out).1.Distinct ∧
      Linked (maps.syncChannel db deviceId item selected out).1
        (maps.syncChannel db deviceId item selected out).2 := by
  have hmake := h.codes.createDevCode 132
  rw [DeviceMaps.syncChannel]
  split
  · rename_i id _
    split
    · rename_i child hchild
      have hfind := findChild_eq_some.mp hchild
      obtain ⟨id', row, hkey, hrow, hgb, hparent⟩ := h.children _ child hfind
      exact ⟨hdistinct, h.addChildDevice hrow ((maps.keyed _ child hfind).trans hkey) hgb hparent⟩
    · exact ⟨hdistinct, h⟩
  · rename_i hquery
    obtain ⟨hroom, hstores⟩ := hmakes hquery
    have hfresh := fun hmade => h.fresh hroom hmade
    dsimp only
    rw [YxDb.tryAddSubDeviceInfo, if_pos hstores]
    split
    · rename_i db' hadded
      obtain ⟨hnone, hdevices, row, hgb, hsub⟩ :=
        YxDb.tryInsertSubDevice_spec (Option.ite_none_right_eq_some.mp hadded).2
      have hrows := YxDb.gbIdAt_of_insert_sub hdevices hsub
      rw [hgb] at hrows
      have hnew : db.gbIdAt (.inr out.newId) = none := by rw [YxDb.gbIdAt, hnone, Option.map_none]
      refine ⟨hdistinct.insert hrows hfresh, h.grow hmake ?known ?kept ?sub⟩
      case known => exact known_of_insert h hrows
      case kept => exact kept_of_insert hrows hnew
      case sub =>
        intro id row' hrow'
        rw [hsub, OrdMap.getElem?_insert, if_neg]
        · exact hrow'
        · rintro rfl
          rw [hnone] at hrow'
          cases hrow'
    · refine ⟨hdistinct, h.grow (hmake.delDevCodeID _) ?_ (fun _ _ hrow => hrow)
        fun _ _ hrow => hrow⟩
      intro a g hrow hsize
      refine mem_delDevCodeID (mem_createDevCode (h.known a g hrow hsize)) ?_
      rintro rfl
      exact hfresh (ne_empty_of_size hsize) a hrow

/-! ### A device that is added -/

theorem gbIdAt_none_of_admits {newId : Nat} {gbId : String} (h : db.AdmitsDevice newId gbId) :
    db.gbIdAt (.inl newId) = none := by
  rw [YxDb.gbIdAt]
  cases hrow : db.deviceInfo[newId]? with
  | none => rfl
  | some row =>
      exact absurd rfl (h _ (Std.TreeMap.mem_toList_iff_getElem?_eq_some.mpr hrow)).1

/-- `AddDevice` leaves its id known, or also adds a row with it. -/
theorem addDevice_cases (maps : DeviceMaps) (db : YxDb) (p : AddParams) (out : InsertOutcome)
    (hstores : StoresDevice (p.jsonNvr (maps.codes.createDevCode 118).2)) :
    maps.addDevice db (.params p) out =
        (db, { maps with codes := (maps.codes.createDevCode 118).1 }) ∨
      ∃ row : DeviceRow, row.gbId = (maps.codes.createDevCode 118).2 ∧
        db.AdmitsDevice out.newId row.gbId ∧
        maps.addDevice db (.params p) out = (db.insertDevice out.newId row,
          { maps with
            codes := (maps.codes.createDevCode 118).1
            mDeviceMap := maps.mDeviceMap.insert (toString out.newId)
              (some ⟨toString out.newId, row.gbId⟩) }) := by
  have hinserted : db.addDeviceInfo (p.jsonNvr (maps.codes.createDevCode 118).2) out =
      if out.ok ∧ out.newId < 2 ^ 31 ∧
          db.AdmitsDevice out.newId (maps.codes.createDevCode 118).2 then
        some (db.insertDevice out.newId { (p.jsonNvr (maps.codes.createDevCode 118).2).row with
          gbId := (maps.codes.createDevCode 118).2 }, out.newId)
      else none := by
    rw [YxDb.addDeviceInfo, if_pos hstores]
    rfl
  by_cases hadmitted : out.ok = true ∧ out.newId < 2 ^ 31 ∧
      db.AdmitsDevice out.newId (maps.codes.createDevCode 118).2
  · refine .inr ⟨{ (p.jsonNvr (maps.codes.createDevCode 118).2).row with
      gbId := (maps.codes.createDevCode 118).2 }, rfl, hadmitted.2.2, ?_⟩
    have hmod : out.newId % 2 ^ 32 = out.newId := Nat.mod_eq_of_lt (hadmitted.2.1.trans (by decide))
    rw [if_pos hadmitted] at hinserted
    simp only [DeviceMaps.addDevice, SignalingServer.addDevice, SignalingServer.addDeviceInfo,
      hinserted, Option.map_some, Option.getD_some, if_true, hmod]
    rfl
  · refine .inl ?_
    rw [if_neg hadmitted] at hinserted
    simp only [DeviceMaps.addDevice, SignalingServer.addDevice, SignalingServer.addDeviceInfo,
      hinserted, Option.map_none]
    rfl

theorem Inv.addDevice (hdistinct : db.Distinct) (h : Linked db maps) (p : AddParams)
    (out : InsertOutcome) (hstores : StoresDevice (p.jsonNvr (maps.codes.createDevCode 118).2))
    (hroom : maps.codes.RoomFor 118) :
    (maps.addDevice db (.params p) out).1.Distinct ∧
      Linked (maps.addDevice db (.params p) out).1 (maps.addDevice db (.params p) out).2 := by
  have hmake := h.codes.createDevCode 118
  rcases addDevice_cases maps db p out hstores with heq | ⟨row, hgb, hadmitted, heq⟩
  · rw [heq]
    exact ⟨hdistinct, h.grow hmake (fun a g hrow hsize => mem_createDevCode
      (h.known a g hrow hsize)) (fun _ _ hrow => hrow) fun _ _ hrow => hrow⟩
  · have hrows := db.gbIdAt_insertDevice out.newId row
    have hnew := gbIdAt_none_of_admits hadmitted
    rw [hgb] at hrows
    have hgrown := h.grow hmake (known_of_insert h hrows) (kept_of_insert hrows hnew)
      fun _ _ hrow => hrow
    rw [heq]
    refine ⟨hdistinct.insert hrows fun hmade => h.fresh hroom hmade, hgrown.codes, hgrown.known,
      ?_, hgrown.children⟩
    intro key dev hdev
    rcases OrdMap.insert_cases hdev with ⟨rfl, hsome⟩ | ⟨-, hold⟩
    · obtain rfl := Option.some.inj hsome
      refine ⟨out.newId, rfl, ?_⟩
      rw [hrows, if_pos rfl, ← hgb]
    · exact hgrown.devices key dev hold

/-! ### A device that is deleted -/

/-- What the loop over the children gives back. -/
theorem removeChildren_codes {vcList : List (Option JsonChildDevic)}
    (hcodes : CDevCodeMng.Inv maps.codes) (hremoved : maps.removeChildren vcList = some maps') :
    CDevCodeMng.Inv maps'.codes ∧
      ∀ g ∈ maps.codes.gbidList,
        (∀ (key : String) (child : JsonChildDevic), maps.mChildMap[key]? = some (some child) →
          key ∈ DeviceMaps.childIds vcList → g ≠ child.mGBID) → g ∈ maps'.codes.gbidList := by
  induction vcList generalizing maps with
  | nil =>
      obtain rfl := Option.some.inj hremoved
      exact ⟨hcodes, fun g hg _ => hg⟩
  | cons ptr vcList ih =>
      cases ptr with
      | none => exact ih hcodes hremoved
      | some child =>
          obtain ⟨maps₁, hfirst, hrest⟩ := Option.bind_eq_some_iff.mp hremoved
          obtain ⟨found, hfound, rfl⟩ := Option.map_eq_some_iff.mp hfirst
          have hentry := DeviceMaps.subscript_eq_some_iff.mp hfound
          obtain ⟨hinv, hkept⟩ := ih (hcodes.delDevCodeID found.mGBID) hrest
          refine ⟨hinv, fun g hg hne => hkept g (mem_delDevCodeID hg ?_) ?_⟩
          · exact hne child.deviceId found hentry List.mem_cons_self
          · intro key child' hchild' hkey
            have hrest' : ((subscript maps.mChildMap child.deviceId).1.erase
                child.deviceId)[key]? = some (some child') := hchild'
            refine hne key child' ?_ (List.mem_cons_of_mem _ hkey)
            rw [DeviceMaps.subscript_of_some hentry, OrdMap.getElem?_erase] at hrest'
            split at hrest'
            · cases hrest'
            · exact hrest'

/-- A child is removed with a device exactly if the device is its parent. -/
theorem mem_childIds_iff {deviceId : Nat} (hself : toString deviceId ≠ maps.selfId) {key : String} :
    key ∈ DeviceMaps.childIds (maps.getChildDevice (toString deviceId)) ↔
      ∃ child, maps.mChildMap[key]? = some (some child) ∧ child.parentId = toString deviceId := by
  have hnot : ¬ (toString deviceId = "" ∨ toString deviceId = maps.selfId) := by
    rintro (hempty | hown)
    · exact DeviceMaps.toString_ne_empty deviceId hempty
    · exact hself hown
  simp only [DeviceMaps.mem_childIds, or_iff_right hnot]

/-- The objects of a deleted device are those of rows that are deleted with it, so that the ids
that are given back are the ids of no row that is left. -/
theorem Linked.delDevice (hdistinct : db.Distinct) (h : Linked db maps) {deviceId : Nat}
    (hself : toString deviceId ≠ maps.selfId) {maps₁ maps₂ : DeviceMaps}
    (hchildren : maps.removeChildren (maps.getChildDevice (toString deviceId)) = some maps₁)
    (hdevice : maps₁.removeDevice (toString deviceId) = some maps₂) :
    Linked (db.delDeviceInfo deviceId) maps₂ := by
  obtain ⟨maps', hremoved, hdevices, hchildMap⟩ :=
    maps.removeChildren_getChildDevice (toString deviceId)
  rw [hchildren] at hremoved
  obtain rfl := Option.some.inj hremoved
  obtain ⟨hcodes, hkept⟩ := removeChildren_codes h.codes hchildren
  obtain ⟨dev, hdev, rfl⟩ := Option.map_eq_some_iff.mp hdevice
  have hentry := DeviceMaps.subscript_eq_some_iff.mp hdev
  have hmap := DeviceMaps.subscript_of_some hentry
  rw [hdevices] at hentry
  refine ⟨hcodes.delDevCodeID dev.mGBID, ?known, ?devices, ?children⟩
  case known =>
    intro a g hrow hsize
    obtain ⟨hold, hplace, hparent⟩ := YxDb.gbIdAt_delDeviceInfo hrow
    have hne := ne_empty_of_size hsize
    refine mem_delDevCodeID (hkept g (h.known a g hold hsize) ?_) ?_
    · rintro key child hchild hkey rfl
      obtain ⟨id, row, rfl, hsub, hgb, hparentId⟩ := h.children key child hchild
      obtain ⟨child', hchild', hchildParent⟩ := (mem_childIds_iff hself).mp hkey
      rw [hchild] at hchild'
      obtain rfl := Option.some.inj (Option.some.inj hchild')
      have hplace' : a = .inr id :=
        hdistinct hold (by rw [YxDb.gbIdAt, hsub, Option.map_some, hgb]) hne
      refine hparent id row hplace' hsub (Decimal.toString_inj ?_)
      rw [← hparentId, hchildParent]
    · rintro rfl
      obtain ⟨id, hkey, hgb⟩ := h.devices _ dev hentry
      have hid : deviceId = id := Decimal.toString_inj hkey
      exact hplace (hid ▸ hdistinct hold hgb hne)
  case devices =>
    intro key dev' hdev'
    have hrest : ((subscript maps₁.mDeviceMap (toString deviceId)).1.erase
        (toString deviceId))[key]? = some (some dev') := hdev'
    rw [hmap, OrdMap.getElem?_erase, hdevices] at hrest
    split at hrest
    · cases hrest
    · rename_i hkey
      obtain ⟨id, rfl, hgb⟩ := h.devices key dev' hrest
      refine ⟨id, rfl, ?_⟩
      have hid : id ≠ deviceId := fun heq => hkey (by rw [heq])
      rw [YxDb.gbIdAt, YxDb.delDeviceInfo, OrdMap.getElem?_erase, if_neg hid]
      exact hgb
  case children =>
    intro key child hchild
    have hrest : maps₁.mChildMap[key]? = some (some child) := hchild
    rw [hchildMap] at hrest
    split at hrest
    · cases hrest
    · rename_i hkey
      obtain ⟨id, row, rfl, hsub, hfields, hparentId⟩ := h.children key child hrest
      refine ⟨id, row, rfl, YxDb.subDeviceInfo_delDeviceInfo.mpr ⟨hsub, ?_⟩, hfields, hparentId⟩
      rintro rfl
      exact hkey ((mem_childIds_iff hself).mpr ⟨child, hrest, hparentId⟩)

theorem Inv.delDevice {s : GbServer} (hs : Inv s) (h : Linked s.db maps) (body : DelBody)
    (ok : Bool) (hself : ∀ deviceId ∈ body.deviceId, toString deviceId.toNat ≠ maps.selfId) :
    Inv (s.delDevice maps body ok) := by
  cases body with
  | parseError =>
      exact ⟨hs.distinct, fun maps' hmaps' => by
        obtain rfl := Option.some.inj hmaps'
        exact h⟩
  | noParams =>
      exact ⟨hs.distinct, fun maps' hmaps' => by
        obtain rfl := Option.some.inj hmaps'
        exact h⟩
  | params deviceId =>
      cases ok with
      | false =>
          exact ⟨hs.distinct, fun maps' hmaps' => by
            obtain rfl := Option.some.inj hmaps'
            exact h⟩
      | true =>
          refine ⟨hs.distinct.delDeviceInfo _, fun maps' hmaps' => ?_⟩
          obtain ⟨r, hr, rfl⟩ := Option.map_eq_some_iff.mp hmaps'
          rw [DeviceMaps.delDevice, if_pos rfl] at hr
          obtain ⟨maps₁, hchildren, hr⟩ := Option.bind_eq_some_iff.mp hr
          obtain ⟨maps₂, hdevice, hr⟩ := Option.bind_eq_some_iff.mp hr
          obtain rfl := Option.some.inj hr
          exact h.delDevice hs.distinct (hself _ rfl) hchildren hdevice

/-! ### Runs -/

theorem preserves_inv : Preserves step Current Inv := by
  intro s e s' hs hcurrent hstep
  obtain ⟨hroom, hcurrent⟩ := hcurrent
  cases e with
  | start selfId localGbId devicesOk channelsOk =>
      obtain ⟨rfl, rfl⟩ := hcurrent
      cases hstep
      refine ⟨hs.distinct, fun maps hmaps => ?_⟩
      obtain rfl := Option.some.inj hmaps
      exact linked_start selfId localGbId s.db
  | addDevice body out =>
      obtain ⟨maps, hmaps, rfl⟩ := Option.map_eq_some_iff.mp hstep
      cases body with
      | params p =>
          obtain ⟨hdistinct, hlinked⟩ := Inv.addDevice hs.distinct (hs.linked maps hmaps) p out
            (hcurrent maps hmaps p rfl) (hroom maps hmaps 118 rfl)
          exact ⟨hdistinct, fun maps' hmaps' => Option.some.inj hmaps' ▸ hlinked⟩
      | _ => exact ⟨hs.distinct, fun maps' hmaps' =>
          Option.some.inj hmaps' ▸ hs.linked maps hmaps⟩
  | delDevice body ok =>
      obtain ⟨maps, hmaps, rfl⟩ := Option.map_eq_some_iff.mp hstep
      exact hs.delDevice (hs.linked maps hmaps) body ok (hcurrent maps hmaps)
  | loadDevice id row =>
      obtain ⟨maps, hmaps, rfl⟩ := Option.map_eq_some_iff.mp hstep
      have hlinked := (hs.linked maps hmaps).loadDevice hcurrent
      exact ⟨hs.distinct, fun maps' hmaps' => Option.some.inj hmaps' ▸ hlinked⟩
  | loadChild id row =>
      obtain ⟨maps, hmaps, rfl⟩ := Option.map_eq_some_iff.mp hstep
      have hlinked := (hs.linked maps hmaps).loadChild hcurrent
      exact ⟨hs.distinct, fun maps' hmaps' => Option.some.inj hmaps' ▸ hlinked⟩
  | syncChannel deviceId item selected out =>
      obtain ⟨maps, hmaps, rfl⟩ := Option.map_eq_some_iff.mp hstep
      obtain ⟨hdistinct, hlinked⟩ := Inv.syncChannel hs.distinct (hs.linked maps hmaps) deviceId
        item selected out fun hquery => by
          have hmakes : 132 ∈ s.makes (.syncChannel deviceId item selected out) := by
            rw [makes, hquery]
            rfl
          exact ⟨hroom maps hmaps 132 hmakes, hcurrent maps hmaps hmakes⟩
      exact ⟨hdistinct, fun maps' hmaps' => Option.some.inj hmaps' ▸ hlinked⟩

/-- What holds in every state: no two rows have the same GB id, and the process knows every id that
a row has. -/
def Known (s : GbServer) : Prop :=
  s.db.Distinct ∧ ∀ maps ∈ s.process, ∀ a g, s.db.gbIdAt a = some g → size g = 20 →
    g ∈ maps.codes.gbidList

/-- Over every sequence of starts, crashes, requests and steps of the synchronisation that is
current, the GB ids of both tables stay distinct and known, and every id that is made for a row is
the id of no row. -/
theorem gb_ids_over_starts (db : YxDb) (hdistinct : db.Distinct) (events : List GbEvent)
    (hcurrent : Guarded step Current ⟨db, none⟩ events) :
    Along step Known ⟨db, none⟩ events ∧ Guarded step Fresh ⟨db, none⟩ events := by
  have hstart : Inv ⟨db, none⟩ := ⟨hdistinct, fun _ h => nomatch h⟩
  refine ⟨(preserves_inv.along hstart hcurrent).mono fun s hs => ⟨hs.distinct, fun maps hmaps =>
    (hs.linked maps hmaps).known⟩, preserves_inv.guarded ?_ hstart hcurrent⟩
  intro s e hs he maps hmaps devType htype hmade a
  exact (hs.linked maps hmaps).fresh (he.1 maps hmaps devType htype) hmade a

/-- The tables that the first start creates. -/
def newDb : YxDb := ⟨∅, ∅, fun h => by rw [Std.TreeMap.getElem?_emptyc] at h; cases h⟩

theorem distinct_newDb : newDb.Distinct := by
  intro a b g ha
  cases a <;> simp [YxDb.gbIdAt, newDb] at ha

/-- A first start, a device with one channel, and its deletion. -/
def sampleEvents : List GbEvent :=
  [.start "34020000002000000001" "34020000002000000001" true true,
    .addDevice (.params ⟨some "192.168.1.64", some 8000, none, none, none, none, none⟩)
      ⟨1, true, none⟩,
    .syncChannel "1" { deviceId := "", channel := 1, name := "gate" } true ⟨1, true, none⟩,
    .delDevice (.params (some 1)) true]

theorem guarded_sampleEvents : Guarded step Current ⟨newDb, none⟩ sampleEvents := by
  rintro s₁ ⟨⟩
  refine ⟨⟨?_, rfl, rfl⟩, ?_⟩
  · rintro maps ⟨⟩
  rintro s₂ ⟨⟩
  refine ⟨⟨?_, ?_⟩, ?_⟩
  · rintro maps ⟨⟩ devType ⟨⟩
    exact fun _ => .inr (by decide)
  · rintro maps ⟨⟩ p ⟨⟩
    decide
  rintro s₃ ⟨⟩
  refine ⟨⟨?_, ?_⟩, ?_⟩
  · rintro maps ⟨⟩ devType htype
    have hmakes : some 132 = some devType := htype
    obtain rfl := Option.some.inj hmakes
    exact fun _ => .inr (by decide)
  · rintro maps ⟨⟩ -
    decide
  rintro s₄ ⟨⟩
  refine ⟨⟨?_, ?_⟩, trivial⟩
  · rintro maps ⟨⟩ devType ⟨⟩
  · rintro maps ⟨⟩ deviceId ⟨⟩
    decide

theorem gb_ids_over_starts_sample :
    Along step Known ⟨newDb, none⟩ sampleEvents ∧
      Guarded step Fresh ⟨newDb, none⟩ sampleEvents :=
  gb_ids_over_starts newDb distinct_newDb sampleEvents guarded_sampleEvents

/-- Every device in the memory has a row with its GB id, and every child has a row with its GB id
and its parent. -/
def Rows (s : GbServer) : Prop :=
  ∀ maps ∈ s.process,
    (∀ key dev, maps.mDeviceMap[key]? = some (some dev) →
      ∃ (id : Nat) (row : DeviceRow), key = toString id ∧ s.db.deviceInfo[id]? = some row ∧
        dev.mGBID = row.gbId) ∧
    ∀ key child, maps.mChildMap[key]? = some (some child) →
      ∃ (id : Nat) (row : SubDeviceRow), key = toString id ∧ s.db.subDeviceInfo[id]? = some row ∧
        child.mGBID = row.gbId ∧ child.parentId = toString row.parentId

/-- Over the same sequences no device and no child outlives its row: what a catalog or a list of
channels is made of is in the data base. -/
theorem memory_within_rows (db : YxDb) (hdistinct : db.Distinct) (events : List GbEvent)
    (hcurrent : Guarded step Current ⟨db, none⟩ events) :
    Along step Rows ⟨db, none⟩ events := by
  have hstart : Inv ⟨db, none⟩ := ⟨hdistinct, fun _ h => nomatch h⟩
  refine (preserves_inv.along hstart hcurrent).mono fun s hs maps hmaps => ⟨?_, ?_⟩
  · intro key dev hdev
    obtain ⟨id, rfl, hgb⟩ := (hs.linked maps hmaps).devices key dev hdev
    obtain ⟨row, hrow, hgb⟩ := Option.map_eq_some_iff.mp hgb
    exact ⟨id, row, rfl, hrow, hgb.symm⟩
  · exact (hs.linked maps hmaps).children

theorem memory_within_rows_sample : Along step Rows ⟨newDb, none⟩ sampleEvents :=
  memory_within_rows newDb distinct_newDb sampleEvents guarded_sampleEvents

end GbServer

end SignalingServer
