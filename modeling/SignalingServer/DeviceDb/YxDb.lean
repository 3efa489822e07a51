import SignalingServer.DeviceDb.SqlStatements

/-!
The tables of the devices and of their channels (dbManager.cpp). Each function here
is one statement; a statement that MySQL refuses changes nothing. The texts of a
statement stand in it as they came: where one of them needs an escape or is too long,
what MySQL makes of the statement is left open.
-/

namespace SignalingServer

/-- `device_info`, without its times. A NULL is read as an empty text. -/
structure DeviceRow extends DeviceInfoRow where
  gbId : String
  deriving DecidableEq, Repr

/-- `sub_device_info`, without its times. -/
structure SubDeviceRow where
  parentId : Nat
  gbId : String
  channelNo : Int
  channelName : String
  deriving DecidableEq, Repr

/-- Both tables with the foreign key from the channels to the devices. -/
structure YxDb where
  deviceInfo : Std.TreeMap Nat DeviceRow
  subDeviceInfo : Std.TreeMap Nat SubDeviceRow
  fkSubDeviceParent : ∀ {id : Nat} {row : SubDeviceRow}, subDeviceInfo[id]? = some row →
    (deviceInfo[row.parentId]?).isSome

namespace YxDb

/-- `CDbManager::delDeviceInfo`, with `ON DELETE CASCADE`. -/
def delDeviceInfo (db : YxDb) (deviceId : Nat) : YxDb where
  deviceInfo := db.deviceInfo.erase deviceId
  subDeviceInfo := db.subDeviceInfo.filter fun _ row => row.parentId ≠ deviceId
  fkSubDeviceParent := by
    intro id row h
    rw [Std.TreeMap.getElem?_filter'] at h
    obtain ⟨hrow, hne⟩ := Option.filter_eq_some_iff.mp h
    rw [OrdMap.getElem?_erase, if_neg (by simpa using hne)]
    exact db.fkSubDeviceParent hrow

/-- `CDbManager::QuerySubDeviceInfo` of one channel: the id that it finds. -/
def querySubDeviceInfo (db : YxDb) (parentId : String) (chlNo : Int) : Option Nat :=
  (db.subDeviceInfo.toList.find? fun item =>
    toString item.2.parentId = parentId ∧ item.2.channelNo = chlNo).map (·.1)

/-- The unique indexes of `sub_device_info` admit the row. -/
def Admits (db : YxDb) (id : Nat) (row : SubDeviceRow) : Prop :=
  ∀ item ∈ db.subDeviceInfo.toList, item.1 ≠ id ∧ item.2.gbId ≠ row.gbId ∧
    ¬ (item.2.parentId = row.parentId ∧ item.2.channelNo = row.channelNo)

instance (db : YxDb) (id : Nat) (row : SubDeviceRow) : Decidable (db.Admits id row) :=
  inferInstanceAs (Decidable (∀ _ ∈ _, _))

def insertSubDevice (db : YxDb) (id : Nat) (row : SubDeviceRow)
    (hparent : (db.deviceInfo[row.parentId]?).isSome) : YxDb where
  deviceInfo := db.deviceInfo
  subDeviceInfo := db.subDeviceInfo.insert id row
  fkSubDeviceParent := by
    intro id' row' h
    rcases OrdMap.insert_cases h with ⟨-, rfl⟩ | ⟨-, hrow⟩
    · exact hparent
    · exact db.fkSubDeviceParent hrow

/-- The statement of `CDbManager::AddSubDeviceInfo` is read as it was meant, and its texts
fit their columns. -/
def StoresSubDevice (parentId gbid : String) (chlNo : Int) (name : String) : Prop :=
  (SqlCall.addSubDeviceInfo parentId gbid chlNo name).Plain ∧ gbid.length ≤ 20 ∧
    name.length ≤ 255

instance (parentId gbid : String) (chlNo : Int) (name : String) :
    Decidable (StoresSubDevice parentId gbid chlNo name) :=
  inferInstanceAs (Decidable (_ ∧ _))

theorem fk_empty (deviceInfo : Std.TreeMap Nat DeviceRow) {id : Nat} {row : SubDeviceRow}
    (h : (∅ : Std.TreeMap Nat SubDeviceRow)[id]? = some row) :
    (deviceInfo[row.parentId]?).isSome := by
  rw [Std.TreeMap.getElem?_emptyc] at h
  cases h

/-- `sub_device_info` with these rows and no others, as far as the foreign key admits them. -/
def withSubDevices (db : YxDb) : List (Nat × SubDeviceRow) → YxDb
  | [] => ⟨db.deviceInfo, ∅, fk_empty db.deviceInfo⟩
  | (id, row) :: rows =>
      let rest := db.withSubDevices rows
      if h : (rest.deviceInfo[row.parentId]?).isSome then rest.insertSubDevice id row h else rest

/-- `CDbManager::AddSubDeviceInfo`, with the id that `AUTO_INCREMENT` gives. Where a text
breaks the statement or does not fit, the table has the rows `read` afterwards. -/
def addSubDeviceInfo (db : YxDb) (id : Nat) (parentId gbid : String) (chlNo : Int)
    (name : String) (read : List (Nat × SubDeviceRow)) : YxDb :=
  if StoresSubDevice parentId gbid chlNo name then
    match db.deviceInfo.toList.find? fun item => toString item.1 = parentId with
    | some (parent, _) =>
        let row : SubDeviceRow := ⟨parent, gbid, chlNo, name⟩
        if h : (db.deviceInfo[row.parentId]?).isSome ∧ db.Admits id row then
          db.insertSubDevice id row h.1
        else db
    | none => db
  else db.withSubDevices read

theorem deviceInfo_withSubDevices (db : YxDb) (rows : List (Nat × SubDeviceRow)) :
    (db.withSubDevices rows).deviceInfo = db.deviceInfo := by
  induction rows with
  | nil => rfl
  | cons item rows ih =>
      rw [withSubDevices]
      split
      · exact ih
      · exact ih

theorem deviceInfo_addSubDeviceInfo (db : YxDb) (id : Nat) (parentId gbid : String) (chlNo : Int)
    (name : String) (read : List (Nat × SubDeviceRow)) :
    (db.addSubDeviceInfo id parentId gbid chlNo name read).deviceInfo = db.deviceInfo := by
  unfold addSubDeviceInfo
  split
  · split
    · dsimp only
      split <;> rfl
    · rfl
  · exact db.deviceInfo_withSubDevices read

theorem deviceInfo_delDeviceInfo {db : YxDb} {deviceId id : Nat}
    (h : ((db.delDeviceInfo deviceId).deviceInfo[id]?).isSome) : (db.deviceInfo[id]?).isSome := by
  rw [delDeviceInfo, OrdMap.getElem?_erase] at h
  split at h
  · cases h
  · exact h

end YxDb

end SignalingServer
