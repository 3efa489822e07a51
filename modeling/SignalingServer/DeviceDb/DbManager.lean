import Mathlib.Data.List.Basic
import SignalingServer.DeviceMng.JsonDevice
import SignalingServer.Lib.Decimal
import SignalingServer.Lib.OrdMap

/-!
The update of a device (`HttpServer::updateDevice`, `CDbManager::updateDeviceInfo`
and `BaseDevice::updateDeviceInfo`). The row is written through a statement whose
texts stand in quotes as they came, the object through its own tests. MySQL is not
part of the repository: it is an arbitrary function from the text of a statement
and the table to the new table, or to nothing when it refuses.
-/

namespace SignalingServer

/-- `device_info`, without its GB id and its times. -/
structure DeviceInfoRow where
  devType : String
  protocol : String
  deviceIp : String
  devicePort : Int
  deviceUser : String
  devicePswd : String
  deviceName : String
  deriving DecidableEq, Repr

/-- The columns that hold a text. -/
inductive TextColumn where
  | devType
  | protocol
  | deviceIp
  | deviceUser
  | devicePswd
  | deviceName
  deriving DecidableEq, Repr

namespace TextColumn

def name : TextColumn → String
  | devType => "devType"
  | protocol => "protocol"
  | deviceIp => "deviceIp"
  | deviceUser => "deviceUser"
  | devicePswd => "devicePswd"
  | deviceName => "deviceName"

/-- How many characters the `VARCHAR` of `gpDeviceInfoSql` holds. -/
def size : TextColumn → Nat
  | devType => 20
  | protocol => 20
  | deviceIp => 45
  | deviceUser => 45
  | devicePswd => 45
  | deviceName => 255

def all : List TextColumn := [devType, protocol, deviceIp, deviceUser, devicePswd, deviceName]

theorem mem_all (c : TextColumn) : c ∈ all := by
  cases c <;> decide

theorem forall_all_iff {p : TextColumn → Prop} : (∀ c ∈ all, p c) ↔ ∀ c, p c :=
  ⟨fun h c => h c c.mem_all, fun h c _ => h c⟩

instance decidableForall (p : TextColumn → Prop) [DecidablePred p] : Decidable (∀ c, p c) :=
  @decidable_of_iff _ (∀ c ∈ all, p c) forall_all_iff (List.decidableBAll p all)

end TextColumn

/-- An assignment of the `SET` clause. Only positive ports are written. -/
inductive ColumnChange where
  | text (column : TextColumn) (value : String)
  | port (value : Nat)
  deriving DecidableEq, Repr

namespace DeviceInfoRow

def text (row : DeviceInfoRow) : TextColumn → String
  | .devType => row.devType
  | .protocol => row.protocol
  | .deviceIp => row.deviceIp
  | .deviceUser => row.deviceUser
  | .devicePswd => row.devicePswd
  | .deviceName => row.deviceName

def setText (row : DeviceInfoRow) (value : String) : TextColumn → DeviceInfoRow
  | .devType => { row with devType := value }
  | .protocol => { row with protocol := value }
  | .deviceIp => { row with deviceIp := value }
  | .deviceUser => { row with deviceUser := value }
  | .devicePswd => { row with devicePswd := value }
  | .deviceName => { row with deviceName := value }

def assign (row : DeviceInfoRow) : ColumnChange → DeviceInfoRow
  | .text column value => row.setText value column
  | .port value => { row with devicePort := value }

def assignAll (row : DeviceInfoRow) (changes : List ColumnChange) : DeviceInfoRow :=
  changes.foldl assign row

end DeviceInfoRow

namespace ColumnChange

/-- The name of the column and the text between the quotes. -/
def column : ColumnChange → String
  | .text c _ => c.name
  | .port _ => "devicePort"

def literal : ColumnChange → String
  | .text _ value => value
  | .port value => toString value

/-- The text needs no escape between quotes. -/
def Plain (c : ColumnChange) : Prop :=
  ∀ ch ∈ c.literal.toList, ch ≠ '\'' ∧ ch ≠ '\\' ∧ ch ≠ Char.ofNat 0

instance (c : ColumnChange) : Decidable c.Plain :=
  List.decidableBAll (fun ch => ch ≠ '\'' ∧ ch ≠ '\\' ∧ ch ≠ Char.ofNat 0) c.literal.toList

/-- The value fits its column. -/
def Fits : ColumnChange → Prop
  | .text c value => value.length ≤ c.size
  | .port value => value < 2 ^ 31

instance (c : ColumnChange) : Decidable c.Fits := by
  cases c
  · exact inferInstanceAs (Decidable (_ ≤ _))
  · exact inferInstanceAs (Decidable (_ < _))

end ColumnChange

/-- The assignments of a statement, with commas between them. -/
def setClauses (hasUpdate : Bool) : List ColumnChange → String
  | [] => ""
  | c :: cs =>
      (if hasUpdate then "," else "") ++ " `" ++ c.column ++ "` = '" ++ c.literal ++ "'" ++
        setClauses true cs

/-- The statement of `CDbManager::updateDeviceInfo`. -/
def updateStatement (changes : List ColumnChange) (deviceId : String) : String :=
  "UPDATE `yixin`.`device_info` SET " ++ setClauses false changes ++ " WHERE (`id` = '" ++
    deviceId ++ "');"

/-- The rows of `device_info`, by id. -/
abbrev DeviceInfoTable := Std.TreeMap Nat DeviceInfoRow

/-- A MySQL server, by what it does with a statement. A statement whose texts need no
escape and fit their columns does what it says, if it is not refused. A text that is too
long is cut or refused, by the mode of the server and by what would be cut off. -/
structure MySql where
  exec : String → DeviceInfoTable → Option DeviceInfoTable
  exec_plain : ∀ {changes : List ColumnChange} {n : Nat} {table table' : DeviceInfoTable},
    (∀ c ∈ changes, c.Plain ∧ c.Fits) →
    exec (updateStatement changes (toString n)) table = some table' → ∀ id : Nat, table'[id]? =
      if id = n then (table[n]?).map (·.assignAll changes) else table[id]?

/-- A `JsonNvrDevic` with all the fields that its row has. -/
structure StoredNvr extends JsonNvrDevic where
  mName : String
  mDevType : String
  mProtocol : String
  short : toShort mPort = mPort

/-- The tests of `updateDeviceInfo`: a text is new when it is there and differs. -/
def keepOrTake (old new : String) : String := if new ≠ "" ∧ old ≠ new then new else old

def keepOrTakePort (old new : Int) : Int := if new > 0 ∧ old ≠ new then new else old

theorem short_keepOrTakePort {old new : Int} (hold : toShort old = old) (hnew : toShort new = new) :
    toShort (keepOrTakePort old new) = keepOrTakePort old new := by
  unfold keepOrTakePort
  split
  · exact hnew
  · exact hold

theorem toShort_toShort (n : Int) : toShort (toShort n) = toShort n := Int.bmod_bmod

namespace StoredNvr

/-- The row that agrees with the device. -/
def row (nvr : StoredNvr) : DeviceInfoRow where
  devType := nvr.mDevType
  protocol := nvr.mProtocol
  deviceIp := nvr.mIP
  devicePort := nvr.mPort
  deviceUser := nvr.mUser
  devicePswd := nvr.mPswd
  deviceName := nvr.mName

/-- `BaseDevice::updateDeviceInfo`. -/
def updateDeviceInfo (nvr devInfo : StoredNvr) : StoredNvr :=
  { nvr with
    mDevType := keepOrTake nvr.mDevType devInfo.mDevType
    mProtocol := keepOrTake nvr.mProtocol devInfo.mProtocol
    mIP := keepOrTake nvr.mIP devInfo.mIP
    mPort := keepOrTakePort nvr.mPort devInfo.mPort
    mUser := keepOrTake nvr.mUser devInfo.mUser
    mPswd := keepOrTake nvr.mPswd devInfo.mPswd
    mName := keepOrTake nvr.mName devInfo.mName
    short := short_keepOrTakePort nvr.short devInfo.short }

/-- The block of `CDbManager::updateDeviceInfo` for a text. -/
def textChange (column : TextColumn) (old new : String) : List ColumnChange :=
  if new ≠ "" ∧ old ≠ new then [.text column new] else []

def portChange (old new : Int) : List ColumnChange :=
  if new > 0 ∧ old ≠ new then [.port new.toNat] else []

/-- The assignments that `CDbManager::updateDeviceInfo` writes. -/
def changes (nvr newNvr : StoredNvr) : List ColumnChange :=
  textChange .devType nvr.mDevType newNvr.mDevType ++
    textChange .protocol nvr.mProtocol newNvr.mProtocol ++
    textChange .deviceIp nvr.mIP newNvr.mIP ++
    portChange nvr.mPort newNvr.mPort ++
    textChange .deviceUser nvr.mUser newNvr.mUser ++
    textChange .devicePswd nvr.mPswd newNvr.mPswd ++
    textChange .deviceName nvr.mName newNvr.mName

end StoredNvr

/-- `CDbManager::updateDeviceInfo`: what it returns, and the table. A device that is
no `JsonNvrDevic` is `none`. -/
def updateDeviceInfo (db : MySql) (table : DeviceInfoTable) (nvr : Option StoredNvr)
    (newNvr : StoredNvr) : Int × DeviceInfoTable :=
  match nvr with
  | none => (-2, table)
  | some nvr =>
      if nvr.changes newNvr = [] then (0, table)
      else
        match db.exec (updateStatement (nvr.changes newNvr) nvr.deviceId) table with
        | some table' => (0, table')
        | none => (-1, table)

/-- The `params` of an update, with the members as the C strings that they are read
as. One that is not there, or is of another type, is `none`. -/
structure UpdateParams where
  deviceId : Option Int
  name : Option String
  deviceType : Option String
  protocol : Option String
  ip : Option String
  port : Option Int
  username : Option String
  password : Option String
  deriving DecidableEq, Repr

/-- The body of a request. -/
inductive UpdateBody where
  | parseError
  | noParams
  | params (p : UpdateParams)
  deriving DecidableEq, Repr

def jsonCheckString (v : Option String) : String := v.getD ""

def jsonCheckInt32 (v : Option Int) : Int := v.getD 0

namespace UpdateParams

/-- `uint32_t deviceId`. -/
def id (p : UpdateParams) : Nat := (jsonCheckInt32 p.deviceId % 2 ^ 32).toNat

/-- `newNvr`. -/
def newNvr (p : UpdateParams) : StoredNvr where
  deviceId := toString p.id
  mIP := jsonCheckString p.ip
  mPort := toShort (jsonCheckInt32 p.port)
  mUser := jsonCheckString p.username
  mPswd := jsonCheckString p.password
  mName := jsonCheckString p.name
  mDevType := jsonCheckString p.deviceType
  mProtocol := jsonCheckString p.protocol
  short := toShort_toShort _

end UpdateParams

/-- An answer: the one for a body that is no JSON, or a code with its message and,
when the device is not found, its id and ip. -/
inductive HttpAnswer where
  | jsonError
  | reply (code : Int) (message : String) (data : Option (Nat × String))
  deriving DecidableEq, Repr

/-- `mDeviceMap` and `device_info`. -/
structure DeviceTables where
  mDeviceMap : Std.TreeMap String (Option StoredNvr)
  keyed : ∀ {id : String} {nvr : StoredNvr}, mDeviceMap[id]? = some (some nvr) → nvr.deviceId = id
  deviceInfo : DeviceInfoTable

namespace DeviceTables

/-- A write to a device that is in the table. -/
def putDevice (t : DeviceTables) (nvr : StoredNvr) : DeviceTables where
  mDeviceMap := t.mDeviceMap.insert nvr.deviceId (some nvr)
  keyed := by
    intro id nvr' h
    rcases OrdMap.insert_cases h with ⟨rfl, heq⟩ | ⟨-, h⟩
    · cases heq
      rfl
    · exact t.keyed h
  deviceInfo := t.deviceInfo

/-- `HttpServer::updateDevice`. -/
def updateDevice (t : DeviceTables) (db : MySql) : UpdateBody → DeviceTables × HttpAnswer
  | .parseError => (t, .jsonError)
  | .noParams => (t, .reply 10000 "参数错误" none)
  | .params p =>
      match t.mDeviceMap[toString p.id]? with
      | none => (t, .reply 10002 "设备未找到" (some (p.id, jsonCheckString p.ip)))
      | some oldNvr =>
          let (result, table) := SignalingServer.updateDeviceInfo db t.deviceInfo oldNvr p.newNvr
          match result, oldNvr with
          | 0, some nvr =>
              ({ t with deviceInfo := table }.putDevice (nvr.updateDeviceInfo p.newNvr),
                .reply 200 "更新成功" none)
          | _, _ => ({ t with deviceInfo := table }, .reply 10001 "更新失败" none)

end DeviceTables

/-! ### Both writers make the same of the fields -/

namespace DeviceInfoRow

theorem setText_text (row : DeviceInfoRow) (c : TextColumn) : row.setText (row.text c) c = row := by
  cases c <;> rfl

theorem assignAll_textChange {row : DeviceInfoRow} {c : TextColumn} {old : String}
    (h : row.text c = old) (new : String) (cs : List ColumnChange) :
    row.assignAll (StoredNvr.textChange c old new ++ cs) =
      (row.setText (keepOrTake old new) c).assignAll cs := by
  unfold StoredNvr.textChange keepOrTake
  split
  · rfl
  · rw [← h, setText_text]
    rfl

theorem assignAll_portChange {row : DeviceInfoRow} {old : Int} (h : row.devicePort = old)
    (new : Int) (cs : List ColumnChange) :
    row.assignAll (StoredNvr.portChange old new ++ cs) =
      { row with devicePort := keepOrTakePort old new }.assignAll cs := by
  unfold StoredNvr.portChange keepOrTakePort
  split
  · rename_i hnew
    have hcast : (new.toNat : Int) = new := Int.toNat_of_nonneg (by omega)
    simp only [assignAll, List.singleton_append, List.foldl_cons, assign, hcast]
  · rw [← h]
    rfl

end DeviceInfoRow

namespace StoredNvr

/-- What the statement says is what the object becomes. -/
theorem assignAll_changes (nvr newNvr : StoredNvr) :
    nvr.row.assignAll (nvr.changes newNvr) = (nvr.updateDeviceInfo newNvr).row := by
  unfold changes
  simp only [List.append_assoc]
  -- One assignment after the other, each on a row that still has the old value.
  rw [DeviceInfoRow.assignAll_textChange, DeviceInfoRow.assignAll_textChange,
    DeviceInfoRow.assignAll_textChange, DeviceInfoRow.assignAll_portChange,
    DeviceInfoRow.assignAll_textChange, DeviceInfoRow.assignAll_textChange,
    ← List.append_nil (textChange _ _ _), DeviceInfoRow.assignAll_textChange] <;> rfl

end StoredNvr

/-! ### A statement with plain texts can be read in one way only -/

/-- What stands in front of the quoted text of an assignment. -/
def setLead (hasUpdate : Bool) (column : String) : String :=
  (if hasUpdate then "," else "") ++ " `" ++ column ++ "` = "

/-- The pieces of a statement between its quotes, from the first assignment on. -/
def quotedPieces (id : String) (hasUpdate : Bool) : List ColumnChange → List (List Char)
  | [] => [" WHERE (`id` = ".toList, id.toList, ");".toList]
  | c :: cs => (setLead hasUpdate c.column).toList :: c.literal.toList :: quotedPieces id true cs

theorem quotedPieces_ne_nil (id : String) (b : Bool) (cs : List ColumnChange) :
    quotedPieces id b cs ≠ [] := by
  cases cs <;> exact List.cons_ne_nil _ _

theorem toList_setClauses (id : String) (b : Bool) (cs : List ColumnChange) :
    (setClauses b cs ++ (" WHERE (`id` = '" ++ id ++ "');")).toList =
      ['\''].intercalate (quotedPieces id b cs) := by
  induction cs generalizing b with
  | nil =>
      have hlead : " WHERE (`id` = '".toList = " WHERE (`id` = ".toList ++ ['\''] := rfl
      have hend : "');".toList = '\'' :: ");".toList := rfl
      rw [setClauses, quotedPieces, List.intercalate_cons_cons, List.intercalate_cons_cons,
        List.intercalate_singleton]
      simp only [String.toList_append, hlead, hend, List.append_assoc]
      rfl
  | cons c cs ih =>
      have hquote : "` = '".toList = "` = ".toList ++ ['\''] := rfl
      have hend : "'".toList = ['\''] := rfl
      rw [quotedPieces, List.intercalate_cons_cons,
        List.intercalate_cons_of_ne_nil (quotedPieces_ne_nil id true cs), ← ih]
      simp only [setClauses, setLead, String.toList_append, hquote, hend, List.append_assoc]

theorem setLead_inj {b : Bool} {column column' : String}
    (h : setLead b column = setLead b column') : column = column' := by
  simpa [setLead, String.append_assoc] using h

/-- The lead of a column has no quote in it, and is not the start of the condition. -/
theorem setLead_column (b : Bool) (c : ColumnChange) :
    '\'' ∉ (setLead b c.column).toList ∧
      (setLead b c.column).toList ≠ " WHERE (`id` = ".toList := by
  cases c with
  | text column value =>
      simp only [ColumnChange.column]
      cases column <;> cases b <;> decide
  | port value =>
      simp only [ColumnChange.column]
      cases b <;> decide

theorem not_mem_quotedPieces {id : String} (hid : '\'' ∉ id.toList) (b : Bool)
    {cs : List ColumnChange} (hplain : ∀ c ∈ cs, c.Plain) :
    ∀ piece ∈ quotedPieces id b cs, '\'' ∉ piece := by
  induction cs generalizing b with
  | nil =>
      intro piece hpiece
      simp only [quotedPieces, List.mem_cons, List.not_mem_nil, or_false] at hpiece
      rcases hpiece with rfl | rfl | rfl
      · decide
      · exact hid
      · decide
  | cons c cs ih =>
      intro piece hpiece
      rcases List.mem_cons.mp hpiece with rfl | hpiece
      · exact (setLead_column b c).1
      · rcases List.mem_cons.mp hpiece with rfl | hpiece
        · exact fun hquote => (hplain c List.mem_cons_self _ hquote).1 rfl
        · exact ih true (fun c' hc' => hplain c' (List.mem_cons_of_mem _ hc')) piece hpiece

theorem TextColumn.name_inj {c c' : TextColumn} (h : c.name = c'.name) : c = c' := by
  revert h
  cases c <;> cases c' <;> decide

theorem TextColumn.name_ne_devicePort (c : TextColumn) : c.name ≠ "devicePort" := by
  cases c <;> decide

theorem ColumnChange.eq_of_literal {c c' : ColumnChange} (hcolumn : c.column = c'.column)
    (hliteral : c.literal = c'.literal) : c = c' := by
  cases c with
  | text column value =>
      cases c' with
      | text column' value' =>
          obtain rfl : column = column' := TextColumn.name_inj hcolumn
          obtain rfl : value = value' := hliteral
          rfl
      | port value' => exact absurd hcolumn column.name_ne_devicePort
  | port value =>
      cases c' with
      | text column' value' => exact absurd hcolumn.symm column'.name_ne_devicePort
      | port value' => exact congrArg _ (Decimal.toString_inj hliteral)

theorem quotedPieces_inj {id id' : String} {b : Bool} {cs cs' : List ColumnChange}
    (h : quotedPieces id b cs = quotedPieces id' b cs') : cs = cs' ∧ id = id' := by
  induction cs generalizing b cs' with
  | nil =>
      cases cs' with
      | nil =>
          injection h with _ h
          injection h with h _
          exact ⟨rfl, String.toList_inj.mp h⟩
      | cons c' cs' =>
          injection h with h _
          exact absurd h.symm (setLead_column b c').2
  | cons c cs ih =>
      cases cs' with
      | nil =>
          injection h with h _
          exact absurd h (setLead_column b c).2
      | cons c' cs' =>
          injection h with hlead h
          injection h with hliteral h
          obtain ⟨rfl, rfl⟩ := ih h
          have hsame : c = c' := ColumnChange.eq_of_literal
            (setLead_inj (String.toList_inj.mp hlead)) (String.toList_inj.mp hliteral)
          exact ⟨congrArg (· :: cs) hsame, rfl⟩

/-- Two statements with plain texts that read the same say the same. -/
theorem updateStatement_inj {cs cs' : List ColumnChange} {n n' : Nat}
    (hplain : ∀ c ∈ cs, c.Plain) (hplain' : ∀ c ∈ cs', c.Plain)
    (h : updateStatement cs (toString n) = updateStatement cs' (toString n')) :
    cs = cs' ∧ n = n' := by
  have hdigits : ∀ m : Nat, '\'' ∉ (toString m).toList := by
    intro m hquote
    rw [Nat.toString_eq_repr, Nat.toList_repr] at hquote
    exact absurd (Nat.isDigit_of_mem_toDigits (by decide) (by decide) hquote) (by decide)
  have hpieces : ['\''].intercalate (quotedPieces (toString n) false cs) =
      ['\''].intercalate (quotedPieces (toString n') false cs') := by
    rw [← toList_setClauses, ← toList_setClauses]
    unfold updateStatement at h
    simp only [String.append_assoc] at h
    exact congrArg String.toList (String.append_right_inj _ |>.mp h)
  have hsplit := congrArg (List.splitOn '\'') hpieces
  rw [List.splitOn_intercalate _ (not_mem_quotedPieces (hdigits n) false hplain)
      (quotedPieces_ne_nil _ _ _),
    List.splitOn_intercalate _ (not_mem_quotedPieces (hdigits n') false hplain')
      (quotedPieces_ne_nil _ _ _)] at hsplit
  obtain ⟨hcs, hid⟩ := quotedPieces_inj hsplit
  exact ⟨hcs, Decimal.toString_inj hid⟩

/-- A server that executes one statement and refuses every other. -/
def MySql.executing (changes : List ColumnChange) (n : Nat) (hplain : ∀ c ∈ changes, c.Plain) : MySql where
  exec statement table :=
    if statement = updateStatement changes (toString n) then
      some (match table[n]? with
        | some row => table.insert n (row.assignAll changes)
        | none => table)
    else none
  exec_plain := by
    intro changes' n' table table' hplain' hexec id
    split at hexec
    · rename_i hsame
      obtain ⟨rfl, rfl⟩ := updateStatement_inj (fun c hc => (hplain' c hc).1) hplain hsame
      obtain rfl := Option.some.inj hexec
      cases hrow : table[n']? with
      | none =>
          dsimp only
          split
          · rename_i heq
            rw [heq, hrow]
            rfl
          · rfl
      | some row =>
          dsimp only
          rw [OrdMap.getElem?_insert]
          rfl
    · cases hexec

/-! ### The update of a device -/

/-- The device has what the request asks for. -/
structure UpdateParams.Requested (p : UpdateParams) (row : DeviceInfoRow) : Prop where
  deviceType : ∀ v, p.deviceType = some v → v ≠ "" → row.devType = v
  protocol : ∀ v, p.protocol = some v → v ≠ "" → row.protocol = v
  ip : ∀ v, p.ip = some v → v ≠ "" → row.deviceIp = v
  port : ∀ v, p.port = some v → row.devicePort = v
  username : ∀ v, p.username = some v → v ≠ "" → row.deviceUser = v
  password : ∀ v, p.password = some v → v ≠ "" → row.devicePswd = v
  name : ∀ v, p.name = some v → v ≠ "" → row.deviceName = v

theorem keepOrTake_of_ne {new : String} (h : new ≠ "") (old : String) : keepOrTake old new = new := by
  unfold keepOrTake
  split
  · rfl
  · rename_i hsame
    by_contra hne
    exact hsame ⟨h, hne⟩

theorem keepOrTake_requested {member : Option String} {v : String} (h : member = some v)
    (hne : v ≠ "") (old : String) : keepOrTake old (jsonCheckString member) = v := by
  rw [h]
  exact keepOrTake_of_ne hne old

theorem toShort_of_lt {n : Int} (hpos : 0 < n) (hlt : n < 2 ^ 15) : toShort n = n := by
  rw [toShort, Int.bmod_def]
  split <;> omega

theorem toShort_lt (n : Int) : toShort n < 2 ^ 15 := by
  rw [toShort, Int.bmod_def]
  split <;> omega

/-- The object has what the request asks for, unless that is a port from 2^15 on. -/
theorem requested_updateDeviceInfo_iff (nvr : StoredNvr) (p : UpdateParams)
    (hport : ∀ v, p.port = some v → 0 < v ∧ v < 2 ^ 16) :
    p.Requested (nvr.updateDeviceInfo p.newNvr).row ↔ ∀ v, p.port = some v → v < 2 ^ 15 := by
  constructor
  · intro h v hv
    -- No port of an object is 2^15 or more.
    have hmem : (nvr.updateDeviceInfo p.newNvr).mPort = v := h.port v hv
    rw [← hmem, ← (nvr.updateDeviceInfo p.newNvr).short]
    exact toShort_lt _
  · intro h
    refine { deviceType := fun v hv hne => keepOrTake_requested hv hne _
             protocol := fun v hv hne => keepOrTake_requested hv hne _
             ip := fun v hv hne => keepOrTake_requested hv hne _
             port := ?port
             username := fun v hv hne => keepOrTake_requested hv hne _
             password := fun v hv hne => keepOrTake_requested hv hne _
             name := fun v hv hne => keepOrTake_requested hv hne _ }
    intro v hv
    have hpos := (hport v hv).1
    have hnew : p.newNvr.mPort = v := by
      show toShort (jsonCheckInt32 p.port) = v
      rw [hv]
      exact toShort_of_lt hpos (h v hv)
    show keepOrTakePort nvr.mPort p.newNvr.mPort = v
    rw [hnew, keepOrTakePort]
    split
    · rfl
    · rename_i hsame
      by_contra hne
      exact hsame ⟨hpos, hne⟩

/-- The code of an answer that reports success. -/
def HttpAnswer.Success (a : HttpAnswer) : Prop := ∃ message data, a = .reply 200 message data

/-- The tables after an update of the device agree, with what the request asks for. -/
def DeviceTables.Updated (t : DeviceTables) (p : UpdateParams) : Prop :=
  ∃ nvr, t.mDeviceMap[toString p.id]? = some (some nvr) ∧ t.deviceInfo[p.id]? = some nvr.row ∧
    p.Requested nvr.row

/-- A text that needs an escape or does not fit is stored as it stands all the same. -/
def MySql.StoresAsGiven (db : MySql) (table : DeviceInfoTable) (id : Nat)
    (changes : List ColumnChange) : Prop :=
  (∃ c ∈ changes, ¬ (c.Plain ∧ c.Fits)) → ∀ table',
    db.exec (updateStatement changes (toString id)) table = some table' →
      table'[id]? = (table[id]?).map (·.assignAll changes)

namespace DeviceTables

/-- A request that succeeds has written the object, and the row if there was
something to write. -/
theorem updateDevice_success {t : DeviceTables} {db : MySql} {p : UpdateParams} {nvr : StoredNvr}
    (hfind : t.mDeviceMap[toString p.id]? = some (some nvr))
    (hsuccess : (t.updateDevice db (.params p)).2.Success) :
    ∃ table, (t.updateDevice db (.params p)).1 =
        { t with deviceInfo := table }.putDevice (nvr.updateDeviceInfo p.newNvr) ∧
      (nvr.changes p.newNvr = [] ∧ table = t.deviceInfo ∨
        db.exec (updateStatement (nvr.changes p.newNvr) (toString p.id)) t.deviceInfo =
          some table) := by
  have hid : nvr.deviceId = toString p.id := t.keyed hfind
  obtain ⟨message, data, hcode⟩ := hsuccess
  by_cases hnone : nvr.changes p.newNvr = []
  · refine ⟨t.deviceInfo, ?_, .inl ⟨hnone, rfl⟩⟩
    simp only [updateDevice, hfind, SignalingServer.updateDeviceInfo, if_pos hnone]
  · cases hexec : db.exec (updateStatement (nvr.changes p.newNvr) (toString p.id)) t.deviceInfo with
    | none =>
        simp only [updateDevice, hfind, SignalingServer.updateDeviceInfo, if_neg hnone, hid,
          hexec] at hcode
        cases hcode
    | some table =>
        refine ⟨table, ?_, .inr rfl⟩
        simp only [updateDevice, hfind, SignalingServer.updateDeviceInfo, if_neg hnone, hid, hexec]

theorem find_putDevice (t : DeviceTables) {nvr : StoredNvr} {id : String} (hid : nvr.deviceId = id) :
    (t.putDevice nvr).mDeviceMap[id]? = some (some nvr) := by
  show (t.mDeviceMap.insert nvr.deviceId (some nvr))[id]? = _
  rw [OrdMap.getElem?_insert, if_pos hid.symm]

/-- After an update that reports success the row and the object agree, with what the
request asks for, exactly when the port fits a `short` and texts that need an escape
or do not fit their columns are stored as they stand. -/
theorem updateDevice_updated_iff (db : MySql) (t : DeviceTables) (p : UpdateParams)
    (nvr : StoredNvr) (hfind : t.mDeviceMap[toString p.id]? = some (some nvr))
    (hagree : t.deviceInfo[p.id]? = some nvr.row)
    (hport : ∀ v, p.port = some v → 0 < v ∧ v < 2 ^ 16)
    (hsuccess : (t.updateDevice db (.params p)).2.Success) :
    (t.updateDevice db (.params p)).1.Updated p ↔
      (∀ v, p.port = some v → v < 2 ^ 15) ∧
        db.StoresAsGiven t.deviceInfo p.id (nvr.changes p.newNvr) := by
  obtain ⟨table, hafter, htable⟩ := updateDevice_success hfind hsuccess
  have hkey : nvr.deviceId = toString p.id := t.keyed hfind
  have hid : (nvr.updateDeviceInfo p.newNvr).deviceId = toString p.id := hkey
  have hobject := find_putDevice { t with deviceInfo := table } hid
  have hrow : (t.deviceInfo[p.id]?).map (·.assignAll (nvr.changes p.newNvr)) =
      some (nvr.updateDeviceInfo p.newNvr).row := by
    rw [hagree, Option.map_some, nvr.assignAll_changes]
  rw [hafter]
  constructor
  · rintro ⟨nvr', hnvr', hstored, hrequested⟩
    rw [hobject] at hnvr'
    obtain rfl : nvr.updateDeviceInfo p.newNvr = nvr' := Option.some.inj (Option.some.inj hnvr')
    refine ⟨(requested_updateDeviceInfo_iff nvr p hport).mp hrequested, ?_⟩
    rintro ⟨c, hc, -⟩ table' hexec
    rcases htable with ⟨hnone, -⟩ | hexec'
    · rw [hnone] at hc
      cases hc
    · rw [hexec] at hexec'
      cases hexec'
      rw [hrow]
      exact hstored
  · rintro ⟨hlt, hstores⟩
    refine ⟨_, hobject, ?_, (requested_updateDeviceInfo_iff nvr p hport).mpr hlt⟩
    show table[p.id]? = _
    rw [← hrow]
    rcases htable with ⟨hnone, rfl⟩ | hexec
    · rw [hnone]
      exact Option.map_id'.symm
    · by_cases hplain : ∀ c ∈ nvr.changes p.newNvr, c.Plain ∧ c.Fits
      · rw [db.exec_plain hplain hexec, if_pos rfl]
      · simp only [not_forall, exists_prop] at hplain
        exact hstores hplain table hexec

/-- Device 7 with its row. -/
def storedNvr : StoredNvr where
  deviceId := "7"
  mIP := "192.168.1.10"
  mPort := 8000
  mUser := "admin"
  mPswd := "admin"
  mName := "gate"
  mDevType := "NVR"
  mProtocol := "JSON"
  short := rfl

def storedTables : DeviceTables where
  mDeviceMap := (∅ : Std.TreeMap String (Option StoredNvr)).insert "7" (some storedNvr)
  keyed := by
    intro id nvr h
    rcases OrdMap.insert_cases h with ⟨rfl, heq⟩ | ⟨-, hnone⟩
    · cases heq
      rfl
    · simp at hnone
  deviceInfo := (∅ : DeviceInfoTable).insert 7 storedNvr.row

/-- A request for another name and port of device 7. -/
def renameRequest (port : Int) : UpdateParams where
  deviceId := some 7
  name := some "yard"
  deviceType := none
  protocol := none
  ip := none
  port := some port
  username := none
  password := none

def renameServer : MySql := .executing [.text .deviceName "yard"] 7 (by decide)

theorem updateDevice_updated_8554 :
    (storedTables.updateDevice (.executing [.port 8554, .text .deviceName "yard"] 7 (by decide))
        (.params (renameRequest 8554))).1.Updated (renameRequest 8554) ↔
      (∀ v, (renameRequest 8554).port = some v → v < 2 ^ 15) ∧
        (MySql.executing [.port 8554, .text .deviceName "yard"] 7 (by decide)).StoresAsGiven
          storedTables.deviceInfo (renameRequest 8554).id
          (storedNvr.changes (renameRequest 8554).newNvr) :=
  updateDevice_updated_iff (.executing [.port 8554, .text .deviceName "yard"] 7 (by decide))
    storedTables (renameRequest 8554) storedNvr rfl rfl
    (fun _ hv => Option.some.inj hv ▸ ⟨by decide, by decide⟩) ⟨"更新成功", none, by decide⟩

/-- Port 40000 is reported as stored and stays 8000 in the row and in the object. -/
theorem port_40000_dropped :
    (storedTables.updateDevice renameServer (.params (renameRequest 40000))).2.Success ∧
      (storedTables.updateDevice renameServer (.params (renameRequest 40000))).1.deviceInfo[7]? =
        some { storedNvr.row with deviceName := "yard" } ∧
      ¬ (storedTables.updateDevice renameServer (.params (renameRequest 40000))).1.Updated
        (renameRequest 40000) := by
  refine ⟨⟨"更新成功", none, by decide⟩, by decide, ?_⟩
  rintro ⟨nvr, -, -, hrequested⟩
  have hport : nvr.mPort = 40000 := hrequested.port 40000 rfl
  have hlt := toShort_lt nvr.mPort
  rw [nvr.short, hport] at hlt
  exact absurd hlt (by decide)

end DeviceTables

end SignalingServer
