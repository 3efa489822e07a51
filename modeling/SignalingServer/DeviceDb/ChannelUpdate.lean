import SignalingServer.DeviceDb.SqlStatements
import SignalingServer.DeviceDb.YxDb
import SignalingServer.DeviceMng.DeviceMng
import SignalingServer.Lib.Lts

/-!
The update of a channel (`HttpServer::updateChannel`, `CDbManager::updateChannelInfo`).
The row is only written for a name that is there and differs; the object gets any name
that comes back with 0. MySQL is an arbitrary function of the statement and the table,
which does what a statement says if it is read as it was meant and its name fits the
column.
-/

namespace SignalingServer

open Lts SqlText

/-- The rows of `sub_device_info`, by id. -/
abbrev SubDeviceTable := Std.TreeMap Nat SubDeviceRow

/-- The name is read as it was meant, and fits the `VARCHAR(255)` of `channelName`. -/
def Storable (name : String) : Prop := Verbatim name.toList ∧ name.length ≤ 255

instance (name : String) : Decidable (Storable name) := inferInstanceAs (Decidable (_ ∧ _))

/-- A MySQL server, by what it does with the statement of a channel; it may refuse one. A
name that is too long is cut or refused, by the mode of the server and by what would be
cut off. -/
structure ChannelServer where
  exec : String → SubDeviceTable → Option SubDeviceTable
  exec_storable : ∀ {name : String} {n : Nat} {table table' : SubDeviceTable},
    Storable name → exec (updateChannelStatement name (toString n)) table = some table' →
    ∀ id : Nat, table'[id]? =
      if id = n then (table[n]?).map ({ · with channelName := name }) else table[id]?

/-- Two names that need no escape give the same statement only if they are the same. -/
theorem updateChannelStatement_inj {name name' : String} {n n' : Nat}
    (hname : Verbatim name.toList) (hname' : Verbatim name'.toList)
    (h : updateChannelStatement name (toString n) = updateChannelStatement name' (toString n')) :
    name = name' ∧ n = n' := by
  have hlex : ∀ {v : String} (k : Nat), Verbatim v.toList →
      lex (updateChannelStatement v (toString k)).toList = some
        (SqlStatement.update "yixin" "sub_device_info" ("channelName", v) [] "id"
          (toString k)).tokens :=
    fun k hv => (lex_updateChannelStatement _ _).mpr ⟨hv, verbatim_nat k⟩
  have htokens := hlex n hname
  rw [h, hlex n' hname'] at htokens
  simp only [SqlStatement.tokens, SqlStatement.commaSeparated, SqlStatement.assignTokens,
    List.map_cons, List.map_nil, List.cons_append, List.nil_append, Option.some.injEq,
    List.cons.injEq, Token.str.injEq, String.toList_inj, true_and, and_true] at htokens
  exact ⟨htokens.1.symm, Decimal.toString_inj htokens.2.symm⟩

/-- A server that executes one statement and refuses every other. -/
def ChannelServer.executing (name : String) (n : Nat) (hname : Verbatim name.toList) :
    ChannelServer where
  exec statement table :=
    if statement = updateChannelStatement name (toString n) then
      some (match table[n]? with
        | some row => table.insert n { row with channelName := name }
        | none => table)
    else none
  exec_storable := by
    intro name' n' table table' hname' hexec id
    split at hexec
    · rename_i hsame
      obtain ⟨rfl, rfl⟩ := updateChannelStatement_inj hname'.1 hname hsame
      obtain rfl := Option.some.inj hexec
      cases hrow : table[n']? with
      | none =>
          dsimp only
          split
          · rename_i heq
            rw [heq, hrow]
            rfl
          · rfl
      | some row =>
          dsimp only
          rw [OrdMap.getElem?_insert]
          rfl
    · cases hexec

/-- `CDbManager::updateChannelInfo`. Every child is a `JsonChildDevic`. -/
def updateChannelInfo (db : ChannelServer) (table : SubDeviceTable)
    (channel newChannel : JsonChildDevic) : Int × SubDeviceTable :=
  if newChannel.name ≠ "" ∧ channel.name ≠ newChannel.name then
    match db.exec (updateChannelStatement newChannel.name channel.deviceId) table with
    | some table' => (0, table')
    | none => (-1, table)
  else (0, table)

/-- The `params` of an update, with the members as the C strings that they are read as. -/
structure ChannelParams where
  deviceId : Option Int
  channelName : Option String
  deriving DecidableEq, Repr

/-- The body of a request. -/
inductive ChannelBody where
  | parseError
  | noParams
  | params (p : ChannelParams)
  deriving DecidableEq, Repr

/-- An answer: the one for a body that is no JSON, or a code with its message and the id
of a device that is not found. -/
inductive ChannelAnswer where
  | jsonError
  | reply (code : Int) (message : String) (data : Option Nat)
  deriving DecidableEq, Repr

namespace ChannelParams

/-- `uint32_t deviceId`. -/
def id (p : ChannelParams) : Nat := (jsonCheckInt32 p.deviceId % 2 ^ 32).toNat

def newName (p : ChannelParams) : String := jsonCheckString p.channelName

/-- `newChannel`. -/
def newChannel (p : ChannelParams) : JsonChildDevic :=
  { deviceId := toString p.id, name := p.newName }

end ChannelParams

/-- `mChildMap` and `sub_device_info`. -/
structure ChannelTables where
  children : ChildMap
  subDeviceInfo : SubDeviceTable

namespace ChannelTables

/-- `HttpServer::updateChannel`. -/
def updateChannel (t : ChannelTables) (db : ChannelServer) :
    ChannelBody → ChannelTables × ChannelAnswer
  | .parseError => (t, .jsonError)
  | .noParams => (t, .reply 10000 "参数错误" none)
  | .params p =>
      match t.children.findChildDevice (toString p.id) with
      | none => (t, .reply 10002 "设备未找到" (some p.id))
      | some channel =>
          let (result, table) := updateChannelInfo db t.subDeviceInfo channel p.newChannel
          if result = 0 then
            ({ children := t.children.addChildDevice { channel with name := p.newName }
               subDeviceInfo := table }, .reply 200 "更新成功" none)
          else ({ t with subDeviceInfo := table }, .reply 10001 "更新失败" none)

/-- The requests come one after the other, each with the server as it is then. -/
def step : Step ChannelTables (ChannelServer × ChannelBody) :=
  fun t r => some (t.updateChannel r.1 r.2).1

/-- The name of a child in memory, and in its row. -/
def memoryName (t : ChannelTables) (d : Nat) : Option String :=
  (t.children.findChildDevice (toString d)).map (·.name)

def rowName (t : ChannelTables) (d : Nat) : Option String :=
  (t.subDeviceInfo[d]?).map (·.channelName)

/-- The child is there, and its row has the same name. -/
def Agree (d : Nat) (t : ChannelTables) : Prop :=
  (t.memoryName d).isSome ∧ t.rowName d = t.memoryName d

/-- A request that finds `channel` leaves the child `d` and its row in agreement: an empty
name comes only when the name is empty already; and a name that needs an escape or is too
long ends up in the row as it is, and in no other row, if the statement is not refused. -/
structure Harmless (t : ChannelTables) (d : Nat) (db : ChannelServer) (p : ChannelParams)
    (channel : JsonChildDevic) : Prop where
  empty : p.newName = "" → p.id = d → channel.name = ""
  altered : ¬ Storable p.newName → channel.name ≠ p.newName → ∀ table',
    db.exec (updateChannelStatement p.newName (toString p.id)) t.subDeviceInfo = some table' →
      (table'[d]?).map (·.channelName) = if p.id = d then some p.newName else t.rowName d

def KeepsName (d : Nat) (t : ChannelTables) (r : ChannelServer × ChannelBody) : Prop :=
  ∀ p channel, r.2 = .params p → t.children.findChildDevice (toString p.id) = some channel →
    t.Harmless d r.1 p channel

/-- What a request does to the tables. -/
theorem updateChannel_params {t : ChannelTables} {p : ChannelParams} {channel : JsonChildDevic}
    (hfind : t.children.findChildDevice (toString p.id) = some channel) (db : ChannelServer) :
    (t.updateChannel db (.params p)).1 =
      if p.newName ≠ "" ∧ channel.name ≠ p.newName then
        match db.exec (updateChannelStatement p.newName (toString p.id)) t.subDeviceInfo with
        | some table' =>
            ⟨t.children.addChildDevice { channel with name := p.newName }, table'⟩
        | none => t
      else ⟨t.children.addChildDevice { channel with name := p.newName }, t.subDeviceInfo⟩ := by
  have hid : channel.deviceId = toString p.id := t.children.keyed _ _ hfind
  have hname : p.newChannel.name = p.newName := rfl
  simp only [updateChannel, hfind, updateChannelInfo, hid, hname]
  by_cases hnew : p.newName ≠ "" ∧ channel.name ≠ p.newName
  · rw [if_pos hnew, if_pos hnew]
    cases db.exec (updateChannelStatement p.newName (toString p.id)) t.subDeviceInfo with
    | none => simp
    | some table' => simp
  · rw [if_neg hnew, if_neg hnew]
    simp

theorem memoryName_addChildDevice {t : ChannelTables} {p : ChannelParams}
    {channel : JsonChildDevic} (hid : channel.deviceId = toString p.id) (name : String)
    (table : SubDeviceTable) (d : Nat) :
    memoryName ⟨t.children.addChildDevice { channel with name := name }, table⟩ d =
      if p.id = d then some name else t.memoryName d := by
  have hmap : (t.children.addChildDevice { channel with name := name }).findChildDevice
      (toString d) = if toString d = channel.deviceId then some { channel with name := name }
        else t.children.findChildDevice (toString d) := OrdMap.getElem?_insert _ _ _ _
  rw [memoryName, hmap, hid]
  by_cases heq : p.id = d
  · rw [if_pos heq, heq, if_pos rfl]
    rfl
  · have hne : toString d ≠ toString p.id := fun h => heq (Decimal.toString_inj h).symm
    rw [if_neg heq, if_neg hne]
    rfl

/-- After a write to the object, the child agrees if the row has that name too. -/
theorem agree_write_iff {t : ChannelTables} {p : ChannelParams} {channel : JsonChildDevic} {d : Nat}
    (hagree : t.Agree d) (hid : channel.deviceId = toString p.id) (name : String)
    (table : SubDeviceTable) :
    Agree d ⟨t.children.addChildDevice { channel with name := name }, table⟩ ↔
      (table[d]?).map (·.channelName) = if p.id = d then some name else t.rowName d := by
  have hmemory := memoryName_addChildDevice (t := t) hid name table d
  have hsome : (if p.id = d then some name else t.memoryName d).isSome := by
    split
    · rfl
    · exact hagree.1
  rw [Agree, hmemory, hagree.2]
  exact and_iff_right hsome

/-- A name that goes to the server. -/
theorem agree_exec_iff {t : ChannelTables} {p : ChannelParams} {channel : JsonChildDevic} {d : Nat}
    (hagree : t.Agree d) (hid : channel.deviceId = toString p.id) {db : ChannelServer}
    (hnew : p.newName ≠ "" ∧ channel.name ≠ p.newName) {table' : SubDeviceTable}
    (hexec : db.exec (updateChannelStatement p.newName (toString p.id)) t.subDeviceInfo =
      some table') :
    Agree d ⟨t.children.addChildDevice { channel with name := p.newName }, table'⟩ ↔
      t.Harmless d db p channel := by
  rw [agree_write_iff hagree hid]
  constructor
  · intro hrow
    refine ⟨fun hempty => absurd hempty hnew.1, fun _ _ table hexec' => ?_⟩
    rw [hexec] at hexec'
    cases hexec'
    exact hrow
  · intro hharmless
    by_cases hstorable : Storable p.newName
    · rw [db.exec_storable hstorable hexec]
      by_cases heq : p.id = d
      · obtain ⟨name, hname⟩ := Option.isSome_iff_exists.mp hagree.1
        obtain ⟨row, hrow, -⟩ := Option.map_eq_some_iff.mp (hagree.2.trans hname)
        rw [if_pos heq, if_pos heq.symm, heq, hrow]
        rfl
      · rw [if_neg heq, if_neg (Ne.symm heq)]
        rfl
    · exact hharmless.altered hstorable hnew.2 _ hexec

/-- A name that is empty or the old one, for which there is no statement. -/
theorem agree_skip_iff {t : ChannelTables} {p : ChannelParams} {channel : JsonChildDevic} {d : Nat}
    (hagree : t.Agree d) (hfind : t.children.findChildDevice (toString p.id) = some channel)
    (db : ChannelServer) (hold : p.newName = "" ∨ channel.name = p.newName) :
    Agree d ⟨t.children.addChildDevice { channel with name := p.newName }, t.subDeviceInfo⟩ ↔
      t.Harmless d db p channel := by
  rw [agree_write_iff hagree (t.children.keyed _ _ hfind)]
  have hrow : p.id = d → t.rowName d = some channel.name := by
    rintro rfl
    rw [hagree.2, memoryName, hfind]
    rfl
  constructor
  · intro hname
    constructor
    · intro hempty heq
      rw [if_pos heq] at hname
      have hsame := (hrow heq).symm.trans hname
      exact (Option.some.inj hsame).trans hempty
    · intro halter hdiffers
      rcases hold with hempty | hsame
      · rw [hempty] at halter
        exact absurd ⟨rfl, Nat.zero_le _⟩ halter
      · exact absurd hsame hdiffers
  · intro hharmless
    by_cases heq : p.id = d
    · have hsame : channel.name = p.newName := by
        rcases hold with hempty | hsame
        · rw [hempty, hharmless.empty hempty heq]
        · exact hsame
      rw [if_pos heq, ← hsame]
      exact hrow heq
    · rw [if_neg heq]
      rfl

/-- One request keeps the agreement exactly if it meets the condition. -/
theorem agree_updateChannel_iff {t : ChannelTables} {d : Nat} (hagree : t.Agree d)
    (db : ChannelServer) (body : ChannelBody) :
    (t.updateChannel db body).1.Agree d ↔ t.KeepsName d (db, body) := by
  cases body with
  | parseError => exact iff_of_true hagree nofun
  | noParams => exact iff_of_true hagree nofun
  | params p =>
      cases hfind : t.children.findChildDevice (toString p.id) with
      | none =>
          have hsame : (t.updateChannel db (.params p)).1 = t := by simp only [updateChannel, hfind]
          rw [hsame]
          refine iff_of_true hagree ?_
          rintro p' channel ⟨⟩ hchannel
          rw [hfind] at hchannel
          cases hchannel
      | some channel =>
          have hkeeps : t.KeepsName d (db, .params p) ↔ t.Harmless d db p channel := by
            constructor
            · exact fun h => h p channel rfl hfind
            · rintro h p' channel' ⟨⟩ hchannel
              rw [hfind] at hchannel
              cases hchannel
              exact h
          rw [updateChannel_params hfind, hkeeps]
          by_cases hnew : p.newName ≠ "" ∧ channel.name ≠ p.newName
          · rw [if_pos hnew]
            cases hexec : db.exec (updateChannelStatement p.newName (toString p.id))
                t.subDeviceInfo with
            | none =>
                refine iff_of_true hagree ⟨fun hempty => absurd hempty hnew.1, ?_⟩
                intro _ _ table' hexec'
                rw [hexec] at hexec'
                cases hexec'
            | some table' =>
                exact agree_exec_iff hagree (t.children.keyed _ _ hfind) hnew hexec
          · rw [if_neg hnew]
            apply agree_skip_iff hagree hfind db
            rw [not_and_or, not_not, not_not] at hnew
            exact hnew

theorem keepsName_of_storable (d : Nat) (t : ChannelTables) (db : ChannelServer) {p : ChannelParams}
    (hne : p.newName ≠ "") (hstorable : Storable p.newName) :
    t.KeepsName d (db, .params p) := by
  rintro p' channel ⟨⟩ -
  exact ⟨fun hempty => absurd hempty hne, fun halter => absurd hstorable halter⟩

/-- After each request the child and its row have the same name, exactly if each request
meets the condition. -/
theorem agree_along_iff (d : Nat) {t : ChannelTables} (hagree : t.Agree d)
    (requests : List (ChannelServer × ChannelBody)) :
    Along step (Agree d) t requests ↔ Guarded step (KeepsName d) t requests := by
  apply along_iff_guarded (I := Agree d) _ (fun _ h => h) _ hagree
  · rintro s ⟨db, body⟩ s' hs hg ⟨⟩
    exact (agree_updateChannel_iff hs db body).mpr hg
  · rintro s ⟨db, body⟩ s' hs ⟨⟩ hs'
    exact (agree_updateChannel_iff hs db body).mp hs'

/-- Channel 41 with its row. -/
def gate : ChannelTables where
  children := ChildMap.empty.addChildDevice { deviceId := "41", name := "gate" }
  subDeviceInfo := (∅ : SubDeviceTable).insert 41
    { parentId := 7, gbId := "", channelNo := 1, channelName := "gate" }

def rename (name : Option String) : ChannelBody := .params { deviceId := some 41, channelName := name }

/-- One new name is written, and the next one is refused. -/
theorem agree_along_sample :
    Along step (Agree 41) gate
      [(.executing "yard" 41 (by decide), rename (some "yard")),
        (.executing "yard" 41 (by decide), rename (some "door"))] := by
  apply (agree_along_iff 41 ⟨by decide, by decide⟩ _).mpr
  rintro s₁ ⟨⟩
  refine ⟨keepsName_of_storable _ _ _ (by decide) (by decide), ?_⟩
  rintro s₂ ⟨⟩
  exact ⟨keepsName_of_storable _ _ _ (by decide) (by decide), trivial⟩

/-- A request without a name empties it in memory only. -/
theorem absent_name_disagrees :
    gate.Agree 41 ∧
      ¬ ∀ requests : List (ChannelServer × ChannelBody), Along step (Agree 41) gate requests := by
  refine ⟨⟨by decide, by decide⟩, fun h => ?_⟩
  have hafter := (h [(.executing "yard" 41 (by decide), rename none)]).2 _ rfl
  revert hafter
  rintro ⟨-, hname⟩
  exact absurd hname (by decide)

end ChannelTables

end SignalingServer
