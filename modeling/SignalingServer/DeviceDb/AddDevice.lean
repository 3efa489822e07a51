import SignalingServer.CreateDevCode
import SignalingServer.DeviceDb.SqlStatements

/-!
`HttpServer::AddDevice`. The handler makes a GB id for the device and writes its row;
the server's answer to the statement is arbitrary. A refused row leaves the id behind.
-/

namespace SignalingServer

open CDevCodeMng

/-- The `params` of a new device, with the members as the C strings that they are
read as. -/
structure AddParams where
  ip : Option String
  port : Option Int
  deviceType : Option String
  name : Option String
  protocol : Option String
  username : Option String
  password : Option String
  deriving DecidableEq, Repr

/-- The body of a request. -/
inductive AddBody where
  | parseError
  | noParams
  | params (p : AddParams)
  deriving DecidableEq, Repr

/-- `jsonNvr`, with its GB id. -/
def AddParams.jsonNvr (p : AddParams) (gbid : String) : StoredNvr where
  deviceId := ""
  mIP := jsonCheckString p.ip
  mPort := toShort (jsonCheckInt32 p.port)
  mUser := jsonCheckString p.username
  mPswd := jsonCheckString p.password
  mGBID := gbid
  mName := jsonCheckString p.name
  mDevType := jsonCheckString p.deviceType
  mProtocol := jsonCheckString p.protocol
  short := toShort_toShort _

/-- `CDbManager::AddDeviceInfo`: the device gets the id of its row. The server answers
a statement with that id, or refuses it. -/
def addDeviceInfo (execInsert : String → Option Nat) (nvr : StoredNvr) : Int × StoredNvr :=
  match execInsert (insertDeviceInfo nvr) with
  | none => (-1, nvr)
  | some nDataID => (0, { nvr with deviceId := toString (nDataID % 2 ^ 32) })

/-- `HttpServer::AddDevice`: the ids, the device that is given to `DeviceMng::addDevice`,
and the answer. -/
def addDevice (m : CDevCodeMng) (execInsert : String → Option Nat) :
    AddBody → CDevCodeMng × Option StoredNvr × HttpAnswer
  | .parseError => (m, none, .jsonError)
  | .noParams => (m, none, .reply 10000 "参数错误" none)
  | .params p =>
      let (m', gbid) := m.createDevCode 118
      let (result, nvr) := addDeviceInfo execInsert (p.jsonNvr gbid)
      if result = 0 then (m', some nvr, .reply 201 "获取成功" none)
      else (m', none, .reply 10001 "添加失败" none)

/-- The answers of a handler that are no success. -/
def HttpAnswer.IsError : HttpAnswer → Prop
  | .jsonError => True
  | .reply code _ _ => code ≠ 201

/-- An id was created, and the answer is an error: then the sets are as before. -/
def AddRestores (m : CDevCodeMng) (execInsert : String → Option Nat) (body : AddBody) : Prop :=
  (addDevice m execInsert body).2.2.IsError →
    (∃ p, body = .params p ∧ (m.createDevCode 118).2 ≠ "") →
      m.SameSets (addDevice m execInsert body).1

theorem addDeviceInfo_eq_zero_iff (execInsert : String → Option Nat) (nvr : StoredNvr) :
    (addDeviceInfo execInsert nvr).1 = 0 ↔ execInsert (insertDeviceInfo nvr) ≠ none := by
  unfold addDeviceInfo
  cases execInsert (insertDeviceInfo nvr) with
  | none => simp
  | some nDataID => simp

theorem addDevice_params (m : CDevCodeMng) (execInsert : String → Option Nat) (p : AddParams) :
    (addDevice m execInsert (.params p)).1 = (m.createDevCode 118).1 ∧
      ((addDevice m execInsert (.params p)).2.2.IsError ↔
        execInsert (insertDeviceInfo (p.jsonNvr (m.createDevCode 118).2)) = none) := by
  have hresult := addDeviceInfo_eq_zero_iff execInsert (p.jsonNvr (m.createDevCode 118).2)
  unfold addDevice
  by_cases hzero : (addDeviceInfo execInsert (p.jsonNvr (m.createDevCode 118).2)).1 = 0
  · simp only [hzero, if_true]
    exact ⟨trivial, iff_of_false (not_not.mpr rfl) (hresult.mp hzero)⟩
  · simp only [hzero, if_false]
    exact ⟨trivial, iff_of_true (by decide : (10001 : Int) ≠ 201)
      (not_not.mp fun hne => hzero (hresult.mpr hne))⟩

/-- The handler never takes an id back: the sets are as before an error exactly if no id
was made, or the row was written. -/
theorem addRestores_iff (m : CDevCodeMng) (execInsert : String → Option Nat) (body : AddBody) :
    AddRestores m execInsert body ↔
      ∀ p, body = .params p → ¬ (m.Reserves 118 ∧ size m.strLocalGBID = 20) ∨
        execInsert (insertDeviceInfo (p.jsonNvr (m.createDevCode 118).2)) ≠ none := by
  cases body with
  | parseError => exact iff_of_true (fun _ ⟨_, hp, _⟩ => nomatch hp) nofun
  | noParams => exact iff_of_true (fun _ ⟨_, hp, _⟩ => nomatch hp) nofun
  | params p =>
      obtain ⟨hmng, herror⟩ := addDevice_params m execInsert p
      have hmade := createDevCode_ne_empty_iff m 118
      rw [AddRestores, hmng, herror]
      constructor
      · rintro hrestores p' ⟨⟩
        by_cases hid : m.Reserves 118 ∧ size m.strLocalGBID = 20
        · refine .inr fun hrefused => ?_
          exact not_sameSets_of_reserves hid.1 (hrestores hrefused ⟨p, rfl, hmade.mpr hid⟩)
        · exact .inl hid
      · rintro hcond hrefused ⟨-, -, hid⟩
        rcases hcond p rfl with hnone | hwritten
        · exact absurd (hmade.mp hid) hnone
        · exact absurd hrefused hwritten

/-- A failure restores the sets in these cases and no others: `CreateDevCode` refused
before it took a number, or had a local id to make an id of; and `AddDevice` made no
id, or its row was written. -/
theorem failure_restores_iff (m : CDevCodeMng) (devType : Int)
    (execInsert : String → Option Nat) (body : AddBody) :
    (((m.createDevCode devType).2 = "" → m.SameSets (m.createDevCode devType).1) ↔
        ¬ m.Reserves devType ∨ size m.strLocalGBID = 20) ∧
      (AddRestores m execInsert body ↔
        ∀ p, body = .params p → ¬ (m.Reserves 118 ∧ size m.strLocalGBID = 20) ∨
          execInsert (insertDeviceInfo (p.jsonNvr (m.createDevCode 118).2)) ≠ none) :=
  ⟨createDevCode_restores_iff m devType, addRestores_iff m execInsert body⟩

/-- Without a local id a number is lost; with one, a refused row leaves its id. -/
theorem failure_leaks :
    (¬ ∀ (m : CDevCodeMng) (devType : Int),
      (m.createDevCode devType).2 = "" → m.SameSets (m.createDevCode devType).1) ∧
    ¬ ∀ (m : CDevCodeMng) (execInsert : String → Option Nat) (body : AddBody),
      AddRestores m execInsert body := by
  constructor
  · intro h
    have hseq := (h (.new "") 118 (by decide)).seqs 118
    have hlost : 1180000001 ∈ ((CDevCodeMng.new "").createDevCode 118).1.seqOf 118 := by
      unfold seqOf handles
      decide
    rw [hseq] at hlost
    revert hlost
    unfold seqOf handles
    decide
  · intro h
    let p : AddParams := ⟨none, none, none, none, none, none, none⟩
    have hids := (h (.new "34020000002000000001") (fun _ => none) (.params p)
      (by decide : (10001 : Int) ≠ 201) ⟨p, rfl, by decide⟩).ids
    have hleft : "34020000001180000001" ∈
        ((CDevCodeMng.new "34020000002000000001").createDevCode 118).1.gbidList := by decide
    have hsame : ((CDevCodeMng.new "34020000002000000001").createDevCode 118).1.gbidList = ∅ := hids
    rw [hsame] at hleft
    exact absurd hleft (Finset.notMem_empty _)

end SignalingServer
