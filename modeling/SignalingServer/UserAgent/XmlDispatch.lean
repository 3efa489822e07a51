import SignalingServer.UserAgent.NotifyTimer
import SignalingServer.XmlMsgAnalysis

/-!
What becomes of an analysed message (UaMessageMgr.cpp, UserAgentMgr.cpp). The
tags decide which handler a message reaches, and as what type its object is read
and freed.
-/

namespace SignalingServer

/-! ### The object of a message -/

/-- The types to which `pPoint` is cast. -/
inductive PayloadType where
  | ptzControlInfo | bootControlInfo | recordControlInfo | guardControlInfo | alarmControlInfo
  | iFameControlInfo | dragZoomControlInfo | homePositionControlInfo | deviceConfigInfo
  | catalogQueryMsg | recordInfoQueryMsg | keepAliveMsg | responseCatalogList
  deriving DecidableEq, Repr

/-- The type of the object. -/
def XmlPayload.type : XmlPayload → PayloadType
  | .ptzControl _ => .ptzControlInfo
  | .bootControl _ => .bootControlInfo
  | .recordControl _ => .recordControlInfo
  | .guardControl _ => .guardControlInfo
  | .alarmControl _ => .alarmControlInfo
  | .iFameControl _ => .iFameControlInfo
  | .dragZoomControl _ => .dragZoomControlInfo
  | .homePositionControl _ => .homePositionControlInfo
  | .deviceConfig _ => .deviceConfigInfo
  | .catalogQuery _ => .catalogQueryMsg
  | .recordInfoQuery _ => .recordInfoQueryMsg

/-- `pPoint` during the destruction, with the objects freed so far and the type
that each was freed as. -/
structure Freeing where
  pPoint : Option XmlPayload
  freed : List (XmlPayload × PayloadType)

/-- `delete (type*)pPoint; pPoint = NULL;` -/
def Freeing.deleteAs (f : Freeing) (type : PayloadType) : Freeing where
  pPoint := none
  freed := f.freed ++ f.pPoint.toList.map fun p => (p, type)

namespace GB28181XmlMsg

/-- The inner switch of the destructor. -/
def freeControl (f : Freeing) : XmlControlCmd → Freeing
  | .ptz => f.deleteAs .ptzControlInfo
  | .teleboot => f.deleteAs .bootControlInfo
  | .record => f.deleteAs .recordControlInfo
  | .guard => f.deleteAs .guardControlInfo
  | .alarm => f.deleteAs .alarmControlInfo
  | .iframe => f.deleteAs .iFameControlInfo
  | .dragZoomIn | .dragZoomOut => f.deleteAs .dragZoomControlInfo
  | .homePosition => f.deleteAs .homePositionControlInfo
  | .unknown => f

/-- `~GB28181XmlMsg`. -/
def destructor (msg : GB28181XmlMsg) : Freeing :=
  let f : Freeing := ⟨msg.pPoint, []⟩
  match msg.cmdtype with
  -- The case of `DeviceControl` falls through to the next one.
  | .deviceControl => (freeControl f msg.controlCmd).deleteAs .deviceConfigInfo
  | .deviceConfig => f.deleteAs .deviceConfigInfo
  | .catalog => f.deleteAs .catalogQueryMsg
  | .deviceInfo | .recordInfo => f.deleteAs .recordInfoQueryMsg
  | .notifyKeepalive => f.deleteAs .keepAliveMsg
  | .responseCatalogItem => f.deleteAs .responseCatalogList
  | _ => f

end GB28181XmlMsg

/-! ### Handlers of messages -/

/-- The tasks that messages submit to the thread pool, without the sender and
the route, which all but the first also get. -/
inductive MessageTask where
  | ptzControlResponseTask (deviceID value : String) (controlPriority : Int)
  | catalogQueryResponseTask (deviceID : String) (sn : UInt32)
  | deviceInfoQueryResponseTask (deviceID : String) (sn : UInt32)
  | recordInfoQueryResponseTask (deviceID : String) (sn : UInt32) (query : RecordInfoQueryMsg)
  deriving DecidableEq, Repr

/-- What the switch over the tags comes to. -/
inductive Dispatch where
  | nothing
  | submit (task : MessageTask)
  /-- The object is read through a null pointer. -/
  | nullRead
  /-- The object is read as one of another type. -/
  | confused
  deriving DecidableEq, Repr

namespace GB28181XmlMsg

/-- The switch of `onMessageArrived`, as far as it has handlers. -/
def dispatch (msg : GB28181XmlMsg) : Dispatch :=
  match msg.cmdname with
  | .control =>
      if msg.cmdtype = .deviceControl ∧ msg.controlCmd = .ptz then
        match msg.pPoint with
        | none => .nullRead
        | some (.ptzControl ptz) =>
            .submit (.ptzControlResponseTask msg.deviceID ptz.value ptz.controlPriority)
        | some _ => .confused
      else .nothing
  | .query =>
      match msg.cmdtype with
      | .catalog => .submit (.catalogQueryResponseTask msg.deviceID msg.sn)
      | .deviceInfo => .submit (.deviceInfoQueryResponseTask msg.deviceID msg.sn)
      | .recordInfo =>
          match msg.pPoint with
          | none => .nullRead
          | some (.recordInfoQuery query) =>
              .submit (.recordInfoQueryResponseTask msg.deviceID msg.sn query)
          | some _ => .confused
      | _ => .nothing
  | _ => .nothing

end GB28181XmlMsg

namespace XmlMsgAnalysis

/-- `CUserMessageMrg::onMessageArrived`: the status of the response, and what the
tags lead to, also when the analysis has failed. -/
def onMessageArrived (lib : TinyXml2) (body : Option String) : Option (Nat × Dispatch) :=
  match body with
  | none => some (400, .nothing)
  | some text =>
      if text = "" then some (400, .nothing)
      else
        (analyzeReceivedSipMsg lib (some text)).map fun r =>
          (if r.1 then 200 else 400, r.2.dispatch)

end XmlMsgAnalysis

/-! ### Handlers of subscriptions -/

/-- The branches of `UaMgr::onNewSubscription`. -/
inductive SubscriptionHandler where
  | catalog | alarm | mobilePosition | ended
  deriving DecidableEq, Repr

/-- The branch that an analysed request reaches. -/
def subscriptionHandler (r : Bool × GB28181XmlMsg) : SubscriptionHandler :=
  if r.1 ∧ r.2.cmdname = .query then
    if r.2.cmdtype = .catalog then .catalog
    else if r.2.cmdtype = .alarm then .alarm
    else if r.2.cmdtype = .mobilePosition then .mobilePosition
    else .ended
  else .ended

/-- The branch decides what a request does to the subscriptions. -/
theorem onNewSubscription_eq (s : Notifying) (h : ServerSubscriptionHandle) (msg : SubscribeMsg)
    (r : Bool × GB28181XmlMsg) (hcontent : msg.content = some (if r.1 then some r.2 else none)) :
    s.onNewSubscription h msg =
      match subscriptionHandler r with
      | .catalog =>
          if msg.eventType = "Catalog" ∨ msg.eventType = "catalagitem" then
            if msg.expires = 0 then { s with subs := s.subs.deleteSubscription h }
            else
              let (subs, ret) := s.subs.addCatalogSubscription msg.fromUser h msg.eventType r.2
              if ret then Notifying.arm { s with subs := subs } h else { s with subs := subs }
          else { s with subs := s.subs.endHandle h }
      | .alarm => s
      | .mobilePosition => { s with subs := s.subs.terminate h }
      | .ended => { s with subs := s.subs.endHandle h } := by
  obtain ⟨ret, xmlMsg⟩ := r
  unfold Notifying.onNewSubscription subscriptionHandler
  rw [hcontent]
  cases ret with
  | false => rfl
  | true =>
      by_cases hname : xmlMsg.cmdname = .query
      · simp only [hname, and_self, if_true]
        by_cases hcatalog : xmlMsg.cmdtype = .catalog
        · simp only [if_pos hcatalog]
        by_cases halarm : xmlMsg.cmdtype = .alarm
        · simp only [if_neg hcatalog, if_pos halarm]
        by_cases hmobile : xmlMsg.cmdtype = .mobilePosition
        · simp only [if_neg hcatalog, if_neg halarm, if_pos hmobile]
        · simp only [if_neg hcatalog, if_neg halarm, if_neg hmobile]
      · simp only [hname, and_false, if_true, if_false]

/-! ### What the analysis returns -/

namespace XmlMsgAnalysis

/-- The type of the object that goes with a control command. -/
def commandType : XmlControlCmd → Option PayloadType
  | .unknown => none
  | .ptz => some .ptzControlInfo
  | .teleboot => some .bootControlInfo
  | .record => some .recordControlInfo
  | .guard => some .guardControlInfo
  | .alarm => some .alarmControlInfo
  | .iframe => some .iFameControlInfo
  | .dragZoomIn | .dragZoomOut => some .dragZoomControlInfo
  | .homePosition => some .homePositionControlInfo

/-- The results of the analysis, by what `pPoint` holds. -/
inductive Returned : Bool × GB28181XmlMsg → Prop
  | noObject (ret : Bool) (msg : GB28181XmlMsg) (null : msg.pPoint = none)
      (noCommand : msg.controlCmd = .unknown)
      (noQuery : msg.cmdname = .query →
        msg.cmdtype ≠ .catalog ∧ msg.cmdtype ≠ .deviceInfo ∧ msg.cmdtype ≠ .recordInfo) :
      Returned (ret, msg)
  | command (msg : GB28181XmlMsg) (p : XmlPayload) (object : msg.pPoint = some p)
      (name : msg.cmdname = .control) (type : msg.cmdtype = .deviceControl)
      (matching : commandType msg.controlCmd = some p.type) : Returned (true, msg)
  | config (msg : GB28181XmlMsg) (value : String) (object : msg.pPoint = some (.deviceConfig value))
      (name : msg.cmdname = .control) (type : msg.cmdtype = .deviceConfig) : Returned (true, msg)
  | catalog (msg : GB28181XmlMsg) (q : CatalogQueryMsg) (object : msg.pPoint = some (.catalogQuery q))
      (name : msg.cmdname = .query) (type : msg.cmdtype = .catalog) : Returned (true, msg)
  | recordInfo (msg : GB28181XmlMsg) (q : RecordInfoQueryMsg)
      (object : msg.pPoint = some (.recordInfoQuery q))
      (name : msg.cmdname = .query) (type : msg.cmdtype = .recordInfo) : Returned (true, msg)

theorem commandType_of_mem {lib : TinyXml2} {root : XmlElement}
    {c : String × XmlControlCmd × (String → XmlPayload)} (hc : c ∈ controlCommands lib root)
    (value : String) : commandType c.2.1 = some (c.2.2 value).type := by
  simp only [controlCommands, List.mem_cons, List.not_mem_nil, or_false] at hc
  rcases hc with rfl | rfl | rfl | rfl | rfl | rfl | rfl | rfl | rfl <;> rfl

/-- The header fills in `sn` and `DeviceID` only. -/
theorem readHeader_cases {lib : TinyXml2} {root : XmlElement} {msg : GB28181XmlMsg}
    {r : GB28181XmlMsg × Option String} (h : readHeader lib root msg = some r) :
    ∃ sn deviceID, r.1 = { msg with sn := sn, deviceID := deviceID } := by
  unfold readHeader at h
  split at h
  · cases h
    exact ⟨msg.sn, msg.deviceID, rfl⟩
  · split at h
    · cases h
      exact ⟨msg.sn, msg.deviceID, rfl⟩
    · dsimp only at h
      split at h
      · cases h
        exact ⟨_, msg.deviceID, rfl⟩
      · obtain ⟨id, -, rfl⟩ := Option.map_eq_some_iff.mp h
        exact ⟨_, id, rfl⟩

theorem returned_deviceControl {lib : TinyXml2} {root : XmlElement} {msg : GB28181XmlMsg}
    {r : Bool × GB28181XmlMsg} (hname : msg.cmdname = .control)
    (htype : msg.cmdtype = .deviceControl) (hcmd : msg.controlCmd = .unknown)
    (hnull : msg.pPoint = none) (h : analyzeDeviceControl lib root msg = some r) : Returned r := by
  unfold analyzeDeviceControl at h
  split at h
  · cases h
    exact .noObject _ _ hnull hcmd (by simp [hname])
  · rename_i name controlCmd payload hfind
    obtain ⟨value, -, rfl⟩ := Option.map_eq_some_iff.mp h
    exact .command _ _ rfl hname htype (commandType_of_mem (List.mem_of_find?_eq_some hfind) value)

theorem returned_control {lib : TinyXml2} {root : XmlElement} {r : Bool × GB28181XmlMsg}
    (h : analyzeControl lib root = some r) : Returned r := by
  obtain ⟨⟨msg, cmdType⟩, hheader, h⟩ := Option.bind_eq_some_iff.mp h
  obtain ⟨sn, deviceID, rfl⟩ := readHeader_cases hheader
  cases cmdType with
  | none =>
      cases h
      exact .noObject _ _ rfl rfl (by simp)
  | some cmdType =>
      dsimp only at h
      split at h
      · exact returned_deviceControl rfl rfl rfl rfl h
      split at h
      · cases h
        exact .config _ "" rfl rfl rfl
      · cases h
        exact .noObject _ _ rfl rfl (by simp)

theorem returned_query {lib : TinyXml2} {root : XmlElement} {r : Bool × GB28181XmlMsg}
    (hquery : analyzeQuery lib root = some r) : Returned r := by
  obtain ⟨⟨msg, cmdType⟩, hheader, h⟩ := Option.bind_eq_some_iff.mp hquery
  obtain ⟨sn, deviceID, rfl⟩ := readHeader_cases hheader
  have htagged (ret : Bool) (cmdtype : XmlCmdType)
      (htype : cmdtype ≠ .catalog ∧ cmdtype ≠ .deviceInfo ∧ cmdtype ≠ .recordInfo) :
      Returned (ret, { cmdname := .query, cmdtype := cmdtype, sn := sn, deviceID := deviceID }) :=
    .noObject _ _ rfl rfl fun _ => htype
  cases cmdType with
  | none =>
      cases h
      exact htagged _ _ (by simp)
  | some cmdType =>
      rcases analyzeQuery_cases hheader hquery with
        ⟨-, q, -, rfl⟩ | ⟨-, q, -, rfl⟩ | ⟨cmdtype, hwrong, rfl⟩ | ⟨-, rfl⟩
      · exact .catalog _ q rfl rfl rfl
      · exact .recordInfo _ q rfl rfl rfl
      · -- a tag without an object
        apply htagged
        rcases hwrong with rfl | rfl
        · simp
        · simp
      · exact htagged _ _ (by simp)

theorem returned_tagged (types : List (String × XmlCmdType)) (root : XmlElement) :
    Returned (analyzeTagged types root) := by
  unfold analyzeTagged
  dsimp only
  split
  · exact .noObject _ _ rfl rfl (by simp)
  · split
    · exact .noObject _ _ rfl rfl (by simp)
    · exact .noObject _ _ rfl rfl (by simp)

theorem returned {lib : TinyXml2} {msgStr : Option String} {r : Bool × GB28181XmlMsg}
    (h : analyzeReceivedSipMsg lib msgStr = some r) : Returned r := by
  unfold analyzeReceivedSipMsg at h
  split at h
  · cases h
    exact .noObject _ _ rfl rfl (by simp)
  · unfold analyzeRoot at h
    split at h
    · exact returned_control h
    split at h
    · exact returned_query h
    split at h
    · cases h
      exact returned_tagged _ _
    split at h
    · cases h
      exact returned_tagged _ _
    · cases h
      exact .noObject _ _ rfl rfl (by simp)

/-! ### The object and the tags -/

/-- The inner switch frees the object as the type of the command. -/
theorem freeControl_eq {controlCmd : XmlControlCmd} {type : PayloadType}
    (h : commandType controlCmd = some type) (f : Freeing) :
    GB28181XmlMsg.freeControl f controlCmd = f.deleteAs type := by
  cases controlCmd with
  | unknown => cases h
  | _ =>
      obtain rfl := Option.some.inj h
      rfl

/-- The destructor frees the object once, as what it is. -/
theorem Returned.freed {r : Bool × GB28181XmlMsg} (h : Returned r) :
    r.2.destructor.freed = r.2.pPoint.toList.map fun p => (p, p.type) := by
  cases h with
  | noObject ret msg null noCommand noQuery =>
      unfold GB28181XmlMsg.destructor
      dsimp only
      rw [null, noCommand]
      cases msg.cmdtype <;> rfl
  | command msg p object name type matching =>
      unfold GB28181XmlMsg.destructor
      dsimp only
      rw [type, freeControl_eq matching, object]
      -- the second `delete` meets a null pointer
      rfl
  | config msg value object name type =>
      unfold GB28181XmlMsg.destructor
      rw [object, type]
      rfl
  | catalog msg q object name type =>
      unfold GB28181XmlMsg.destructor
      rw [object, type]
      rfl
  | recordInfo msg q object name type =>
      unfold GB28181XmlMsg.destructor
      rw [object, type]
      rfl

/-- A message with a PTZ command or a record query has the object that the
handler reads, and a message that failed reaches no handler. -/
theorem Returned.dispatch_cases {r : Bool × GB28181XmlMsg} (h : Returned r) :
    r.2.dispatch = .nothing ∨ (r.1 = true ∧ ∃ task, r.2.dispatch = .submit task) := by
  unfold GB28181XmlMsg.dispatch
  cases h with
  | noObject ret msg null noCommand noQuery =>
      refine .inl ?_
      dsimp only
      rw [noCommand]
      cases hname : msg.cmdname with
      | query =>
          obtain ⟨hcatalog, hdevice, hrecord⟩ := noQuery hname
          cases htype : msg.cmdtype <;> first | rfl | contradiction
      | control => exact if_neg (by simp)
      | _ => rfl
  | command msg p object name type matching =>
      dsimp only
      rw [name, type, object]
      by_cases hptz : msg.controlCmd = .ptz
      · rw [hptz] at matching ⊢
        cases p with
        | ptzControl ptz => exact .inr ⟨rfl, _, rfl⟩
        | _ => cases matching
      · exact .inl (if_neg (by simp [hptz]))
  | config msg value object name type =>
      refine .inl ?_
      dsimp only
      rw [name, type]
      exact if_neg (by simp)
  | catalog msg q object name type =>
      dsimp only
      rw [name, type]
      exact .inr ⟨rfl, _, rfl⟩
  | recordInfo msg q object name type =>
      dsimp only
      rw [name, type, object]
      exact .inr ⟨rfl, _, rfl⟩

/-- A request that reaches the catalog subscription has a catalog query. -/
theorem Returned.catalog_type {r : Bool × GB28181XmlMsg} (h : Returned r)
    (hcatalog : subscriptionHandler r = .catalog) : ∃ q, r.2.pPoint = some (.catalogQuery q) := by
  unfold subscriptionHandler at hcatalog
  split at hcatalog
  · rename_i hquery
    split at hcatalog
    · rename_i hcat
      cases h with
      | noObject ret msg null noCommand noQuery => exact absurd hcat (noQuery hquery.2).1
      | command msg p object name type matching => simp [name] at hquery
      | config msg value object name type => simp [name] at hquery
      | catalog msg q object name type => exact ⟨q, object⟩
      | recordInfo msg q object name type =>
          rw [type] at hcat
          cases hcat
    · split at hcatalog
      · cases hcatalog
      · split at hcatalog
        · cases hcatalog
        · cases hcatalog
  · cases hcatalog

/-- For every text and every parser: whenever the analysis returns, the object is
freed once and as what it is, no handler reads it as something else or through a
null pointer, a catalog subscription finds a catalog query, and after a failure
no task is submitted. -/
theorem payload_matches_tags (lib : TinyXml2) (msgStr : Option String)
    (r : Bool × GB28181XmlMsg) (h : analyzeReceivedSipMsg lib msgStr = some r) :
    r.2.destructor.freed = (r.2.pPoint.toList.map fun p => (p, p.type)) ∧
      (r.2.dispatch ≠ .confused ∧ r.2.dispatch ≠ .nullRead) ∧
      (subscriptionHandler r = .catalog → ∃ q, r.2.pPoint = some (.catalogQuery q)) ∧
      (r.1 = false → ∀ task, r.2.dispatch ≠ .submit task) := by
  have hr := returned h
  refine ⟨hr.freed, ?_, hr.catalog_type, fun hfalse task => ?_⟩
  · rcases hr.dispatch_cases with hnothing | ⟨-, task, htask⟩
    · simp [hnothing]
    · simp [htask]
  · rcases hr.dispatch_cases with hnothing | ⟨htrue, -⟩
    · simp [hnothing]
    · rw [hfalse] at htrue
      cases htrue

/-- An element that holds nothing but a text. -/
def textElement (name value : String) : XmlNode := .element name [.text value]

/-- A parser that knows one document. -/
def sampleLib (root : XmlElement) : TinyXml2 := ⟨fun _ => some root, String.toInt?⟩

/-- A message for device 7. -/
def sampleRoot (name cmdType : String) (rest : List XmlNode) : XmlElement :=
  ⟨name, [textElement "CmdType" cmdType, textElement "SN" "1", textElement "DeviceID" "7"] ++ rest⟩

def samplePtz : XmlElement :=
  sampleRoot "Control" "DeviceControl" [textElement "PTZCmd" "A50F0100000000B5"]

def samplePtzText : String :=
  "<Control><CmdType>DeviceControl</CmdType><SN>1</SN><DeviceID>7</DeviceID>" ++
    "<PTZCmd>A50F0100000000B5</PTZCmd></Control>"

theorem payload_matches_tags_ptz :
    ∃ r, analyzeReceivedSipMsg (sampleLib samplePtz) (some samplePtzText) = some r ∧
      r.2.destructor.freed = (r.2.pPoint.toList.map fun p => (p, p.type)) ∧
      (r.2.dispatch ≠ .confused ∧ r.2.dispatch ≠ .nullRead) ∧
      (subscriptionHandler r = .catalog → ∃ q, r.2.pPoint = some (.catalogQuery q)) ∧
      (r.1 = false → ∀ task, r.2.dispatch ≠ .submit task) :=
  ⟨_, rfl, payload_matches_tags (sampleLib samplePtz) (some samplePtzText) _ rfl⟩

/-! ### Names and tags -/

/-- The root elements and their tags. -/
def cmdNames : List (String × XmlCmdName) :=
  [("Control", .control), ("Query", .query), ("Notify", .notify), ("Response", .response)]

/-- The commands of each kind of message and their tags, as the comments of
`XmlCmdType` have them. -/
def cmdTypes : XmlCmdName → List (String × XmlCmdType)
  | .unknown => []
  | .control => [("DeviceControl", .deviceControl), ("DeviceConfig", .deviceConfig)]
  | .query =>
      [("DeviceStatus", .deviceStatus), ("Catalog", .catalog), ("DeviceInfo", .deviceInfo),
        ("RecordInfo", .recordInfo), ("Alarm", .alarm), ("ConfigDownload", .configDownload),
        ("PresetQuery", .presetQuery), ("MobilePosition", .mobilePosition)]
  | .notify =>
      [("Keepalive", .notifyKeepalive), ("Alarm", .notifyAlarm),
        ("MediaStatus", .notifyMediaStatus), ("Broadcast", .notifyBroadcast),
        ("MobilePosition", .notifyMobilePosition), ("Catalog", .notifyCatalog)]
  | .response =>
      [("DeviceControl", .responseDevControl), ("Alarm", .responseAlarm),
        ("Catalog", .responseCatalogItem), ("Catalog", .responseSubCatalog),
        ("Catalog", .responseCatalogNotifyReceived), ("DeviceInfo", .responseDevInfo),
        ("DeviceStatus", .responseDevStatus), ("RecordInfo", .responseRecordInfo),
        ("DeviceConfig", .responseDevConfig), ("ConfigDownload", .responseConfigDownload),
        ("PresetQuery", .responsePresetQuery), ("Broadcast", .responseBroadcast)]

/-- The tag names the command; a command without a tag of its own is unknown. -/
def TypeNames (cmdname : XmlCmdName) (cmdType : String) (cmdtype : XmlCmdType) : Prop :=
  (cmdType, cmdtype) ∈ cmdTypes cmdname ∨
    ((∀ e ∈ cmdTypes cmdname, e.1 ≠ cmdType) ∧ cmdtype = .unknown)

/-- A well-formed MANSCDP document: a root of a supported kind, with `CmdType`,
`SN` and `DeviceID` that hold text. -/
structure Manscdp where
  root : XmlElement
  cmdName : XmlCmdName
  named : (root.name, cmdName) ∈ cmdNames
  cmdType : String
  cmdTypeText : (root.firstChildElement "CmdType").bind XmlElement.getText = some cmdType
  sn : String
  snText : (root.firstChildElement "SN").bind XmlElement.getText = some sn
  deviceID : String
  deviceIDText : (root.firstChildElement "DeviceID").bind XmlElement.getText = some deviceID

/-- The handlers of `onMessageArrived`. -/
inductive MessageHandler where
  | ptzControl | catalogQuery | deviceInfoQuery | recordInfoQuery
  deriving DecidableEq, Repr

end XmlMsgAnalysis

/-- The handler that a task belongs to. -/
def MessageTask.handler : MessageTask → XmlMsgAnalysis.MessageHandler
  | .ptzControlResponseTask _ _ _ => .ptzControl
  | .catalogQueryResponseTask _ _ => .catalogQuery
  | .deviceInfoQueryResponseTask _ _ => .deviceInfoQuery
  | .recordInfoQueryResponseTask _ _ _ => .recordInfoQuery

def Dispatch.handler : Dispatch → Option XmlMsgAnalysis.MessageHandler
  | .submit task => some task.handler
  | _ => none

namespace XmlMsgAnalysis

namespace Manscdp

/-- The message handler that the document is meant for. -/
def messageHandler (d : Manscdp) : Option MessageHandler :=
  if d.cmdName = .control ∧ d.cmdType = "DeviceControl" ∧
      (d.root.firstChildElement "PTZCmd").isSome then some .ptzControl
  else if d.cmdName = .query ∧ d.cmdType = "Catalog" then some .catalogQuery
  else if d.cmdName = .query ∧ d.cmdType = "DeviceInfo" then some .deviceInfoQuery
  else if d.cmdName = .query ∧ d.cmdType = "RecordInfo" then some .recordInfoQuery
  else none

/-- The subscription handler that the document is meant for. -/
def subscriptionHandler (d : Manscdp) : SubscriptionHandler :=
  if d.cmdName = .query ∧ d.cmdType = "Catalog" then .catalog
  else if d.cmdName = .query ∧ d.cmdType = "Alarm" then .alarm
  else if d.cmdName = .query ∧ d.cmdType = "MobilePosition" then .mobilePosition
  else .ended

/-- The result names the document and reaches the handlers it is meant for. -/
structure Classified (d : Manscdp) (r : Bool × GB28181XmlMsg) : Prop where
  name : r.2.cmdname = d.cmdName
  type : TypeNames d.cmdName d.cmdType r.2.cmdtype
  message : r.2.dispatch.handler = d.messageHandler
  subscription : SignalingServer.subscriptionHandler r = d.subscriptionHandler

/-- An element of this name holds text if it is there. -/
def HoldsText (d : Manscdp) (name : String) : Prop := (d.root.readText name "").isSome

/-- The first of the command elements that is there holds text. -/
def CommandReadable (lib : TinyXml2) (d : Manscdp) : Prop :=
  ∀ c, ((controlCommands lib d.root).find? fun c => (d.root.firstChildElement c.1).isSome) = some c →
    d.HoldsText c.1

/-- The elements of a record query hold text, and a `RecorderID` comes with a
start time. -/
def RecordReadable (d : Manscdp) : Prop :=
  (∀ name ∈ ["StartTime", "EndTime", "FilePath", "Address", "Secrecy", "Type"],
      d.HoldsText name) ∧
    ((d.root.firstChildElement "RecorderID").isSome → (d.root.firstChildElement "StartTime").isSome)

/-- The documents that the analysis gets right. -/
def Classifiable (lib : TinyXml2) (d : Manscdp) : Prop :=
  (d.cmdName = .control ∧
      ((d.cmdType = "DeviceControl" ∧ d.CommandReadable lib) ∨ d.cmdType = "DeviceConfig" ∨
        ∀ e ∈ cmdTypes .control, ¬ startsWith d.cmdType e.1)) ∨
    (d.cmdName = .query ∧
      ((d.cmdType = "Catalog" ∧ d.HoldsText "StartTime" ∧ d.HoldsText "EndTime") ∨
        (d.cmdType = "RecordInfo" ∧ d.RecordReadable) ∨
        ∀ e ∈ cmdTypes .query, ¬ startsWith d.cmdType e.1))

/-! ### What the document fixes -/

theorem readHeader_eq (d : Manscdp) (lib : TinyXml2) (msg : GB28181XmlMsg) :
    ∃ sn, readHeader lib d.root msg =
      some ({ msg with sn := sn, deviceID := d.deviceID }, some d.cmdType) := by
  obtain ⟨e₁, he₁, hcmdType⟩ := Option.bind_eq_some_iff.mp d.cmdTypeText
  obtain ⟨e₂, he₂, -⟩ := Option.bind_eq_some_iff.mp d.snText
  obtain ⟨e₃, he₃, hid⟩ := Option.bind_eq_some_iff.mp d.deviceIDText
  refine ⟨UInt32.ofInt (e₂.intText lib), ?_⟩
  simp only [readHeader, he₁, he₂, he₃, hcmdType, hid, Option.map_some]

theorem startsWith_self (s : String) : startsWith s s = true := by
  simp [startsWith]

/-- The root leads to the branch of its kind. -/
theorem analyzeRoot_eq (d : Manscdp) (lib : TinyXml2) :
    (d.cmdName = .control ∧ analyzeRoot lib d.root = analyzeControl lib d.root) ∨
      (d.cmdName = .query ∧ analyzeRoot lib d.root = analyzeQuery lib d.root) ∨
      ((d.cmdName = .notify ∨ d.cmdName = .response) ∧
        ∃ types, analyzeRoot lib d.root = some (analyzeTagged types d.root)) := by
  have hnamed := d.named
  unfold analyzeRoot
  simp only [cmdNames, List.mem_cons, Prod.mk.injEq, List.not_mem_nil, or_false] at hnamed
  rcases hnamed with ⟨hroot, hname⟩ | ⟨hroot, hname⟩ | ⟨hroot, hname⟩ | ⟨hroot, hname⟩
  · exact .inl ⟨hname, by rw [hroot]; rfl⟩
  · exact .inr (.inl ⟨hname, by rw [hroot]; rfl⟩)
  · exact .inr (.inr ⟨.inl hname, notifyTypes, by rw [hroot]; rfl⟩)
  · exact .inr (.inr ⟨.inr hname, responseTypes, by rw [hroot]; rfl⟩)

theorem ne_of_not_startsWith {s name : String} (h : ¬ startsWith s name) : s ≠ name := by
  rintro rfl
  exact h (startsWith_self s)

/-! ### The branches -/

theorem typeNames_iff_mem {cmdname : XmlCmdName} {cmdType : String} {cmdtype : XmlCmdType}
    (h : cmdtype ≠ .unknown) :
    TypeNames cmdname cmdType cmdtype ↔ (cmdType, cmdtype) ∈ cmdTypes cmdname :=
  ⟨fun hnames => hnames.resolve_right fun hunknown => h hunknown.2, .inl⟩

/-- `PTZCmd` is looked for first. -/
theorem ptz_iff_of_find {lib : TinyXml2} {root : XmlElement}
    {c : String × XmlControlCmd × (String → XmlPayload)}
    (hfind : (controlCommands lib root).find? (fun c => (root.firstChildElement c.1).isSome) =
      some c) : c.2.1 = .ptz ↔ (root.firstChildElement "PTZCmd").isSome := by
  obtain ⟨name, controlCmd, payload⟩ := c
  cases hptz : root.firstChildElement "PTZCmd" with
  | some controlName =>
      simp only [controlCommands, List.find?_cons, hptz, Option.isSome_some, Option.some.injEq,
        Prod.mk.injEq] at hfind
      simp [← hfind.2.1]
  | none =>
      have hsome : (root.firstChildElement name).isSome := by simpa using List.find?_some hfind
      have hmem := List.mem_of_find?_eq_some hfind
      simp only [Option.isSome_none, Bool.false_eq_true, iff_false]
      rintro rfl
      simp only [controlCommands, List.mem_cons, Prod.mk.injEq, reduceCtorEq, false_and, and_false,
        or_false, List.not_mem_nil] at hmem
      rw [hmem.1, hptz] at hsome
      cases hsome

/-- Only a PTZ command has a handler. -/
theorem dispatch_command {msg : GB28181XmlMsg} (hname : msg.cmdname = .control)
    (htype : msg.cmdtype = .deviceControl) {controlCmd : XmlControlCmd} {p : XmlPayload}
    (hp : commandType controlCmd = some p.type) :
    ({ msg with controlCmd := controlCmd, pPoint := some p } : GB28181XmlMsg).dispatch.handler =
      if controlCmd = .ptz then some .ptzControl else none := by
  unfold GB28181XmlMsg.dispatch
  rw [hname, htype]
  by_cases hptz : controlCmd = .ptz
  · subst hptz
    cases p with
    | ptzControl ptz => rfl
    | _ => cases hp
  · simp [hptz, Dispatch.handler]

/-- A control command is read, and reaches its handler, if its text can be read. -/
theorem classified_deviceControl_iff (d : Manscdp) (lib : TinyXml2) (hname : d.cmdName = .control)
    (htype : d.cmdType = "DeviceControl") {msg : GB28181XmlMsg} (hmsg : msg.cmdname = .control)
    (hmsgType : msg.cmdtype = .deviceControl) (hcmd : msg.controlCmd = .unknown) :
    (∃ r, analyzeDeviceControl lib d.root msg = some r ∧ d.Classified r) ↔
      d.CommandReadable lib := by
  have htag : TypeNames d.cmdName d.cmdType .deviceControl := by
    rw [hname, htype]
    exact .inl (by simp [cmdTypes])
  have hend (r : Bool × GB28181XmlMsg) (hr : r.2.cmdname = .control) :
      SignalingServer.subscriptionHandler r = d.subscriptionHandler := by
    simp [SignalingServer.subscriptionHandler, subscriptionHandler, hr, hname]
  have hhandler : d.messageHandler =
      if (d.root.firstChildElement "PTZCmd").isSome then some .ptzControl else none := by
    simp [messageHandler, hname, htype]
  unfold analyzeDeviceControl CommandReadable
  cases hfind : (controlCommands lib d.root).find?
      (fun c => (d.root.firstChildElement c.1).isSome) with
  | none =>
      -- no command element: nothing is read and nothing is meant
      have hptz : (d.root.firstChildElement "PTZCmd").isSome = false := by
        have hall := List.find?_eq_none.mp hfind
        simpa using hall _ (List.mem_cons_self)
      refine ⟨fun _ _ hc => by simp at hc, fun _ => ⟨_, rfl, ?_, ?_, ?_, hend _ hmsg⟩⟩
      · exact hmsg.trans hname.symm
      · rw [hmsgType]
        exact htag
      · simp [GB28181XmlMsg.dispatch, hmsg, hcmd, hhandler, hptz, Dispatch.handler]
  | some c =>
      have hsome : (d.root.firstChildElement c.1).isSome := by simpa using List.find?_some hfind
      obtain ⟨controlName, hcontrol⟩ := Option.isSome_iff_exists.mp hsome
      have htext : d.HoldsText c.1 ↔ controlName.getText.isSome := by
        simp [HoldsText, XmlElement.readText, hcontrol]
      have honly : (∀ c', some c = some c' → d.HoldsText c'.1) ↔ d.HoldsText c.1 := by simp
      rw [honly, htext]
      simp only [hcontrol, Option.bind_some]
      constructor
      · rintro ⟨r, hr, -⟩
        obtain ⟨value, hvalue, -⟩ := Option.map_eq_some_iff.mp hr
        simp [hvalue]
      · intro hreadable
        obtain ⟨value, hvalue⟩ := Option.isSome_iff_exists.mp hreadable
        have hmatch := commandType_of_mem (List.mem_of_find?_eq_some hfind) value
        refine ⟨_, by rw [hvalue]; rfl, hmsg.trans hname.symm, ?_, ?_, hend _ hmsg⟩
        · rw [hmsgType]
          exact htag
        · rw [dispatch_command hmsg hmsgType hmatch, hhandler]
          simp only [ptz_iff_of_find hfind]

/-- A document that is meant for no handler, with tags that lead to none. -/
theorem Classified.of_unhandled {d : Manscdp} {r : Bool × GB28181XmlMsg}
    (hname : r.2.cmdname = d.cmdName) (htype : TypeNames d.cmdName d.cmdType r.2.cmdtype)
    (hdispatch : r.2.dispatch = .nothing) (hmessage : d.messageHandler = none)
    (hended : SignalingServer.subscriptionHandler r = .ended)
    (hsubscription : d.subscriptionHandler = .ended) : d.Classified r where
  name := hname
  type := htype
  message := by rw [hdispatch, hmessage]; rfl
  subscription := hended.trans hsubscription.symm

theorem analyzeDeviceControl_cmdtype {lib : TinyXml2} {root : XmlElement} {msg : GB28181XmlMsg}
    {r : Bool × GB28181XmlMsg} (h : analyzeDeviceControl lib root msg = some r) :
    r.2.cmdtype = msg.cmdtype := by
  unfold analyzeDeviceControl at h
  split at h
  · cases h
    rfl
  · obtain ⟨value, -, rfl⟩ := Option.map_eq_some_iff.mp h
    rfl

theorem classified_control_iff (d : Manscdp) (lib : TinyXml2) (hname : d.cmdName = .control) :
    (∃ r, analyzeControl lib d.root = some r ∧ d.Classified r) ↔
      (d.cmdType = "DeviceControl" ∧ d.CommandReadable lib) ∨ d.cmdType = "DeviceConfig" ∨
        ∀ e ∈ cmdTypes .control, ¬ startsWith d.cmdType e.1 := by
  obtain ⟨sn, hheader⟩ := d.readHeader_eq lib { cmdname := .control }
  have hnotQuery : d.subscriptionHandler = .ended := by simp [subscriptionHandler, hname]
  unfold analyzeControl
  -- the header of a document can be read; the branches are those of `AnalyzeControl`
  simp only [hheader, Option.bind_some]
  constructor
  · rintro ⟨r, hr, hclassified⟩
    have htype := hclassified.type
    rw [hname] at htype
    split at hr
    · rw [analyzeDeviceControl_cmdtype hr, typeNames_iff_mem (by simp)] at htype
      have htype : d.cmdType = "DeviceControl" := by simpa [cmdTypes] using htype
      exact .inl ⟨htype, (d.classified_deviceControl_iff lib hname htype rfl rfl rfl).mp
        ⟨r, hr, hclassified⟩⟩
    split at hr
    · cases hr
      rw [typeNames_iff_mem (by simp)] at htype
      exact .inr (.inl (by simpa [cmdTypes] using htype))
    · rename_i hcontrol hconfig
      exact .inr (.inr (by simp [cmdTypes, hcontrol, hconfig]))
  · rintro (⟨htype, hreadable⟩ | htype | hother)
    · rw [htype, if_pos (by decide)]
      exact (d.classified_deviceControl_iff lib hname htype rfl rfl rfl).mpr hreadable
    · rw [htype, if_neg (by decide), if_pos (by decide)]
      refine ⟨_, rfl, .of_unhandled hname.symm ?_ rfl ?_ rfl hnotQuery⟩
      · rw [hname, htype]
        exact .inl (by simp [cmdTypes])
      · simp [messageHandler, hname, htype]
    · have hcontrol := hother ("DeviceControl", .deviceControl) (by simp [cmdTypes])
      have hconfig := hother ("DeviceConfig", .deviceConfig) (by simp [cmdTypes])
      rw [if_neg hcontrol, if_neg hconfig]
      refine ⟨_, rfl, .of_unhandled hname.symm ?_ rfl ?_ rfl hnotQuery⟩
      · rw [hname]
        exact .inr ⟨fun e he => (ne_of_not_startsWith (hother e he)).symm, rfl⟩
      · simp [messageHandler, hname, ne_of_not_startsWith hcontrol]

/-! ### Query -/

theorem isSome_catalogQueryMsg (d : Manscdp) :
    (catalogQueryMsg d.root).isSome ↔ d.HoldsText "StartTime" ∧ d.HoldsText "EndTime" := by
  unfold catalogQueryMsg HoldsText
  cases d.root.readText "StartTime" "" with
  | none => simp
  | some startTime =>
      cases d.root.readText "EndTime" "" with
      | none => simp
      | some endTime => simp

theorem isSome_readSecrecy (root : XmlElement) :
    (readSecrecy root).isSome = (root.readText "Secrecy" "").isSome := by
  unfold readSecrecy XmlElement.readText
  cases root.firstChildElement "Secrecy" with
  | none => rfl
  | some e => simp

theorem isSome_rereadStartTime {root : XmlElement} {startTime : String}
    (h : root.readText "StartTime" "" = some startTime) :
    (rereadStartTime root startTime).isSome ↔ ((root.firstChildElement "RecorderID").isSome →
      (root.firstChildElement "StartTime").isSome) := by
  unfold XmlElement.readText at h
  unfold rereadStartTime
  cases root.firstChildElement "RecorderID" with
  | none => simp
  | some e =>
      cases hfirst : root.firstChildElement "StartTime" with
      | none => simp
      | some e' =>
          rw [hfirst] at h
          simp [h]

/-- A step of a reading succeeds if its value is there and the rest succeeds. -/
theorem isSome_bind_of_forall {α β : Type} {x : Option α} {f : α → Option β} {p : Prop}
    (h : ∀ a, x = some a → ((f a).isSome ↔ p)) : (x.bind f).isSome ↔ x.isSome ∧ p := by
  cases hx : x with
  | none => simp
  | some a => simpa using h a hx

theorem isSome_recordInfoQueryMsg (d : Manscdp) (deviceID : String) :
    (recordInfoQueryMsg d.root deviceID).isSome ↔ d.RecordReadable := by
  unfold recordInfoQueryMsg RecordReadable HoldsText
  simp only [List.forall_mem_cons, List.not_mem_nil, false_implies, implies_true, and_true,
    and_assoc, ← isSome_readSecrecy]
  refine isSome_bind_of_forall fun startTime hstart => ?_
  refine isSome_bind_of_forall fun endTime _ => ?_
  refine isSome_bind_of_forall fun filePath _ => ?_
  refine isSome_bind_of_forall fun address _ => ?_
  refine isSome_bind_of_forall fun secrecy _ => ?_
  refine isSome_bind_of_forall fun recordType _ => ?_
  rw [← isSome_rereadStartTime hstart]
  cases rereadStartTime d.root startTime with
  | none => simp
  | some again => simp

theorem classified_query_iff (d : Manscdp) (lib : TinyXml2) (hname : d.cmdName = .query) :
    (∃ r, analyzeQuery lib d.root = some r ∧ d.Classified r) ↔
      (d.cmdType = "Catalog" ∧ d.HoldsText "StartTime" ∧ d.HoldsText "EndTime") ∨
        (d.cmdType = "RecordInfo" ∧ d.RecordReadable) ∨
        ∀ e ∈ cmdTypes .query, ¬ startsWith d.cmdType e.1 := by
  obtain ⟨sn, hheader⟩ := d.readHeader_eq lib { cmdname := .query }
  constructor
  · rintro ⟨r, hr, hclassified⟩
    have htype := hclassified.type
    rw [hname] at htype
    rcases analyzeQuery_cases hheader hr with
      ⟨-, q, hq, rfl⟩ | ⟨-, q, hq, rfl⟩ | ⟨cmdtype, hwrong, rfl⟩ | ⟨hother, -⟩
    · rw [typeNames_iff_mem (by simp)] at htype
      exact .inl ⟨by simpa [cmdTypes] using htype, d.isSome_catalogQueryMsg.mp (by simp [hq])⟩
    · rw [typeNames_iff_mem (by simp)] at htype
      exact .inr (.inl ⟨by simpa [cmdTypes] using htype,
        (d.isSome_recordInfoQueryMsg d.deviceID).mp (by simp [hq])⟩)
    · -- no query is named by the tags of the other kind
      rcases hwrong with rfl | rfl
      · simp [TypeNames, cmdTypes] at htype
      · simp [TypeNames, cmdTypes] at htype
    · exact .inr (.inr (by simpa [cmdTypes] using hother))
  · unfold analyzeQuery
    simp only [hheader, Option.bind_some]
    rintro (⟨htype, hreadable⟩ | ⟨htype, hreadable⟩ | hother)
    · rw [htype, if_neg (by decide), if_pos (by decide)]
      obtain ⟨q, hq⟩ := Option.isSome_iff_exists.mp (d.isSome_catalogQueryMsg.mpr hreadable)
      refine ⟨_, by rw [hq]; rfl, hname.symm, ?_, ?_, ?_⟩
      · rw [hname, htype]
        exact .inl (by simp [cmdTypes])
      · simp [messageHandler, hname, htype]
        rfl
      · simp [subscriptionHandler, hname, htype]
        rfl
    · rw [htype, if_neg (by decide), if_neg (by decide), if_neg (by decide), if_pos (by decide)]
      obtain ⟨q, hq⟩ := Option.isSome_iff_exists.mp
        ((d.isSome_recordInfoQueryMsg d.deviceID).mpr hreadable)
      refine ⟨_, by rw [hq]; rfl, hname.symm, ?_, ?_, ?_⟩
      · rw [hname, htype]
        exact .inl (by simp [cmdTypes])
      · simp [messageHandler, hname, htype]
        rfl
      · simp [subscriptionHandler, hname, htype]
        rfl
    · -- a type outside the table, and none of the prefixes compared
      have hunknown : TypeNames d.cmdName d.cmdType .unknown := by
        rw [hname]
        exact .inr ⟨fun e he => (ne_of_not_startsWith (hother e he)).symm, rfl⟩
      simp only [cmdTypes, List.forall_mem_cons] at hother
      obtain ⟨h₁, h₂, h₃, h₄, h₅, h₆, h₇, h₈, -⟩ := hother
      simp only [h₁, h₂, h₃, h₄, h₅, h₆, h₇, h₈]
      refine ⟨_, rfl, .of_unhandled hname.symm hunknown rfl ?_ rfl ?_⟩
      · simp [messageHandler, hname, ne_of_not_startsWith h₂, ne_of_not_startsWith h₃,
          ne_of_not_startsWith h₄]
      · simp [subscriptionHandler, hname, ne_of_not_startsWith h₂, ne_of_not_startsWith h₅,
          ne_of_not_startsWith h₈]

/-- For every parser and every well-formed document: the analysis returns the
tags that name the document, and the handlers that it is meant for are reached,
exactly for these documents. -/
theorem classified_iff (lib : TinyXml2) (text : String) (d : Manscdp)
    (hparse : lib.parse text = some d.root) :
    (∃ r, analyzeReceivedSipMsg lib (some text) = some r ∧ d.Classified r) ↔
      d.Classifiable lib := by
  have hroot : analyzeReceivedSipMsg lib (some text) = analyzeRoot lib d.root := by
    simp only [analyzeReceivedSipMsg, Option.bind_some, hparse]
  rw [hroot]
  unfold Classifiable
  rcases d.analyzeRoot_eq lib with ⟨hname, hbranch⟩ | ⟨hname, hbranch⟩ | ⟨hname, types, hbranch⟩
  · rw [hbranch, d.classified_control_iff lib hname]
    simp [hname]
  · rw [hbranch, d.classified_query_iff lib hname]
    simp [hname]
  · -- `Notify` and `Response` are reported as `Control`
    have htag : (analyzeTagged types d.root).2.cmdname = .control := by
      unfold analyzeTagged
      dsimp only
      split
      · rfl
      · split
        · rfl
        · rfl
    rw [hbranch]
    constructor
    · rintro ⟨r, hr, hclassified⟩
      obtain rfl := Option.some.inj hr
      have hsame := htag.symm.trans hclassified.name
      rcases hname with hname | hname <;> rw [hname] at hsame <;> cases hsame
    · rcases hname with hname | hname <;> simp [hname]

/-- A query for device 7. -/
def sampleQuery (cmdType : String) : Manscdp where
  root := sampleRoot "Query" cmdType []
  cmdName := .query
  named := by simp [sampleRoot, cmdNames]
  cmdType := cmdType
  cmdTypeText := rfl
  sn := "1"
  snText := rfl
  deviceID := "7"
  deviceIDText := rfl

def sampleQueryText (cmdType : String) : String :=
  "<Query><CmdType>" ++ cmdType ++ "</CmdType><SN>1</SN><DeviceID>7</DeviceID></Query>"

theorem classified_catalog :
    (∃ r, analyzeReceivedSipMsg (sampleLib (sampleQuery "Catalog").root)
        (some (sampleQueryText "Catalog")) = some r ∧ (sampleQuery "Catalog").Classified r) ↔
      (sampleQuery "Catalog").Classifiable (sampleLib (sampleQuery "Catalog").root) :=
  classified_iff (sampleLib (sampleQuery "Catalog").root) (sampleQueryText "Catalog")
    (sampleQuery "Catalog") rfl

/-- A query for device information is tagged as a configuration command, and the
task that would answer it is not submitted. -/
theorem device_info_unanswered :
    ¬ ∃ r, analyzeReceivedSipMsg (sampleLib (sampleQuery "DeviceInfo").root)
        (some (sampleQueryText "DeviceInfo")) = some r ∧
      (sampleQuery "DeviceInfo").Classified r := by
  rintro ⟨r, hr, hclassified⟩
  obtain rfl := Option.some.inj hr
  have hnothing := hclassified.message
  have hmeant : (sampleQuery "DeviceInfo").messageHandler = some .deviceInfoQuery := by decide
  rw [hmeant] at hnothing
  cases hnothing

end Manscdp

end XmlMsgAnalysis

end SignalingServer
