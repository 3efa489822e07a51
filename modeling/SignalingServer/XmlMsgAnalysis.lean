import SignalingServer.Tools.TypeConversion
import SignalingServer.UserAgent.XmlMsg

/-!
The analysis of MANSCDP messages (XmlMsgAnalysis.cpp). A message is an XML
document whose root names the kind of the message and whose `CmdType` names the
command. The parser of tinyxml2 and its number reader are parameters. A string
that is assigned from an element without text is read through a null pointer;
the analysis does not return then.
-/

namespace SignalingServer

/-- The nodes of a document, without attributes. -/
inductive XmlNode where
  | element (name : String) (children : List XmlNode)
  | text (value : String)
  | comment
  | other

structure XmlElement where
  name : String
  children : List XmlNode

/-- The parts of tinyxml2 that are not modelled: the root element that `Parse`
finds, if it succeeds, and `XMLUtil::ToInt`. -/
structure TinyXml2 where
  parse : String → Option XmlElement
  toInt : String → Option Int

namespace XmlElement

/-- `XMLNode::FirstChildElement`. -/
def firstChildElement (e : XmlElement) (name : String) : Option XmlElement :=
  e.children.findSome? fun
    | .element n children => if n = name then some ⟨n, children⟩ else none
    | _ => none

/-- `XMLElement::GetText` skips comments; `none` is the null pointer. -/
def getText (e : XmlElement) : Option String :=
  match e.children.dropWhile fun | .comment => true | _ => false with
  | .text value :: _ => some value
  | _ => none

/-- `XMLElement::IntText` does not skip comments. -/
def intText (lib : TinyXml2) (e : XmlElement) : Int :=
  match e.children with
  | .text value :: _ => (lib.toInt value).getD 0
  | _ => 0

/-- `if (child) field = child->GetText();` on a field that holds `field`. -/
def readText (e : XmlElement) (name field : String) : Option String :=
  match e.firstChildElement name with
  | none => some field
  | some child => child.getText

end XmlElement

/-- `strncmp(s, name, n) == 0`, where `n` is the length of `name`. -/
def startsWith (s name : String) : Bool := name.toList.isPrefixOf s.toList

namespace XmlMsgAnalysis

/-! ### Control and Query -/

/-- `SN`, `DeviceID` and `CmdType` of the root. Without one of the elements, or
without a text in `CmdType`, the analysis returns false. -/
def readHeader (lib : TinyXml2) (root : XmlElement) (msg : GB28181XmlMsg) :
    Option (GB28181XmlMsg × Option String) :=
  match root.firstChildElement "CmdType" with
  | none => some (msg, none)
  | some cmdTypeElement =>
      match root.firstChildElement "SN" with
      | none => some (msg, none)
      | some snElement =>
          let msg := { msg with sn := UInt32.ofInt (snElement.intText lib) }
          match root.firstChildElement "DeviceID" with
          | none => some (msg, none)
          | some deviceIDElement =>
              deviceIDElement.getText.map fun id =>
                ({ msg with deviceID := id }, cmdTypeElement.getText)

/-- `ControlPriority` of a PTZ command, 0 where there is none. -/
def controlPriority (lib : TinyXml2) (root : XmlElement) : Int :=
  match (root.firstChildElement "Info").bind (·.firstChildElement "ControlPriority") with
  | none => 0
  | some priorityElement => priorityElement.intText lib

/-- The elements that hold a control command, in the order in which they are
looked for, with the tag and the object that each leads to. -/
def controlCommands (lib : TinyXml2) (root : XmlElement) :
    List (String × XmlControlCmd × (String → XmlPayload)) :=
  [("PTZCmd", .ptz, fun value => .ptzControl ⟨value, controlPriority lib root⟩),
    ("TeleBoot", .teleboot, .bootControl),
    ("RecordCmd", .record, .recordControl),
    ("GuardCmd", .guard, .guardControl),
    ("AlarmCmd", .alarm, .alarmControl),
    ("IFameCmd", .iframe, .iFameControl),
    ("DragZoomIn", .dragZoomIn, .dragZoomControl),
    ("DragZoomOut", .dragZoomOut, .dragZoomControl),
    ("HomePosition", .homePosition, .homePositionControl)]

/-- The branch of `DeviceControl`. -/
def analyzeDeviceControl (lib : TinyXml2) (root : XmlElement) (msg : GB28181XmlMsg) :
    Option (Bool × GB28181XmlMsg) :=
  match (controlCommands lib root).find? fun c => (root.firstChildElement c.1).isSome with
  | none => some (false, msg)
  | some (name, controlCmd, payload) =>
      ((root.firstChildElement name).bind XmlElement.getText).map fun value =>
        (true, { msg with controlCmd := controlCmd, pPoint := some (payload value) })

/-- The branch of the root `Control`. -/
def analyzeControl (lib : TinyXml2) (root : XmlElement) : Option (Bool × GB28181XmlMsg) :=
  (readHeader lib root { cmdname := .control }).bind fun (msg, cmdType) =>
    match cmdType with
    | none => some (false, msg)
    | some cmdType =>
        if startsWith cmdType "DeviceControl" then
          analyzeDeviceControl lib root { msg with cmdtype := .deviceControl }
        else if startsWith cmdType "DeviceConfig" then
          some (true, { msg with cmdtype := .deviceConfig, pPoint := some (.deviceConfig "") })
        else some (false, { msg with cmdtype := .unknown })

/-- The object of a catalog query. -/
def catalogQueryMsg (root : XmlElement) : Option CatalogQueryMsg := do
  let startTime ← root.readText "StartTime" ""
  let endTime ← root.readText "EndTime" ""
  return ⟨startTime, endTime⟩

/-- `Secrecy` of a record query, 0 where there is none. -/
def readSecrecy (root : XmlElement) : Option Int :=
  match root.firstChildElement "Secrecy" with
  | none => some 0
  | some secrecyElement => secrecyElement.getText.map atoi

/-- What `RecorderID` leads to: the start time is read once more, through the
pointer to its element as it is. -/
def rereadStartTime (root : XmlElement) (startTime : String) : Option String :=
  match root.firstChildElement "RecorderID" with
  | none => some startTime
  | some _ => (root.firstChildElement "StartTime").bind XmlElement.getText

/-- The object of a record query. -/
def recordInfoQueryMsg (root : XmlElement) (deviceID : String) : Option RecordInfoQueryMsg := do
  let startTime ← root.readText "StartTime" ""
  let endTime ← root.readText "EndTime" ""
  let filePath ← root.readText "FilePath" ""
  let address ← root.readText "Address" ""
  let secrecy ← readSecrecy root
  let recordType ← root.readText "Type" ""
  let startTime ← rereadStartTime root startTime
  return { deviceID, startTime, endTime, filePath, address, secrecy, recordType,
           recorderID := "", indistinctQuery := "" }

/-- The branch of the root `Query`. -/
def analyzeQuery (lib : TinyXml2) (root : XmlElement) : Option (Bool × GB28181XmlMsg) :=
  (readHeader lib root { cmdname := .query }).bind fun (msg, cmdType) =>
    match cmdType with
    | none => some (false, msg)
    | some cmdType =>
        if startsWith cmdType "DeviceStatus" then some (true, { msg with cmdtype := .deviceControl })
        else if startsWith cmdType "Catalog" then
          (catalogQueryMsg root).map fun q =>
            (true, { msg with cmdtype := .catalog, pPoint := some (.catalogQuery q) })
        else if startsWith cmdType "DeviceInfo" then
          some (true, { msg with cmdtype := .deviceConfig })
        else if startsWith cmdType "RecordInfo" then
          (recordInfoQueryMsg root msg.deviceID).map fun q =>
            (true, { msg with cmdtype := .recordInfo, pPoint := some (.recordInfoQuery q) })
        else if startsWith cmdType "Alarm" then some (true, { msg with cmdtype := .deviceConfig })
        else if startsWith cmdType "ConfigDownload" then
          some (true, { msg with cmdtype := .deviceConfig })
        else if startsWith cmdType "PresetQuery" then
          some (true, { msg with cmdtype := .deviceConfig })
        else if startsWith cmdType "MobilePosition" then
          some (true, { msg with cmdtype := .deviceConfig })
        else some (false, { msg with cmdtype := .unknown })

/-- What becomes of a query that has a command. -/
theorem analyzeQuery_cases {lib : TinyXml2} {root : XmlElement} {msg : GB28181XmlMsg}
    {cmdType : String} {r : Bool × GB28181XmlMsg}
    (hheader : readHeader lib root { cmdname := .query } = some (msg, some cmdType))
    (h : analyzeQuery lib root = some r) :
    (startsWith cmdType "Catalog" ∧ ∃ q, catalogQueryMsg root = some q ∧
      r = (true, { msg with cmdtype := .catalog, pPoint := some (.catalogQuery q) })) ∨
    (startsWith cmdType "RecordInfo" ∧ ∃ q, recordInfoQueryMsg root msg.deviceID = some q ∧
      r = (true, { msg with cmdtype := .recordInfo, pPoint := some (.recordInfoQuery q) })) ∨
    (∃ cmdtype, (cmdtype = .deviceControl ∨ cmdtype = .deviceConfig) ∧
      r = (true, { msg with cmdtype := cmdtype })) ∨
    ((∀ name ∈ ["DeviceStatus", "Catalog", "DeviceInfo", "RecordInfo", "Alarm", "ConfigDownload",
        "PresetQuery", "MobilePosition"], ¬ startsWith cmdType name) ∧
      r = (false, { msg with cmdtype := .unknown })) := by
  unfold analyzeQuery at h
  rw [hheader, Option.bind_some] at h
  dsimp only at h
  have htagged {cmdtype : XmlCmdType}
      (hwrong : cmdtype = .deviceControl ∨ cmdtype = .deviceConfig)
      (hr : some (true, { msg with cmdtype := cmdtype }) = some r) :
      ∃ cmdtype, (cmdtype = .deviceControl ∨ cmdtype = .deviceConfig) ∧
        r = (true, { msg with cmdtype := cmdtype }) :=
    ⟨cmdtype, hwrong, (Option.some.inj hr).symm⟩
  split at h
  · exact .inr (.inr (.inl (htagged (.inl rfl) h)))
  split at h
  · rename_i hcatalog
    obtain ⟨q, hq, rfl⟩ := Option.map_eq_some_iff.mp h
    exact .inl ⟨hcatalog, q, hq, rfl⟩
  split at h
  · exact .inr (.inr (.inl (htagged (.inr rfl) h)))
  split at h
  · rename_i hrecord
    obtain ⟨q, hq, rfl⟩ := Option.map_eq_some_iff.mp h
    exact .inr (.inl ⟨hrecord, q, hq, rfl⟩)
  -- from here on every name that is known has the tag of a configuration command
  split at h
  · exact .inr (.inr (.inl (htagged (.inr rfl) h)))
  split at h
  · exact .inr (.inr (.inl (htagged (.inr rfl) h)))
  split at h
  · exact .inr (.inr (.inl (htagged (.inr rfl) h)))
  split at h
  · exact .inr (.inr (.inl (htagged (.inr rfl) h)))
  · rename_i h₁ h₂ h₃ h₄ h₅ h₆ h₇ h₈
    exact .inr (.inr (.inr ⟨by simp [h₁, h₂, h₃, h₄, h₅, h₆, h₇, h₈], (Option.some.inj h).symm⟩))

/-! ### Notify and Response -/

/-- What the branches of the roots `Notify` and `Response` share: the first name
that `CmdType` starts with gives the tag. -/
def analyzeTagged (types : List (String × XmlCmdType)) (root : XmlElement) :
    Bool × GB28181XmlMsg :=
  let msg : GB28181XmlMsg := { cmdname := .control }
  match (root.firstChildElement "CmdType").bind XmlElement.getText with
  | none => (false, msg)
  | some cmdType =>
      match types.find? fun t => startsWith cmdType t.1 with
      | none => (false, { msg with cmdtype := .unknown })
      | some (_, cmdtype) => (true, { msg with cmdtype := cmdtype })

def notifyTypes : List (String × XmlCmdType) :=
  [("Keepalive", .deviceControl), ("Alarm", .deviceConfig), ("MediaStatus", .deviceConfig),
    ("Broadcast", .deviceConfig), ("MobilePosition", .deviceConfig), ("Catalog", .deviceConfig)]

def responseTypes : List (String × XmlCmdType) :=
  [("DeviceControl", .deviceControl), ("Alarm", .deviceConfig), ("Catalog", .deviceConfig),
    ("DeviceInfo", .deviceConfig), ("DeviceStatus", .deviceConfig), ("RecordInfo", .deviceConfig),
    ("DeviceConfig", .deviceConfig), ("ConfigDownload", .deviceConfig),
    ("PresetQuery", .deviceConfig), ("Broadcast", .deviceConfig)]

/-! ### The analysis -/

def analyzeRoot (lib : TinyXml2) (root : XmlElement) : Option (Bool × GB28181XmlMsg) :=
  if startsWith root.name "Control" then analyzeControl lib root
  else if startsWith root.name "Query" then analyzeQuery lib root
  else if startsWith root.name "Notify" then some (analyzeTagged notifyTypes root)
  else if startsWith root.name "Response" then some (analyzeTagged responseTypes root)
  else some (false, {})

/-- `AnalyzeReceivedSipMsg` on a new `GB28181XmlMsg`, as both callers have it;
`none` where it reads through a null pointer. -/
def analyzeReceivedSipMsg (lib : TinyXml2) (msgStr : Option String) :
    Option (Bool × GB28181XmlMsg) :=
  match msgStr.bind lib.parse with
  | none => some (false, {})
  | some root => analyzeRoot lib root

end XmlMsgAnalysis

end SignalingServer
