import Mathlib.Data.List.Basic
import SignalingServer.XmlMsgAnalysis

/-!
The texts that the analysis of a message reads (XmlMsgAnalysis.cpp). An element that is there
may have no text, and then `GetText` gives a null pointer; where the analysis goes on with it,
and for which documents, is settled here.
-/

namespace SignalingServer

namespace XmlElement

/-- The first child of this name has a text, if there is one. -/
def HasText (root : XmlElement) (name : String) : Prop :=
  (root.firstChildElement name).all fun child => child.getText.isSome

instance (root : XmlElement) (name : String) : Decidable (root.HasText name) :=
  inferInstanceAs (Decidable (_ = true))

/-- The text of the element of this name, empty where there is none. -/
def textOf (root : XmlElement) (name : String) : String :=
  ((root.firstChildElement name).bind getText).getD ""

variable {root child : XmlElement} {name : String}

/-- What `GetText` gives for the element of this name. -/
theorem getText_eq (hchild : root.firstChildElement name = some child) :
    child.getText = if root.HasText name then some (root.textOf name) else none := by
  simp only [HasText, textOf, hchild, Option.all_some, Option.bind_some]
  cases child.getText with
  | none => rfl
  | some value => rfl

theorem hasText_of_absent (hchild : root.firstChildElement name = none) : root.HasText name := by
  rw [HasText, hchild, Option.all_none]

/-- A field without a value before gets the text of its element, or is read through null. -/
theorem readText_eq (root : XmlElement) (name : String) :
    root.readText name "" = if root.HasText name then some (root.textOf name) else none := by
  unfold readText
  cases hchild : root.firstChildElement name with
  | none =>
      rw [if_pos (hasText_of_absent hchild), textOf, hchild]
      rfl
  | some child => exact getText_eq hchild

end XmlElement

/-- The elements that every command has. -/
def Headed (root : XmlElement) : Prop :=
  (root.firstChildElement "CmdType").isSome ∧ (root.firstChildElement "SN").isSome ∧
    (root.firstChildElement "DeviceID").isSome

instance (root : XmlElement) : Decidable (Headed root) := inferInstanceAs (Decidable (_ ∧ _))

/-- The text of `CmdType`. -/
def cmdTypeOf (root : XmlElement) : Option String :=
  (root.firstChildElement "CmdType").bind XmlElement.getText

/-- The elements with the control commands, in the order of the source. -/
def controlNames : List String :=
  ["PTZCmd", "TeleBoot", "RecordCmd", "GuardCmd", "AlarmCmd", "IFameCmd", "DragZoomIn",
    "DragZoomOut", "HomePosition"]

/-- The control command that is found has a text. -/
def ControlReadable (root : XmlElement) : Prop :=
  ∀ name ∈ controlNames.find? fun name => (root.firstChildElement name).isSome, root.HasText name

/-- The elements of a record query that are read have texts; `RecorderID` is not read, but where
it stands `StartTime` is read once more, and has to be there. -/
def RecordReadable (root : XmlElement) : Prop :=
  (∀ name ∈ ["StartTime", "EndTime", "FilePath", "Address", "Secrecy", "Type"],
    root.HasText name) ∧
    ((root.firstChildElement "RecorderID").isSome → (root.firstChildElement "StartTime").isSome)

/-- The document has a text wherever the analysis needs one: in `DeviceID`, in the control
command that is found, in the times of a catalog query, and in the fields of a record query,
which also names no recorder. -/
def Readable (root : XmlElement) : Prop :=
  (startsWith root.name "Control" ∨ startsWith root.name "Query") → Headed root →
    root.HasText "DeviceID" ∧ ∀ cmdType ∈ cmdTypeOf root,
      if startsWith root.name "Control" then
        startsWith cmdType "DeviceControl" → ControlReadable root
      else
        (startsWith cmdType "Catalog" → root.HasText "StartTime" ∧ root.HasText "EndTime") ∧
          (startsWith cmdType "RecordInfo" →
            RecordReadable root ∧ root.textOf "RecorderID" = "")

/-- Every field of a record query is the text of its element. -/
structure StoresTexts (root : XmlElement) (q : RecordInfoQueryMsg) : Prop where
  deviceID : q.deviceID = root.textOf "DeviceID"
  startTime : q.startTime = root.textOf "StartTime"
  endTime : q.endTime = root.textOf "EndTime"
  filePath : q.filePath = root.textOf "FilePath"
  address : q.address = root.textOf "Address"
  secrecy : q.secrecy = atoi (root.textOf "Secrecy")
  recordType : q.recordType = root.textOf "Type"
  recorderID : q.recorderID = root.textOf "RecorderID"

namespace XmlMsgAnalysis

/-- The analysis comes to its end, and a record query stores the texts of the document. -/
def Withstands (lib : TinyXml2) (msgStr : Option String) : Prop :=
  ∃ r, analyzeReceivedSipMsg lib msgStr = some r ∧
    ∀ root q, msgStr.bind lib.parse = some root → r.2.pPoint = some (.recordInfoQuery q) →
      StoresTexts root q

/-! ### The parts of the analysis -/

variable {lib : TinyXml2} {root : XmlElement} {msg : GB28181XmlMsg}

/-- Two names that a text starts with begin alike. -/
theorem head_of_startsWith {s name name' : String} (h : startsWith s name)
    (h' : startsWith s name') (hne : name.toList ≠ []) (hne' : name'.toList ≠ []) :
    name.toList.head? = name'.toList.head? := by
  obtain ⟨rest, hrest⟩ := List.isPrefixOf_iff_prefix.mp h
  obtain ⟨rest', hrest'⟩ := List.isPrefixOf_iff_prefix.mp h'
  rw [← List.head?_append_of_ne_nil _ hne, hrest, ← hrest', List.head?_append_of_ne_nil _ hne']

theorem readHeader_of_not_headed (lib : TinyXml2) (msg : GB28181XmlMsg) (h : ¬ Headed root) :
    ∃ sn, readHeader lib root msg = some ({ msg with sn := sn }, none) := by
  unfold readHeader
  cases htype : root.firstChildElement "CmdType" with
  | none => exact ⟨msg.sn, rfl⟩
  | some cmdType =>
      cases hsn : root.firstChildElement "SN" with
      | none => exact ⟨msg.sn, rfl⟩
      | some sn =>
          cases hid : root.firstChildElement "DeviceID" with
          | none => exact ⟨_, rfl⟩
          | some id =>
              refine absurd ⟨?_, ?_, ?_⟩ h
              · rw [htype]; rfl
              · rw [hsn]; rfl
              · rw [hid]; rfl

theorem readHeader_of_headed (lib : TinyXml2) (msg : GB28181XmlMsg) (h : Headed root) :
    ∃ sn, readHeader lib root msg =
      if root.HasText "DeviceID" then
        some ({ msg with sn := sn, deviceID := root.textOf "DeviceID" }, cmdTypeOf root)
      else none := by
  obtain ⟨htype, hsn, hid⟩ := h
  obtain ⟨cmdTypeElement, htype⟩ := Option.isSome_iff_exists.mp htype
  obtain ⟨snElement, hsn⟩ := Option.isSome_iff_exists.mp hsn
  obtain ⟨deviceIDElement, hid⟩ := Option.isSome_iff_exists.mp hid
  refine ⟨UInt32.ofInt (snElement.intText lib), ?_⟩
  simp only [readHeader, cmdTypeOf, htype, hsn, hid, Option.bind_some]
  rw [XmlElement.getText_eq hid]
  split
  · rfl
  · rfl

/-- A part of the analysis comes to its end, and a record query stores the texts of `root`. -/
def Delivers (root : XmlElement) (o : Option (Bool × GB28181XmlMsg)) : Prop :=
  ∃ r, o = some r ∧ ∀ q, r.2.pPoint = some (.recordInfoQuery q) → StoresTexts root q

theorem not_delivers_none (root : XmlElement) : ¬ Delivers root none := by
  rintro ⟨r, hr, -⟩
  exact absurd hr (Option.some_ne_none r).symm

theorem delivers_of_no_query {ok : Bool}
    (h : ∀ q, msg.pPoint ≠ some (.recordInfoQuery q)) : Delivers root (some (ok, msg)) :=
  ⟨_, rfl, fun q hq => absurd hq (h q)⟩

theorem controlCommands_no_query (lib : TinyXml2) (root : XmlElement) :
    ∀ c ∈ controlCommands lib root, ∀ value q, c.2.2 value ≠ .recordInfoQuery q := by
  intro c hc value q
  simp only [controlCommands, List.mem_cons, List.not_mem_nil, or_false] at hc
  rcases hc with rfl | rfl | rfl | rfl | rfl | rfl | rfl | rfl | rfl <;> simp

theorem find?_controlNames (lib : TinyXml2) (root : XmlElement) :
    (controlNames.find? fun name => (root.firstChildElement name).isSome) =
      ((controlCommands lib root).find? fun c => (root.firstChildElement c.1).isSome).map
        Prod.fst := by
  have hnames : (controlCommands lib root).map Prod.fst = controlNames := rfl
  rw [← hnames, List.find?_map]
  rfl

theorem delivers_analyzeDeviceControl (lib : TinyXml2) (hmsg : msg.pPoint = none) :
    Delivers root (analyzeDeviceControl lib root msg) ↔ ControlReadable root := by
  unfold ControlReadable analyzeDeviceControl
  rw [find?_controlNames lib]
  cases hfind : (controlCommands lib root).find? fun c => (root.firstChildElement c.1).isSome with
  | none =>
      refine iff_of_true (delivers_of_no_query ?_) ?_
      · simp [hmsg]
      · simp
  | some c =>
      have hfound : (root.firstChildElement c.1).isSome := by simpa using List.find?_some hfind
      obtain ⟨child, hchild⟩ := Option.isSome_iff_exists.mp hfound
      simp only [Option.map_some, Option.mem_some_iff, forall_eq']
      rw [hchild, Option.bind_some, XmlElement.getText_eq hchild]
      by_cases htext : root.HasText c.1
      · rw [if_pos htext, Option.map_some]
        refine iff_of_true (delivers_of_no_query fun q hq => ?_) htext
        exact controlCommands_no_query lib root c (List.mem_of_find?_eq_some hfind) _ q
          (Option.some.inj hq)
      · rw [if_neg htext, Option.map_none]
        exact iff_of_false (not_delivers_none root) htext

theorem delivers_catalogQuery (root : XmlElement) (msg : GB28181XmlMsg) :
    Delivers root ((catalogQueryMsg root).map fun q =>
        (true, { msg with cmdtype := .catalog, pPoint := some (.catalogQuery q) })) ↔
      root.HasText "StartTime" ∧ root.HasText "EndTime" := by
  simp only [catalogQueryMsg, XmlElement.readText_eq]
  by_cases hstart : root.HasText "StartTime"
  · by_cases hend : root.HasText "EndTime"
    · refine iff_of_true ?_ ⟨hstart, hend⟩
      rw [if_pos hstart, if_pos hend]
      exact delivers_of_no_query (by simp)
    · refine iff_of_false ?_ fun h => hend h.2
      rw [if_pos hstart, if_neg hend]
      exact not_delivers_none root
  · refine iff_of_false ?_ fun h => hstart h.1
    rw [if_neg hstart]
    exact not_delivers_none root

/-! ### A record query -/

theorem readSecrecy_eq (root : XmlElement) :
    readSecrecy root =
      if root.HasText "Secrecy" then some (atoi (root.textOf "Secrecy")) else none := by
  have hread : readSecrecy root = (root.readText "Secrecy" "").map atoi := by
    unfold readSecrecy XmlElement.readText
    cases root.firstChildElement "Secrecy" with
    | none => rfl
    | some child => rfl
  rw [hread, XmlElement.readText_eq]
  split
  · rfl
  · rfl

/-- Read once more, the start time is the same, if it is there. -/
theorem rereadStartTime_eq (hstart : root.HasText "StartTime") :
    rereadStartTime root (root.textOf "StartTime") =
      if (root.firstChildElement "RecorderID").isSome → (root.firstChildElement "StartTime").isSome
      then some (root.textOf "StartTime") else none := by
  unfold rereadStartTime
  cases hrecorder : root.firstChildElement "RecorderID" with
  | none => rw [if_pos (by simp)]
  | some recorder =>
      show (root.firstChildElement "StartTime").bind XmlElement.getText = _
      cases hchild : root.firstChildElement "StartTime" with
      | none => rw [if_neg (by simp), Option.bind_none]
      | some child =>
          rw [if_pos (by simp), Option.bind_some, XmlElement.getText_eq hchild, if_pos hstart]

/-- The object that a record query with all its texts leads to. -/
def recordQueryOf (root : XmlElement) (deviceID : String) : RecordInfoQueryMsg where
  deviceID := deviceID
  startTime := root.textOf "StartTime"
  endTime := root.textOf "EndTime"
  filePath := root.textOf "FilePath"
  address := root.textOf "Address"
  secrecy := atoi (root.textOf "Secrecy")
  recordType := root.textOf "Type"
  recorderID := ""
  indistinctQuery := ""

theorem recordInfoQueryMsg_of_readable (deviceID : String) (h : RecordReadable root) :
    recordInfoQueryMsg root deviceID = some (recordQueryOf root deviceID) := by
  obtain ⟨htext, hrecorder⟩ := h
  have hread : ∀ name ∈ ["StartTime", "EndTime", "FilePath", "Address", "Secrecy", "Type"],
      root.readText name "" = some (root.textOf name) := by
    intro name hname
    rw [XmlElement.readText_eq, if_pos (htext name hname)]
  have hsecrecy : readSecrecy root = some (atoi (root.textOf "Secrecy")) := by
    rw [readSecrecy_eq, if_pos (htext _ (by simp))]
  have hreread : rereadStartTime root (root.textOf "StartTime") =
      some (root.textOf "StartTime") := by
    rw [rereadStartTime_eq (htext _ (by simp)), if_pos hrecorder]
  unfold recordInfoQueryMsg
  rw [hread "StartTime" (by simp), hread "EndTime" (by simp), hread "FilePath" (by simp),
    hread "Address" (by simp), hread "Type" (by simp), hsecrecy]
  simp only [Option.bind_eq_bind, Option.bind_some, hreread]
  rfl

theorem hasText_of_readText {name value : String} (h : root.readText name "" = some value) :
    root.HasText name ∧ value = root.textOf name := by
  rw [XmlElement.readText_eq] at h
  obtain ⟨htext, hvalue⟩ := Option.ite_none_right_eq_some.mp h
  exact ⟨htext, (Option.some.inj hvalue).symm⟩

theorem recordReadable_of_query {deviceID : String} {q : RecordInfoQueryMsg}
    (h : recordInfoQueryMsg root deviceID = some q) : RecordReadable root := by
  unfold recordInfoQueryMsg at h
  obtain ⟨startTime, hstart, h⟩ := Option.bind_eq_some_iff.mp h
  obtain ⟨endTime, hend, h⟩ := Option.bind_eq_some_iff.mp h
  obtain ⟨filePath, hpath, h⟩ := Option.bind_eq_some_iff.mp h
  obtain ⟨address, haddress, h⟩ := Option.bind_eq_some_iff.mp h
  obtain ⟨secrecy, hsecrecy, h⟩ := Option.bind_eq_some_iff.mp h
  obtain ⟨recordType, htype, h⟩ := Option.bind_eq_some_iff.mp h
  obtain ⟨startAgain, hagain, -⟩ := Option.bind_eq_some_iff.mp h
  obtain ⟨htext, rfl⟩ := hasText_of_readText hstart
  rw [readSecrecy_eq] at hsecrecy
  rw [rereadStartTime_eq htext] at hagain
  refine ⟨?_, (Option.ite_none_right_eq_some.mp hagain).1⟩
  simp only [List.forall_mem_cons]
  exact ⟨htext, (hasText_of_readText hend).1, (hasText_of_readText hpath).1,
    (hasText_of_readText haddress).1, (Option.ite_none_right_eq_some.mp hsecrecy).1,
    (hasText_of_readText htype).1, by simp⟩

/-- What a record query stores is right in every field but `RecorderID`, which stays empty. -/
theorem delivers_recordInfoQuery (root : XmlElement) (msg : GB28181XmlMsg)
    (hid : msg.deviceID = root.textOf "DeviceID") :
    Delivers root ((recordInfoQueryMsg root msg.deviceID).map fun q =>
        (true, { msg with cmdtype := .recordInfo, pPoint := some (.recordInfoQuery q) })) ↔
      RecordReadable root ∧ root.textOf "RecorderID" = "" := by
  constructor
  · rintro ⟨r, hr, hstores⟩
    obtain ⟨q, hq, rfl⟩ := Option.map_eq_some_iff.mp hr
    have hreadable := recordReadable_of_query hq
    rw [recordInfoQueryMsg_of_readable _ hreadable] at hq
    obtain rfl := Option.some.inj hq
    exact ⟨hreadable, (hstores _ rfl).recorderID.symm⟩
  · rintro ⟨hreadable, hrecorder⟩
    rw [recordInfoQueryMsg_of_readable _ hreadable, Option.map_some]
    refine ⟨_, rfl, fun q hq => ?_⟩
    obtain rfl := XmlPayload.recordInfoQuery.inj (Option.some.inj hq)
    exact ⟨hid, rfl, rfl, rfl, rfl, rfl, rfl, hrecorder.symm⟩

/-! ### The roots -/

/-- Both roots with commands read the header first; what goes on with it is needed only for a
document that has one. -/
theorem delivers_header (lib : TinyXml2)
    {command : GB28181XmlMsg × Option String → Option (Bool × GB28181XmlMsg)}
    {P : String → Prop} (hmsg : msg.pPoint = none)
    (hnone : ∀ msg, msg.pPoint = none → Delivers root (command (msg, none)))
    (hsome : ∀ sn cmdType,
      Delivers root (command ({ msg with sn, deviceID := root.textOf "DeviceID" }, some cmdType)) ↔
        P cmdType) :
    Delivers root ((readHeader lib root msg).bind command) ↔
      (Headed root → root.HasText "DeviceID" ∧ ∀ cmdType ∈ cmdTypeOf root, P cmdType) := by
  by_cases hheaded : Headed root
  · obtain ⟨sn, hheader⟩ := readHeader_of_headed lib msg hheaded
    rw [hheader]
    simp only [hheaded, true_imp_iff]
    split
    · rename_i hid
      simp only [hid, true_and, Option.bind_some]
      cases cmdTypeOf root with
      | none => exact iff_of_true (hnone _ hmsg) (by simp)
      | some cmdType =>
          rw [hsome]
          simp
    · rename_i hid
      exact iff_of_false (not_delivers_none root) fun h => hid h.1
  · obtain ⟨sn, hheader⟩ := readHeader_of_not_headed lib msg hheaded
    rw [hheader, Option.bind_some]
    exact iff_of_true (hnone _ hmsg) fun h => absurd h hheaded

/-- The condition on a document with the root `Control`. -/
theorem delivers_analyzeControl (lib : TinyXml2) (root : XmlElement) :
    Delivers root (analyzeControl lib root) ↔ (Headed root → root.HasText "DeviceID" ∧
      ∀ cmdType ∈ cmdTypeOf root,
        startsWith cmdType "DeviceControl" → ControlReadable root) := by
  apply delivers_header lib rfl
  · exact fun msg hmsg => delivers_of_no_query (by simp [hmsg])
  · intro sn cmdType
    dsimp only
    split
    · rename_i hcontrol
      rw [delivers_analyzeDeviceControl lib rfl]
      exact ⟨fun h _ => h, fun h => h hcontrol⟩
    · rename_i hcontrol
      refine iff_of_true ?_ fun h => absurd h hcontrol
      split <;> exact delivers_of_no_query (by simp)

/-- A text does not start with two names whose first letters differ. -/
theorem not_startsWith {s name name' : String} (h : startsWith s name)
    (hne : name.toList ≠ []) (hne' : name'.toList ≠ [])
    (hhead : name.toList.head? ≠ name'.toList.head?) : ¬ startsWith s name' :=
  fun h' => hhead (head_of_startsWith h h' hne hne')

/-- The condition on a document with the root `Query`. -/
theorem delivers_analyzeQuery (lib : TinyXml2) (root : XmlElement) :
    Delivers root (analyzeQuery lib root) ↔ (Headed root → root.HasText "DeviceID" ∧
      ∀ cmdType ∈ cmdTypeOf root,
        (startsWith cmdType "Catalog" → root.HasText "StartTime" ∧ root.HasText "EndTime") ∧
          (startsWith cmdType "RecordInfo" →
            RecordReadable root ∧ root.textOf "RecorderID" = "")) := by
  apply delivers_header lib rfl
  · exact fun msg hmsg => delivers_of_no_query (by simp [hmsg])
  · intro sn cmdType
    dsimp only
    -- a command with neither name stores no query
    have hother {o : Option (Bool × GB28181XmlMsg)} (ho : Delivers root o)
        (hcatalog : ¬ startsWith cmdType "Catalog")
        (hrecord : ¬ startsWith cmdType "RecordInfo") :
        Delivers root o ↔
          (startsWith cmdType "Catalog" → root.HasText "StartTime" ∧ root.HasText "EndTime") ∧
            (startsWith cmdType "RecordInfo" →
              RecordReadable root ∧ root.textOf "RecorderID" = "") :=
      iff_of_true ho ⟨fun h => absurd h hcatalog, fun h => absurd h hrecord⟩
    split
    · rename_i hstatus
      exact hother (delivers_of_no_query (by simp))
        (not_startsWith hstatus (by simp) (by simp) (by decide))
        (not_startsWith hstatus (by simp) (by simp) (by decide))
    split
    · rename_i hcatalog
      have hquery := delivers_catalogQuery root
        { cmdname := .query, sn, deviceID := root.textOf "DeviceID" }
      have hrecord : ¬ startsWith cmdType "RecordInfo" :=
        not_startsWith hcatalog (by simp) (by simp) (by decide)
      exact hquery.trans
        ⟨fun h => ⟨fun _ => h, fun h' => absurd h' hrecord⟩, fun h => h.1 hcatalog⟩
    rename_i hcatalog
    split
    · rename_i hinfo
      exact hother (delivers_of_no_query (by simp)) hcatalog
        (not_startsWith hinfo (by simp) (by simp) (by decide))
    split
    · rename_i hrecord
      have hquery := delivers_recordInfoQuery root
        { cmdname := .query, sn, deviceID := root.textOf "DeviceID" } rfl
      exact hquery.trans
        ⟨fun h => ⟨fun h' => absurd h' hcatalog, fun _ => h⟩, fun h => h.2 hrecord⟩
    · rename_i hrecord
      refine hother ?_ hcatalog hrecord
      repeat'
        first
        | exact delivers_of_no_query (by simp)
        | split

theorem analyzeTagged_no_query (types : List (String × XmlCmdType)) (root : XmlElement) :
    (analyzeTagged types root).2.pPoint = none := by
  unfold analyzeTagged
  dsimp only
  split
  · rfl
  · split <;> rfl

theorem delivers_analyzeTagged (types : List (String × XmlCmdType)) (root : XmlElement) :
    Delivers root (some (analyzeTagged types root)) :=
  delivers_of_no_query fun _ hq =>
    absurd ((analyzeTagged_no_query types root).symm.trans hq) (by simp)

theorem delivers_analyzeRoot (lib : TinyXml2) (root : XmlElement) :
    Delivers root (analyzeRoot lib root) ↔ Readable root := by
  unfold analyzeRoot Readable
  split
  · rename_i hcontrol
    rw [delivers_analyzeControl]
    exact ⟨fun h _ => h, fun h => h (.inl hcontrol)⟩
  rename_i hcontrol
  split
  · rename_i hquery
    rw [delivers_analyzeQuery]
    exact ⟨fun h _ => h, fun h => h (.inr hquery)⟩
  · rename_i hquery
    refine iff_of_true ?_ fun h => absurd h (not_or.mpr ⟨hcontrol, hquery⟩)
    split
    · exact delivers_analyzeTagged notifyTypes root
    split
    · exact delivers_analyzeTagged responseTypes root
    · exact delivers_of_no_query (by simp)

/-- The analysis withstands a message exactly if its document has the texts that are read. -/
theorem withstands_iff (lib : TinyXml2) (msgStr : Option String) :
    Withstands lib msgStr ↔ ∀ root, msgStr.bind lib.parse = some root → Readable root := by
  unfold Withstands analyzeReceivedSipMsg
  cases hparse : msgStr.bind lib.parse with
  | none => exact iff_of_true ⟨_, rfl, by simp⟩ (by simp)
  | some root =>
      constructor
      · rintro ⟨r, hr, hstores⟩ root' hroot
        obtain rfl := Option.some.inj hroot
        exact (delivers_analyzeRoot lib root).mp ⟨r, hr, fun q => hstores root q rfl⟩
      · intro h
        obtain ⟨r, hr, hstores⟩ := (delivers_analyzeRoot lib root).mpr (h root rfl)
        refine ⟨r, hr, fun root' q hroot => ?_⟩
        obtain rfl := Option.some.inj hroot
        exact hstores q

/-- A record query with the given children of `DeviceID` and the given further elements. -/
def sampleRecordQuery (deviceID rest : List XmlNode) : XmlElement :=
  ⟨"Query", [.element "CmdType" [.text "RecordInfo"], .element "SN" [.text "1"],
    .element "DeviceID" deviceID] ++ rest⟩

/-- A parser that gives this document. -/
def sampleParser (root : XmlElement) : TinyXml2 := ⟨fun _ => some root, String.toInt?⟩

theorem not_withstands_of_none {lib : TinyXml2} {msgStr : Option String}
    (h : analyzeReceivedSipMsg lib msgStr = none) : ¬ Withstands lib msgStr := by
  rintro ⟨r, hr, -⟩
  rw [h] at hr
  cases hr

/-- An empty `DeviceID` and a `RecorderID` without `StartTime` are read through a null pointer;
beside a `StartTime` the `RecorderID` is lost. -/
theorem not_withstands_records :
    ¬ Withstands (sampleParser (sampleRecordQuery [] []))
      (some "<Query><CmdType>RecordInfo</CmdType><SN>1</SN><DeviceID/></Query>") ∧
    ¬ Withstands
      (sampleParser (sampleRecordQuery [.text "7"] [.element "RecorderID" [.text "8"]]))
      (some ("<Query><CmdType>RecordInfo</CmdType><SN>1</SN><DeviceID>7</DeviceID>" ++
        "<RecorderID>8</RecorderID></Query>")) ∧
    ¬ Withstands
      (sampleParser (sampleRecordQuery [.text "7"]
        [.element "StartTime" [.text "2024-01-01T00:00:00"], .element "RecorderID" [.text "8"]]))
      (some ("<Query><CmdType>RecordInfo</CmdType><SN>1</SN><DeviceID>7</DeviceID>" ++
        "<StartTime>2024-01-01T00:00:00</StartTime><RecorderID>8</RecorderID></Query>")) := by
  refine ⟨not_withstands_of_none rfl, not_withstands_of_none rfl, ?_⟩
  rintro ⟨r, hr, hstores⟩
  obtain rfl := Option.some.inj hr
  have hrecorder := (hstores _ _ rfl rfl).recorderID
  exact absurd hrecorder (by decide)

end XmlMsgAnalysis

end SignalingServer
