import SignalingServer.MsgContentAnalysis
import SignalingServer.UserAgent.XmlDispatch

/-!
The answers and notifications of the server, read by a receiver. The lists that a query is cut into
come back joined, every record and every item of the catalog once and in order. A server of the
same kind accepts every answer and every notification that reaches it as a MESSAGE and does nothing
on it, so that no message leads to a chain of others.
-/

namespace SignalingServer

open Tinyxml2 XmlMsgAnalysis MsgContentXml
open scoped Scanning

namespace MsgContentXml

variable {scanHex : String → Option UInt32} {root : String} {texts : List (String × String)}
  {rest : List XMLNode}

/-! ### The head of a message -/

/-- The text of an element under the root, as a receiver reads it. -/
def headOfText (scanHex : String → Option UInt32) (name text : String) : Option String :=
  ((reader scanHex).parse text).bind fun root =>
    (root.firstChildElement name).bind XmlElement.getText

theorem firstChildElement_field (hnodup : (texts.map Prod.fst).Nodup) {t : String × String}
    (ht : t ∈ texts) (rest : List XmlNode) :
    XmlElement.firstChildElement ⟨root, texts.map seenField ++ rest⟩ t.1 =
      some ⟨t.1, (receivedText t.2).toList.map .text⟩ := by
  induction texts with
  | nil => exact absurd ht List.not_mem_nil
  | cons first texts ih =>
      rw [List.map_cons, List.nodup_cons] at hnodup
      rw [XmlElement.firstChildElement, List.map_cons, List.cons_append, List.findSome?_cons,
        seenField]
      rcases List.mem_cons.mp ht with rfl | htail
      · simp
      · have hne : first.1 ≠ t.1 := fun heq =>
          hnodup.1 (heq ▸ List.mem_map_of_mem htail)
        have hrest := ih hnodup.2 htail
        rw [XmlElement.firstChildElement] at hrest
        simp only [if_neg hne]
        exact hrest

/-- Every field of the head is read as its text is received. -/
theorem headOfText_content (hroot : IsName root.toList) (hnames : ∀ t ∈ texts, IsName t.1.toList)
    (hnodup : (texts.map Prod.fst).Nodup) (hrest : Fits 2 rest) {t : String × String}
    (ht : t ∈ texts) :
    headOfText scanHex t.1 (content (document root (fields texts ++ rest))) =
      receivedText t.2 := by
  rw [headOfText, parse_reader hroot ((fits_fields hnames (by decide)).append hrest),
    Option.bind_some, seen_append, seen_fields, firstChildElement_field hnodup ht,
    Option.bind_some, getText_seen]

/-- The text of a document is not empty. -/
theorem content_ne_empty (hroot : IsName root.toList) (hrest : Fits 2 rest) :
    content (document root rest) ≠ "" := by
  intro hempty
  have hparse := parse_content hroot hrest
  have hnone : Tinyxml2.parse "".toList = .error (.error .emptyDocument) := rfl
  rw [hempty, hnone] at hparse
  cases hparse

/-! ### Lists -/

/-- The head of the messages that carry records. -/
def recordHead (msg : RecordInfoResponse) : List (String × String) :=
  [("CmdType", "RecordInfo"), ("SN", toString msg.sn), ("DeviceID", msg.deviceID),
    ("Name", msg.name), ("SumNum", toString msg.sumNum)]

theorem isName_recordTexts (record : RecordInfoResponseItem) :
    ∀ t ∈ recordTexts record, IsName t.1.toList := by
  simp only [recordTexts, List.forall_mem_cons]
  decide

theorem fits_recordList (records : List RecordInfoResponseItem) (num : Nat) :
    Fits 2 [listElement "RecordList" num
      (records.map fun item => group "Item" (fields (recordTexts item)))] :=
  fits_listElement (by decide) (by decide) num
    (fits_items (fun record _ => isName_recordTexts record) (by decide))

theorem itemsOfText_recordInfoResponse (msg : RecordInfoResponse) :
    itemsOfText scanHex "RecordList" (content (recordInfoResponse msg)) =
      msg.recordList.map fun record => receivedTexts (recordTexts record) := by
  have hcontent : recordInfoResponse msg = document "Response" (fields (recordHead msg) ++
      [listElement "RecordList" msg.num
        (msg.recordList.map fun item => group "Item" (fields (recordTexts item)))]) := rfl
  rw [hcontent]
  apply itemsOfText_content (by decide) (by decide)
  · simp only [recordHead, List.forall_mem_cons]
    decide
  · simp only [recordHead, List.forall_mem_cons]
    decide
  · exact fun record _ => isName_recordTexts record

theorem isName_catalogTexts (item : OrganizationItem ⊕ CatalogItem) :
    ∀ t ∈ catalogTexts item, IsName t.1.toList := by
  rcases item with organization | item
  · simp only [catalogTexts, organizationTexts, List.forall_mem_cons]
    decide
  · simp only [catalogTexts, catalogItemTexts, itemTexts, List.cons_append, List.nil_append,
      List.forall_mem_cons]
    decide

theorem itemsOfText_catalogResponse (msg : CatalogResponse) :
    itemsOfText scanHex "DeviceList" (content (catalogResponse msg)) =
      msg.deviceList.map fun item => receivedTexts (catalogTexts item) := by
  rw [catalogResponse]
  apply itemsOfText_content (by decide) (by decide)
  · simp only [catalogHead, List.forall_mem_cons]
    decide
  · simp only [catalogHead, List.forall_mem_cons]
    decide
  · exact fun item _ => isName_catalogTexts item

end MsgContentXml

namespace ServerState

/-- A receiver of the answers to a record query gets every record that was found once, in order,
with its texts as they are received; of a query that fails, none. -/
theorem records_received (scanHex : String → Option UInt32)
    (charsetConvert : String → Option String) (w : ServerState) (env : Env) (user : String)
    (sn : UInt32) (queryMsg : RecordInfoQueryMsg) :
    ((w.recordInfoQueryResponseTask env charsetConvert user sn queryMsg).2.flatMap fun msg =>
        itemsOfText scanHex "RecordList" (content (recordInfoResponse msg))) =
      ((w.gb28181QueryRecordInfo env queryMsg).2.getD []).map fun record =>
        receivedTexts (recordTexts (insertRecordInfo charsetConvert record)) := by
  simp only [itemsOfText_recordInfoResponse]
  cases hfound : (w.gb28181QueryRecordInfo env queryMsg).2 with
  | none =>
      have hnone : (w.recordInfoQueryResponseTask env charsetConvert user sn queryMsg).2 = [] := by
        rw [recordInfoQueryResponseTask]
        split
        · rfl
        · rename_i hsome
          rw [hsome] at hfound
          cases hfound
      rw [hnone]
      rfl
  | some records =>
      have hjoined := flatten_splitList (Nat.succ_pos 9) records
      rw [recordInfoQueryResponseTask_eq hfound, List.flatMap_map, Option.getD_some]
      simp only [createRecordInfoResponse, List.map_map]
      conv => rhs; rw [← hjoined, List.map_flatten]
      rfl

end ServerState

/-! ### The catalog -/

namespace MsgContentXml

variable {scanHex : String → Option UInt32}

theorem fits_catalogList (items : List (OrganizationItem ⊕ CatalogItem)) (num : Nat) :
    Fits 2 [listElement "DeviceList" num
      (items.map fun item => group "Item" (fields (catalogTexts item)))] :=
  fits_listElement (by decide) (by decide) num
    (fits_items (fun item _ => isName_catalogTexts item) (by decide))

theorem headOfText_catalogResponse (msg : CatalogResponse) {t : String × String}
    (ht : t ∈ catalogHead msg.sn msg.deviceID msg.sumNum) :
    headOfText scanHex t.1 (content (catalogResponse msg)) = receivedText t.2 := by
  rw [catalogResponse]
  refine headOfText_content (by decide) ?_ ?_ (fits_catalogList _ _) ht
  · simp only [catalogHead, List.forall_mem_cons]
    decide
  · simp only [catalogHead, List.map_cons, List.map_nil]
    decide

theorem onMessageArrived_content {root : String} {nodes : List XMLNode}
    (hroot : IsName root.toList) (hnodes : Fits 2 nodes) :
    onMessageArrived (reader scanHex) (some (content (document root nodes))) =
      (analyzeReceivedSipMsg (reader scanHex) (some (content (document root nodes)))).map fun r =>
        (if r.1 then 200 else 400, r.2.dispatch) := by
  simp only [onMessageArrived, if_neg (content_ne_empty hroot hnodes)]

/-- A catalog query is accepted, and handed to the task that answers it. -/
theorem onMessageArrived_catalogQuery {gbid id : String} (sn : UInt32)
    (hid : receivedText gbid = some id) :
    onMessageArrived (reader scanHex) (some (content (createCatalogQueryRequestMsg gbid sn))) =
      some (200, .submit (.catalogQueryResponseTask id sn)) := by
  have hfits : Fits 2 (fields (headTexts "Catalog" sn gbid)) := by
    refine fits_fields ?_ (by decide)
    simp only [headTexts, List.forall_mem_cons]
    decide
  have hcontent : createCatalogQueryRequestMsg gbid sn =
      document "Query" (fields (headTexts "Catalog" sn gbid)) := rfl
  rw [hcontent, onMessageArrived_content (by decide) hfits, ← hcontent,
    analyze_createCatalogQueryRequestMsg, hid]
  rfl

end MsgContentXml

namespace DeviceMng

variable {t : DeviceMng} {charsetConvert : String → Option String} {user : String} {sn : UInt32}

/-- Every message has the number of the query and the id that was asked for. -/
theorem catalogQueryResponseTask_head {msg : CatalogResponse}
    (hmsg : msg ∈ t.catalogQueryResponseTask charsetConvert user sn) :
    msg.sn = sn ∧ msg.deviceID = user := by
  rw [catalogQueryResponseTask] at hmsg
  split at hmsg
  · rw [organizationMsgs_eq, List.mem_append] at hmsg
    rcases hmsg with hmsg | hmsg
    · obtain ⟨vo, -, rfl⟩ := List.mem_map.mp hmsg
      exact ⟨rfl, rfl⟩
    · obtain ⟨lists, hlists, -⟩ := childMsgs_eq (createCatalogResponse charsetConvert user sn _)
        (t.server.catalogResponseItem charsetConvert) _ [] fun _ => rfl
      rw [hlists] at hmsg
      obtain ⟨items, -, rfl⟩ := List.mem_map.mp hmsg
      exact ⟨rfl, rfl⟩
  · cases hmsg

variable (charsetConvert sn) in
/-- The messages that answer a query for the catalog, of fewer than `2 ^ 31` entries. -/
theorem catalogQueryResponseTask_sent {vcList : List VirtualOrganization}
    {vChildList : List JsonChildDevic} (hvo : t.mVoMap.getVirtualOrganization user = vcList)
    (hchild : t.server.children.getChildDevice t.selfId user = vChildList)
    (hlt : vcList.length + vChildList.length < 2 ^ 31) :
    (t.catalogQueryResponseTask charsetConvert user sn).flatMap (·.deviceList) =
        t.sentItems charsetConvert vcList vChildList ∧
      ∀ msg ∈ t.catalogQueryResponseTask charsetConvert user sn,
        msg.sumNum = (vcList.length + vChildList.length : Nat) := by
  have hsum := sumnum_eq vcList.length vChildList.length hlt
  rcases Nat.eq_zero_or_pos (vcList.length + vChildList.length) with hzero | hpos
  · have hnone : t.catalogQueryResponseTask charsetConvert user sn = [] := by
      rw [catalogQueryResponseTask, hvo, hchild, if_neg]
      rw [hsum, hzero]
      decide
    have hvcList : vcList = [] := List.eq_nil_of_length_eq_zero (by omega)
    have hvChildList : vChildList = [] := List.eq_nil_of_length_eq_zero (by omega)
    rw [hnone, hvcList, hvChildList]
    exact ⟨rfl, fun msg hmsg => absurd hmsg List.not_mem_nil⟩
  · obtain ⟨hitems, hcreated⟩ := catalogQueryResponseTask_items charsetConvert sn hvo hchild hsum
      (by omega)
    rw [Nat.mod_eq_of_lt (by omega), Nat.mod_eq_of_lt (by omega), List.take_length,
      List.take_length] at hitems
    exact ⟨hitems, fun msg hmsg => (hcreated msg hmsg).sumNum⟩

/-- A server that asks another for its catalog: the query is accepted with the number and the id
that were sent, and of the answer the one that asked receives every organisation and every child
that has an item, once and in order; every message of it has the number of the query and the
number of all entries that the query selects. -/
theorem catalog_exchange (scanHex : String → Option UInt32)
    (charsetConvert : String → Option String) (t : DeviceMng) (sn : UInt32) {gbid id : String}
    (hid : receivedText gbid = some id)
    (hlt : (t.mVoMap.getVirtualOrganization id).length +
      (t.server.children.getChildDevice t.selfId id).length < 2 ^ 31) :
    onMessageArrived (reader scanHex) (some (content (createCatalogQueryRequestMsg gbid sn))) =
        some (200, .submit (.catalogQueryResponseTask id sn)) ∧
      ((t.catalogQueryResponseTask charsetConvert id sn).flatMap fun msg =>
          itemsOfText scanHex "DeviceList" (content (catalogResponse msg))) =
        (t.sentItems charsetConvert (t.mVoMap.getVirtualOrganization id)
          (t.server.children.getChildDevice t.selfId id)).map
            (fun item => receivedTexts (catalogTexts item)) ∧
      ∀ msg ∈ t.catalogQueryResponseTask charsetConvert id sn,
        headOfText scanHex "SN" (content (catalogResponse msg)) = some (toString sn) ∧
          headOfText scanHex "SumNum" (content (catalogResponse msg)) =
            some (toString ((t.mVoMap.getVirtualOrganization id).length +
              (t.server.children.getChildDevice t.selfId id).length)) := by
  obtain ⟨hitems, hsumNum⟩ := catalogQueryResponseTask_sent charsetConvert sn rfl rfl hlt
  refine ⟨onMessageArrived_catalogQuery sn hid, ?_, fun msg hmsg => ⟨?_, ?_⟩⟩
  · simp only [itemsOfText_catalogResponse]
    rw [← hitems, List.map_flatMap]
  · have hsn := (catalogQueryResponseTask_head hmsg).1
    rw [← hsn]
    refine (headOfText_catalogResponse msg (t := ("SN", toString msg.sn)) ?_).trans
      (receivedText_nat msg.sn.toNat)
    simp [catalogHead]
  · have hsum := hsumNum msg hmsg
    refine (headOfText_catalogResponse msg (t := ("SumNum", toString msg.sumNum)) ?_).trans ?_
    · simp [catalogHead]
    · rw [receivedText_int, hsum]
      rfl

/-- A server with one channel of an NVR. -/
def channelTree : DeviceMng :=
  { orphanTree with
    server := ServerState.sampleState (ChildMap.empty.addChildDevice
      (ServerState.sampleChild "7" "34020000001320000001" 1)) }

/-- The channel is received with its fields. -/
theorem catalog_exchange_sample :
    ((channelTree.catalogQueryResponseTask some "34020000002000000001" 1).flatMap fun msg =>
        itemsOfText (fun _ => none) "DeviceList" (content (catalogResponse msg))) =
      (channelTree.sentItems some (channelTree.mVoMap.getVirtualOrganization "34020000002000000001")
        (channelTree.server.children.getChildDevice channelTree.selfId
          "34020000002000000001")).map fun item => receivedTexts (catalogTexts item) :=
  (catalog_exchange (fun _ => none) some channelTree 1
    (show receivedText "34020000002000000001" = some "34020000002000000001" by decide)
    (by decide)).2.1

end DeviceMng

/-! ### Answers and notifications -/

/-- The documents for what the server sends without being asked, or as an answer; a query or a
command is neither. Changes of organisations and channels go out as NOTIFY, whose handlers accept
them unread, and the answer to a subscription is sent by nobody. -/
inductive OutMsg where
  | keepAlive (user : String) (sn : UInt32)
  | deviceInfo (deviceId : String) (sn : UInt32) (devInfoMsg : DeviceInfoMsg)
  | catalogSubscription (user : String) (sn : UInt32)
  | catalog (msg : CatalogResponse)
  | recordInfo (msg : RecordInfoResponse)
  | notifyOrganization (charsetConvert : String → Option String) (deviceId : String) (sn : UInt32)
      (ev : String) (vo : VirtualOrganization)
  | notifyCatalog (charsetConvert : String → Option String) (user : String) (sn : UInt32)
      (ev : String) (item : CatalogItem)

namespace OutMsg

def document : OutMsg → List XMLNode
  | keepAlive user sn => createKeepAliveMsg user sn
  | deviceInfo deviceId sn devInfoMsg => createDeviceInfoResponse deviceId sn devInfoMsg
  | catalogSubscription user sn => createCatalogSubscriptionResponseMsg user sn
  | catalog msg => catalogResponse msg
  | recordInfo msg => recordInfoResponse msg
  | notifyOrganization charsetConvert deviceId sn ev vo =>
      createVirtualOrganizationNotifyCatalog charsetConvert deviceId sn ev vo
  | notifyCatalog charsetConvert user sn ev item =>
      createNotifyCatalog charsetConvert user sn ev item

/-- The root, and the command of the first element. -/
def command : OutMsg → String × String
  | keepAlive .. => ("Notify", "Keepalive")
  | deviceInfo .. => ("Response", "DeviceInfo")
  | catalogSubscription .. | catalog .. => ("Response", "Catalog")
  | recordInfo .. => ("Response", "RecordInfo")
  | notifyOrganization .. | notifyCatalog .. => ("Notify", "Catalog")

/-- Every message begins with its command; behind it stand elements of the kinds that fit. -/
theorem document_eq (msg : OutMsg) :
    ∃ (texts : List (String × String)) (rest : List XMLNode),
      msg.document = MsgContentXml.document msg.command.1
          (fields (("CmdType", msg.command.2) :: texts) ++ rest) ∧
        (∀ t ∈ texts, IsName t.1.toList) ∧ Fits 2 rest := by
  have hnil : Fits 2 [] := fun node hnode => absurd hnode List.not_mem_nil
  cases msg with
  | keepAlive user sn =>
      refine ⟨[("SN", toString sn), ("DeviceID", user), ("Status", "OK")], [], rfl, ?_, hnil⟩
      simp only [List.forall_mem_cons]
      decide
  | deviceInfo deviceId sn devInfoMsg =>
      refine ⟨[("SN", toString sn), ("DeviceID", deviceId), ("DeviceName", devInfoMsg.deviceName),
        ("Result", devInfoMsg.result), ("Manufacturer", devInfoMsg.manufacturer),
        ("Model", devInfoMsg.model), ("Firmware", devInfoMsg.firmware),
        ("Channel", toString devInfoMsg.channel)], [], rfl, ?_, hnil⟩
      simp only [List.forall_mem_cons]
      decide
  | catalogSubscription user sn =>
      refine ⟨[("SN", toString sn), ("DeviceID", user), ("Result", "OK")], [], rfl, ?_, hnil⟩
      simp only [List.forall_mem_cons]
      decide
  | catalog msg =>
      refine ⟨(catalogHead msg.sn msg.deviceID msg.sumNum).tail, _, rfl, ?_,
        fits_catalogList msg.deviceList msg.num⟩
      simp only [catalogHead, List.tail_cons, List.forall_mem_cons]
      decide
  | recordInfo msg =>
      refine ⟨(recordHead msg).tail, _, rfl, ?_, fits_recordList msg.recordList msg.num⟩
      simp only [recordHead, List.tail_cons, List.forall_mem_cons]
      decide
  | notifyOrganization charsetConvert deviceId sn ev vo =>
      refine ⟨(catalogHead sn deviceId 1).tail, _, rfl, ?_, fits_listElement (by decide)
        (by decide) 1 (fits_group (by decide) (by decide) (fits_fields ?_ (by decide)))⟩
      · simp only [catalogHead, List.tail_cons, List.forall_mem_cons]
        decide
      · simp only [List.forall_mem_cons]
        decide
  | notifyCatalog charsetConvert user sn ev item =>
      refine ⟨(catalogHead sn user 1).tail, _, rfl, ?_, fits_listElement (by decide)
        (by decide) 1 (fits_group (by decide) (by decide) (fits_fields ?_ (by decide)))⟩
      · simp only [catalogHead, List.tail_cons, List.forall_mem_cons]
        decide
      · split
        · simp only [itemTexts, List.cons_append, List.nil_append, List.forall_mem_cons]
          decide
        · simp only [List.append_nil, List.forall_mem_cons]
          decide

/-- The lists of the analysis know the commands. -/
theorem command_known (msg : OutMsg) :
    ∃ types, (msg.command.1 = "Notify" ∧ types = notifyTypes ∨
        msg.command.1 = "Response" ∧ types = responseTypes) ∧
      (types.find? fun t => startsWith msg.command.2 t.1).isSome ∧
      receivedText msg.command.2 = some msg.command.2 := by
  cases msg with
  | keepAlive | notifyOrganization | notifyCatalog =>
      exact ⟨notifyTypes, .inl ⟨rfl, rfl⟩, by simp only [command]; decide, by
        simp only [command]; decide⟩
  | deviceInfo | catalogSubscription | catalog | recordInfo =>
      exact ⟨responseTypes, .inr ⟨rfl, rfl⟩, by simp only [command]; decide, by
        simp only [command]; decide⟩

end OutMsg

section

variable {scanHex : String → Option UInt32} {root cmdType : String}
  {types : List (String × XmlCmdType)} {texts : List (String × String)} {rest : List XMLNode}

/-- The tag alone reaches no task. -/
theorem dispatch_tagged (cmdtype : XmlCmdType) :
    ({ cmdname := .control, cmdtype := cmdtype } : GB28181XmlMsg).dispatch = .nothing := by
  simp [GB28181XmlMsg.dispatch]

theorem analyzeTagged_seen (root : String) (hreceived : receivedText cmdType = some cmdType)
    (htype : (types.find? fun t => startsWith cmdType t.1).isSome) (rest : List XmlNode) :
    ∃ cmdtype, analyzeTagged types
      ⟨root, seenField ("CmdType", cmdType) :: rest⟩ =
        (true, { cmdname := .control, cmdtype := cmdtype }) := by
  obtain ⟨t, ht⟩ := Option.isSome_iff_exists.mp htype
  have hread : (XmlElement.firstChildElement ⟨root, seenField ("CmdType", cmdType) :: rest⟩
      "CmdType").bind XmlElement.getText = some cmdType := by
    rw [XmlElement.firstChildElement, List.findSome?_cons, seenField, hreceived]
    rfl
  refine ⟨t.2, ?_⟩
  simp only [analyzeTagged, hread, ht]

theorem analyzeRoot_notify (children : List XmlNode) :
    analyzeRoot (reader scanHex) ⟨"Notify", children⟩ =
      some (analyzeTagged notifyTypes ⟨"Notify", children⟩) := by
  have hcontrol : startsWith "Notify" "Control" = false := by decide
  have hquery : startsWith "Notify" "Query" = false := by decide
  have hnotify : startsWith "Notify" "Notify" = true := by decide
  simp only [analyzeRoot, hcontrol, hquery, hnotify, Bool.false_eq_true, if_false, if_true]

theorem analyzeRoot_response (children : List XmlNode) :
    analyzeRoot (reader scanHex) ⟨"Response", children⟩ =
      some (analyzeTagged responseTypes ⟨"Response", children⟩) := by
  have hcontrol : startsWith "Response" "Control" = false := by decide
  have hquery : startsWith "Response" "Query" = false := by decide
  have hnotify : startsWith "Response" "Notify" = false := by decide
  have hresponse : startsWith "Response" "Response" = true := by decide
  simp only [analyzeRoot, hcontrol, hquery, hnotify, hresponse, Bool.false_eq_true, if_false,
    if_true]

/-- A document of the kinds `Notify` and `Response` with a command of the list. -/
theorem onMessageArrived_tagged (hroot : IsName root.toList)
    (htypes : ∀ children, analyzeRoot (reader scanHex) ⟨root, children⟩ =
      some (analyzeTagged types ⟨root, children⟩))
    (hreceived : receivedText cmdType = some cmdType)
    (htype : (types.find? fun t => startsWith cmdType t.1).isSome)
    (hnames : ∀ t ∈ texts, IsName t.1.toList) (hrest : Fits 2 rest) :
    onMessageArrived (reader scanHex)
        (some (content (document root (fields (("CmdType", cmdType) :: texts) ++ rest)))) =
      some (200, .nothing) := by
  have hname : IsName "CmdType".toList := by decide
  have hfits : Fits 2 (fields (("CmdType", cmdType) :: texts) ++ rest) :=
    (fits_fields (List.forall_mem_cons.mpr ⟨hname, hnames⟩) (by decide)).append hrest
  obtain ⟨cmdtype, htagged⟩ := analyzeTagged_seen root hreceived htype
    (texts.map seenField ++ seen rest)
  rw [onMessageArrived_content hroot hfits, analyze_content hroot hfits, htypes, seen_append,
    seen_fields, List.map_cons, List.cons_append, htagged, Option.map_some, dispatch_tagged]
  rfl

end

/-- Whatever the texts of an answer or a notification are, a server of the same kind that gets it as
a MESSAGE accepts it and does nothing on it: no answer leads to another. -/
theorem onMessageArrived_outMsg (scanHex : String → Option UInt32) (msg : OutMsg) :
    onMessageArrived (reader scanHex) (some (content msg.document)) = some (200, .nothing) := by
  obtain ⟨texts, rest, hdocument, hnames, hrest⟩ := msg.document_eq
  obtain ⟨types, hroot, htype, hreceived⟩ := msg.command_known
  rw [hdocument]
  rcases hroot with ⟨hroot, rfl⟩ | ⟨hroot, rfl⟩
  · rw [hroot]
    exact onMessageArrived_tagged (by decide) analyzeRoot_notify hreceived htype hnames hrest
  · rw [hroot]
    exact onMessageArrived_tagged (by decide) analyzeRoot_response hreceived htype hnames hrest

end SignalingServer
