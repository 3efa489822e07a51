import SignalingServer.MsgContentTexts

/-!
The messages, read by the analysis of received messages and by a receiver of lists. A number comes
back as the number that was printed, a list with all of its items in order; a text that is blank is
what the analysis stops at.
-/

namespace SignalingServer

open Tinyxml2 XmlMsgAnalysis
open scoped Scanning

namespace MsgContentXml

variable {scanHex : String → Option UInt32} {root : String} {nodes : List XMLNode}

/-! ### Reading a field -/

theorem getText_seen (name : String) (text : Option String) :
    XmlElement.getText ⟨name, text.toList.map .text⟩ = text := by
  cases text <;> rfl

theorem intText_seen (lib : TinyXml2) (name : String) (text : Option String) :
    XmlElement.intText lib ⟨name, text.toList.map .text⟩ = (text.bind lib.toInt).getD 0 := by
  cases text <;> rfl

/-- The number of a message is read as it was sent. -/
theorem intText_sn (name : String) (sn : UInt32) :
    UInt32.ofInt (XmlElement.intText (reader scanHex)
      ⟨name, (receivedText (toString sn)).toList.map .text⟩) = sn := by
  have hsn : receivedText (toString sn) = some (toString sn) := receivedText_nat sn.toNat
  rw [intText_seen, hsn, Option.bind_some]
  exact toInt_toString_uint32 sn

theorem intText_int (name : String) (n : Int32) :
    XmlElement.intText (reader scanHex)
      ⟨name, (receivedText (toString n.toInt)).toList.map .text⟩ = n.toInt := by
  have hread : (reader scanHex).toInt (toString n.toInt) = some n.toInt :=
    toInt_toString_int (Int32.minValue_le_toInt n) (Int32.toInt_lt n)
  rw [intText_seen, receivedText_int, Option.bind_some, hread, Option.getD_some]

/-! ### The analysis -/

theorem analyze_content (hroot : IsName root.toList) (hnodes : Fits 2 nodes) :
    analyzeReceivedSipMsg (reader scanHex) (some (content (document root nodes))) =
      analyzeRoot (reader scanHex) ⟨root, seen nodes⟩ := by
  rw [analyzeReceivedSipMsg, Option.bind_some, parse_reader hroot hnodes]

/-- The fields that every message begins with. -/
def headTexts (cmdType : String) (sn : UInt32) (deviceID : String) : List (String × String) :=
  [("CmdType", cmdType), ("SN", toString sn), ("DeviceID", deviceID)]

theorem readHeader_seen (scanHex : String → Option UInt32) (root cmdType deviceID : String)
    (sn : UInt32) (rest : List XmlNode) (msg : GB28181XmlMsg) :
    readHeader (reader scanHex)
        ⟨root, (headTexts cmdType sn deviceID).map seenField ++ rest⟩ msg =
      (receivedText deviceID).map fun id =>
        ({ msg with sn := sn, deviceID := id }, receivedText cmdType) := by
  simp [readHeader, XmlElement.firstChildElement, headTexts, seenField, getText_seen, intText_sn]

/-- What the analysis finds in a PTZ command behind its head. -/
theorem analyzeDeviceControl_seen (deviceId ptzCmd : String) (controlPriority : Int32)
    (sn : UInt32) (msg : GB28181XmlMsg) :
    analyzeDeviceControl (reader scanHex)
        ⟨"Control", (headTexts "DeviceControl" sn deviceId).map seenField ++
          [seenField ("PTZCmd", ptzCmd),
            .element "Info" [seenField ("ControlPriority", toString controlPriority.toInt)]]⟩ msg =
      (receivedText ptzCmd).map fun cmd =>
        (true, { msg with
          controlCmd := .ptz, pPoint := some (.ptzControl ⟨cmd, controlPriority.toInt⟩) }) := by
  have hinfo : XmlMsgAnalysis.controlPriority (reader scanHex)
      ⟨"Control", (headTexts "DeviceControl" sn deviceId).map seenField ++
        [seenField ("PTZCmd", ptzCmd),
          .element "Info" [seenField ("ControlPriority", toString controlPriority.toInt)]]⟩ =
      controlPriority.toInt := by
    rw [XmlMsgAnalysis.controlPriority]
    exact intText_int "ControlPriority" controlPriority
  simp only [analyzeDeviceControl, controlCommands, hinfo]
  simp [XmlElement.firstChildElement, headTexts, seenField, getText_seen]

theorem fits_ptzControl (deviceId ptzCmd : String) (controlPriority : Int32) (sn : UInt32) :
    Fits 2 (fields [("CmdType", "DeviceControl"), ("SN", toString sn), ("DeviceID", deviceId),
        ("PTZCmd", ptzCmd)] ++
      [group "Info" (fields [("ControlPriority", toString controlPriority.toInt)])]) := by
  refine (fits_fields ?_ (by decide)).append
    (fits_group (by decide) (by decide) (fits_fields ?_ (by decide)))
  all_goals
    simp only [List.forall_mem_cons]
    decide

/-- A PTZ command is analysed as the command that was sent, for every value, priority and number;
with a blank id or a blank value the analysis reads through a null pointer. -/
theorem analyze_createlPTZControCmd (scanHex : String → Option UInt32) (deviceId ptzCmd : String)
    (controlPriority : Int32) (sn : UInt32) :
    analyzeReceivedSipMsg (reader scanHex)
        (some (content (createlPTZControCmd deviceId ptzCmd controlPriority sn))) =
      (receivedText deviceId).bind fun id => (receivedText ptzCmd).map fun cmd =>
        (true, { cmdname := .control, cmdtype := .deviceControl, controlCmd := .ptz, sn := sn,
                 deviceID := id,
                 pPoint := some (.ptzControl ⟨cmd, controlPriority.toInt⟩) }) := by
  have htype : receivedText "DeviceControl" = some "DeviceControl" := by decide
  have hstarts : startsWith "DeviceControl" "DeviceControl" = true := by decide
  have hroot : startsWith "Control" "Control" = true := by decide
  have hheader := readHeader_seen scanHex "Control" "DeviceControl" deviceId sn
    [seenField ("PTZCmd", ptzCmd),
      .element "Info" [seenField ("ControlPriority", toString controlPriority.toInt)]]
    { cmdname := .control }
  rw [createlPTZControCmd, analyze_content (by decide)
      (fits_ptzControl deviceId ptzCmd controlPriority sn), seen_append, seen_fields, seen_group,
    seen_fields, analyzeRoot, if_pos hroot, analyzeControl]
  refine (congrArg (Option.bind · _) hheader).trans ?_
  cases receivedText deviceId with
  | none => rfl
  | some id =>
      simp only [Option.map_some, Option.bind_some, htype, hstarts, if_true]
      exact analyzeDeviceControl_seen deviceId ptzCmd controlPriority sn _

/-- A catalog query is analysed as the query that was sent, without times. -/
theorem analyze_createCatalogQueryRequestMsg (scanHex : String → Option UInt32) (gbid : String)
    (sn : UInt32) :
    analyzeReceivedSipMsg (reader scanHex)
        (some (content (createCatalogQueryRequestMsg gbid sn))) =
      (receivedText gbid).map fun id =>
        (true, { cmdname := .query, cmdtype := .catalog, sn := sn, deviceID := id,
                 pPoint := some (.catalogQuery ⟨"", ""⟩) }) := by
  have hfits : Fits 2 (fields (headTexts "Catalog" sn gbid)) := by
    refine fits_fields ?_ (by decide)
    simp only [headTexts, List.forall_mem_cons]
    decide
  have htype : receivedText "Catalog" = some "Catalog" := by decide
  have hroot : startsWith "Query" "Control" = false := by decide
  have hroot' : startsWith "Query" "Query" = true := by decide
  have hstatus : startsWith "Catalog" "DeviceStatus" = false := by decide
  have hcatalog : startsWith "Catalog" "Catalog" = true := by decide
  have hheader := readHeader_seen scanHex "Query" "Catalog" gbid sn [] { cmdname := .query }
  rw [List.append_nil] at hheader
  have hcontent : createCatalogQueryRequestMsg gbid sn =
      document "Query" (fields (headTexts "Catalog" sn gbid)) := rfl
  rw [hcontent, analyze_content (by decide) hfits, seen_fields, analyzeRoot,
    if_neg (by rw [hroot]; decide), if_pos hroot', analyzeQuery]
  refine (congrArg (Option.bind · _) hheader).trans ?_
  cases receivedText gbid with
  | none => rfl
  | some id =>
      simp only [Option.map_some, Option.bind_some, htype, hstatus, hcatalog, if_true,
        Bool.false_eq_true, if_false]
      rfl

/-! ### Lists -/

/-- The texts of an element, by the names of its elements. -/
def textsOf (children : List XmlNode) : List (String × Option String) :=
  children.filterMap fun
    | .element name children => some (name, XmlElement.getText ⟨name, children⟩)
    | _ => none

/-- The items of a list that a message has, as a receiver walks them. -/
def receivedItems (list : String) (root : XmlElement) : List (List (String × Option String)) :=
  ((root.firstChildElement list).map fun l =>
    l.children.filterMap fun
      | .element name children => if name = "Item" then some (textsOf children) else none
      | _ => none).getD []

/-- The texts of an item as they are received. -/
def receivedTexts (texts : List (String × String)) : List (String × Option String) :=
  texts.map fun t => (t.1, receivedText t.2)

theorem textsOf_seen (texts : List (String × String)) :
    textsOf (texts.map seenField) = receivedTexts texts := by
  induction texts with
  | nil => rfl
  | cons t texts ih =>
      rw [List.map_cons, textsOf, receivedTexts, List.map_cons, seenField, List.filterMap_cons]
      rw [textsOf, receivedTexts] at ih
      rw [ih]
      simp only [getText_seen]

theorem firstChildElement_seen {list : String} {texts : List (String × String)}
    (h : ∀ t ∈ texts, t.1 ≠ list) (children : List XmlNode) :
    XmlElement.firstChildElement
      ⟨root, texts.map seenField ++ [.element list children]⟩ list = some ⟨list, children⟩ := by
  induction texts with
  | nil => simp [XmlElement.firstChildElement]
  | cons t texts ih =>
      rw [List.forall_mem_cons] at h
      have hrest := ih h.2
      rw [XmlElement.firstChildElement] at hrest ⊢
      rw [List.map_cons, List.cons_append, List.findSome?_cons, seenField]
      simp only [if_neg h.1]
      exact hrest

/-- A list is received with all of its items, in order. -/
theorem receivedItems_seen {α : Type} {list : String} {texts : List (String × String)}
    (h : ∀ t ∈ texts, t.1 ≠ list) (num : Nat) (items : List α)
    (itemTexts : α → List (String × String)) :
    receivedItems list ⟨root, seen (fields texts ++ [listElement list num
        (items.map fun item => group "Item" (fields (itemTexts item)))])⟩ =
      items.map fun item => receivedTexts (itemTexts item) := by
  rw [seen_append, seen_fields, seen_listElement, seen_items, receivedItems,
    firstChildElement_seen h, Option.map_some, Option.getD_some, List.filterMap_map]
  simp only [Function.comp_def, if_true, textsOf_seen]
  rw [← List.filterMap_eq_map]
  rfl

/-- The items of a list in a text. -/
def itemsOfText (scanHex : String → Option UInt32) (list text : String) :
    List (List (String × Option String)) :=
  (((reader scanHex).parse text).map (receivedItems list)).getD []

theorem itemsOfText_content {α : Type} {list : String} {texts : List (String × String)}
    (hroot : IsName root.toList) (hlist : IsName list.toList)
    (hnames : ∀ t ∈ texts, IsName t.1.toList) (h : ∀ t ∈ texts, t.1 ≠ list) (num : Nat)
    (items : List α) (itemTexts : α → List (String × String))
    (hitems : ∀ item ∈ items, ∀ t ∈ itemTexts item, IsName t.1.toList) :
    itemsOfText scanHex list (content (document root (fields texts ++ [listElement list num
        (items.map fun item => group "Item" (fields (itemTexts item)))]))) =
      items.map fun item => receivedTexts (itemTexts item) := by
  have hfits : Fits 2 (fields texts ++ [listElement list num
      (items.map fun item => group "Item" (fields (itemTexts item)))]) :=
    (fits_fields hnames (by decide)).append
      (fits_listElement hlist (by decide) num (fits_items hitems (by decide)))
  rw [itemsOfText, parse_reader hroot hfits, Option.map_some, Option.getD_some,
    receivedItems_seen h]

end MsgContentXml

end SignalingServer
