import SignalingServer.Tinyxml2.Reader
import SignalingServer.UserAgent.CatalogResponse
import SignalingServer.UserAgent.RecordInfo

/-!
The documents of the MANSCDP messages (MsgContentXml.cpp), and their texts. Each is a declaration
and one element, of which every part is an element with one text, or with such elements. Whatever
the texts are, a message is read as its document, with the texts as they are received: up to
their first NUL, with their line ends normalized, and not at all if they are blank.
-/

namespace SignalingServer

open Tinyxml2
open scoped Scanning

namespace MsgContentXml

/-! ### Parts of a document -/

/-- `doc.NewElement(name)` with `doc.NewText(text)` in it. -/
def field (name text : String) : XMLNode :=
  .element name.toList [] [.text (SqlText.cText text.toList) false]

/-- Elements with one text each, in order. -/
def fields (texts : List (String × String)) : List XMLNode := texts.map fun t => field t.1 t.2

/-- `doc.NewElement(name)` with elements in it. -/
def group (name : String) (children : List XMLNode) : XMLNode := .element name.toList [] children

/-- An element with the number of its items, `SetAttribute("Num", …)`. -/
def listElement (name : String) (num : Nat) (items : List XMLNode) : XMLNode :=
  .element name.toList [("Num".toList, (toString num).toList)] items

def declaration : XMLNode := .declaration "xml version=\"1.0\" encoding=\"GB2312\"".toList

/-- The document of a message with its root. -/
def document (root : String) (children : List XMLNode) : List XMLNode :=
  [declaration, group root children]

/-- `doc.Print(&printer)` and `printer.CStr()`. -/
def content (doc : List XMLNode) : String := String.ofList (print false doc)

/-! ### Messages -/

def createlPTZControCmd (deviceId ptzCmd : String) (controlPriority : Int32) (sn : UInt32) :
    List XMLNode :=
  document "Control"
    (fields [("CmdType", "DeviceControl"), ("SN", toString sn), ("DeviceID", deviceId),
        ("PTZCmd", ptzCmd)] ++
      [group "Info" (fields [("ControlPriority", toString controlPriority.toInt)])])

def createKeepAliveMsg (user : String) (sn : UInt32) : List XMLNode :=
  document "Notify"
    (fields [("CmdType", "Keepalive"), ("SN", toString sn), ("DeviceID", user), ("Status", "OK")])

/-- `DeviceInfoMsg`. -/
structure DeviceInfoMsg where
  deviceName : String
  result : String
  manufacturer : String
  model : String
  firmware : String
  channel : Int

def createDeviceInfoResponse (deviceId : String) (sn : UInt32) (devInfoMsg : DeviceInfoMsg) :
    List XMLNode :=
  document "Response"
    (fields [("CmdType", "DeviceInfo"), ("SN", toString sn), ("DeviceID", deviceId),
      ("DeviceName", devInfoMsg.deviceName), ("Result", devInfoMsg.result),
      ("Manufacturer", devInfoMsg.manufacturer), ("Model", devInfoMsg.model),
      ("Firmware", devInfoMsg.firmware), ("Channel", toString devInfoMsg.channel)])

def createCatalogSubscriptionResponseMsg (user : String) (sn : UInt32) : List XMLNode :=
  document "Response"
    (fields [("CmdType", "Catalog"), ("SN", toString sn), ("DeviceID", user), ("Result", "OK")])

def createCatalogQueryRequestMsg (gbid : String) (sn : UInt32) : List XMLNode :=
  document "Query" (fields [("CmdType", "Catalog"), ("SN", toString sn), ("DeviceID", gbid)])

/-- The fields in front of the list of a catalog or of records. -/
def catalogHead (sn : UInt32) (deviceID : String) (sumNum : Int) : List (String × String) :=
  [("CmdType", "Catalog"), ("SN", toString sn), ("DeviceID", deviceID),
    ("SumNum", toString sumNum)]

/-- `AddVirtualOrganizationToNotifyCatalog`. -/
def addVirtualOrganizationToNotifyCatalog (charsetConvert : String → Option String)
    (item : VirtualOrganization) (ev : String) : XMLNode :=
  group "Item"
    (fields [("DeviceID", item.deviceID),
      ("Name", if item.name = "" then "" else utf8ToGbk charsetConvert item.name),
      ("ParentID", item.parentID), ("Event", ev)])

def createVirtualOrganizationNotifyCatalog (charsetConvert : String → Option String)
    (deviceId : String) (sn : UInt32) (ev : String) (vo : VirtualOrganization) : List XMLNode :=
  document "Notify"
    (fields (catalogHead sn deviceId 1) ++
      [listElement "DeviceList" 1 [addVirtualOrganizationToNotifyCatalog charsetConvert vo ev]])

/-- The fields of an item of the catalog from its name to its status, which `AddDeviceItemToCatalog`
and `AddDeviceItemToNotifyCatalog` have in common; the name is converted already. -/
def itemTexts (item : CatalogItem) : List (String × String) :=
  [("Name", item.name), ("Manufacturer", item.manufacturer), ("Model", item.model),
    ("Owner", item.owner), ("CivilCode", item.civilCode), ("Block", item.block),
    ("Address", item.address), ("Parental", toString item.parental), ("ParentID", item.parentID),
    ("SafetyWay", toString item.safetyWay), ("RegisterWay", toString item.registerWay),
    ("CertNum", toString item.certNum), ("Certifiable", toString item.certifiable),
    ("ErrCode", toString item.errCode), ("EndTime", item.endTime),
    ("Secrecy", toString item.secrecy), ("IPAddress", item.ipAddress),
    ("Port", toString item.port), ("Password", item.password), ("Status", item.status)]

/-- `AddDeviceItemToNotifyCatalog`: only an update has more than the id and the event. -/
def addDeviceItemToNotifyCatalog (charsetConvert : String → Option String) (item : CatalogItem)
    (ev : String) : XMLNode :=
  group "Item"
    (fields ([("DeviceID", item.deviceID), ("Event", ev)] ++
      if ev = "UPDATE" then itemTexts (addDeviceItemToCatalog charsetConvert item) else []))

/-- `CreateNotifyCatalog`; `AddIPCInfoToNotifyCatalog` is empty. -/
def createNotifyCatalog (charsetConvert : String → Option String) (user : String) (sn : UInt32)
    (ev : String) (item : CatalogItem) : List XMLNode :=
  document "Notify"
    (fields (catalogHead sn user 1) ++
      [listElement "DeviceList" 1 [addDeviceItemToNotifyCatalog charsetConvert item ev]])

/-- The texts of an item of the catalog. `std::to_string` prints the coordinates, which are of
type `double`, with six digits behind the point. -/
def catalogItemTexts (item : CatalogItem) : List (String × String) :=
  ("DeviceID", item.deviceID) :: (itemTexts item ++
    [("Longitude", toString item.longitude ++ ".000000"),
      ("Latitude", toString item.latitude ++ ".000000")])

/-- The texts of an organisation in a catalog. -/
def organizationTexts (item : OrganizationItem) : List (String × String) :=
  [("DeviceID", item.deviceID), ("Name", item.name), ("ParentID", item.parentID),
    ("BusinessGroupID", item.businessGroupID)]

def catalogTexts : OrganizationItem ⊕ CatalogItem → List (String × String)
  | .inl item => organizationTexts item
  | .inr item => catalogItemTexts item

/-- The document of `CreateCatalogResponse` and of `CreateVirtualOrganizationCatalogResponse`. -/
def catalogResponse (msg : CatalogResponse) : List XMLNode :=
  document "Response"
    (fields (catalogHead msg.sn msg.deviceID msg.sumNum) ++
      [listElement "DeviceList" msg.num
        (msg.deviceList.map fun item => group "Item" (fields (catalogTexts item)))])

/-- The texts of a record, as `insertRecordInfo` has them. -/
def recordTexts (item : RecordInfoResponseItem) : List (String × String) :=
  [("DeviceID", item.deviceID), ("Name", item.name), ("FilePath", item.filePath),
    ("Address", item.address), ("StartTime", item.startTime), ("EndTime", item.endTime),
    ("Secrecy", toString item.secrecy), ("Type", item.recordType),
    ("RecorderID", item.recorderID)]

/-- The document of `CreateRecordInfoResponse`. -/
def recordInfoResponse (msg : RecordInfoResponse) : List XMLNode :=
  document "Response"
    (fields [("CmdType", "RecordInfo"), ("SN", toString msg.sn), ("DeviceID", msg.deviceID),
        ("Name", msg.name), ("SumNum", toString msg.sumNum)] ++
      [listElement "RecordList" msg.num
        (msg.recordList.map fun item => group "Item" (fields (recordTexts item)))])

end MsgContentXml

end SignalingServer
