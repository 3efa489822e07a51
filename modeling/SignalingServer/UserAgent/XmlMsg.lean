import Mathlib.Tactic.TypeStar

/-!
The analysed form of a MANSCDP message (`GB28181XmlMsg` of DeviceInfo.h). The
untyped `pPoint` of the source, whose type the reader picks from the tags, is a
tagged union here.
-/

namespace SignalingServer

/-- `XmlCmdName`. -/
inductive XmlCmdName where
  | unknown | control | query | notify | response
  deriving DecidableEq, Repr

/-- `XmlCmdType`. -/
inductive XmlCmdType where
  | unknown
  | deviceControl | deviceConfig
  | deviceStatus | catalog | deviceInfo | recordInfo | alarm | configDownload | presetQuery
  | mobilePosition
  | notifyKeepalive | notifyAlarm | notifyMediaStatus | notifyBroadcast | notifyMobilePosition
  | notifyCatalog
  | responseDevControl | responseAlarm | responseCatalogItem | responseSubCatalog
  | responseCatalogNotifyReceived | responseDevInfo | responseDevStatus | responseRecordInfo
  | responseDevConfig | responseConfigDownload | responsePresetQuery | responseBroadcast
  deriving DecidableEq, Repr

/-- `XmlControlCmd`. -/
inductive XmlControlCmd where
  | unknown | ptz | teleboot | record | guard | alarm | iframe | dragZoomIn | dragZoomOut
  | homePosition
  deriving DecidableEq, Repr

/-- `PtzControlInfo`. -/
structure PtzControlInfo where
  value : String
  controlPriority : Int
  deriving DecidableEq, Repr

/-- `CatalogQueryMsg`. -/
structure CatalogQueryMsg where
  startTime : String
  endTime : String
  deriving DecidableEq, Repr

/-- `RecordInfoQueryMsg`. -/
structure RecordInfoQueryMsg where
  deviceID : String
  startTime : String
  endTime : String
  filePath : String
  address : String
  secrecy : Int
  recordType : String
  recorderID : String
  indistinctQuery : String
  deriving DecidableEq, Repr

/-- What `pPoint` points to. The control commands besides PTZ, and
`DeviceConfigInfo`, hold one `value` each. -/
inductive XmlPayload where
  | ptzControl (info : PtzControlInfo)
  | bootControl (value : String)
  | recordControl (value : String)
  | guardControl (value : String)
  | alarmControl (value : String)
  | iFameControl (value : String)
  | dragZoomControl (value : String)
  | homePositionControl (value : String)
  | deviceConfig (value : String)
  | catalogQuery (msg : CatalogQueryMsg)
  | recordInfoQuery (msg : RecordInfoQueryMsg)
  deriving DecidableEq, Repr

/-- `GB28181XmlMsg`. -/
structure GB28181XmlMsg where
  cmdname : XmlCmdName := .unknown
  cmdtype : XmlCmdType := .unknown
  controlCmd : XmlControlCmd := .unknown
  sn : UInt32 := 0
  deviceID : String := ""
  pPoint : Option XmlPayload := none
  deriving DecidableEq, Repr

namespace GB28181XmlMsg

/-- The cast of `pPoint` to a `CatalogQueryMsg` for a message tagged as a catalog query. -/
def catalogQuery (msg : GB28181XmlMsg) : Option CatalogQueryMsg :=
  match msg.pPoint with
  | some (.catalogQuery q) => some q
  | _ => none

end GB28181XmlMsg

end SignalingServer
