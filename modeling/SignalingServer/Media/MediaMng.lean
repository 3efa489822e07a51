import SignalingServer.DeviceMng.DeviceMng
import SignalingServer.UserAgent.XmlMsg

/-!
Streams (MediaMng.cpp). A request names a child by its GB id; the channel of the
NVR's own numbering is found in the list the NVR returns, and an SDK preview or
playback is opened for it. The open stream is kept in `mStreamMap` under an id
made from the GB id of the request.
-/

namespace SignalingServer

/-- A broken-down time, as `localtime` returns it. -/
structure Tm where
  year : Nat
  month : Nat
  day : Nat
  hour : Nat
  minute : Nat
  second : Nat
  deriving DecidableEq, Repr

/-- What the streams depend on outside the program: the SDK and the time zone. -/
structure Env where
  sdk : Sdk
  localtime : Int → Tm
  /-- `strptime` and `mktime` on a time of the form `%Y-%m-%dT%H:%M:%S`. -/
  mktime : String → Int

/-- `MediaStream`; `ref` is the identity of the object, which a pointer compares. -/
structure MediaStream where
  ref : Nat
  deviceId : String
  streamId : String
  streamHandle : Nat
  streamType : Int
  deriving DecidableEq, Repr

/-- `RecordInfoResponseItem`. -/
structure RecordInfoResponseItem where
  deviceID : String
  name : String
  filePath : String
  address : String
  startTime : String
  endTime : String
  secrecy : Int
  recordType : String
  recorderID : String
  deriving DecidableEq, Repr

/-- The part of the process that streams touch. A parent that is not a
`JsonNvrDevic` is `none` on the heap. -/
structure ServerState where
  sdk : JsonSdkInterface
  nvrs : Nat → Option JsonNvrDevic
  children : ChildMap
  mStreamMap : Std.TreeMap String MediaStream
  nextRef : Nat

/-- Two digits, as `%m` or `%H` print them. -/
def pad2 (n : Nat) : String := if n < 10 then "0" ++ toString n else toString n

/-- `strftime` with `%Y-%m-%dT%H<sep>%M<sep>%S`. -/
def formatTime (sep : String) (t : Tm) : String :=
  toString t.year ++ "-" ++ pad2 t.month ++ "-" ++ pad2 t.day ++ "T" ++ pad2 t.hour ++ sep ++
    pad2 t.minute ++ sep ++ pad2 t.second

namespace ServerState

/-- The session of the NVR that a child refers to. -/
def session (w : ServerState) (nvr : JsonNvrDevic) : NvrSession := ⟨w.sdk, nvr⟩

/-- The SDK and the NVR after an operation. -/
def putSession (w : ServerState) (ref : Nat) (s : NvrSession) : ServerState :=
  { w with sdk := s.sdk, nvrs := fun r => if r = ref then some s.nvr else w.nvrs r }

def setChild (w : ServerState) (child : JsonChildDevic) : ServerState :=
  { w with children := w.children.addChildDevice child }

/-- `MediaMng::addStream`. -/
def addStream (w : ServerState) (stream : MediaStream) : ServerState :=
  { w with mStreamMap := w.mStreamMap.insert stream.streamId stream }

/-- `MediaMng::findStream`. -/
def findStream (w : ServerState) (id : String) : Option MediaStream := w.mStreamMap[id]?

/-- The object that `std::make_shared<JsonStream>` makes. -/
def newStream (w : ServerState) (deviceId streamId : String) (handle : Nat) (type : Int) :
    ServerState × MediaStream :=
  ({ w with nextRef := w.nextRef + 1 },
    { ref := w.nextRef, deviceId := deviceId, streamId := streamId, streamHandle := handle,
      streamType := type })

/-- The parent of a child, if it is an NVR. -/
def parentNvr (w : ServerState) (child : JsonChildDevic) : Option (Nat × JsonNvrDevic) :=
  match child.mParentDev with
  | none => none
  | some ref => (w.nvrs ref).map fun nvr => (ref, nvr)

/-- The look-up at the head of the operations that name a child by its GB id. -/
def locate (w : ServerState) (gbId : String) :
    Option (JsonChildDevic × Nat × JsonNvrDevic) :=
  if gbId = "" then none
  else
    match w.children.findChildDeviceByGBID gbId with
    | none => none
    | some child => (w.parentNvr child).map fun p => (child, p)

/-- The channel in the NVR's own numbering. The child stores it counted from
one, the NVR counts from zero; the child's status is updated on the way. -/
def listChannel (w : ServerState) (env : Env) (child : JsonChildDevic) (ref : Nat)
    (nvr : JsonNvrDevic) : ServerState × Int :=
  let r := (w.session nvr).devListIPC env.sdk
  let w := w.putSession ref r.session
  if r.err = 0 then
    match (r.answer.bind (·.ipcList)).bind
        (fun l => l.find? fun ipc => child.channel = ipc.chid + 1) with
    | some ipc =>
        (w.setChild { child with status := if ipc.onlineStatus = 1 then 1 else 0 }, ipc.chid)
    | none => (w, -1)
  else (w, -1)

/-- The NVR as the operations before have left it. -/
def currentNvr (w : ServerState) (ref : Nat) (nvr : JsonNvrDevic) : JsonNvrDevic :=
  (w.nvrs ref).getD nvr

/-- What `createLiveStream` has done when it calls `Dev_Preview`: the channel is
known and its encoder parameters were asked for. -/
def prepareLive (w : ServerState) (env : Env) (deviceId : String) :
    ServerState × Option (Nat × JsonNvrDevic × Int) :=
  match w.locate deviceId with
  | none => (w, none)
  | some (child, ref, nvr) =>
      let (w, chl) := w.listChannel env child ref nvr
      if chl ≥ 0 then
        let r := (w.session (w.currentNvr ref nvr)).getChannelEncoderParam env.sdk chl
        let w := w.putSession ref r.session
        (w, some (ref, r.session.nvr, chl))
      else (w, none)

/-- The id of a live stream. -/
def liveStreamId (deviceId : String) (streamNo : Int) : String :=
  deviceId ++ "_" ++ toString streamNo

/-- `MediaMng::createLiveStream`. -/
def createLiveStream (w : ServerState) (env : Env) (deviceId : String) (streamNo : Int) :
    ServerState × Option MediaStream :=
  match w.prepareLive env deviceId with
  | (w, none) => (w, none)
  | (w, some (ref, nvr, chl)) =>
      let r := (w.session nvr).devPreview env.sdk chl streamNo
      let w := w.putSession ref r.session
      if r.err = 0 then
        let (w, stream) := w.newStream deviceId (liveStreamId deviceId streamNo) r.handle 0
        (w.addStream stream, some stream)
      else (w, none)

/-- `MediaMng::CreateStreamId`. -/
def createStreamId (env : Env) (deviceId : String) (start stop : Int) : String :=
  deviceId ++ "_" ++ formatTime "-" (env.localtime start) ++ "_" ++
    formatTime "-" (env.localtime stop)

/-- What `createVodStream` and `GB28181QueryRecordInfo` have done when they call
`Dev_PlayBack` and `SearchRecordInfoList`: the channel is known. -/
def prepareVod (w : ServerState) (env : Env) (deviceId : String) :
    ServerState × Option (Nat × JsonNvrDevic × Int) :=
  match w.locate deviceId with
  | none => (w, none)
  | some (child, ref, nvr) =>
      let (w, chl) := w.listChannel env child ref nvr
      if chl ≥ 0 then (w, some (ref, w.currentNvr ref nvr, chl)) else (w, none)

/-- `MediaMng::createVodStream`. -/
def createVodStream (w : ServerState) (env : Env) (deviceId : String) (start stop : Int) :
    ServerState × Option MediaStream :=
  match w.prepareVod env deviceId with
  | (w, none) => (w, none)
  | (w, some (ref, nvr, chl)) =>
      let r := (w.session nvr).devPlayBack env.sdk chl start stop
      let w := w.putSession ref r.session
      if r.err = 0 then
        let (w, stream) := w.newStream deviceId (createStreamId env deviceId start stop) r.handle 1
        (w.addStream stream, some stream)
      else (w, none)

/-- One item of the answer to a record query. -/
def recordItem (env : Env) (deviceID : String) (record : JsonRecordInfo) :
    RecordInfoResponseItem where
  deviceID := deviceID
  name := ""
  filePath := deviceID
  address := ""
  startTime := formatTime ":" (env.localtime record.startTime)
  endTime := formatTime ":" (env.localtime record.endTime)
  secrecy := 0
  recordType := "all"
  recorderID := deviceID

/-- `MediaMng::GB28181QueryRecordInfo`. -/
def gb28181QueryRecordInfo (w : ServerState) (env : Env) (query : RecordInfoQueryMsg) :
    ServerState × Option (List RecordInfoResponseItem) :=
  match w.prepareVod env query.deviceID with
  | (w, none) => (w, none)
  | (w, some (ref, nvr, chl)) =>
      let r := (w.session nvr).searchRecordInfoList env.sdk chl (env.mktime query.startTime)
        (env.mktime query.endTime)
      let w := w.putSession ref r.session
      if r.err = 0 then
        (w, some (((r.answer.map (·.records)).getD []).map (recordItem env query.deviceID)))
      else (w, none)

/-! ### Closing a stream -/

/-- `use_count` of a stream, when `held` of its pointers are outside `mStreamMap`. -/
def useCount (w : ServerState) (held : Nat) (stream : MediaStream) : Nat :=
  held + if w.findStream stream.streamId = some stream then 1 else 0

/-- The look-up and the count of `removeStream`. -/
def removable (w : ServerState) (held : MediaStream → Nat) (id : String) : Bool :=
  match w.findStream id with
  | none => false
  | some stream => w.useCount (held stream) stream ≤ 2

def eraseStream (w : ServerState) (id : String) : ServerState :=
  { w with mStreamMap := w.mStreamMap.erase id }

/-- `MediaMng::removeStream`. -/
def removeStream (w : ServerState) (held : MediaStream → Nat) (id : String) : ServerState :=
  if w.removable held id then w.eraseStream id else w

/-- The operation that stops a stream; `Dev_StopDownload` does nothing. -/
def stopOp (ms : MediaStream) : Option NvrOp :=
  if ms.streamType = 0 then some (.devStopPreview ms.streamHandle)
  else if ms.streamType = 1 then some (.devStopPlayBack ms.streamHandle)
  else none

/-- The NVR that `CloseStreamByStreamId` finds for a stream. -/
def streamNvr (w : ServerState) (ms : MediaStream) : Option (Nat × JsonNvrDevic) :=
  (w.children.findChildDevice ms.deviceId).bind w.parentNvr

/-- The stop operation that a close has called: for which stream, on which NVR,
and with what result. -/
structure StopCall where
  stream : MediaStream
  nvr : Nat
  op : NvrOp
  err : Int
  deriving DecidableEq, Repr

/-- The error that `CloseStreamByStreamId` reads after the stop operation. -/
def stopErr (stop : Option StopCall) : Int := (stop.map (·.err)).getD 0

@[simp] theorem stopErr_some (call : StopCall) : stopErr (some call) = call.err := rfl

/-- The stop operation. -/
def stopHandle (w : ServerState) (env : Env) (ms : MediaStream) (ref : Nat)
    (nvr : JsonNvrDevic) : ServerState × Option StopCall :=
  match stopOp ms with
  | none => (w, none)
  | some op =>
      let r := op.run env.sdk (w.session nvr)
      (w.putSession ref r.session, some ⟨ms, ref, op, r.err⟩)

theorem stopHandle_eq {ms : MediaStream} {op : NvrOp} (hop : stopOp ms = some op)
    (w : ServerState) (env : Env) (ref : Nat) (nvr : JsonNvrDevic) :
    w.stopHandle env ms ref nvr =
      (w.putSession ref (op.run env.sdk (w.session nvr)).session,
        some ⟨ms, ref, op, (op.run env.sdk (w.session nvr)).err⟩) := by
  rw [stopHandle, hop]

/-- The stop operation and what follows it. -/
def stopStream (w : ServerState) (env : Env) (held : MediaStream → Nat) (ms : MediaStream)
    (ref : Nat) (nvr : JsonNvrDevic) : ServerState × Option StopCall :=
  let r := w.stopHandle env ms ref nvr
  (if stopErr r.2 = 0 then r.1.removeStream held ms.streamId else r.1, r.2)

/-- `MediaMng::CloseStreamByStreamId`. `held` counts the pointers outside
`mStreamMap`, the caller's included. -/
def closeStreamByStreamId (w : ServerState) (env : Env) (held : MediaStream → Nat)
    (ms : MediaStream) : ServerState × Option StopCall :=
  if w.useCount (held ms) ms ≤ 2 then
    match w.streamNvr ms with
    | none => (w, none)
    | some (ref, nvr) => w.stopStream env held ms ref nvr
  else (w, none)

/-! ### What a request does to the table and the streams -/

/-- The look-ups and SDK calls of a request for a child leave the streams alone.
They may write the child's status, and name no channel but the child's. -/
structure LookedUp (child : JsonChildDevic) (w w' : ServerState) : Prop where
  streams : w'.mStreamMap = w.mStreamMap
  nextRef : w'.nextRef = w.nextRef
  children : w'.children = w.children ∨
    ∃ status, w'.children = w.children.addChildDevice { child with status := status }
  nvrs : ∀ ref, (w.nvrs ref).isSome → (w'.nvrs ref).isSome
  calls : w.sdk.CallsOnly (SdkCall.OnChannel (child.channel - 1)) w'.sdk

theorem isSome_putSession {w : ServerState} {ref : Nat} {s : NvrSession} {r : Nat}
    (h : (w.nvrs r).isSome) : ((w.putSession ref s).nvrs r).isSome := by
  simp only [putSession]
  split
  · rfl
  · exact h

/-- A further SDK operation for the child. -/
theorem LookedUp.putSession {child : JsonChildDevic} {w w' : ServerState}
    (h : LookedUp child w w') {ref : Nat} {s : NvrSession}
    (hcalls : w'.sdk.CallsOnly (SdkCall.OnChannel (child.channel - 1)) s.sdk) :
    LookedUp child w (w'.putSession ref s) where
  streams := h.streams
  nextRef := h.nextRef
  children := h.children
  nvrs := fun r hr => isSome_putSession (h.nvrs r hr)
  calls := h.calls.trans hcalls

theorem LookedUp.refl (child : JsonChildDevic) (w : ServerState) : LookedUp child w w :=
  ⟨rfl, rfl, .inl rfl, fun _ h => h, .refl _ _⟩

/-- A further operation that opens a session and is on the child's channel. -/
theorem LookedUp.logInOp {child : JsonChildDevic} {w w' : ServerState} (h : LookedUp child w w')
    (ref : Nat) (nvr : JsonNvrDevic) (env : Sdk) (op : Nat → SdkCall)
    (hop : ∀ id, (op id).OnChannel (child.channel - 1)) :
    LookedUp child w (w'.putSession ref ((w'.session nvr).logInOp env op).session) :=
  h.putSession (NvrSession.callsOnly_logInOp (NvrSession.frame_onChannel _) hop _ _)

theorem lookedUp_listChannel (w : ServerState) (env : Env) (child : JsonChildDevic) (ref : Nat)
    (nvr : JsonNvrDevic) :
    LookedUp child w (w.listChannel env child ref nvr).1 ∧
      ((w.listChannel env child ref nvr).2 ≥ 0 →
        (w.listChannel env child ref nvr).2 = child.channel - 1) := by
  have hlist : LookedUp child w
      (w.putSession ref ((w.session nvr).devListIPC env.sdk).session) :=
    (LookedUp.refl child w).logInOp ref nvr env.sdk (fun id => .listIPC id)
      (by simp [SdkCall.OnChannel, SdkCall.channel])
  unfold listChannel
  by_cases herr : ((w.session nvr).devListIPC env.sdk).err = 0
  · simp only [if_pos herr]
    split
    · rename_i ipc hipc
      obtain ⟨l, -, hfind⟩ := Option.bind_eq_some_iff.mp hipc
      have hchannel : child.channel = ipc.chid + 1 := by simpa using List.find?_some hfind
      refine ⟨⟨hlist.streams, hlist.nextRef, .inr ⟨_, rfl⟩, hlist.nvrs, hlist.calls⟩, ?_⟩
      omega
    · exact ⟨hlist, by simp⟩
  · simp only [if_neg herr]
    exact ⟨hlist, by simp⟩

/-- What the preparations of a request share: they follow the child that the GB
id names, and the channel they find is the child's. -/
def Prepared (child : JsonChildDevic) (w : ServerState)
    (p : ServerState × Option (Nat × JsonNvrDevic × Int)) : Prop :=
  LookedUp child w p.1 ∧ ∀ ref nvr chl, p.2 = some (ref, nvr, chl) → chl = child.channel - 1

theorem prepared_prepareLive {w : ServerState} (env : Env) {deviceId : String}
    {child : JsonChildDevic} {ref : Nat} {nvr : JsonNvrDevic}
    (hloc : w.locate deviceId = some (child, ref, nvr)) :
    Prepared child w (w.prepareLive env deviceId) := by
  obtain ⟨hlist, hchl⟩ := w.lookedUp_listChannel env child ref nvr
  unfold prepareLive
  simp only [hloc]
  by_cases hpos : (w.listChannel env child ref nvr).2 ≥ 0
  · simp only [if_pos hpos]
    refine ⟨hlist.putSession (NvrSession.callsOnly_getChannelEncoderParam
      (NvrSession.frame_onChannel _) ?_ _ _), by simp [hchl hpos]⟩
    simp [SdkCall.OnChannel, SdkCall.channel, hchl hpos]
  · simp only [if_neg hpos]
    exact ⟨hlist, by simp⟩

theorem prepared_prepareVod {w : ServerState} (env : Env) {deviceId : String}
    {child : JsonChildDevic} {ref : Nat} {nvr : JsonNvrDevic}
    (hloc : w.locate deviceId = some (child, ref, nvr)) :
    Prepared child w (w.prepareVod env deviceId) := by
  obtain ⟨hlist, hchl⟩ := w.lookedUp_listChannel env child ref nvr
  unfold prepareVod
  simp only [hloc]
  by_cases hpos : (w.listChannel env child ref nvr).2 ≥ 0
  · simp only [if_pos hpos]
    exact ⟨hlist, by simp [hchl hpos]⟩
  · simp only [if_neg hpos]
    exact ⟨hlist, by simp⟩

/-- A request for a stream: the child is looked up, and then no stream is made,
or a new one is registered under its id. -/
def Requested (child : JsonChildDevic) (w : ServerState) (deviceId streamId : String)
    (streamType : Int) (r : ServerState × Option MediaStream) : Prop :=
  ∃ w', LookedUp child w w' ∧ (r = (w', none) ∨ ∃ handle,
    r = ((w'.newStream deviceId streamId handle streamType).1.addStream
        (w'.newStream deviceId streamId handle streamType).2,
      some (w'.newStream deviceId streamId handle streamType).2))

/-- How both requests end: the SDK function is called in a session that is opened for
it, and a stream is registered when no error comes back. -/
def openStream (env : Env) (call : Int → Nat → SdkCall) (deviceId streamId : String)
    (streamType : Int) :
    ServerState × Option (Nat × JsonNvrDevic × Int) → ServerState × Option MediaStream
  | (w, none) => (w, none)
  | (w, some (ref, nvr, chl)) =>
      let r := (w.session nvr).logInOp env.sdk (call chl)
      let w := w.putSession ref r.session
      if r.err = 0 then
        let (w, stream) := w.newStream deviceId streamId r.handle streamType
        (w.addStream stream, some stream)
      else (w, none)

theorem createLiveStream_eq (w : ServerState) (env : Env) (deviceId : String) (streamNo : Int) :
    w.createLiveStream env deviceId streamNo =
      openStream env (fun chl id => .vskPreview id chl streamNo) deviceId
        (liveStreamId deviceId streamNo) 0 (w.prepareLive env deviceId) := rfl

theorem createVodStream_eq (w : ServerState) (env : Env) (deviceId : String) (start stop : Int) :
    w.createVodStream env deviceId start stop =
      openStream env (fun chl id => .playBack id chl start stop) deviceId
        (createStreamId env deviceId start stop) 1 (w.prepareVod env deviceId) := rfl

theorem requested_openStream {child : JsonChildDevic} {w : ServerState}
    {prepared : ServerState × Option (Nat × JsonNvrDevic × Int)}
    (hprep : Prepared child w prepared) (env : Env) {call : Int → Nat → SdkCall}
    (hcall : ∀ chl id, (call chl id).OnChannel chl) (deviceId streamId : String)
    (streamType : Int) :
    Requested child w deviceId streamId streamType
      (openStream env call deviceId streamId streamType prepared) := by
  obtain ⟨hlooked, hchl⟩ := hprep
  rcases prepared with ⟨w', _ | ⟨ref, nvr, chl⟩⟩
  · exact ⟨w', hlooked, .inl rfl⟩
  · have hchl : chl = child.channel - 1 := hchl ref nvr chl rfl
    refine ⟨_, hlooked.logInOp ref nvr env.sdk (call chl) fun id => hchl ▸ hcall chl id, ?_⟩
    unfold openStream
    dsimp only
    split
    · exact .inr ⟨_, rfl⟩
    · exact .inl rfl

theorem requested_createLiveStream {w : ServerState} (env : Env) {deviceId : String}
    (streamNo : Int) {child : JsonChildDevic} {ref : Nat} {nvr : JsonNvrDevic}
    (hloc : w.locate deviceId = some (child, ref, nvr)) :
    Requested child w deviceId (liveStreamId deviceId streamNo) 0
      (w.createLiveStream env deviceId streamNo) := by
  rw [createLiveStream_eq]
  apply requested_openStream (prepared_prepareLive env hloc)
  intro chl id
  simp [SdkCall.OnChannel, SdkCall.channel]

theorem requested_createVodStream {w : ServerState} (env : Env) {deviceId : String}
    (start stop : Int) {child : JsonChildDevic} {ref : Nat} {nvr : JsonNvrDevic}
    (hloc : w.locate deviceId = some (child, ref, nvr)) :
    Requested child w deviceId (createStreamId env deviceId start stop) 1
      (w.createVodStream env deviceId start stop) := by
  rw [createVodStream_eq]
  apply requested_openStream (prepared_prepareVod env hloc)
  intro chl id
  simp [SdkCall.OnChannel, SdkCall.channel]

theorem lookedUp_gb28181QueryRecordInfo {w : ServerState} (env : Env)
    (query : RecordInfoQueryMsg) {child : JsonChildDevic} {ref : Nat} {nvr : JsonNvrDevic}
    (hloc : w.locate query.deviceID = some (child, ref, nvr)) :
    LookedUp child w (w.gb28181QueryRecordInfo env query).1 := by
  obtain ⟨hlooked, hchl⟩ := prepared_prepareVod env hloc
  unfold gb28181QueryRecordInfo
  rcases hprep : w.prepareVod env query.deviceID with ⟨w', _ | ⟨ref', nvr', chl⟩⟩
  · rw [hprep] at hlooked
    exact hlooked
  · rw [hprep] at hlooked hchl
    have hchl : chl = child.channel - 1 := hchl ref' nvr' chl rfl
    have hsearch := hlooked.logInOp ref' nvr' env.sdk
      (fun id => .searchRecordFileList id chl (env.mktime query.startTime)
        (env.mktime query.endTime))
      (by simp [SdkCall.OnChannel, SdkCall.channel, hchl])
    by_cases herr : ((w'.session nvr').searchRecordInfoList env.sdk chl
        (env.mktime query.startTime) (env.mktime query.endTime)).err = 0
    · simp only [if_pos herr]
      exact hsearch
    · simp only [if_neg herr]
      exact hsearch

/-! ### Streams and failures of the SDK -/

/-- The `Dev_Preview` that `createLiveStream` makes, if it gets that far. -/
def livePreview (w : ServerState) (env : Env) (deviceId : String) (streamNo : Int) :
    Option SdkResult :=
  (w.prepareLive env deviceId).2.map fun p =>
    ((w.prepareLive env deviceId).1.session p.2.1).devPreview env.sdk p.2.2 streamNo

/-- The `Dev_PlayBack` that `createVodStream` makes, if it gets that far. -/
def vodPlayBack (w : ServerState) (env : Env) (deviceId : String) (start stop : Int) :
    Option SdkResult :=
  (w.prepareVod env deviceId).2.map fun p =>
    ((w.prepareVod env deviceId).1.session p.2.1).devPlayBack env.sdk p.2.2 start stop

/-- A stream is created exactly when the operation that opens it reports no error. -/
theorem openStream_isSome_iff (env : Env) (call : Int → Nat → SdkCall)
    (deviceId streamId : String) (streamType : Int)
    (prepared : ServerState × Option (Nat × JsonNvrDevic × Int)) :
    (openStream env call deviceId streamId streamType prepared).2.isSome ↔
      ∃ r, (prepared.2.map fun p => (prepared.1.session p.2.1).logInOp env.sdk (call p.2.2)) =
        some r ∧ r.err = 0 := by
  rcases prepared with ⟨w, _ | ⟨ref, nvr, chl⟩⟩
  · simp [openStream]
  · by_cases herr : ((w.session nvr).logInOp env.sdk (call chl)).err = 0
    · simp [openStream, herr]
    · simp [openStream, herr]

theorem createLiveStream_isSome_iff (w : ServerState) (env : Env) (deviceId : String)
    (streamNo : Int) :
    (w.createLiveStream env deviceId streamNo).2.isSome ↔
      ∃ r, w.livePreview env deviceId streamNo = some r ∧ r.err = 0 :=
  openStream_isSome_iff env _ deviceId _ 0 _

theorem createVodStream_isSome_iff (w : ServerState) (env : Env) (deviceId : String)
    (start stop : Int) :
    (w.createVodStream env deviceId start stop).2.isSome ↔
      ∃ r, w.vodPlayBack env deviceId start stop = some r ∧ r.err = 0 :=
  openStream_isSome_iff env _ deviceId _ 1 _

/-- The NVR opens a preview for the request. -/
def opensLive (w : ServerState) (env : Env) (deviceId : String) (streamNo : Int) : Bool :=
  (w.livePreview env deviceId streamNo).any fun r => r.err = 0

/-- The NVR opens a playback for the request. -/
def opensVod (w : ServerState) (env : Env) (deviceId : String) (start stop : Int) : Bool :=
  (w.vodPlayBack env deviceId start stop).any fun r => r.err = 0

theorem isSome_createLiveStream (w : ServerState) (env : Env) (deviceId : String)
    (streamNo : Int) :
    (w.createLiveStream env deviceId streamNo).2.isSome = w.opensLive env deviceId streamNo := by
  rw [Bool.eq_iff_iff, createLiveStream_isSome_iff]
  simp [opensLive, Option.any_eq_true]

theorem isSome_createVodStream (w : ServerState) (env : Env) (deviceId : String)
    (start stop : Int) :
    (w.createVodStream env deviceId start stop).2.isSome = w.opensVod env deviceId start stop := by
  rw [Bool.eq_iff_iff, createVodStream_isSome_iff]
  simp [opensVod, Option.any_eq_true]

/-- A created stream was opened by the SDK: its operation ran and ended with error 0. -/
def OpenedBySdk (created : Option MediaStream) (op : Option SdkResult) : Prop :=
  created.isSome → ∃ r a, op = some r ∧ r.answer = some a ∧ a.err = 0

/-- The condition of an operation on the state its preparation leads to. -/
def PreparedTruthful (env : Env) (prepared : ServerState × Option (Nat × JsonNvrDevic × Int))
    (op : Int → NvrOp) : Prop :=
  ∀ ref nvr chl, prepared.2 = some (ref, nvr, chl) →
    (op chl).Truthful env.sdk (prepared.1.session nvr)

theorem openedBySdk_iff {created : Option MediaStream} {op : Option SdkResult}
    (hcreated : created.isSome ↔ ∃ r, op = some r ∧ r.err = 0) :
    OpenedBySdk created op ↔ ∀ r, op = some r → r.NoFalseSuccess := by
  unfold OpenedBySdk
  rw [hcreated]
  constructor
  · intro hopen r hr hzero
    obtain ⟨r', a, hr', ha, hok⟩ := hopen ⟨r, hr, hzero⟩
    rw [hr] at hr'
    cases hr'
    exact ⟨a, ha, hok⟩
  · rintro htrue ⟨r, hr, hzero⟩
    obtain ⟨a, ha, hok⟩ := htrue r hr hzero
    exact ⟨r, a, hr, ha, hok⟩

/-- A stream that a request creates was opened by the SDK, exactly under the condition
on the operation that opens it. -/
theorem openedBySdk_openStream_iff (env : Env) {op : Int → NvrOp} {call : Int → Nat → SdkCall}
    (hrun : ∀ chl s, (op chl).run env.sdk s = s.logInOp env.sdk (call chl))
    (deviceId streamId : String) (streamType : Int)
    (prepared : ServerState × Option (Nat × JsonNvrDevic × Int)) :
    OpenedBySdk (openStream env call deviceId streamId streamType prepared).2
        (prepared.2.map fun p => (prepared.1.session p.2.1).logInOp env.sdk (call p.2.2)) ↔
      PreparedTruthful env prepared op := by
  rw [openedBySdk_iff (openStream_isSome_iff env call deviceId streamId streamType prepared)]
  constructor
  · intro htrue ref nvr chl hprep
    rw [← NvrOp.noFalseSuccess_run_iff, hrun]
    exact htrue _ (by rw [hprep]; rfl)
  · intro htrue r hr
    obtain ⟨⟨ref, nvr, chl⟩, hprep, rfl⟩ := Option.map_eq_some_iff.mp hr
    rw [← hrun, NvrOp.noFalseSuccess_run_iff]
    exact htrue ref nvr chl hprep

/-- Failures of the SDK, for every device state and every behaviour of the SDK:
an operation reports success only for a success of its SDK call, and a stream is
registered only when the SDK opened it, exactly under the conditions on the
answers to the calls around it. -/
theorem sdk_failures_reported_iff (env : Env) :
    (∀ (s : NvrSession) (op : NvrOp),
      (op.run env.sdk s).NoFalseSuccess ↔ op.Truthful env.sdk s) ∧
    (∀ (w : ServerState) (deviceId : String) (streamNo : Int),
      OpenedBySdk (w.createLiveStream env deviceId streamNo).2
          (w.livePreview env deviceId streamNo) ↔
        PreparedTruthful env (w.prepareLive env deviceId) fun chl =>
          .devPreview chl streamNo) ∧
    ∀ (w : ServerState) (deviceId : String) (start stop : Int),
      OpenedBySdk (w.createVodStream env deviceId start stop).2
          (w.vodPlayBack env deviceId start stop) ↔
        PreparedTruthful env (w.prepareVod env deviceId) fun chl =>
          .devPlayBack chl start stop := by
  refine ⟨NvrOp.noFalseSuccess_run_iff env.sdk, ?_, ?_⟩
  · intro w deviceId streamNo
    exact openedBySdk_openStream_iff env (fun _ _ => rfl) deviceId _ 0 _
  · intro w deviceId start stop
    exact openedBySdk_openStream_iff env (fun _ _ => rfl) deviceId _ 1 _

/-! ### A sample device table -/

/-- An NVR with an open session, and a channel list with channels 0 and 1. -/
def sampleNvr : JsonNvrDevic :=
  { deviceId := "1", mIP := "192.168.1.10", mPort := 8000, mUser := "admin", mPswd := "admin",
    mLoginId := 5, mGBID := "34020000001180000001" }

def sampleIpcs : List JsonIpc := [⟨0, 1, "gate", ""⟩, ⟨1, 1, "yard", ""⟩]

def sampleChild (deviceId gbId : String) (channel : Int) : JsonChildDevic :=
  { deviceId := deviceId, mParentDev := some 0, status := 1, parentId := "1", mGBID := gbId,
    channel := channel }

def sampleState (children : ChildMap) : ServerState where
  sdk := ⟨true, []⟩
  nvrs := fun ref => if ref = 0 then some sampleNvr else none
  children := children
  mStreamMap := ∅
  nextRef := 0

/-- An SDK for which every call succeeds. -/
def workingSdk : Sdk := fun log c =>
  match c with
  | .listIPC _ => { ipcList := some sampleIpcs }
  | _ => { handle := log.length + 1 }

/-- An SDK whose sessions expire at the next preview. -/
def expiredSdk : Sdk := fun log c =>
  match c with
  | .vskPreview _ _ _ => { err := 2007 }
  | _ => workingSdk log c

def sampleEnv (sdk : Sdk) : Env := ⟨sdk, fun _ => ⟨2024, 1, 1, 0, 0, 0⟩, fun _ => 0⟩

/-- The preview fails with an expired session, its logout succeeds, and a stream
that was never opened is registered. -/
theorem expired_preview_registered :
    ((NvrOp.devPreview 0 0).run expiredSdk ⟨⟨true, []⟩, sampleNvr⟩).err = 0 ∧
      ((NvrOp.devPreview 0 0).run expiredSdk ⟨⟨true, []⟩, sampleNvr⟩).answer =
        some { err := 2007 } ∧
      ¬ ((NvrOp.devPreview 0 0).run expiredSdk ⟨⟨true, []⟩, sampleNvr⟩).NoFalseSuccess ∧
      ∃ stream : MediaStream,
        ((sampleState (ChildMap.empty.addChildDevice
            (sampleChild "7" "34020000001320000001" 1))).createLiveStream
          (sampleEnv expiredSdk) "34020000001320000001" 0).2 = some stream ∧
        stream.streamHandle = 0 := by
  refine ⟨by decide, by decide, fun htrue => ?_, ?_⟩
  · obtain ⟨a, ha, hok⟩ := htrue (by decide)
    cases ha
    exact absurd hok (by decide)
  · exact ⟨⟨0, "34020000001320000001", "34020000001320000001_0", 0, 0⟩, by decide, rfl⟩

end ServerState

end SignalingServer
