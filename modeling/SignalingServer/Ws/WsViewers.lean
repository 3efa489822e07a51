import SignalingServer.Lib.Threads
import SignalingServer.Media.LiveFrames
import SignalingServer.Ws.WsServer

/-!
The `WsStreamInfo` objects of the websocket connections (ws.cpp), over runs of messages
and closes. Every `Preview` and every `Playback` makes one, with or without a stream;
`m_connections` has room for one per connection, and `on_close` releases the one that it
finds there.
-/

namespace SignalingServer

open Lts

/-! ### Messages -/

/-- The `params` of a message, as the `json_check_` functions read them for a `Preview`, a
`Playback` and a `PlaybackControl`. -/
structure WsParams extends PreviewParams, PlaybackParams where
  ctrlType : Int
  pointTime : UInt32
  deriving DecidableEq, Repr

/-- A text message that is a JSON object. -/
structure WsDocument where
  classe : String
  cmd : String
  params : Option WsParams
  deriving DecidableEq, Repr

/-- What a message asks for. Everything else is answered and changes nothing. -/
inductive WsCommand where
  | preview
  | playback
  | playbackControl
  | other
  deriving DecidableEq, Repr

namespace WsServer

def websPlayClass : String := "Play"
def webRealTimeMethod : String := "Preview"
def websPlayBackMethod : String := "Playback"
def websPBControlMethod : String := "PlaybackControl"

/-- The tests on `classe` and `cmd` in `WebsocketMessage`. -/
def command (d : WsDocument) : WsCommand :=
  if websPlayClass = d.classe then
    if webRealTimeMethod = d.cmd then .preview
    else if websPlayBackMethod = d.cmd then .playback
    else if websPBControlMethod = d.cmd then .playbackControl
    else .other
  else .other

end WsServer

/-! ### The objects -/

/-- `std::thread t` of a `WsStreamInfo`. -/
inductive WsThread where
  | none
  | rtPreviewThread
  | playBackThread
  | joined
  deriving DecidableEq, Repr

namespace WsThread

def joinable : WsThread → Bool
  | .rtPreviewThread => true
  | .playBackThread => true
  | .none => false
  | .joined => false

/-- `if(t.joinable()) t.join();` -/
def join (t : WsThread) : WsThread := if t.joinable then .joined else t

end WsThread

/-- A `WsStreamInfo` with the members that its connection uses. The last three are
history: what the action returned, the reader that the stream gave it, and how often the
object was deleted. -/
structure WsViewer extends WsStreamInfo where
  hdl : Nat
  readhandle : UInt32
  t : WsThread
  ctrlType : Int
  nFrameTime : UInt64
  errcode : Int
  reader : UInt32
  deleted : Nat
  deriving DecidableEq, Repr

/-- The process, as far as websocket viewers are concerned. `infos` are all objects that
were made, and `m_connections` points into it. `streams` are the frames and readers of
the stream with a given `ref`. -/
structure WsViewers where
  media : ServerState
  streams : Nat → LiveFrames
  infos : List WsViewer
  m_connections : Table Nat Nat
  closed : List Nat

/-- A message or the close of a connection; or the rest of the process has gone on. A
close finds `others`, the pointers to a stream that are not in a `WsStreamInfo`. -/
inductive WsEvent where
  | message (hdl : Nat) (document : Option WsDocument)
  | close (hdl : Nat) (others : MediaStream → Nat)
  | elsewhere (media : ServerState) (streams : Nat → LiveFrames)

namespace WsViewers

/-- `sinfo->readhandle = s->createReader()` for the stream of an action, if there is one. -/
def createReader (streams : Nat → LiveFrames) (ms : Option MediaStream) :
    UInt32 × (Nat → LiveFrames) :=
  match ms with
  | none => (0, streams)
  | some ms =>
      let r := (streams ms.ref).createReader
      (r.1, Function.update streams ms.ref r.2)

/-- `sinfo->ms->removeReader(sinfo->readhandle)`, if there is a stream. -/
def removeReader (streams : Nat → LiveFrames) (sinfo : WsViewer) : Nat → LiveFrames :=
  match sinfo.ms with
  | none => streams
  | some ms => Function.update streams ms.ref ((streams ms.ref).removeReader sinfo.readhandle)

/-- `new WsStreamInfo()` after its action, with the thread that follows a return of 0. -/
def newInfo (s : WsViewers) (hdl : Nat) (isLive : Int) (thread : WsThread)
    (r : WsServer.ActionResult) : WsViewer where
  isLive := isLive
  ms := r.ms
  hdl := hdl
  readhandle := (createReader s.streams r.ms).1
  t := if r.errcode = 0 then thread else .none
  ctrlType := 0
  nFrameTime := 0
  errcode := r.errcode
  reader := (createReader s.streams r.ms).1
  deleted := 0

/-- The branches of `WebsocketMessage` that make a `WsStreamInfo`. The entry of the
connection is replaced without a look at the object that it pointed to. -/
def connect (s : WsViewers) (hdl : Nat) (isLive : Int) (thread : WsThread)
    (r : WsServer.ActionResult) : WsViewers where
  media := r.media
  streams := (createReader s.streams r.ms).2
  infos := s.infos ++ [s.newInfo hdl isLive thread r]
  m_connections := s.m_connections.insert hdl s.infos.length
  closed := s.closed

/-- `m_connections.find(hdl)`, with the object that the entry points to. -/
def find (s : WsViewers) (hdl : Nat) : Option (Nat × WsViewer) :=
  (s.m_connections.lookup hdl).bind fun i => s.infos[i]?.map fun sinfo => (i, sinfo)

/-- `Dev_PlayBackCtrl` with `JsonPbCtrl_TimePos` on the parent, if that is an NVR. -/
def timePos (w : ServerState) (env : Env) (parent : Nat) (ms : MediaStream) (pointTime : UInt32) :
    ServerState :=
  match w.nvrs parent with
  | none => w
  | some nvr =>
      let r := (w.session nvr).devPlayBackCtrl env.sdk ms.streamHandle 4 pointTime.toInt32.toInt 0
      w.putSession parent r.session

/-- `WsServer::PlayBackControlAction`. -/
def playBackControlAction (w : ServerState) (env : Env) (sinfo : WsViewer)
    (params : Option WsParams) : ServerState × WsViewer × Int :=
  match params with
  | none => (w, sinfo, 6)
  | some p =>
      if sinfo.isLive = 1 then
        let sinfo := { sinfo with ctrlType := p.ctrlType }
        match sinfo.ms with
        | none => (w, sinfo, 2)
        | some ms =>
            match (w.children.findChildDevice ms.deviceId).map (·.mParentDev) with
            | none => (w, sinfo, 3)
            | some none => (w, sinfo, 3)
            | some (some parent) =>
                if p.ctrlType = 0 ∨ p.ctrlType = 1 ∨ p.ctrlType = 2 then (w, sinfo, 0)
                else if p.ctrlType = 3 then
                  (timePos w env parent ms p.pointTime,
                    { sinfo with nFrameTime := p.pointTime.toUInt64 * 1000 }, 0)
                else (w, sinfo, -1)
      else (w, sinfo, 0)

/-- `WsServer::WebsocketMessage`. -/
def websocketMessage (s : WsViewers) (env : Env) (hdl : Nat) (document : Option WsDocument) :
    WsViewers :=
  match document with
  | none => s
  | some d =>
      match WsServer.command d with
      | .preview =>
          s.connect hdl 0 .rtPreviewThread
            (WsServer.realTimePlayAction s.media env (d.params.map (·.toPreviewParams)))
      | .playback =>
          s.connect hdl 1 .playBackThread
            (WsServer.playBackAction s.media env (d.params.map (·.toPlaybackParams)))
      | .playbackControl =>
          match s.find hdl with
          | none => s
          | some (i, sinfo) =>
              let r := playBackControlAction s.media env sinfo d.params
              { s with media := r.1, infos := s.infos.set i r.2.1 }
      | .other => s

/-- The pointers to a stream outside `mStreamMap`. -/
def held (s : WsViewers) (others : MediaStream → Nat) (ms : MediaStream) : Nat :=
  others ms + s.infos.countP fun o => o.deleted = 0 ∧ o.ms = some ms

/-- `MediaMng::CloseStreamByStreamId` for the stream of an object, if there is one. -/
def closeStream (s : WsViewers) (env : Env) (others : MediaStream → Nat)
    (ms : Option MediaStream) : ServerState :=
  match ms with
  | none => s.media
  | some ms => (s.media.closeStreamByStreamId env (s.held others) ms).1

/-- An object after `on_close`. The loops of the threads end once `readhandle` is 0. -/
def deleteInfo (sinfo : WsViewer) : WsViewer :=
  { sinfo with readhandle := 0, t := sinfo.t.join, deleted := sinfo.deleted + 1 }

/-- `WsServer::on_close`. -/
def onClose (s : WsViewers) (env : Env) (hdl : Nat) (others : MediaStream → Nat) : WsViewers :=
  match s.find hdl with
  | none => s
  | some (i, sinfo) =>
      { media := s.closeStream env others sinfo.ms
        streams := removeReader s.streams sinfo
        infos := s.infos.set i (deleteInfo sinfo)
        m_connections := s.m_connections.erase hdl
        closed := s.closed }

/-- Nothing comes from a connection after its close. -/
def step (env : Env) : Step WsViewers WsEvent
  | s, .message hdl document =>
      if hdl ∈ s.closed then none else some (s.websocketMessage env hdl document)
  | s, .close hdl others =>
      if hdl ∈ s.closed then none
      else some { s.onClose env hdl others with closed := hdl :: s.closed }
  | s, .elsewhere media streams => some { s with media := media, streams := streams }

/-- No connection. -/
def start (media : ServerState) (streams : Nat → LiveFrames) : WsViewers where
  media := media
  streams := streams
  infos := []
  m_connections := ∅
  closed := []

/-! ### What is to hold -/

end WsViewers

/-- An object of the connection that has not been deleted. -/
def WsViewer.pending (hdl : Nat) (o : WsViewer) : Bool := o.hdl = hdl && o.deleted = 0

@[simp] theorem WsViewer.pending_iff {hdl : Nat} {o : WsViewer} :
    o.pending hdl = true ↔ o.hdl = hdl ∧ o.deleted = 0 := by
  simp [pending]

namespace WsViewers

/-- The objects of a connection that have not been deleted. -/
def pending (s : WsViewers) (hdl : Nat) : Nat := s.infos.countP (·.pending hdl)

/-- An entry points to an object of its connection. While the connection is open its
objects are as their messages made them, and there is an entry if there is any. -/
structure Owned (s : WsViewers) : Prop where
  entry : ∀ hdl i, s.m_connections.lookup hdl = some i →
    ∃ o, s.infos[i]? = some o ∧ o.hdl = hdl
  fresh : ∀ o ∈ s.infos, o.hdl ∉ s.closed → o.deleted = 0 ∧ o.readhandle = o.reader ∧
    (s.m_connections.lookup o.hdl).isSome

section

variable {s s' : WsViewers} {env : Env} {hdl i : Nat} {sinfo : WsViewer}

end

/-- A child that is stored under its GB id, behind an NVR. -/
def sampleStart : WsViewers :=
  start (ServerState.sampleState (ChildMap.empty.addChildDevice
    (ServerState.sampleChild "34020000001320000001" "34020000001320000001" 1)))
    fun _ => ⟨.new 4 true default, 0, ∅⟩

end WsViewers

end SignalingServer
