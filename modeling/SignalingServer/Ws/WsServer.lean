import SignalingServer.Media.MediaMng

/-!
Streams over websocket (ws.cpp). A message names a child by its GB id. Live view
looks for the stream under the child's database id before it opens one under the
GB id; playback opens a stream for the child's database id.
-/

namespace SignalingServer

/-- `WsStreamInfo`, as far as streams are concerned. -/
structure WsStreamInfo where
  isLive : Int
  ms : Option MediaStream
  deriving DecidableEq, Repr

/-- The `params` of a `Preview` message. -/
structure PreviewParams where
  deviceId : String
  streamType : Int
  deriving DecidableEq, Repr

/-- The `params` of a `Playback` message. -/
structure PlaybackParams where
  deviceId : String
  starttime : Int
  endtime : Int
  deriving DecidableEq, Repr

namespace WsServer

/-- What an action answers and attaches to the connection. -/
structure ActionResult where
  media : ServerState
  errcode : Int
  ms : Option MediaStream

/-- `WsServer::RealTimePlayAction`. -/
def realTimePlayAction (w : ServerState) (env : Env) (params : Option PreviewParams) :
    ActionResult :=
  match params with
  | none => ⟨w, 6, none⟩
  | some p =>
      match w.children.findChildDeviceByGBID p.deviceId with
      | none => ⟨w, 3, none⟩
      | some child =>
          match w.findStream (ServerState.liveStreamId child.deviceId p.streamType) with
          | some s => ⟨w, 0, some s⟩
          | none =>
              let r := w.createLiveStream env p.deviceId p.streamType
              ⟨r.1, if r.2.isSome then 0 else -2, r.2⟩

/-- `WsServer::PlayBackAction`. -/
def playBackAction (w : ServerState) (env : Env) (params : Option PlaybackParams) :
    ActionResult :=
  match params with
  | none => ⟨w, 0, none⟩
  | some p =>
      match w.children.findChildDeviceByGBID p.deviceId with
      | none => ⟨w, 3, none⟩
      | some child =>
          let r := w.createVodStream env child.deviceId p.starttime p.endtime
          ⟨r.1, if r.2.isSome then 0 else -2, r.2⟩

end WsServer

end SignalingServer
