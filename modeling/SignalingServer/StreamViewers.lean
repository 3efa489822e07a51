import SignalingServer.Lib.Lts
import SignalingServer.Lib.Table
import SignalingServer.Media.StreamMap
import SignalingServer.UserAgent.UaClientCall
import SignalingServer.Ws.WsServer

/-!
The viewers of streams over runs of requests and closes. A viewer is a SIP call
with a source or a websocket connection with a stream. Streams are registered
under the GB id of the request; the close path and the websocket look-up ask for
the child's database id. Both agree as long as streams are only opened for
children that are stored under their GB id.
-/

namespace SignalingServer

/-- The process, as far as streams have viewers: SIP calls, websocket
connections, and the streams of `WsStreamInfo` objects that a later message on
their connection has replaced. `previews` is history: the live streams whose
preview was opened and not stopped since. -/
structure StreamViewers where
  mgr : UaMgr
  calls : Table Nat UaClientCall
  m_connections : Table Nat WsStreamInfo
  lostInfos : List MediaStream
  previews : List MediaStream

/-- A live call or connection. -/
inductive Viewer where
  | call (id : Nat)
  | connection (hdl : Nat)
  deriving DecidableEq, Repr

inductive ViewerEvent where
  | newCall (id : Nat)
  | offer (id : Nat) (o : InviteOffer)
  | preview (hdl : Nat) (params : Option PreviewParams)
  | playback (hdl : Nat) (params : Option PlaybackParams)
  | close (v : Viewer)
  | removeChild (deviceId : String)

namespace StreamViewers

abbrev media (s : StreamViewers) : ServerState := s.mgr.media

/-- The stream that a viewer holds. -/
def stream (s : StreamViewers) : Viewer → Option MediaStream
  | .call id => (s.calls.lookup id).bind (·.psSource)
  | .connection hdl => (s.m_connections.lookup hdl).bind (·.ms)

/-- The pointers of calls and connections to a stream. -/
def viewers (s : StreamViewers) (ms : MediaStream) : Nat :=
  (Table.gather (·.psSource) s.calls).count ms + (Table.gather (·.ms) s.m_connections).count ms

def without (s : StreamViewers) : Viewer → StreamViewers
  | .call id => { s with calls := s.calls.erase id }
  | .connection hdl => { s with m_connections := s.m_connections.erase hdl }

@[simp] theorem without_mgr (s : StreamViewers) (v : Viewer) : (s.without v).mgr = s.mgr := by
  cases v <;> rfl

@[simp] theorem without_lostInfos (s : StreamViewers) (v : Viewer) :
    (s.without v).lostInfos = s.lostInfos := by
  cases v <;> rfl

@[simp] theorem without_previews (s : StreamViewers) (v : Viewer) :
    (s.without v).previews = s.previews := by
  cases v <;> rfl

@[simp] theorem without_media (s : StreamViewers) (v : Viewer) :
    (s.without v).media = s.media := by
  rw [media, without_mgr, media]

/-- The destruction of a call, with the stop operation that it leads to. -/
def hangUp (s : StreamViewers) (env : Env) (id : Nat) :
    Option (StreamViewers × Option ServerState.StopCall) :=
  (s.calls.lookup id).bind fun call =>
    let s' := s.without (.call id)
    (call.destroy s.mgr env fun ms => s'.viewers ms + s.lostInfos.count ms).map fun r =>
      ({ s' with mgr := r.1 }, r.2)

/-- `WsServer::on_close`, with the stop operation that it leads to. -/
def onClose (s : StreamViewers) (env : Env) (hdl : Nat) :
    Option (StreamViewers × Option ServerState.StopCall) :=
  (s.m_connections.lookup hdl).map fun sinfo =>
    let s' := s.without (.connection hdl)
    match sinfo.ms with
    | none => (s', none)
    | some ms =>
        let held := fun st => s'.viewers st + s.lostInfos.count st +
          s.mgr.lostSources.count st + if st = ms then 1 else 0
        let r := s.media.closeStreamByStreamId env held ms
        ({ s' with mgr := { s.mgr with media := r.1 } }, r.2)

def close (s : StreamViewers) (env : Env) : Viewer → Option (StreamViewers × Option ServerState.StopCall)
  | .call id => s.hangUp env id
  | .connection hdl => s.onClose env hdl

/-- The open previews after a request that leaves the streams `w`. -/
def opened (s : StreamViewers) (w : ServerState) : List MediaStream :=
  ServerState.newPreviews s.media w ++ s.previews

/-- A stop operation that succeeds ends a preview. -/
def afterStop (s : StreamViewers) (stop : Option ServerState.StopCall) : StreamViewers :=
  { s with previews := s.previews.filter fun ms => stop.all fun c => c.err ≠ 0 ∨ c.stream ≠ ms }

/-- An offer reaches its call. -/
def answer (s : StreamViewers) (env : Env) (id : Nat) (o : InviteOffer) (call : UaClientCall) :
    StreamViewers where
  mgr := (call.onOffer s.mgr env o).mgr
  calls := s.calls.insert id (call.onOffer s.mgr env o).call
  m_connections := s.m_connections
  lostInfos := s.lostInfos
  previews := s.opened (call.onOffer s.mgr env o).mgr.media

/-- A websocket message makes a new `WsStreamInfo` for its connection. -/
def connect (s : StreamViewers) (hdl : Nat) (isLive : Int) (r : WsServer.ActionResult) :
    StreamViewers where
  mgr := { s.mgr with media := r.media }
  calls := s.calls
  m_connections := s.m_connections.insert hdl ⟨isLive, r.ms⟩
  lostInfos := (s.stream (.connection hdl)).toList ++ s.lostInfos
  previews := s.opened r.media

def step (env : Env) : Lts.Step StreamViewers ViewerEvent
  | s, .newCall id =>
      if s.calls.lookup id = none then some { s with calls := s.calls.insert id {} } else none
  | s, .offer id o => (s.calls.lookup id).map fun call => s.answer env id o call
  | s, .preview hdl params =>
      some (s.connect hdl 0 (WsServer.realTimePlayAction s.media env params))
  | s, .playback hdl params =>
      some (s.connect hdl 1 (WsServer.playBackAction s.media env params))
  | s, .close v => (s.close env v).map fun r => r.1.afterStop r.2
  | s, .removeChild deviceId =>
      (s.media.children.findChildDevice deviceId).map fun _ =>
        { s with
          mgr := { s.mgr with
            media := { s.media with children := s.media.children.removeChildDevice deviceId } } }

/-- No viewer and no stream. -/
def start (w : ServerState) (rtp : RTPPortManager) : StreamViewers :=
  ⟨⟨{ w with mStreamMap := ∅ }, rtp, []⟩, ∅, ∅, [], []⟩

/-- `v` is the only viewer of the stream. -/
def LastViewer (s : StreamViewers) (v : Viewer) (ms : MediaStream) : Prop :=
  s.stream v = some ms ∧ ∀ v', s.stream v' = some ms → v' = v

/-- The bookkeeping that the front ends rely on. -/
structure Complete (env : Env) (s : StreamViewers) : Prop where
  /-- A live stream is found again by the next request for its child and stream
  number: a websocket connection gets it, and neither front end asks the NVR. -/
  found : ∀ gbId child streamNo ms,
    s.media.children.findChildDeviceByGBID gbId = some child →
    s.media.findStream (ServerState.liveStreamId gbId streamNo) = some ms →
    ms.deviceId = gbId → ms.streamType = 0 →
    WsServer.realTimePlayAction s.media env (some ⟨gbId, streamNo⟩) = ⟨s.media, 0, some ms⟩ ∧
      (streamNo = 0 → ∀ (call : UaClientCall) o groups, o.sdp.name = "Play" →
        subjectArray o.subject = gbId :: groups →
        (call.onOffer s.mgr env o).mgr.media = s.media)
  /-- At most one preview is open per child and stream number. -/
  single : ∀ gbId streamNo,
    s.previews.countP (fun ms => ms.streamId = ServerState.liveStreamId gbId streamNo) ≤ 1
  /-- When its last viewer closes, the stream of a child in the table is stopped. -/
  stopped : ∀ v ms id child, s.LastViewer v ms →
    s.media.children.findChildDevice id = some child → child.mGBID = ms.deviceId →
    ∀ r, s.close env v = some r → ∃ call, r.2 = some call ∧ call.stream = ms ∧
      child.mParentDev = some call.nvr ∧ ServerState.stopOp ms = some call.op

end StreamViewers

/-! ### What an offer may do -/

/-- `Init` returns a code other than 0, and the call gets a source. -/
def TransportInit.opens : TransportInit → Bool
  | .returned code => code ≠ 0
  | .thrown => false

namespace UaClientCall

/-- The GB id and the stream id of the stream that an offer opens, if it opens one. -/
def offerOpens (mgr : UaMgr) (env : Env) (call : UaClientCall) (o : InviteOffer) :
    Option (String × String) :=
  if o.staleFork || o.clientTransaction then none
  else
    match subjectArray o.subject with
    | channel :: _ :: _ :: _ :: _ =>
        let key := ServerState.liveStreamId channel 0
        let c := (call.parseOffer o).playbackCall o channel
        if o.sdp.name = "Play" then
          if (mgr.media.findStream key).isNone && mgr.media.opensLive env channel 0 then
            some (channel, key)
          else none
        else if o.sdp.name = "Playback" then
          if mgr.media.opensVod env c.channelId c.startTime c.stopTime then
            some (c.channelId, ServerState.createStreamId env c.channelId c.startTime c.stopTime)
          else none
        else if o.sdp.name = "Download" then
          if mgr.media.opensLive env call.channelId 0 then
            some (call.channelId, ServerState.liveStreamId call.channelId 0)
          else none
        else none
    | _ => none

/-- An offer replaces the source, the port or the stream id of the call: any
`Play`, except one for the call's own stream that finds a free port but no
transport, and any `Playback` that the NVR opens. -/
def offerDisturbs (mgr : UaMgr) (env : Env) (call : UaClientCall) (o : InviteOffer) : Bool :=
  !(o.staleFork || o.clientTransaction) &&
    match subjectArray o.subject with
    | channel :: _ :: _ :: _ :: _ =>
        let c := (call.parseOffer o).playbackCall o channel
        if o.sdp.name = "Play" then
          !(ServerState.liveStreamId channel 0 = call.streamId && !o.transport.opens &&
            mgr.mRtpPortMngr.allocateRTPPort.1 % 2 ^ 16 ≠ 0)
        else if o.sdp.name = "Playback" then
          mgr.media.opensVod env c.channelId c.startTime c.stopTime
        else false
    | _ => false

/-- What is left of the streams and of the call after an offer: all watched
streams are registered, and the call's source is the stream that it will close. -/
structure Sound (watched : MediaStream → Prop) (mgr : UaMgr) (call : UaClientCall)
    (r : OfferResult) : Prop where
  registered : r.mgr.media.Registered
  kept : ∀ ms, watched ms → r.mgr.media.findStream ms.streamId = some ms
  lost : r.mgr.lostSources = mgr.lostSources
  uac : r.call.uacConnected = call.uacConnected
  source : ∀ ms, r.call.psSource = some ms → r.call.streamId = ms.streamId ∧
    0 < r.call.myRtpPort ∧ r.mgr.media.findStream ms.streamId = some ms

theorem answerOnPort_media (mgr : UaMgr) (call : UaClientCall) (o : InviteOffer)
    (stream : Option MediaStream) :
    (answerOnPort mgr call o stream).mgr.media = mgr.media ∧
      (answerOnPort mgr call o stream).call.streamId = call.streamId ∧
      (answerOnPort mgr call o stream).call.uacConnected = call.uacConnected := by
  unfold answerOnPort
  dsimp only
  split
  · exact ⟨rfl, rfl, rfl⟩
  · split
    · exact ⟨rfl, rfl, rfl⟩
    · split
      · exact ⟨rfl, rfl, rfl⟩
      · exact ⟨rfl, rfl, rfl⟩

/-- The source of the call stays, or becomes the stream on an open transport. -/
theorem answerOnPort_source (mgr : UaMgr) (call : UaClientCall) (o : InviteOffer)
    (stream : Option MediaStream) :
    ((answerOnPort mgr call o stream).call.psSource = call.psSource ∧
        (answerOnPort mgr call o stream).mgr.lostSources = mgr.lostSources ∧
        (mgr.mRtpPortMngr.allocateRTPPort.1 % 2 ^ 16 ≠ 0 →
          0 < (answerOnPort mgr call o stream).call.myRtpPort)) ∨
      ∃ ms, stream = some ms ∧ o.transport.opens = true ∧
        (answerOnPort mgr call o stream).call.psSource = some ms ∧
        (answerOnPort mgr call o stream).mgr.lostSources =
          call.psSource.toList ++ mgr.lostSources ∧
        0 < (answerOnPort mgr call o stream).call.myRtpPort := by
  unfold answerOnPort
  dsimp only
  split
  · rename_i hzero
    exact .inl ⟨rfl, rfl, fun hport => absurd hzero hport⟩
  · rename_i hport
    split
    · exact .inl ⟨rfl, rfl, Nat.pos_of_ne_zero⟩
    · rename_i code htransport
      split
      · exact .inl ⟨rfl, rfl, Nat.pos_of_ne_zero⟩
      · rename_i ms hms
        split at hms
        · rename_i hcode
          refine .inr ⟨ms, hms, ?_, rfl, rfl, Nat.pos_of_ne_zero hport⟩
          simp [TransportInit.opens, htransport, hcode]
        · cases hms

theorem Sound.of_same {watched : MediaStream → Prop} {mgr mgr' : UaMgr}
    {call call' : UaClientCall} {r : OfferResult} (h : Sound watched mgr' call' r)
    (hlost : mgr'.lostSources = mgr.lostSources)
    (huac : call'.uacConnected = call.uacConnected) : Sound watched mgr call r :=
  ⟨h.registered, h.kept, h.lost.trans hlost, h.uac.trans huac, h.source⟩

theorem answerOnPort_sound {watched : MediaStream → Prop} (mgr : UaMgr) (call : UaClientCall)
    (o : InviteOffer) (stream : Option MediaStream) (hreg : mgr.media.Registered)
    (hkept : ∀ ms, watched ms → mgr.media.findStream ms.streamId = some ms)
    (hstream : ∀ ms, stream = some ms →
      call.streamId = ms.streamId ∧ mgr.media.findStream ms.streamId = some ms)
    (hsource : ∀ ms, call.psSource = some ms → call.streamId = ms.streamId ∧
      mgr.media.findStream ms.streamId = some ms ∧ o.transport.opens = false ∧
      mgr.mRtpPortMngr.allocateRTPPort.1 % 2 ^ 16 ≠ 0) :
    Sound watched mgr call (answerOnPort mgr call o stream) := by
  obtain ⟨hmedia, hid, huac⟩ := answerOnPort_media mgr call o stream
  rcases answerOnPort_source mgr call o stream with
    ⟨hsame, hlost, hport⟩ | ⟨st, hst, hopens, hnew, hlost, hport⟩
  · refine ⟨hmedia ▸ hreg, fun ms hms => ?_, hlost, huac, fun ms hms => ?_⟩
    · rw [hmedia]
      exact hkept ms hms
    · rw [hsame] at hms
      obtain ⟨hown, hfind, -, hfree⟩ := hsource ms hms
      rw [hid, hmedia]
      exact ⟨hown, hport hfree, hfind⟩
  · have hnone : call.psSource = none := by
      cases hps : call.psSource with
      | none => rfl
      | some ms =>
          obtain ⟨-, -, hclosed, -⟩ := hsource ms hps
          rw [hopens] at hclosed
          cases hclosed
    refine ⟨hmedia ▸ hreg, fun ms hms => ?_, by simpa [hnone] using hlost, huac, fun ms hms => ?_⟩
    · rw [hmedia]
      exact hkept ms hms
    · rw [hnew] at hms
      cases hms
      obtain ⟨hown, hfind⟩ := hstream st hst
      rw [hid, hmedia]
      exact ⟨hown, hport, hfind⟩

/-- After a request for a stream: what is watched is still registered, unless the
request has replaced it. -/
theorem kept_of_grown {watched : MediaStream → Prop} {w : ServerState} {key : String}
    {r : ServerState × Option MediaStream} (hgrown : ServerState.Grown w key r)
    (hwatched : ∀ ms, watched ms → w.findStream ms.streamId = some ms)
    (hfree : r.2.isSome → ∀ ms, w.findStream key = some ms → ¬ watched ms) :
    ∀ ms, watched ms → r.1.findStream ms.streamId = some ms := by
  intro ms hms
  apply hgrown.kept ms (hwatched ms hms)
  intro hmade hkey
  have hfind := hwatched ms hms
  rw [hkey] at hfind
  exact hfree hmade ms hfind hms

section

variable {watched : MediaStream → Prop} {mgr : UaMgr} {env : Env} {call : UaClientCall}
  {o : InviteOffer}

/-- A rejected or unanswered offer leaves the call's source and stream id alone. -/
theorem sound_unchanged {r : OfferResult} (hreg : r.mgr.media.Registered)
    (hkept : ∀ ms, watched ms → r.mgr.media.findStream ms.streamId = some ms)
    (hlost : r.mgr.lostSources = mgr.lostSources)
    (huac : r.call.uacConnected = call.uacConnected)
    (hcall : ∀ ms, r.call.psSource = some ms → watched ms ∧ r.call.streamId = ms.streamId ∧
      0 < r.call.myRtpPort) : Sound watched mgr call r := by
  refine ⟨hreg, hkept, hlost, huac, fun ms hms => ?_⟩
  obtain ⟨hwatched, hid, hport⟩ := hcall ms hms
  exact ⟨hid, hport, hkept ms hwatched⟩

variable (hreg : mgr.media.Registered)
  (hwatched : ∀ ms, watched ms → mgr.media.findStream ms.streamId = some ms)
  (hcall : ∀ ms, call.psSource = some ms → watched ms ∧ call.streamId = ms.streamId ∧
    0 < call.myRtpPort)

include hreg hwatched hcall

theorem playOffer_sound {channel remote : String}
    (hopens : (mgr.media.findStream (ServerState.liveStreamId channel 0)).isNone →
      (mgr.media.createLiveStream env channel 0).2.isSome → mgr.media.Addressable channel)
    (hkeeps : call.psSource ≠ none → ServerState.liveStreamId channel 0 = call.streamId ∧
      o.transport.opens = false ∧ mgr.mRtpPortMngr.allocateRTPPort.1 % 2 ^ 16 ≠ 0) :
    Sound watched mgr call (call.playOffer mgr env o channel remote) := by
  unfold playOffer
  cases hfind : mgr.media.findStream (ServerState.liveStreamId channel 0) with
  | some mdaStream =>
      have hkey := hreg.keyed _ _ hfind
      simp only [hfind]
      -- the stream is there already, and the call keeps the source it may have
      refine (answerOnPort_sound mgr _ o (some mdaStream) hreg hwatched (fun ms hms => ?_)
        (fun ms hms => ?_)).of_same rfl rfl
      · cases hms
        exact ⟨hkey.symm, by rw [hkey]; exact hfind⟩
      · have hms : call.psSource = some ms := hms
        obtain ⟨hw, hid, -⟩ := hcall ms hms
        obtain ⟨hsame, hclosed, hport⟩ := hkeeps (by simp [hms])
        exact ⟨hsame.trans hid, hwatched ms hw, hclosed, hport⟩
  | none =>
      -- a call with a source asks for its own stream, which is registered
      have hnone : call.psSource = none := by
        cases hps : call.psSource with
        | none => rfl
        | some ms =>
            obtain ⟨hw, hid, -⟩ := hcall ms hps
            obtain ⟨hsame, -, -⟩ := hkeeps (by simp [hps])
            have hms := hwatched ms hw
            rw [← hid, ← hsame, hfind] at hms
            cases hms
      have hgrown := ServerState.grown_createLiveStream hreg env channel 0
        (hopens (by simp [hfind]))
      have hkept := kept_of_grown hgrown hwatched (by simp [hfind])
      simp only [hfind]
      split
      · refine (answerOnPort_sound { mgr with media := _ } _ o _ hgrown.registered hkept
          (fun ms hms => ?_) (by simp [hnone])).of_same rfl rfl
        have hkey := hgrown.registered.keyed _ _ hms
        exact ⟨hkey.symm, by rw [hkey]; exact hms⟩
      · exact sound_unchanged hgrown.registered hkept rfl rfl (by simp [rejectOffer, hnone])

theorem playbackOffer_sound {channel : String}
    (hopens : (mgr.media.createVodStream env (call.playbackCall o channel).channelId
        (call.playbackCall o channel).startTime (call.playbackCall o channel).stopTime).2.isSome →
      mgr.media.Addressable (call.playbackCall o channel).channelId ∧
        call.psSource = none ∧ ∀ ms, mgr.media.findStream
          (ServerState.createStreamId env (call.playbackCall o channel).channelId
            (call.playbackCall o channel).startTime (call.playbackCall o channel).stopTime) =
              some ms → ¬ watched ms) :
    Sound watched mgr call (call.playbackOffer mgr env o channel) := by
  -- the parsed times go into fields that no clause reads
  have hsame : (call.playbackCall o channel).psSource = call.psSource ∧
      (call.playbackCall o channel).streamId = call.streamId ∧
      (call.playbackCall o channel).myRtpPort = call.myRtpPort ∧
      (call.playbackCall o channel).uacConnected = call.uacConnected := by
    obtain ⟨channelId, startTime, stopTime, hcall'⟩ := call.playbackCall_eq o channel
    rw [hcall']
    exact ⟨rfl, rfl, rfl, rfl⟩
  obtain ⟨hps, hid, hport, huac⟩ := hsame
  have hgrown := ServerState.grown_createVodStream hreg env
    (call.playbackCall o channel).channelId (call.playbackCall o channel).startTime
    (call.playbackCall o channel).stopTime fun hmade => (hopens hmade).1
  have hkept := kept_of_grown hgrown hwatched fun hmade => (hopens hmade).2.2
  unfold playbackOffer
  dsimp only
  split
  · rename_i hmade
    obtain ⟨-, hnone, -⟩ := hopens hmade
    refine (answerOnPort_sound { mgr with media := _ } _ o _ hgrown.registered hkept
      (fun ms hms => ?_) (by simp [hps, hnone])).of_same rfl huac
    have hkey := hgrown.registered.keyed _ _ hms
    exact ⟨hkey.symm, by rw [hkey]; exact hms⟩
  · refine sound_unchanged hgrown.registered hkept rfl huac fun ms hms => ?_
    simp only [rejectOffer, hps] at hms ⊢
    rw [hid, hport]
    exact hcall ms hms

theorem downloadOffer_sound
    (hopens : (mgr.media.createLiveStream env call.channelId 0).2.isSome →
      mgr.media.Addressable call.channelId ∧ ∀ ms, mgr.media.findStream
        (ServerState.liveStreamId call.channelId 0) = some ms → ¬ watched ms) :
    Sound watched mgr call (call.downloadOffer mgr env) := by
  have hgrown := ServerState.grown_createLiveStream hreg env call.channelId 0
    fun hmade => (hopens hmade).1
  have hkept := kept_of_grown hgrown hwatched fun hmade => (hopens hmade).2
  unfold downloadOffer
  dsimp only
  split
  · exact sound_unchanged hgrown.registered hkept rfl rfl hcall
  · exact sound_unchanged hgrown.registered hkept rfl rfl hcall

theorem onOffer_sound
    (hopens : ∀ gbId key, call.offerOpens mgr env o = some (gbId, key) →
      mgr.media.Addressable gbId ∧ ∀ ms, mgr.media.findStream key = some ms → ¬ watched ms)
    (hkeeps : call.psSource ≠ none → call.offerDisturbs mgr env o = false) :
    Sound watched mgr call (call.onOffer mgr env o) := by
  have hunchanged {r : OfferResult} (hmgr : r.mgr = mgr)
      (hps : r.call.psSource = call.psSource) (hid : r.call.streamId = call.streamId)
      (hport : r.call.myRtpPort = call.myRtpPort)
      (huac : r.call.uacConnected = call.uacConnected) : Sound watched mgr call r := by
    refine sound_unchanged (hmgr ▸ hreg) (hmgr ▸ hwatched) (by rw [hmgr]) huac fun ms hms => ?_
    rw [hps] at hms
    rw [hid, hport]
    exact hcall ms hms
  unfold onOffer
  unfold offerOpens at hopens
  unfold offerDisturbs at hkeeps
  by_cases hstale : o.staleFork = true
  · simp only [hstale]
    exact hunchanged rfl rfl rfl rfl rfl
  by_cases hclient : o.clientTransaction = true
  · simp only [hstale, hclient]
    exact hunchanged rfl rfl rfl rfl rfl
  simp only [hstale, hclient, receiveInviteOffRequest, ← ServerState.isSome_createLiveStream,
    ← ServerState.isSome_createVodStream] at hopens hkeeps ⊢
  generalize subjectArray o.subject = groups at hopens hkeeps ⊢
  -- the subject must have exactly three groups
  rcases groups with _ | ⟨channel, _ | ⟨_, _ | ⟨remote, _ | ⟨_, _⟩⟩⟩⟩
  · exact hunchanged rfl rfl rfl rfl rfl
  · exact hunchanged rfl rfl rfl rfl rfl
  · exact hunchanged rfl rfl rfl rfl rfl
  · exact hunchanged rfl rfl rfl rfl rfl
  by_cases hplay : o.sdp.name = "Play"
  · simp only [hplay] at hopens hkeeps ⊢
    refine ((call.parseOffer o).playOffer_sound hreg hwatched hcall (fun hnone hmade => ?_)
      (fun hps => ?_)).of_same rfl rfl
    · exact (hopens channel (ServerState.liveStreamId channel 0) (by simp [hnone, hmade])).1
    · simpa [parseOffer, and_assoc] using hkeeps hps
  by_cases hplayback : o.sdp.name = "Playback"
  · simp only [hplayback] at hopens hkeeps ⊢
    refine ((call.parseOffer o).playbackOffer_sound hreg hwatched hcall fun hmade => ?_).of_same
      rfl rfl
    have hopened := hopens _ _ (by simp only [hmade]; rfl)
    obtain ⟨haddr, hfree⟩ := hopened
    refine ⟨haddr, ?_, hfree⟩
    by_contra hps
    have hkept := hkeeps hps
    simp [hmade] at hkept
  by_cases hdownload : o.sdp.name = "Download"
  · simp only [hdownload] at hopens ⊢
    refine ((call.parseOffer o).downloadOffer_sound hreg hwatched hcall fun hmade => ?_).of_same
      rfl rfl
    have hmade : (mgr.media.createLiveStream env call.channelId 0).2.isSome = true := hmade
    exact hopens call.channelId _ (by simp only [hmade]; rfl)
  · simp only [hplay, hplayback, hdownload]
    exact hunchanged rfl rfl rfl rfl rfl

end

end UaClientCall

namespace StreamViewers

/-! ### The condition on requests -/

/-- The stream has a viewer, or its preview is open. -/
def InUse (s : StreamViewers) (ms : MediaStream) : Prop :=
  ms ∈ s.previews ∨ ∃ v, s.stream v = some ms

/-- A stream is opened for a GB id that its child is stored under, and takes the
place of no stream that is in use. -/
def OpensWell (s : StreamViewers) (gbId key : String) : Prop :=
  s.media.Addressable gbId ∧ ∀ ms, s.media.findStream key = some ms → ¬ s.InUse ms

/-- The condition on an event: the streams it opens are opened well, an offer
disturbs no call that has a source, and a websocket message comes on a
connection without a stream. -/
def Safe (env : Env) (s : StreamViewers) : ViewerEvent → Prop
  | .offer id o => ∀ call, s.calls.lookup id = some call →
      (∀ gbId key, call.offerOpens s.mgr env o = some (gbId, key) → s.OpensWell gbId key) ∧
        (call.psSource ≠ none → call.offerDisturbs s.mgr env o = false)
  | .preview hdl params => s.stream (.connection hdl) = none ∧ ∀ p child, params = some p →
      s.media.children.findChildDeviceByGBID p.deviceId = some child →
      s.media.findStream (ServerState.liveStreamId child.deviceId p.streamType) = none →
      s.media.opensLive env p.deviceId p.streamType →
      s.OpensWell p.deviceId (ServerState.liveStreamId p.deviceId p.streamType)
  | .playback hdl params => s.stream (.connection hdl) = none ∧ ∀ p child, params = some p →
      s.media.children.findChildDeviceByGBID p.deviceId = some child →
      s.media.opensVod env child.deviceId p.starttime p.endtime →
      s.OpensWell child.deviceId
        (ServerState.createStreamId env child.deviceId p.starttime p.endtime)
  | _ => True

/-! ### The invariant -/

/-- Every stream in use is registered, a call's source is the stream that the
call will close, and no pointer is lost. -/
structure Inv (s : StreamViewers) : Prop where
  registered : s.media.Registered
  used : ∀ ms, s.InUse ms → s.media.findStream ms.streamId = some ms
  previews : s.previews.Nodup
  sources : ∀ id call, s.calls.lookup id = some call → call.uacConnected = false ∧
    ∀ ms, call.psSource = some ms → call.streamId = ms.streamId ∧ 0 < call.myRtpPort
  lostSources : s.mgr.lostSources = []
  lostInfos : s.lostInfos = []

theorem stream_without (s : StreamViewers) (v v' : Viewer) :
    (s.without v).stream v' = if v' = v then none else s.stream v' := by
  cases v with
  | call id =>
      cases v' with
      | call id' =>
          by_cases h : id' = id
          · simp [without, stream, Table.lookup_erase, h]
          · simp [without, stream, h]
      | connection hdl => simp [without, stream]
  | connection hdl =>
      cases v' with
      | call id => simp [without, stream]
      | connection hdl' =>
          by_cases h : hdl' = hdl
          · simp [without, stream, Table.lookup_erase, h]
          · simp [without, stream, h]

theorem viewers_pos_iff (s : StreamViewers) (ms : MediaStream) :
    0 < s.viewers ms ↔ ∃ v, s.stream v = some ms := by
  have hsum : 0 < s.viewers ms ↔ 0 < (Table.gather (·.psSource) s.calls).count ms ∨
      0 < (Table.gather (·.ms) s.m_connections).count ms := by
    unfold viewers
    omega
  rw [hsum, List.count_pos_iff, List.count_pos_iff, Table.mem_gather_iff, Table.mem_gather_iff]
  constructor
  · rintro (⟨id, call, hcall, hms⟩ | ⟨hdl, sinfo, hinfo, hms⟩)
    · exact ⟨.call id, by simp [stream, hcall, hms]⟩
    · exact ⟨.connection hdl, by simp [stream, hinfo, hms]⟩
  · rintro ⟨v, hv⟩
    cases v with
    | call id =>
        obtain ⟨call, hcall, hms⟩ := Option.bind_eq_some_iff.mp hv
        exact .inl ⟨id, call, hcall, hms⟩
    | connection hdl =>
        obtain ⟨sinfo, hinfo, hms⟩ := Option.bind_eq_some_iff.mp hv
        exact .inr ⟨hdl, sinfo, hinfo, hms⟩

/-- A last viewer leaves no other pointer behind. -/
theorem LastViewer.viewers_without {s : StreamViewers} {v : Viewer} {ms : MediaStream}
    (h : s.LastViewer v ms) : (s.without v).viewers ms = 0 := by
  apply Nat.eq_zero_of_not_pos
  rw [viewers_pos_iff]
  rintro ⟨v', hv'⟩
  rw [stream_without] at hv'
  split at hv'
  · cases hv'
  · rename_i hne
    exact hne (h.2 v' hv')

theorem Inv.without {s : StreamViewers} (h : s.Inv) (v : Viewer) : (s.without v).Inv := by
  refine ⟨?_, fun ms hms => ?_, ?_, fun id call hcall => ?_, ?_, ?_⟩
  · rw [without_media]
    exact h.registered
  · rw [without_media]
    apply h.used
    rcases hms with hopen | ⟨v', hv'⟩
    · rw [without_previews] at hopen
      exact .inl hopen
    · rw [stream_without] at hv'
      split at hv'
      · cases hv'
      · exact .inr ⟨v', hv'⟩
  · rw [without_previews]
    exact h.previews
  · apply h.sources id call
    cases v with
    | call id' =>
        simp only [StreamViewers.without, Table.lookup_erase] at hcall
        split at hcall
        · cases hcall
        · exact hcall
    | connection hdl => exact hcall
  · rw [without_mgr]
    exact h.lostSources
  · rw [without_lostInfos]
    exact h.lostInfos

/-- Nothing but the streams and the history of previews has changed. -/
theorem Inv.of_media {s : StreamViewers} (h : s.Inv) {mgr : UaMgr} {previews : List MediaStream}
    (hreg : mgr.media.Registered) (hnodup : previews.Nodup)
    (hopen : ∀ ms ∈ previews, mgr.media.findStream ms.streamId = some ms)
    (hheld : ∀ v ms, s.stream v = some ms → mgr.media.findStream ms.streamId = some ms)
    (hlost : mgr.lostSources = []) : Inv { s with mgr := mgr, previews := previews } := by
  refine ⟨hreg, fun ms hms => ?_, hnodup, h.sources, hlost, h.lostInfos⟩
  rcases hms with hms | ⟨v, hv⟩
  · exact hopen ms hms
  · apply hheld v ms
    cases v with
    | call id => exact hv
    | connection hdl => exact hv

/-- A request that keeps the streams in use registered keeps the history in order. -/
theorem Inv.opened {s : StreamViewers} (h : s.Inv) {w : ServerState} (hreg : w.Registered)
    (hkept : ∀ ms, s.InUse ms → w.findStream ms.streamId = some ms) :
    (s.opened w).Nodup ∧ ∀ ms ∈ s.opened w, w.findStream ms.streamId = some ms := by
  constructor
  · refine List.nodup_append'.mpr ⟨hreg.nodup_newPreviews, h.previews, ?_⟩
    intro ms hnew hold
    exact (hreg.mem_newPreviews hnew).2 (h.used ms (.inl hold))
  · intro ms hms
    rcases List.mem_append.mp hms with hnew | hold
    · exact (hreg.mem_newPreviews hnew).1
    · exact hkept ms (.inl hold)

theorem mem_afterStop {s : StreamViewers} {stop : Option ServerState.StopCall}
    {ms : MediaStream} (hms : ms ∈ (s.afterStop stop).previews) :
    ms ∈ s.previews ∧ ∀ c, stop = some c → c.stream = ms → c.err ≠ 0 := by
  obtain ⟨hmem, hall⟩ := List.mem_filter.mp hms
  refine ⟨hmem, fun c hc hstream => ?_⟩
  subst hc
  simpa [hstream] using hall

/-- A close that changes nothing but the viewer and asks nothing of the NVR. -/
theorem Inv.left {s : StreamViewers} (h : s.Inv) (v : Viewer) {mgr : UaMgr}
    (hmedia : mgr.media = s.media) (hlost : mgr.lostSources = []) :
    (afterStop { s.without v with mgr := mgr } none).Inv := by
  have hwithout := h.without v
  have hfind (id : String) : mgr.media.findStream id = (s.without v).media.findStream id := by
    rw [hmedia, without_media]
  apply hwithout.of_media (hmedia ▸ h.registered) (hwithout.previews.filter _)
  · intro ms hms
    rw [hfind]
    exact hwithout.used ms (.inl (List.mem_of_mem_filter hms))
  · intro v' ms hms
    rw [hfind]
    exact hwithout.used ms (.inr ⟨v', hms⟩)
  · exact hlost

/-- A viewer closes a registered stream: the streams of the others stay
registered, and the stream itself unless it was stopped. -/
theorem Inv.closed {s : StreamViewers} (h : s.Inv) {v : Viewer} {env : Env}
    {held : MediaStream → Nat} {ms : MediaStream}
    (hms : s.media.findStream ms.streamId = some ms)
    (hheld : held ms = (s.without v).viewers ms + 1) {mgr : UaMgr}
    {stop : Option ServerState.StopCall}
    (hmedia : mgr.media = (s.media.closeStreamByStreamId env held ms).1)
    (hstop : stop = (s.media.closeStreamByStreamId env held ms).2)
    (hlost : mgr.lostSources = []) :
    (afterStop { s.without v with mgr := mgr } stop).Inv := by
  have hwithout := h.without v
  apply hwithout.of_media _ (hwithout.previews.filter _) _ _ hlost
  · rw [hmedia]
    exact (ServerState.shrunk_close _ _ _ _).registered h.registered
  · intro st hst
    obtain ⟨hopen, hunstopped⟩ := mem_afterStop hst
    have hfind := hwithout.used st (.inl hopen)
    rw [without_media] at hfind
    rw [hmedia]
    by_cases hsame : st = ms
    · subst hsame
      rw [ServerState.close_keeps (h.registered.owned _ _ hms).1]
      · exact hfind
      · intro c hc hstream
        exact hunstopped c (hstop.trans hc) hstream
    · exact ServerState.findStream_close hms hfind fun heq => absurd heq hsame
  · intro v' st hst
    have hfind := hwithout.used st (.inr ⟨v', hst⟩)
    rw [without_media] at hfind
    rw [hmedia]
    apply ServerState.findStream_close hms hfind
    rintro rfl
    have hpos := (viewers_pos_iff _ _).mpr ⟨v', hst⟩
    omega

/-- A call is added, or replaced by what a sound step has left of it. -/
theorem Inv.insertCall {s : StreamViewers} (h : s.Inv) {mgr : UaMgr} {id : Nat}
    {call : UaClientCall} {previews : List MediaStream} (hreg : mgr.media.Registered)
    (hnodup : previews.Nodup)
    (hopen : ∀ ms ∈ previews, mgr.media.findStream ms.streamId = some ms)
    (hheld : ∀ v ms, s.stream v = some ms → mgr.media.findStream ms.streamId = some ms)
    (hlost : mgr.lostSources = []) (huac : call.uacConnected = false)
    (hsource : ∀ ms, call.psSource = some ms → call.streamId = ms.streamId ∧
      0 < call.myRtpPort ∧ mgr.media.findStream ms.streamId = some ms) :
    Inv { s with mgr := mgr, calls := s.calls.insert id call, previews := previews } := by
  refine ⟨hreg, fun ms hms => ?_, hnodup, fun id' call' hcall' => ?_, hlost, h.lostInfos⟩
  · rcases hms with hms | ⟨v, hv⟩
    · exact hopen ms hms
    · cases v with
      | call id' =>
          obtain ⟨call', hcall', hms⟩ := Option.bind_eq_some_iff.mp hv
          have hlookup := Table.lookup_insert s.calls id id' call
          rw [hlookup] at hcall'
          split at hcall'
          · cases hcall'
            exact (hsource ms hms).2.2
          · exact hheld (.call id') ms (by simp [stream, hcall', hms])
      | connection hdl => exact hheld (.connection hdl) ms hv
  · have hlookup := Table.lookup_insert s.calls id id' call
    rw [hlookup] at hcall'
    split at hcall'
    · cases hcall'
      exact ⟨huac, fun ms hms => ⟨(hsource ms hms).1, (hsource ms hms).2.1⟩⟩
    · exact h.sources id' call' hcall'

theorem Inv.answer {s : StreamViewers} (h : s.Inv) {env : Env} {id : Nat} {o : InviteOffer}
    (hsafe : s.Safe env (.offer id o)) {call : UaClientCall}
    (hcall : s.calls.lookup id = some call) : (s.answer env id o call).Inv := by
  obtain ⟨hopens, hkeeps⟩ := hsafe call hcall
  obtain ⟨huac, hsource⟩ := h.sources id call hcall
  have hsound : call.Sound s.InUse s.mgr (call.onOffer s.mgr env o) := by
    apply UaClientCall.onOffer_sound h.registered h.used _ hopens hkeeps
    intro ms hms
    exact ⟨.inr ⟨.call id, by simp [stream, hcall, hms]⟩, hsource ms hms⟩
  obtain ⟨hnodup, hopen⟩ := h.opened hsound.registered hsound.kept
  exact h.insertCall hsound.registered hnodup hopen
    (fun v ms hms => hsound.kept ms (.inr ⟨v, hms⟩)) (hsound.lost.trans h.lostSources)
    (hsound.uac.trans huac) hsound.source

/-- A websocket action keeps the streams in use, and attaches a registered one. -/
structure Attaches (s : StreamViewers) (r : WsServer.ActionResult) : Prop where
  registered : r.media.Registered
  kept : ∀ ms, s.InUse ms → r.media.findStream ms.streamId = some ms
  attached : ∀ ms, r.ms = some ms → r.media.findStream ms.streamId = some ms

theorem Inv.attaches_none {s : StreamViewers} (h : s.Inv) (errcode : Int) :
    s.Attaches ⟨s.media, errcode, none⟩ :=
  ⟨h.registered, h.used, by simp⟩

theorem Inv.attaches_grown {s : StreamViewers} (h : s.Inv) {key : String} {errcode : Int}
    {r : ServerState × Option MediaStream} (hgrown : ServerState.Grown s.media key r)
    (hfree : r.2.isSome → ∀ ms, s.media.findStream key = some ms → ¬ s.InUse ms) :
    s.Attaches ⟨r.1, errcode, r.2⟩ := by
  refine ⟨hgrown.registered, UaClientCall.kept_of_grown hgrown h.used hfree, fun ms hms => ?_⟩
  obtain ⟨hkey, hfind⟩ := hgrown.made ms hms
  rw [hkey]
  exact hfind

theorem Inv.connect {s : StreamViewers} (h : s.Inv) {hdl : Nat} {isLive : Int}
    {r : WsServer.ActionResult} (hfree : s.stream (.connection hdl) = none)
    (hr : s.Attaches r) : (s.connect hdl isLive r).Inv := by
  obtain ⟨hnodup, hopen⟩ := h.opened hr.registered hr.kept
  refine ⟨hr.registered, fun ms hms => ?_, hnodup, h.sources, h.lostSources, ?_⟩
  · rcases hms with hms | ⟨v, hv⟩
    · exact hopen ms hms
    · cases v with
      | call id => exact hr.kept ms (.inr ⟨.call id, hv⟩)
      | connection hdl' =>
          obtain ⟨sinfo, hinfo, hms⟩ := Option.bind_eq_some_iff.mp hv
          have hlookup := Table.lookup_insert s.m_connections hdl hdl' ⟨isLive, r.ms⟩
          simp only [StreamViewers.connect, hlookup] at hinfo
          split at hinfo
          · cases hinfo
            exact hr.attached ms hms
          · exact hr.kept ms (.inr ⟨.connection hdl', by simp [stream, hinfo, hms]⟩)
  · simp [StreamViewers.connect, hfree, h.lostInfos]

theorem Inv.attaches_preview {s : StreamViewers} (h : s.Inv) {env : Env} {hdl : Nat}
    {params : Option PreviewParams} (hsafe : s.Safe env (.preview hdl params)) :
    s.Attaches (WsServer.realTimePlayAction s.media env params) := by
  unfold WsServer.realTimePlayAction
  cases params with
  | none => exact h.attaches_none 6
  | some p =>
      cases hchild : s.media.children.findChildDeviceByGBID p.deviceId with
      | none =>
          simp only [hchild]
          exact h.attaches_none 3
      | some child =>
          cases hfind : s.media.findStream
              (ServerState.liveStreamId child.deviceId p.streamType) with
          | some ms =>
              simp only [hchild, hfind]
              refine ⟨h.registered, h.used, fun ms' hms' => ?_⟩
              cases hms'
              rw [h.registered.keyed _ _ hfind]
              exact hfind
          | none =>
              simp only [hchild, hfind]
              have hopens := hsafe.2 p child rfl hchild hfind
              rw [← ServerState.isSome_createLiveStream] at hopens
              exact h.attaches_grown (ServerState.grown_createLiveStream h.registered env _ _
                fun hmade => (hopens hmade).1) fun hmade => (hopens hmade).2

theorem Inv.attaches_playback {s : StreamViewers} (h : s.Inv) {env : Env} {hdl : Nat}
    {params : Option PlaybackParams} (hsafe : s.Safe env (.playback hdl params)) :
    s.Attaches (WsServer.playBackAction s.media env params) := by
  unfold WsServer.playBackAction
  cases params with
  | none => exact h.attaches_none 0
  | some p =>
      cases hchild : s.media.children.findChildDeviceByGBID p.deviceId with
      | none =>
          simp only [hchild]
          exact h.attaches_none 3
      | some child =>
          simp only [hchild]
          have hopens := hsafe.2 p child rfl hchild
          rw [← ServerState.isSome_createVodStream] at hopens
          exact h.attaches_grown (ServerState.grown_createVodStream h.registered env _ _ _
            fun hmade => (hopens hmade).1) fun hmade => (hopens hmade).2

/-! ### Closes -/

theorem closeStreamStreamId_media {mgr : UaMgr} (env : Env) (held : MediaStream → Nat)
    {ms : MediaStream} (hms : mgr.media.findStream ms.streamId = some ms) :
    (mgr.closeStreamStreamId env held ms.streamId).1.media =
        (mgr.media.closeStreamByStreamId env (fun s => held s + if s = ms then 1 else 0) ms).1 ∧
      (mgr.closeStreamStreamId env held ms.streamId).2 =
        (mgr.media.closeStreamByStreamId env (fun s => held s + if s = ms then 1 else 0) ms).2 ∧
      (mgr.closeStreamStreamId env held ms.streamId).1.lostSources = mgr.lostSources := by
  unfold UaMgr.closeStreamStreamId
  simp only [hms]
  exact ⟨trivial, trivial, trivial⟩

/-- The destructor of a server call with a port closes the stream of the call's stream id. -/
theorem destroy_uas {mgr : UaMgr} {env : Env} {others : MediaStream → Nat}
    {call : UaClientCall} {r : UaMgr × Option ServerState.StopCall}
    (huac : call.uacConnected = false) (hport : 0 < call.myRtpPort)
    (h : call.destroy mgr env others = some r) :
    r.1.media = (mgr.closeStreamStreamId env
        (fun s => others s + mgr.lostSources.count s) call.streamId).1.media ∧
      r.1.lostSources = (mgr.closeStreamStreamId env
        (fun s => others s + mgr.lostSources.count s) call.streamId).1.lostSources ∧
      r.2 = (mgr.closeStreamStreamId env
        (fun s => others s + mgr.lostSources.count s) call.streamId).2 := by
  unfold UaClientCall.destroy at h
  simp only [if_pos hport, huac, Bool.false_eq_true, if_false] at h
  obtain ⟨mgr', hfree, rfl⟩ := Option.map_eq_some_iff.mp h
  rw [UaMgr.freeRptPort_eq hfree]
  exact ⟨rfl, rfl, rfl⟩

theorem Inv.hangUp {s : StreamViewers} (h : s.Inv) {env : Env} {id : Nat}
    {r : StreamViewers × Option ServerState.StopCall} (hr : s.hangUp env id = some r) :
    (r.1.afterStop r.2).Inv := by
  obtain ⟨call, hcall, hr⟩ := Option.bind_eq_some_iff.mp hr
  obtain ⟨⟨mgr, stop⟩, hdestroy, rfl⟩ := Option.map_eq_some_iff.mp hr
  obtain ⟨huac, hsource⟩ := h.sources id call hcall
  by_cases hport : 0 < call.myRtpPort
  · obtain ⟨hmedia, hlost, hstop⟩ := destroy_uas huac hport hdestroy
    cases hfind : s.media.findStream call.streamId with
    | none =>
        simp only [UaMgr.closeStreamStreamId, hfind] at hmedia hlost hstop
        subst hstop
        exact h.left (.call id) hmedia (hlost.trans h.lostSources)
    | some ms =>
        have hkey := h.registered.keyed _ _ hfind
        rw [← hkey] at hfind hmedia hlost hstop
        obtain ⟨hclose, hcalled, hlost'⟩ := closeStreamStreamId_media env
          (fun ms => (s.without (.call id)).viewers ms + s.lostInfos.count ms +
            s.mgr.lostSources.count ms) hfind
        refine h.closed (v := .call id) hfind ?_ (hmedia.trans hclose) (hstop.trans hcalled)
          ((hlost.trans hlost').trans h.lostSources)
        simp [h.lostInfos, h.lostSources]
  · have hnone : call.psSource = none := by
      cases hps : call.psSource with
      | none => rfl
      | some ms => exact absurd (hsource ms hps).2 hport
    simp only [UaClientCall.destroy, if_neg hport, hnone] at hdestroy
    cases hdestroy
    exact h.left (.call id) rfl h.lostSources

theorem Inv.onClose {s : StreamViewers} (h : s.Inv) {env : Env} {hdl : Nat}
    {r : StreamViewers × Option ServerState.StopCall} (hr : s.onClose env hdl = some r) :
    (r.1.afterStop r.2).Inv := by
  obtain ⟨sinfo, hinfo, rfl⟩ := Option.map_eq_some_iff.mp hr
  cases hms : sinfo.ms with
  | none => exact h.left (.connection hdl) rfl h.lostSources
  | some ms =>
      have hfind := h.used ms (.inr ⟨.connection hdl, by simp [stream, hinfo, hms]⟩)
      refine h.closed (v := .connection hdl) hfind ?_ rfl rfl h.lostSources
      simp [h.lostInfos, h.lostSources]

theorem preserves_inv (env : Env) : Lts.Preserves (step env) (Safe env) Inv := by
  intro s e s' h hsafe hstep
  cases e with
  | newCall id =>
      simp only [step] at hstep
      split at hstep
      · cases hstep
        exact h.insertCall h.registered h.previews (fun ms hms => h.used ms (.inl hms))
          (fun v ms hms => h.used ms (.inr ⟨v, hms⟩)) h.lostSources rfl (by simp)
      · cases hstep
  | offer id o =>
      obtain ⟨call, hcall, rfl⟩ := Option.map_eq_some_iff.mp hstep
      exact h.answer hsafe hcall
  | preview hdl params =>
      cases hstep
      exact h.connect hsafe.1 (h.attaches_preview hsafe)
  | playback hdl params =>
      cases hstep
      exact h.connect hsafe.1 (h.attaches_playback hsafe)
  | close v =>
      obtain ⟨r, hr, rfl⟩ := Option.map_eq_some_iff.mp hstep
      cases v with
      | call id => exact h.hangUp hr
      | connection hdl => exact h.onClose hr
  | removeChild deviceId =>
      obtain ⟨_, -, rfl⟩ := Option.map_eq_some_iff.mp hstep
      exact h.of_media (h.registered.removeChildDevice deviceId) h.previews
        (fun ms hms => h.used ms (.inl hms)) (fun v ms hms => h.used ms (.inr ⟨v, hms⟩))
        h.lostSources

/-! ### Completeness -/

theorem Inv.found {s : StreamViewers} (h : s.Inv) (env : Env) {gbId : String}
    {child : JsonChildDevic} {streamNo : Int} {ms : MediaStream}
    (hchild : s.media.children.findChildDeviceByGBID gbId = some child)
    (hfind : s.media.findStream (ServerState.liveStreamId gbId streamNo) = some ms)
    (hid : ms.deviceId = gbId) :
    WsServer.realTimePlayAction s.media env (some ⟨gbId, streamNo⟩) = ⟨s.media, 0, some ms⟩ := by
  obtain ⟨hmem, hgb⟩ := ChildMap.findChildDeviceByGBID_eq_some hchild
  obtain ⟨-, howned⟩ := h.registered.owned _ _ hfind
  have hdb : child.deviceId = gbId := by
    rw [hid] at howned
    exact (howned child.deviceId child hmem hgb).1
  simp [WsServer.realTimePlayAction, hchild, hdb, hfind]

/-- An offer for a stream that is registered asks nothing of the NVR. -/
theorem onOffer_registered {mgr : UaMgr} (env : Env) (call : UaClientCall) (o : InviteOffer)
    {gbId : String} {ms : MediaStream} {groups : List String}
    (hfind : mgr.media.findStream (ServerState.liveStreamId gbId 0) = some ms)
    (hplay : o.sdp.name = "Play") (hsubject : subjectArray o.subject = gbId :: groups) :
    (call.onOffer mgr env o).mgr.media = mgr.media := by
  unfold UaClientCall.onOffer
  split
  · rfl
  · split
    · rfl
    · simp only [UaClientCall.receiveInviteOffRequest, hplay, hsubject]
      split
      · rename_i channel _ remote _ _ hgroups
        cases hgroups
        simp only [UaClientCall.playOffer, hfind]
        exact (UaClientCall.answerOnPort_media _ _ _ _).1
      · rfl

theorem Inv.single {s : StreamViewers} (h : s.Inv) (key : String) :
    s.previews.countP (fun ms => ms.streamId = key) ≤ 1 := by
  cases hfind : s.media.findStream key with
  | none =>
      apply Nat.le_succ_of_le (Nat.le_of_eq _)
      rw [List.countP_eq_zero]
      intro ms hms hkey
      have hreg := h.used ms (.inl hms)
      rw [of_decide_eq_true hkey, hfind] at hreg
      cases hreg
  | some ms =>
      -- every preview under the key is this stream, and no stream is there twice
      refine Nat.le_trans ?_ (List.nodup_iff_count_le_one.mp h.previews ms)
      apply List.countP_mono_left
      intro ms' hms' hkey
      have hreg := h.used ms' (.inl hms')
      rw [of_decide_eq_true hkey, hfind] at hreg
      cases hreg
      simp

theorem Inv.stopped {s : StreamViewers} (h : s.Inv) {env : Env} {v : Viewer} {ms : MediaStream}
    {id : String} {child : JsonChildDevic} (hlast : s.LastViewer v ms)
    (hchild : s.media.children.findChildDevice id = some child)
    (hgb : child.mGBID = ms.deviceId) {r : StreamViewers × Option ServerState.StopCall}
    (hr : s.close env v = some r) :
    ∃ call, r.2 = some call ∧ call.stream = ms ∧ child.mParentDev = some call.nvr ∧
      ServerState.stopOp ms = some call.op := by
  have hfind := h.used ms (.inr ⟨v, hlast.1⟩)
  obtain ⟨hop, howned⟩ := h.registered.owned _ _ hfind
  obtain ⟨rfl, hnvr⟩ := howned id child hchild hgb
  -- nobody else uses the stream, so its count is at the limit of `CloseStream`
  have hzero := hlast.viewers_without
  cases v with
  | call id =>
      obtain ⟨call, hcall, hmap⟩ := Option.bind_eq_some_iff.mp hr
      obtain ⟨⟨mgr, stop⟩, hdestroy, rfl⟩ := Option.map_eq_some_iff.mp hmap
      obtain ⟨huac, hsource⟩ := h.sources id call hcall
      have hps : call.psSource = some ms := by simpa [stream, hcall] using hlast.1
      obtain ⟨hkey, hport⟩ := hsource ms hps
      obtain ⟨-, -, hstop⟩ := destroy_uas huac hport hdestroy
      rw [hkey] at hstop
      obtain ⟨-, hcalled, -⟩ := closeStreamStreamId_media env
        (fun ms => (s.without (.call id)).viewers ms + s.lostInfos.count ms +
          s.mgr.lostSources.count ms) hfind
      have hstop : stop = _ := hstop.trans hcalled
      subst hstop
      apply ServerState.close_stops _ hchild hnvr hop
      simp [hzero, h.lostInfos, h.lostSources]
  | connection hdl =>
      obtain ⟨sinfo, hinfo, rfl⟩ := Option.map_eq_some_iff.mp hr
      have hms : sinfo.ms = some ms := by simpa [stream, hinfo] using hlast.1
      simp only [hms]
      apply ServerState.close_stops _ hchild hnvr hop
      simp [hzero, h.lostInfos, h.lostSources]

theorem Inv.complete {s : StreamViewers} (h : s.Inv) (env : Env) : s.Complete env where
  found := by
    intro gbId child streamNo ms hchild hfind hid _
    refine ⟨h.found env hchild hfind hid, ?_⟩
    rintro rfl call o groups hplay hsubject
    exact onOffer_registered env call o hfind hplay hsubject
  single := fun _ _ => h.single _
  stopped := fun _ _ _ _ hlast hchild hgb _ hr => h.stopped hlast hchild hgb hr

theorem inv_start (w : ServerState) (rtp : RTPPortManager) : (start w rtp).Inv where
  registered := ⟨by simp [media, start, ServerState.findStream],
    by simp [media, start, ServerState.findStream]⟩
  used := by
    rintro ms (hms | ⟨v, hv⟩)
    · cases hms
    · cases v with
      | call id => simp [stream, start] at hv
      | connection hdl => simp [stream, start] at hv
  previews := List.nodup_nil
  sources := by simp [start]
  lostSources := rfl
  lostInfos := rfl

/-- In every run in which streams are opened for children that are stored under
their GB id, and in which no pointer is lost, the bookkeeping is complete. -/
theorem bookkeeping_complete (env : Env) (w : ServerState) (rtp : RTPPortManager)
    (events : List ViewerEvent)
    (hsafe : Lts.Guarded (step env) (Safe env) (start w rtp) events) :
    Lts.Along (step env) (Complete env) (start w rtp) events :=
  ((preserves_inv env).along (inv_start w rtp) hsafe).mono fun _ h => h.complete env

/-! ### Sample runs -/

/-- One child behind an NVR, and no viewer. -/
def sampleStart (deviceId gbId : String) : StreamViewers :=
  start (ServerState.sampleState (ChildMap.empty.addChildDevice
    (ServerState.sampleChild deviceId gbId 1))) (.new 17000 17004)

/-- Two connections watch the live stream of a child, and the first one leaves. -/
def sampleRun (gbId : String) : List ViewerEvent :=
  [.preview 1 (some ⟨gbId, 0⟩), .preview 2 (some ⟨gbId, 0⟩), .close (.connection 1)]

theorem bookkeeping_complete_sample :
    Lts.Along (step (ServerState.sampleEnv ServerState.workingSdk))
      (Complete (ServerState.sampleEnv ServerState.workingSdk))
      (sampleStart "34020000001320000001" "34020000001320000001")
      (sampleRun "34020000001320000001") := by
  apply bookkeeping_complete
  intro s₁ h₁
  refine ⟨⟨rfl, fun p child hp _ _ _ => ?_⟩, ?_⟩
  · cases hp
    refine ⟨fun id child hchild _ => ?_, fun ms hms => ?_⟩
    · simp only [media, start, ServerState.sampleState,
        ChildMap.findChildDevice_addChildDevice, ChildMap.findChildDevice_empty] at hchild
      split at hchild
      · rename_i hid
        exact hid
      · cases hchild
    · simp [media, start, ServerState.findStream] at hms
  · cases h₁
    intro s₂ h₂
    refine ⟨⟨rfl, fun p child hp hchild hnone => ?_⟩, ?_⟩
    · cases hp
      have hid : some "34020000001320000001" = some child.deviceId :=
        Eq.trans (by decide) (congrArg (Option.map (·.deviceId)) hchild)
      rw [← Option.some.inj hid] at hnone
      exact absurd hnone (by decide)
    · cases h₂
      exact fun s₃ _ => ⟨trivial, trivial⟩

/-- The child's database id is another string: the second preview does not find
the stream of the first and replaces it, so that two previews are open, and the
only viewer of a stream closes it without a stop operation. -/
theorem second_preview_opened :
    ¬ Lts.Along (step (ServerState.sampleEnv ServerState.workingSdk))
        (Complete (ServerState.sampleEnv ServerState.workingSdk))
        (sampleStart "7" "34020000001320000001") (sampleRun "34020000001320000001") ∧
      (Lts.exec (step (ServerState.sampleEnv ServerState.workingSdk))
        (sampleStart "7" "34020000001320000001")
        [.preview 1 (some ⟨"34020000001320000001", 0⟩),
          .preview 2 (some ⟨"34020000001320000001", 0⟩)]).map (·.previews.length) = some 2 ∧
      ((Lts.exec (step (ServerState.sampleEnv ServerState.workingSdk))
        (sampleStart "7" "34020000001320000001")
        [.preview 1 (some ⟨"34020000001320000001", 0⟩)]).bind fun s =>
          s.close (ServerState.sampleEnv ServerState.workingSdk) (.connection 1)).map (·.2) =
        some none := by
  refine ⟨fun hcomplete => ?_, by decide, by decide⟩
  have hsingle := ((hcomplete.2 _ rfl).2 _ rfl).1.single "34020000001320000001" 0
  exact absurd hsingle (by decide)

end StreamViewers

end SignalingServer
