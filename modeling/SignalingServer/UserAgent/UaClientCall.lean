import Mathlib.Algebra.Group.Nat.Defs
import Mathlib.Data.List.AList
import SignalingServer.Media.MediaMng
import SignalingServer.RtpPortManager

/-!
SIP calls (UaClientCall.cpp). A call answers INVITE offers: it parses the
Subject header, makes sure that the stream exists, takes an RTP port and sends
the stream from there. What a call holds is given back when it is destroyed.
-/

namespace SignalingServer

/-- One medium of an SDP body, as far as it is read or written. -/
structure SdpMedium where
  protocol : String
  port : Nat
  attributes : List String
  deriving DecidableEq, Repr

/-- The session of an SDP body, as far as it is read or written. -/
structure SdpContents where
  name : String
  yssrc : String
  originAddress : String
  connectionAddress : String
  media : List SdpMedium
  times : List (Nat × Nat)
  deriving DecidableEq, Repr

/-- What a call tells its invite session handle. -/
inductive InviteAction where
  | provideAnswer (sdp : SdpContents)
  | accept
  | reject (code : Nat) (warning : String)
  deriving DecidableEq, Repr

/-- `RTPUdpTransport::Init` returns a code, or a socket throws. -/
inductive TransportInit where
  | returned (code : Int)
  | thrown
  deriving DecidableEq, Repr

/-- One INVITE offer. `staleFork` and `clientTransaction` are what `onOffer` asks
first; `uas` says whether the handle is a server session, and if so whether it
was accepted. -/
structure InviteOffer where
  staleFork : Bool
  clientTransaction : Bool
  subject : Option String
  sdp : SdpContents
  uas : Option Bool
  localIp : String
  transport : TransportInit
  deriving DecidableEq, Repr

/-- `UaClientCall`; `psSource` is the stream that its `PSFileSource` holds. -/
structure UaClientCall where
  sessionName : String := ""
  ssrc : String := ""
  remoteIp : String := ""
  remotePort : Nat := 0
  rtpType : Int := 0
  startTime : Nat := 0
  stopTime : Nat := 0
  remoteId : String := ""
  streamId : String := ""
  channelId : String := ""
  myRtpPort : Nat := 0
  mResponseSdp : Option SdpContents := none
  psSource : Option MediaStream := none
  uacConnected : Bool := false
  deriving DecidableEq, Repr

/-- What calls share: the streams, the port pool, and the streams that are held
by a `PSFileSource` to which no call points any more. -/
structure UaMgr where
  media : ServerState
  mRtpPortMngr : RTPPortManager
  lostSources : List MediaStream

structure OfferResult where
  mgr : UaMgr
  call : UaClientCall
  actions : List InviteAction

/-! ### The Subject header -/

/-- The pattern `(.*)sep` followed by `rest`, matched greedily. -/
def greedy {α : Type} (sep : Char) (rest : List Char → Option α) :
    List Char → Option (List Char × α)
  | [] => none
  | c :: cs =>
      match greedy sep rest cs with
      | some (g, a) => some (c :: g, a)
      | none => if c = sep then (rest cs).map fun a => ([], a) else none

/-- The groups of `(.*):(.*),(.*):(.*)` in a header line. -/
def subjectArray (subject : Option String) : List String :=
  match subject with
  | none => []
  | some line =>
      match greedy ':' (greedy ',' (greedy ':' some)) line.toList with
      | none => []
      | some (g₁, g₂, g₃, g₄) => [g₁, g₂, g₃, g₄].map String.ofList

/-! ### The answer -/

/-- The remote port and transport type that the media of an offer name. -/
def scanMedia : List SdpMedium → Nat × Int → Nat × Int
  | [], acc => acc
  | m :: ms, (port, _) =>
      let rtpType := if m.protocol = "TCP/RTP/AVP" then 1 else 0
      if m.port > 0 then (m.port % 2 ^ 16, rtpType) else scanMedia ms (port, rtpType)

/-- The first medium of an answer gets the local port and becomes `sendonly`. -/
def answerMedia (port : Nat) : List SdpMedium → List SdpMedium
  | [] => []
  | m :: ms =>
      { m with
        port := port
        attributes :=
          if "recvonly" ∈ m.attributes then
            m.attributes.filter (· ≠ "recvonly") ++ ["sendonly"]
          else m.attributes } :: ms

namespace UaClientCall

/-- `ReceiveInviteOffRequest` up to the check of the Subject header. -/
def parseOffer (call : UaClientCall) (o : InviteOffer) : UaClientCall :=
  let remote := scanMedia o.sdp.media (call.remotePort, call.rtpType)
  { call with
    sessionName := o.sdp.name
    ssrc := o.sdp.yssrc
    remoteIp := o.sdp.originAddress
    remotePort := remote.1
    rtpType := remote.2
    mResponseSdp := some { o.sdp with originAddress := o.localIp, connectionAddress := o.localIp } }

/-- `handle->reject(488, &warning)`. -/
def rejectOffer (mgr : UaMgr) (call : UaClientCall) (warning : String) : OfferResult :=
  ⟨mgr, call, [.reject 488 warning]⟩

/-- The actions `provideAnswer` and, on a server session that is not accepted yet, `accept`. -/
def answerActions (call : UaClientCall) (o : InviteOffer) : List InviteAction :=
  (call.mResponseSdp.map .provideAnswer).toList ++ if o.uas = some false then [.accept] else []

/-- The part that the three branches share: a port is taken, the transport is
opened on it, the stream that `stream` finds gets a source, and the offer is
answered. A source that the call had before is not freed. -/
def answerOnPort (mgr : UaMgr) (call : UaClientCall) (o : InviteOffer)
    (stream : Option MediaStream) : OfferResult :=
  let port := mgr.mRtpPortMngr.allocateRTPPort.1 % 2 ^ 16
  let mgr := { mgr with mRtpPortMngr := mgr.mRtpPortMngr.allocateRTPPort.2 }
  let call := { call with myRtpPort := port }
  if port = 0 then rejectOffer mgr call "Port exhausted!"
  else
    let call := { call with
      mResponseSdp := call.mResponseSdp.map fun sdp =>
        { sdp with media := answerMedia port sdp.media } }
    match o.transport with
    | .thrown => ⟨mgr, call, []⟩
    | .returned code =>
        match (if code ≠ 0 then stream else none) with
        | none => ⟨mgr, call, call.answerActions o⟩
        | some s =>
            ⟨{ mgr with lostSources := call.psSource.toList ++ mgr.lostSources },
              { call with psSource := some s }, call.answerActions o⟩

/-! ### The offer -/

/-- The branch for a session named `Play`. -/
def playOffer (mgr : UaMgr) (env : Env) (call : UaClientCall) (o : InviteOffer)
    (channel remote : String) : OfferResult :=
  let call := { call with
    channelId := channel
    remoteId := remote
    streamId := ServerState.liveStreamId channel 0 }
  match mgr.media.findStream call.streamId with
  | some mdaStream => answerOnPort mgr call o (some mdaStream)
  | none =>
      let r := mgr.media.createLiveStream env call.channelId 0
      let mgr := { mgr with media := r.1 }
      if r.2.isSome then answerOnPort mgr call o (mgr.media.findStream call.streamId)
      else rejectOffer mgr call "play make bleg error!"

/-- The channel and the times that a `Playback` offer leaves in the call. -/
def playbackCall (call : UaClientCall) (o : InviteOffer) (channel : String) : UaClientCall :=
  let call := { call with channelId := if call.channelId = "" then channel else call.channelId }
  match o.sdp.times with
  | [] => call
  | (start, stop) :: _ => { call with startTime := start, stopTime := stop }

/-- A `Playback` offer changes nothing else in the call before the stream is there. -/
theorem playbackCall_eq (call : UaClientCall) (o : InviteOffer) (channel : String) :
    ∃ channelId startTime stopTime, call.playbackCall o channel =
      { call with channelId := channelId, startTime := startTime, stopTime := stopTime } := by
  unfold playbackCall
  cases o.sdp.times with
  | nil => exact ⟨_, _, _, rfl⟩
  | cons t ts => exact ⟨_, _, _, rfl⟩

/-- The branch for a session named `Playback`. -/
def playbackOffer (mgr : UaMgr) (env : Env) (call : UaClientCall) (o : InviteOffer)
    (channel : String) : OfferResult :=
  let call := call.playbackCall o channel
  let r := mgr.media.createVodStream env call.channelId call.startTime call.stopTime
  let mgr := { mgr with media := r.1 }
  if r.2.isSome then
    let call := { call with
      streamId := ServerState.createStreamId env call.channelId call.startTime call.stopTime }
    answerOnPort mgr call o (mgr.media.findStream call.streamId)
  else rejectOffer mgr call "vod make bleg error!"

/-- The branch for a session named `Download`, which answers nothing when the
stream request succeeds. -/
def downloadOffer (mgr : UaMgr) (env : Env) (call : UaClientCall) : OfferResult :=
  let r := mgr.media.createLiveStream env call.channelId 0
  let mgr := { mgr with media := r.1 }
  if r.2.isSome then ⟨mgr, call, []⟩ else rejectOffer mgr call "download make bleg error!"

/-- `UaClientCall::ReceiveInviteOffRequest`. -/
def receiveInviteOffRequest (mgr : UaMgr) (env : Env) (call : UaClientCall) (o : InviteOffer) :
    OfferResult :=
  let call := call.parseOffer o
  match subjectArray o.subject with
  | channel :: _ :: remote :: _ :: _ =>
      if o.sdp.name = "Play" then call.playOffer mgr env o channel remote
      else if o.sdp.name = "Playback" then call.playbackOffer mgr env o channel
      else if o.sdp.name = "Download" then call.downloadOffer mgr env
      else rejectOffer mgr call "sdp session name error!"
  | _ => rejectOffer mgr call "h_Subject parameter error"

/-- `UaClientCall::onOffer`. -/
def onOffer (mgr : UaMgr) (env : Env) (call : UaClientCall) (o : InviteOffer) : OfferResult :=
  if o.staleFork then ⟨mgr, call, []⟩
  else if o.clientTransaction then ⟨mgr, call, []⟩
  else call.receiveInviteOffRequest mgr env o

end UaClientCall

/-! ### The end of a call -/

namespace UaMgr

/-- `UaMgr::CloseStreamStreamId`. The pointer that `findStream` returns is held
while the stream is closed, beside `held` other pointers. -/
def closeStreamStreamId (mgr : UaMgr) (env : Env) (held : MediaStream → Nat)
    (streamId : String) : UaMgr × Option ServerState.StopCall :=
  match mgr.media.findStream streamId with
  | none => (mgr, none)
  | some ms =>
      let r := mgr.media.closeStreamByStreamId env
        (fun s => held s + if s = ms then 1 else 0) ms
      ({ mgr with media := r.1 }, r.2)

/-- `UaMgr::FreeRptPort`. -/
def freeRptPort (mgr : UaMgr) (port : Nat) : Option UaMgr :=
  (mgr.mRtpPortMngr.freeRTPPort port).map fun m => { mgr with mRtpPortMngr := m }

@[simp] theorem closeStreamStreamId_mRtpPortMngr (mgr : UaMgr) (env : Env)
    (held : MediaStream → Nat) (streamId : String) :
    (mgr.closeStreamStreamId env held streamId).1.mRtpPortMngr = mgr.mRtpPortMngr := by
  unfold closeStreamStreamId
  split <;> rfl

/-- What giving back a port changes. -/
theorem freeRptPort_eq {mgr mgr' : UaMgr} {port : Nat} (h : mgr.freeRptPort port = some mgr') :
    mgr' = { mgr with mRtpPortMngr := { mgr.mRtpPortMngr with
      mRTPPortFreeList := mgr.mRtpPortMngr.mRTPPortFreeList ++ [port] } } := by
  obtain ⟨m, hm, rfl⟩ := Option.map_eq_some_iff.mp h
  rw [RTPPortManager.freeRTPPort_eq hm]

end UaMgr

namespace UaClientCall

/-- `UaClientCall::~UaClientCall`, with the stop operation that it leads to;
`others` counts the pointers outside `mStreamMap` and outside the calls' lost
sources. A connected UAC does not free its `psSource`. -/
def destroy (mgr : UaMgr) (env : Env) (others : MediaStream → Nat) (call : UaClientCall) :
    Option (UaMgr × Option ServerState.StopCall) :=
  let lost := { mgr with lostSources := call.psSource.toList ++ mgr.lostSources }
  if call.myRtpPort > 0 then
    if call.uacConnected then
      (lost.freeRptPort call.myRtpPort).map fun mgr =>
        mgr.closeStreamStreamId env (fun s => others s + mgr.lostSources.count s) call.streamId
    else
      let r := mgr.closeStreamStreamId env (fun s => others s + mgr.lostSources.count s)
        call.streamId
      (r.1.freeRptPort call.myRtpPort).map fun mgr => (mgr, r.2)
  else some (lost, none)

/-- An offer for the live stream of a GB id, on a new server session. -/
def sampleOffer (gbId : String) : InviteOffer where
  staleFork := false
  clientTransaction := false
  subject := some (gbId ++ ":0,34020000002000000002:1")
  sdp :=
    { name := "Play"
      yssrc := "0100000001"
      originAddress := "192.168.1.2"
      connectionAddress := "192.168.1.2"
      media := [⟨"RTP/AVP", 6000, ["recvonly"]⟩]
      times := [(0, 0)] }
  uas := some false
  localIp := "192.168.1.3"
  transport := .returned 1

end UaClientCall

end SignalingServer
