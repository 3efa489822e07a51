import SignalingServer.Media.OpenHandles
import SignalingServer.StreamViewers
import SignalingServer.UserAgent.RtpPorts

/-!
How an offer ends. The stream request of an offer comes to one of four things,
and with the port and the transport this decides what the invite handle is told
and what a rejected offer leaves behind.
-/

namespace SignalingServer

/-- What the stream request of an offer comes to. -/
inductive StreamRequest where
  /-- A `Play` for a stream that is registered. -/
  | registered
  /-- A `Play` or `Playback` that the NVR opens. -/
  | opened
  /-- A `Download` that the NVR opens. -/
  | downloaded
  /-- There is no stream, or no request for one. -/
  | refused
  deriving DecidableEq, Repr

namespace UaClientCall

def streamRequest (mgr : UaMgr) (env : Env) (call : UaClientCall) (o : InviteOffer) :
    StreamRequest :=
  match subjectArray o.subject with
  | channel :: _ :: _ :: _ :: _ =>
      if o.sdp.name = "Play" then
        if (mgr.media.findStream (ServerState.liveStreamId channel 0)).isSome then .registered
        else if mgr.media.opensLive env channel 0 then .opened
        else .refused
      else if o.sdp.name = "Playback" then
        let c := (call.parseOffer o).playbackCall o channel
        if mgr.media.opensVod env c.channelId c.startTime c.stopTime then .opened else .refused
      else if o.sdp.name = "Download" then
        if mgr.media.opensLive env call.channelId 0 then .downloaded else .refused
      else .refused
  | _ => .refused

/-- The pool has a port that fits the 16 bits of `myRtpPort`. -/
def PortReady (mgr : UaMgr) : Prop := mgr.mRtpPortMngr.allocateRTPPort.1 % 2 ^ 16 ≠ 0

/-! ### The four ways through an offer -/

/-- What `ReceiveInviteOffRequest` does for each outcome of the stream request. -/
inductive Received (mgr : UaMgr) (call : UaClientCall) (o : InviteOffer) :
    StreamRequest → OfferResult → Prop
  | registered (call' : UaClientCall) (stream : Option MediaStream)
      (sdp : call'.mResponseSdp.isSome) :
      Received mgr call o .registered (answerOnPort mgr call' o stream)
  | opened (call' : UaClientCall) (media : ServerState) (key : String)
      (stream : Option MediaStream) (sdp : call'.mResponseSdp.isSome)
      (made : mgr.media.NewStream key media) :
      Received mgr call o .opened (answerOnPort { mgr with media := media } call' o stream)
  | downloaded (call' : UaClientCall) (media : ServerState) (key : String)
      (made : mgr.media.NewStream key media) :
      Received mgr call o .downloaded ⟨{ mgr with media := media }, call', []⟩
  | refused (call' : UaClientCall) (media : ServerState) (warning : String)
      (port : call'.myRtpPort = call.myRtpPort) (same : mgr.media.SameStreams media) :
      Received mgr call o .refused (rejectOffer { mgr with media := media } call' warning)

theorem playbackCall_mResponseSdp (call : UaClientCall) (o : InviteOffer) (channel : String) :
    (call.playbackCall o channel).mResponseSdp = call.mResponseSdp := by
  obtain ⟨channelId, startTime, stopTime, hcall⟩ := call.playbackCall_eq o channel
  rw [hcall]

theorem received_playOffer (mgr : UaMgr) (env : Env) (call : UaClientCall) (o : InviteOffer)
    (channel remote : String) (hsdp : call.mResponseSdp.isSome) :
    Received mgr call o
      (if (mgr.media.findStream (ServerState.liveStreamId channel 0)).isSome then .registered
        else if mgr.media.opensLive env channel 0 then .opened else .refused)
      (call.playOffer mgr env o channel remote) := by
  have hlive := mgr.media.outcome_createLiveStream env channel 0
  rw [ServerState.Outcome, ServerState.isSome_createLiveStream] at hlive
  unfold playOffer
  dsimp only
  cases hfind : mgr.media.findStream (ServerState.liveStreamId channel 0) with
  | some mdaStream => exact .registered _ _ hsdp
  | none =>
      simp only [ServerState.isSome_createLiveStream]
      cases hopens : mgr.media.opensLive env channel 0 with
      | true =>
          rw [if_pos hopens] at hlive
          exact .opened _ _ _ _ hsdp hlive
      | false =>
          rw [if_neg (by simp [hopens])] at hlive
          exact .refused _ _ _ rfl hlive

theorem received_playbackOffer (mgr : UaMgr) (env : Env) (call : UaClientCall) (o : InviteOffer)
    (channel : String) (hsdp : call.mResponseSdp.isSome) :
    Received mgr call o
      (if mgr.media.opensVod env (call.playbackCall o channel).channelId
          (call.playbackCall o channel).startTime (call.playbackCall o channel).stopTime then .opened
        else .refused)
      (call.playbackOffer mgr env o channel) := by
  have hvod := mgr.media.outcome_createVodStream env (call.playbackCall o channel).channelId
    (call.playbackCall o channel).startTime (call.playbackCall o channel).stopTime
  rw [ServerState.Outcome, ServerState.isSome_createVodStream] at hvod
  unfold playbackOffer
  simp only [ServerState.isSome_createVodStream]
  split
  · rename_i hopens
    rw [if_pos hopens] at hvod
    refine .opened _ _ _ _ ?_ hvod
    show (call.playbackCall o channel).mResponseSdp.isSome = true
    rw [playbackCall_mResponseSdp]
    exact hsdp
  · rename_i hopens
    rw [if_neg hopens] at hvod
    exact .refused _ _ _ (playbackCall_myRtpPort call o channel) hvod

theorem received_downloadOffer (mgr : UaMgr) (env : Env) (call : UaClientCall) (o : InviteOffer) :
    Received mgr call o
      (if mgr.media.opensLive env call.channelId 0 then .downloaded else .refused)
      (call.downloadOffer mgr env) := by
  have hlive := mgr.media.outcome_createLiveStream env call.channelId 0
  rw [ServerState.Outcome, ServerState.isSome_createLiveStream] at hlive
  unfold downloadOffer
  simp only [ServerState.isSome_createLiveStream]
  split
  · rename_i hopens
    rw [if_pos hopens] at hlive
    exact .downloaded _ _ _ hlive
  · rename_i hopens
    rw [if_neg hopens] at hlive
    exact .refused _ _ _ rfl hlive

theorem Received.of_parseOffer {mgr : UaMgr} {call : UaClientCall} {o : InviteOffer}
    {request : StreamRequest} {r : OfferResult} (h : Received mgr (call.parseOffer o) o request r) :
    Received mgr call o request r := by
  cases h with
  | registered call' stream sdp => exact .registered call' stream sdp
  | opened call' media key stream sdp made => exact .opened call' media key stream sdp made
  | downloaded call' media key made => exact .downloaded call' media key made
  | refused call' media warning port same => exact .refused call' media warning port same

theorem received_rejected (mgr : UaMgr) (call : UaClientCall) (o : InviteOffer)
    (warning : String) : Received mgr call o .refused (rejectOffer mgr call warning) :=
  .refused call mgr.media warning rfl (.refl _)

/-- Every execution goes the way of its stream request. -/
theorem received (mgr : UaMgr) (env : Env) (call : UaClientCall) (o : InviteOffer) :
    Received mgr call o (call.streamRequest mgr env o) (call.receiveInviteOffRequest mgr env o) := by
  apply Received.of_parseOffer
  unfold streamRequest receiveInviteOffRequest
  dsimp only
  rcases subjectArray o.subject with _ | ⟨channel, _ | ⟨_, _ | ⟨remote, _ | ⟨_, _⟩⟩⟩⟩
  · exact received_rejected mgr _ o _
  · exact received_rejected mgr _ o _
  · exact received_rejected mgr _ o _
  · exact received_rejected mgr _ o _
  by_cases hplay : o.sdp.name = "Play"
  · simp only [if_pos hplay]
    exact received_playOffer mgr env (call.parseOffer o) o channel remote rfl
  simp only [if_neg hplay]
  by_cases hplayback : o.sdp.name = "Playback"
  · simp only [if_pos hplayback]
    exact received_playbackOffer mgr env (call.parseOffer o) o channel rfl
  simp only [if_neg hplayback]
  by_cases hdownload : o.sdp.name = "Download"
  · simp only [if_pos hdownload]
    exact received_downloadOffer mgr env (call.parseOffer o) o
  · simp only [if_neg hdownload]
    exact received_rejected mgr _ o _

/-- The same with names for the request and the execution, to take cases on. -/
theorem received_cases (mgr : UaMgr) (env : Env) (call : UaClientCall) (o : InviteOffer) :
    ∃ request r, call.streamRequest mgr env o = request ∧
      call.receiveInviteOffRequest mgr env o = r ∧ Received mgr call o request r :=
  ⟨_, _, rfl, rfl, received mgr env call o⟩

/-! ### The port and the transport -/

/-- Without a port the offer is rejected, and the call holds port 0. -/
theorem answerOnPort_noPort {mgr : UaMgr} (hport : ¬ PortReady mgr) (call : UaClientCall)
    (o : InviteOffer) (stream : Option MediaStream) :
    answerOnPort mgr call o stream =
      rejectOffer { mgr with mRtpPortMngr := mgr.mRtpPortMngr.allocateRTPPort.2 }
        { call with myRtpPort := 0 } "Port exhausted!" := by
  have hzero : mgr.mRtpPortMngr.allocateRTPPort.1 % 2 ^ 16 = 0 := not_not.mp hport
  unfold answerOnPort
  simp only [hzero, if_true]

/-- With a port the offer is answered, unless the transport throws. -/
theorem answerOnPort_actions {mgr : UaMgr} (hport : PortReady mgr) (call : UaClientCall)
    (o : InviteOffer) (stream : Option MediaStream) :
    ∃ call' : UaClientCall, call'.mResponseSdp.isSome = call.mResponseSdp.isSome ∧
      (answerOnPort mgr call o stream).actions =
        if o.transport = .thrown then [] else call'.answerActions o := by
  unfold answerOnPort
  simp only [if_neg hport]
  cases o.transport with
  | thrown => exact ⟨call, rfl, rfl⟩
  | returned code =>
      dsimp only
      split
      · exact ⟨_, Option.isSome_map, rfl⟩
      · exact ⟨_, Option.isSome_map, rfl⟩

/-! ### One answer for an offer -/

end UaClientCall

/-- The actions that answer an offer, with yes or with no. -/
def InviteAction.answers : InviteAction → Bool
  | .provideAnswer _ => true
  | .accept => false
  | .reject _ _ => true

/-- The handle is told exactly one of `provideAnswer` and `reject`, and `accept`
only after `provideAnswer`. -/
structure AnsweredOnce (actions : List InviteAction) : Prop where
  once : actions.countP InviteAction.answers = 1
  accepted : ∀ earlier later, actions = earlier ++ .accept :: later →
    ∃ sdp, .provideAnswer sdp ∈ earlier

theorem not_answeredOnce_nil : ¬ AnsweredOnce [] := fun h => absurd h.once (by decide)

theorem answeredOnce_reject (code : Nat) (warning : String) :
    AnsweredOnce [.reject code warning] := by
  refine ⟨rfl, fun earlier later h => ?_⟩
  have hmem : InviteAction.accept ∈ [InviteAction.reject code warning] := by rw [h]; simp
  simp at hmem

theorem answeredOnce_answer (sdp : SdpContents) (accept : Bool) :
    AnsweredOnce (.provideAnswer sdp :: if accept then [.accept] else []) := by
  refine ⟨?_, fun earlier later h => ?_⟩
  · cases accept
    · rfl
    · rfl
  · cases earlier with
    | nil => simp at h
    | cons a earlier =>
        obtain ⟨rfl, -⟩ := List.cons.inj h
        exact ⟨sdp, List.mem_cons_self⟩

namespace UaClientCall

theorem answeredOnce_answerActions {call : UaClientCall} (hsdp : call.mResponseSdp.isSome)
    (o : InviteOffer) : AnsweredOnce (call.answerActions o) := by
  obtain ⟨sdp, hsdp⟩ := Option.isSome_iff_exists.mp hsdp
  have h := answeredOnce_answer sdp (decide (o.uas = some false))
  simp only [decide_eq_true_eq] at h
  rw [answerActions, hsdp]
  exact h

/-- The offer gets a stream and then no answer: a `Download`, or an offer whose
transport throws. -/
def Unanswered (mgr : UaMgr) (env : Env) (call : UaClientCall) (o : InviteOffer) : Prop :=
  match call.streamRequest mgr env o with
  | .registered | .opened => PortReady mgr ∧ o.transport = .thrown
  | .downloaded => True
  | .refused => False

theorem answeredOnce_answerOnPort_iff {mgr : UaMgr} {call : UaClientCall}
    (hsdp : call.mResponseSdp.isSome) (o : InviteOffer) (stream : Option MediaStream) :
    AnsweredOnce (answerOnPort mgr call o stream).actions ↔
      ¬ (PortReady mgr ∧ o.transport = .thrown) := by
  by_cases hport : PortReady mgr
  · obtain ⟨call', hsdp', hactions⟩ := answerOnPort_actions hport call o stream
    rw [hactions]
    by_cases hthrown : o.transport = .thrown
    · rw [if_pos hthrown]
      exact ⟨fun h => absurd h not_answeredOnce_nil, fun h => absurd ⟨hport, hthrown⟩ h⟩
    · rw [if_neg hthrown]
      rw [← hsdp'] at hsdp
      exact ⟨fun _ h => hthrown h.2, fun _ => answeredOnce_answerActions hsdp o⟩
  · rw [answerOnPort_noPort hport]
    exact ⟨fun _ h => hport h.1, fun _ => answeredOnce_reject _ _⟩

/-- Every execution answers its offer exactly once, except for these offers. -/
theorem answeredOnce_iff (mgr : UaMgr) (env : Env) (call : UaClientCall) (o : InviteOffer) :
    AnsweredOnce (call.receiveInviteOffRequest mgr env o).actions ↔
      ¬ call.Unanswered mgr env o := by
  obtain ⟨request, r, hrequest, hr, h⟩ := received_cases mgr env call o
  rw [Unanswered, hrequest, hr]
  cases h with
  | registered call' stream sdp => exact answeredOnce_answerOnPort_iff sdp o stream
  | opened call' media key stream sdp made => exact answeredOnce_answerOnPort_iff sdp o stream
  | downloaded call' media key made =>
      exact ⟨fun h => absurd h not_answeredOnce_nil, fun h => absurd trivial h⟩
  | refused call' media warning port same =>
      exact ⟨fun _ h => h, fun _ => answeredOnce_reject _ _⟩

/-- A table with one child, no stream, and a pool with the given free ports. -/
def sampleMgr (ports : List Nat) : UaMgr where
  media := ServerState.sampleState (ChildMap.empty.addChildDevice
    (ServerState.sampleChild "7" "34020000001320000001" 1))
  mRtpPortMngr := ⟨17000, 17002, ports⟩
  lostSources := []

/-- The NVR opens the preview, and the transport does not take the address of the
offer. After a `Play` that works, a `Download` on the same call is not answered. -/
theorem offers_unanswered :
    ((({} : UaClientCall).receiveInviteOffRequest (sampleMgr [17000, 17002])
        (ServerState.sampleEnv ServerState.workingSdk)
        { sampleOffer "34020000001320000001" with transport := .thrown }).actions = [] ∧
      ∃ first : OfferResult, first = ({} : UaClientCall).receiveInviteOffRequest
          (sampleMgr [17000, 17002]) (ServerState.sampleEnv ServerState.workingSdk)
          (sampleOffer "34020000001320000001") ∧
        (first.call.receiveInviteOffRequest first.mgr
          (ServerState.sampleEnv ServerState.workingSdk)
          { sampleOffer "34020000001320000001" with
            sdp := { (sampleOffer "34020000001320000001").sdp with
              name := "Download" } }).actions = []) ∧
      ¬ AnsweredOnce [] :=
  ⟨⟨by decide +kernel, _, rfl, by decide +kernel⟩, not_answeredOnce_nil⟩

/-! ### What a rejected offer leaves behind -/

/-- The stream map, the open stream handles and the free ports are as they were. -/
structure NoTrace (mgr mgr' : UaMgr) : Prop where
  streams : ∀ id, mgr'.media.findStream id = mgr.media.findStream id
  handles : mgr'.media.sdk.openHandles = mgr.media.sdk.openHandles
  ports : mgr'.mRtpPortMngr.mRTPPortFreeList = mgr.mRtpPortMngr.mRTPPortFreeList

/-- If the offer is rejected and the call is destroyed then, nothing is left of it. -/
def RejectedTraceless (mgr : UaMgr) (env : Env) (others : MediaStream → Nat) (call : UaClientCall)
    (o : InviteOffer) : Prop :=
  let r := call.receiveInviteOffRequest mgr env o
  (∃ code warning, .reject code warning ∈ r.actions) →
    ∃ d, r.call.destroy r.mgr env others = some d ∧ NoTrace mgr d.1

/-- An offer that gets a stream also gets a port. One for a registered stream may
meet an empty pool, one that gets no stream must not come on a call with a port. -/
def CleanRejection (mgr : UaMgr) (env : Env) (call : UaClientCall) (o : InviteOffer) : Prop :=
  match call.streamRequest mgr env o with
  | .registered => PortReady mgr ∨ mgr.mRtpPortMngr.mRTPPortFreeList = []
  | .opened => PortReady mgr
  | .downloaded => True
  | .refused => call.myRtpPort = 0

theorem not_rejects_answerOnPort {mgr : UaMgr} (hport : PortReady mgr) (call : UaClientCall)
    (o : InviteOffer) (stream : Option MediaStream) :
    ¬ ∃ code warning, InviteAction.reject code warning ∈
      (answerOnPort mgr call o stream).actions := by
  rintro ⟨code, warning, hmem⟩
  obtain ⟨call', -, hactions⟩ := answerOnPort_actions hport call o stream
  rw [hactions] at hmem
  split at hmem
  · cases hmem
  · rw [answerActions] at hmem
    split at hmem
    · simp at hmem
    · simp at hmem

/-- A call without a port is destroyed without a trace. -/
theorem destroy_noPort {call : UaClientCall} (hport : call.myRtpPort = 0) (mgr : UaMgr) (env : Env)
    (others : MediaStream → Nat) :
    call.destroy mgr env others =
      some ({ mgr with lostSources := call.psSource.toList ++ mgr.lostSources }, none) := by
  rw [destroy, if_neg (by omega)]

/-- An execution that rejects its offer leaves nothing once the call is destroyed. -/
def TracelessEnd (mgr : UaMgr) (env : Env) (others : MediaStream → Nat) (r : OfferResult) : Prop :=
  (∃ code warning, .reject code warning ∈ r.actions) →
    ∃ d, r.call.destroy r.mgr env others = some d ∧ NoTrace mgr d.1

theorem tracelessEnd_answerOnPort {mgr mgr' : UaMgr} (hport : PortReady mgr') (env : Env)
    (others : MediaStream → Nat) (call : UaClientCall) (o : InviteOffer)
    (stream : Option MediaStream) :
    TracelessEnd mgr env others (answerOnPort mgr' call o stream) :=
  fun hrejects => absurd hrejects (not_rejects_answerOnPort hport call o stream)

/-- Without a port the destructor does nothing, so that what the offer has changed stays. -/
theorem tracelessEnd_noPort_iff {mgr mgr' : UaMgr} (hport : ¬ PortReady mgr') (env : Env)
    (others : MediaStream → Nat) (call : UaClientCall) (o : InviteOffer)
    (stream : Option MediaStream) :
    TracelessEnd mgr env others (answerOnPort mgr' call o stream) ↔
      NoTrace mgr { mgr' with mRtpPortMngr := mgr'.mRtpPortMngr.allocateRTPPort.2 } := by
  unfold TracelessEnd
  simp only [answerOnPort_noPort hport, rejectOffer, destroy_noPort]
  constructor
  · intro htraceless
    obtain ⟨d, hd, hstreams, hhandles, hports⟩ := htraceless ⟨488, _, List.mem_singleton_self _⟩
    obtain rfl := Option.some.inj hd
    exact ⟨hstreams, hhandles, hports⟩
  · rintro ⟨hstreams, hhandles, hports⟩ -
    exact ⟨_, rfl, hstreams, hhandles, hports⟩

/-- The head of the pool is gone, if there was one. -/
theorem noTrace_allocate_iff (mgr : UaMgr) :
    NoTrace mgr { mgr with mRtpPortMngr := mgr.mRtpPortMngr.allocateRTPPort.2 } ↔
      mgr.mRtpPortMngr.mRTPPortFreeList = [] := by
  obtain ⟨-, htail⟩ := CallsRun.allocateRTPPort_eq mgr.mRtpPortMngr
  constructor
  · intro hnone
    have hlength := congrArg List.length (htail.symm.trans hnone.ports)
    rw [List.length_tail] at hlength
    exact List.length_eq_zero_iff.mp (by omega)
  · intro hempty
    refine ⟨fun _ => rfl, rfl, ?_⟩
    show mgr.mRtpPortMngr.allocateRTPPort.2.mRTPPortFreeList = _
    rw [htail, hempty]
    rfl

/-- Exactly under this condition a rejected offer leaves no trace. -/
theorem rejected_traceless_iff {mgr : UaMgr} (hfresh : mgr.media.Fresh) (env : Env)
    (others : MediaStream → Nat) (call : UaClientCall) (o : InviteOffer) :
    RejectedTraceless mgr env others call o ↔ call.CleanRejection mgr env o := by
  obtain ⟨request, r, hrequest, hr, h⟩ := received_cases mgr env call o
  show TracelessEnd mgr env others (call.receiveInviteOffRequest mgr env o) ↔ _
  rw [CleanRejection, hrequest, hr]
  cases h with
  | registered call' stream sdp =>
      by_cases hport : PortReady mgr
      · exact ⟨fun _ => .inl hport,
          fun _ => tracelessEnd_answerOnPort hport env others call' o stream⟩
      · -- the stream was there before, and only the pool can have changed
        rw [tracelessEnd_noPort_iff hport, noTrace_allocate_iff]
        exact (or_iff_right hport).symm
  | opened call' media key stream sdp made =>
      have hsame : PortReady { mgr with media := media } ↔ PortReady mgr := Iff.rfl
      by_cases hport : PortReady mgr
      · exact ⟨fun _ => hport,
          fun _ => tracelessEnd_answerOnPort (hsame.mpr hport) env others call' o stream⟩
      · -- the new stream stays registered, whatever becomes of the pool
        rw [tracelessEnd_noPort_iff (mt hsame.mp hport)]
        exact ⟨fun hnone => absurd (hnone.streams key) (made.ne hfresh),
          fun hready => absurd hready hport⟩
  | downloaded call' media key made =>
      refine ⟨fun _ => trivial, fun _ hrejects => ?_⟩
      obtain ⟨code, warning, hmem⟩ := hrejects
      cases hmem
  | refused call' media warning port same =>
      show _ ↔ call.myRtpPort = 0
      rw [← port]
      constructor
      · intro htraceless
        -- the destructor gives back a port that the call had before
        obtain ⟨d, hd, -, -, hports⟩ := htraceless ⟨488, warning, List.mem_singleton_self _⟩
        have hpool : mgr.mRtpPortMngr.mRTPPortFreeList ++ (portOf call'.myRtpPort).toList =
            mgr.mRtpPortMngr.mRTPPortFreeList := (CallsRun.destroy_ports hd).symm.trans hports
        by_contra hne
        rw [CallsRun.toList_portOf hne] at hpool
        exact absurd hpool (by simp)
      · intro hzero _
        exact ⟨_, destroy_noPort hzero _ env others, same.streams, same.handles, rfl⟩

/-- The sample with a live stream of its child registered, on handle 5. -/
def servingMgr : UaMgr :=
  { sampleMgr [17002] with
    media := { (sampleMgr []).media.addStream
      ⟨0, "34020000001320000001", "34020000001320000001_0", 5, 0⟩ with nextRef := 1 } }

theorem fresh_servingMgr : servingMgr.media.Fresh := by
  intro id ms hms
  have hlookup : ((∅ : Std.TreeMap String MediaStream).insert "34020000001320000001_0"
      ⟨0, "34020000001320000001", "34020000001320000001_0", 5, 0⟩)[id]? = some ms := hms
  rw [Std.TreeMap.getElem?_insert] at hlookup
  split at hlookup
  · cases hlookup
    exact Nat.zero_lt_one
  · rw [Std.TreeMap.getElem?_emptyc] at hlookup
    cases hlookup

/-- An offer for a channel that is not there is rejected while another stream is served. -/
theorem rejected_traceless_sample :
    (∃ code warning, .reject code warning ∈ (({} : UaClientCall).receiveInviteOffRequest servingMgr
        (ServerState.sampleEnv ServerState.workingSdk)
        (sampleOffer "34020000001320000009")).actions) ∧
      (RejectedTraceless servingMgr (ServerState.sampleEnv ServerState.workingSdk)
          (fun _ => 0) {} (sampleOffer "34020000001320000009") ↔
        ({} : UaClientCall).CleanRejection servingMgr
          (ServerState.sampleEnv ServerState.workingSdk) (sampleOffer "34020000001320000009")) :=
  ⟨⟨488, "play make bleg error!", by decide +kernel⟩, rejected_traceless_iff fresh_servingMgr _ _ _ _⟩

/-- The preview is open when the pool turns out to be empty: the offer is
rejected, and the destroyed call leaves the stream registered and its handle open. -/
theorem exhausted_play_leaves_stream :
    ¬ RejectedTraceless (sampleMgr []) (ServerState.sampleEnv ServerState.workingSdk)
      (fun _ => 0) {} (sampleOffer "34020000001320000001") := by
  intro htraceless
  obtain ⟨d, hd, hstreams, -, -⟩ := htraceless ⟨488, "Port exhausted!", by decide +kernel⟩
  rw [destroy_noPort (by decide +kernel)] at hd
  obtain rfl := Option.some.inj hd
  exact absurd (hstreams (ServerState.liveStreamId "34020000001320000001" 0)) (by decide +kernel)

end UaClientCall

/-! ### Streams over runs are older than the next object -/

namespace UaClientCall

theorem fresh_onOffer {mgr : UaMgr} (hfresh : mgr.media.Fresh) (env : Env) (call : UaClientCall)
    (o : InviteOffer) : (call.onOffer mgr env o).mgr.media.Fresh := by
  unfold onOffer
  split
  · exact hfresh
  split
  · exact hfresh
  obtain ⟨request, r, -, hr, h⟩ := received_cases mgr env call o
  rw [hr]
  cases h with
  | registered call' stream sdp =>
      rw [(answerOnPort_media mgr call' o stream).1]
      exact hfresh
  | opened call' media key stream sdp made =>
      rw [(answerOnPort_media { mgr with media := media } call' o stream).1]
      exact made.fresh hfresh
  | downloaded call' media key made => exact made.fresh hfresh
  | refused call' media warning port same =>
      exact hfresh.of_old (fun id ms hms => by rw [← same.streams]; exact hms) same.nextRef

theorem fresh_closeStreamStreamId {mgr : UaMgr} (hfresh : mgr.media.Fresh) (env : Env)
    (held : MediaStream → Nat) (streamId : String) :
    (mgr.closeStreamStreamId env held streamId).1.media.Fresh := by
  unfold UaMgr.closeStreamStreamId
  split
  · exact hfresh
  · exact hfresh.close env _ _

theorem fresh_destroy {mgr : UaMgr} (hfresh : mgr.media.Fresh) {env : Env}
    {others : MediaStream → Nat} {call : UaClientCall} {r : UaMgr × Option ServerState.StopCall}
    (h : call.destroy mgr env others = some r) : r.1.media.Fresh := by
  unfold destroy at h
  dsimp only at h
  split at h
  · split at h
    · obtain ⟨mgr', hmgr', rfl⟩ := Option.map_eq_some_iff.mp h
      apply fresh_closeStreamStreamId
      rw [UaMgr.freeRptPort_eq hmgr']
      exact hfresh
    · obtain ⟨mgr', hmgr', rfl⟩ := Option.map_eq_some_iff.mp h
      rw [UaMgr.freeRptPort_eq hmgr']
      exact fresh_closeStreamStreamId hfresh env _ _
  · cases h
    exact hfresh

end UaClientCall

namespace StreamViewers

theorem fresh_step {env : Env} ⦃s : StreamViewers⦄ ⦃e : ViewerEvent⦄ ⦃s' : StreamViewers⦄
    (hfresh : s.media.Fresh) (hstep : step env s e = some s') : s'.media.Fresh := by
  cases e with
  | newCall id =>
      simp only [step] at hstep
      split at hstep
      · cases hstep
        exact hfresh
      · cases hstep
  | offer id o =>
      obtain ⟨call, -, rfl⟩ := Option.map_eq_some_iff.mp hstep
      exact UaClientCall.fresh_onOffer hfresh env call o
  | preview hdl params =>
      cases hstep
      -- only the last branch asks for a stream
      show (WsServer.realTimePlayAction s.media env params).media.Fresh
      unfold WsServer.realTimePlayAction
      split
      · exact hfresh
      · split
        · exact hfresh
        · split
          · exact hfresh
          · exact (s.media.outcome_createLiveStream env _ _).fresh hfresh
  | playback hdl params =>
      cases hstep
      show (WsServer.playBackAction s.media env params).media.Fresh
      unfold WsServer.playBackAction
      split
      · exact hfresh
      · split
        · exact hfresh
        · exact (s.media.outcome_createVodStream env _ _ _).fresh hfresh
  | close v =>
      obtain ⟨r, hr, rfl⟩ := Option.map_eq_some_iff.mp hstep
      cases v with
      | call id =>
          obtain ⟨call, -, hr⟩ := Option.bind_eq_some_iff.mp hr
          obtain ⟨d, hd, rfl⟩ := Option.map_eq_some_iff.mp hr
          exact UaClientCall.fresh_destroy hfresh hd
      | connection hdl =>
          obtain ⟨sinfo, -, rfl⟩ := Option.map_eq_some_iff.mp hr
          cases hms : sinfo.ms with
          | none => exact hfresh
          | some ms => exact hfresh.close env _ ms
  | removeChild deviceId =>
      obtain ⟨child, -, rfl⟩ := Option.map_eq_some_iff.mp hstep
      exact hfresh

/-- In every state of a run, offers meet streams that are older than the next object. -/
theorem fresh_of_run {env : Env} {w : ServerState} {rtp : RTPPortManager}
    {events : List ViewerEvent} {s : StreamViewers}
    (hrun : Lts.exec (step env) (start w rtp) events = some s) : s.media.Fresh := by
  refine Lts.exec_invariant (I := fun s => s.media.Fresh)
    (fun _ _ _ hfresh hstep => fresh_step hfresh hstep) ?_ hrun
  intro id ms hms
  have hnone : (start w rtp).media.findStream id = none := Std.TreeMap.getElem?_emptyc
  rw [hnone] at hms
  cases hms

end StreamViewers

end SignalingServer
