import SignalingServer.Lib.Lts
import SignalingServer.Lib.Table
import SignalingServer.UserAgent.UaClientCall

/-!
RTP ports over runs of calls. An offer that gets as far as the port pool takes
one port and records it in the call; the destruction of the call is the only
place where it is given back. The pool and the calls account for all ports as
long as no such offer meets a call that already holds one.
-/

namespace SignalingServer

namespace UaClientCall

/-! ### What an offer does to the ports -/

/-- The offer gets as far as the port pool: its stream is registered, or the NVR
opens it. -/
def takesPort (mgr : UaMgr) (env : Env) (call : UaClientCall) (o : InviteOffer) : Bool :=
  !o.staleFork && !o.clientTransaction &&
    match subjectArray o.subject with
    | channel :: _ :: _ :: _ :: _ =>
        if o.sdp.name = "Play" then
          (mgr.media.findStream (ServerState.liveStreamId channel 0)).isSome ||
            (mgr.media.createLiveStream env channel 0).2.isSome
        else if o.sdp.name = "Playback" then
          let c := (call.parseOffer o).playbackCall o channel
          (mgr.media.createVodStream env c.channelId c.startTime c.stopTime).2.isSome
        else false
    | _ => false

/-- The offer took a port, and the call holds what it got. -/
def Took (mgr : UaMgr) (r : OfferResult) : Prop :=
  r.mgr.mRtpPortMngr = mgr.mRtpPortMngr.allocateRTPPort.2 ∧
    r.call.myRtpPort = mgr.mRtpPortMngr.allocateRTPPort.1 % 2 ^ 16

/-- The offer left the ports alone. -/
def Kept (mgr : UaMgr) (call : UaClientCall) (r : OfferResult) : Prop :=
  r.mgr.mRtpPortMngr = mgr.mRtpPortMngr ∧ r.call.myRtpPort = call.myRtpPort

theorem took_answerOnPort (mgr : UaMgr) (call : UaClientCall) (o : InviteOffer)
    (stream : Option MediaStream) : Took mgr (answerOnPort mgr call o stream) := by
  unfold answerOnPort
  by_cases hport : mgr.mRtpPortMngr.allocateRTPPort.1 % 2 ^ 16 = 0
  · simp only [hport]
    exact ⟨rfl, hport.symm⟩
  · simp only [if_neg hport]
    split
    · exact ⟨rfl, rfl⟩
    · split
      · exact ⟨rfl, rfl⟩
      · exact ⟨rfl, rfl⟩

theorem playbackCall_myRtpPort (call : UaClientCall) (o : InviteOffer) (channel : String) :
    (call.playbackCall o channel).myRtpPort = call.myRtpPort := by
  obtain ⟨channelId, startTime, stopTime, hcall⟩ := call.playbackCall_eq o channel
  rw [hcall]

theorem playOffer_ports (mgr : UaMgr) (env : Env) (call : UaClientCall) (o : InviteOffer)
    (channel remote : String) :
    if (mgr.media.findStream (ServerState.liveStreamId channel 0)).isSome ||
        (mgr.media.createLiveStream env channel 0).2.isSome then
      Took mgr (call.playOffer mgr env o channel remote)
    else Kept mgr call (call.playOffer mgr env o channel remote) := by
  unfold playOffer
  cases hfind : mgr.media.findStream (ServerState.liveStreamId channel 0) with
  | some mdaStream =>
      simp only [hfind]
      exact took_answerOnPort mgr _ o _
  | none =>
      cases hlive : (mgr.media.createLiveStream env channel 0).2 with
      | some s =>
          simp only [hfind, hlive]
          exact took_answerOnPort { mgr with media := _ } _ o _
      | none =>
          simp only [hfind, hlive]
          exact ⟨rfl, rfl⟩

theorem playbackOffer_ports (mgr : UaMgr) (env : Env) (call : UaClientCall) (o : InviteOffer)
    (channel : String) :
    if (mgr.media.createVodStream env (call.playbackCall o channel).channelId
        (call.playbackCall o channel).startTime (call.playbackCall o channel).stopTime).2.isSome then
      Took mgr (call.playbackOffer mgr env o channel)
    else Kept mgr call (call.playbackOffer mgr env o channel) := by
  unfold playbackOffer
  split
  · rename_i hvod
    simp only [if_pos hvod]
    exact took_answerOnPort { mgr with media := _ } _ o _
  · rename_i hvod
    simp only [if_neg hvod]
    exact ⟨rfl, playbackCall_myRtpPort call o channel⟩

theorem downloadOffer_kept (mgr : UaMgr) (env : Env) (call : UaClientCall) :
    Kept mgr call (call.downloadOffer mgr env) := by
  unfold downloadOffer
  dsimp only
  split
  · exact ⟨rfl, rfl⟩
  · exact ⟨rfl, rfl⟩

@[simp] theorem kept_parseOffer (mgr : UaMgr) (call : UaClientCall) (o : InviteOffer)
    (r : OfferResult) : Kept mgr (call.parseOffer o) r = Kept mgr call r := rfl

/-- An offer takes one port or leaves the ports alone. -/
theorem onOffer_ports (mgr : UaMgr) (env : Env) (call : UaClientCall) (o : InviteOffer) :
    if call.takesPort mgr env o then Took mgr (call.onOffer mgr env o)
    else Kept mgr call (call.onOffer mgr env o) := by
  unfold takesPort onOffer
  by_cases hstale : o.staleFork = true
  · simp [hstale, Kept]
  by_cases hclient : o.clientTransaction = true
  · simp [hclient, Kept]
  simp only [hstale, hclient, receiveInviteOffRequest]
  rcases subjectArray o.subject with _ | ⟨channel, _ | ⟨_, _ | ⟨remote, _ | ⟨_, _⟩⟩⟩⟩
  · exact ⟨rfl, rfl⟩
  · exact ⟨rfl, rfl⟩
  · exact ⟨rfl, rfl⟩
  · exact ⟨rfl, rfl⟩
  by_cases hplay : o.sdp.name = "Play"
  · simpa [hplay] using (call.parseOffer o).playOffer_ports mgr env o channel remote
  by_cases hplayback : o.sdp.name = "Playback"
  · simpa [hplay, hplayback] using (call.parseOffer o).playbackOffer_ports mgr env o channel
  by_cases hdownload : o.sdp.name = "Download"
  · simpa [hplay, hplayback, hdownload] using (call.parseOffer o).downloadOffer_kept mgr env
  · simp [hplay, hplayback, hdownload, Kept, rejectOffer, parseOffer]

end UaClientCall

/-! ### Runs of calls -/

/-- The port that a call records; 0 is none. -/
def portOf (port : Nat) : Option Nat := if port = 0 then none else some port

/-- The process: what calls share, and the live calls. -/
structure CallsRun where
  mgr : UaMgr
  calls : Table Nat UaClientCall

/-- Calls come, receive offers, connect as clients and are destroyed; the rest of
the process may do anything to the streams in between. -/
inductive CallEvent where
  | newCall (id : Nat)
  | offer (id : Nat) (o : InviteOffer)
  | connected (id : Nat)
  | destroy (id : Nat) (others : MediaStream → Nat)
  | media (w : ServerState)

namespace CallsRun

def step (env : Env) : Lts.Step CallsRun CallEvent
  | s, .newCall id =>
      if s.calls.lookup id = none then some { s with calls := s.calls.insert id {} } else none
  | s, .offer id o =>
      (s.calls.lookup id).map fun call =>
        ⟨(call.onOffer s.mgr env o).mgr, s.calls.insert id (call.onOffer s.mgr env o).call⟩
  | s, .connected id =>
      (s.calls.lookup id).map fun call =>
        { s with calls := s.calls.insert id { call with uacConnected := true } }
  | s, .destroy id others =>
      (s.calls.lookup id).bind fun call =>
        (call.destroy s.mgr env others).map fun r => ⟨r.1, s.calls.erase id⟩
  | s, .media w => some { s with mgr := { s.mgr with media := w } }

/-- No call, and a new pool. -/
def start (portRangeMin portRangeMax : Nat) (w : ServerState) : CallsRun :=
  ⟨⟨w, .new portRangeMin portRangeMax, []⟩, ∅⟩

/-- The ports recorded in live calls. -/
def portsHeld (s : CallsRun) : List Nat := Table.gather (fun call => portOf call.myRtpPort) s.calls

/-- The free list and the live calls have each port of `ports` once between
them, and no port is in two calls. -/
def Conserved (ports : List Nat) (s : CallsRun) : Prop :=
  (s.mgr.mRtpPortMngr.mRTPPortFreeList ++ s.portsHeld).Perm ports ∧ s.portsHeld.Nodup

/-- An offer that gets as far as the pool finds a call without a port, and at the
head of the free list, if anywhere, a port that the call can record. -/
def FreshPort (env : Env) (s : CallsRun) : CallEvent → Prop
  | .offer id o => ∀ call, s.calls.lookup id = some call → call.takesPort s.mgr env o →
      call.myRtpPort = 0 ∧
        ∀ port, s.mgr.mRtpPortMngr.mRTPPortFreeList.head? = some port → 0 < port ∧ port < 2 ^ 16
  | _ => True

/-! ### One step -/

theorem toList_portOf {port : Nat} (h : port ≠ 0) : (portOf port).toList = [port] := by
  rw [portOf, if_neg h]
  rfl

theorem length_portOf_le (port : Nat) : (portOf port).toList.length ≤ 1 := by
  unfold portOf
  split <;> simp

/-- Taking the port at the head of `free` into a call that held `port` conserves
the ports exactly when the call held none and can record the new one. -/
theorem take_perm_iff {ports free others : List Nat} {port : Nat}
    (h : (free ++ ((portOf port).toList ++ others)).Perm ports) :
    (free.tail ++ ((portOf (free.headD 0 % 2 ^ 16)).toList ++ others)).Perm ports ↔
      port = 0 ∧ ∀ p, free.head? = some p → 0 < p ∧ p < 2 ^ 16 := by
  constructor
  · intro hnew
    have hsame := hnew.trans h.symm
    have hlen := hsame.length_eq
    simp only [List.length_append] at hlen
    have hport : port = 0 := by
      by_contra hport
      rw [toList_portOf hport] at hlen
      cases free with
      | nil =>
          have hnone : (portOf (0 % 2 ^ 16)).toList.length = 0 := rfl
          simp only [List.headD_nil, List.tail_nil, List.length_cons, List.length_nil] at hlen
          omega
      | cons p free =>
          have hle := length_portOf_le (p % 2 ^ 16)
          simp only [List.headD_cons, List.tail_cons, List.length_cons, List.length_nil] at hlen
          omega
    refine ⟨hport, fun p hp => ?_⟩
    obtain ⟨free, rfl⟩ := List.head?_eq_some_iff.mp hp
    subst hport
    have hrec : p % 2 ^ 16 ≠ 0 := by
      intro hzero
      rw [List.headD_cons, hzero, List.tail_cons, List.length_cons] at hlen
      omega
    -- The recorded port is the one that left the pool, so it was not cut off.
    have hcut : p % 2 ^ 16 = p := by
      rw [List.headD_cons, List.tail_cons, toList_portOf hrec] at hsame
      have hcount : List.count p (p % 2 ^ 16 :: (free ++ others)) =
          List.count p (p :: (free ++ others)) := (List.perm_middle.symm.trans hsame).count_eq p
      by_contra hne
      rw [List.count_cons_of_ne hne, List.count_cons_self] at hcount
      omega
    omega
  · rintro ⟨rfl, hhead⟩
    cases free with
    | nil => simpa [portOf] using h
    | cons p free =>
        obtain ⟨hpos, hlt⟩ := hhead p rfl
        have hmod : p % 2 ^ 16 = p := Nat.mod_eq_of_lt hlt
        rw [List.headD_cons, List.tail_cons, hmod, toList_portOf hpos.ne']
        exact List.perm_middle.trans (by simpa [portOf] using h)

theorem allocateRTPPort_eq (m : RTPPortManager) :
    m.allocateRTPPort.1 = m.mRTPPortFreeList.headD 0 ∧
      m.allocateRTPPort.2.mRTPPortFreeList = m.mRTPPortFreeList.tail := by
  unfold RTPPortManager.allocateRTPPort
  cases h : m.mRTPPortFreeList with
  | nil => exact ⟨rfl, h⟩
  | cons port rest => exact ⟨rfl, rfl⟩

/-- Destroying a call gives its port back, if it has one. -/
theorem destroy_ports {mgr : UaMgr} {env : Env} {others : MediaStream → Nat}
    {call : UaClientCall} {r : UaMgr × Option ServerState.StopCall}
    (h : call.destroy mgr env others = some r) :
    r.1.mRtpPortMngr.mRTPPortFreeList =
      mgr.mRtpPortMngr.mRTPPortFreeList ++ (portOf call.myRtpPort).toList := by
  unfold UaClientCall.destroy at h
  by_cases hport : call.myRtpPort > 0
  · have hrec : (portOf call.myRtpPort).toList = [call.myRtpPort] := by
      simp [portOf, Nat.pos_iff_ne_zero.mp hport]
    rw [hrec]
    simp only [if_pos hport] at h
    split at h
    · obtain ⟨m, hm, rfl⟩ := Option.map_eq_some_iff.mp h
      rw [UaMgr.closeStreamStreamId_mRtpPortMngr, UaMgr.freeRptPort_eq hm]
    · obtain ⟨m, hm, rfl⟩ := Option.map_eq_some_iff.mp h
      rw [UaMgr.freeRptPort_eq hm, UaMgr.closeStreamStreamId_mRtpPortMngr]
  · have hzero : call.myRtpPort = 0 := by omega
    simp only [if_neg hport] at h
    cases h
    simp [portOf, hzero]

variable {env : Env} {ports : List Nat} {s s' : CallsRun}

/-- A call's record changes, and nothing else that holds ports. -/
theorem portsHeld_insert {id : Nat} {call : UaClientCall} (hcall : s.calls.lookup id = some call)
    (call' : UaClientCall) (mgr : UaMgr) :
    s.portsHeld.Perm ((portOf call.myRtpPort).toList ++
        Table.gather (fun call => portOf call.myRtpPort) (s.calls.erase id)) ∧
      portsHeld ⟨mgr, s.calls.insert id call'⟩ = (portOf call'.myRtpPort).toList ++
        Table.gather (fun call => portOf call.myRtpPort) (s.calls.erase id) :=
  ⟨Table.gather_perm _ hcall, Table.gather_insert _ _ _ _⟩

/-- Without doubles in `ports`, no port is in two calls as soon as all are accounted for. -/
theorem conserved_of_perm (hports : ports.Nodup)
    (h : (s.mgr.mRtpPortMngr.mRTPPortFreeList ++ s.portsHeld).Perm ports) : Conserved ports s :=
  ⟨h, (List.nodup_append.mp (h.nodup_iff.mpr hports)).2.1⟩

/-- An offer conserves the ports exactly under the condition on it. -/
theorem conserved_offer_iff (hports : ports.Nodup) (h : Conserved ports s) {id : Nat}
    {o : InviteOffer} (hstep : step env s (.offer id o) = some s') :
    Conserved ports s' ↔ FreshPort env s (.offer id o) := by
  obtain ⟨call, hcall, rfl⟩ := Option.map_eq_some_iff.mp hstep
  obtain ⟨hold, hnew⟩ := portsHeld_insert hcall (call.onOffer s.mgr env o).call
    (call.onOffer s.mgr env o).mgr
  have hbefore := ((hold.symm.append_left _).trans h.1)
  have hport := call.onOffer_ports s.mgr env o
  by_cases htakes : call.takesPort s.mgr env o = true
  · rw [if_pos htakes] at hport
    obtain ⟨hpool, hrec⟩ := hport
    -- the port taken goes from the head of the pool into the call, over what was there
    obtain ⟨hhead, htail⟩ := allocateRTPPort_eq s.mgr.mRtpPortMngr
    have htake := take_perm_iff hbefore
    constructor
    · intro hafter call' hcall' _
      rw [hcall] at hcall'
      cases hcall'
      apply htake.mp
      have := hafter.1
      rwa [hnew, hpool, hrec, hhead, htail] at this
    · intro hfresh
      apply conserved_of_perm hports
      rw [hnew, hpool, hrec, hhead, htail]
      exact htake.mpr (hfresh call hcall htakes)
  · rw [if_neg htakes] at hport
    obtain ⟨hpool, hrec⟩ := hport
    constructor
    · intro _ call' hcall' htakes'
      rw [hcall] at hcall'
      cases hcall'
      exact absurd htakes' htakes
    · intro _
      apply conserved_of_perm hports
      rw [hnew, hpool, hrec]
      exact hbefore

theorem preserves_conserved (hports : ports.Nodup) :
    Lts.Preserves (step env) (FreshPort env) (Conserved ports) := by
  intro s e s' h hfresh hstep
  cases e with
  | newCall id =>
      simp only [step] at hstep
      split at hstep
      · rename_i hnone
        cases hstep
        apply conserved_of_perm hports
        have hsame : portsHeld ⟨s.mgr, s.calls.insert id {}⟩ = s.portsHeld := by
          simp [portsHeld, Table.gather_insert, Table.erase_of_fresh hnone, portOf]
        rw [hsame]
        exact h.1
      · cases hstep
  | offer id o => exact (conserved_offer_iff hports h hstep).mpr hfresh
  | connected id =>
      obtain ⟨call, hcall, rfl⟩ := Option.map_eq_some_iff.mp hstep
      obtain ⟨hold, hnew⟩ := portsHeld_insert hcall { call with uacConnected := true } s.mgr
      apply conserved_of_perm hports
      rw [hnew]
      exact (hold.symm.append_left _).trans h.1
  | destroy id others =>
      obtain ⟨call, hcall, hdestroy⟩ := Option.bind_eq_some_iff.mp hstep
      obtain ⟨r, hr, rfl⟩ := Option.map_eq_some_iff.mp hdestroy
      apply conserved_of_perm hports
      have hheld : portsHeld ⟨r.1, s.calls.erase id⟩ =
          Table.gather (fun call => portOf call.myRtpPort) (s.calls.erase id) := rfl
      -- the port of the call moves from the calls to the end of the pool
      rw [hheld, destroy_ports hr, List.append_assoc]
      exact ((Table.gather_perm _ hcall).symm.append_left _).trans h.1
  | media w =>
      cases hstep
      exact h

/-- Ports are conserved in every state of a run exactly when every offer of the
run that gets as far as the pool meets its condition. -/
theorem ports_conserved_iff (env : Env) (portRangeMin portRangeMax : Nat) (w : ServerState)
    (events : List CallEvent) :
    Lts.Along (step env)
        (Conserved (RTPPortManager.new portRangeMin portRangeMax).mRTPPortFreeList)
        (start portRangeMin portRangeMax w) events ↔
      Lts.Guarded (step env) (FreshPort env) (start portRangeMin portRangeMax w) events := by
  have hports := RTPPortManager.nodup_new portRangeMin portRangeMax
  apply Lts.along_iff_guarded (preserves_conserved hports) (fun _ h => h)
  · intro s e s' h hstep hafter
    cases e with
    | offer id o => exact (conserved_offer_iff hports h hstep).mp hafter
    | _ => trivial
  · apply conserved_of_perm hports
    simp [start, portsHeld, RTPPortManager.new]

/-- A second offer on the call overwrites the port of the first, which is then
neither free nor recorded. -/
theorem second_offer_loses_port :
    ∃ t, Lts.exec (step (ServerState.sampleEnv ServerState.workingSdk))
        (start 17000 17004 (ServerState.sampleState (ChildMap.empty.addChildDevice
          (ServerState.sampleChild "7" "34020000001320000001" 1))))
        [.newCall 1, .offer 1 (UaClientCall.sampleOffer "34020000001320000001"),
          .offer 1 (UaClientCall.sampleOffer "34020000001320000001")] = some t ∧
      t.mgr.mRtpPortMngr.mRTPPortFreeList = [17004] ∧ t.portsHeld = [17002] ∧
      ¬ Conserved (RTPPortManager.new 17000 17004).mRTPPortFreeList t := by
  have hrun : (Lts.exec (step (ServerState.sampleEnv ServerState.workingSdk))
      (start 17000 17004 (ServerState.sampleState (ChildMap.empty.addChildDevice
        (ServerState.sampleChild "7" "34020000001320000001" 1))))
      [.newCall 1, .offer 1 (UaClientCall.sampleOffer "34020000001320000001"),
        .offer 1 (UaClientCall.sampleOffer "34020000001320000001")]).map
      (fun t => (t.mgr.mRtpPortMngr.mRTPPortFreeList, t.portsHeld)) =
        some ([17004], [17002]) := by decide
  obtain ⟨t, ht, hports⟩ := Option.map_eq_some_iff.mp hrun
  obtain ⟨hfree, hheld⟩ := Prod.mk.inj hports
  refine ⟨t, ht, hfree, hheld, fun hconserved => ?_⟩
  have hlost := hconserved.1.length_eq
  rw [hfree, hheld] at hlost
  exact absurd hlost (by decide)

end CallsRun

end SignalingServer
