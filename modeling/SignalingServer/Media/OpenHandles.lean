import SignalingServer.Media.StreamMap

/-!
The stream handles that are open at the NVRs, and the identity of stream
objects. A request that makes no stream leaves the map, the handles and the
objects as they were; one that makes a stream registers a new object.
-/

namespace SignalingServer

/-- A stream handle of the SDK. -/
inductive StreamHandle where
  | preview (handle : Nat)
  | playBack (handle : Nat)
  deriving DecidableEq, Repr

namespace JsonSdkInterface

/-- What one call does to the open handles. A call that ends with an error opens
and closes nothing. -/
def trackHandle (handles : List StreamHandle) (e : SdkCall × SdkAnswer) : List StreamHandle :=
  if e.2.err = 0 then
    match e.1 with
    | .vskPreview _ _ _ => .preview e.2.handle :: handles
    | .playBack _ _ _ _ => .playBack e.2.handle :: handles
    | .stopPreview handle => handles.erase (.preview handle)
    | .stopPlayBack handle => handles.erase (.playBack handle)
    | _ => handles
  else handles

/-- The handles that calls have opened and not stopped since. -/
def openHandles (w : JsonSdkInterface) : List StreamHandle := w.log.foldl trackHandle []

/-- `w'` is `w` after further calls, none of which opened or closed a stream. -/
def Quiet (w w' : JsonSdkInterface) : Prop :=
  ∃ made, w'.log = w.log ++ made ∧ ∀ e ∈ made, ∀ handles, trackHandle handles e = handles

theorem Quiet.refl (w : JsonSdkInterface) : Quiet w w := ⟨[], by simp, by simp⟩

theorem Quiet.trans {w w' w'' : JsonSdkInterface} (h : Quiet w w') (h' : Quiet w' w'') :
    Quiet w w'' := by
  obtain ⟨made, hlog, hmade⟩ := h
  obtain ⟨made', hlog', hmade'⟩ := h'
  refine ⟨made ++ made', by rw [hlog', hlog, List.append_assoc], fun e he => ?_⟩
  rcases List.mem_append.mp he with he | he
  · exact hmade e he
  · exact hmade' e he

theorem foldl_trackHandle {made : List (SdkCall × SdkAnswer)}
    (h : ∀ e ∈ made, ∀ handles, trackHandle handles e = handles) (handles : List StreamHandle) :
    made.foldl trackHandle handles = handles := by
  induction made with
  | nil => rfl
  | cons e made ih =>
      rw [List.foldl_cons, h e List.mem_cons_self]
      exact ih fun e' he' => h e' (List.mem_cons_of_mem _ he')

theorem Quiet.openHandles {w w' : JsonSdkInterface} (h : Quiet w w') :
    w'.openHandles = w.openHandles := by
  obtain ⟨made, hlog, hmade⟩ := h
  show w'.log.foldl trackHandle [] = w.log.foldl trackHandle []
  rw [hlog, List.foldl_append, foldl_trackHandle hmade]

end JsonSdkInterface

/-- The calls that are about no stream handle. -/
def SdkCall.OffStreams : SdkCall → Prop
  | .vskPreview _ _ _ | .playBack _ _ _ _ | .stopPreview _ | .stopPlayBack _ => False
  | _ => True

theorem JsonSdkInterface.CallsOnly.quiet {w w' : JsonSdkInterface}
    (h : CallsOnly SdkCall.OffStreams w w') : Quiet w w' := by
  obtain ⟨made, hlog, hmade⟩ := h
  refine ⟨made, hlog, fun ⟨c, a⟩ he handles => ?_⟩
  have hoff : c.OffStreams := hmade (c, a) he
  unfold trackHandle
  split
  · cases c <;> first | rfl | cases hoff
  · rfl

namespace NvrSession

theorem frame_offStreams : Frame SdkCall.OffStreams :=
  ⟨trivial, fun _ _ _ _ => trivial, fun _ => trivial⟩

theorem quiet_opened (s : NvrSession) (env : Sdk) : s.sdk.Quiet (s.opened env).1.sdk :=
  (callsOnly_opened frame_offStreams s env).quiet

/-- An SDK call that ends with an error changes no handle, whatever it was for. -/
theorem quiet_failed_call {s : NvrSession} {env : Sdk} {c : SdkCall} (h : (s.ask env c).err ≠ 0) :
    s.sdk.Quiet (s.call env c).sdk := by
  refine ⟨[(c, s.ask env c)], rfl, fun e he handles => ?_⟩
  obtain rfl := List.mem_singleton.mp he
  exact if_neg h

/-- An operation that reports an error changed no handle. -/
theorem quiet_operate {s : NvrSession} {env : Sdk} {err : Int} {op : Nat → SdkCall}
    (h : (s.operate env err op).err ≠ 0) : s.sdk.Quiet (s.operate env err op).session.sdk := by
  unfold operate at h ⊢
  split
  · rename_i hlogin
    simp only [if_pos hlogin] at h
    dsimp only
    split
    · -- the session was expired, so the call itself had failed
      rename_i hexp
      refine (quiet_failed_call (expired_ne_zero hexp)).trans ?_
      have hout := JsonSdkInterface.callsOnly_call (P := SdkCall.OffStreams)
        (c := .jsonSdkLogOut s.nvr.mLoginId) trivial (s.call env (op s.nvr.mLoginId)).sdk env
      exact hout.quiet
    · rename_i hexp
      rw [if_neg hexp] at h
      exact quiet_failed_call h
  · exact .refl _

theorem quiet_logInOp {s : NvrSession} {env : Sdk} {op : Nat → SdkCall}
    (h : (s.logInOp env op).err ≠ 0) : s.sdk.Quiet (s.logInOp env op).session.sdk :=
  (quiet_opened s env).trans (quiet_operate h)

end NvrSession

namespace ServerState

/-! ### Requests that make no stream -/

theorem callsOnly_listChannel (w : ServerState) (env : Env) (child : JsonChildDevic) (ref : Nat)
    (nvr : JsonNvrDevic) :
    w.sdk.CallsOnly SdkCall.OffStreams (w.listChannel env child ref nvr).1.sdk := by
  have hlist : w.sdk.CallsOnly SdkCall.OffStreams ((w.session nvr).devListIPC env.sdk).session.sdk :=
    NvrSession.callsOnly_logInOp NvrSession.frame_offStreams
      (fun id => show (SdkCall.listIPC id).OffStreams from trivial) _ _
  unfold listChannel
  dsimp only
  split
  · split
    · exact hlist
    · exact hlist
  · exact hlist

theorem callsOnly_prepareVod (w : ServerState) (env : Env) (deviceId : String) :
    w.sdk.CallsOnly SdkCall.OffStreams (w.prepareVod env deviceId).1.sdk := by
  unfold prepareVod
  split
  · exact .refl _ _
  · rename_i child ref nvr _
    have hlist := w.callsOnly_listChannel env child ref nvr
    dsimp only
    split
    · exact hlist
    · exact hlist

theorem callsOnly_prepareLive (w : ServerState) (env : Env) (deviceId : String) :
    w.sdk.CallsOnly SdkCall.OffStreams (w.prepareLive env deviceId).1.sdk := by
  unfold prepareLive
  split
  · exact .refl _ _
  · rename_i child ref nvr _
    have hlist := w.callsOnly_listChannel env child ref nvr
    dsimp only
    split
    · exact hlist.trans (NvrSession.callsOnly_getChannelEncoderParam NvrSession.frame_offStreams
        (fun _ => trivial) _ _)
    · exact hlist

theorem quiet_openStream {w : ServerState}
    {prepared : ServerState × Option (Nat × JsonNvrDevic × Int)}
    (hprep : w.sdk.Quiet prepared.1.sdk) {env : Env} {call : Int → Nat → SdkCall}
    {deviceId streamId : String} {streamType : Int}
    (h : (openStream env call deviceId streamId streamType prepared).2 = none) :
    w.sdk.Quiet (openStream env call deviceId streamId streamType prepared).1.sdk := by
  rcases prepared with ⟨w', _ | ⟨ref, nvr, chl⟩⟩
  · exact hprep
  · unfold openStream at h ⊢
    dsimp only at h ⊢
    split
    · rename_i herr
      simp [herr] at h
    · rename_i herr
      exact hprep.trans (NvrSession.quiet_logInOp herr)

theorem quiet_createLiveStream {w : ServerState} {env : Env} {deviceId : String} {streamNo : Int}
    (h : (w.createLiveStream env deviceId streamNo).2 = none) :
    w.sdk.Quiet (w.createLiveStream env deviceId streamNo).1.sdk :=
  quiet_openStream (w.callsOnly_prepareLive env deviceId).quiet h

theorem quiet_createVodStream {w : ServerState} {env : Env} {deviceId : String}
    {start stop : Int} (h : (w.createVodStream env deviceId start stop).2 = none) :
    w.sdk.Quiet (w.createVodStream env deviceId start stop).1.sdk :=
  quiet_openStream (w.callsOnly_prepareVod env deviceId).quiet h

/-! ### What a request leaves behind -/

/-- The streams and their handles are as they were. -/
structure SameStreams (w w' : ServerState) : Prop where
  streams : ∀ id, w'.findStream id = w.findStream id
  handles : w'.sdk.openHandles = w.sdk.openHandles
  nextRef : w'.nextRef = w.nextRef

theorem SameStreams.refl (w : ServerState) : SameStreams w w := ⟨fun _ => rfl, rfl, rfl⟩

/-- A new object is registered under `key`. -/
structure NewStream (w : ServerState) (key : String) (w' : ServerState) : Prop where
  found : ∃ ms, w'.findStream key = some ms ∧ ms.ref = w.nextRef
  others : ∀ id, id ≠ key → w'.findStream id = w.findStream id
  nextRef : w'.nextRef = w.nextRef + 1

/-- Streams are older than the next object. -/
def Fresh (w : ServerState) : Prop := ∀ id ms, w.findStream id = some ms → ms.ref < w.nextRef

theorem NewStream.fresh {w w' : ServerState} {key : String} (h : NewStream w key w')
    (hw : w.Fresh) : w'.Fresh := by
  obtain ⟨ms, hms, href⟩ := h.found
  intro id ms' hms'
  rw [h.nextRef]
  by_cases hne : id = key
  · rw [hne, hms] at hms'
    cases hms'
    omega
  · rw [h.others id hne] at hms'
    exact Nat.lt_succ_of_lt (hw id ms' hms')

/-- The new object is not the one that was registered before. -/
theorem NewStream.ne {w w' : ServerState} {key : String} (h : NewStream w key w')
    (hw : w.Fresh) : w'.findStream key ≠ w.findStream key := by
  obtain ⟨ms, hms, href⟩ := h.found
  intro hsame
  rw [hms] at hsame
  exact absurd (hw key ms hsame.symm) (by omega)

/-- Streams that were there before are older than any later object. -/
theorem Fresh.of_old {w w' : ServerState} (hw : w.Fresh)
    (hold : ∀ id ms, w'.findStream id = some ms → w.findStream id = some ms)
    (href : w'.nextRef = w.nextRef) : w'.Fresh := by
  intro id ms hms
  rw [href]
  exact hw id ms (hold id ms hms)

/-- What a request for a stream comes to. -/
def Outcome (w : ServerState) (key : String) (r : ServerState × Option MediaStream) : Prop :=
  if r.2.isSome then NewStream w key r.1 else SameStreams w r.1

theorem Outcome.fresh {w : ServerState} {key : String} {r : ServerState × Option MediaStream}
    (h : Outcome w key r) (hw : w.Fresh) : r.1.Fresh := by
  unfold Outcome at h
  split at h
  · exact h.fresh hw
  · exact hw.of_old (fun id ms hms => by rw [← h.streams]; exact hms) h.nextRef

theorem outcome_requested {child : JsonChildDevic} {w : ServerState} {gbId key : String}
    {streamType : Int} {r : ServerState × Option MediaStream}
    (h : Requested child w gbId key streamType r) (hquiet : r.2 = none → w.sdk.Quiet r.1.sdk) :
    Outcome w key r := by
  obtain ⟨w', hlooked, rfl | ⟨handle, rfl⟩⟩ := h
  · exact ⟨hlooked.findStream, (hquiet rfl).openHandles, hlooked.nextRef⟩
  · have hfind := w'.findStream_addStream_newStream gbId key handle streamType
    refine ⟨⟨_, by rw [hfind, if_pos rfl], hlooked.nextRef⟩, fun id hne => ?_, ?_⟩
    · rw [hfind, if_neg hne]
      exact hlooked.findStream id
    · show w'.nextRef + 1 = w.nextRef + 1
      rw [hlooked.nextRef]

theorem outcome_createLiveStream (w : ServerState) (env : Env) (gbId : String) (streamNo : Int) :
    Outcome w (liveStreamId gbId streamNo) (w.createLiveStream env gbId streamNo) := by
  cases hloc : w.locate gbId with
  | none =>
      have hnone : w.createLiveStream env gbId streamNo = (w, none) := by
        simp [createLiveStream, prepareLive, hloc]
      rw [hnone]
      exact .refl w
  | some p =>
      exact outcome_requested (requested_createLiveStream env streamNo hloc) quiet_createLiveStream

theorem outcome_createVodStream (w : ServerState) (env : Env) (gbId : String) (start stop : Int) :
    Outcome w (createStreamId env gbId start stop) (w.createVodStream env gbId start stop) := by
  cases hloc : w.locate gbId with
  | none =>
      have hnone : w.createVodStream env gbId start stop = (w, none) := by
        simp [createVodStream, prepareVod, hloc]
      rw [hnone]
      exact .refl w
  | some p =>
      exact outcome_requested (requested_createVodStream env start stop hloc) quiet_createVodStream

/-! ### Closes -/

theorem nextRef_closeStreamByStreamId (w : ServerState) (env : Env) (held : MediaStream → Nat)
    (ms : MediaStream) : (w.closeStreamByStreamId env held ms).1.nextRef = w.nextRef := by
  have hremove (w : ServerState) (id : String) : (w.removeStream held id).nextRef = w.nextRef := by
    unfold removeStream
    split
    · rfl
    · rfl
  have hstop (ref : Nat) (nvr : JsonNvrDevic) :
      (w.stopHandle env ms ref nvr).1.nextRef = w.nextRef := by
    unfold stopHandle
    split
    · rfl
    · rfl
  unfold closeStreamByStreamId
  split
  · split
    · rfl
    · unfold stopStream
      dsimp only
      split
      · rw [hremove, hstop]
      · rw [hstop]
  · rfl

theorem Fresh.close {w : ServerState} (hw : w.Fresh) (env : Env) (held : MediaStream → Nat)
    (ms : MediaStream) : (w.closeStreamByStreamId env held ms).1.Fresh := by
  refine hw.of_old (fun id ms' hms' => ?_) (w.nextRef_closeStreamByStreamId env held ms)
  rcases (w.shrunk_close env held ms).streams id with hsame | ⟨-, hnone⟩
  · rw [← hsame]
    exact hms'
  · rw [hnone] at hms'
    cases hms'

end ServerState

end SignalingServer
