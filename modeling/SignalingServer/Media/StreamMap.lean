import SignalingServer.Media.MediaMng

/-!
The stream map as an invariant: every stream is registered under its own id, can
be stopped, and its owner id leads the close path to a child of an NVR.
-/

namespace SignalingServer

namespace ServerState

/-- Only one child has the GB id, and it is stored under it. -/
def Addressable (w : ServerState) (gbId : String) : Prop :=
  ∀ id child, w.children.findChildDevice id = some child → child.mGBID = gbId → id = gbId

/-- The close path, which asks for a database id, finds the child with the GB id. -/
def Owned (w : ServerState) (gbId : String) : Prop :=
  ∀ id child, w.children.findChildDevice id = some child → child.mGBID = gbId →
    id = gbId ∧ (w.parentNvr child).isSome

structure Registered (w : ServerState) : Prop where
  keyed : ∀ id ms, w.findStream id = some ms → ms.streamId = id
  owned : ∀ id ms, w.findStream id = some ms → (stopOp ms).isSome ∧ w.Owned ms.deviceId

theorem findStream_addStream (w : ServerState) (ms : MediaStream) (id : String) :
    (w.addStream ms).findStream id = if id = ms.streamId then some ms else w.findStream id :=
  OrdMap.getElem?_insert w.mStreamMap ms.streamId id ms

/-- A stream that is made and entered is found under its id. -/
theorem findStream_addStream_newStream (w : ServerState) (gbId key : String) (handle : Nat)
    (streamType : Int) (id : String) :
    ((w.newStream gbId key handle streamType).1.addStream
        (w.newStream gbId key handle streamType).2).findStream id =
      if id = key then some (w.newStream gbId key handle streamType).2
      else w.findStream id :=
  findStream_addStream _ _ id

theorem findStream_eraseStream (w : ServerState) (key id : String) :
    (w.eraseStream key).findStream id =
      if id = key then none else w.findStream id :=
  OrdMap.getElem?_erase w.mStreamMap key id

/-- The live streams that are registered in `w'` and were not in `w`. -/
def newPreviews (w w' : ServerState) : List MediaStream :=
  (w'.mStreamMap.toList.map (·.2)).filter fun ms =>
    ms.streamType = 0 ∧ w.findStream ms.streamId ≠ some ms

theorem Registered.mem_newPreviews {w w' : ServerState} (h : w'.Registered) {ms : MediaStream}
    (hms : ms ∈ newPreviews w w') :
    w'.findStream ms.streamId = some ms ∧ w.findStream ms.streamId ≠ some ms := by
  rw [newPreviews, List.mem_filter, List.mem_map] at hms
  obtain ⟨⟨⟨key, ms'⟩, hmem, rfl⟩, hnew⟩ := hms
  have hfind : w'.findStream key = some ms' :=
    Std.TreeMap.mem_toList_iff_getElem?_eq_some.mp hmem
  have hkey := h.keyed key ms' hfind
  have hnew := (of_decide_eq_true hnew).2
  subst hkey
  exact ⟨hfind, hnew⟩

theorem Registered.nodup_newPreviews {w w' : ServerState} (h : w'.Registered) :
    (newPreviews w w').Nodup := by
  apply List.Pairwise.filter
  rw [List.pairwise_map]
  apply List.Pairwise.imp_of_mem _ (Std.TreeMap.distinct_keys_toList)
  rintro ⟨key, ms⟩ ⟨key', ms'⟩ hmem hmem' hne rfl
  have hkey := h.keyed key ms (Std.TreeMap.mem_toList_iff_getElem?_eq_some.mp hmem)
  have hkey' := h.keyed key' ms (Std.TreeMap.mem_toList_iff_getElem?_eq_some.mp hmem')
  exact hne (by simp [← hkey, ← hkey'])

theorem isSome_parentNvr {w w' : ServerState} {child child' : JsonChildDevic}
    (hnvrs : ∀ ref, (w.nvrs ref).isSome → (w'.nvrs ref).isSome)
    (hparent : child'.mParentDev = child.mParentDev) (h : (w.parentNvr child).isSome) :
    (w'.parentNvr child').isSome := by
  unfold parentNvr at h ⊢
  rw [hparent]
  cases href : child.mParentDev with
  | none => simp [href] at h
  | some ref =>
      simp only [href, Option.isSome_map] at h ⊢
      exact hnvrs ref h

/-! ### Requests -/

theorem locate_eq_some {w : ServerState} {gbId : String} {child : JsonChildDevic} {ref : Nat}
    {nvr : JsonNvrDevic} (h : w.locate gbId = some (child, ref, nvr)) :
    w.children.findChildDevice child.deviceId = some child ∧ child.mGBID = gbId ∧
      w.parentNvr child = some (ref, nvr) := by
  unfold locate at h
  split at h
  · cases h
  · cases hfind : w.children.findChildDeviceByGBID gbId with
    | none => simp [hfind] at h
    | some child' =>
        simp only [hfind, Option.map_eq_some_iff, Prod.mk.injEq] at h
        obtain ⟨p, hp, rfl, rfl⟩ := h
        obtain ⟨hmem, hgb⟩ := ChildMap.findChildDeviceByGBID_eq_some hfind
        exact ⟨hmem, hgb, hp⟩

/-- Looking a child up changes no identifier and no parent in the table. -/
theorem LookedUp.child {child : JsonChildDevic} {w w' : ServerState} (h : LookedUp child w w')
    (hchild : w.children.findChildDevice child.deviceId = some child) {id : String}
    {c' : JsonChildDevic} (hc' : w'.children.findChildDevice id = some c') :
    ∃ c, w.children.findChildDevice id = some c ∧ c'.mGBID = c.mGBID ∧
      c'.mParentDev = c.mParentDev := by
  rcases h.children with hsame | ⟨status, hset⟩
  · rw [hsame] at hc'
    exact ⟨c', hc', rfl, rfl⟩
  · rw [hset, ChildMap.findChildDevice_addChildDevice] at hc'
    split at hc'
    · rename_i hid
      cases hc'
      subst hid
      exact ⟨child, hchild, rfl, rfl⟩
    · exact ⟨c', hc', rfl, rfl⟩

theorem LookedUp.owned {child : JsonChildDevic} {w w' : ServerState} (h : LookedUp child w w')
    (hchild : w.children.findChildDevice child.deviceId = some child) {gbId : String}
    (howned : w.Owned gbId) : w'.Owned gbId := by
  intro id c' hc' hgb
  obtain ⟨c, hc, hcgb, hparent⟩ := h.child hchild hc'
  obtain ⟨hid, hnvr⟩ := howned id c hc (hcgb ▸ hgb)
  exact ⟨hid, isSome_parentNvr h.nvrs hparent hnvr⟩

theorem LookedUp.findStream {child : JsonChildDevic} {w w' : ServerState}
    (h : LookedUp child w w') (id : String) : w'.findStream id = w.findStream id := by
  rw [ServerState.findStream, ServerState.findStream, h.streams]

theorem LookedUp.registered {child : JsonChildDevic} {w w' : ServerState}
    (h : LookedUp child w w')
    (hchild : w.children.findChildDevice child.deviceId = some child) (hw : w.Registered) :
    w'.Registered := by
  refine ⟨fun id ms hms => ?_, fun id ms hms => ?_⟩
  · rw [h.findStream] at hms
    exact hw.keyed id ms hms
  · rw [h.findStream] at hms
    obtain ⟨hop, howned⟩ := hw.owned id ms hms
    exact ⟨hop, h.owned hchild howned⟩

/-- What a request for a stream does to the map: at most one stream is added,
under `key`, and no other id is touched. -/
structure Grown (w : ServerState) (key : String) (r : ServerState × Option MediaStream) :
    Prop where
  registered : r.1.Registered
  kept : ∀ ms, w.findStream ms.streamId = some ms → (r.2.isSome → ms.streamId ≠ key) →
    r.1.findStream ms.streamId = some ms
  made : ∀ ms, r.2 = some ms → ms.streamId = key ∧ r.1.findStream key = some ms

/-- The only child with a GB id is stored under it, so a stream for it is owned. -/
theorem owned_of_addressable {w : ServerState} {gbId : String} {child : JsonChildDevic}
    {ref : Nat} {nvr : JsonNvrDevic} (hloc : w.locate gbId = some (child, ref, nvr))
    (haddr : w.Addressable gbId) : w.Owned gbId := by
  obtain ⟨hchild, hgb, hparent⟩ := locate_eq_some hloc
  intro id c hc hcgb
  have hid := haddr id c hc hcgb
  have hid' := haddr child.deviceId child hchild hgb
  rw [hid, ← hid', hchild] at hc
  cases hc
  exact ⟨hid, by simp [hparent]⟩

theorem Requested.grown {child : JsonChildDevic} {w : ServerState} {gbId key : String}
    {streamType : Int} {r : ServerState × Option MediaStream} {ref : Nat} {nvr : JsonNvrDevic}
    (h : Requested child w gbId key streamType r)
    (hloc : w.locate gbId = some (child, ref, nvr)) (hw : w.Registered)
    (htype : streamType = 0 ∨ streamType = 1) (haddr : r.2.isSome → w.Addressable gbId) :
    Grown w key r := by
  obtain ⟨hchild, -, -⟩ := locate_eq_some hloc
  obtain ⟨w', hlooked, rfl | ⟨handle, rfl⟩⟩ := h
  · refine ⟨hlooked.registered hchild hw, fun ms hms _ => ?_, by simp⟩
    rw [hlooked.findStream]
    exact hms
  · have howned : w'.Owned gbId := hlooked.owned hchild (owned_of_addressable hloc (haddr rfl))
    have hreg := hlooked.registered hchild hw
    have hfind := w'.findStream_addStream_newStream gbId key handle streamType
    -- the new entry is the only difference
    refine ⟨⟨fun id ms hms => ?_, fun id ms hms => ?_⟩, fun ms hms hne => ?_, fun ms hms => ?_⟩
    · rw [hfind] at hms
      split at hms
      · rename_i hid
        cases hms
        exact hid.symm
      · exact hreg.keyed id ms hms
    · rw [hfind] at hms
      split at hms
      · cases hms
        refine ⟨?_, howned⟩
        rcases htype with rfl | rfl
        · rfl
        · rfl
      · exact hreg.owned id ms hms
    · rw [hfind, if_neg (hne rfl)]
      rw [← hlooked.findStream] at hms
      exact hms
    · cases hms
      exact ⟨rfl, by rw [hfind, if_pos rfl]⟩

theorem grown_none {w : ServerState} (hw : w.Registered) (key : String) :
    Grown w key (w, none) :=
  ⟨hw, fun _ hms _ => hms, by simp⟩

theorem grown_createLiveStream {w : ServerState} (hw : w.Registered) (env : Env) (gbId : String)
    (streamNo : Int)
    (haddr : (w.createLiveStream env gbId streamNo).2.isSome → w.Addressable gbId) :
    Grown w (liveStreamId gbId streamNo) (w.createLiveStream env gbId streamNo) := by
  cases hloc : w.locate gbId with
  | none =>
      have hnone : w.createLiveStream env gbId streamNo = (w, none) := by
        simp [createLiveStream, prepareLive, hloc]
      rw [hnone]
      exact grown_none hw _
  | some p => exact (requested_createLiveStream env streamNo hloc).grown hloc hw (.inl rfl) haddr

theorem grown_createVodStream {w : ServerState} (hw : w.Registered) (env : Env) (gbId : String)
    (start stop : Int)
    (haddr : (w.createVodStream env gbId start stop).2.isSome → w.Addressable gbId) :
    Grown w (createStreamId env gbId start stop) (w.createVodStream env gbId start stop) := by
  cases hloc : w.locate gbId with
  | none =>
      have hnone : w.createVodStream env gbId start stop = (w, none) := by
        simp [createVodStream, prepareVod, hloc]
      rw [hnone]
      exact grown_none hw _
  | some p => exact (requested_createVodStream env start stop hloc).grown hloc hw (.inr rfl) haddr

/-! ### Closes -/

/-- What a close does to the map: at most one id is lost. -/
structure Shrunk (w : ServerState) (key : String) (w' : ServerState) : Prop where
  children : w'.children = w.children
  nvrs : ∀ ref, (w.nvrs ref).isSome → (w'.nvrs ref).isSome
  streams : ∀ id, w'.findStream id = w.findStream id ∨ (id = key ∧ w'.findStream id = none)

theorem Shrunk.refl (w : ServerState) (key : String) : Shrunk w key w :=
  ⟨rfl, fun _ h => h, fun _ => .inl rfl⟩

theorem shrunk_removeStream (w : ServerState) (held : MediaStream → Nat) (id : String) :
    Shrunk w id (w.removeStream held id) := by
  unfold removeStream
  split
  · refine ⟨rfl, fun _ h => h, fun id' => ?_⟩
    rw [findStream_eraseStream]
    split
    · rename_i hid
      exact .inr ⟨hid, rfl⟩
    · exact .inl rfl
  · exact .refl w id

theorem shrunk_stopHandle (w : ServerState) (env : Env) (ms : MediaStream) (ref : Nat)
    (nvr : JsonNvrDevic) (key : String) : Shrunk w key (w.stopHandle env ms ref nvr).1 := by
  unfold stopHandle
  split
  · exact .refl w key
  · exact ⟨rfl, fun _ h => isSome_putSession h, fun _ => .inl rfl⟩

/-- Two operations lose no more than one id if both can only lose that one. -/
theorem Shrunk.trans {w w' w'' : ServerState} {key : String} (h : Shrunk w key w')
    (h' : Shrunk w' key w'') : Shrunk w key w'' where
  children := h'.children.trans h.children
  nvrs := fun ref hr => h'.nvrs ref (h.nvrs ref hr)
  streams := by
    intro id
    rcases h'.streams id with hsame' | hlost
    · rcases h.streams id with hsame | ⟨hkey, hnone⟩
      · exact .inl (hsame'.trans hsame)
      · exact .inr ⟨hkey, hsame'.trans hnone⟩
    · exact .inr hlost

theorem shrunk_close (w : ServerState) (env : Env) (held : MediaStream → Nat)
    (ms : MediaStream) : Shrunk w ms.streamId (w.closeStreamByStreamId env held ms).1 := by
  unfold closeStreamByStreamId
  split
  · split
    · exact .refl w _
    · rename_i ref nvr _
      have hstop := w.shrunk_stopHandle env ms ref nvr ms.streamId
      unfold stopStream
      dsimp only
      split
      · exact hstop.trans (shrunk_removeStream _ held _)
      · exact hstop
  · exact .refl w _

theorem Shrunk.registered {w w' : ServerState} {key : String} (h : Shrunk w key w')
    (hw : w.Registered) : w'.Registered := by
  have hold : ∀ id ms, w'.findStream id = some ms → w.findStream id = some ms := by
    intro id ms hms
    rcases h.streams id with hsame | ⟨-, hnone⟩
    · rw [← hsame]
      exact hms
    · rw [hnone] at hms
      cases hms
  refine ⟨fun id ms hms => hw.keyed id ms (hold id ms hms), fun id ms hms => ?_⟩
  obtain ⟨hop, howned⟩ := hw.owned id ms (hold id ms hms)
  refine ⟨hop, fun cid child hchild hgb => ?_⟩
  rw [h.children] at hchild
  obtain ⟨hid, hnvr⟩ := howned cid child hchild hgb
  exact ⟨hid, isSome_parentNvr h.nvrs rfl hnvr⟩

/-- A registered stream stays registered through every close except its own, and
through that as well while another pointer to it is held. -/
theorem findStream_close {w : ServerState} {env : Env} {held : MediaStream → Nat}
    {ms st : MediaStream} (hms : w.findStream ms.streamId = some ms)
    (hst : w.findStream st.streamId = some st) (hheld : st = ms → 2 ≤ held ms) :
    (w.closeStreamByStreamId env held ms).1.findStream st.streamId = some st := by
  rcases (w.shrunk_close env held ms).streams st.streamId with hsame | ⟨hkey, -⟩
  · rw [hsame]
    exact hst
  · have heq : st = ms := by
      rw [hkey, hms] at hst
      exact (Option.some.inj hst).symm
    have hcount : ¬ w.useCount (held ms) ms ≤ 2 := by
      have htwo := hheld heq
      simp only [useCount, if_pos hms]
      omega
    rw [closeStreamByStreamId, if_neg hcount]
    exact hst

/-- With no pointer held but the closer's own, the stream of an owned child is stopped. -/
theorem close_stops {w : ServerState} {env : Env} {held : MediaStream → Nat} {ms : MediaStream}
    {child : JsonChildDevic} (hheld : held ms ≤ 1)
    (hchild : w.children.findChildDevice ms.deviceId = some child)
    (hnvr : (w.parentNvr child).isSome) (hop : (stopOp ms).isSome) :
    ∃ call, (w.closeStreamByStreamId env held ms).2 = some call ∧ call.stream = ms ∧
      child.mParentDev = some call.nvr ∧ stopOp ms = some call.op := by
  obtain ⟨op, hop⟩ := Option.isSome_iff_exists.mp hop
  obtain ⟨⟨ref, nvr⟩, hnvr⟩ := Option.isSome_iff_exists.mp hnvr
  have hcount : w.useCount (held ms) ms ≤ 2 := by
    unfold useCount
    split <;> omega
  have hfind : w.streamNvr ms = some (ref, nvr) := by simp [streamNvr, hchild, hnvr]
  have hparent : child.mParentDev = some ref := by
    unfold parentNvr at hnvr
    cases href : child.mParentDev with
    | none => simp [href] at hnvr
    | some ref' =>
        simp only [href, Option.map_eq_some_iff, Prod.mk.injEq] at hnvr
        obtain ⟨_, -, rfl, -⟩ := hnvr
        rfl
  refine ⟨⟨ms, ref, op, (op.run env.sdk (w.session nvr)).err⟩, ?_, rfl, hparent, hop⟩
  simp [closeStreamByStreamId, hcount, hfind, stopStream, stopHandle_eq hop]

/-- A stream that has a stop operation is only lost by a stop that succeeds. -/
theorem close_keeps {w : ServerState} {env : Env} {held : MediaStream → Nat} {ms : MediaStream}
    (hop : (stopOp ms).isSome)
    (hstop : ∀ call, (w.closeStreamByStreamId env held ms).2 = some call → call.stream = ms →
      call.err ≠ 0) (id : String) :
    (w.closeStreamByStreamId env held ms).1.findStream id = w.findStream id := by
  obtain ⟨op, hop⟩ := Option.isSome_iff_exists.mp hop
  unfold closeStreamByStreamId at hstop ⊢
  split at hstop
  · rename_i hcount
    rw [if_pos hcount]
    cases hnvr : w.streamNvr ms with
    | none => rfl
    | some p =>
        simp only [hnvr, stopStream, stopHandle_eq hop, stopErr_some] at hstop ⊢
        have herr := hstop _ rfl rfl
        rw [if_neg herr]
        rfl
  · rename_i hcount
    rw [if_neg hcount]

theorem Registered.removeChildDevice {w : ServerState} (hw : w.Registered) (deviceId : String) :
    ({ w with children := w.children.removeChildDevice deviceId } : ServerState).Registered := by
  refine ⟨hw.keyed, fun id ms hms => ?_⟩
  obtain ⟨hop, howned⟩ := hw.owned id ms hms
  refine ⟨hop, fun cid child hchild hgb => ?_⟩
  apply howned cid child _ hgb
  rw [ChildMap.findChildDevice_removeChildDevice] at hchild
  split at hchild
  · cases hchild
  · exact hchild

end ServerState

end SignalingServer
