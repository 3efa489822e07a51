import SignalingServer.UserAgent.Catalog

/-!
Notification of changed channels (`NotifyYixinHwInfo`). Listed channels carry no
id, so none of them is ever matched with the child it belongs to. A child that is
stored under the empty id would be taken for every one of them.
-/

namespace SignalingServer

/-- What one listed NVR reports in a run. -/
structure NvrReport where
  ref : Nat
  nvr : JsonNvrDevic
  channelList : List JsonChildDevic

/-- What a listed channel says of a child: name, status and parent id. -/
abbrev ChannelInfo := String × Int × String

namespace JsonChildDevic

def info (child : JsonChildDevic) : ChannelInfo := (child.name, child.status, child.parentId)

end JsonChildDevic

/-- The channels of a report as the child under the empty id takes them. -/
def NvrReport.infos (report : NvrReport) : List ChannelInfo :=
  report.channelList.map fun item => (item.name, item.status, report.nvr.deviceId)

/-- How many of the infos, in their order, differ from the one before; all of
them count when everything is notified. -/
def infoChanges (isAll : Bool) : ChannelInfo → List ChannelInfo → Nat
  | _, [] => 0
  | last, info :: infos =>
      (if isAll = true ∨ last ≠ info then 1 else 0) + infoChanges isAll info infos

theorem getLastD_append (last : ChannelInfo) (infos infos' : List ChannelInfo) :
    (infos ++ infos').getLastD last = infos'.getLastD (infos.getLastD last) := by
  induction infos generalizing last with
  | nil => rfl
  | cons info infos ih => rw [List.cons_append, List.getLastD_cons, ih, List.getLastD_cons]

theorem infoChanges_append (isAll : Bool) (last : ChannelInfo)
    (infos infos' : List ChannelInfo) :
    infoChanges isAll last (infos ++ infos') =
      infoChanges isAll last infos + infoChanges isAll (infos.getLastD last) infos' := by
  induction infos generalizing last with
  | nil => exact (Nat.zero_add _).symm
  | cons info infos ih =>
      rw [List.cons_append, infoChanges, infoChanges, ih, List.getLastD_cons, Nat.add_assoc]

namespace ServerState

/-- The reports of the NVRs that a run of `NotifyYixinHwInfo` goes through. -/
def nvrReports (env : Env) : List Nat → ServerState → List NvrReport
  | [], _ => []
  | ref :: devList, w =>
      match w.nvrs ref with
      | none => nvrReports env devList w
      | some nvr =>
          let (w, channelList) := w.getJsonNvrChannelList env ref nvr
          ⟨ref, nvr, channelList⟩ :: nvrReports env devList w

/-- The child is of a listed NVR, which reports its channel number. -/
def Reported (w : ServerState) (reports : List NvrReport) (child item : JsonChildDevic) : Prop :=
  ∃ report ∈ reports, (∃ nvr, w.parentNvr child = some (report.ref, nvr)) ∧
    item ∈ report.channelList ∧ item.channel = child.channel

theorem Reported.parentNvr_isSome {w : ServerState} {reports : List NvrReport}
    {child item : JsonChildDevic} (h : w.Reported reports child item) :
    (w.parentNvr child).isSome := by
  obtain ⟨report, -, ⟨nvr, hnvr⟩, -⟩ := h
  rw [hnvr]
  rfl

/-- The NOTIFYs about a device. -/
def notifiesOf (id : String) (notified : List (CatalogEvent × CatalogItem)) : Nat :=
  notified.countP fun n => n.2.deviceID == id

/-- A run that led from `w` to `w'` has notified every change of a reported
channel, and nothing of an unchanged one unless everything is notified. -/
structure ChangesNotified (w w' : ServerState) (isAll : Bool) (reports : List NvrReport)
    (notified : List (CatalogEvent × CatalogItem)) : Prop where
  changed : ∀ (id : String) (child item : JsonChildDevic),
    w.children.findChildDevice id = some child → w.Reported reports child item →
    item.name ≠ child.name ∨ item.status ≠ child.status →
    (∃ child', w'.children.findChildDevice id = some child' ∧ child'.name = item.name ∧
      child'.status = item.status) ∧ notifiesOf id notified = 1
  unchanged : ∀ (id : String) (child item : JsonChildDevic),
    w.children.findChildDevice id = some child → w.Reported reports child item →
    isAll = false → item.name = child.name → item.status = child.status →
    notifiesOf id notified = 0

/-- The report makes no change, or, for the child under the empty id, the only
change of the run and the one that stays. -/
def ReportInOrder (isAll : Bool) (infos : List ChannelInfo) (child item : JsonChildDevic) : Prop :=
  if child.deviceId = "" then
    (item.name ≠ child.name ∨ item.status ≠ child.status →
      (infos.getLastD child.info).1 = item.name ∧
        (infos.getLastD child.info).2.1 = item.status ∧
        infoChanges isAll child.info infos = 1) ∧
    (isAll = false → item.name = child.name → item.status = child.status →
      infoChanges isAll child.info infos = 0)
  else item.name = child.name ∧ item.status = child.status

/-! ### What a part of a run does -/

variable {env : Env} {charsetConvert : String → Option String} {myId : String} {isAll : Bool}
  {w w' w'' : ServerState} {infos infos' : List ChannelInfo} {n n' : Nat}

/-- Effect of a part of a run that takes the child under the empty id through
the infos, and makes `n` notifications of it. -/
structure Took (isAll : Bool) (w w' : ServerState) (infos : List ChannelInfo) (n : Nat) :
    Prop where
  nvrs : ∀ ref, (w'.nvrs ref).isSome = (w.nvrs ref).isSome
  other : ∀ id ≠ "", w'.children.findChildDevice id = w.children.findChildDevice id
  own : ∀ child, w.children.findChildDevice "" = some child → (w.parentNvr child).isSome →
    (∃ child', w'.children.findChildDevice "" = some child' ∧ (w'.parentNvr child').isSome ∧
      child'.info = infos.getLastD child.info) ∧ n = infoChanges isAll child.info infos

theorem Took.parentNvr (hnvrs : ∀ ref, (w'.nvrs ref).isSome = (w.nvrs ref).isSome)
    (child : JsonChildDevic) : (w'.parentNvr child).isSome = (w.parentNvr child).isSome := by
  rw [parentNvr_isSome, parentNvr_isSome]
  exact congrArg (Option.any · child.mParentDev) (funext hnvrs)

theorem Took.refl (w : ServerState) : Took isAll w w [] 0 where
  nvrs _ := rfl
  other _ _ := rfl
  own child hchild hparent := ⟨⟨child, hchild, hparent, rfl⟩, rfl⟩

theorem Took.trans (h : Took isAll w w' infos n) (h' : Took isAll w' w'' infos' n') :
    Took isAll w w'' (infos ++ infos') (n + n') where
  nvrs ref := (h'.nvrs ref).trans (h.nvrs ref)
  other id hid := (h'.other id hid).trans (h.other id hid)
  own child hchild hparent := by
    obtain ⟨⟨child', hchild', hparent', hinfo'⟩, hn⟩ := h.own child hchild hparent
    obtain ⟨⟨child'', hchild'', hparent'', hinfo''⟩, hn'⟩ := h'.own child' hchild' hparent'
    rw [hinfo'] at hinfo'' hn'
    refine ⟨⟨child'', hchild'', hparent'', ?_⟩, ?_⟩
    · rw [hinfo'', getLastD_append]
    · rw [hn, hn', infoChanges_append]

/-- A write to the child under the empty id. -/
theorem Took.setChild {child child' : JsonChildDevic} {info : ChannelInfo}
    (hchild : w.children.findChildDevice "" = some child) (hid : child'.deviceId = "")
    (hparent : (w.parentNvr child').isSome) (hinfo : child'.info = info)
    (hn : n = infoChanges isAll child.info [info]) : Took isAll w (w.setChild child') [info] n where
  nvrs _ := rfl
  other id hne := by
    rw [ServerState.setChild, ChildMap.findChildDevice_addChildDevice, hid, if_neg hne]
  own c hc _ := by
    rw [hchild] at hc
    cases hc
    exact ⟨⟨child', w.findChildDevice_setChild hid, hparent, hinfo⟩, hn⟩

variable (charsetConvert myId isAll) in
/-- One listed channel. -/
theorem took_notifyChannel {ref : Nat} (it : JsonNvrDevic) {item : JsonChildDevic}
    (hitem : item.deviceId = "") (href : (w.nvrs ref).isSome) :
    Took isAll w (w.notifyChannel charsetConvert myId isAll ref it item).1
      [(item.name, item.status, it.deviceId)]
      (w.notifyChannel charsetConvert myId isAll ref it item).2.toList.length := by
  unfold notifyChannel
  rw [hitem]
  split
  · rename_i hnone
    exact { nvrs := fun _ => rfl, other := fun _ _ => rfl
            own := fun child hchild => by rw [hnone] at hchild; cases hchild }
  · rename_i child hchild
    have hid : child.deviceId = "" := w.children.keyed _ _ hchild
    split
    · rename_i hparent
      split
      · rename_i hchanged
        refine Took.setChild hchild hid ?_ rfl ?_
        · rw [parentNvr_isSome]
          exact href
        · have hdiff : child.info ≠ (item.name, item.status, it.deviceId) := by
            intro heq
            obtain ⟨hname, hrest⟩ := Prod.mk.inj heq
            obtain ⟨-, hparentId⟩ := Prod.mk.inj hrest
            exact hchanged.elim (absurd hname) (absurd hparentId)
          simp [infoChanges, hdiff]
      · rename_i hsame
        obtain ⟨hname, hparentId⟩ : child.name = item.name ∧ child.parentId = it.deviceId := by
          simpa using hsame
        split
        · rename_i hchanged
          refine Took.setChild hchild hid ?_ ?_ ?_
          · rw [parentNvr_isSome] at hparent ⊢
            exact hparent
          · exact Prod.ext hname (Prod.ext rfl hparentId)
          · have hcount : isAll = true ∨ child.info ≠ (item.name, item.status, it.deviceId) := by
              refine hchanged.imp_right fun hstatus heq => hstatus ?_
              exact congrArg (fun info : ChannelInfo => info.2.1) heq
            simp [infoChanges, hcount]
        · rename_i hkept
          obtain ⟨hall, hstatus⟩ : isAll = false ∧ child.status = item.status := by
            simpa using hkept
          have hinfo : child.info = (item.name, item.status, it.deviceId) :=
            Prod.ext hname (Prod.ext hstatus hparentId)
          refine { nvrs := fun _ => rfl, other := fun _ _ => rfl, own := ?_ }
          intro c hc hcparent
          rw [hchild] at hc
          cases hc
          exact ⟨⟨child, hchild, hcparent, hinfo⟩, by simp [infoChanges, hall, hinfo]⟩
    · rename_i hparent
      refine { nvrs := fun _ => rfl, other := fun _ _ => rfl, own := ?_ }
      intro c hc hcparent
      rw [hchild] at hc
      cases hc
      exact absurd hcparent hparent

variable (charsetConvert myId isAll) in
/-- The channels of one NVR. -/
theorem took_notifyChannels {ref : Nat} (it : JsonNvrDevic) {channelList : List JsonChildDevic}
    (hitems : ∀ item ∈ channelList, item.deviceId = "") (href : (w.nvrs ref).isSome) :
    Took isAll w (notifyChannels charsetConvert myId isAll ref it channelList w).1
      (channelList.map fun item => (item.name, item.status, it.deviceId))
      (notifyChannels charsetConvert myId isAll ref it channelList w).2.length := by
  induction channelList generalizing w with
  | nil => exact Took.refl w
  | cons item channelList ih =>
      have hfirst := took_notifyChannel charsetConvert myId isAll it
        (hitems item List.mem_cons_self) href
      have hrest := ih (fun i hi => hitems i (List.mem_cons_of_mem _ hi))
        ((hfirst.nvrs ref).trans href)
      have hboth := hfirst.trans hrest
      rw [notifyChannels, List.length_append]
      exact hboth

/-! ### The reports -/

/-- The same devices and SDK calls so far. -/
def SameDevices (w w' : ServerState) : Prop := w'.sdk = w.sdk ∧ w'.nvrs = w.nvrs

variable (charsetConvert myId isAll) in
theorem sameDevices_notifyChannel (w : ServerState) (ref : Nat) (it : JsonNvrDevic) (item : JsonChildDevic) :
    SameDevices w (w.notifyChannel charsetConvert myId isAll ref it item).1 := by
  unfold notifyChannel
  split
  · exact ⟨rfl, rfl⟩
  · split_ifs <;> exact ⟨rfl, rfl⟩

variable (charsetConvert myId isAll) in
theorem sameDevices_notifyChannels (ref : Nat) (it : JsonNvrDevic)
    (channelList : List JsonChildDevic) (w : ServerState) :
    SameDevices w (notifyChannels charsetConvert myId isAll ref it channelList w).1 := by
  induction channelList generalizing w with
  | nil => exact ⟨rfl, rfl⟩
  | cons item channelList ih =>
      obtain ⟨hsdk, hnvrs⟩ := sameDevices_notifyChannel charsetConvert myId isAll w ref it item
      obtain ⟨hsdk', hnvrs'⟩ := ih (w.notifyChannel charsetConvert myId isAll ref it item).1
      exact ⟨hsdk'.trans hsdk, hnvrs'.trans hnvrs⟩

/-- What an NVR lists does not depend on the children. -/
theorem SameDevices.getJsonNvrChannelList (h : SameDevices w w') (env : Env) (ref : Nat)
    (nvr : JsonNvrDevic) :
    SameDevices (w.getJsonNvrChannelList env ref nvr).1
        (w'.getJsonNvrChannelList env ref nvr).1 ∧
      (w'.getJsonNvrChannelList env ref nvr).2 = (w.getJsonNvrChannelList env ref nvr).2 := by
  obtain ⟨hsdk, hnvrs⟩ := h
  unfold ServerState.getJsonNvrChannelList ServerState.session
  rw [hsdk]
  dsimp only
  split
  · split
    · exact ⟨⟨rfl, by simp only [putSession, hnvrs]⟩, rfl⟩
    · exact ⟨⟨rfl, by simp only [putSession, hnvrs]⟩, rfl⟩
  · exact ⟨⟨rfl, by simp only [putSession, hnvrs]⟩, rfl⟩

theorem SameDevices.nvrReports (h : SameDevices w w') (env : Env) (devList : List Nat) :
    nvrReports env devList w' = nvrReports env devList w := by
  induction devList generalizing w w' with
  | nil => rfl
  | cons ref devList ih =>
      unfold ServerState.nvrReports
      rw [h.2]
      split
      · exact ih h
      · rename_i nvr hnvr
        obtain ⟨hsame, hlist⟩ := h.getJsonNvrChannelList env ref nvr
        dsimp only
        rw [hlist, ih hsame]

theorem took_putSession {ref : Nat} {nvr : JsonNvrDevic} (hnvr : w.nvrs ref = some nvr)
    (session : NvrSession) : Took isAll w (w.putSession ref session) [] 0 := by
  have hnvrs : ∀ r, ((w.putSession ref session).nvrs r).isSome = (w.nvrs r).isSome := by
    intro r
    show (if r = ref then some session.nvr else w.nvrs r).isSome = _
    split
    · rename_i heq
      rw [heq, hnvr]
      rfl
    · rfl
  refine { nvrs := hnvrs, other := fun _ _ => rfl, own := ?_ }
  intro child hchild hparent
  exact ⟨⟨child, hchild, (Took.parentNvr hnvrs child).trans hparent, rfl⟩, rfl⟩

variable (isAll) in
theorem took_getJsonNvrChannelList {ref : Nat} {nvr : JsonNvrDevic} (env : Env)
    (hnvr : w.nvrs ref = some nvr) :
    Took isAll w (w.getJsonNvrChannelList env ref nvr).1 [] 0 := by
  have hfirst : Took isAll w (w.putSession ref ((w.session nvr).opened env.sdk).1) [] 0 :=
    took_putSession hnvr _
  have hput : (w.putSession ref ((w.session nvr).opened env.sdk).1).nvrs ref =
      some ((w.session nvr).opened env.sdk).1.nvr := if_pos rfl
  have hsecond := hfirst.trans
    (took_putSession hput (((w.session nvr).opened env.sdk).1.devListIPC env.sdk).session)
  unfold getJsonNvrChannelList
  dsimp only
  split_ifs
  · exact hsecond
  · exact hsecond
  · exact hfirst

variable (charsetConvert myId isAll) in
/-- A whole run. -/
theorem took_notifyYixinHwInfo (env : Env) (devList : List Nat) (w : ServerState) :
    Took isAll w (notifyYixinHwInfo env charsetConvert myId isAll devList w).1
      ((nvrReports env devList w).flatMap NvrReport.infos)
      (notifyYixinHwInfo env charsetConvert myId isAll devList w).2.length := by
  induction devList generalizing w with
  | nil => exact Took.refl w
  | cons ref devList ih =>
      cases hnvr : w.nvrs ref with
      | none =>
          simp only [notifyYixinHwInfo, nvrReports, hnvr]
          exact ih w
      | some nvr =>
          simp only [notifyYixinHwInfo, nvrReports, hnvr, List.flatMap_cons, List.length_append]
          have hlist := took_getJsonNvrChannelList isAll env hnvr
          have hitems := w.getJsonNvrChannelList_deviceId env ref nvr
          have href : ((w.getJsonNvrChannelList env ref nvr).1.nvrs ref).isSome := by
            rw [hlist.nvrs, hnvr]
            rfl
          have hchannels := took_notifyChannels charsetConvert myId isAll nvr hitems href
          have hsame := sameDevices_notifyChannels charsetConvert myId isAll ref nvr
            (w.getJsonNvrChannelList env ref nvr).2 (w.getJsonNvrChannelList env ref nvr).1
          -- The reports of the rest are those of the run without the notifications.
          rw [← hsame.nvrReports env devList]
          have hrun := (hlist.trans hchannels).trans (ih _)
          rw [List.nil_append, Nat.zero_add] at hrun
          exact hrun

/-! ### The notifications of a run -/

variable (charsetConvert myId isAll) in
/-- Every notification of a run is about the child under the empty id. -/
theorem notifiesOf_notifyYixinHwInfo (env : Env) (devList : List Nat) (w : ServerState)
    (id : String) :
    notifiesOf id (notifyYixinHwInfo env charsetConvert myId isAll devList w).2 =
      if id = "" then (notifyYixinHwInfo env charsetConvert myId isAll devList w).2.length
      else 0 := by
  have hids : ∀ n ∈ (notifyYixinHwInfo env charsetConvert myId isAll devList w).2,
      n.2.deviceID = "" := notifyYixinHwInfo_deviceID env devList w
  unfold notifiesOf
  split
  · rename_i hempty
    exact List.countP_eq_length.mpr fun n hn => by simp [hids n hn, hempty]
  · rename_i hne
    exact List.countP_eq_zero.mpr fun n hn => by simpa [hids n hn] using Ne.symm hne

/-- What a run owes a child for one report, and when it does. -/
theorem reportInOrder_iff {notified : List (CatalogEvent × CatalogItem)}
    (hrun : Took isAll w w' infos n)
    (hcount : ∀ id, notifiesOf id notified = if id = "" then n else 0) {id : String}
    {child : JsonChildDevic} (hchild : w.children.findChildDevice id = some child)
    (hparent : (w.parentNvr child).isSome) (item : JsonChildDevic) :
    ((item.name ≠ child.name ∨ item.status ≠ child.status →
        (∃ child', w'.children.findChildDevice id = some child' ∧ child'.name = item.name ∧
          child'.status = item.status) ∧ notifiesOf id notified = 1) ∧
      (isAll = false → item.name = child.name → item.status = child.status →
        notifiesOf id notified = 0)) ↔
      ReportInOrder isAll infos child item := by
  have hid := w.children.keyed id child hchild
  unfold ReportInOrder
  rw [hcount, hid]
  by_cases hempty : id = ""
  · subst hempty
    obtain ⟨⟨child', hchild', -, hinfo⟩, hn⟩ := hrun.own child hchild hparent
    have hafter : (∃ child', w'.children.findChildDevice "" = some child' ∧
        child'.name = item.name ∧ child'.status = item.status) ↔
        (infos.getLastD child.info).1 = item.name ∧
          (infos.getLastD child.info).2.1 = item.status := by
      rw [← hinfo, hchild']
      constructor
      · rintro ⟨_, ⟨⟩, hsame⟩
        exact hsame
      · exact fun hsame => ⟨child', rfl, hsame⟩
    rw [if_pos rfl, if_pos rfl, hafter, hn, and_assoc]
  · rw [if_neg hempty, if_neg hempty, hrun.other id hempty]
    constructor
    · rintro ⟨hchanged, -⟩
      by_contra hdiff
      obtain ⟨-, hone⟩ := hchanged (not_and_or.mp hdiff)
      cases hone
    · rintro ⟨hname, hstatus⟩
      refine ⟨fun hdiff => ?_, fun _ _ _ => rfl⟩
      exact absurd ⟨hname, hstatus⟩ (not_and_or.mpr hdiff)

/-- A run notifies the changes of all reported channels exactly when each report
of a child is in order: there is no change, since no child but one under the
empty id is ever found. -/
theorem changesNotified_iff (env : Env) (charsetConvert : String → Option String) (myId : String)
    (isAll : Bool) (devList : List Nat) (w : ServerState) :
    ChangesNotified w (notifyYixinHwInfo env charsetConvert myId isAll devList w).1 isAll
        (nvrReports env devList w)
        (notifyYixinHwInfo env charsetConvert myId isAll devList w).2 ↔
      ∀ (id : String) (child item : JsonChildDevic),
        w.children.findChildDevice id = some child →
        w.Reported (nvrReports env devList w) child item →
        ReportInOrder isAll ((nvrReports env devList w).flatMap NvrReport.infos) child item := by
  have hrun := took_notifyYixinHwInfo charsetConvert myId isAll env devList w
  have hcount := notifiesOf_notifyYixinHwInfo charsetConvert myId isAll env devList w
  constructor
  · intro h id child item hchild hreported
    have horder := reportInOrder_iff hrun hcount hchild hreported.parentNvr_isSome item
    exact horder.mp
      ⟨h.changed id child item hchild hreported, h.unchanged id child item hchild hreported⟩
  · intro h
    constructor
    · intro id child item hchild hreported
      have horder := reportInOrder_iff hrun hcount hchild hreported.parentNvr_isSome item
      exact (horder.mpr (h id child item hchild hreported)).1
    · intro id child item hchild hreported
      have horder := reportInOrder_iff hrun hcount hchild hreported.parentNvr_isSome item
      exact (horder.mpr (h id child item hchild hreported)).2

/-- A server with one child, whose channel the NVR reports under the name `gate`. -/
def unnamedChild : ServerState :=
  sampleState (ChildMap.empty.addChildDevice (sampleChild "7" "34020000001320000001" 1))

/-- The NVR reports another name for the child's channel; the run notifies nothing
and leaves the child as it was. -/
theorem name_change_not_notified :
    (notifyYixinHwInfo (sampleEnv workingSdk) some "34020000002000000001" false [0]
        unnamedChild).2 = [] ∧
      ¬ ChangesNotified unnamedChild
        (notifyYixinHwInfo (sampleEnv workingSdk) some "34020000002000000001" false [0]
          unnamedChild).1 false
        (nvrReports (sampleEnv workingSdk) [0] unnamedChild)
        (notifyYixinHwInfo (sampleEnv workingSdk) some "34020000002000000001" false [0]
          unnamedChild).2 := by
  have hnone : (notifyYixinHwInfo (sampleEnv workingSdk) some "34020000002000000001" false [0]
      unnamedChild).2 = [] := by decide
  refine ⟨hnone, fun h => ?_⟩
  have hreported : unnamedChild.Reported (nvrReports (sampleEnv workingSdk) [0] unnamedChild)
      (sampleChild "7" "34020000001320000001" 1) (listedChannel "1" ⟨0, 1, "gate", ""⟩) :=
    ⟨⟨0, sampleNvr, sampleIpcs.map (listedChannel "1")⟩, List.mem_cons_self, ⟨sampleNvr, rfl⟩,
      List.mem_cons_self, rfl⟩
  have hone := (h.changed "7" _ _ (by decide) hreported (.inl (by decide))).2
  rw [hnone] at hone
  cases hone

end ServerState

end SignalingServer
