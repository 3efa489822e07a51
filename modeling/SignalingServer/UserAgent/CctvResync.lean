import SignalingServer.UserAgent.CctvNodes

/-!
A second synchronisation with the same answer of the platform. What a step
compares is what it stored before, so a table that a run has left is settled: the
next run with the same nodes notifies nothing and changes nothing, as long as the
NVRs answer as they did.
-/

namespace SignalingServer

namespace DeviceMng

/-- The places on the heap that are in use are below the next one. -/
structure Allocated (t : DeviceMng) : Prop where
  devices : ∀ {id : String} {ref : Nat}, t.mDeviceMap[id]? = some ref → ref < t.nextDev
  parents : ∀ {id : String} {child : JsonChildDevic} {ref : Nat},
    t.server.children.findChildDevice id = some child → child.mParentDev = some ref →
    ref < t.nextDev
  free : ∀ ref, t.nextDev ≤ ref → t.server.nvrs ref = none

/-- What an NVR answered to a node: the session it leaves open, and its channels. -/
abbrev NvrAnswer := Option (Nat × List JsonIpc)

/-- The answer of the NVR at a place on the heap. -/
def nvrAnswer (env : Env) (t : DeviceMng) (dev : Nat) : NvrAnswer :=
  (t.server.nvrs dev).map fun nvr => ((t.listIpc env nvr).1.nvr.mLoginId, (t.listIpc env nvr).2)

/-- The answer of a node's NVR when the node is reached. -/
def nodeAnswer (env : Env) (t : DeviceMng) (node : CctvNode) : NvrAnswer :=
  let (t, dev) := (t.syncOrganization (t.voTop node)).1.syncNvr node
  t.nvrAnswer env dev

/-- The nodes of a run with the answers of their NVRs. -/
def nodeAnswers (env : Env) (r : CctvRun) : DeviceMng → List CctvNode → List (CctvNode × NvrAnswer)
  | _, [] => []
  | t, node :: nodes =>
      (node, nodeAnswer env t node) :: nodeAnswers env r (syncNode env r t node).1 nodes

/-- The nodes that an answer of the platform has for a run. -/
def replyNodes : Option CctvReply → List CctvNode
  | none => []
  | some reply => if reply.code = 200 then (reply.data.bind (·.data)).getD [] else []

end DeviceMng

namespace CctvNode

def sections (node : CctvNode) : List CctvSection :=
  node.upward.toList ++ node.downward.toList ++ node.kkIpc.toList

/-- The ids of the organisations of a node. -/
def organizationIds (node : CctvNode) : List String :=
  node.gbId :: node.sections.map (·.gbId)

/-- The ids of the cameras of a node. -/
def cameraIds (node : CctvNode) : List String :=
  node.sections.flatMap fun s => s.entries.map (·.gbId)

end CctvNode

namespace DeviceMng

/-- No two organisations of the nodes have one id, and no two cameras. -/
structure DistinctIds (nodes : List CctvNode) : Prop where
  organizations : (nodes.flatMap (·.organizationIds)).Nodup
  cameras : (nodes.flatMap (·.cameraIds)).Nodup

/-- The tables of `DeviceMng` and the objects in them are the same. -/
structure SameTables (t t' : DeviceMng) : Prop where
  selfId : t'.selfId = t.selfId
  mVoMap : t'.mVoMap = t.mVoMap
  mDeviceMap : t'.mDeviceMap = t.mDeviceMap
  nvrs : t'.server.nvrs = t.server.nvrs
  nvrStatus : t'.nvrStatus = t.nvrStatus
  children : t'.server.children = t.server.children

/-! ### What a part of a run leaves alone -/

/-- Between the two tables only these organisations and cameras were touched, and
devices were only added. -/
structure Frame (organizations cameras : List String) (t t' : DeviceMng) : Prop where
  selfId : t'.selfId = t.selfId
  organizations : ∀ id ∉ organizations,
    t'.mVoMap.findVirtualOrganization id = t.mVoMap.findVirtualOrganization id
  cameras : ∀ id ∉ cameras,
    t'.server.children.findChildDevice id = t.server.children.findChildDevice id
  devices : ∀ {id : String} {ref : Nat},
    t.mDeviceMap[id]? = some ref → t'.mDeviceMap[id]? = some ref
  nvrs : ∀ ref < t.nextDev, (t'.server.nvrs ref).isSome = (t.server.nvrs ref).isSome
  nextDev : t.nextDev ≤ t'.nextDev
  allocated : t'.Allocated

section

variable {t t' t'' : DeviceMng} {vos vos' cameras cameras' : List String} {r : CctvRun} {dev : Nat}
  {statusMap : Std.TreeMap String Int} {sub : String} {entry : CctvIpc} {node : CctvNode}
  {env : Env}

/-- Nothing is touched. -/
theorem Frame.idle (h : t.Allocated) (vos cameras : List String) : Frame vos cameras t t where
  selfId := rfl
  organizations _ _ := rfl
  cameras _ _ := rfl
  devices h := h
  nvrs _ _ := rfl
  nextDev := Nat.le_refl _
  allocated := h

theorem Frame.trans (h : Frame vos cameras t t') (h' : Frame vos' cameras' t' t'') :
    Frame (vos ++ vos') (cameras ++ cameras') t t'' where
  selfId := h'.selfId.trans h.selfId
  organizations id hid := by
    rw [List.mem_append, not_or] at hid
    rw [h'.organizations id hid.2, h.organizations id hid.1]
  cameras id hid := by
    rw [List.mem_append, not_or] at hid
    rw [h'.cameras id hid.2, h.cameras id hid.1]
  devices hid := h'.devices (h.devices hid)
  nvrs ref hlt := by rw [h'.nvrs ref (hlt.trans_le h.nextDev), h.nvrs ref hlt]
  nextDev := h.nextDev.trans h'.nextDev
  allocated := h'.allocated

/-- A write to an organisation. -/
theorem frame_putOrganization (h : t.Allocated) (vo : VirtualOrganization) :
    Frame [vo.deviceID] [] t (t.putOrganization vo) where
  selfId := rfl
  organizations id hid := by
    rw [putOrganization, VoMap.findVirtualOrganization_addVirtualOrganization,
      if_neg (by simpa using hid)]
  cameras _ _ := rfl
  devices h := h
  nvrs _ _ := rfl
  nextDev := Nat.le_refl _
  allocated := ⟨h.devices, h.parents, h.free⟩

theorem frame_syncOrganization (h : t.Allocated) (vo : VirtualOrganization) :
    Frame [vo.deviceID] [] t (t.syncOrganization vo).1 := by
  unfold syncOrganization
  split
  · rename_i old hfind
    have hid := t.mVoMap.keyed _ old hfind
    split
    · have hframe := frame_putOrganization h { old with name := vo.name, parentID := vo.parentID }
      rw [← hid]
      exact hframe
    · exact Frame.idle h _ _
  · exact frame_putOrganization h vo

/-- A write to a camera whose parent is on the heap. -/
theorem frame_putChild (h : t.Allocated) (child : JsonChildDevic)
    (hparent : ∀ ref, child.mParentDev = some ref → ref < t.nextDev) :
    Frame [] [child.deviceId] t (t.putChild child) where
  selfId := rfl
  organizations _ _ := rfl
  cameras id hid := by
    show (t.server.children.addChildDevice child).findChildDevice id = _
    rw [ChildMap.findChildDevice_addChildDevice, if_neg (by simpa using hid)]
  devices h := h
  nvrs _ _ := rfl
  nextDev := Nat.le_refl _
  allocated := by
    refine ⟨h.devices, ?_, h.free⟩
    intro id child' ref hchild href
    have hfind : (t.server.children.addChildDevice child).findChildDevice id = some child' := hchild
    rw [ChildMap.findChildDevice_addChildDevice] at hfind
    split at hfind
    · cases hfind
      exact hparent ref href
    · exact h.parents hfind href

/-- An entry is of one camera. -/
theorem SameWrite.frame {id : String} {u u' : DeviceMng × List CctvNotify}
    (hwrite : SameWrite dev id t t' u u') (h : t.Allocated) (hdev : dev < t.nextDev) :
    Frame [] [id] t u.1 := by
  cases hwrite with
  | idle => exact Frame.idle h _ _
  | @put child hid hparent notified =>
      subst hid
      refine frame_putChild h child fun ref href => ?_
      rcases hparent with hnode | ⟨old, hchild, hkept⟩
      · rw [hnode] at href
        cases href
        exact hdev
      · exact h.parents hchild (hkept.symm.trans href)

/-- The NVRs and their places are left alone. -/
structure NvrsKept (t t' : DeviceMng) : Prop where
  mDeviceMap : t'.mDeviceMap = t.mDeviceMap
  nvrs : t'.server.nvrs = t.server.nvrs
  nvrStatus : t'.nvrStatus = t.nvrStatus
  nextDev : t'.nextDev = t.nextDev

theorem NvrsKept.refl (t : DeviceMng) : NvrsKept t t := ⟨rfl, rfl, rfl, rfl⟩

theorem NvrsKept.trans (h : NvrsKept t t') (h' : NvrsKept t' t'') : NvrsKept t t'' :=
  ⟨h'.mDeviceMap.trans h.mDeviceMap, h'.nvrs.trans h.nvrs, h'.nvrStatus.trans h.nvrStatus,
    h'.nextDev.trans h.nextDev⟩

theorem nvrsKept_syncOrganization (t : DeviceMng) (vo : VirtualOrganization) :
    NvrsKept t (t.syncOrganization vo).1 := by
  unfold syncOrganization
  split
  · split_ifs <;> exact ⟨rfl, rfl, rfl, rfl⟩
  · exact ⟨rfl, rfl, rfl, rfl⟩

theorem SameWrite.nvrsKept {id : String} {u u' : DeviceMng × List CctvNotify}
    (hwrite : SameWrite dev id t t' u u') : NvrsKept t u.1 := by
  cases hwrite with
  | idle => exact NvrsKept.refl t
  | put hid hparent notified => exact ⟨rfl, rfl, rfl, rfl⟩

/-! ### Settled cameras -/

/-- The camera is in the table, and if it is of an NVR it is as its entry says. -/
def EntrySettled (t : DeviceMng) (statusMap : Std.TreeMap String Int) (sub : String)
    (entry : CctvIpc) : Prop :=
  ∃ child, t.server.children.findChildDevice entry.gbId = some child ∧
    ((t.server.parentNvr child).isSome → ChildSettled statusMap sub entry child)

theorem entrySettled_putChild {child : JsonChildDevic} (hid : child.deviceId = entry.gbId)
    (hsettled : ChildSettled statusMap sub entry child) :
    (t.putChild child).EntrySettled statusMap sub entry :=
  ⟨child, ServerState.findChildDevice_setChild t.server hid, fun _ => hsettled⟩

/-- A parent that was not an NVR does not become one. -/
theorem Frame.parentNvr (h : Frame vos cameras t t') (halloc : t.Allocated) {id : String}
    {child : JsonChildDevic} (hchild : t.server.children.findChildDevice id = some child)
    (hparent : (t'.server.parentNvr child).isSome) : (t.server.parentNvr child).isSome := by
  rw [ServerState.parentNvr_isSome] at hparent ⊢
  cases href : child.mParentDev with
  | none =>
      rw [href] at hparent
      cases hparent
  | some ref =>
      rw [href] at hparent
      show (t.server.nvrs ref).isSome
      rw [← h.nvrs ref (halloc.parents hchild href)]
      exact hparent

theorem EntrySettled.frame (hsettled : t.EntrySettled statusMap sub entry)
    (h : Frame vos cameras t t') (halloc : t.Allocated) (hid : entry.gbId ∉ cameras) :
    t'.EntrySettled statusMap sub entry := by
  obtain ⟨child, hchild, hown⟩ := hsettled
  refine ⟨child, (h.cameras _ hid).trans hchild, fun hparent => hown ?_⟩
  exact h.parentNvr halloc hchild hparent

theorem OrganizationSettled.frame {vo : VirtualOrganization} (hsettled : t.OrganizationSettled vo)
    (h : Frame vos cameras t t') (hid : vo.deviceID ∉ vos) : t'.OrganizationSettled vo := by
  unfold OrganizationSettled at hsettled ⊢
  rw [h.organizations _ hid]
  exact hsettled

/-- What the copies of the loop body have in common. -/
structure EntrySync (r : CctvRun) (dev : Nat) (statusMap : Std.TreeMap String Int)
    (sync : String → DeviceMng → CctvIpc → DeviceMng × List CctvNotify) : Prop where
  frame : ∀ (t : DeviceMng) (sub : String) (entry : CctvIpc), t.Allocated → dev < t.nextDev →
    Frame [] [entry.gbId] t (sync sub t entry).1
  nvrs : ∀ (t : DeviceMng) (sub : String) (entry : CctvIpc), NvrsKept t (sync sub t entry).1
  settles : ∀ (t : DeviceMng) (sub : String) (entry : CctvIpc),
    (sync sub t entry).1.EntrySettled statusMap sub entry
  idle : ∀ (t : DeviceMng) (sub : String) (entry : CctvIpc), r.isAll = false →
    t.EntrySettled statusMap sub entry → sync sub t entry = (t, [])

theorem entrySync_upward (r : CctvRun) (dev : Nat) (statusMap : Std.TreeMap String Int) :
    EntrySync r dev statusMap (syncUpwardIpc r dev statusMap) where
  frame t sub entry h hdev :=
    (sameWrite_syncUpwardIpc r dev statusMap sub entry (SameCamera.refl _ t)).frame h hdev
  nvrs t sub entry :=
    (sameWrite_syncUpwardIpc r dev statusMap sub entry (SameCamera.refl _ t)).nvrsKept
  settles t sub entry := by
    unfold syncUpwardIpc
    dsimp only
    split
    · rename_i child hchild
      have hid := t.server.children.keyed _ child hchild
      split
      · split
        · exact entrySettled_putChild hid ⟨rfl, rfl, rfl⟩
        · rename_i hsame
          obtain ⟨hname, hsub⟩ : child.name = entry.childName ∧ child.parentId = sub := by
            simpa using hsame
          split
          · exact entrySettled_putChild hid ⟨hname, hsub, rfl⟩
          · rename_i hkept
            refine ⟨child, hchild, fun _ => ⟨hname, hsub, ?_⟩⟩
            by_contra hne
            exact hkept (.inr hne)
      · rename_i hparent
        exact ⟨child, hchild, fun h => absurd h hparent⟩
    · exact entrySettled_putChild rfl ⟨rfl, rfl, rfl⟩
  idle t sub entry hall hsettled := by
    obtain ⟨child, hchild, hown⟩ := hsettled
    simp only [syncUpwardIpc, hchild]
    split
    · rename_i hparent
      obtain ⟨hname, hsub, hstatus⟩ := hown hparent
      simp [hname, hsub, hstatus, hall]
    · rfl

theorem entrySync_kkIpc (r : CctvRun) (dev : Nat) (statusMap : Std.TreeMap String Int) :
    EntrySync r dev statusMap (syncKkIpc r dev statusMap) where
  frame t sub entry h hdev :=
    (sameWrite_syncKkIpc r dev statusMap sub entry (SameCamera.refl _ t)).frame h hdev
  nvrs t sub entry :=
    (sameWrite_syncKkIpc r dev statusMap sub entry (SameCamera.refl _ t)).nvrsKept
  settles t sub entry := by
    unfold syncKkIpc
    dsimp only
    split
    · rename_i child hchild
      have hid := t.server.children.keyed _ child hchild
      split
      · split
        · split
          · exact entrySettled_putChild hid ⟨rfl, rfl, rfl⟩
          · rename_i hsame
            obtain ⟨hname, hsub⟩ : child.name = entry.childName ∧ child.parentId = sub := by
              simpa using hsame
            split
            · exact entrySettled_putChild hid ⟨hname, hsub, rfl⟩
            · rename_i hkept
              refine ⟨child, hchild, fun _ => ⟨hname, hsub, ?_⟩⟩
              by_contra hne
              exact hkept (.inr hne)
        · rename_i hsame
          push Not at hsame
          exact ⟨child, hchild, fun _ => ⟨hsame.1, hsame.2.2, hsame.2.1⟩⟩
      · rename_i hparent
        exact ⟨child, hchild, fun h => absurd h hparent⟩
    · exact entrySettled_putChild rfl ⟨rfl, rfl, rfl⟩
  idle t sub entry hall hsettled := by
    obtain ⟨child, hchild, hown⟩ := hsettled
    simp only [syncKkIpc, hchild]
    split
    · rename_i hparent
      obtain ⟨hname, hsub, hstatus⟩ := hown hparent
      simp [hname, hsub, hstatus]
    · rfl

/-! ### Sections -/

variable {sync : String → DeviceMng → CctvIpc → DeviceMng × List CctvNotify} {voTop : String}

theorem EntrySync.frame_run (hsync : EntrySync r dev statusMap sync) (h : t.Allocated)
    (hdev : dev < t.nextDev) (sub : String) (entries : List CctvIpc) :
    Frame [] (entries.map (·.gbId)) t (Collect.run (sync sub) t entries).1 := by
  induction entries generalizing t with
  | nil => exact Frame.idle h _ _
  | cons entry entries ih =>
      have hfirst := hsync.frame t sub entry h hdev
      exact hfirst.trans (ih hfirst.allocated (hdev.trans_le hfirst.nextDev))

theorem EntrySync.settled_run (hsync : EntrySync r dev statusMap sync) (h : t.Allocated)
    (hdev : dev < t.nextDev) (sub : String) {entries : List CctvIpc}
    (hids : (entries.map (·.gbId)).Nodup) :
    ∀ entry ∈ entries,
      (Collect.run (sync sub) t entries).1.EntrySettled statusMap sub entry := by
  induction entries generalizing t with
  | nil => exact fun entry hentry => nomatch hentry
  | cons entry entries ih =>
      obtain ⟨hfresh, hrest⟩ := List.nodup_cons.mp hids
      have hfirst := hsync.frame t sub entry h hdev
      have hdev' := hdev.trans_le hfirst.nextDev
      intro entry' hentry
      rcases List.mem_cons.mp hentry with rfl | hentry
      · exact (hsync.settles t sub entry').frame (hsync.frame_run hfirst.allocated hdev' sub entries)
          hfirst.allocated hfresh
      · exact ih hfirst.allocated hdev' hrest entry' hentry

/-- The organisation of the section and its cameras are in the tables. -/
def SectionSettled (t : DeviceMng) (statusMap : Std.TreeMap String Int) (voTop : String)
    (s : CctvSection) : Prop :=
  t.OrganizationSettled (s.subVo voTop) ∧
    ∀ entry ∈ s.entries, t.EntrySettled statusMap s.gbId entry

theorem SectionSettled.frame {s : CctvSection} (hsettled : t.SectionSettled statusMap voTop s)
    (h : Frame vos cameras t t') (halloc : t.Allocated) (hvo : s.gbId ∉ vos)
    (hids : ∀ entry ∈ s.entries, entry.gbId ∉ cameras) :
    t'.SectionSettled statusMap voTop s :=
  ⟨hsettled.1.frame h hvo, fun entry hentry =>
    (hsettled.2 entry hentry).frame h halloc (hids entry hentry)⟩

/-- The ids of the organisations and of the cameras of these sections. -/
def sectionVos (sections : List CctvSection) : List String := sections.map (·.gbId)

def sectionCameras (sections : List CctvSection) : List String :=
  sections.flatMap fun s => s.entries.map (·.gbId)

theorem EntrySync.frame_section (hsync : EntrySync r dev statusMap sync) (h : t.Allocated)
    (hdev : dev < t.nextDev) (voTop : String) (s : Option CctvSection) :
    Frame (sectionVos s.toList) (sectionCameras s.toList) t (syncSection sync voTop t s).1 := by
  cases s with
  | none => exact Frame.idle h _ _
  | some s =>
      have horganization : Frame [s.gbId] [] t (t.syncOrganization (s.subVo voTop)).1 :=
        frame_syncOrganization h (s.subVo voTop)
      have hentries := hsync.frame_run horganization.allocated
        (hdev.trans_le horganization.nextDev) s.gbId s.entries
      have hboth := horganization.trans hentries
      simpa [sectionVos, sectionCameras, syncSection] using hboth

theorem EntrySync.nvrs_section (hsync : EntrySync r dev statusMap sync) (voTop : String)
    (t : DeviceMng) (s : Option CctvSection) : NvrsKept t (syncSection sync voTop t s).1 := by
  cases s with
  | none => exact NvrsKept.refl t
  | some s =>
      have hentries : ∀ t, NvrsKept t (Collect.run (sync s.gbId) t s.entries).1 :=
        Collect.run_rel NvrsKept.refl (fun _ _ _ => NvrsKept.trans)
          fun t entry _ => hsync.nvrs t s.gbId entry
      exact (nvrsKept_syncOrganization t _).trans (hentries _)

theorem EntrySync.settled_section (hsync : EntrySync r dev statusMap sync) (h : t.Allocated)
    (hdev : dev < t.nextDev) (voTop : String) {s : Option CctvSection}
    (hids : (sectionCameras s.toList).Nodup) :
    ∀ s' ∈ s.toList, (syncSection sync voTop t s).1.SectionSettled statusMap voTop s' := by
  cases s with
  | none => exact fun s' hs' => nomatch hs'
  | some s =>
      intro s' hs'
      obtain rfl : s' = s := by simpa using hs'
      have horganization := frame_syncOrganization h (s'.subVo voTop)
      have hdev' := hdev.trans_le horganization.nextDev
      have hids' : (s'.entries.map (·.gbId)).Nodup := by simpa [sectionCameras] using hids
      refine ⟨?_, hsync.settled_run horganization.allocated hdev' s'.gbId hids'⟩
      exact (settled_syncOrganization t _).frame
        (hsync.frame_run horganization.allocated hdev' s'.gbId s'.entries) List.not_mem_nil

theorem EntrySync.idle_section (hsync : EntrySync r dev statusMap sync) (hall : r.isAll = false)
    {s : Option CctvSection}
    (hsettled : ∀ s' ∈ s.toList, t.SectionSettled statusMap voTop s') :
    syncSection sync voTop t s = (t, []) := by
  cases s with
  | none => rfl
  | some s =>
      obtain ⟨horganization, hentries⟩ := hsettled s (Option.mem_toList.mpr rfl)
      have hidle : Collect.run (sync s.gbId) t s.entries = (t, []) :=
        Collect.run_of_idle fun entry hentry => hsync.idle t s.gbId entry hall (hentries entry hentry)
      simp only [syncSection, syncOrganization_of_settled horganization, hidle, List.append_nil]

/-! ### Nodes -/

theorem SectionSettled.frame_of_nodup {s : CctvSection} {sections sections' : List CctvSection}
    (hsettled : t.SectionSettled statusMap voTop s) (hs : s ∈ sections)
    (h : Frame (sectionVos sections') (sectionCameras sections') t t') (halloc : t.Allocated)
    (hvos : (sectionVos sections ++ sectionVos sections').Nodup)
    (hcameras : (sectionCameras sections ++ sectionCameras sections').Nodup) :
    t'.SectionSettled statusMap voTop s := by
  refine hsettled.frame h halloc ?_ ?_
  · exact List.disjoint_of_nodup_append hvos (List.mem_map_of_mem hs)
  · intro entry hentry
    refine List.disjoint_of_nodup_append hcameras (List.mem_flatMap.mpr ⟨s, hs, ?_⟩)
    exact List.mem_map_of_mem hentry

theorem Frame.append_sections {sections sections' : List CctvSection}
    (h : Frame (sectionVos sections) (sectionCameras sections) t t')
    (h' : Frame (sectionVos sections') (sectionCameras sections') t' t'') :
    Frame (sectionVos (sections ++ sections')) (sectionCameras (sections ++ sections')) t t'' := by
  have hboth := h.trans h'
  unfold sectionVos sectionCameras at hboth ⊢
  rw [List.map_append, List.flatMap_append]
  exact hboth

/-- The three sections of a node touch only their own ids, and leave the sections
settled when those are distinct. -/
theorem syncSections_spec (h : t.Allocated) (hdev : dev < t.nextDev) (r : CctvRun)
    (statusMap : Std.TreeMap String Int) (voTop : String) (node : CctvNode) :
    Frame (sectionVos node.sections) (sectionCameras node.sections) t
        (syncSections r (t, dev, statusMap) voTop node.upward node.downward node.kkIpc).1 ∧
      ((sectionVos node.sections).Nodup → (sectionCameras node.sections).Nodup →
        ∀ s ∈ node.sections,
          (syncSections r (t, dev, statusMap) voTop node.upward node.downward
            node.kkIpc).1.SectionSettled statusMap voTop s) := by
  have hup := entrySync_upward r dev statusMap
  have hdown : EntrySync r dev statusMap (syncDownwardIpc r dev statusMap) := hup
  have hkk := entrySync_kkIpc r dev statusMap
  have frame₁ := hup.frame_section h hdev voTop node.upward
  have hdev₁ := hdev.trans_le frame₁.nextDev
  have frame₂ := hdown.frame_section frame₁.allocated hdev₁ voTop node.downward
  have hdev₂ := hdev₁.trans_le frame₂.nextDev
  have frame₃ := hkk.frame_section frame₂.allocated hdev₂ voTop node.kkIpc
  refine ⟨(frame₁.append_sections frame₂).append_sections frame₃, fun hvos hcameras s hs => ?_⟩
  rw [CctvNode.sections, sectionVos, List.map_append] at hvos
  rw [CctvNode.sections, sectionCameras, List.flatMap_append] at hcameras
  have hvos₁ := (List.nodup_append.mp hvos).1
  have hcameras₁ := (List.nodup_append.mp hcameras).1
  rcases List.mem_append.mp hs with hs | hs
  · refine SectionSettled.frame_of_nodup ?_ hs frame₃ frame₂.allocated hvos hcameras
    rw [List.map_append] at hvos₁
    rw [List.flatMap_append] at hcameras₁
    rcases List.mem_append.mp hs with hs | hs
    · exact SectionSettled.frame_of_nodup
        (hup.settled_section h hdev voTop (List.nodup_append.mp hcameras₁).1 s hs) hs frame₂
        frame₁.allocated hvos₁ hcameras₁
    · exact hdown.settled_section frame₁.allocated hdev₁ voTop (List.nodup_append.mp hcameras₁).2.1
        s hs
  · exact hkk.settled_section frame₂.allocated hdev₂ voTop (List.nodup_append.mp hcameras).2.1 s hs

theorem nvrsKept_syncSections (r : CctvRun) (start : DeviceMng × Nat × Std.TreeMap String Int)
    (voTop : String) (node : CctvNode) :
    NvrsKept start.1
      (syncSections r start voTop node.upward node.downward node.kkIpc).1 := by
  obtain ⟨t, dev, statusMap⟩ := start
  have hup := entrySync_upward r dev statusMap
  have hdown : EntrySync r dev statusMap (syncDownwardIpc r dev statusMap) := hup
  exact ((hup.nvrs_section voTop t node.upward).trans (hdown.nvrs_section voTop _ _)).trans
    ((entrySync_kkIpc r dev statusMap).nvrs_section voTop _ _)

theorem syncSections_idle (hall : r.isAll = false)
    (hsettled : ∀ s ∈ node.sections, t.SectionSettled statusMap voTop s) :
    syncSections r (t, dev, statusMap) voTop node.upward node.downward node.kkIpc = (t, []) := by
  have hup := (entrySync_upward r dev statusMap).idle_section hall (s := node.upward)
    fun s hs => hsettled s (List.mem_append_left _ (List.mem_append_left _ hs))
  have hdown : syncSection (syncDownwardIpc r dev statusMap) voTop t node.downward = (t, []) :=
    (entrySync_upward r dev statusMap).idle_section hall
      fun s hs => hsettled s (List.mem_append_left _ (List.mem_append_right _ hs))
  have hkk := (entrySync_kkIpc r dev statusMap).idle_section hall (s := node.kkIpc)
    fun s hs => hsettled s (List.mem_append_right _ hs)
  simp only [syncSections, hup, hdown, hkk, List.append_nil]

/-! ### The NVR of a node -/

/-- Apart from the session an NVR does not change when it is asked for its channels. -/
theorem listIpc_nvr (t : DeviceMng) (env : Env) (nvr : JsonNvrDevic) :
    (t.listIpc env nvr).1.nvr = { nvr with mLoginId := (t.listIpc env nvr).1.nvr.mLoginId } := by
  have hinit : ∀ s : NvrSession, (s.initSdk env.sdk).1.nvr = s.nvr := by
    intro s
    unfold NvrSession.initSdk
    split <;> rfl
  have hopened : ∀ s : NvrSession,
      ∃ login, (s.opened env.sdk).1.nvr = { s.nvr with mLoginId := login } := by
    intro s
    unfold NvrSession.opened NvrSession.logIn
    split
    · refine ⟨((s.initSdk env.sdk).1.ask env.sdk (s.initSdk env.sdk).1.logInCall).handle, ?_⟩
      simp only [NvrSession.setLoginId, NvrSession.call, hinit]
    · exact ⟨s.nvr.mLoginId, hinit s⟩
  have hlist : ∃ login, (t.listIpc env nvr).1.nvr = { nvr with mLoginId := login } := by
    obtain ⟨login, hlogin⟩ := hopened (t.server.session nvr)
    unfold listIpc NvrSession.devListIPC NvrSession.logInOp NvrSession.operate
    dsimp only
    split
    · split
      · refine ⟨0, ?_⟩
        simp only [NvrSession.setLoginId, NvrSession.call, hlogin]
        rfl
      · exact ⟨login, hlogin⟩
    · exact ⟨login, hlogin⟩
  obtain ⟨login, hlogin⟩ := hlist
  rw [hlogin]

/-- The statuses that a node's NVR lists. -/
def answerStatuses (answer : NvrAnswer) : Std.TreeMap String Int :=
  (answer.map fun a => channelStatuses a.2).getD ∅

/-- The place of a node's NVR. -/
def nodeRef (t : DeviceMng) (node : CctvNode) : Option Nat := t.mDeviceMap[cutAtBlank node.nvrDid]?

/-- What stands at a place on the heap: an NVR, and its status. -/
def cell (t : DeviceMng) (ref : Nat) : Option JsonNvrDevic × Int :=
  (t.server.nvrs ref, t.nvrStatus ref)

/-- What a node writes to the place of its NVR. -/
def nodeCell (node : CctvNode) (cell : Option JsonNvrDevic × Int) : Option JsonNvrDevic × Int :=
  (cell.1.map (nodeNvr node), if cell.1.isSome then if node.status ≠ 0 then 0 else 1 else cell.2)

/-- What the answer of an NVR writes to its place. -/
def loginCell (answer : NvrAnswer) (cell : Option JsonNvrDevic × Int) :
    Option JsonNvrDevic × Int :=
  (cell.1.map fun nvr => { nvr with mLoginId := (answer.map (·.1)).getD 0 }, cell.2)

/-- What a node and the answer of its NVR write to the NVR's place. -/
def writeNvr (cell : Option JsonNvrDevic × Int) (a : CctvNode × NvrAnswer) :
    Option JsonNvrDevic × Int :=
  loginCell a.2 (nodeCell a.1 cell)

/-- Nothing of an earlier write is left after the next. -/
theorem writeNvr_writeNvr (cell : Option JsonNvrDevic × Int) (a b : CctvNode × NvrAnswer) :
    writeNvr (writeNvr cell a) b = writeNvr cell b := by
  obtain ⟨nvr, status⟩ := cell
  cases nvr <;> rfl

theorem frame_putNvr (h : t.Allocated) {nvr : JsonNvrDevic} (hnvr : t.server.nvrs dev = some nvr)
    (nvr' : JsonNvrDevic) (status : Int) : Frame [] [] t (t.putNvr dev nvr' status) where
  selfId := rfl
  organizations _ _ := rfl
  cameras _ _ := rfl
  devices h := h
  nvrs ref _ := by
    show (if ref = dev then some nvr' else t.server.nvrs ref).isSome = _
    split
    · rename_i heq
      rw [heq, hnvr]
      rfl
    · rfl
  nextDev := Nat.le_refl _
  allocated := by
    refine ⟨h.devices, h.parents, fun ref href => ?_⟩
    show (if ref = dev then some nvr' else t.server.nvrs ref) = none
    have hfree := h.free ref href
    split
    · rename_i heq
      rw [heq, hnvr] at hfree
      cases hfree
    · exact hfree

theorem frame_syncNvr (h : t.Allocated) (node : CctvNode) : Frame [] [] t (t.syncNvr node).1 := by
  unfold syncNvr
  dsimp only
  split
  · split
    · rename_i ref _ nvr hnvr
      exact frame_putNvr h hnvr _ _
    · exact Frame.idle h _ _
  · rename_i hnew
    refine { selfId := rfl, organizations := fun _ _ => rfl, cameras := fun _ _ => rfl,
             devices := ?devices, nvrs := ?nvrs, nextDev := Nat.le_succ _,
             allocated := ⟨?ids, fun hchild href => (h.parents hchild href).trans_le (Nat.le_succ _),
               ?free⟩ }
    case devices =>
      intro id ref hid
      have hne : id ≠ cutAtBlank node.nvrDid := by
        rintro rfl
        rw [hnew] at hid
        cases hid
      show (t.mDeviceMap.insert (cutAtBlank node.nvrDid) t.nextDev)[id]? = some ref
      rw [OrdMap.getElem?_insert, if_neg hne, hid]
    case nvrs =>
      intro ref hlt
      show (if ref = t.nextDev then some _ else t.server.nvrs ref).isSome = _
      rw [if_neg hlt.ne]
    case ids =>
      intro id ref hid
      rcases OrdMap.insert_cases hid with ⟨-, rfl⟩ | ⟨-, hold⟩
      · exact Nat.lt_succ_self _
      · exact (h.devices hold).trans_le (Nat.le_succ _)
    case free =>
      intro ref href
      have hlt : t.nextDev < ref := href
      show (if ref = t.nextDev then some _ else t.server.nvrs ref) = none
      rw [if_neg hlt.ne']
      exact h.free ref hlt.le

theorem nodeRef_syncNvr (t : DeviceMng) (node : CctvNode) :
    (t.syncNvr node).1.nodeRef node = some (t.syncNvr node).2 := by
  unfold syncNvr nodeRef
  dsimp only
  split
  · rename_i ref href
    split
    · exact href
    · exact href
  · show (t.mDeviceMap.insert (cutAtBlank node.nvrDid) t.nextDev)[cutAtBlank node.nvrDid]? = _
    rw [OrdMap.getElem?_insert, if_pos rfl]

theorem frame_getJsonNvrChannelStatus (h : t.Allocated) (env : Env) (dev : Nat) :
    Frame [] [] t (t.getJsonNvrChannelStatus env dev).1 := by
  unfold getJsonNvrChannelStatus
  split
  · exact Frame.idle h _ _
  · rename_i nvr hnvr
    have hframe := frame_putNvr h hnvr (t.listIpc env nvr).1.nvr (t.nvrStatus dev)
    exact ⟨rfl, fun _ _ => rfl, fun _ _ => rfl, id, hframe.nvrs, Nat.le_refl _,
      ⟨h.devices, h.parents, hframe.allocated.free⟩⟩

theorem cell_putNvr (t : DeviceMng) (dev ref : Nat) (nvr : JsonNvrDevic) (status : Int) :
    (t.putNvr dev nvr status).cell ref = if ref = dev then (some nvr, status) else t.cell ref := by
  unfold cell putNvr
  by_cases heq : ref = dev
  · simp only [if_pos heq]
  · simp only [if_neg heq]

theorem nodeCell_of_some {cell : Option JsonNvrDevic × Int} {nvr : JsonNvrDevic}
    (h : cell.1 = some nvr) :
    nodeCell node cell = (some (nodeNvr node nvr), if node.status ≠ 0 then 0 else 1) := by
  rw [nodeCell, h]
  rfl

theorem nodeCell_of_none {cell : Option JsonNvrDevic × Int} (h : cell.1 = none) :
    nodeCell node cell = cell := by
  obtain ⟨nvr, status⟩ := cell
  obtain rfl : nvr = none := h
  rfl

theorem loginCell_of_none {cell : Option JsonNvrDevic × Int} (h : cell.1 = none)
    (answer : NvrAnswer) : loginCell answer cell = cell := by
  obtain ⟨nvr, status⟩ := cell
  obtain rfl : nvr = none := h
  rfl

/-- The node writes to the place of its NVR only. A new NVR is made from its id. -/
theorem cell_syncNvr (h : t.Allocated) (node : CctvNode) :
    ∃ new, ∀ ref, (t.syncNvr node).1.cell ref =
      if ref = (t.syncNvr node).2 then
        nodeCell node (if ref < t.nextDev then t.cell ref else new)
      else t.cell ref := by
  refine ⟨(some ⟨cutAtBlank node.nvrDid, "", 0, "", "", 0, ""⟩, 0), fun ref => ?_⟩
  cases hold : t.mDeviceMap[cutAtBlank node.nvrDid]? with
  | none =>
      simp only [syncNvr, hold]
      refine (cell_putNvr t t.nextDev ref _ _).trans ?_
      rcases eq_or_ne ref t.nextDev with rfl | hne
      · rw [if_pos rfl, if_pos rfl, if_neg (Nat.lt_irrefl _)]
        rfl
      · rw [if_neg hne, if_neg hne]
  | some dev =>
      have hlt := h.devices hold
      cases hnvr : t.server.nvrs dev with
      | none =>
          simp only [syncNvr, hold, hnvr]
          rcases eq_or_ne ref dev with rfl | hne
          · rw [if_pos rfl, if_pos hlt, nodeCell_of_none hnvr]
          · rw [if_neg hne]
      | some nvr =>
          simp only [syncNvr, hold, hnvr, cell_putNvr]
          rcases eq_or_ne ref dev with rfl | hne
          · rw [if_pos rfl, if_pos rfl, if_pos hlt]
            exact (nodeCell_of_some hnvr).symm
          · rw [if_neg hne, if_neg hne]

/-- The channel list leaves a session open. -/
theorem cell_getJsonNvrChannelStatus (t : DeviceMng) (env : Env) (dev ref : Nat) :
    (t.getJsonNvrChannelStatus env dev).1.cell ref =
      if ref = dev then loginCell (t.nvrAnswer env dev) (t.cell ref) else t.cell ref := by
  cases hnvr : t.server.nvrs dev with
  | none =>
      simp only [getJsonNvrChannelStatus, nvrAnswer, hnvr]
      split_ifs with heq
      · exact (loginCell_of_none (heq ▸ hnvr) _).symm
      · rfl
  | some nvr =>
      simp only [getJsonNvrChannelStatus, nvrAnswer, hnvr, cell, ServerState.putSession]
      rcases eq_or_ne ref dev with rfl | hne
      · rw [if_pos rfl, if_pos rfl, hnvr, listIpc_nvr]
        rfl
      · rw [if_neg hne, if_neg hne]

/-! ### Where the sections of a node begin -/

theorem nodeStart_eq (env : Env) (t : DeviceMng) (node : CctvNode) :
    nodeStart env t node =
      let s := (t.syncOrganization (t.voTop node)).1.syncNvr node
      ((s.1.getJsonNvrChannelStatus env s.2).1, s.2, answerStatuses (nodeAnswer env t node)) := by
  unfold nodeStart nodeAnswer nvrAnswer answerStatuses getJsonNvrChannelStatus
  dsimp only
  split
  · rename_i hnone
    simp only [hnone, Option.map_none, Option.getD_none]
  · rename_i nvr hnvr
    simp only [hnvr, Option.map_some, Option.getD_some]

theorem frame_nodeStart (h : t.Allocated) (env : Env) (node : CctvNode) :
    Frame [node.gbId] [] t (nodeStart env t node).1 := by
  rw [nodeStart_eq]
  have horganization := frame_syncOrganization h (t.voTop node)
  have hnvr := frame_syncNvr horganization.allocated node
  exact (horganization.trans hnvr).trans (frame_getJsonNvrChannelStatus hnvr.allocated env _)

theorem settled_nodeStart (h : t.Allocated) (env : Env) (node : CctvNode) :
    (nodeStart env t node).1.OrganizationSettled (t.voTop node) := by
  rw [nodeStart_eq]
  have horganization := frame_syncOrganization h (t.voTop node)
  have hnvr := frame_syncNvr horganization.allocated node
  exact ((settled_syncOrganization t _).frame hnvr List.not_mem_nil).frame
    (frame_getJsonNvrChannelStatus hnvr.allocated env _) List.not_mem_nil

theorem nodeRef_nodeStart (env : Env) (t : DeviceMng) (node : CctvNode) :
    (nodeStart env t node).1.nodeRef node = some (nodeStart env t node).2.1 := by
  rw [nodeStart_eq]
  refine Eq.trans ?_ (nodeRef_syncNvr (t.syncOrganization (t.voTop node)).1 node)
  unfold nodeRef getJsonNvrChannelStatus
  dsimp only
  split <;> rfl

/-- Up to its sections a node writes to the place of its NVR only. -/
theorem cell_nodeStart (h : t.Allocated) (env : Env) (node : CctvNode) :
    ∃ new, ∀ ref, (nodeStart env t node).1.cell ref =
      if (nodeStart env t node).1.nodeRef node = some ref then
        writeNvr (if ref < t.nextDev then t.cell ref else new) (node, nodeAnswer env t node)
      else t.cell ref := by
  have hkept := nvrsKept_syncOrganization t (t.voTop node)
  obtain ⟨new, hnew⟩ := cell_syncNvr (frame_syncOrganization h (t.voTop node)).allocated node
  refine ⟨new, fun ref => ?_⟩
  have hcell : (t.syncOrganization (t.voTop node)).1.cell ref = t.cell ref := by
    rw [cell, hkept.nvrs, hkept.nvrStatus, cell]
  rw [nodeRef_nodeStart, nodeStart_eq]
  dsimp only
  rw [cell_getJsonNvrChannelStatus, hnew, hcell, hkept.nextDev]
  by_cases heq : ref = ((t.syncOrganization (t.voTop node)).1.syncNvr node).2
  · rw [if_pos heq, if_pos heq, if_pos (congrArg some heq.symm)]
    rfl
  · rw [if_neg heq, if_neg heq, if_neg fun hsome => heq (Option.some.inj hsome).symm]

/-! ### Runs -/

theorem frame_syncNode (h : t.Allocated) (env : Env) (r : CctvRun) (node : CctvNode) :
    Frame node.organizationIds node.cameraIds t (syncNode env r t node).1 := by
  rw [syncNode_eq]
  have hstart := frame_nodeStart h env node
  have hdev := hstart.allocated.devices (nodeRef_nodeStart env t node)
  exact hstart.trans (syncSections_spec hstart.allocated hdev r _ node.gbId node).1

/-- The node, its sections and its cameras are in the tables, for an NVR that
gives this answer. -/
structure NodeSettled (t : DeviceMng) (a : CctvNode × NvrAnswer) : Prop where
  organization : t.OrganizationSettled (t.voTop a.1)
  sections : ∀ s ∈ a.1.sections, t.SectionSettled (answerStatuses a.2) a.1.gbId s
  device : (t.nodeRef a.1).isSome

theorem settled_syncNode (h : t.Allocated) (env : Env) (r : CctvRun) {node : CctvNode}
    (hvos : node.organizationIds.Nodup) (hcameras : node.cameraIds.Nodup) :
    (syncNode env r t node).1.NodeSettled (node, nodeAnswer env t node) := by
  have hself := (frame_syncNode h env r node).selfId
  obtain ⟨hfresh, hvos⟩ := List.nodup_cons.mp hvos
  have hstart := frame_nodeStart h env node
  have hdev := hstart.allocated.devices (nodeRef_nodeStart env t node)
  have hstatuses : (nodeStart env t node).2.2 = answerStatuses (nodeAnswer env t node) := by
    rw [nodeStart_eq]
  obtain ⟨hframe, hsettled⟩ := syncSections_spec hstart.allocated hdev r
    (nodeStart env t node).2.2 node.gbId node
  refine { organization := ?organization, sections := ?sections, device := ?device }
  case organization =>
    have hvo : (syncNode env r t node).1.voTop node = t.voTop node := by
      rw [voTop, hself, voTop]
    rw [hvo, syncNode_eq]
    exact (settled_nodeStart h env node).frame hframe hfresh
  case sections =>
    rw [syncNode_eq, ← hstatuses]
    exact hsettled hvos hcameras
  case device =>
    rw [syncNode_eq]
    have hfound := hframe.devices (nodeRef_nodeStart env t node)
    exact Option.isSome_iff_exists.mpr ⟨_, hfound⟩

theorem NodeSettled.frame {a : CctvNode × NvrAnswer} (hsettled : t.NodeSettled a)
    (h : Frame vos cameras t t') (halloc : t.Allocated)
    (hvos : List.Disjoint a.1.organizationIds vos)
    (hcameras : List.Disjoint a.1.cameraIds cameras) : t'.NodeSettled a where
  organization := by
    have hvo : t'.voTop a.1 = t.voTop a.1 := by rw [voTop, h.selfId, voTop]
    rw [hvo]
    exact hsettled.organization.frame h (hvos List.mem_cons_self)
  sections s hs := by
    refine (hsettled.sections s hs).frame h halloc ?_ ?_
    · exact hvos (List.mem_cons_of_mem _ (List.mem_map_of_mem hs))
    · exact fun entry hentry =>
        hcameras (List.mem_flatMap.mpr ⟨s, hs, List.mem_map_of_mem hentry⟩)
  device := by
    obtain ⟨ref, href⟩ := Option.isSome_iff_exists.mp hsettled.device
    exact Option.isSome_iff_exists.mpr ⟨ref, h.devices href⟩

theorem frame_nodes (h : t.Allocated) (env : Env) (r : CctvRun) (nodes : List CctvNode) :
    Frame (nodes.flatMap (·.organizationIds)) (nodes.flatMap (·.cameraIds)) t
      (Collect.run (syncNode env r) t nodes).1 := by
  induction nodes generalizing t with
  | nil => exact Frame.idle h _ _
  | cons node nodes ih =>
      have hnode := frame_syncNode h env r node
      exact hnode.trans (ih hnode.allocated)

/-- A run leaves every node settled for the answer that its NVR gave. -/
theorem settled_nodes (h : t.Allocated) (env : Env) (r : CctvRun) {nodes : List CctvNode}
    (hids : DistinctIds nodes) :
    ∀ a ∈ nodeAnswers env r t nodes, (Collect.run (syncNode env r) t nodes).1.NodeSettled a := by
  induction nodes generalizing t with
  | nil => exact fun a ha => nomatch ha
  | cons node nodes ih =>
      obtain ⟨hvos, hcameras⟩ := hids
      rw [List.flatMap_cons] at hvos hcameras
      have hvos' := List.nodup_append.mp hvos
      have hcameras' := List.nodup_append.mp hcameras
      have hnode := frame_syncNode h env r node
      intro a ha
      rcases List.mem_cons.mp ha with rfl | ha
      · exact (settled_syncNode h env r hvos'.1 hcameras'.1).frame
          (frame_nodes hnode.allocated env r nodes) hnode.allocated
          (List.disjoint_of_nodup_append hvos) (List.disjoint_of_nodup_append hcameras)
      · exact ih hnode.allocated ⟨hvos'.2.1, hcameras'.2.1⟩ a ha

/-! ### A run that finds everything settled -/

/-- Only what the NVRs hold has changed. -/
structure Quiet (t t' : DeviceMng) : Prop where
  selfId : t'.selfId = t.selfId
  mVoMap : t'.mVoMap = t.mVoMap
  mDeviceMap : t'.mDeviceMap = t.mDeviceMap
  children : t'.server.children = t.server.children
  nvrs : ∀ ref, (t'.server.nvrs ref).isSome = (t.server.nvrs ref).isSome
  nextDev : t'.nextDev = t.nextDev

theorem Quiet.refl (t : DeviceMng) : Quiet t t := ⟨rfl, rfl, rfl, rfl, fun _ => rfl, rfl⟩

theorem Quiet.trans (h : Quiet t t') (h' : Quiet t' t'') : Quiet t t'' where
  selfId := h'.selfId.trans h.selfId
  mVoMap := h'.mVoMap.trans h.mVoMap
  mDeviceMap := h'.mDeviceMap.trans h.mDeviceMap
  children := h'.children.trans h.children
  nvrs ref := (h'.nvrs ref).trans (h.nvrs ref)
  nextDev := h'.nextDev.trans h.nextDev

theorem quiet_syncNvr (h : (t.nodeRef node).isSome) : Quiet t (t.syncNvr node).1 := by
  obtain ⟨dev, hdev⟩ := Option.isSome_iff_exists.mp h
  unfold nodeRef at hdev
  cases hnvr : t.server.nvrs dev with
  | none =>
      simp only [syncNvr, hdev, hnvr]
      exact Quiet.refl t
  | some nvr =>
      simp only [syncNvr, hdev, hnvr]
      refine ⟨rfl, rfl, rfl, rfl, fun ref => ?_, rfl⟩
      show (if ref = dev then some _ else t.server.nvrs ref).isSome = _
      split_ifs with heq
      · rw [heq, hnvr]
        rfl
      · rfl

theorem quiet_getJsonNvrChannelStatus (t : DeviceMng) (env : Env) (dev : Nat) :
    Quiet t (t.getJsonNvrChannelStatus env dev).1 := by
  cases hnvr : t.server.nvrs dev with
  | none =>
      simp only [getJsonNvrChannelStatus, hnvr]
      exact Quiet.refl t
  | some nvr =>
      simp only [getJsonNvrChannelStatus, hnvr]
      refine ⟨rfl, rfl, rfl, rfl, fun ref => ?_, rfl⟩
      show (if ref = dev then some _ else t.server.nvrs ref).isSome = _
      split_ifs with heq
      · rw [heq, hnvr]
        rfl
      · rfl

theorem NodeSettled.quiet {a : CctvNode × NvrAnswer} (hsettled : t.NodeSettled a)
    (h : Quiet t t') : t'.NodeSettled a where
  organization := by
    have hvo : t'.voTop a.1 = t.voTop a.1 := by rw [voTop, h.selfId, voTop]
    rw [hvo]
    exact hsettled.organization.of_mVoMap h.mVoMap
  sections s hs := by
    obtain ⟨horganization, hentries⟩ := hsettled.sections s hs
    refine ⟨horganization.of_mVoMap h.mVoMap, fun entry hentry => ?_⟩
    obtain ⟨child, hchild, hown⟩ := hentries entry hentry
    refine ⟨child, by rw [h.children, hchild], fun hparent => hown ?_⟩
    rw [ServerState.parentNvr_isSome] at hparent ⊢
    cases href : child.mParentDev with
    | none =>
        rw [href] at hparent
        cases hparent
    | some ref =>
        rw [href] at hparent
        exact (h.nvrs ref).symm.trans hparent
  device := by
    rw [nodeRef, h.mDeviceMap]
    exact hsettled.device

theorem syncNode_idle (hall : r.isAll = false)
    (hsettled : t.NodeSettled (node, nodeAnswer env t node)) :
    (syncNode env r t node).2 = [] ∧ Quiet t (syncNode env r t node).1 := by
  have horganization := syncOrganization_of_settled hsettled.organization
  have hquiet : Quiet t (nodeStart env t node).1 := by
    rw [nodeStart_eq, horganization]
    exact (quiet_syncNvr hsettled.device).trans (quiet_getJsonNvrChannelStatus _ env _)
  have hstatuses : (nodeStart env t node).2.2 = answerStatuses (nodeAnswer env t node) := by
    rw [nodeStart_eq]
  have hsections : ∀ s ∈ node.sections, (nodeStart env t node).1.SectionSettled
      (nodeStart env t node).2.2 node.gbId s := by
    rw [hstatuses]
    exact (hsettled.quiet hquiet).sections
  have hidle : syncSections r (nodeStart env t node) node.gbId node.upward node.downward
      node.kkIpc = ((nodeStart env t node).1, []) := syncSections_idle hall hsections
  rw [syncNode_eq, hidle, horganization]
  exact ⟨rfl, hquiet⟩

theorem nodes_idle (hall : r.isAll = false) {nodes : List CctvNode}
    (hsettled : ∀ a ∈ nodeAnswers env r t nodes, t.NodeSettled a) :
    (Collect.run (syncNode env r) t nodes).2 = [] ∧
      Quiet t (Collect.run (syncNode env r) t nodes).1 := by
  induction nodes generalizing t with
  | nil => exact ⟨rfl, Quiet.refl t⟩
  | cons node nodes ih =>
      obtain ⟨hnone, hquiet⟩ := syncNode_idle hall (hsettled _ List.mem_cons_self)
      obtain ⟨hrest, hquiet'⟩ := ih fun a ha => (hsettled a (List.mem_cons_of_mem _ ha)).quiet hquiet
      rw [Collect.run, hnone, hrest]
      exact ⟨rfl, hquiet.trans hquiet'⟩

/-! ### What the NVRs hold -/

theorem nodeRef_syncNode (env : Env) (r : CctvRun) (t : DeviceMng) (node : CctvNode) :
    (syncNode env r t node).1.nodeRef node = some (nodeStart env t node).2.1 := by
  rw [syncNode_eq, nodeRef, (nvrsKept_syncSections r _ node.gbId node).mDeviceMap]
  exact nodeRef_nodeStart env t node

theorem cell_syncNode (h : t.Allocated) (env : Env) (r : CctvRun) (node : CctvNode) :
    ∃ new, ∀ ref, (syncNode env r t node).1.cell ref =
      if (syncNode env r t node).1.nodeRef node = some ref then
        writeNvr (if ref < t.nextDev then t.cell ref else new) (node, nodeAnswer env t node)
      else t.cell ref := by
  obtain ⟨new, hnew⟩ := cell_nodeStart h env node
  refine ⟨new, fun ref => ?_⟩
  have hkept := nvrsKept_syncSections r (nodeStart env t node) node.gbId node
  have hcell : (syncNode env r t node).1.cell ref = (nodeStart env t node).1.cell ref := by
    rw [syncNode_eq, cell, hkept.nvrs, hkept.nvrStatus, cell]
  rw [hcell, hnew, nodeRef_syncNode, nodeRef_nodeStart]

/-- The writes of a run to a place on the heap. -/
def writesTo (t : DeviceMng) (ref : Nat) (answers : List (CctvNode × NvrAnswer)) :
    List (CctvNode × NvrAnswer) :=
  answers.filter fun a => t.nodeRef a.1 = some ref

/-- At the end of a run a place of the heap holds what the writes of the nodes make
of it. Only a device that the run adds starts from something else. -/
theorem cell_nodes (h : t.Allocated) (env : Env) (r : CctvRun) (nodes : List CctvNode)
    (ref : Nat) :
    ∃ start, (Collect.run (syncNode env r) t nodes).1.cell ref =
        ((Collect.run (syncNode env r) t nodes).1.writesTo ref
          (nodeAnswers env r t nodes)).foldl writeNvr start ∧
      (ref < t.nextDev ∨ (Collect.run (syncNode env r) t nodes).1.nextDev ≤ ref →
        start = t.cell ref) := by
  induction nodes generalizing t with
  | nil => exact ⟨t.cell ref, rfl, fun _ => rfl⟩
  | cons node nodes ih =>
      have hframe := frame_syncNode h env r node
      have hrest := frame_nodes hframe.allocated env r nodes
      obtain ⟨start, hend, hstart⟩ := ih hframe.allocated
      obtain ⟨new, hnew⟩ := cell_syncNode h env r node
      have hdev := nodeRef_syncNode env r t node
      have hlt := hframe.allocated.devices hdev
      have hdevEnd : (Collect.run (syncNode env r) (syncNode env r t node).1 nodes).1.nodeRef node =
          some (nodeStart env t node).2.1 := hrest.devices hdev
      have hown := hnew ref
      rw [hdev] at hown
      simp only [Collect.run, nodeAnswers]
      rw [writesTo, List.filter_cons, hdevEnd]
      by_cases heq : (nodeStart env t node).2.1 = ref
      · -- The writes to the node's place start from what was there before the node.
        rw [heq] at hown hlt ⊢
        rw [if_pos rfl] at hown
        rw [hstart (.inl hlt), hown] at hend
        refine ⟨if ref < t.nextDev then t.cell ref else new, ?_, ?_⟩
        · rw [if_pos (decide_eq_true rfl), List.foldl_cons]
          exact hend
        · rintro (hold | hfree)
          · exact if_pos hold
          · exact absurd (hlt.trans_le hrest.nextDev) hfree.not_gt
      · have hne : ¬ some (nodeStart env t node).2.1 = some ref := fun h => heq (Option.some.inj h)
        rw [if_neg hne] at hown
        refine ⟨start, ?_, ?_⟩
        · rw [if_neg (by simpa using heq)]
          exact hend
        · rintro (hold | hfree)
          · rw [hstart (.inl (hold.trans_le hframe.nextDev)), hown]
          · rw [hstart (.inr hfree), hown]

/-- A second run with the same answers writes what the NVRs hold already. -/
theorem cell_nodes_again (h : t.Allocated) (hall : r.isAll = false) {nodes : List CctvNode}
    (hids : DistinctIds nodes)
    (hsame : nodeAnswers env r (Collect.run (syncNode env r) t nodes).1 nodes =
      nodeAnswers env r t nodes) (ref : Nat) :
    (Collect.run (syncNode env r) (Collect.run (syncNode env r) t nodes).1 nodes).1.cell ref =
      (Collect.run (syncNode env r) t nodes).1.cell ref := by
  have hsettled := settled_nodes h env r hids
  rw [← hsame] at hsettled
  obtain ⟨-, hquiet⟩ := nodes_idle hall hsettled
  obtain ⟨start, hfirst, -⟩ := cell_nodes h env r nodes ref
  obtain ⟨start', hsecond, hstart'⟩ := cell_nodes (frame_nodes h env r nodes).allocated env r nodes ref
  have hold : start' = (Collect.run (syncNode env r) t nodes).1.cell ref := by
    refine hstart' ?_
    rw [hquiet.nextDev]
    exact Nat.lt_or_ge ref _
  have hwrites : (Collect.run (syncNode env r) (Collect.run (syncNode env r) t nodes).1
      nodes).1.writesTo ref (nodeAnswers env r t nodes) =
      (Collect.run (syncNode env r) t nodes).1.writesTo ref (nodeAnswers env r t nodes) := by
    unfold writesTo nodeRef
    rw [hquiet.mDeviceMap]
  rw [hsecond, hsame, hwrites, hold, hfirst]
  exact Collect.foldl_foldl writeNvr_writeNvr _ _

end

theorem notifyQDCCTVNodeInfo_eq (t : DeviceMng) (env : Env) (r : CctvRun)
    (reply : Option CctvReply) :
    (t.notifyQDCCTVNodeInfo env r reply).1 =
        (Collect.run (syncNode env r) t (replyNodes reply)).1 ∧
      (t.notifyQDCCTVNodeInfo env r reply).2.1 =
        (Collect.run (syncNode env r) t (replyNodes reply)).2 := by
  rcases reply with - | ⟨code, data⟩
  case none => exact ⟨rfl, rfl⟩
  case some =>
    unfold notifyQDCCTVNodeInfo replyNodes
    dsimp only
    split
    · cases data <;> exact ⟨rfl, rfl⟩
    · exact ⟨rfl, rfl⟩

end DeviceMng

/-- A `DeviceMng` whose devices are on the heap. -/
structure DeviceTree extends DeviceMng where
  allocated : toDeviceMng.Allocated

namespace DeviceTree

open DeviceMng

/-- `NotifyQDCCTVNodeInfo` keeps the devices on the heap. -/
def notifyQDCCTVNodeInfo (tree : DeviceTree) (env : Env) (r : CctvRun) (reply : Option CctvReply) :
    DeviceTree × List CctvNotify × Int :=
  let result := tree.toDeviceMng.notifyQDCCTVNodeInfo env r reply
  ({ toDeviceMng := result.1
     allocated := by
      rw [(notifyQDCCTVNodeInfo_eq _ env r reply).1]
      exact (frame_nodes tree.allocated env r _).allocated }, result.2)

/-- A second run with the same answer of the platform, in which the NVRs answer as
they did, notifies nothing and leaves the tables as the first run left them. -/
theorem notifyQDCCTVNodeInfo_again (tree : DeviceTree) (env : Env) (r : CctvRun)
    (reply : Option CctvReply) (hall : r.isAll = false) (hids : DistinctIds (replyNodes reply))
    (hsame : nodeAnswers env r (tree.notifyQDCCTVNodeInfo env r reply).1.toDeviceMng
        (replyNodes reply) = nodeAnswers env r tree.toDeviceMng (replyNodes reply)) :
    ((tree.notifyQDCCTVNodeInfo env r reply).1.notifyQDCCTVNodeInfo env r reply).2.1 = [] ∧
      SameTables (tree.notifyQDCCTVNodeInfo env r reply).1.toDeviceMng
        ((tree.notifyQDCCTVNodeInfo env r reply).1.notifyQDCCTVNodeInfo env r reply).1.toDeviceMng := by
  have hfirst : (tree.notifyQDCCTVNodeInfo env r reply).1.toDeviceMng =
      (Collect.run (syncNode env r) tree.toDeviceMng (replyNodes reply)).1 :=
    (DeviceMng.notifyQDCCTVNodeInfo_eq _ env r reply).1
  obtain ⟨hsecond, hnotified⟩ := DeviceMng.notifyQDCCTVNodeInfo_eq
    (tree.notifyQDCCTVNodeInfo env r reply).1.toDeviceMng env r reply
  rw [hfirst] at hsame hsecond hnotified
  have hsettled := settled_nodes tree.allocated env r hids
  rw [← hsame] at hsettled
  obtain ⟨hnone, hquiet⟩ := nodes_idle hall hsettled
  have hcell := cell_nodes_again tree.allocated hall hids hsame
  have htables : SameTables (Collect.run (syncNode env r) tree.toDeviceMng (replyNodes reply)).1
      (Collect.run (syncNode env r)
        (Collect.run (syncNode env r) tree.toDeviceMng (replyNodes reply)).1 (replyNodes reply)).1 :=
    { selfId := hquiet.selfId
      mVoMap := hquiet.mVoMap
      mDeviceMap := hquiet.mDeviceMap
      nvrs := funext fun ref => congrArg Prod.fst (hcell ref)
      nvrStatus := funext fun ref => congrArg Prod.snd (hcell ref)
      children := hquiet.children }
  have hnothing := hnotified.trans hnone
  rw [← hfirst] at hnothing
  rw [← hsecond, ← hfirst] at htables
  exact ⟨hnothing, htables⟩

/-- A server that knows the NVR and one camera of it. -/
def knownDevices : DeviceTree where
  toDeviceMng := knownTree
  allocated := by
    refine { devices := ?devices, parents := ?parents, free := ?free }
    case devices =>
      intro id ref hid
      rcases OrdMap.insert_cases hid with ⟨-, rfl⟩ | ⟨-, hnone⟩
      · exact Nat.one_pos
      · simp at hnone
    case parents =>
      intro id child ref hchild href
      have hfind : (ChildMap.empty.addChildDevice knownCamera).findChildDevice id = some child :=
        hchild
      rw [ChildMap.findChildDevice_addChildDevice] at hfind
      split at hfind
      · cases hfind
        cases href
        exact Nat.one_pos
      · simp at hfind
    case free =>
      intro ref href
      have hpos : 0 < ref := href
      exact if_neg hpos.ne'

def changesRun : CctvRun := { notifyAllRun with isAll := false }

/-- A node whose NVR is known, with a camera that is known and one that is not. -/
def sampleNodes : List CctvNode :=
  [{ sampleNode with
    upward := some ⟨"line", "34020000002160000002",
      some [⟨"gate west", "34020000001320000001", 0⟩, ⟨"yard", "34020000001320000002", 1⟩]⟩ }]

theorem notifyQDCCTVNodeInfo_again_sample :
    ((knownDevices.notifyQDCCTVNodeInfo (ServerState.sampleEnv ServerState.workingSdk) changesRun
        (replyOf 200 1 sampleNodes)).1.notifyQDCCTVNodeInfo
          (ServerState.sampleEnv ServerState.workingSdk) changesRun
          (replyOf 200 1 sampleNodes)).2.1 = [] ∧
      SameTables
        (knownDevices.notifyQDCCTVNodeInfo (ServerState.sampleEnv ServerState.workingSdk) changesRun
          (replyOf 200 1 sampleNodes)).1.toDeviceMng
        ((knownDevices.notifyQDCCTVNodeInfo (ServerState.sampleEnv ServerState.workingSdk) changesRun
          (replyOf 200 1 sampleNodes)).1.notifyQDCCTVNodeInfo
            (ServerState.sampleEnv ServerState.workingSdk) changesRun
            (replyOf 200 1 sampleNodes)).1.toDeviceMng :=
  notifyQDCCTVNodeInfo_again knownDevices (ServerState.sampleEnv ServerState.workingSdk) changesRun
    (replyOf 200 1 sampleNodes) rfl ⟨by decide, by decide⟩ (by decide)

/-- An SDK for which the known camera is on line when the NVR is first asked, and off line
from then on. -/
def fadingSdk : Sdk := fun log c =>
  match c with
  | .listIPC _ => { ipcList := some [⟨0, if log.isEmpty then 1 else 0, "gate", "gate"⟩] }
  | _ => ServerState.workingSdk log c

def fadingFirst : DeviceTree × List CctvNotify × Int :=
  knownDevices.notifyQDCCTVNodeInfo (ServerState.sampleEnv fadingSdk) changesRun
    (replyOf 200 1 sampleNodes)

def fadingSecond : DeviceTree × List CctvNotify × Int :=
  fadingFirst.1.notifyQDCCTVNodeInfo (ServerState.sampleEnv fadingSdk) changesRun
    (replyOf 200 1 sampleNodes)

/-- The status of a camera comes from the NVR: when it answers something else in the second
run, the same answer of the platform is notified again. -/
theorem notifyQDCCTVNodeInfo_again_fading :
    changesRun.isAll = false ∧ DistinctIds (replyNodes (replyOf 200 1 sampleNodes)) ∧
      fadingSecond.2.1.length = 1 ∧
      ¬ SameTables fadingFirst.1.toDeviceMng fadingSecond.1.toDeviceMng := by
  refine ⟨rfl, ⟨by decide, by decide⟩, by decide, fun hsame => ?_⟩
  have hstatus : fadingSecond.1.server.children.findChildDevice "34020000001320000001" =
      fadingFirst.1.server.children.findChildDevice "34020000001320000001" :=
    congrArg (·.findChildDevice "34020000001320000001") hsame.children
  have hfirst : (fadingFirst.1.server.children.findChildDevice "34020000001320000001").map
      (·.status) = some 1 := by decide
  have hsecond : (fadingSecond.1.server.children.findChildDevice "34020000001320000001").map
      (·.status) = some 0 := by decide
  rw [hstatus, hfirst] at hsecond
  cases hsecond

end DeviceTree

end SignalingServer
