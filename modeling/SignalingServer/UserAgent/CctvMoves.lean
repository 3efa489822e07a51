import SignalingServer.UserAgent.CctvNodes

/-!
An entry of a node at any place of `Upward`, moved to any place of a later section of
its organisation. The steps of the three sections are one list of tasks, and the task
of an entry changes places with every task that is not about a camera of its GB id.
What is left of the order is the shape of the tree that holds the cameras.
-/

namespace SignalingServer

/-- A step of the sections of a node. -/
inductive CctvTask where
  | organization (vo : VirtualOrganization)
  | upward (sub : String) (entry : CctvIpc)
  | kkIpc (sub : String) (entry : CctvIpc)

namespace CctvTask

/-- The id of the camera that a task reads and writes. -/
def camera : CctvTask → Option String
  | organization _ => none
  | upward _ entry => some entry.gbId
  | kkIpc _ entry => some entry.gbId

end CctvTask

namespace DeviceMng

def syncTask (r : CctvRun) (dev : Nat) (statusMap : Std.TreeMap String Int) (t : DeviceMng) :
    CctvTask → DeviceMng × List CctvNotify
  | .organization vo => t.syncOrganization vo
  | .upward sub entry => syncUpwardIpc r dev statusMap sub t entry
  | .kkIpc sub entry => syncKkIpc r dev statusMap sub t entry

/-- The tasks of a section whose entries are tasks of this kind. -/
def sectionTasks (task : String → CctvIpc → CctvTask) (voTop : String) :
    Option CctvSection → List CctvTask
  | none => []
  | some s => .organization (s.subVo voTop) :: s.entries.map (task s.gbId)

def nodeTasks (node : CctvNode) : List CctvTask :=
  sectionTasks .upward node.gbId node.upward ++ sectionTasks .upward node.gbId node.downward ++
    sectionTasks .kkIpc node.gbId node.kkIpc

/-- The tables with other cameras. -/
def withChildren (t : DeviceMng) (children : ChildMap) : DeviceMng :=
  { t with server := { t.server with children := children } }

/-- The tables are the same, but for the shape of the tree that holds the cameras. -/
structure Alike (t t' : DeviceMng) : Prop where
  others : t' = t.withChildren t'.server.children
  children : t.server.children.map.Equiv t'.server.children.map

section

variable {t t' t'' : DeviceMng} {r : CctvRun} {dev : Nat} {statusMap : Std.TreeMap String Int}
  {sub id : String} {entry : CctvIpc}

/-! ### Tables that are alike -/

theorem Alike.refl (t : DeviceMng) : Alike t t := ⟨rfl, .rfl⟩

theorem Alike.trans (h : Alike t t') (h' : Alike t' t'') : Alike t t'' := by
  refine ⟨?_, h.children.trans h'.children⟩
  rw [h'.others, h.others]
  rfl

theorem Alike.sameCamera (h : Alike t t') (id : String) : SameCamera id t t' where
  child := h.children.symm.getElem?_eq
  nvrs := by
    rw [h.others]
    rfl

theorem Alike.putChild (h : Alike t t') (child : JsonChildDevic) :
    Alike (t.putChild child) (t'.putChild child) := by
  refine ⟨?_, h.children.insert child.deviceId child⟩
  rw [h.others]
  rfl

theorem alike_putChild_comm {child child' : JsonChildDevic}
    (hne : child.deviceId ≠ child'.deviceId) :
    Alike ((t.putChild child).putChild child') ((t.putChild child').putChild child) := by
  refine ⟨rfl, Std.TreeMap.Equiv.of_forall_constGet?_eq fun id => ?_⟩
  show ((t.server.children.addChildDevice child).addChildDevice child').findChildDevice id =
    ((t.server.children.addChildDevice child').addChildDevice child).findChildDevice id
  simp only [ChildMap.findChildDevice_addChildDevice]
  split_ifs with hid hid'
  · exact absurd (hid'.symm.trans hid) hne
  · rfl
  · rfl
  · rfl

theorem SameCamera.trans (h : SameCamera id t t') (h' : SameCamera id t' t'') :
    SameCamera id t t'' :=
  ⟨h'.child.trans h.child, h'.nvrs.trans h.nvrs⟩

theorem sameCamera_putChild {child : JsonChildDevic} (hne : child.deviceId ≠ id) :
    SameCamera id t (t.putChild child) where
  child := by
    show (t.server.children.addChildDevice child).findChildDevice id = _
    rw [ChildMap.findChildDevice_addChildDevice, if_neg hne.symm]
  nvrs := rfl

/-! ### What a task does -/

/-- What is done to an organisation is told by the table of the organisations. -/
theorem syncOrganization_spec (t : DeviceMng) (vo : VirtualOrganization) :
    ∃ organizations notified, ∀ t' : DeviceMng, t'.mVoMap = t.mVoMap →
      t'.syncOrganization vo = ({ t' with mVoMap := organizations }, notified) := by
  cases hfind : t.mVoMap.findVirtualOrganization vo.deviceID with
  | none =>
      refine ⟨t.mVoMap.addVirtualOrganization vo, [.organization .add vo], fun t' hmap => ?_⟩
      rw [syncOrganization, hmap, hfind]
      dsimp only
      rw [putOrganization, hmap]
  | some old =>
      by_cases hchanged : old.name ≠ vo.name ∨ old.parentID ≠ vo.parentID
      · refine ⟨t.mVoMap.addVirtualOrganization
          { old with name := vo.name, parentID := vo.parentID },
          [.organization .update vo], fun t' hmap => ?_⟩
        rw [syncOrganization, hmap, hfind]
        dsimp only
        rw [if_pos hchanged, putOrganization, hmap]
      · refine ⟨t.mVoMap, [], fun t' hmap => ?_⟩
        rw [syncOrganization, hmap, hfind]
        dsimp only
        rw [if_neg hchanged, ← hmap]

theorem sameWrite_syncTask {task : CctvTask} (hcamera : task.camera = some id)
    (h : SameCamera id t t') :
    SameWrite dev id t t' (syncTask r dev statusMap t task) (syncTask r dev statusMap t' task) := by
  cases task with
  | organization vo => cases hcamera
  | upward sub entry =>
      cases hcamera
      exact sameWrite_syncUpwardIpc r dev statusMap sub entry h
  | kkIpc sub entry =>
      cases hcamera
      exact sameWrite_syncKkIpc r dev statusMap sub entry h

/-! ### Tasks that change places -/

variable {own : String} {u u' v v' : DeviceMng × List CctvNotify}

theorem SameWrite.sameCamera (h : SameWrite dev own t t' u u') (hne : own ≠ id) :
    SameCamera id t u.1 := by
  cases h with
  | idle => exact SameCamera.refl id t
  | put hid hparent notified => exact sameCamera_putChild fun hsame => hne (hid.symm.trans hsame)

theorem SameWrite.alike (h : SameWrite dev own t t' u u') (halike : Alike t t') :
    Alike u.1 u'.1 ∧ u'.2 = u.2 := by
  cases h with
  | idle => exact ⟨halike, rfl⟩
  | put hid hparent notified => exact ⟨halike.putChild _, rfl⟩

/-- The write to a camera does not meddle with the organisations. -/
theorem SameWrite.organizations {organizations : VoMap}
    (h : SameWrite dev own t { t with mVoMap := organizations } u u') :
    u'.1 = { u.1 with mVoMap := organizations } ∧ u'.2 = u.2 := by
  cases h with
  | idle => exact ⟨rfl, rfl⟩
  | put hid hparent notified => exact ⟨rfl, rfl⟩

/-- The writes to two cameras, in either order. -/
theorem SameWrite.comm (h : SameWrite dev id t v.1 u u') (h' : SameWrite dev own t u.1 v v')
    (hne : id ≠ own) : Alike v'.1 u'.1 ∧ u'.2 = u.2 ∧ v'.2 = v.2 := by
  cases h with
  | idle =>
      cases h' with
      | idle => exact ⟨Alike.refl t, rfl, rfl⟩
      | put hid hparent notified => exact ⟨Alike.refl _, rfl, rfl⟩
  | put hid hparent notified =>
      cases h' with
      | idle => exact ⟨Alike.refl _, rfl, rfl⟩
      | put hown hparent' notified' =>
          refine ⟨alike_putChild_comm fun hsame => hne ?_, rfl, rfl⟩
          rw [← hid, hsame, hown]

variable (r dev statusMap)

/-- A task leaves the cameras of other ids as they are, and the NVRs. -/
theorem sameCamera_syncTask {task : CctvTask} (hne : task.camera ≠ some id) (t : DeviceMng) :
    SameCamera id t (syncTask r dev statusMap t task).1 := by
  cases task with
  | organization vo =>
      obtain ⟨organizations, notified, hspec⟩ := t.syncOrganization_spec vo
      rw [syncTask, hspec t rfl]
      exact ⟨rfl, rfl⟩
  | upward sub entry =>
      exact (sameWrite_syncTask rfl (SameCamera.refl entry.gbId t)).sameCamera
        fun hsame => hne (congrArg some hsame)
  | kkIpc sub entry =>
      exact (sameWrite_syncTask rfl (SameCamera.refl entry.gbId t)).sameCamera
        fun hsame => hne (congrArg some hsame)

theorem respects_syncTask (task : CctvTask) :
    Collect.Respects Alike (syncTask r dev statusMap) task := by
  intro t t' h
  cases task with
  | organization vo =>
      obtain ⟨organizations, notified, hspec⟩ := t.syncOrganization_spec vo
      have hmap : t'.mVoMap = t.mVoMap := by
        rw [h.others]
        rfl
      rw [syncTask, syncTask, hspec t rfl, hspec t' hmap]
      refine ⟨⟨?_, h.children⟩, rfl⟩
      rw [h.others]
      rfl
  | upward sub entry => exact (sameWrite_syncTask rfl (h.sameCamera entry.gbId)).alike h
  | kkIpc sub entry => exact (sameWrite_syncTask rfl (h.sameCamera entry.gbId)).alike h

theorem exchanges_organization {task : CctvTask} (hcamera : task.camera = some id)
    (vo : VirtualOrganization) :
    Collect.Exchanges Alike (syncTask r dev statusMap) task (.organization vo) := by
  have hsame : ∀ t : DeviceMng,
      (syncTask r dev statusMap (syncTask r dev statusMap t (.organization vo)).1 task).1 =
          (syncTask r dev statusMap (syncTask r dev statusMap t task).1 (.organization vo)).1 ∧
        (syncTask r dev statusMap (syncTask r dev statusMap t (.organization vo)).1 task).2 =
          (syncTask r dev statusMap t task).2 ∧
        (syncTask r dev statusMap (syncTask r dev statusMap t task).1 (.organization vo)).2 =
          (syncTask r dev statusMap t (.organization vo)).2 := by
    intro t
    obtain ⟨organizations, notified, hspec⟩ := t.syncOrganization_spec vo
    have hfirst : syncTask r dev statusMap t (.organization vo) =
        ({ t with mVoMap := organizations }, notified) := hspec t rfl
    have hwrite : SameWrite dev id t { t with mVoMap := organizations }
        (syncTask r dev statusMap t task)
        (syncTask r dev statusMap { t with mVoMap := organizations } task) :=
      sameWrite_syncTask hcamera ⟨rfl, rfl⟩
    obtain ⟨hstate, hnotified⟩ := hwrite.organizations
    have hsecond : syncTask r dev statusMap (syncTask r dev statusMap t task).1 (.organization vo) =
        ({ (syncTask r dev statusMap t task).1 with mVoMap := organizations }, notified) :=
      hspec _ hwrite.mVoMap
    rw [hfirst, hsecond]
    exact ⟨hstate, hnotified, rfl⟩
  exact ⟨fun t => (hsame t).1 ▸ Alike.refl _, fun t => (hsame t).2.1, fun t => (hsame t).2.2⟩

theorem exchanges_entry {task other : CctvTask} (hcamera : task.camera = some id)
    (hown : other.camera = some own) (hne : id ≠ own) :
    Collect.Exchanges Alike (syncTask r dev statusMap) task other := by
  have hother : other.camera ≠ some id := fun h => hne (Option.some.inj (h.symm.trans hown))
  have htask : task.camera ≠ some own := fun h => hne (Option.some.inj (hcamera.symm.trans h))
  have hwrite : ∀ t : DeviceMng, SameWrite dev id t (syncTask r dev statusMap t other).1
      (syncTask r dev statusMap t task)
      (syncTask r dev statusMap (syncTask r dev statusMap t other).1 task) := fun t =>
    sameWrite_syncTask hcamera (sameCamera_syncTask r dev statusMap hother t)
  have hback : ∀ t : DeviceMng, SameWrite dev own t (syncTask r dev statusMap t task).1
      (syncTask r dev statusMap t other)
      (syncTask r dev statusMap (syncTask r dev statusMap t task).1 other) := fun t =>
    sameWrite_syncTask hown (sameCamera_syncTask r dev statusMap htask t)
  have hcomm := fun t => (hwrite t).comm (hback t) hne
  exact ⟨fun t => (hcomm t).1, fun t => (hcomm t).2.1, fun t => (hcomm t).2.2⟩

/-- The task of an entry changes places with the tasks that are not about its camera. -/
theorem exchanges_syncTask {task other : CctvTask} (hcamera : task.camera = some id)
    (hne : other.camera ≠ some id) :
    Collect.Exchanges Alike (syncTask r dev statusMap) task other := by
  cases other with
  | organization vo => exact exchanges_organization r dev statusMap hcamera vo
  | upward sub entry =>
      exact exchanges_entry r dev statusMap hcamera rfl fun hsame => hne (congrArg some hsame.symm)
  | kkIpc sub entry =>
      exact exchanges_entry r dev statusMap hcamera rfl fun hsame => hne (congrArg some hsame.symm)

/-! ### The tasks of a node -/

theorem syncSection_eq_run (task : String → CctvIpc → CctvTask) (voTop : String) (t : DeviceMng)
    (s : Option CctvSection) :
    syncSection (fun sub t entry => syncTask r dev statusMap t (task sub entry)) voTop t s =
      Collect.run (syncTask r dev statusMap) t (sectionTasks task voTop s) := by
  cases s with
  | none => rfl
  | some s =>
      rw [syncSection, sectionTasks, Collect.run, Collect.run_map]
      rfl

theorem syncSections_eq_run (t : DeviceMng) (node : CctvNode) :
    syncSections r (t, dev, statusMap) node.gbId node.upward node.downward node.kkIpc =
      Collect.run (syncTask r dev statusMap) t (nodeTasks node) := by
  have hup := syncSection_eq_run r dev statusMap .upward node.gbId
  have hkk := syncSection_eq_run r dev statusMap .kkIpc node.gbId
  rw [nodeTasks, Collect.run_append, Collect.run_append, ← hup, ← hup, ← hkk]
  rfl

theorem sameCamera_run {tasks : List CctvTask} (h : ∀ task ∈ tasks, task.camera ≠ some id)
    (t : DeviceMng) : SameCamera id t (Collect.run (syncTask r dev statusMap) t tasks).1 :=
  Collect.run_rel (SameCamera.refl id) (fun _ _ _ => SameCamera.trans)
    (fun t task htask => sameCamera_syncTask r dev statusMap (h task htask) t) t

variable {r dev statusMap}

/-- The moved entry does in the second place what it would do in the first. -/
theorem ChangedIfAll.sameCamera (h : ChangedIfAll r statusMap sub t entry)
    (hsame : SameCamera entry.gbId t t') : ChangedIfAll r statusMap sub t' entry := by
  intro hall child hchild
  rw [hsame.child] at hchild
  rw [hsame.parentNvr]
  exact h hall child hchild

/-- The task of an entry of `Upward` moves behind tasks that are not about its camera, there to
be done as in `Upward` or as in `KKIpc`. -/
theorem run_moved (before between after : List CctvTask) {task : CctvTask}
    (htask : task = .upward sub entry ∨ task = .kkIpc sub entry)
    (hbetween : ∀ other ∈ between, other.camera ≠ some entry.gbId) (t : DeviceMng)
    (hchanged : task = .kkIpc sub entry → ChangedIfAll r statusMap sub
      (Collect.run (syncTask r dev statusMap) t before).1 entry) :
    Alike (Collect.run (syncTask r dev statusMap) t
        (before ++ .upward sub entry :: (between ++ after))).1
        (Collect.run (syncTask r dev statusMap) t (before ++ (between ++ task :: after))).1 ∧
      (Collect.run (syncTask r dev statusMap) t (before ++ (between ++ task :: after))).2.Perm
        (Collect.run (syncTask r dev statusMap) t
          (before ++ .upward sub entry :: (between ++ after))).2 := by
  have hfirst : before ++ .upward sub entry :: (between ++ after) =
      (before ++ .upward sub entry :: between) ++ after := by simp
  have hsecond : before ++ (between ++ task :: after) =
      (before ++ (between ++ [task])) ++ after := by simp
  rw [hfirst, hsecond]
  simp only [Collect.run_append _ _ _ after, Collect.run_append _ _ before]
  generalize Collect.run (syncTask r dev statusMap) t before = start at hchanged ⊢
  have hplace : Collect.run (syncTask r dev statusMap) start.1 (between ++ [task]) =
      Collect.run (syncTask r dev statusMap) start.1 (between ++ [.upward sub entry]) := by
    rcases htask with rfl | rfl
    · rfl
    · -- In `KKIpc` the entry finds its camera as it would have found it in `Upward`.
      have hreached := (hchanged rfl).sameCamera (sameCamera_run r dev statusMap hbetween start.1)
      rw [Collect.run_concat, Collect.run_concat, syncTask, syncTask, syncKkIpc_of_changed hreached]
  have hexchanges : ∀ other ∈ between,
      Collect.Exchanges Alike (syncTask r dev statusMap) (.upward sub entry) other :=
    fun other hother => exchanges_syncTask r dev statusMap rfl (hbetween other hother)
  obtain ⟨hstate, hperm⟩ := Collect.run_move Alike.refl (fun _ _ _ => Alike.trans)
    (fun other _ => respects_syncTask r dev statusMap other) hexchanges start.1
  obtain ⟨hend, houts⟩ := Collect.run_respects
    (fun other (_ : other ∈ after) => respects_syncTask r dev statusMap other) hstate
  rw [hplace]
  refine ⟨hend, ?_⟩
  rw [houts]
  exact (hperm.append_left _).append_right _

/-! ### The nodes behind the node -/

theorem syncOrganization_withChildren (t : DeviceMng) (children : ChildMap)
    (vo : VirtualOrganization) :
    (t.withChildren children).syncOrganization vo =
      ((t.syncOrganization vo).1.withChildren children, (t.syncOrganization vo).2) := by
  obtain ⟨organizations, notified, hspec⟩ := t.syncOrganization_spec vo
  rw [hspec t rfl, hspec (t.withChildren children) rfl]
  rfl

/-- What a node does in front of its sections is not told by the cameras. -/
theorem nodeStart_withChildren (env : Env) (t : DeviceMng) (children : ChildMap)
    (node : CctvNode) :
    nodeStart env (t.withChildren children) node =
      ((nodeStart env t node).1.withChildren children, (nodeStart env t node).2) := by
  have htop : (t.withChildren children).voTop node = t.voTop node := rfl
  have hnvr : ∀ t : DeviceMng, (t.withChildren children).syncNvr node =
      ((t.syncNvr node).1.withChildren children, (t.syncNvr node).2) := by
    intro t
    unfold syncNvr withChildren
    dsimp only
    split
    · split <;> rfl
    · rfl
  have hstatus : ∀ (t : DeviceMng) (dev : Nat),
      (t.withChildren children).getJsonNvrChannelStatus env dev =
        ((t.getJsonNvrChannelStatus env dev).1.withChildren children,
          (t.getJsonNvrChannelStatus env dev).2) := by
    intro t dev
    unfold getJsonNvrChannelStatus withChildren
    dsimp only
    split <;> rfl
  unfold nodeStart
  rw [htop, syncOrganization_withChildren]
  dsimp only
  rw [hnvr]
  dsimp only
  rw [hstatus]

theorem nodeStart_children (env : Env) (t : DeviceMng) (node : CctvNode) :
    (nodeStart env t node).1.server.children = t.server.children := by
  have hsame := nodeStart_withChildren env t t.server.children node
  exact congrArg (fun start => start.1.server.children) hsame

theorem respects_syncNode (env : Env) (r : CctvRun) (node : CctvNode) :
    Collect.Respects Alike (syncNode env r) node := by
  intro t t' h
  have hstart : Alike (nodeStart env t node).1 (nodeStart env t' node).1 ∧
      (nodeStart env t' node).2 = (nodeStart env t node).2 := by
    rw [h.others, nodeStart_withChildren]
    refine ⟨⟨rfl, ?_⟩, rfl⟩
    rw [nodeStart_children]
    exact h.children
  have htop : (t'.syncOrganization (t'.voTop node)).2 = (t.syncOrganization (t.voTop node)).2 := by
    rw [h.others, syncOrganization_withChildren]
    rfl
  have hsections := Collect.run_respects
    (fun task (_ : task ∈ nodeTasks node) =>
      respects_syncTask r (nodeStart env t node).2.1 (nodeStart env t node).2.2 task) hstart.1
  rw [← syncSections_eq_run, ← syncSections_eq_run] at hsections
  rw [syncNode_eq, syncNode_eq, htop, ← Prod.mk.eta (p := nodeStart env t' node), hstart.2]
  exact ⟨hsections.1, congrArg (_ ++ ·) hsections.2⟩

end

/-! ### Moving an entry between any two places -/

/-- An entry between `Upward` and a later section of the same organisation: behind `before`
and in front of `behind` in the one, behind `ahead` and in front of `after` in the other. -/
structure SectionMove extends EntryMove where
  laterTitle : String
  behind : List CctvIpc
  ahead : List CctvIpc

namespace SectionMove

def upwardWith (m : SectionMove) : CctvSection :=
  ⟨m.title, m.gbId, some (m.before ++ m.entry :: m.behind)⟩

def upwardWithout (m : SectionMove) : CctvSection :=
  ⟨m.title, m.gbId, some (m.before ++ m.behind)⟩

def laterWith (m : SectionMove) : CctvSection :=
  ⟨m.laterTitle, m.gbId, some (m.ahead ++ m.entry :: m.after)⟩

def laterWithout (m : SectionMove) : CctvSection :=
  ⟨m.laterTitle, m.gbId, some (m.ahead ++ m.after)⟩

/-- The entries between the two places, with another section between the two. -/
def crossed (m : SectionMove) (between : Option CctvSection) : List CctvIpc :=
  m.behind ++ between.elim [] (·.entries) ++ m.ahead

end SectionMove

/-- Two runs lead to the same tables, and notify the same in some order. -/
structure SameRun (result result' : DeviceMng × List CctvNotify × Int) : Prop where
  tables : Alike result.1 result'.1
  notified : result'.2.1.Perm result.2.1
  count : result'.2.2 = result.2.2

/-- Moving an entry from any place of `Upward` to any place of `Downward` or `KKIpc` leaves what a
run does as it was, and with everything to be notified the entry is notified once in each section
if it is a known camera. -/
structure MovesAnywhereAlike (env : Env) (r : CctvRun) (t : DeviceMng) (code count : Int)
    (pre post : List CctvNode) (node : CctvNode) (m : SectionMove) : Prop where
  downward :
    SameRun
      (t.notifyQDCCTVNodeInfo env r (replyOf code count (pre ++
        { node with upward := some m.upwardWith, downward := some m.laterWithout } :: post)))
      (t.notifyQDCCTVNodeInfo env r (replyOf code count (pre ++
        { node with upward := some m.upwardWithout, downward := some m.laterWith } :: post)))
  kkIpc :
    SameRun
      (t.notifyQDCCTVNodeInfo env r (replyOf code count (pre ++
        { node with upward := some m.upwardWith, kkIpc := some m.laterWithout } :: post)))
      (t.notifyQDCCTVNodeInfo env r (replyOf code count (pre ++
        { node with upward := some m.upwardWithout, kkIpc := some m.laterWith } :: post)))
  reached : code = 200 →
    SectionsAlike r (nodeStart env (Collect.run (syncNode env r) t pre).1 node).2.1
      (nodeStart env (Collect.run (syncNode env r) t pre).1 node).2.2 m.gbId
      (entryReached env r (Collect.run (syncNode env r) t pre).1 node m.toEntryMove) m.entry

/-- Nodes that do the same, but for the order, lead to runs that do. -/
theorem sameRun_of_node {env : Env} {r : CctvRun} {t : DeviceMng} {code : Int} (count : Int)
    {pre : List CctvNode} (post : List CctvNode) {node node' : CctvNode}
    (h : code = 200 →
      Alike (syncNode env r (Collect.run (syncNode env r) t pre).1 node).1
          (syncNode env r (Collect.run (syncNode env r) t pre).1 node').1 ∧
        (syncNode env r (Collect.run (syncNode env r) t pre).1 node').2.Perm
          (syncNode env r (Collect.run (syncNode env r) t pre).1 node).2) :
    SameRun (t.notifyQDCCTVNodeInfo env r (replyOf code count (pre ++ node :: post)))
      (t.notifyQDCCTVNodeInfo env r (replyOf code count (pre ++ node' :: post))) := by
  simp only [notifyQDCCTVNodeInfo, replyOf, Option.getD_some]
  split
  · rename_i hcode
    obtain ⟨hstate, hperm⟩ := h hcode
    obtain ⟨hend, houts⟩ := Collect.run_respects
      (fun node (_ : node ∈ post) => respects_syncNode env r node) hstate
    simp only [Collect.run_append, Collect.run]
    refine { tables := hend, notified := ?_, count := rfl }
    rw [houts]
    exact (hperm.append_right _).append_left _
  · exact { tables := Alike.refl t, notified := List.Perm.refl _, count := rfl }

section

variable {env : Env} {r : CctvRun} {t : DeviceMng} {node : CctvNode} {sub id : String}

/-- Nodes that differ in their sections only do the same if their tasks do. -/
theorem syncNode_of_tasks {node' : CctvNode}
    (hstart : nodeStart env t node' = nodeStart env t node) (htop : t.voTop node' = t.voTop node)
    (h : Alike
          (Collect.run (syncTask r (nodeStart env t node).2.1 (nodeStart env t node).2.2)
            (nodeStart env t node).1 (nodeTasks node)).1
          (Collect.run (syncTask r (nodeStart env t node).2.1 (nodeStart env t node).2.2)
            (nodeStart env t node).1 (nodeTasks node')).1 ∧
        (Collect.run (syncTask r (nodeStart env t node).2.1 (nodeStart env t node).2.2)
            (nodeStart env t node).1 (nodeTasks node')).2.Perm
          (Collect.run (syncTask r (nodeStart env t node).2.1 (nodeStart env t node).2.2)
            (nodeStart env t node).1 (nodeTasks node)).2) :
    Alike (syncNode env r t node).1 (syncNode env r t node').1 ∧
      (syncNode env r t node').2.Perm (syncNode env r t node).2 := by
  rw [← syncSections_eq_run, ← syncSections_eq_run] at h
  rw [syncNode_eq, syncNode_eq, htop, hstart]
  exact ⟨h.1, h.2.append_left _⟩

theorem camera_ne_of_entries {task : String → CctvIpc → CctvTask}
    (htask : ∀ sub entry, (task sub entry).camera = some entry.gbId) {entries : List CctvIpc}
    (hid : id ∉ entries.map (·.gbId)) :
    ∀ other ∈ entries.map (task sub), other.camera ≠ some id := by
  intro other hother hcamera
  obtain ⟨entry, hentry, rfl⟩ := List.mem_map.mp hother
  rw [htask] at hcamera
  exact hid (List.mem_map.mpr ⟨entry, hentry, Option.some.inj hcamera⟩)

theorem camera_ne_of_section {s : Option CctvSection} {voTop : String}
    (hid : id ∉ (s.elim [] (·.entries)).map (·.gbId)) :
    ∀ other ∈ sectionTasks .upward voTop s, other.camera ≠ some id := by
  cases s with
  | none => exact fun other hother => absurd hother List.not_mem_nil
  | some s =>
      intro other hother
      rcases List.mem_cons.mp hother with rfl | hentry
      · exact (Option.some_ne_none id).symm
      · exact camera_ne_of_entries (fun _ _ => rfl) hid other hentry

end

namespace SectionMove

variable (m : SectionMove)

/-- The tasks in front of the entry in `Upward`. -/
def tasksBefore (node : CctvNode) : List CctvTask :=
  sectionTasks .upward node.gbId (some m.withoutEntry)

theorem entryReached_eq (env : Env) (r : CctvRun) (t : DeviceMng) (node : CctvNode) :
    entryReached env r t node m.toEntryMove =
      (Collect.run (syncTask r (nodeStart env t node).2.1 (nodeStart env t node).2.2)
        (nodeStart env t node).1 (m.tasksBefore node)).1 :=
  congrArg Prod.fst (syncSection_eq_run r _ _ .upward node.gbId _ (some m.withoutEntry))

/-- The tasks between the place in `Upward` and the one behind these sections. -/
def tasksBetween (task : String → CctvIpc → CctvTask) (node : CctvNode)
    (between : Option CctvSection) : List CctvTask :=
  m.behind.map (.upward m.gbId) ++ sectionTasks .upward node.gbId between ++
    .organization (m.laterWith.subVo node.gbId) :: m.ahead.map (task m.gbId)

theorem camera_ne_of_tasksBetween {task : String → CctvIpc → CctvTask}
    (htask : ∀ sub entry, (task sub entry).camera = some entry.gbId) {id : String}
    {between : Option CctvSection} (hid : id ∉ (m.crossed between).map (·.gbId)) :
    ∀ other ∈ m.tasksBetween task node between, other.camera ≠ some id := by
  simp only [crossed, List.map_append, List.mem_append, not_or] at hid
  obtain ⟨⟨hbehind, hbetween⟩, hahead⟩ := hid
  intro other hother
  rcases List.mem_append.mp hother with hfirst | hlater
  · rcases List.mem_append.mp hfirst with hupward | hsection
    · exact camera_ne_of_entries (fun _ _ => rfl) hbehind other hupward
    · exact camera_ne_of_section hbetween other hsection
  · rcases List.mem_cons.mp hlater with rfl | hentry
    · exact (Option.some_ne_none id).symm
    · exact camera_ne_of_entries htask hahead other hentry

/-- The tasks of the node in which the entry stands in `Upward`, and of the one in which it
stands in `Downward`. -/
theorem nodeTasks_downward (node : CctvNode) :
    nodeTasks { node with upward := some m.upwardWith, downward := some m.laterWithout } =
        m.tasksBefore node ++ .upward m.gbId m.entry :: (m.tasksBetween .upward node none ++
          (m.after.map (.upward m.gbId) ++ sectionTasks .kkIpc node.gbId node.kkIpc)) ∧
      nodeTasks { node with upward := some m.upwardWithout, downward := some m.laterWith } =
        m.tasksBefore node ++ (m.tasksBetween .upward node none ++ .upward m.gbId m.entry ::
          (m.after.map (.upward m.gbId) ++ sectionTasks .kkIpc node.gbId node.kkIpc)) := by
  constructor <;>
    simp [nodeTasks, tasksBefore, tasksBetween, sectionTasks, CctvSection.entries,
      CctvSection.subVo, upwardWith, upwardWithout, laterWith, laterWithout,
      EntryMove.withoutEntry]

/-- The tasks of the node in which the entry stands in `Upward`, and of the one in which it
stands in `KKIpc`. -/
theorem nodeTasks_kkIpc (node : CctvNode) :
    nodeTasks { node with upward := some m.upwardWith, kkIpc := some m.laterWithout } =
        m.tasksBefore node ++ .upward m.gbId m.entry ::
          (m.tasksBetween .kkIpc node node.downward ++ m.after.map (.kkIpc m.gbId)) ∧
      nodeTasks { node with upward := some m.upwardWithout, kkIpc := some m.laterWith } =
        m.tasksBefore node ++ (m.tasksBetween .kkIpc node node.downward ++
          .kkIpc m.gbId m.entry :: m.after.map (.kkIpc m.gbId)) := by
  constructor <;>
    simp [nodeTasks, tasksBefore, tasksBetween, sectionTasks, CctvSection.entries,
      CctvSection.subVo, upwardWith, upwardWithout, laterWith, laterWithout,
      EntryMove.withoutEntry]

end SectionMove

/-- An entry of a GB id that no entry between its places has can be moved without any change
exactly when, with everything to be notified, it is of a camera that is new, or of one of an NVR
that it changes. -/
theorem movesAnywhereAlike_iff (env : Env) (r : CctvRun) (t : DeviceMng) (code count : Int)
    (pre post : List CctvNode) (node : CctvNode) (m : SectionMove)
    (hid : m.entry.gbId ∉ (m.crossed node.downward).map (·.gbId)) :
    MovesAnywhereAlike env r t code count pre post node m ↔
      (code = 200 → ChangedIfAll r (nodeStart env (Collect.run (syncNode env r) t pre).1 node).2.2
        m.gbId (entryReached env r (Collect.run (syncNode env r) t pre).1 node m.toEntryMove)
        m.entry) := by
  constructor
  · exact fun h hcode => (sectionsAlike_iff _ _ _ _ _ _).mp (h.reached hcode)
  · intro h
    refine { downward := ?downward, kkIpc := ?kkIpc, reached := ?reached }
    case reached => exact fun hcode => (sectionsAlike_iff _ _ _ _ _ _).mpr (h hcode)
    case downward =>
      refine sameRun_of_node count post fun _ => syncNode_of_tasks rfl rfl ?_
      have hnone : m.entry.gbId ∉ (m.crossed none).map (·.gbId) := by
        simp only [SectionMove.crossed, List.map_append, List.mem_append, not_or] at hid ⊢
        exact ⟨⟨hid.1.1, List.not_mem_nil⟩, hid.2⟩
      obtain ⟨hwith, hmoved⟩ := m.nodeTasks_downward node
      rw [hwith, hmoved]
      exact run_moved _ _ _ (.inl rfl) (m.camera_ne_of_tasksBetween (fun _ _ => rfl) hnone) _
        fun hkind => CctvTask.noConfusion hkind
    case kkIpc =>
      refine sameRun_of_node count post fun hcode => syncNode_of_tasks rfl rfl ?_
      obtain ⟨hwith, hmoved⟩ := m.nodeTasks_kkIpc node
      rw [hwith, hmoved]
      have hreached := h hcode
      rw [m.entryReached_eq] at hreached
      exact run_moved _ _ _ (.inr rfl) (m.camera_ne_of_tasksBetween (fun _ _ => rfl) hid) _
        fun _ => hreached

end DeviceMng

end SignalingServer
