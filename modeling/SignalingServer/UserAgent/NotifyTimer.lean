import SignalingServer.Lib.Lts
import SignalingServer.UserAgent.SubscriptionMrg

/-!
Periodic catalog notification. A catalog subscription arms a `NotifyTimer`; its
expiry starts a task on the thread pool that notifies the subscriber and, while
the handle is valid, arms the next timer. `onNotifyTimeout` accepts a timer by
comparing its id with the one field `mCurrentNotifyTimerId`, which every arming
advances.
-/

namespace SignalingServer

open Lts

/-- What `onNewSubscription` reads of a SUBSCRIBE request. The outer option of
`content` is the body, the inner one what `AnalyzeReceivedSipMsg` makes of it. -/
structure SubscribeMsg where
  fromUser : String
  eventType : String
  expires : UInt32
  content : Option (Option GB28181XmlMsg)
  deriving DecidableEq, Repr

/-- The notification state of the user agent. -/
structure Notifying where
  subs : CSubscriptionMrg
  mCurrentNotifyTimerId : UInt32
  /-- The subscriptions that have armed a notify timer. -/
  armed : Finset ServerSubscriptionHandle
  /-- The posted `NotifyTimer` events that have not expired. -/
  pending : List (UInt32 × ServerSubscriptionHandle)
  /-- The running tasks of `NotifyYixinHwInfo`, with their argument `isAll`. -/
  tasks : List (ServerSubscriptionHandle × Bool)

/-- The events of the notification. -/
inductive NotifyEvent where
  /-- The DUM reports a new subscription under a handle that is valid. -/
  | newSubscription (h : ServerSubscriptionHandle) (msg : SubscribeMsg)
  /-- A subscription ends, because the subscriber or its expiry ends it. -/
  | terminated (h : ServerSubscriptionHandle)
  /-- A posted timer expires. -/
  | timeout (timerId : UInt32) (h : ServerSubscriptionHandle)
  /-- A notify task has sent its NOTIFYs and comes to its end. -/
  | notifyDone (h : ServerSubscriptionHandle) (isAll : Bool)

namespace Notifying

/-- The user agent before the first subscription. -/
def start : Notifying where
  subs := .empty
  mCurrentNotifyTimerId := 0
  armed := ∅
  pending := []
  tasks := []

/-- `mStack.post(new NotifyTimer(*this, ++mCurrentNotifyTimerId, h), ..)`. -/
def arm (s : Notifying) (h : ServerSubscriptionHandle) : Notifying :=
  { s with
    mCurrentNotifyTimerId := s.mCurrentNotifyTimerId + 1
    armed := insert h s.armed
    pending := s.pending ++ [(s.mCurrentNotifyTimerId + 1, h)] }

/-- `UaMgr::sendNotify`: the task is submitted to the pool. -/
def sendNotify (s : Notifying) (h : ServerSubscriptionHandle) (all : Bool) : Notifying :=
  { s with tasks := s.tasks ++ [(h, all)] }

/-- `UaMgr::onNotifyTimeout`. -/
def onNotifyTimeout (s : Notifying) (timerId : UInt32) (h : ServerSubscriptionHandle) :
    Notifying :=
  if timerId = s.mCurrentNotifyTimerId then
    if s.mCurrentNotifyTimerId < 3 then s.sendNotify h true else s.sendNotify h false
  else s

/-- The end of `UaMgr::NotifyYixinHwInfo`. -/
def notifyYixinHwInfoEnd (s : Notifying) (ssph : ServerSubscriptionHandle) : Notifying :=
  if ssph ∈ s.subs.valid then s.arm ssph else s

/-- A request that `onNewSubscription` takes for a catalog subscription. -/
def catalogRequest (msg : SubscribeMsg) : Option GB28181XmlMsg :=
  match msg.content with
  | some (some xmlMsg) =>
      if xmlMsg.cmdname = .query ∧ xmlMsg.cmdtype = .catalog ∧
          (msg.eventType = "Catalog" ∨ msg.eventType = "catalagitem") ∧ msg.expires ≠ 0 then
        some xmlMsg
      else none
  | _ => none

/-- `UaMgr::onNewSubscription`. -/
def onNewSubscription (s : Notifying) (h : ServerSubscriptionHandle) (msg : SubscribeMsg) :
    Notifying :=
  match msg.content with
  | none => { s with subs := s.subs.endHandle h }
  | some none => { s with subs := s.subs.endHandle h }
  | some (some xmlMsg) =>
      if xmlMsg.cmdname = .query then
        if xmlMsg.cmdtype = .catalog then
          if msg.eventType = "Catalog" ∨ msg.eventType = "catalagitem" then
            if msg.expires = 0 then { s with subs := s.subs.deleteSubscription h }
            else
              let (subs, ret) := s.subs.addCatalogSubscription msg.fromUser h msg.eventType xmlMsg
              if ret then arm { s with subs := subs } h else { s with subs := subs }
          else { s with subs := s.subs.endHandle h }
        else if xmlMsg.cmdtype = .alarm then s
        else if xmlMsg.cmdtype = .mobilePosition then
          -- The DUM destroys a subscription whose request was rejected.
          { s with subs := s.subs.terminate h }
        else { s with subs := s.subs.endHandle h }
      else { s with subs := s.subs.endHandle h }

/-- The DUM makes the handle valid; a handle that was not valid before belongs
to a new subscription, which has not armed anything. -/
def newUsage (s : Notifying) (h : ServerSubscriptionHandle) : Notifying :=
  { s with
    subs := { s.subs with valid := insert h s.subs.valid }
    armed := if h ∈ s.subs.valid then s.armed else s.armed.erase h }

/-- One event of the notification. -/
def step : Step Notifying NotifyEvent
  | s, .newSubscription h msg => some ((s.newUsage h).onNewSubscription h msg)
  | s, .terminated h =>
      if h ∈ s.subs.valid then some { s with subs := s.subs.terminate h } else none
  | s, .timeout timerId h =>
      if (timerId, h) ∈ s.pending then
        some ({ s with pending := s.pending.erase (timerId, h) }.onNotifyTimeout timerId h)
      else none
  | s, .notifyDone h isAll =>
      if (h, isAll) ∈ s.tasks then
        some ({ s with tasks := s.tasks.erase (h, isAll) }.notifyYixinHwInfoEnd h)
      else none

/-- When no notify task is running, every valid subscription that armed a timer
has one pending that `onNotifyTimeout` will accept. -/
def Notified (s : Notifying) : Prop :=
  s.tasks = [] → ∀ h ∈ s.subs.valid, h ∈ s.armed → (s.mCurrentNotifyTimerId, h) ∈ s.pending

/-- A notify task of the subscription is running. -/
def Running (s : Notifying) (h : ServerSubscriptionHandle) : Prop := h ∈ s.tasks.map (·.1)

/-- An event that arms a timer finds every other armed subscription, apart from
the one it replaces, in a running task of its own, which will arm again. -/
def OthersRunning (s : Notifying) : NotifyEvent → Prop
  | .newSubscription h msg =>
      (catalogRequest msg).isSome → ∀ h' ∈ s.subs.valid, h' ∈ s.armed → h' ≠ h →
        (s.subs.catalogSubscriptionMap[msg.fromUser]?).map (·.mSsph) ≠ some h' → s.Running h'
  | .notifyDone h _ =>
      h ∈ s.subs.valid → ∀ h' ∈ s.subs.valid, h' ∈ s.armed → h' ≠ h → s.Running h'
  | _ => True

/-- Every valid subscription that armed a timer is served: its task is running
or its timer carries the current id. -/
def Inv (s : Notifying) : Prop :=
  ∀ h ∈ s.subs.valid, h ∈ s.armed → s.Running h ∨ (s.mCurrentNotifyTimerId, h) ∈ s.pending

theorem Inv.notified {s : Notifying} (hs : Inv s) : Notified s := by
  intro htasks h hvalid harmed
  rcases hs h hvalid harmed with hrun | hpend
  · rw [Running, htasks] at hrun
    cases hrun
  · exact hpend

theorem inv_start : Inv start := by
  intro h hvalid
  cases hvalid

/-! ### What a new subscription does -/

/-- Between the states nothing was armed, posted or started, and no handle
became valid. -/
structure Shrinks (s s' : Notifying) : Prop where
  valid : s'.subs.valid ⊆ s.subs.valid
  armed : s'.armed = s.armed
  current : s'.mCurrentNotifyTimerId = s.mCurrentNotifyTimerId
  pending : s'.pending = s.pending
  tasks : s'.tasks = s.tasks

theorem shrinks_subs {s : Notifying} {subs : CSubscriptionMrg}
    (hvalid : subs.valid ⊆ s.subs.valid) : Shrinks s { s with subs := subs } :=
  ⟨hvalid, rfl, rfl, rfl, rfl⟩

theorem shrinks_endHandle (s : Notifying) (h : ServerSubscriptionHandle) :
    Shrinks s { s with subs := s.subs.endHandle h } :=
  shrinks_subs (Finset.erase_subset _ _)

theorem Inv.shrinks {s s' : Notifying} (hs : Inv s) (hshr : Shrinks s s') : Inv s' := by
  intro h hvalid harmed
  rw [hshr.armed] at harmed
  have hserved := hs h (hshr.valid hvalid) harmed
  rw [Running, hshr.tasks, hshr.current, hshr.pending]
  exact hserved

/-- A SUBSCRIBE either arms a timer after it was entered into the registry, or
leaves the timers alone. -/
theorem onNewSubscription_cases (s : Notifying) (h : ServerSubscriptionHandle)
    (msg : SubscribeMsg) :
    (catalogRequest msg = none ∧ Shrinks s (s.onNewSubscription h msg)) ∨
      ∃ xmlMsg, catalogRequest msg = some xmlMsg ∧
        (msg.eventType = "Catalog" ∨ msg.eventType = "catalagitem") ∧
        s.onNewSubscription h msg =
          arm { s with
            subs := (s.subs.addCatalogSubscription msg.fromUser h msg.eventType xmlMsg).1 } h := by
  unfold onNewSubscription catalogRequest
  rcases hcontent : msg.content with _ | _ | xmlMsg
  · exact .inl ⟨rfl, shrinks_endHandle s h⟩
  · exact .inl ⟨rfl, shrinks_endHandle s h⟩
  · by_cases hquery : xmlMsg.cmdname = .query
    · by_cases hcatalog : xmlMsg.cmdtype = .catalog
      · by_cases hevent : msg.eventType = "Catalog" ∨ msg.eventType = "catalagitem"
        · by_cases hexpires : msg.expires = 0
          · refine .inl ⟨by simp [hexpires], ?_⟩
            simp only [hquery, hcatalog, hevent, hexpires, if_true]
            exact shrinks_subs (by simp [Finset.erase_subset])
          · refine .inr ⟨xmlMsg, by simp [hquery, hcatalog, hevent, hexpires], hevent, ?_⟩
            -- the one branch that arms: a catalog query that ends no subscription
            have hret : (s.subs.addCatalogSubscription msg.fromUser h msg.eventType xmlMsg).2 =
                true := CSubscriptionMrg.addCatalogSubscription_ret hevent
            simp only [hquery, hcatalog, hevent, hexpires, if_true, if_false, hret]
        · refine .inl ⟨by simp [hevent], ?_⟩
          simp only [hquery, hcatalog, hevent, if_true, if_false]
          exact shrinks_endHandle s h
      · refine .inl ⟨by simp [hcatalog], ?_⟩
        simp only [hquery, hcatalog, if_true, if_false]
        split
        · exact shrinks_subs (Finset.Subset.refl _)
        · split
          · exact shrinks_subs (Finset.erase_subset _ _)
          · exact shrinks_endHandle s h
    · refine .inl ⟨by simp [hquery], ?_⟩
      simp only [hquery, if_false]
      exact shrinks_endHandle s h

/-! ### The invariant is kept -/

theorem Inv.newUsage {s : Notifying} (hs : Inv s) (h : ServerSubscriptionHandle) :
    Inv (s.newUsage h) := by
  intro h' hvalid harmed
  simp only [Notifying.newUsage, Finset.mem_insert] at hvalid harmed
  have hknown : h' ∈ s.subs.valid ∧ h' ∈ s.armed := by
    by_cases hmem : h ∈ s.subs.valid
    · rw [if_pos hmem] at harmed
      rcases hvalid with rfl | hvalid
      · exact ⟨hmem, harmed⟩
      · exact ⟨hvalid, harmed⟩
    · rw [if_neg hmem, Finset.mem_erase] at harmed
      rcases hvalid with rfl | hvalid
      · exact absurd rfl harmed.1
      · exact ⟨hvalid, harmed.2⟩
  exact hs h' hknown.1 hknown.2

/-- Arming keeps the invariant when every other armed subscription has its task. -/
theorem inv_arm {s : Notifying} {h : ServerSubscriptionHandle}
    (hothers : ∀ h' ∈ s.subs.valid, h' ∈ s.armed → h' ≠ h → s.Running h') :
    Inv (s.arm h) := by
  intro h' hvalid harmed
  by_cases heq : h' = h
  · subst heq
    exact .inr (by simp [arm])
  · have harmed' : h' ∈ s.armed := by
      rcases Finset.mem_insert.mp harmed with hh | hh
      · exact absurd hh heq
      · exact hh
    exact .inl (hothers h' hvalid harmed' heq)

theorem Inv.onNewSubscription {s : Notifying} (hs : Inv s) {h : ServerSubscriptionHandle}
    {msg : SubscribeMsg} (hg : OthersRunning s (.newSubscription h msg)) :
    Inv ((s.newUsage h).onNewSubscription h msg) := by
  have hnew : Inv (s.newUsage h) := hs.newUsage h
  obtain ⟨-, hshr⟩ | ⟨xmlMsg, hreq, hevent, heq⟩ :=
    onNewSubscription_cases (s.newUsage h) h msg
  · exact hnew.shrinks hshr
  · rw [heq]
    apply inv_arm
    intro h' hvalid harmed hne
    -- the handle that the user had before is ended, unless it is this one
    obtain ⟨hold, hother⟩ := CSubscriptionMrg.addCatalogSubscription_valid hevent hvalid
    have hreplaced := hother.resolve_left hne
    have hold' : h' ∈ s.subs.valid := by
      rcases Finset.mem_insert.mp hold with hh | hh
      · exact absurd hh hne
      · exact hh
    have harmed' : h' ∈ s.armed := by
      simp only [Notifying.newUsage] at harmed
      split at harmed
      · exact harmed
      · exact Finset.mem_of_mem_erase harmed
    exact hg (by simp [hreq]) h' hold' harmed' hne hreplaced

theorem Inv.timeout {s : Notifying} (hs : Inv s) (timerId : UInt32)
    (h : ServerSubscriptionHandle) :
    Inv ({ s with pending := s.pending.erase (timerId, h) }.onNotifyTimeout timerId h) := by
  have hkept : ∀ h', (s.mCurrentNotifyTimerId, h') ∈ s.pending →
      (s.mCurrentNotifyTimerId, h') ≠ (timerId, h) →
      (s.mCurrentNotifyTimerId, h') ∈ s.pending.erase (timerId, h) :=
    fun h' hmem hne => (List.mem_erase_of_ne hne).mpr hmem
  by_cases hcur : timerId = s.mCurrentNotifyTimerId
  · -- the timer of this id becomes a task of its subscription, of either kind
    have htask : ∃ all, { s with pending := s.pending.erase (timerId, h) }.onNotifyTimeout
        timerId h =
          { s with
            pending := s.pending.erase (timerId, h), tasks := s.tasks ++ [(h, all)] } := by
      rw [Notifying.onNotifyTimeout, if_pos hcur]
      split
      · exact ⟨true, rfl⟩
      · exact ⟨false, rfl⟩
    obtain ⟨all, heq⟩ := htask
    rw [heq]
    intro h' hvalid harmed
    rcases hs h' hvalid harmed with hrun | hpend
    · left
      rw [Running, List.map_append]
      exact List.mem_append_left _ hrun
    · by_cases hh : h' = h
      · exact .inl (by simp [Running, hh])
      · exact .inr (hkept h' hpend (by simp [hh]))
  · rw [Notifying.onNotifyTimeout, if_neg hcur]
    intro h' hvalid harmed
    rcases hs h' hvalid harmed with hrun | hpend
    · exact .inl hrun
    · exact .inr (hkept h' hpend (by simp [Ne.symm hcur]))

theorem running_erase {s : Notifying} {h h' : ServerSubscriptionHandle} {isAll : Bool}
    (hrun : s.Running h') (hne : h' ≠ h) :
    Running { s with tasks := s.tasks.erase (h, isAll) } h' := by
  obtain ⟨task, hmem, rfl⟩ := List.mem_map.mp hrun
  have hkept : task ∈ s.tasks.erase (h, isAll) := by
    refine (List.mem_erase_of_ne ?_).mpr hmem
    rintro rfl
    exact hne rfl
  exact List.mem_map_of_mem hkept

theorem Inv.notifyDone {s : Notifying} (hs : Inv s) {h : ServerSubscriptionHandle}
    {isAll : Bool} (hg : OthersRunning s (.notifyDone h isAll)) :
    Inv ({ s with tasks := s.tasks.erase (h, isAll) }.notifyYixinHwInfoEnd h) := by
  unfold notifyYixinHwInfoEnd
  split
  · rename_i hvalid
    apply inv_arm
    intro h' hvalid' harmed hne
    exact running_erase (hg hvalid h' hvalid' harmed hne) hne
  · rename_i hinvalid
    intro h' hvalid harmed
    have hne : h' ≠ h := by
      rintro rfl
      exact hinvalid hvalid
    rcases hs h' hvalid harmed with hrun | hpend
    · exact .inl (running_erase hrun hne)
    · exact .inr hpend

theorem preserves_inv : Preserves step OthersRunning Inv := by
  intro s e s' hs hg hstep
  cases e with
  | newSubscription h msg =>
      cases hstep
      exact hs.onNewSubscription hg
  | terminated h =>
      simp only [step] at hstep
      split at hstep
      · cases hstep
        exact hs.shrinks (shrinks_subs (Finset.erase_subset _ _))
      · cases hstep
  | timeout timerId h =>
      simp only [step] at hstep
      split at hstep
      · cases hstep
        exact hs.timeout timerId h
      · cases hstep
  | notifyDone h isAll =>
      simp only [step] at hstep
      split at hstep
      · cases hstep
        exact hs.notifyDone hg
      · cases hstep

/-! ### Periodic notification -/

/-- In every run whose armings find all other armed subscriptions in a running
task, every state reached has a timer for each armed subscription that will be
accepted. -/
theorem notification_keeps_running (events : List NotifyEvent)
    (hg : Guarded step OthersRunning start events) : Along step Notified start events :=
  (preserves_inv.along inv_start hg).mono fun _ hs => hs.notified

/-- The catalog subscription of a platform for 3600 seconds. -/
def sampleSubscribe (user : String) : SubscribeMsg where
  fromUser := user
  eventType := "Catalog"
  expires := 3600
  content := some (some
    { cmdname := .query, cmdtype := .catalog, sn := 1, deviceID := "34020000002000000001",
      pPoint := some (.catalogQuery ⟨"", ""⟩) })

/-- Two subscribers whose timers expire while the task of the other one is running. -/
def twoSubscribers : List NotifyEvent :=
  [.newSubscription 1 (sampleSubscribe "34020000002000000002"), .timeout 1 1,
    .newSubscription 2 (sampleSubscribe "34020000002000000003"), .timeout 2 2,
    .notifyDone 1 true, .timeout 3 1, .notifyDone 2 true]

/-- Both keep being notified. -/
theorem two_subscribers_notified : Along step Notified start twoSubscribers := by
  apply notification_keeps_running
  rintro s₁ ⟨⟩
  refine ⟨fun _ h' hvalid => absurd hvalid (Finset.notMem_empty h'), ?_⟩
  rintro s₂ ⟨⟩
  refine ⟨trivial, ?_⟩
  rintro s₃ ⟨⟩
  refine ⟨fun _ h' hvalid _ _ _ => ?_, ?_⟩
  · obtain rfl := Finset.mem_singleton.mp hvalid
    unfold Running
    decide
  rintro s₄ ⟨⟩
  refine ⟨trivial, ?_⟩
  rintro s₅ ⟨⟩
  refine ⟨fun _ h' hvalid _ hne => ?_, ?_⟩
  · rcases Finset.mem_insert.mp hvalid with rfl | hfirst
    · unfold Running
      decide
    · exact absurd (Finset.mem_singleton.mp hfirst) hne
  rintro s₆ ⟨⟩
  refine ⟨trivial, ?_⟩
  rintro s₇ ⟨⟩
  refine ⟨fun _ h' hvalid _ hne => ?_, trivial⟩
  rcases Finset.mem_insert.mp hvalid with rfl | hfirst
  · exact absurd rfl hne
  · obtain rfl := Finset.mem_singleton.mp hfirst
    unfold Running
    decide

/-- The second subscriber moves the shared id on, so the timer of the first is
dropped and never armed again. -/
theorem second_subscriber_silences_first :
    ∃ s : Notifying,
      exec step start
          [.newSubscription 1 (sampleSubscribe "34020000002000000002"),
            .newSubscription 2 (sampleSubscribe "34020000002000000003"),
            .timeout 1 1, .timeout 2 2, .notifyDone 2 true] = some s ∧
        1 ∈ s.subs.valid ∧ 1 ∈ s.armed ∧ s.tasks = [] ∧ s.pending = [(3, 2)] ∧
        ¬ Notified s := by
  refine ⟨_, rfl, by decide, by decide, by decide, by decide, fun hnotified => ?_⟩
  have hpend := hnotified (by decide) 1 (by decide) (by decide)
  exact absurd hpend (by decide)

end Notifying

end SignalingServer
