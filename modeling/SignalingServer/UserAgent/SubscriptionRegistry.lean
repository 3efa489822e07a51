import SignalingServer.Lib.Lts
import SignalingServer.Lib.OrdMap
import SignalingServer.UserAgent.SubscriptionMrg

/-!
What the registry of catalog subscriptions does over whole runs, and which of
its subscribers a change of a device is notified to.
-/

namespace SignalingServer

namespace CSubscriptionMrg

/-! ### The subscribers of a change -/

/-- The entry is valid and asks for the change of the device. -/
def Interested (w : CSubscriptionMrg) (myId devid parentid : String)
    (item : CatalogSubScription) : Prop :=
  item.mSsph ∈ w.valid ∧
    (item.deviceID = "" ∨ item.deviceID = myId ∨ item.deviceID = devid ∨
      item.deviceID = parentid)

/-- The entry is valid and asks for everything that the server has. -/
def AsksForAll (w : CSubscriptionMrg) (myId : String) (item : CatalogSubScription) : Prop :=
  item.mSsph ∈ w.valid ∧ (item.deviceID = "" ∨ item.deviceID = myId)

instance (w : CSubscriptionMrg) (myId devid parentid : String) :
    DecidablePred (w.Interested myId devid parentid) :=
  fun item => inferInstanceAs (Decidable (item.mSsph ∈ w.valid ∧ _))

instance (w : CSubscriptionMrg) (myId : String) : DecidablePred (w.AsksForAll myId) :=
  fun item => inferInstanceAs (Decidable (item.mSsph ∈ w.valid ∧ _))

variable {w : CSubscriptionMrg} {myId devid parentid : String}

theorem catalogTarget_eq (w : CSubscriptionMrg) (myId devid parentid : String)
    (item : CatalogSubScription) :
    w.catalogTarget myId devid parentid item =
      if w.AsksForAll myId item then some item.mSsph else none := by
  unfold catalogTarget AsksForAll
  split_ifs <;> grind

/-- The NOTIFYs go to the subscribers of everything, in the order of the users. -/
theorem notifyCatalog_eq (w : CSubscriptionMrg) (myId content devid parentid : String) :
    w.notifyCatalog myId content devid parentid =
      (w.entries.filter (w.AsksForAll myId)).map
        fun item => (item.mSsph, content) := by
  unfold notifyCatalog
  generalize w.entries = items
  induction items with
  | nil => rfl
  | cons item items ih =>
      by_cases hall : w.AsksForAll myId item
      · have htarget : w.catalogTarget myId devid parentid item = some item.mSsph := by
          rw [catalogTarget_eq, if_pos hall]
        simpa [htarget, hall, hall.1] using ih
      · have htarget : w.catalogTarget myId devid parentid item = none := by
          rw [catalogTarget_eq, if_neg hall]
        simpa [htarget, hall] using ih

theorem AsksForAll.interested {item : CatalogSubScription} (h : w.AsksForAll myId item) :
    w.Interested myId devid parentid item :=
  ⟨h.1, h.2.elim .inl fun hmy => .inr (.inl hmy)⟩

/-- A change is notified to exactly the interested subscribers, once for each
subscription, when no valid subscription is for the device or its parent alone. -/
theorem notifyCatalog_perm_iff (w : CSubscriptionMrg) (myId content devid parentid : String) :
    (w.notifyCatalog myId content devid parentid).Perm
        ((w.entries.filter (w.Interested myId devid parentid)).map
          fun item => (item.mSsph, content)) ↔
      ∀ item ∈ w.entries, item.mSsph ∈ w.valid →
        item.deviceID = devid ∨ item.deviceID = parentid →
        item.deviceID = "" ∨ item.deviceID = myId := by
  rw [notifyCatalog_eq]
  generalize w.entries = items
  constructor
  · intro hperm item hitem hvalid hdevice
    have hsub : List.Sublist (items.filter (w.AsksForAll myId))
        (items.filter (w.Interested myId devid parentid)) := by
      refine List.monotone_filter_right items fun x hx => ?_
      exact decide_eq_true (of_decide_eq_true hx : w.AsksForAll myId x).interested
    have hlength := hperm.length_eq
    rw [List.length_map, List.length_map] at hlength
    have heq := hsub.eq_of_length hlength
    have hinterested : w.Interested myId devid parentid item :=
      ⟨hvalid, .inr (.inr hdevice)⟩
    have hmem : item ∈ items.filter (w.AsksForAll myId) := by
      rw [heq]
      exact List.mem_filter.mpr ⟨hitem, decide_eq_true hinterested⟩
    exact (of_decide_eq_true (List.mem_filter.mp hmem).2 : w.AsksForAll myId item).2
  · intro hall
    have heq : items.filter (w.AsksForAll myId) =
        items.filter (w.Interested myId devid parentid) := by
      refine List.filter_congr fun item hitem => decide_eq_decide.mpr ⟨fun h => h.interested, ?_⟩
      rintro ⟨hvalid, hempty | hmy | hdevice⟩
      · exact ⟨hvalid, .inl hempty⟩
      · exact ⟨hvalid, .inr hmy⟩
      · exact ⟨hvalid, hall item hitem hvalid hdevice⟩
    rw [heq]

/-- A registry with one valid subscription, for one channel. -/
def channelSubscriber : CSubscriptionMrg where
  catalogSubscriptionMap :=
    (∅ : Std.TreeMap String CatalogSubScription).insert "34020000002000000002"
      { user := "34020000002000000002"
        mSsph := 1
        mEventType := "Catalog"
        deviceID := "34020000001320000001"
        startTime := ""
        endTime := "" }
  valid := {1}
  ended := []

/-- The subscriber of the channel is not told of its change. -/
theorem channelSubscriber_not_notified :
    channelSubscriber.notifyCatalog "34020000002000000001" "" "34020000001320000001" "" = [] ∧
      ¬ (channelSubscriber.notifyCatalog "34020000002000000001" "" "34020000001320000001"
          "").Perm
        ((channelSubscriber.entries.filter
          (channelSubscriber.Interested "34020000002000000001" "34020000001320000001" "")).map
            fun item => (item.mSsph, "")) := by
  refine ⟨by decide, fun hperm => ?_⟩
  exact absurd hperm.length_eq (by decide)

/-! ### Entries after one operation -/

theorem removeSubscriptionHandle_getElem? (w : CSubscriptionMrg) (ssph : ServerSubscriptionHandle)
    (user : String) :
    (w.removeSubscriptionHandle ssph).catalogSubscriptionMap[user]? =
      (w.catalogSubscriptionMap[user]?).filter fun item => item.mSsph != ssph :=
  Std.TreeMap.getElem?_filter'

/-- An entry that is left when a handle is removed was there before and has
another handle. -/
theorem removeSubscriptionHandle_some {user : String} {ssph : ServerSubscriptionHandle}
    {item : CatalogSubScription}
    (h : (w.removeSubscriptionHandle ssph).catalogSubscriptionMap[user]? = some item) :
    w.catalogSubscriptionMap[user]? = some item ∧ item.mSsph ≠ ssph := by
  rw [removeSubscriptionHandle_getElem?, Option.filter_eq_some_iff] at h
  exact ⟨h.1, by simpa using h.2⟩

theorem endIfValid_some {user : String} {ssph : ServerSubscriptionHandle}
    {item : CatalogSubScription}
    (h : (w.endIfValid ssph).catalogSubscriptionMap[user]? = some item) :
    w.catalogSubscriptionMap[user]? = some item ∧ (ssph ∈ w.valid → item.mSsph ≠ ssph) := by
  unfold endIfValid at h
  split at h
  · obtain ⟨hitem, hne⟩ := removeSubscriptionHandle_some h
    exact ⟨hitem, fun _ => hne⟩
  · rename_i hinvalid
    exact ⟨h, fun hvalid => absurd hvalid hinvalid⟩

/-- What a catalog subscription does to the registry: the user's entry is
refreshed, or stored anew after a valid handle that it had is ended. -/
theorem addCatalogSubscription_cases (w : CSubscriptionMrg) (user : String)
    (ssph : ServerSubscriptionHandle) {eventtype : String} (catalog : GB28181XmlMsg)
    (hevent : eventtype = "Catalog" ∨ eventtype = "catalagitem") :
    (∃ item, w.catalogSubscriptionMap[user]? = some item ∧ item.mSsph ∈ w.valid ∧
      item.mSsph = ssph ∧
      (w.addCatalogSubscription user ssph eventtype catalog).1 =
        { w with
          catalogSubscriptionMap :=
            w.catalogSubscriptionMap.insert user (refreshSub item catalog) }) ∨
    ∃ w' : CSubscriptionMrg,
      ((w.catalogSubscriptionMap[user]? = none ∧ w' = w) ∨
        ∃ item, w.catalogSubscriptionMap[user]? = some item ∧
          ¬ (item.mSsph ∈ w.valid ∧ item.mSsph = ssph) ∧
          w' = endIfValid
            { w with catalogSubscriptionMap := w.catalogSubscriptionMap.erase user }
            item.mSsph) ∧
      (w.addCatalogSubscription user ssph eventtype catalog).1 =
        { w' with
          catalogSubscriptionMap :=
            w'.catalogSubscriptionMap.insert user (catalogSub user ssph eventtype catalog) } := by
  rw [addCatalogSubscription, if_pos hevent]
  cases hitem : w.catalogSubscriptionMap[user]? with
  | none => exact .inr ⟨w, .inl ⟨rfl, rfl⟩, rfl⟩
  | some item =>
      by_cases hsame : item.mSsph ∈ w.valid ∧ item.mSsph = ssph
      · exact .inl ⟨item, rfl, hsame.1, hsame.2, by simp only [if_pos hsame]⟩
      · exact .inr ⟨_, .inr ⟨item, rfl, hsame, rfl⟩, by simp only [if_neg hsame]⟩

end CSubscriptionMrg

/-! ### Runs -/

/-- The registry in a run, with what the run has done so far. -/
structure Registry where
  subs : CSubscriptionMrg
  /-- The handles that the DUM has given out. -/
  known : Finset ServerSubscriptionHandle
  /-- The handles that have been removed. -/
  removed : Finset ServerSubscriptionHandle
  /-- The valid handles that a newer subscription of their user replaced. -/
  replaced : Finset ServerSubscriptionHandle
  /-- The query of each user's last subscription. -/
  queries : Std.TreeMap String (Option CatalogQueryMsg)

/-- The events of a run. The first and the last are the DUM's. -/
inductive RegistryEvent where
  | newUsage (ssph : ServerSubscriptionHandle)
  | addCatalogSubscription (user : String) (ssph : ServerSubscriptionHandle)
      (eventtype : String) (catalog : GB28181XmlMsg)
  | deleteSubscription (ssph : ServerSubscriptionHandle)
  | deleteSubscriptionEvent (ssph : ServerSubscriptionHandle) (ev : String)
  | removeSubscriptionHandle (ssph : ServerSubscriptionHandle)
  | terminated (ssph : ServerSubscriptionHandle)

namespace Registry

open Lts CSubscriptionMrg

def start : Registry where
  subs := .empty
  known := ∅
  removed := ∅
  replaced := ∅
  queries := ∅

/-- The valid handle that a subscription of the user takes the place of. -/
def replacedBy (s : Registry) (user : String) (ssph : ServerSubscriptionHandle) :
    Finset ServerSubscriptionHandle :=
  match s.subs.catalogSubscriptionMap[user]? with
  | some item => if item.mSsph ∈ s.subs.valid ∧ item.mSsph ≠ ssph then {item.mSsph} else ∅
  | none => ∅

/-- The record of a subscription that is stored: the handle it replaces is
ended, which removes it. -/
def subscribe (s : Registry) (user : String) (ssph : ServerSubscriptionHandle)
    (eventtype : String) (catalog : GB28181XmlMsg) : Registry :=
  { s with
    subs := (s.subs.addCatalogSubscription user ssph eventtype catalog).1
    removed := s.removed ∪ s.replacedBy user ssph
    replaced := s.replaced ∪ s.replacedBy user ssph
    queries := s.queries.insert user catalog.catalogQuery }

/-- One event of a run. The number of a usage is never given out twice. -/
def step : Step Registry RegistryEvent
  | s, .newUsage ssph =>
      if ssph ∈ s.known then none
      else
        some { s with
          subs := { s.subs with valid := insert ssph s.subs.valid }
          known := insert ssph s.known }
  | s, .addCatalogSubscription user ssph eventtype catalog =>
      if eventtype = "Catalog" ∨ eventtype = "catalagitem" then
        some (s.subscribe user ssph eventtype catalog)
      else some { s with subs := (s.subs.addCatalogSubscription user ssph eventtype catalog).1 }
  | s, .deleteSubscription ssph =>
      some { s with
        subs := s.subs.deleteSubscription ssph, removed := insert ssph s.removed }
  | s, .deleteSubscriptionEvent ssph ev =>
      some { s with
        subs := s.subs.deleteSubscriptionEvent ssph ev, removed := insert ssph s.removed }
  | s, .removeSubscriptionHandle ssph =>
      some { s with
        subs := s.subs.removeSubscriptionHandle ssph, removed := insert ssph s.removed }
  | s, .terminated ssph =>
      if ssph ∈ s.subs.valid then
        some { s with subs := s.subs.terminate ssph, removed := insert ssph s.removed }
      else none

/-- The registry is consistent with the run so far. -/
structure Consistent (s : Registry) : Prop where
  onePerUser : ∀ {key key' : String} {item item' : CatalogSubScription},
    s.subs.catalogSubscriptionMap[key]? = some item →
    s.subs.catalogSubscriptionMap[key']? = some item' → item.user = item'.user → key = key'
  notRemoved : ∀ {key : String} {item : CatalogSubScription},
    s.subs.catalogSubscriptionMap[key]? = some item → item.mSsph ∉ s.removed
  endedOnce : ∀ ssph ∈ s.replaced, s.subs.ended.count ssph = 1
  times : ∀ {key : String} {item : CatalogSubScription} {q : CatalogQueryMsg},
    s.subs.catalogSubscriptionMap[key]? = some item → s.queries[key]? = some (some q) →
    item.startTime = q.startTime ∧ item.endTime = q.endTime

/-- A deletion under this event removes the handle. -/
def DeletesHandle (s : Registry) (ssph : ServerSubscriptionHandle) (ev : String) : Prop :=
  ev = "Catalog" ∨ ev = "catalagitem" ∨
    (ev ≠ "Alarm" ∧ ev ≠ "e_Alarm" ∧ ev ≠ "MobilePosition" ∧ ev ≠ "presence" ∧
      ssph ∈ s.subs.valid) ∨
    ∀ item ∈ s.subs.entries, item.mSsph ≠ ssph

/-- The events that keep the registry consistent: the times of a query are the
same, its handle has not been removed, and a handle with an entry is deleted
under the event of the catalog. -/
def Safe (s : Registry) : RegistryEvent → Prop
  | .addCatalogSubscription _ ssph eventtype catalog =>
      eventtype = "Catalog" ∨ eventtype = "catalagitem" →
        (∀ q ∈ catalog.catalogQuery, q.startTime = q.endTime) ∧ ssph ∉ s.removed
  | .deleteSubscriptionEvent ssph ev => s.DeletesHandle ssph ev
  | _ => True

/-! ### The entries of the registry -/

/-- The part of the invariant about the entries. -/
structure EntriesOk (w : CSubscriptionMrg) (removed : Finset ServerSubscriptionHandle)
    (queries : Std.TreeMap String (Option CatalogQueryMsg)) : Prop where
  user : ∀ {key : String} {item : CatalogSubScription},
    w.catalogSubscriptionMap[key]? = some item → item.user = key
  notRemoved : ∀ {key : String} {item : CatalogSubScription},
    w.catalogSubscriptionMap[key]? = some item → item.mSsph ∉ removed
  times : ∀ {key : String} {item : CatalogSubScription} {q : CatalogQueryMsg},
    w.catalogSubscriptionMap[key]? = some item → queries[key]? = some (some q) →
    item.startTime = q.startTime ∧ item.endTime = q.endTime

variable {w w' : CSubscriptionMrg}
  {removed removed' known replaced : Finset ServerSubscriptionHandle}
  {queries : Std.TreeMap String (Option CatalogQueryMsg)}

/-- Removing entries, and calling removed what no entry refers to any more,
keeps the entries in order. -/
theorem EntriesOk.shrink (h : EntriesOk w removed queries)
    (hshrink : ∀ {key : String} {item : CatalogSubScription},
      w'.catalogSubscriptionMap[key]? = some item →
      w.catalogSubscriptionMap[key]? = some item ∧
        (item.mSsph ∈ removed' → item.mSsph ∈ removed)) :
    EntriesOk w' removed' queries where
  user hitem := h.user (hshrink hitem).1
  notRemoved hitem hmem := h.notRemoved (hshrink hitem).1 ((hshrink hitem).2 hmem)
  times hitem := h.times (hshrink hitem).1

/-- Storing a user's entry keeps the entries in order when the entry is. -/
theorem EntriesOk.insert (h : EntriesOk w removed queries) {user : String}
    {item : CatalogSubScription} {query : Option CatalogQueryMsg} (huser : item.user = user)
    (hremoved : item.mSsph ∉ removed)
    (htimes : ∀ q ∈ query, item.startTime = q.startTime ∧ item.endTime = q.endTime) :
    EntriesOk { w with catalogSubscriptionMap := w.catalogSubscriptionMap.insert user item }
      removed (queries.insert user query) := by
  refine { user := ?user, notRemoved := ?notRemoved, times := ?times }
  case user =>
    intro key item' hitem
    rcases OrdMap.insert_cases hitem with ⟨rfl, rfl⟩ | ⟨-, hold⟩
    · exact huser
    · exact h.user hold
  case notRemoved =>
    intro key item' hitem
    rcases OrdMap.insert_cases hitem with ⟨rfl, rfl⟩ | ⟨-, hold⟩
    · exact hremoved
    · exact h.notRemoved hold
  case times =>
    intro key item' q hitem hquery
    rcases OrdMap.insert_cases hitem with ⟨rfl, rfl⟩ | ⟨hne, hold⟩
    · rw [OrdMap.getElem?_insert, if_pos rfl] at hquery
      exact htimes q (Option.some.inj hquery)
    · rw [OrdMap.getElem?_insert, if_neg hne] at hquery
      exact h.times hold hquery

/-- Ending a handle removes its entries. -/
theorem EntriesOk.endIfValid (h : EntriesOk w removed queries)
    (ssph : ServerSubscriptionHandle) : EntriesOk (w.endIfValid ssph) removed queries :=
  h.shrink fun hitem => ⟨(endIfValid_some hitem).1, id⟩

/-- The user's entry is not there after it was erased and its handle ended. -/
theorem replaced_some {user key : String} {old item : CatalogSubScription}
    (hitem : (endIfValid
      { w with catalogSubscriptionMap := w.catalogSubscriptionMap.erase user }
      old.mSsph).catalogSubscriptionMap[key]? = some item) :
    w.catalogSubscriptionMap[key]? = some item ∧
      (old.mSsph ∈ w.valid → item.mSsph ≠ old.mSsph) := by
  obtain ⟨herased, hne⟩ := endIfValid_some hitem
  refine ⟨?_, hne⟩
  rw [OrdMap.getElem?_erase] at herased
  split at herased
  · cases herased
  · exact herased

theorem foldl_endIfValid_some {vSubs : List ServerSubscriptionHandle} {key : String}
    {item : CatalogSubScription}
    (hitem : (vSubs.foldl CSubscriptionMrg.endIfValid w).catalogSubscriptionMap[key]? =
      some item) :
    w.catalogSubscriptionMap[key]? = some item := by
  induction vSubs generalizing w with
  | nil => exact hitem
  | cons ssph vSubs ih => exact (endIfValid_some (ih hitem)).1

/-- A deletion under an event leaves entries as they were, and none with the
handle when the event deletes it. -/
theorem deleteSubscriptionEvent_some {s : Registry} {ssph : ServerSubscriptionHandle}
    {ev key : String} {item : CatalogSubScription}
    (hitem : (s.subs.deleteSubscriptionEvent ssph ev).catalogSubscriptionMap[key]? =
      some item) :
    s.subs.catalogSubscriptionMap[key]? = some item ∧
      (s.DeletesHandle ssph ev → item.mSsph ≠ ssph) := by
  by_cases hcatalog : ev = "Catalog" ∨ ev = "catalagitem"
  · rw [deleteSubscriptionEvent, if_pos hcatalog] at hitem
    obtain ⟨hold, hne⟩ := removeSubscriptionHandle_some (foldl_endIfValid_some hitem)
    exact ⟨hold, fun _ => hne⟩
  · have hold : s.subs.catalogSubscriptionMap[key]? = some item ∧
        (ev ≠ "Alarm" ∧ ev ≠ "e_Alarm" ∧ ev ≠ "MobilePosition" ∧ ev ≠ "presence" →
          ssph ∈ s.subs.valid → item.mSsph ≠ ssph) := by
      rw [deleteSubscriptionEvent, if_neg hcatalog] at hitem
      split_ifs at hitem with halarm hmobile hpresence
      · exact ⟨hitem, fun hev => absurd halarm (by tauto)⟩
      · exact ⟨hitem, fun hev => absurd hmobile hev.2.2.1⟩
      · exact ⟨hitem, fun hev => absurd hpresence hev.2.2.2⟩
      · exact ⟨(endIfValid_some hitem).1, fun _ => (endIfValid_some hitem).2⟩
    refine ⟨hold.1, ?_⟩
    rintro (hev | hev | ⟨h1, h2, h3, h4, hvalid⟩ | hfree)
    · exact absurd (.inl hev) hcatalog
    · exact absurd (.inr hev) hcatalog
    · exact hold.2 ⟨h1, h2, h3, h4⟩ hvalid
    · exact hfree item (mem_entries.mpr ⟨key, hold.1⟩)

/-! ### The handles that were ended -/

/-- The part of the invariant about the handles. -/
structure EndsOk (w : CSubscriptionMrg) (known replaced : Finset ServerSubscriptionHandle) :
    Prop where
  ended_nodup : w.ended.Nodup
  valid_not_ended : ∀ ssph ∈ w.valid, ssph ∉ w.ended
  valid_known : ∀ ssph ∈ w.valid, ssph ∈ known
  ended_known : ∀ ssph ∈ w.ended, ssph ∈ known
  replaced_ended : ∀ ssph ∈ replaced, ssph ∈ w.ended

theorem EndsOk.shrink (h : EndsOk w known replaced) (hvalid : w'.valid ⊆ w.valid)
    (hended : w'.ended = w.ended) : EndsOk w' known replaced := by
  refine { ended_nodup := ?_, valid_not_ended := ?_, valid_known := ?_, ended_known := ?_,
           replaced_ended := ?_ }
  · exact hended ▸ h.ended_nodup
  · exact fun ssph hssph => hended ▸ h.valid_not_ended ssph (hvalid hssph)
  · exact fun ssph hssph => h.valid_known ssph (hvalid hssph)
  · exact fun ssph hssph => h.ended_known ssph (hended ▸ hssph)
  · exact fun ssph hssph => hended ▸ h.replaced_ended ssph hssph

/-- A handle that is ended was valid, so it had not been ended before. -/
theorem EndsOk.endIfValid (h : EndsOk w known replaced) (ssph : ServerSubscriptionHandle) :
    EndsOk (w.endIfValid ssph) known replaced := by
  unfold CSubscriptionMrg.endIfValid
  split
  · rename_i hvalid
    refine { ended_nodup := ?_, valid_not_ended := ?_, valid_known := ?_, ended_known := ?_,
             replaced_ended := ?_ }
    · refine List.nodup_append.mpr ⟨h.ended_nodup, List.nodup_singleton ssph, ?_⟩
      rintro old hold new hnew rfl
      rw [List.mem_singleton.mp hnew] at hold
      exact h.valid_not_ended ssph hvalid hold
    · intro other hother hmem
      obtain ⟨hne, hother⟩ := Finset.mem_erase.mp hother
      rcases List.mem_append.mp hmem with hold | hnew
      · exact h.valid_not_ended other hother hold
      · exact hne (List.mem_singleton.mp hnew)
    · exact fun other hother => h.valid_known other (Finset.mem_of_mem_erase hother)
    · intro other hmem
      rcases List.mem_append.mp hmem with hold | hnew
      · exact h.ended_known other hold
      · exact List.mem_singleton.mp hnew ▸ h.valid_known ssph hvalid
    · exact fun other hother => List.mem_append_left _ (h.replaced_ended other hother)
  · exact h

theorem mem_ended_endIfValid {ssph : ServerSubscriptionHandle} (hvalid : ssph ∈ w.valid) :
    ssph ∈ (w.endIfValid ssph).ended := by
  rw [CSubscriptionMrg.endIfValid, if_pos hvalid]
  exact List.mem_append_right _ List.mem_cons_self

theorem EndsOk.foldl_endIfValid (h : EndsOk w known replaced)
    (vSubs : List ServerSubscriptionHandle) :
    EndsOk (vSubs.foldl CSubscriptionMrg.endIfValid w) known replaced := by
  induction vSubs generalizing w with
  | nil => exact h
  | cons ssph vSubs ih => exact ih (h.endIfValid ssph)

theorem EndsOk.removeSubscriptionHandle (h : EndsOk w known replaced)
    (ssph : ServerSubscriptionHandle) :
    EndsOk (w.removeSubscriptionHandle ssph) known replaced :=
  h.shrink (Finset.Subset.refl _) rfl

theorem EndsOk.deleteSubscriptionEvent (h : EndsOk w known replaced)
    (ssph : ServerSubscriptionHandle) (ev : String) :
    EndsOk (w.deleteSubscriptionEvent ssph ev) known replaced := by
  unfold CSubscriptionMrg.deleteSubscriptionEvent
  split_ifs
  · exact (h.removeSubscriptionHandle ssph).foldl_endIfValid _
  · exact h
  · exact h
  · exact h
  · exact h.endIfValid ssph

/-- A fresh handle has not been ended. -/
theorem EndsOk.newUsage (h : EndsOk w known replaced) {ssph : ServerSubscriptionHandle}
    (hfresh : ssph ∉ known) :
    EndsOk { w with valid := insert ssph w.valid } (insert ssph known) replaced := by
  refine { ended_nodup := h.ended_nodup, valid_not_ended := ?_, valid_known := ?_,
           ended_known := ?_, replaced_ended := h.replaced_ended }
  · intro other hother hended
    rcases Finset.mem_insert.mp hother with rfl | hold
    · exact hfresh (h.ended_known other hended)
    · exact h.valid_not_ended other hold hended
  · intro other hother
    rcases Finset.mem_insert.mp hother with rfl | hold
    · exact Finset.mem_insert_self other known
    · exact Finset.mem_insert_of_mem (h.valid_known other hold)
  · exact fun other hended => Finset.mem_insert_of_mem (h.ended_known other hended)

/-- The handles that were replaced may grow by a handle that was ended. -/
theorem EndsOk.replace (h : EndsOk w known replaced) {more : Finset ServerSubscriptionHandle}
    (hmore : ∀ ssph ∈ more, ssph ∈ w.ended) : EndsOk w known (replaced ∪ more) where
  ended_nodup := h.ended_nodup
  valid_not_ended := h.valid_not_ended
  valid_known := h.valid_known
  ended_known := h.ended_known
  replaced_ended ssph hssph :=
    (Finset.mem_union.mp hssph).elim (h.replaced_ended ssph) (hmore ssph)

/-! ### One event -/

/-- The invariant of the runs. -/
structure Inv (s : Registry) : Prop where
  entries : EntriesOk s.subs s.removed s.queries
  ends : EndsOk s.subs s.known s.replaced

theorem Inv.consistent {s : Registry} (h : Inv s) : Consistent s where
  onePerUser hitem hitem' huser := by
    rw [← h.entries.user hitem, ← h.entries.user hitem', huser]
  notRemoved := h.entries.notRemoved
  endedOnce ssph hssph :=
    List.count_eq_one_of_mem h.ends.ended_nodup (h.ends.replaced_ended ssph hssph)
  times := h.entries.times

theorem inv_start : Inv start where
  entries := {
    user := fun hitem => by simp [start, CSubscriptionMrg.empty] at hitem
    notRemoved := fun _ hmem => by simp [start] at hmem
    times := fun hitem => by simp [start, CSubscriptionMrg.empty] at hitem }
  ends := {
    ended_nodup := List.nodup_nil
    valid_not_ended := fun ssph hssph => by simp [start, CSubscriptionMrg.empty] at hssph
    valid_known := fun ssph hssph => by simp [start, CSubscriptionMrg.empty] at hssph
    ended_known := fun ssph hssph => by simp [start, CSubscriptionMrg.empty] at hssph
    replaced_ended := fun ssph hssph => by simp [start] at hssph }

/-- The times of an entry are those of its query crossed over. -/
def Crossed (item : CatalogSubScription) (catalog : GB28181XmlMsg) : Prop :=
  ∀ q ∈ catalog.catalogQuery, item.startTime = q.endTime ∧ item.endTime = q.startTime

theorem crossed_refreshSub (item : CatalogSubScription) (catalog : GB28181XmlMsg) :
    (refreshSub item catalog).user = item.user ∧
      (refreshSub item catalog).mSsph = item.mSsph ∧ Crossed (refreshSub item catalog) catalog := by
  unfold refreshSub
  split
  · rename_i q hq
    refine ⟨rfl, rfl, fun q' hq' => ?_⟩
    rw [hq] at hq'
    cases hq'
    exact ⟨rfl, rfl⟩
  · rename_i hnone
    refine ⟨rfl, rfl, fun q' hq' => ?_⟩
    rw [hnone] at hq'
    cases hq'

theorem crossed_catalogSub (user : String) (ssph : ServerSubscriptionHandle) (eventtype : String)
    (catalog : GB28181XmlMsg) : Crossed (catalogSub user ssph eventtype catalog) catalog := by
  intro q hq
  rw [Option.mem_def] at hq
  simp [catalogSub, hq]

/-- Crossed times are those of the query when its two times are the same. -/
theorem Crossed.times {item : CatalogSubScription} {catalog : GB28181XmlMsg}
    (h : Crossed item catalog) (hsame : ∀ q ∈ catalog.catalogQuery, q.startTime = q.endTime) :
    ∀ q ∈ catalog.catalogQuery, item.startTime = q.startTime ∧ item.endTime = q.endTime := by
  intro q hq
  obtain ⟨hstart, hend⟩ := h q hq
  have hq := hsame q hq
  exact ⟨hstart.trans hq.symm, hend.trans hq⟩

variable {s : Registry} {user : String} {ssph : ServerSubscriptionHandle} {eventtype : String}
  {catalog : GB28181XmlMsg}

/-- The entry that a subscription leaves for its user. -/
theorem subscribe_stored (hevent : eventtype = "Catalog" ∨ eventtype = "catalagitem") :
    ∃ item, (s.subscribe user ssph eventtype catalog).subs.catalogSubscriptionMap[user]? =
        some item ∧ item.mSsph = ssph ∧ Crossed item catalog := by
  rcases addCatalogSubscription_cases s.subs user ssph catalog hevent with
    ⟨item, -, -, hssph, hsubs⟩ | ⟨w', -, hsubs⟩
  · obtain ⟨-, hhandle, hcrossed⟩ := crossed_refreshSub item catalog
    refine ⟨refreshSub item catalog, ?_, hhandle.trans hssph, hcrossed⟩
    rw [subscribe, hsubs, OrdMap.getElem?_insert, if_pos rfl]
  · refine ⟨_, ?_, rfl, crossed_catalogSub user ssph eventtype catalog⟩
    rw [subscribe, hsubs, OrdMap.getElem?_insert, if_pos rfl]

/-- A handle that a subscription takes the place of was valid, and is not the
handle of the subscription. -/
theorem mem_replacedBy {h : ServerSubscriptionHandle} :
    h ∈ s.replacedBy user ssph ↔
      ∃ item, s.subs.catalogSubscriptionMap[user]? = some item ∧ item.mSsph = h ∧
        h ∈ s.subs.valid ∧ h ≠ ssph := by
  unfold replacedBy
  split
  · rename_i item hitem
    rw [hitem]
    split_ifs with hcond
    · constructor
      · intro hmem
        rw [Finset.mem_singleton.mp hmem]
        exact ⟨item, rfl, rfl, hcond⟩
      · rintro ⟨item', hitem', rfl, -⟩
        cases hitem'
        exact Finset.mem_singleton_self _
    · constructor
      · intro hmem
        cases hmem
      · rintro ⟨item', hitem', rfl, hreplaced⟩
        cases hitem'
        exact absurd hreplaced hcond
  · rename_i hnone
    rw [hnone]
    constructor
    · intro hmem
      cases hmem
    · rintro ⟨item, hitem, -⟩
      cases hitem

theorem not_mem_replacedBy_of_none {h : ServerSubscriptionHandle}
    (hnone : s.subs.catalogSubscriptionMap[user]? = none) : h ∉ s.replacedBy user ssph := by
  intro hmem
  obtain ⟨item, hitem, -⟩ := mem_replacedBy.mp hmem
  rw [hnone] at hitem
  cases hitem

/-- What a subscription replaces is the handle of the user's entry. -/
theorem eq_of_mem_replacedBy {h : ServerSubscriptionHandle} {item : CatalogSubScription}
    (hitem : s.subs.catalogSubscriptionMap[user]? = some item)
    (hmem : h ∈ s.replacedBy user ssph) : item.mSsph = h ∧ h ∈ s.subs.valid ∧ h ≠ ssph := by
  obtain ⟨item', hitem', hreplaced⟩ := mem_replacedBy.mp hmem
  rw [hitem] at hitem'
  cases hitem'
  exact hreplaced

/-- The registry without the handle that a subscription takes the place of. -/
theorem Inv.afterReplacing (h : Inv s)
    (hw : (s.subs.catalogSubscriptionMap[user]? = none ∧ w = s.subs) ∨
      ∃ item, s.subs.catalogSubscriptionMap[user]? = some item ∧
        ¬ (item.mSsph ∈ s.subs.valid ∧ item.mSsph = ssph) ∧
        w = CSubscriptionMrg.endIfValid
          { s.subs with
            catalogSubscriptionMap := s.subs.catalogSubscriptionMap.erase user }
          item.mSsph) :
    EntriesOk w (s.removed ∪ s.replacedBy user ssph) s.queries ∧
      EndsOk w s.known (s.replaced ∪ s.replacedBy user ssph) := by
  rcases hw with ⟨hnone, rfl⟩ | ⟨item, hitem, -, rfl⟩
  · refine ⟨h.entries.shrink fun hitem => ⟨hitem, fun hmem => ?_⟩, h.ends.replace ?_⟩
    · exact (Finset.mem_union.mp hmem).resolve_right (not_mem_replacedBy_of_none hnone)
    · exact fun h' hmem => absurd hmem (not_mem_replacedBy_of_none hnone)
  · constructor
    · refine h.entries.shrink fun hitem' => ?_
      obtain ⟨hold, hne⟩ := replaced_some hitem'
      refine ⟨hold, fun hmem => (Finset.mem_union.mp hmem).resolve_right fun hnew => ?_⟩
      obtain ⟨hhandle, hvalid, -⟩ := eq_of_mem_replacedBy hitem hnew
      exact hne (hhandle ▸ hvalid) hhandle.symm
    · have herased : EndsOk
          { s.subs with catalogSubscriptionMap := s.subs.catalogSubscriptionMap.erase user }
          s.known s.replaced :=
        h.ends.shrink (Finset.Subset.refl _) rfl
      refine (herased.endIfValid item.mSsph).replace fun h' hmem => ?_
      obtain ⟨rfl, hvalid, -⟩ := eq_of_mem_replacedBy hitem hmem
      exact mem_ended_endIfValid hvalid

/-- A subscription whose query has one time, under a handle that has not been
removed, keeps the invariant. -/
theorem Inv.subscribe (h : Inv s) (hevent : eventtype = "Catalog" ∨ eventtype = "catalagitem")
    (hsame : ∀ q ∈ catalog.catalogQuery, q.startTime = q.endTime)
    (hremoved : ssph ∉ s.removed) : Inv (s.subscribe user ssph eventtype catalog) := by
  have hfree : ssph ∉ s.removed ∪ s.replacedBy user ssph := by
    intro hmem
    rcases Finset.mem_union.mp hmem with hold | hnew
    · exact hremoved hold
    · obtain ⟨item, -, -, -, hne⟩ := mem_replacedBy.mp hnew
      exact hne rfl
  rcases addCatalogSubscription_cases s.subs user ssph catalog hevent with
    ⟨item, hitem, hvalid, hssph, hsubs⟩ | ⟨w, hw, hsubs⟩
  · -- The handle that is refreshed is the one the user had: nothing is replaced.
    have hnone : ∀ h, h ∉ s.replacedBy user ssph := by
      intro h hmem
      obtain ⟨rfl, -, hne⟩ := eq_of_mem_replacedBy hitem hmem
      exact hne hssph
    obtain ⟨huser, hhandle, hcrossed⟩ := crossed_refreshSub item catalog
    refine { entries := ?_, ends := ?_ }
    · rw [Registry.subscribe, hsubs]
      have hgrown : EntriesOk s.subs (s.removed ∪ s.replacedBy user ssph) s.queries :=
        h.entries.shrink fun hitem' =>
          ⟨hitem', fun hmem => (Finset.mem_union.mp hmem).resolve_right (hnone _)⟩
      refine hgrown.insert (huser.trans (h.entries.user hitem)) ?_ (hcrossed.times hsame)
      rw [hhandle, hssph]
      exact hfree
    · rw [Registry.subscribe, hsubs]
      have hends : EndsOk s.subs s.known (s.replaced ∪ s.replacedBy user ssph) :=
        h.ends.replace fun h' hmem => absurd hmem (hnone h')
      exact hends.shrink (Finset.Subset.refl _) rfl
  · obtain ⟨hentries, hends⟩ := h.afterReplacing hw
    have hcrossed := crossed_catalogSub user ssph eventtype catalog
    refine { entries := ?_, ends := ?_ }
    · rw [Registry.subscribe, hsubs]
      exact hentries.insert rfl hfree (hcrossed.times hsame)
    · rw [Registry.subscribe, hsubs]
      exact hends.shrink (Finset.Subset.refl _) rfl

/-- Removing a handle and its entries keeps the invariant. -/
theorem Inv.remove (h : Inv s) {subs : CSubscriptionMrg}
    (hends : EndsOk subs s.known s.replaced)
    (hsome : ∀ {key : String} {item : CatalogSubScription},
      subs.catalogSubscriptionMap[key]? = some item →
      s.subs.catalogSubscriptionMap[key]? = some item ∧ item.mSsph ≠ ssph) :
    Inv { s with subs := subs, removed := insert ssph s.removed } where
  entries := h.entries.shrink fun hitem =>
    ⟨(hsome hitem).1, fun hmem => (Finset.mem_insert.mp hmem).resolve_left (hsome hitem).2⟩
  ends := hends

theorem deleteSubscription_some {key : String} {item : CatalogSubScription}
    (hitem : (w.deleteSubscription ssph).catalogSubscriptionMap[key]? = some item) :
    w.catalogSubscriptionMap[key]? = some item ∧ item.mSsph ≠ ssph :=
  removeSubscriptionHandle_some (endIfValid_some hitem).1

/-- Safe events keep the invariant. -/
theorem preserves_inv : Preserves step Safe Inv := by
  intro s event s' h hsafe hstep
  cases event with
  | newUsage ssph =>
      simp only [step] at hstep
      split at hstep
      · cases hstep
      · rename_i hfresh
        cases hstep
        exact { entries := h.entries.shrink fun hitem => ⟨hitem, id⟩
                ends := h.ends.newUsage hfresh }
  | addCatalogSubscription user ssph eventtype catalog =>
      simp only [step] at hstep
      split at hstep
      · rename_i hevent
        cases hstep
        obtain ⟨hsame, hremoved⟩ := hsafe hevent
        exact h.subscribe hevent hsame hremoved
      · rename_i hevent
        cases hstep
        rw [CSubscriptionMrg.addCatalogSubscription, if_neg hevent]
        exact h
  | deleteSubscription ssph =>
      cases hstep
      exact h.remove ((h.ends.removeSubscriptionHandle ssph).endIfValid ssph)
        deleteSubscription_some
  | deleteSubscriptionEvent ssph ev =>
      cases hstep
      refine h.remove (h.ends.deleteSubscriptionEvent ssph ev) fun hitem => ?_
      obtain ⟨hold, hne⟩ := deleteSubscriptionEvent_some hitem
      exact ⟨hold, hne hsafe⟩
  | removeSubscriptionHandle ssph =>
      cases hstep
      exact h.remove (h.ends.removeSubscriptionHandle ssph) removeSubscriptionHandle_some
  | terminated ssph =>
      simp only [step] at hstep
      split at hstep
      · cases hstep
        refine h.remove ?_ removeSubscriptionHandle_some
        exact h.ends.shrink (Finset.erase_subset _ _) rfl
      · cases hstep

/-- A subscription after which the registry is consistent was safe. -/
theorem Consistent.safe_subscribe
    (h : Consistent (s.subscribe user ssph eventtype catalog))
    (hevent : eventtype = "Catalog" ∨ eventtype = "catalagitem") :
    (∀ q ∈ catalog.catalogQuery, q.startTime = q.endTime) ∧ ssph ∉ s.removed := by
  obtain ⟨item, hitem, hhandle, hcrossed⟩ := subscribe_stored (s := s) hevent
  constructor
  · intro q hq
    have hquery : (s.subscribe user ssph eventtype catalog).queries[user]? = some (some q) := by
      rw [subscribe, OrdMap.getElem?_insert, if_pos rfl]
      exact congrArg some hq
    obtain ⟨hstart, -⟩ := h.times hitem hquery
    exact hstart.symm.trans (hcrossed q hq).1
  · intro hmem
    have hmem' : item.mSsph ∈ s.removed ∪ s.replacedBy user ssph :=
      Finset.mem_union_left _ (hhandle ▸ hmem)
    exact h.notRemoved hitem hmem'

/-- A deletion that leaves no entry with the handle was under an event that
deletes it. -/
theorem deletesHandle_of_none {ev : String}
    (hnone : ∀ {key : String} {item : CatalogSubScription},
      (s.subs.deleteSubscriptionEvent ssph ev).catalogSubscriptionMap[key]? = some item →
      item.mSsph ≠ ssph) : s.DeletesHandle ssph ev := by
  by_cases hcatalog : ev = "Catalog" ∨ ev = "catalagitem"
  · rcases hcatalog with hev | hev
    · exact .inl hev
    · exact .inr (.inl hev)
  by_cases hends : ev ≠ "Alarm" ∧ ev ≠ "e_Alarm" ∧ ev ≠ "MobilePosition" ∧
      ev ≠ "presence" ∧ ssph ∈ s.subs.valid
  · exact .inr (.inr (.inl hends))
  -- Nothing happens to the registry, so no entry had the handle.
  have hsame : s.subs.deleteSubscriptionEvent ssph ev = s.subs := by
    rw [CSubscriptionMrg.deleteSubscriptionEvent, if_neg hcatalog]
    split_ifs with halarm hmobile hpresence
    · rfl
    · rfl
    · rfl
    · refine if_neg fun hvalid => hends ⟨?_, ?_, hmobile, hpresence, hvalid⟩
      · exact fun hev => halarm (.inl hev)
      · exact fun hev => halarm (.inr hev)
  refine .inr (.inr (.inr fun item hitem => ?_))
  obtain ⟨key, hkey⟩ := mem_entries.mp hitem
  rw [hsame] at hnone
  exact hnone hkey

/-- The registry is consistent in every state of a run exactly when every event
of the run is safe. -/
theorem consistent_along_iff (run : List RegistryEvent) :
    Along step Consistent start run ↔ Guarded step Safe start run := by
  refine along_iff_guarded preserves_inv (fun s h => h.consistent) ?_ inv_start
  intro s event s' _ hstep hconsistent
  cases event with
  | newUsage ssph => trivial
  | addCatalogSubscription user ssph eventtype catalog =>
      intro hevent
      simp only [step, if_pos hevent] at hstep
      cases hstep
      exact hconsistent.safe_subscribe hevent
  | deleteSubscription ssph => trivial
  | deleteSubscriptionEvent ssph ev =>
      cases hstep
      refine deletesHandle_of_none fun hitem heq => ?_
      exact hconsistent.notRemoved hitem (heq ▸ Finset.mem_insert_self ssph s.removed)
  | removeSubscriptionHandle ssph => trivial
  | terminated ssph => trivial

/-- A subscription for one day. -/
def dayQuery : GB28181XmlMsg where
  cmdname := .query
  cmdtype := .catalog
  deviceID := "34020000002000000001"
  pPoint := some (.catalogQuery ⟨"2024-01-01T00:00:00", "2024-01-02T00:00:00"⟩)

/-- The entry of a subscription for one day begins at the day's end. -/
theorem day_subscription_crossed :
    (exec step start [.newUsage 1, .addCatalogSubscription "34020000002000000002" 1 "Catalog"
        dayQuery]).map (fun s => s.subs.entries.map fun item => (item.startTime, item.endTime)) =
      some [("2024-01-02T00:00:00", "2024-01-01T00:00:00")] ∧
      ¬ Along step Consistent start [.newUsage 1,
        .addCatalogSubscription "34020000002000000002" 1 "Catalog" dayQuery] := by
  refine ⟨by decide, fun h => ?_⟩
  have hlast := ((h.2 _ rfl).2 _ rfl).head
  have hsame := (hlast.safe_subscribe (.inl rfl)).1
    ⟨"2024-01-01T00:00:00", "2024-01-02T00:00:00"⟩ rfl
  exact absurd hsame (by decide)

end Registry

end SignalingServer
