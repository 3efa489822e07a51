import Mathlib.Data.Finset.Basic
import Std.Data.TreeMap.Lemmas
import SignalingServer.UserAgent.XmlMsg

/-!
The registry of catalog subscriptions (SubscriptionMrg.cpp) together with the
DUM's view of the handles. A server subscription that is ended sends its last
NOTIFY, reports `onTerminated` to the user agent and is gone: its handle stops
being valid. `AlarmSubscriptionMap` is never written by the program and is left
out.
-/

namespace SignalingServer

/-- A `ServerSubscriptionHandle`, by the number of the usage it refers to. -/
abbrev ServerSubscriptionHandle := Nat

/-- `CatalogSubScription` with the fields of its base `SubscriptionInfo`. -/
structure CatalogSubScription where
  user : String
  mSsph : ServerSubscriptionHandle
  mEventType : String
  deviceID : String
  startTime : String
  endTime : String
  deriving DecidableEq, Repr

/-- `CSubscriptionMrg` and the subscription usages of the DUM. -/
structure CSubscriptionMrg where
  catalogSubscriptionMap : Std.TreeMap String CatalogSubScription
  /-- The handles for which `isValid` answers true. -/
  valid : Finset ServerSubscriptionHandle
  /-- The handles on which `end` was called, in order. -/
  ended : List ServerSubscriptionHandle

namespace CSubscriptionMrg

/-- The registry when the process starts. -/
def empty : CSubscriptionMrg where
  catalogSubscriptionMap := ∅
  valid := ∅
  ended := []

/-- `CSubscriptionMrg::removeSubscriptionHandle`. -/
def removeSubscriptionHandle (w : CSubscriptionMrg) (ssph : ServerSubscriptionHandle) :
    CSubscriptionMrg :=
  { w with
    catalogSubscriptionMap :=
      w.catalogSubscriptionMap.filter fun _ item => item.mSsph != ssph }

/-- The DUM destroys a subscription and reports it to `UaMgr::onTerminated`. -/
def terminate (w : CSubscriptionMrg) (ssph : ServerSubscriptionHandle) : CSubscriptionMrg :=
  { w.removeSubscriptionHandle ssph with valid := w.valid.erase ssph }

/-- `ssph->end()` on a valid handle. -/
def endHandle (w : CSubscriptionMrg) (ssph : ServerSubscriptionHandle) : CSubscriptionMrg :=
  { w.terminate ssph with ended := w.ended ++ [ssph] }

/-- `if (ssph.isValid()) ssph->end();` -/
def endIfValid (w : CSubscriptionMrg) (ssph : ServerSubscriptionHandle) : CSubscriptionMrg :=
  if ssph ∈ w.valid then w.endHandle ssph else w

/-- `CSubscriptionMrg::DeleteSubscription` for a handle. -/
def deleteSubscription (w : CSubscriptionMrg) (ssph : ServerSubscriptionHandle) :
    CSubscriptionMrg :=
  (w.removeSubscriptionHandle ssph).endIfValid ssph

/-- The entry that `AddCatalogSubscription` stores for a new subscription. The
source crosses the two times over. -/
def catalogSub (user : String) (ssph : ServerSubscriptionHandle) (eventtype : String)
    (catalog : GB28181XmlMsg) : CatalogSubScription where
  user := user
  mSsph := ssph
  mEventType := eventtype
  deviceID := catalog.deviceID
  startTime := (catalog.catalogQuery.map (·.endTime)).getD ""
  endTime := (catalog.catalogQuery.map (·.startTime)).getD ""

/-- The writes of `AddCatalogSubscription` to an entry that already has the handle. -/
def refreshSub (item : CatalogSubScription) (catalog : GB28181XmlMsg) : CatalogSubScription :=
  match catalog.catalogQuery with
  | some q =>
      { item with deviceID := catalog.deviceID, endTime := q.startTime, startTime := q.endTime }
  | none => { item with deviceID := catalog.deviceID }

/-- `CSubscriptionMrg::AddCatalogSubscription`. -/
def addCatalogSubscription (w : CSubscriptionMrg) (user : String)
    (ssph : ServerSubscriptionHandle) (eventtype : String) (catalog : GB28181XmlMsg) :
    CSubscriptionMrg × Bool :=
  if eventtype = "Catalog" ∨ eventtype = "catalagitem" then
    match w.catalogSubscriptionMap[user]? with
    | some item =>
        if item.mSsph ∈ w.valid ∧ item.mSsph = ssph then
          ({ w with
            catalogSubscriptionMap :=
              w.catalogSubscriptionMap.insert user (refreshSub item catalog) }, true)
        else
          let w :=
            { w with catalogSubscriptionMap := w.catalogSubscriptionMap.erase user }
          let w := w.endIfValid item.mSsph
          ({ w with
            catalogSubscriptionMap :=
              w.catalogSubscriptionMap.insert user (catalogSub user ssph eventtype catalog) },
            true)
    | none =>
        ({ w with
          catalogSubscriptionMap :=
            w.catalogSubscriptionMap.insert user (catalogSub user ssph eventtype catalog) },
          true)
  else (w, false)

/-- The entries in the order of their users. -/
def entries (w : CSubscriptionMrg) : List CatalogSubScription :=
  w.catalogSubscriptionMap.toList.map (·.2)

theorem mem_entries {w : CSubscriptionMrg} {item : CatalogSubScription} :
    item ∈ w.entries ↔ ∃ user : String, w.catalogSubscriptionMap[user]? = some item := by
  simp [entries, Std.TreeMap.mem_toList_iff_getElem?_eq_some]

/-- `CSubscriptionMrg::DeleteSubscription` for a handle and the event of its usage. -/
def deleteSubscriptionEvent (w : CSubscriptionMrg) (ssph : ServerSubscriptionHandle)
    (ev : String) : CSubscriptionMrg :=
  if ev = "Catalog" ∨ ev = "catalagitem" then
    let vSubs := (w.entries.filter fun item => item.mSsph = ssph).map fun _ => ssph
    vSubs.foldl endIfValid (w.removeSubscriptionHandle ssph)
  else if ev = "Alarm" ∨ ev = "e_Alarm" then w
  else if ev = "MobilePosition" then w
  else if ev = "presence" then w
  else w.endIfValid ssph

/-- The handle that `NotifyCatalog` collects for an entry. The push for the
device itself and for its parent is commented out. -/
def catalogTarget (w : CSubscriptionMrg) (myId devid parentid : String)
    (item : CatalogSubScription) : Option ServerSubscriptionHandle :=
  if item.deviceID = "" then
    if item.mSsph ∈ w.valid then some item.mSsph else none
  else if item.deviceID = myId then
    if item.mSsph ∈ w.valid then some item.mSsph else none
  else if item.deviceID = devid ∨ item.deviceID = parentid then
    if item.mSsph ∈ w.valid then none else none
  else none

/-- `CSubscriptionMrg::NotifyCatalog`: the NOTIFYs that it sends, with their
handles. -/
def notifyCatalog (w : CSubscriptionMrg) (myId content devid parentid : String) :
    List (ServerSubscriptionHandle × String) :=
  let vSubs := w.entries.filterMap (w.catalogTarget myId devid parentid)
  (vSubs.filter fun it => it ∈ w.valid).map fun it => (it, content)

@[simp] theorem removeSubscriptionHandle_valid (w : CSubscriptionMrg)
    (ssph : ServerSubscriptionHandle) : (w.removeSubscriptionHandle ssph).valid = w.valid := rfl

@[simp] theorem endHandle_valid (w : CSubscriptionMrg) (ssph : ServerSubscriptionHandle) :
    (w.endHandle ssph).valid = w.valid.erase ssph := rfl

@[simp] theorem endIfValid_valid (w : CSubscriptionMrg) (ssph : ServerSubscriptionHandle) :
    (w.endIfValid ssph).valid = w.valid.erase ssph := by
  unfold endIfValid
  split
  · rfl
  · rename_i hmem
    exact (Finset.erase_eq_of_notMem hmem).symm

@[simp] theorem deleteSubscription_valid (w : CSubscriptionMrg)
    (ssph : ServerSubscriptionHandle) :
    (w.deleteSubscription ssph).valid = w.valid.erase ssph := by
  simp [deleteSubscription]

/-- A subscription makes no handle valid, and the handle that the user had
before it is not valid any more. -/
theorem addCatalogSubscription_valid {w : CSubscriptionMrg} {user : String}
    {ssph h : ServerSubscriptionHandle} {eventtype : String} {catalog : GB28181XmlMsg}
    (hevent : eventtype = "Catalog" ∨ eventtype = "catalagitem")
    (hvalid : h ∈ (w.addCatalogSubscription user ssph eventtype catalog).1.valid) :
    h ∈ w.valid ∧ (h = ssph ∨ (w.catalogSubscriptionMap[user]?).map (·.mSsph) ≠ some h) := by
  rw [addCatalogSubscription, if_pos hevent] at hvalid
  cases hitem : w.catalogSubscriptionMap[user]? with
  | none =>
      rw [hitem] at hvalid
      exact ⟨hvalid, .inr (by simp)⟩
  | some item =>
      rw [hitem] at hvalid
      by_cases hsame : item.mSsph ∈ w.valid ∧ item.mSsph = ssph
      · simp only [if_pos hsame] at hvalid
        refine ⟨hvalid, ?_⟩
        by_cases hh : h = ssph
        · exact .inl hh
        · exact .inr (by simpa [hsame.2] using Ne.symm hh)
      · simp only [if_neg hsame, endIfValid_valid] at hvalid
        obtain ⟨hne, hmem⟩ := Finset.mem_erase.mp hvalid
        exact ⟨hmem, .inr (by simpa using Ne.symm hne)⟩

theorem addCatalogSubscription_ret {w : CSubscriptionMrg} {user : String}
    {ssph : ServerSubscriptionHandle} {eventtype : String} {catalog : GB28181XmlMsg}
    (hevent : eventtype = "Catalog" ∨ eventtype = "catalagitem") :
    (w.addCatalogSubscription user ssph eventtype catalog).2 = true := by
  rw [addCatalogSubscription, if_pos hevent]
  split
  · split <;> rfl
  · rfl

end CSubscriptionMrg

end SignalingServer
