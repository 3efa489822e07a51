import SignalingServer.Lib.Lts
import SignalingServer.Lib.Requests
import SignalingServer.Lib.Ring
import SignalingServer.Lib.Threads
import SignalingServer.MsgContentAnswers
import SignalingServer.UserAgent.UaInfo

/-!
The messages that the server pages (UaMessageMgr.cpp). The tasks that answer queries and the
heartbeats page from threads of their own; the stack answers every page once, at any time, and may
do so as soon as it is paged. `MsgCallIDs` has the call-id of a page from before it is sent until
its answer is reported. The task of a catalog query sleeps until it is gone and pages its next
message then; the others do not wait.
-/

namespace SignalingServer

open Lts MsgContentXml Requests

/-- `MsgCmdType` (uainfo.h), as far as messages of the type are paged. -/
inductive MsgCmdType where
  | unknown
  | catalog
  | recordInfo
  | deviceInfo
  | keepalive
  deriving DecidableEq, Repr

/-- The text of a message. -/
def OutMsg.text (msg : OutMsg) : String := content msg.document

/-- Where a thread is with its next message. -/
inductive PagePc where
  | ready
  /-- The call-id is in `MsgCallIDs`, and nothing is sent yet. -/
  | recorded (callID : String)
  /-- The loop over `findMsgCallID` behind the page. -/
  | waiting (callID : String)
  deriving DecidableEq, Repr

/-- A thread that pages messages, and how many of them it has paged. -/
structure PageThread where
  target : String
  cmdType : MsgCmdType
  waits : Bool
  messages : List String
  sent : Nat := 0
  pc : PagePc := .ready

/-- A message that has been paged: the number of its thread, and its place there. -/
structure PagedMessage where
  callID : String
  target : String
  cmdType : MsgCmdType
  content : String
  thread : Nat
  index : Nat

/-- A call of `PageMsgStateFun` for the answer to a page. -/
structure PageReport where
  page : PagedMessage
  cmdType : MsgCmdType
  reason : Int

/-- The members of `CUserMessageMrg` that pages share, the threads, what is paged and not answered,
and the calls of the callback. The stack knows which call-ids it has made. -/
structure CUserMessageMrg where
  msgCallIDs : Std.TreeMap String MsgCmdType
  mMsgSn : UInt32
  threads : List PageThread
  inFlight : List PagedMessage
  reports : List PageReport
  made : List String

inductive PageEvent where
  /-- `CatalogQueryResponseTask` has made its messages. -/
  | catalogQuery (target : String) (msgs : List CatalogResponse)
  /-- `RecordInfoQueryResponseTask` has made its messages. -/
  | recordInfoQuery (target : String) (msgs : List RecordInfoResponse)
  | deviceInfoQuery (target selfId user : String) (sn : UInt32)
  | sendHeart (ua : UaSessionInfo) (config : DevConfig) (now : Int)
  /-- A message is made, under this call-id, and the call-id is recorded. -/
  | record (i : Nat) (callID : String)
  | page (i : Nat)
  | findMsgCallID (i : Nat)
  /-- `onSuccess` or `onFailure` for one of the pages in flight. -/
  | answer (n : Nat) (reason : Int)

namespace CUserMessageMrg

def new : CUserMessageMrg where
  msgCallIDs := ∅
  mMsgSn := 1
  threads := []
  inFlight := []
  reports := []
  made := []

/-- `DeviceInfoQueryResponseTask`. -/
def deviceInfoQueryResponseTask (selfId user : String) (sn : UInt32) : List OutMsg :=
  if user = selfId then [.deviceInfo user sn ⟨"sipserver", "OK", "vsk", "901", "1.1.9", 1⟩] else []

def start (s : CUserMessageMrg) (target : String) (cmdType : MsgCmdType) (waits : Bool)
    (msgs : List OutMsg) : CUserMessageMrg :=
  { s with
    threads := s.threads ++
      [{ target := target, cmdType := cmdType, waits := waits, messages := msgs.map OutMsg.text }] }

/-- `PopMsgTypeByCallID`. -/
def popMsgTypeByCallID (s : CUserMessageMrg) (callID : String) : CUserMessageMrg × MsgCmdType :=
  ({ s with msgCallIDs := s.msgCallIDs.erase callID }, s.msgCallIDs[callID]?.getD .unknown)

def step : Step CUserMessageMrg PageEvent
  | s, .catalogQuery target msgs => some (s.start target .catalog true (msgs.map .catalog))
  | s, .recordInfoQuery target msgs =>
      some (s.start target .recordInfo false (msgs.map .recordInfo))
  | s, .deviceInfoQuery target selfId user sn =>
      some (s.start target .deviceInfo false (deviceInfoQueryResponseTask selfId user sn))
  | s, .sendHeart ua config now =>
      match (ua.sendHeart config now).2 with
      | [] => some s
      | _ => some ({ s with mMsgSn := s.mMsgSn + 1 }.start ua.toUri.user .keepalive false
          [.keepAlive ua.fromUri.user s.mMsgSn])
  | s, .record i callID =>
      (s.threads[i]?).bind fun t =>
        if t.pc = .ready ∧ t.sent < t.messages.length ∧ callID ∉ s.made then
          some { s with
            msgCallIDs := s.msgCallIDs.insert callID t.cmdType
            threads := s.threads.set i { t with pc := .recorded callID }
            made := s.made ++ [callID] }
        else none
  | s, .page i =>
      (s.threads[i]?).bind fun t =>
        match t.pc, t.messages[t.sent]? with
        | .recorded callID, some content =>
            some { s with
              threads := s.threads.set i
                { t with sent := t.sent + 1, pc := if t.waits then .waiting callID else .ready }
              inFlight := s.inFlight ++ [⟨callID, t.target, t.cmdType, content, i, t.sent⟩] }
        | _, _ => none
  | s, .findMsgCallID i =>
      (s.threads[i]?).bind fun t =>
        match t.pc with
        | .waiting callID =>
            if callID ∈ s.msgCallIDs then some s
            else some { s with threads := s.threads.set i { t with pc := .ready } }
        | _ => none
  | s, .answer n reason =>
      (s.inFlight[n]?).map fun p =>
        let (s', cmdType) := s.popMsgTypeByCallID p.callID
        { s' with
          inFlight := s.inFlight.eraseIdx n
          reports := s.reports ++ [⟨p, cmdType, reason⟩] }

/-! ### What a step can do -/

variable {s s' : CUserMessageMrg} {t : PageThread} {p : PagedMessage} {i n : Nat} {callID : String}

inductive Moves (s : CUserMessageMrg) : CUserMessageMrg → Prop
  | sleep : Moves s s
  | start (sn : UInt32) {t : PageThread} (hsent : t.sent = 0) (hpc : t.pc = .ready) :
      Moves s { s with mMsgSn := sn, threads := s.threads ++ [t] }
  | record {i : Nat} {t : PageThread} {callID : String} (ht : s.threads[i]? = some t)
      (hpc : t.pc = .ready) (hnew : callID ∉ s.made) :
      Moves s { s with
        msgCallIDs := s.msgCallIDs.insert callID t.cmdType
        threads := s.threads.set i { t with pc := .recorded callID }
        made := s.made ++ [callID] }
  | page {i : Nat} {t : PageThread} {callID content : String} (ht : s.threads[i]? = some t)
      (hpc : t.pc = .recorded callID) (hcontent : t.messages[t.sent]? = some content) :
      Moves s { s with
        threads := s.threads.set i
          { t with sent := t.sent + 1, pc := if t.waits then .waiting callID else .ready }
        inFlight := s.inFlight ++ [⟨callID, t.target, t.cmdType, content, i, t.sent⟩] }
  | resume {i : Nat} {t : PageThread} {callID : String} (ht : s.threads[i]? = some t)
      (hpc : t.pc = .waiting callID) (hgone : callID ∉ s.msgCallIDs) :
      Moves s { s with threads := s.threads.set i { t with pc := .ready } }
  | answer {n : Nat} {p : PagedMessage} (reason : Int) (hp : s.inFlight[n]? = some p) :
      Moves s { s with
        msgCallIDs := s.msgCallIDs.erase p.callID
        inFlight := s.inFlight.eraseIdx n
        reports := s.reports ++ [⟨p, s.msgCallIDs[p.callID]?.getD .unknown, reason⟩] }

theorem moves_of_step {e : PageEvent} (h : step s e = some s') : Moves s s' := by
  cases e with
  | catalogQuery => exact Option.some.inj h ▸ .start s.mMsgSn rfl rfl
  | recordInfoQuery => exact Option.some.inj h ▸ .start s.mMsgSn rfl rfl
  | deviceInfoQuery => exact Option.some.inj h ▸ .start s.mMsgSn rfl rfl
  | sendHeart ua config now =>
      rw [step] at h
      split at h
      · exact Option.some.inj h ▸ .sleep
      · exact Option.some.inj h ▸ .start (s.mMsgSn + 1) rfl rfl
  | record i callID =>
      obtain ⟨t, ht, h⟩ := Option.bind_eq_some_iff.mp h
      split at h
      next hready => exact Option.some.inj h ▸ .record ht hready.1 hready.2.2
      next => exact nomatch h
  | page i =>
      obtain ⟨t, ht, h⟩ := Option.bind_eq_some_iff.mp h
      split at h
      next hpc hcontent => exact Option.some.inj h ▸ .page ht hpc hcontent
      next => exact nomatch h
  | findMsgCallID i =>
      obtain ⟨t, ht, h⟩ := Option.bind_eq_some_iff.mp h
      split at h
      next callID hpc =>
        split at h
        next => exact Option.some.inj h ▸ .sleep
        next hgone => exact Option.some.inj h ▸ .resume ht hpc hgone
      next => exact nomatch h
  | answer n reason =>
      obtain ⟨p, hp, rfl⟩ := Option.map_eq_some_iff.mp h
      exact .answer reason hp

/-! ### Pages and call-ids -/

/-- The call-id that a thread has recorded and not paged yet. -/
def recorded (t : PageThread) : Option (String × MsgCmdType) :=
  match t.pc with
  | .recorded callID => some (callID, t.cmdType)
  | _ => none

/-- The entries that `MsgCallIDs` has to have. -/
def unanswered (s : CUserMessageMrg) : List (String × MsgCmdType) :=
  s.threads.filterMap recorded ++ s.inFlight.map fun p => (p.callID, p.cmdType)

/-- All pages, answered or not. -/
def pages (s : CUserMessageMrg) : List PagedMessage := s.inFlight ++ s.reports.map (·.page)

/-- The answered pages of a thread, in the order of their answers. -/
def answered (s : CUserMessageMrg) (i : Nat) : List PagedMessage :=
  (s.reports.map (·.page)).filter fun p => p.thread = i

/-- The call-ids that are in use or were used. -/
def callIDs (s : CUserMessageMrg) : List String :=
  (s.threads.filterMap recorded).map Prod.fst ++ s.pages.map (·.callID)

theorem recorded_eq_none (hpc : ∀ callID, t.pc ≠ .recorded callID) : recorded t = none := by
  rw [recorded]
  split
  next callID heq => exact absurd heq (hpc callID)
  next => rfl

theorem recorded_set {t' : PageThread} (ht : s.threads[i]? = some t)
    (hpc : ∀ callID, t.pc ≠ .recorded callID) (hpc' : ∀ callID, t'.pc ≠ .recorded callID) :
    ((s.threads.set i t').filterMap recorded).Perm (s.threads.filterMap recorded) := by
  have hperm := Threads.filterMap_set ht t' recorded
  rwa [recorded_eq_none hpc, recorded_eq_none hpc'] at hperm

/-- An answered page is among the pages of its thread. -/
theorem mem_answered : p ∈ s.answered i ↔ p ∈ s.reports.map (·.page) ∧ p.thread = i := by
  rw [answered, List.mem_filter, decide_eq_true_eq]

/-! ### The invariant -/

/-- The page is a message of its thread, with the type and the target of the thread. -/
def Carried (threads : List PageThread) (p : PagedMessage) : Prop :=
  ∃ t, threads[p.thread]? = some t ∧ p.index < t.sent ∧ t.messages[p.index]? = some p.content ∧
    p.cmdType = t.cmdType ∧ p.target = t.target

/-- The pages of a thread that waits are answered in order, with at most one more behind them. -/
def Lockstep (s : CUserMessageMrg) (i : Nat) (t : PageThread) : Prop :=
  ∃ k, (s.answered i).map (·.index) = List.range k ∧
    (t.sent = k ∨ (t.sent = k + 1 ∧
      ∃ p ∈ s.inFlight, p.thread = i ∧ p.index = k ∧ t.pc = .waiting p.callID))

/-- What becomes of the messages of the threads. -/
structure Delivery (s : CUserMessageMrg) : Prop where
  carried : ∀ p ∈ s.pages, Carried s.threads p
  complete : ∀ (i : Nat) (t : PageThread), s.threads[i]? = some t → ∀ k < t.sent,
    ∃ p ∈ s.pages, p.thread = i ∧ p.index = k
  once : (s.pages.map fun p => (p.thread, p.index)).Nodup
  waiting : ∀ (i : Nat) (t : PageThread) (callID : String), s.threads[i]? = some t →
    t.pc = .waiting callID → ∃ p ∈ s.pages, p.callID = callID
  lockstep : ∀ (i : Nat) (t : PageThread), s.threads[i]? = some t → t.waits = true → s.Lockstep i t

/-- What holds of the call-ids. -/
structure CallIDs (s : CUserMessageMrg) : Prop where
  table : Holds s.msgCallIDs s.unanswered
  distinct : s.callIDs.Nodup
  made : ∀ callID ∈ s.callIDs, callID ∈ s.made
  reported : ∀ r ∈ s.reports, r.cmdType = r.page.cmdType

structure Inv (s : CUserMessageMrg) : Prop extends Delivery s, CallIDs s

theorem inv_new : Inv new where
  carried := fun _ h => nomatch h
  complete := fun _ _ h => nomatch h
  once := List.nodup_nil
  waiting := fun _ _ _ h => nomatch h
  lockstep := fun _ _ h => nomatch h
  table := holds_empty
  distinct := List.nodup_nil
  made := fun _ h => nomatch h
  reported := fun _ h => nomatch h

/-! ### Messages -/

theorem Carried.append {threads : List PageThread} (h : Carried threads p) (t : PageThread) :
    Carried (threads ++ [t]) p := by
  obtain ⟨t', ht', hmessage⟩ := h
  refine ⟨t', ?_, hmessage⟩
  rw [List.getElem?_append_left (List.getElem?_eq_some_iff.mp ht').1, ht']

/-- A step of a thread that keeps its messages. -/
theorem Carried.set {threads : List PageThread} (h : Carried threads p) {t' : PageThread}
    (ht : threads[i]? = some t) (hmessages : t'.messages = t.messages)
    (hcmdType : t'.cmdType = t.cmdType) (htarget : t'.target = t.target)
    (hsent : t.sent ≤ t'.sent) : Carried (threads.set i t') p := by
  obtain ⟨t₀, ht₀, hindex, hcontent, hcmdType', htarget'⟩ := h
  by_cases heq : p.thread = i
  · rw [heq, ht] at ht₀
    obtain rfl := Option.some.inj ht₀
    have hlen : i < threads.length := (List.getElem?_eq_some_iff.mp ht).1
    refine ⟨t', ?_, hindex.trans_le hsent, hmessages ▸ hcontent, hcmdType ▸ hcmdType',
      htarget ▸ htarget'⟩
    rw [heq, List.getElem?_set_self hlen]
  · refine ⟨t₀, ?_, hindex, hcontent, hcmdType', htarget'⟩
    rw [List.getElem?_set_ne (Ne.symm heq), ht₀]

/-- The only open page of a thread that waits is the one it waits for. -/
theorem Delivery.open_page (h : Delivery s) (ht : s.threads[i]? = some t)
    (hwaits : t.waits = true) (hp : p ∈ s.inFlight) (hthread : p.thread = i) :
    (s.answered i).map (·.index) = List.range p.index ∧ t.sent = p.index + 1 ∧
      t.pc = .waiting p.callID := by
  obtain ⟨k, hanswered, hsent⟩ := h.lockstep i t ht hwaits
  obtain ⟨t', ht', hindex, -⟩ := h.carried p (List.mem_append_left _ hp)
  rw [hthread, ht] at ht'
  obtain rfl := Option.some.inj ht'
  have honce := h.once
  rw [pages, List.map_append, List.nodup_append'] at honce
  have hopen : ¬ p.index < k := by
    intro hlt
    have hmem : p.index ∈ (s.answered i).map (·.index) := hanswered ▸ List.mem_range.mpr hlt
    obtain ⟨q, hq, heq⟩ := List.mem_map.mp hmem
    obtain ⟨hreport, hq⟩ := mem_answered.mp hq
    refine honce.2.2 (List.mem_map_of_mem hp) ?_
    rw [hthread, ← heq, ← hq]
    exact List.mem_map_of_mem hreport
  rcases hsent with hsent | ⟨hsent, q, hq, hqthread, hqindex, hpc⟩
  · omega
  · have hk : p.index = k := by omega
    have heq : p = q := by
      refine List.inj_on_of_nodup_map honce.1 hp hq ?_
      rw [hthread, hqthread, hk, hqindex]
    rw [hk, heq]
    exact ⟨hanswered, hsent, hpc⟩

/-- A thread that waits and is not behind an open page has none. -/
theorem Delivery.answered_of_pc (h : Delivery s) (ht : s.threads[i]? = some t)
    (hwaits : t.waits = true) (hpc : ∀ p ∈ s.inFlight, t.pc ≠ .waiting p.callID) :
    (s.answered i).map (·.index) = List.range t.sent := by
  obtain ⟨k, hanswered, hsent | ⟨-, p, hp, -, -, hwaiting⟩⟩ := h.lockstep i t ht hwaits
  · rw [hsent, hanswered]
  · exact absurd hwaiting (hpc p hp)

theorem Delivery.start (h : Delivery s) (sn : UInt32) (hsent : t.sent = 0) (hpc : t.pc = .ready) :
    Delivery { s with mMsgSn := sn, threads := s.threads ++ [t] } where
  carried p hp := (h.carried p hp).append t
  complete i t' ht' k hk := by
    rcases Ring.getElem?_concat_cases ht' with ⟨-, hold⟩ | ⟨-, rfl⟩
    · exact h.complete i t' hold k hk
    · omega
  once := h.once
  waiting i t' callID ht' hwaiting := by
    rcases Ring.getElem?_concat_cases ht' with ⟨-, hold⟩ | ⟨-, rfl⟩
    · exact h.waiting i t' callID hold hwaiting
    · exact nomatch hpc.symm.trans hwaiting
  lockstep i t' ht' hwaits := by
    rcases Ring.getElem?_concat_cases ht' with ⟨-, hold⟩ | ⟨hlast, rfl⟩
    · exact h.lockstep i t' hold hwaits
    · refine ⟨0, ?_, .inl hsent⟩
      have hnone : s.answered i = [] := by
        refine List.filter_eq_nil_iff.mpr fun p hp => ?_
        obtain ⟨t₀, ht₀, -⟩ := h.carried p (List.mem_append_right _ hp)
        have hlt := (List.getElem?_eq_some_iff.mp ht₀).1
        rw [decide_eq_true_eq]
        omega
      exact congrArg (List.map (·.index)) hnone

/-- A thread goes on to another place without a page. -/
theorem Delivery.set_pc (h : Delivery s) (ht : s.threads[i]? = some t) {pc : PagePc}
    (hpc : ∀ callID, pc ≠ .waiting callID)
    (hopen : t.waits = true → ∀ p ∈ s.inFlight, t.pc ≠ .waiting p.callID)
    (hthreads : s'.threads = s.threads.set i { t with pc := pc })
    (hflight : s'.inFlight = s.inFlight) (hreports : s'.reports = s.reports) : Delivery s' where
  carried p hp := by
    rw [hthreads]
    rw [pages, hflight, hreports] at hp
    exact (h.carried p hp).set ht rfl rfl rfl le_rfl
  complete j t' ht' k hk := by
    rw [hthreads] at ht'
    rw [pages, hflight, hreports]
    rcases Threads.getElem?_set_cases ht' with ⟨rfl, rfl⟩ | ⟨-, hold⟩
    · exact h.complete j t ht k hk
    · exact h.complete j t' hold k hk
  once := by
    rw [pages, hflight, hreports]
    exact h.once
  waiting j t' callID ht' hwaiting := by
    rw [hthreads] at ht'
    rw [pages, hflight, hreports]
    rcases Threads.getElem?_set_cases ht' with ⟨rfl, rfl⟩ | ⟨-, hold⟩
    · exact absurd hwaiting (hpc callID)
    · exact h.waiting j t' callID hold hwaiting
  lockstep j t' ht' hwaits := by
    rw [hthreads] at ht'
    rw [Lockstep, answered, hflight, hreports]
    rcases Threads.getElem?_set_cases ht' with ⟨rfl, rfl⟩ | ⟨-, hold⟩
    · exact ⟨t.sent, h.answered_of_pc ht hwaits (hopen hwaits), .inl rfl⟩
    · exact h.lockstep j t' hold hwaits

theorem pages_page (hflight : s'.inFlight = s.inFlight ++ [p]) (hreports : s'.reports = s.reports) :
    s'.pages.Perm (p :: s.pages) := by
  rw [pages, pages, hflight, hreports, List.append_assoc]
  exact List.perm_middle

/-- The next message of a thread is paged. -/
theorem Delivery.page (h : Delivery s) (ht : s.threads[i]? = some t)
    (hpc : t.pc = .recorded callID) {content : String}
    (hcontent : t.messages[t.sent]? = some content)
    (hthreads : s'.threads = s.threads.set i
      { t with sent := t.sent + 1, pc := if t.waits then .waiting callID else .ready })
    (hflight : s'.inFlight = s.inFlight ++ [⟨callID, t.target, t.cmdType, content, i, t.sent⟩])
    (hreports : s'.reports = s.reports) : Delivery s' := by
  have hlen : i < s.threads.length := (List.getElem?_eq_some_iff.mp ht).1
  have hpages := pages_page hflight hreports
  have hold {q : PagedMessage} (hq : q ∈ s.pages) : q ∈ s'.pages :=
    hpages.mem_iff.mpr (List.mem_cons_of_mem _ hq)
  have hnew := hpages.mem_iff.mpr List.mem_cons_self
  constructor
  case carried =>
    intro q hq
    rw [hthreads]
    rcases List.mem_cons.mp (hpages.mem_iff.mp hq) with rfl | hq
    · exact ⟨_, List.getElem?_set_self hlen, Nat.lt_succ_self _, hcontent, rfl, rfl⟩
    · exact (h.carried q hq).set ht rfl rfl rfl (Nat.le_succ _)
  case complete =>
    intro j t' ht' k hk
    rw [hthreads] at ht'
    rcases Threads.getElem?_set_cases ht' with ⟨rfl, rfl⟩ | ⟨-, hthread⟩
    · obtain hlt | rfl := Nat.lt_succ_iff_lt_or_eq.mp hk
      · obtain ⟨q, hq, hplace⟩ := h.complete j t ht k hlt
        exact ⟨q, hold hq, hplace⟩
      · exact ⟨_, hnew, rfl, rfl⟩
    · obtain ⟨q, hq, hplace⟩ := h.complete j t' hthread k hk
      exact ⟨q, hold hq, hplace⟩
  case once =>
    refine (hpages.map fun q => (q.thread, q.index)).nodup_iff.mpr ?_
    refine List.nodup_cons.mpr ⟨?_, h.once⟩
    intro hmem
    obtain ⟨q, hq, heq⟩ := List.mem_map.mp hmem
    obtain ⟨hthread, hindex⟩ := Prod.mk.inj heq
    obtain ⟨t', ht', hlt, -⟩ := h.carried q hq
    rw [hthread, ht] at ht'
    obtain rfl := Option.some.inj ht'
    exact absurd hindex (Nat.ne_of_lt hlt)
  case waiting =>
    intro j t' callID' ht' hwaiting
    rw [hthreads] at ht'
    rcases Threads.getElem?_set_cases ht' with ⟨rfl, rfl⟩ | ⟨-, hthread⟩
    · refine ⟨_, hnew, ?_⟩
      dsimp only at hwaiting
      split at hwaiting
      · exact PagePc.waiting.inj hwaiting
      · exact nomatch hwaiting
    · obtain ⟨q, hq, hid⟩ := h.waiting j t' callID' hthread hwaiting
      exact ⟨q, hold hq, hid⟩
  case lockstep =>
    intro j t' ht' hwaits
    rw [hthreads] at ht'
    rw [Lockstep, answered, hflight, hreports]
    rcases Threads.getElem?_set_cases ht' with ⟨rfl, rfl⟩ | ⟨-, hthread⟩
    · have hanswered := h.answered_of_pc ht hwaits fun _ _ heq => nomatch hpc.symm.trans heq
      exact ⟨t.sent, hanswered, .inr ⟨rfl, _, List.mem_append_right _ List.mem_cons_self, rfl, rfl,
        if_pos hwaits⟩⟩
    · obtain ⟨k, hanswered, hsent | ⟨hsent, q, hq, hplace⟩⟩ := h.lockstep j t' hthread hwaits
      · exact ⟨k, hanswered, .inl hsent⟩
      · exact ⟨k, hanswered, .inr ⟨hsent, q, List.mem_append_left _ hq, hplace⟩⟩

theorem inFlight_perm (hp : s.inFlight[n]? = some p) :
    s.inFlight.Perm (p :: s.inFlight.eraseIdx n) := by
  obtain ⟨hn, rfl⟩ := List.getElem?_eq_some_iff.mp hp
  exact (List.getElem_cons_eraseIdx_perm hn).symm

/-- An answer makes no page and takes none away. -/
theorem pages_answer (hp : s.inFlight[n]? = some p) {report : PageReport} (hpage : report.page = p)
    (hflight : s'.inFlight = s.inFlight.eraseIdx n)
    (hreports : s'.reports = s.reports ++ [report]) : s'.pages.Perm s.pages := by
  rw [pages, pages, hflight, hreports, List.map_append, List.map_singleton, hpage]
  refine List.Perm.trans ?_ ((inFlight_perm hp).symm.append_right _)
  rw [← List.append_assoc]
  exact List.perm_append_singleton ..

/-- A page is answered. -/
theorem Delivery.answer (h : Delivery s) (hp : s.inFlight[n]? = some p) {report : PageReport}
    (hpage : report.page = p) (hthreads : s'.threads = s.threads)
    (hflight : s'.inFlight = s.inFlight.eraseIdx n)
    (hreports : s'.reports = s.reports ++ [report]) : Delivery s' := by
  have hpages := pages_answer hp hpage hflight hreports
  have hmem : p ∈ s.inFlight := List.mem_of_getElem? hp
  have hanswered (i : Nat) : s'.answered i =
      s.answered i ++ if p.thread = i then [p] else [] := by
    rw [answered, answered, hreports, List.map_append, List.filter_append, List.map_singleton,
      hpage]
    by_cases hthread : p.thread = i <;> simp [hthread]
  constructor
  case carried =>
    rw [hthreads]
    exact fun q hq => h.carried q (hpages.mem_iff.mp hq)
  case complete =>
    rw [hthreads]
    intro j t ht k hk
    obtain ⟨q, hq, hplace⟩ := h.complete j t ht k hk
    exact ⟨q, hpages.mem_iff.mpr hq, hplace⟩
  case once => exact (hpages.map fun q => (q.thread, q.index)).nodup_iff.mpr h.once
  case waiting =>
    rw [hthreads]
    intro j t callID ht hwaiting
    obtain ⟨q, hq, hid⟩ := h.waiting j t callID ht hwaiting
    exact ⟨q, hpages.mem_iff.mpr hq, hid⟩
  case lockstep =>
    rw [hthreads]
    intro j t ht hwaits
    rw [Lockstep, hanswered, hflight, List.map_append]
    by_cases hthread : p.thread = j
    · obtain ⟨hbefore, hsent, -⟩ := h.open_page ht hwaits hmem hthread
      refine ⟨p.index + 1, ?_, .inl hsent⟩
      rw [if_pos hthread, hbefore, List.range_succ, List.map_singleton]
    · rw [if_neg hthread, List.map_nil, List.append_nil]
      obtain ⟨k, hbefore, hsent | ⟨hsent, q, hq, hqthread, hplace⟩⟩ := h.lockstep j t ht hwaits
      · exact ⟨k, hbefore, .inl hsent⟩
      · rcases List.mem_cons.mp ((inFlight_perm hp).mem_iff.mp hq) with rfl | hq
        · exact absurd hqthread hthread
        · exact ⟨k, hbefore, .inr ⟨hsent, q, hq, hqthread, hplace⟩⟩

/-! ### Call-ids -/

theorem CallIDs.start (h : CallIDs s) (sn : UInt32) (hpc : t.pc = .ready) :
    CallIDs { s with mMsgSn := sn, threads := s.threads ++ [t] } := by
  have hrecorded : (s.threads ++ [t]).filterMap recorded = s.threads.filterMap recorded := by
    have hnone : recorded t = none := recorded_eq_none fun callID heq => nomatch hpc.symm.trans heq
    rw [List.filterMap_append, List.filterMap_cons_none hnone, List.filterMap_nil, List.append_nil]
  constructor
  case table =>
    rw [unanswered, hrecorded]
    exact h.table
  case distinct =>
    rw [callIDs, hrecorded]
    exact h.distinct
  case made =>
    rw [callIDs, hrecorded]
    exact h.made
  case reported => exact h.reported

/-- A call-id is recorded. The stack has not made it before. -/
theorem CallIDs.record (h : CallIDs s) (ht : s.threads[i]? = some t) (hpc : t.pc = .ready)
    (hnew : callID ∉ s.made) :
    CallIDs { s with
      msgCallIDs := s.msgCallIDs.insert callID t.cmdType
      threads := s.threads.set i { t with pc := .recorded callID }
      made := s.made ++ [callID] } := by
  have hrecorded : ((s.threads.set i { t with pc := .recorded callID }).filterMap recorded).Perm
      ((callID, t.cmdType) :: s.threads.filterMap recorded) := by
    have hnone : recorded t = none := recorded_eq_none fun callID heq => nomatch hpc.symm.trans heq
    have hperm := Threads.filterMap_set ht { t with pc := .recorded callID } recorded
    rwa [hnone] at hperm
  have hfresh : callID ∉ s.callIDs := fun hmem => hnew (h.made callID hmem)
  have hids := (hrecorded.map Prod.fst).append_right (s.pages.map (·.callID))
  constructor
  case table =>
    refine Holds.perm (h.table.insert (fun hmem => hfresh ?_) t.cmdType)
      (hrecorded.append_right _).symm
    rw [unanswered, List.map_append] at hmem
    refine List.mem_append.mpr ((List.mem_append.mp hmem).imp_right fun hmem => ?_)
    rw [pages, List.map_append]
    rw [List.map_map] at hmem
    exact List.mem_append_left _ hmem
  case distinct => exact hids.nodup_iff.mpr (List.nodup_cons.mpr ⟨hfresh, h.distinct⟩)
  case made =>
    intro callID' hmem
    rcases List.mem_cons.mp (hids.mem_iff.mp hmem) with rfl | hmem
    · exact List.mem_append_right _ List.mem_cons_self
    · exact List.mem_append_left _ (h.made callID' hmem)
  case reported => exact h.reported

/-- A call-id that was recorded is now that of a page. -/
theorem CallIDs.page (h : CallIDs s) (ht : s.threads[i]? = some t)
    (hpc : t.pc = .recorded callID) {t' : PageThread} (hpc' : ∀ callID, t'.pc ≠ .recorded callID)
    (hid : p.callID = callID) (hcmdType : p.cmdType = t.cmdType) :
    CallIDs { s with threads := s.threads.set i t', inFlight := s.inFlight ++ [p] } := by
  have hrecorded : (s.threads.filterMap recorded).Perm
      ((callID, t.cmdType) :: (s.threads.set i t').filterMap recorded) := by
    have hsome : recorded t = some (callID, t.cmdType) := by rw [recorded, hpc]
    have hperm := Threads.filterMap_set ht t' recorded
    rw [hsome, recorded_eq_none hpc'] at hperm
    exact hperm.symm
  have hids : s.callIDs.Perm (callIDs
      { s with threads := s.threads.set i t', inFlight := s.inFlight ++ [p] }) := by
    have hpages : (pages { s with
        threads := s.threads.set i t', inFlight := s.inFlight ++ [p] }).Perm (p :: s.pages) :=
      pages_page rfl rfl
    have hmiddle := (hpages.map (·.callID)).symm
    rw [List.map_cons, hid] at hmiddle
    refine ((hrecorded.map Prod.fst).append_right _).trans ?_
    exact List.perm_middle.symm.trans (hmiddle.append_left _)
  constructor
  case table =>
    refine h.table.perm ((hrecorded.append_right _).trans ?_)
    rw [unanswered, List.map_append, List.map_singleton, hid, hcmdType, ← List.append_assoc]
    exact (List.perm_append_singleton ..).symm
  case distinct => exact hids.nodup_iff.mp h.distinct
  case made => exact fun callID' hmem => h.made callID' (hids.mem_iff.mpr hmem)
  case reported => exact h.reported

theorem CallIDs.resume (h : CallIDs s) (ht : s.threads[i]? = some t)
    (hpc : t.pc = .waiting callID) :
    CallIDs { s with threads := s.threads.set i { t with pc := .ready } } := by
  have hrecorded : ((s.threads.set i { t with pc := .ready }).filterMap recorded).Perm
      (s.threads.filterMap recorded) :=
    recorded_set ht (fun _ heq => nomatch hpc.symm.trans heq) fun _ heq => nomatch heq
  have hids := (hrecorded.map Prod.fst).append_right (s.pages.map (·.callID))
  constructor
  case table => exact h.table.perm (hrecorded.append_right _).symm
  case distinct => exact hids.nodup_iff.mpr h.distinct
  case made => exact fun callID' hmem => h.made callID' (hids.mem_iff.mp hmem)
  case reported => exact h.reported

/-- The answer takes out the call-id of its own page, with the type that the page has. -/
theorem CallIDs.answer (h : CallIDs s) (hp : s.inFlight[n]? = some p) (reason : Int) :
    CallIDs { s with
      msgCallIDs := s.msgCallIDs.erase p.callID
      inFlight := s.inFlight.eraseIdx n
      reports := s.reports ++ [⟨p, s.msgCallIDs[p.callID]?.getD .unknown, reason⟩] } := by
  have hopen : s.unanswered.Perm ((p.callID, p.cmdType) :: (s.threads.filterMap recorded ++
      (s.inFlight.eraseIdx n).map fun p => (p.callID, p.cmdType))) := by
    refine (((inFlight_perm hp).map fun p => (p.callID, p.cmdType)).append_left _).trans ?_
    exact List.perm_middle
  have hids : (callIDs { s with
      msgCallIDs := s.msgCallIDs.erase p.callID
      inFlight := s.inFlight.eraseIdx n
      reports := s.reports ++ [⟨p, s.msgCallIDs[p.callID]?.getD .unknown, reason⟩] }).Perm
      s.callIDs :=
    ((pages_answer hp rfl rfl rfl).map (·.callID)).append_left _
  have htable := h.table.perm hopen
  constructor
  case table => exact htable.erase
  case distinct => exact hids.nodup_iff.mpr h.distinct
  case made => exact fun callID' hmem => h.made callID' (hids.mem_iff.mp hmem)
  case reported =>
    intro r hr
    rcases List.mem_append.mp hr with hr | hr
    · exact h.reported r hr
    · obtain rfl := List.mem_singleton.mp hr
      rw [htable.getElem?]
      rfl

/-! ### Runs -/

theorem Inv.moves (h : Inv s) (hmoves : Moves s s') : Inv s' := by
  cases hmoves with
  | sleep => exact h
  | start sn hsent hpc => exact ⟨h.toDelivery.start sn hsent hpc, h.toCallIDs.start sn hpc⟩
  | record ht hpc hnew =>
      refine ⟨h.toDelivery.set_pc ht ?_ ?_ rfl rfl rfl, h.toCallIDs.record ht hpc hnew⟩
      · exact fun _ heq => nomatch heq
      · exact fun _ _ _ heq => nomatch hpc.symm.trans heq
  | page ht hpc hcontent =>
      refine ⟨h.toDelivery.page ht hpc hcontent rfl rfl rfl,
        h.toCallIDs.page ht hpc (fun callID heq => ?_) rfl rfl⟩
      dsimp only at heq
      split at heq <;> exact nomatch heq
  | @resume i t callID ht hpc hgone =>
      refine ⟨h.toDelivery.set_pc ht ?_ ?_ rfl rfl rfl, h.toCallIDs.resume ht hpc⟩
      · exact fun _ heq => nomatch heq
      · -- a page with this call-id would have kept it in the map
        intro _ p hp heq
        obtain rfl := PagePc.waiting.inj (hpc.symm.trans heq)
        refine hgone (h.table.mem_iff.mpr (List.mem_map.mpr ⟨(p.callID, p.cmdType), ?_, rfl⟩))
        exact List.mem_append_right _ (List.mem_map_of_mem hp)
  | answer reason hp =>
      exact ⟨h.toDelivery.answer hp rfl rfl rfl rfl, h.toCallIDs.answer hp reason⟩

/-- What holds of the pages in every state. -/
structure Orderly (s : CUserMessageMrg) : Prop where
  /-- The map has the call-ids of the pages that are not answered, with their types, and those that
  are about to be paged. -/
  table : ∀ callID cmdType, s.msgCallIDs[callID]? = some cmdType ↔
    (callID, cmdType) ∈ s.unanswered
  /-- Every answer is reported with the type of the message it is for. -/
  reported : ∀ r ∈ s.reports, r.cmdType = r.page.cmdType
  /-- No two pages have the same call-id, and no message is paged twice. -/
  once : (s.pages.map (·.callID)).Nodup ∧ (s.pages.map fun p => (p.thread, p.index)).Nodup
  /-- The pages are the messages of the threads that have been paged. -/
  carried : ∀ p ∈ s.pages, Carried s.threads p
  complete : ∀ (i : Nat) (t : PageThread), s.threads[i]? = some t → ∀ k < t.sent,
    ∃ p ∈ s.pages, p.thread = i ∧ p.index = k
  /-- A thread that waits pages a message when those before it are answered, in order. -/
  lockstep : ∀ (i : Nat) (t : PageThread), s.threads[i]? = some t → t.waits = true →
    (s.answered i).map (·.content) = t.messages.take (s.answered i).length ∧
      t.sent ≤ (s.answered i).length + 1
  /-- It sleeps as long as its page is not answered, and no longer. -/
  wakes : ∀ (i : Nat) (t : PageThread) (callID : String), s.threads[i]? = some t →
    t.pc = .waiting callID → (callID ∈ s.msgCallIDs ↔ ∃ p ∈ s.inFlight, p.callID = callID)

theorem Delivery.contents (h : Delivery s) (ht : s.threads[i]? = some t)
    (hwaits : t.waits = true) :
    (s.answered i).map (·.content) = t.messages.take (s.answered i).length ∧
      t.sent ≤ (s.answered i).length + 1 := by
  obtain ⟨k, hanswered, hsent⟩ := h.lockstep i t ht hwaits
  have hlength : (s.answered i).length = k := by
    rw [← List.length_map (·.index), hanswered, List.length_range]
  refine ⟨List.ext_getElem? fun n => ?_, ?_⟩
  · rw [List.getElem?_map]
    by_cases hn : n < k
    · obtain ⟨p, hp⟩ : ∃ p, (s.answered i)[n]? = some p :=
        ⟨_, List.getElem?_eq_getElem (hlength ▸ hn)⟩
      have hindex : p.index = n := by
        have hget := congrArg (fun l => l[n]?) hanswered
        rw [List.getElem?_map, hp, List.getElem?_range hn] at hget
        exact Option.some.inj hget
      obtain ⟨hreport, hthread⟩ := mem_answered.mp (List.mem_of_getElem? hp)
      obtain ⟨t', ht', -, hcontent, -⟩ := h.carried p (List.mem_append_right _ hreport)
      rw [hthread, ht] at ht'
      obtain rfl := Option.some.inj ht'
      rw [hp, hlength, List.getElem?_take_of_lt hn, ← hindex, hcontent, Option.map_some]
    · rw [List.getElem?_eq_none (by omega), List.getElem?_take_eq_none (by omega), Option.map_none]
  · rcases hsent with hsent | ⟨hsent, -⟩ <;> omega

theorem Inv.wakes (h : Inv s) (ht : s.threads[i]? = some t) (hpc : t.pc = .waiting callID) :
    callID ∈ s.msgCallIDs ↔ ∃ p ∈ s.inFlight, p.callID = callID := by
  rw [h.table.mem_iff, unanswered, List.map_append, List.mem_append, List.map_map]
  constructor
  · rintro (hrecorded | hopen)
    · -- a call-id that is recorded is that of no page
      obtain ⟨p, hp, hid⟩ := h.waiting i t callID ht hpc
      have hdistinct := h.distinct
      rw [callIDs, List.nodup_append'] at hdistinct
      exact absurd (List.mem_map.mpr ⟨p, hp, hid⟩) (hdistinct.2.2 hrecorded)
    · obtain ⟨p, hp, hid⟩ := List.mem_map.mp hopen
      exact ⟨p, hp, hid⟩
  · rintro ⟨p, hp, hid⟩
    exact .inr (List.mem_map.mpr ⟨p, hp, hid⟩)

theorem Inv.orderly (h : Inv s) : Orderly s where
  table := h.table.entry
  reported := h.reported
  once := ⟨(List.nodup_append'.mp h.distinct).2.1, h.once⟩
  carried := h.carried
  complete := h.complete
  lockstep _ _ ht hwaits := h.toDelivery.contents ht hwaits
  wakes _ _ _ ht hpc := h.wakes ht hpc

/-- In every order of queries, heartbeats, pages and answers: no answer is lost, reported twice or
reported for another message, and the messages of a catalog arrive one after the other. -/
theorem pages_orderly (events : List PageEvent) : Along step Orderly new events := by
  have hpreserves : Preserves step (fun _ _ => True) Inv :=
    fun _ _ _ h _ hstep => h.moves (moves_of_step hstep)
  refine (hpreserves.along inv_new ?_).mono fun _ h => h.orderly
  exact guarded_of_forall (fun _ _ => trivial) new events

end CUserMessageMrg

end SignalingServer
