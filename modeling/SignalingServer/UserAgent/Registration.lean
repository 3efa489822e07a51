import SignalingServer.Lib.Lts
import SignalingServer.UserAgent.UaInfo

/-!
Registration with the parent platforms. The thread that runs `DoRegist` sends
the REGISTER of a platform before it inserts the platform's session into
`UserAgentInfoMap`, and the DUM thread looks the session of an answer up by its
call-id. The two threads are modelled as one transition system whose labels are
the sends, the insertions and the deliveries of answers.
-/

namespace SignalingServer

open Lts

/-- `UaMgr::UserAgentInfoMap`, from user parts to sessions. -/
abbrev UserAgentInfoMap := Std.TreeMap String UaSessionInfo

namespace UserAgentInfoMap

/-- `UaMgr::GetUaInfoByUser`. -/
def getUaInfoByUser (m : UserAgentInfoMap) (user : String) : Option UaSessionInfo :=
  m[user]?

/-- `UaMgr::GetUaInfoByCallID`: the first session in key order that carries the
call-id, with the key it is stored under. -/
def getUaInfoByCallID (m : UserAgentInfoMap) (callID : String) :
    Option (String × UaSessionInfo) :=
  m.toList.find? fun item => item.2.regcallid == callID

theorem getUaInfoByCallID_eq_some {m : UserAgentInfoMap} {callID user : String}
    {ua : UaSessionInfo} (h : m.getUaInfoByCallID callID = some (user, ua)) :
    m[user]? = some ua ∧ ua.regcallid = callID := by
  have hmem := List.mem_of_find?_eq_some h
  have hp := List.find?_some h
  exact ⟨Std.TreeMap.mem_toList_iff_getElem?_eq_some.mp hmem, by simpa using hp⟩

theorem getUaInfoByCallID_eq_none {m : UserAgentInfoMap} {callID : String}
    (h : m.getUaInfoByCallID callID = none) {user : String} {ua : UaSessionInfo}
    (hua : m[user]? = some ua) : ua.regcallid ≠ callID := by
  have hmem := Std.TreeMap.mem_toList_iff_getElem?_eq_some.mpr hua
  simpa using List.find?_eq_none.mp h (user, ua) hmem

/-- `UaMgr::RegistStateCallBack`: a session with the call-id takes the answer
over, and an answer nobody waits for gets its bindings removed. -/
def registStateCallBack (m : UserAgentInfoMap) (callID : String)
    (h : ClientRegistrationHandle) (reason : Int) : UserAgentInfoMap × List UaOutput :=
  match m.getUaInfoByCallID callID with
  | some (user, ua) => (m.insert user (ua.registState h reason), [])
  | none => (m, [.removeMyBindings h])

end UserAgentInfoMap

/-- A parent platform, as the arguments of `DoRegist` name it. -/
structure Platform where
  target : Uri
  passwd : String
  defaultSesName : String
  deriving DecidableEq, Repr

/-- The two agents of the registration: the platforms that remain for the
thread running `DoRegist`, its local `uaSession` between the send and the
insertion, the shared map, and what has been handed to the DUM and answered. -/
structure Registering where
  defaultFrom : Uri
  uaMap : UserAgentInfoMap
  todo : List Platform
  uaSession : Option UaSessionInfo
  log : List UaOutput
  answered : List String

/-- The events of a registration run. -/
inductive RegistEvent where
  /-- `DoRegist` is entered for the next platform and runs up to the insertion;
  the stack would choose `callId` for its REGISTER. -/
  | send (callId : String)
  /-- `DoRegist` inserts its session into `UserAgentInfoMap`. -/
  | insert
  /-- The DUM thread delivers a 200 OK for a REGISTER that was sent. -/
  | ok (callId : String) (h : ClientRegistrationHandle)
  deriving DecidableEq, Repr

namespace Registering

/-- The process before the first `DoRegist`. -/
def start (defaultFrom : Uri) (platforms : List Platform) : Registering where
  defaultFrom := defaultFrom
  uaMap := ∅
  todo := platforms
  uaSession := none
  log := []
  answered := []

/-- A REGISTER with this call-id was sent. -/
abbrev Sent (s : Registering) (callId : String) : Prop := .register callId ∈ s.log

/-- `UaMgr::DoRegist` up to the insertion into the map. -/
def doRegist (s : Registering) (p : Platform) (callId : String) : Registering :=
  match s.uaMap.getUaInfoByUser p.target.user with
  | some _ => s
  | none =>
      let uaSession : UaSessionInfo :=
        { toUri := p.target, fromUri := s.defaultFrom, passwd := p.passwd,
          ssName := p.defaultSesName }
      let (ua, out) := uaSession.regist callId
      { s with uaSession := some ua, log := s.log ++ [out] }

/-- The insertion at the end of `UaMgr::DoRegist`. -/
def insertSession (s : Registering) (ua : UaSessionInfo) : Registering :=
  { s with uaMap := s.uaMap.insert ua.toUri.user ua, uaSession := none }

/-- `UaMgr::onSuccess` for a 200 OK, as far as the sessions are concerned. -/
def onSuccess (s : Registering) (callId : String) (h : ClientRegistrationHandle) :
    Registering :=
  let (uaMap, out) := s.uaMap.registStateCallBack callId h 200
  { s with uaMap := uaMap, log := s.log ++ out, answered := callId :: s.answered }

/-- One event of either agent. Call-ids are chosen fresh by the stack. -/
def step : Step Registering RegistEvent
  | s, .send callId =>
      match s.todo, s.uaSession with
      | p :: rest, none =>
          if s.Sent callId then none else some { s.doRegist p callId with todo := rest }
      | _, _ => none
  | s, .insert => s.uaSession.map s.insertSession
  | s, .ok callId h => if s.Sent callId then some (s.onSuccess callId h) else none

/-- What the registration promises of a state: no bindings were removed, and
every session in the map whose REGISTER was answered is registered. -/
structure Safe (s : Registering) : Prop where
  bindings : ∀ h, .removeMyBindings h ∉ s.log
  registered : ∀ (user : String) (ua : UaSessionInfo), s.uaMap[user]? = some ua →
    ua.regcallid ∈ s.answered → ua.iState = 200

/-- An answer is taken only once `DoRegist` is past the insertion of the session
it belongs to. -/
def AfterInsertion (s : Registering) : RegistEvent → Prop
  | .ok callId _ => ∀ ua, s.uaSession = some ua → ua.regcallid ≠ callId
  | _ => True

/-- A session carries the call-id in one of its two places. -/
def Holds (s : Registering) (callId : String) : Prop :=
  (∃ ua, s.uaSession = some ua ∧ ua.regcallid = callId) ∨
    ∃ (user : String) (ua : UaSessionInfo), s.uaMap[user]? = some ua ∧ ua.regcallid = callId

/-- The invariant of runs that respect `AfterInsertion`. -/
structure Inv (s : Registering) : Prop extends Safe s where
  /-- No REGISTER is without its session. -/
  held : ∀ callId, s.Sent callId → s.Holds callId
  /-- No session carries a call-id that was not sent. -/
  sent : ∀ callId, s.Holds callId → s.Sent callId
  answered_sent : ∀ callId ∈ s.answered, s.Sent callId
  /-- The local session is new to the map, by user and by call-id, and its
  REGISTER is not answered yet. -/
  fresh_user : ∀ ua, s.uaSession = some ua → s.uaMap[ua.toUri.user]? = none
  fresh_callId : ∀ ua, s.uaSession = some ua →
    ∀ (user : String) (ua' : UaSessionInfo), s.uaMap[user]? = some ua' →
      ua'.regcallid ≠ ua.regcallid
  unanswered : ∀ ua, s.uaSession = some ua → ua.regcallid ∉ s.answered
  /-- A call-id determines the session in the map. -/
  unique : ∀ (user user' : String) (ua ua' : UaSessionInfo), s.uaMap[user]? = some ua →
    s.uaMap[user']? = some ua' → ua.regcallid = ua'.regcallid → user = user'

theorem inv_start (defaultFrom : Uri) (platforms : List Platform) :
    Inv (start defaultFrom platforms) := by
  refine ⟨⟨?_, ?_⟩, ?_, ?_, ?_, ?_, ?_, ?_, ?_⟩ <;> simp [start, Holds, Sent]

/-! ### What each event does -/

theorem doRegist_cases (s : Registering) (p : Platform) (callId : String) :
    (s.doRegist p callId = s) ∨
      (s.uaMap[p.target.user]? = none ∧ ∃ ua : UaSessionInfo, ua.toUri = p.target ∧
        ua.regcallid = callId ∧
        s.doRegist p callId =
          { s with uaSession := some ua, log := s.log ++ [.register callId] }) := by
  unfold doRegist
  cases h : s.uaMap.getUaInfoByUser p.target.user with
  | some ua => exact .inl rfl
  | none => exact .inr ⟨h, _, rfl, rfl, rfl⟩

theorem onSuccess_cases (s : Registering) (callId : String) (h : ClientRegistrationHandle) :
    (∃ (user : String) (ua : UaSessionInfo), s.uaMap[user]? = some ua ∧ ua.regcallid = callId ∧
      s.onSuccess callId h =
        { s with
          uaMap := s.uaMap.insert user (ua.registState h 200)
          answered := callId :: s.answered }) ∨
      ((∀ (user : String) (ua : UaSessionInfo), s.uaMap[user]? = some ua →
          ua.regcallid ≠ callId) ∧
        s.onSuccess callId h =
          { s with
            log := s.log ++ [.removeMyBindings h]
            answered := callId :: s.answered }) := by
  unfold onSuccess UserAgentInfoMap.registStateCallBack
  cases hf : s.uaMap.getUaInfoByCallID callId with
  | some item =>
      obtain ⟨hmem, hcall⟩ := UserAgentInfoMap.getUaInfoByCallID_eq_some hf
      exact .inl ⟨item.1, item.2, hmem, hcall, by simp⟩
  | none =>
      exact .inr ⟨fun user ua => UserAgentInfoMap.getUaInfoByCallID_eq_none hf, rfl⟩

/-! ### The invariant is kept -/

theorem Inv.withTodo {s : Registering} (hs : Inv s) (rest : List Platform) :
    Inv { s with todo := rest } :=
  ⟨⟨hs.bindings, hs.registered⟩, hs.held, hs.sent, hs.answered_sent, hs.fresh_user,
    hs.fresh_callId, hs.unanswered, hs.unique⟩

/-- Sending under a fresh call-id hands the invariant to the new local session. -/
theorem Inv.doRegist {s : Registering} (hs : Inv s) (hlocal : s.uaSession = none)
    {callId : String} (hfresh : ¬ s.Sent callId) (p : Platform) :
    Inv (s.doRegist p callId) := by
  obtain heq | ⟨huser, ua, hto, hcall, heq⟩ := doRegist_cases s p callId
  · rw [heq]
    exact hs
  · rw [heq]
    -- no session of the map was sent under the new call-id
    have hmap : ∀ (user : String) (ua' : UaSessionInfo), s.uaMap[user]? = some ua' →
        ua'.regcallid ≠ callId := by
      intro user ua' hua' hc
      exact hfresh (hs.sent callId (.inr ⟨user, ua', hua', hc⟩))
    refine
      { bindings := ?bindings, registered := hs.registered, held := ?held, sent := ?sent
        answered_sent := ?answered_sent, fresh_user := ?fresh_user
        fresh_callId := ?fresh_callId, unanswered := ?unanswered, unique := hs.unique }
    case bindings =>
      intro h hmem
      simp at hmem
      exact hs.bindings h hmem
    case held =>
      intro c hc
      simp only [Sent, List.mem_append, List.mem_singleton, UaOutput.register.injEq] at hc
      rcases hc with hc | rfl
      · rcases hs.held c hc with ⟨ua', hua', -⟩ | hheld
        · rw [hlocal] at hua'
          cases hua'
        · exact .inr hheld
      · exact .inl ⟨ua, rfl, hcall⟩
    case sent =>
      rintro c (⟨ua', hua', rfl⟩ | hheld)
      · cases hua'
        simp [Sent, hcall]
      · exact List.mem_append_left _ (hs.sent c (.inr hheld))
    case answered_sent =>
      exact fun c hc => List.mem_append_left _ (hs.answered_sent c hc)
    case fresh_user =>
      intro ua' hua'
      cases hua'
      rw [hto]
      exact huser
    case fresh_callId =>
      intro ua' hua' user ua'' hua''
      cases hua'
      rw [hcall]
      exact hmap user ua'' hua''
    case unanswered =>
      intro ua' hua' hans
      cases hua'
      rw [hcall] at hans
      exact hfresh (hs.answered_sent callId hans)

/-- The insertion moves the local session into the map. -/
theorem Inv.insertSession {s : Registering} (hs : Inv s) {ua : UaSessionInfo}
    (hlocal : s.uaSession = some ua) : Inv (s.insertSession ua) := by
  have hkeep : ∀ {user : String} {ua' : UaSessionInfo}, s.uaMap[user]? = some ua' →
      (s.uaMap.insert ua.toUri.user ua)[user]? = some ua' := by
    intro user ua' hua'
    rw [OrdMap.getElem?_insert, if_neg]
    · exact hua'
    · intro heq
      rw [heq, hs.fresh_user ua hlocal] at hua'
      cases hua'
  refine
    { bindings := hs.bindings, registered := ?registered, held := ?held, sent := ?sent
      answered_sent := hs.answered_sent
      fresh_user := fun ua' hua' => nomatch hua'
      fresh_callId := fun ua' hua' => nomatch hua'
      unanswered := fun ua' hua' => nomatch hua'
      unique := ?unique }
  case registered =>
    intro user ua' hua' hans
    rcases OrdMap.insert_cases hua' with ⟨-, rfl⟩ | ⟨-, hua'⟩
    · exact absurd hans (hs.unanswered ua' hlocal)
    · exact hs.registered user ua' hua' hans
  case held =>
    intro c hc
    rcases hs.held c hc with ⟨ua', hua', hcall⟩ | ⟨user, ua', hua', hcall⟩
    · rw [hlocal] at hua'
      cases hua'
      exact .inr ⟨ua.toUri.user, ua, by simp [Registering.insertSession], hcall⟩
    · exact .inr ⟨user, ua', hkeep hua', hcall⟩
  case sent =>
    rintro c (⟨ua', hua', -⟩ | ⟨user, ua', hua', hcall⟩)
    · cases hua'
    · rcases OrdMap.insert_cases hua' with ⟨-, rfl⟩ | ⟨-, hua'⟩
      · exact hs.sent c (.inl ⟨ua', hlocal, hcall⟩)
      · exact hs.sent c (.inr ⟨user, ua', hua', hcall⟩)
  case unique =>
    -- the call-id of the session that is inserted is new
    intro user user' ua₁ ua₂ h₁ h₂ hcall
    rcases OrdMap.insert_cases h₁ with ⟨rfl, rfl⟩ | ⟨-, hold₁⟩ <;>
      rcases OrdMap.insert_cases h₂ with ⟨rfl, rfl⟩ | ⟨-, hold₂⟩
    · rfl
    · exact absurd hcall.symm (hs.fresh_callId _ hlocal user' ua₂ hold₂)
    · exact absurd hcall (hs.fresh_callId _ hlocal user ua₁ hold₁)
    · exact hs.unique user user' ua₁ ua₂ hold₁ hold₂ hcall

/-- Taking over an answer keeps the keys and the call-ids of the map. -/
theorem regcallid_answer {m : Std.TreeMap String UaSessionInfo} {user : String}
    {ua : UaSessionInfo} (hua : m[user]? = some ua) (h : ClientRegistrationHandle)
    (user' : String) :
    ((m.insert user (ua.registState h 200))[user']?).map (·.regcallid) =
      (m[user']?).map (·.regcallid) := by
  rw [OrdMap.getElem?_insert]
  split
  · rename_i heq
    rw [heq, hua]
    rfl
  · rfl

/-- An answer taken over by a session of the map. -/
theorem Inv.answer {s : Registering} (hs : Inv s) {user : String} {ua : UaSessionInfo}
    (hua : s.uaMap[user]? = some ua) (h : ClientRegistrationHandle)
    (hlocal : ∀ ua', s.uaSession = some ua' → ua'.regcallid ≠ ua.regcallid) :
    Inv { s with
      uaMap := s.uaMap.insert user (ua.registState h 200)
      answered := ua.regcallid :: s.answered } := by
  -- the same call-ids before and after, so each clause is read back from the old map
  have hold : ∀ {user' : String} {ua' : UaSessionInfo},
      (s.uaMap.insert user (ua.registState h 200))[user']? = some ua' →
        ∃ ua'' : UaSessionInfo, s.uaMap[user']? = some ua'' ∧
          ua''.regcallid = ua'.regcallid := by
    intro user' ua' hua'
    have hsame := regcallid_answer hua h user'
    rw [hua', Option.map_some] at hsame
    exact Option.map_eq_some_iff.mp hsame.symm
  have hnew : ∀ {user' : String} {ua' : UaSessionInfo}, s.uaMap[user']? = some ua' →
      ∃ ua'' : UaSessionInfo,
        (s.uaMap.insert user (ua.registState h 200))[user']? = some ua'' ∧
          ua''.regcallid = ua'.regcallid := by
    intro user' ua' hua'
    have hsame := regcallid_answer hua h user'
    rw [hua', Option.map_some] at hsame
    exact Option.map_eq_some_iff.mp hsame
  refine
    { bindings := hs.bindings, registered := ?registered, held := ?held, sent := ?sent
      answered_sent := ?answered_sent, fresh_user := ?fresh_user, fresh_callId := ?fresh_callId
      unanswered := ?unanswered, unique := ?unique }
  case registered =>
    intro user' ua' hua' hans
    rcases OrdMap.insert_cases hua' with ⟨-, rfl⟩ | ⟨hne, hua'⟩
    · rfl
    · rcases List.mem_cons.mp hans with hcall | hans
      · exact absurd (hs.unique user' user ua' ua hua' hua hcall) hne
      · exact hs.registered user' ua' hua' hans
  case held =>
    intro c hc
    rcases hs.held c hc with hheld | ⟨user', ua', hua', rfl⟩
    · exact .inl hheld
    · obtain ⟨ua'', hua'', hcall⟩ := hnew hua'
      exact .inr ⟨user', ua'', hua'', hcall⟩
  case sent =>
    rintro c (hheld | ⟨user', ua', hua', rfl⟩)
    · exact hs.sent c (.inl hheld)
    · obtain ⟨ua'', hua'', hcall⟩ := hold hua'
      exact hs.sent ua'.regcallid (.inr ⟨user', ua'', hua'', hcall⟩)
  case answered_sent =>
    intro c hc
    rcases List.mem_cons.mp hc with rfl | hc
    · exact hs.sent ua.regcallid (.inr ⟨user, ua, hua, rfl⟩)
    · exact hs.answered_sent c hc
  case fresh_user =>
    intro ua' hua'
    cases hget : (s.uaMap.insert user (ua.registState h 200))[ua'.toUri.user]? with
    | none => rfl
    | some ua₂ =>
        obtain ⟨ua₃, hua₃, -⟩ := hold hget
        rw [hs.fresh_user ua' hua'] at hua₃
        cases hua₃
  case fresh_callId =>
    intro ua' hua' user' ua₂ hua₂
    obtain ⟨ua₃, hua₃, hcall⟩ := hold hua₂
    rw [← hcall]
    exact hs.fresh_callId ua' hua' user' ua₃ hua₃
  case unanswered =>
    intro ua' hua' hans
    rcases List.mem_cons.mp hans with hcall | hans
    · exact hlocal ua' hua' hcall
    · exact hs.unanswered ua' hua' hans
  case unique =>
    intro user₁ user₂ ua₁ ua₂ h₁ h₂ hcall
    obtain ⟨ua₁', h₁', hcall₁⟩ := hold h₁
    obtain ⟨ua₂', h₂', hcall₂⟩ := hold h₂
    exact hs.unique user₁ user₂ ua₁' ua₂' h₁' h₂' (by rw [hcall₁, hcall₂, hcall])

/-- One event that respects `AfterInsertion` keeps the invariant. -/
theorem preserves_inv : Preserves step AfterInsertion Inv := by
  intro s e s' hs hg hstep
  cases e with
  | send callId =>
      simp only [step] at hstep
      split at hstep
      · rename_i p rest htodo hlocal
        split at hstep
        · cases hstep
        · rename_i hfresh
          cases hstep
          exact (hs.doRegist hlocal hfresh p).withTodo rest
      · cases hstep
  | insert =>
      obtain ⟨ua, hlocal, rfl⟩ := Option.map_eq_some_iff.mp hstep
      exact hs.insertSession hlocal
  | ok callId h =>
      simp only [step] at hstep
      split at hstep
      · rename_i hsent
        cases hstep
        obtain ⟨user, ua, hua, rfl, heq⟩ | ⟨hnone, -⟩ := onSuccess_cases s callId h
        · rw [heq]
          exact hs.answer hua h hg
        · rcases hs.held callId hsent with ⟨ua, hlocal, hcall⟩ | ⟨user, ua, hua, hcall⟩
          · exact absurd hcall (hg ua hlocal)
          · exact absurd hcall (hnone user ua hua)
      · cases hstep

/-- An answer that overtakes the insertion costs the registration its bindings. -/
theorem afterInsertion_of_safe ⦃s : Registering⦄ ⦃e : RegistEvent⦄ ⦃s' : Registering⦄
    (hs : Inv s) (hstep : step s e = some s') (hsafe : Safe s') : AfterInsertion s e := by
  cases e with
  | send callId => trivial
  | insert => trivial
  | ok callId h =>
      intro ua hlocal hcall
      simp only [step] at hstep
      split at hstep
      · cases hstep
        obtain ⟨user, ua', hua', hcall', -⟩ | ⟨-, heq⟩ := onSuccess_cases s callId h
        · exact hs.fresh_callId ua hlocal user ua' hua' (hcall'.trans hcall.symm)
        · rw [heq] at hsafe
          exact hsafe.bindings h (by simp)
      · cases hstep

/-! ### Registration responses -/

/-- For every list of platforms and every run of the two agents, no response is
lost in any state of the run exactly when no answer overtakes the insertion of
the session it belongs to. -/
theorem responses_kept_iff (defaultFrom : Uri) (platforms : List Platform)
    (events : List RegistEvent) :
    Along step Safe (start defaultFrom platforms) events ↔
      Guarded step AfterInsertion (start defaultFrom platforms) events :=
  along_iff_guarded preserves_inv (fun _ hs => hs.toSafe) afterInsertion_of_safe
    (inv_start defaultFrom platforms)

/-- A 200 OK that arrives before the insertion leaves the session unregistered
and removes the bindings of the REGISTER it answers. -/
theorem response_before_insertion_lost :
    ∃ s : Registering,
      exec step
          (start ⟨"34020000002000000001", "192.168.1.2", 5060⟩
            [⟨⟨"34020000002000000002", "192.168.1.3", 5060⟩, "12345", "node"⟩])
          [.send "call-1", .ok "call-1" (some 1), .insert] = some s ∧
        .removeMyBindings (some 1) ∈ s.log ∧
        (s.uaMap["34020000002000000002"]?).map (·.iState) = some 0 ∧ "call-1" ∈ s.answered ∧
        ¬ Safe s := by
  refine ⟨_, rfl, by decide, by decide, by decide, fun hsafe => ?_⟩
  exact hsafe.bindings (some 1) (by decide)

end Registering

end SignalingServer
