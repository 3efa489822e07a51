import SignalingServer.UserAgent.Registration

/-!
Rounds of `UaMgr::CheckRegistState` over `UserAgentInfoMap`. A round holds no lock from one
session to the next: it remembers the user of the last session and looks for the one behind
it, and answers may change the sessions in between. That no user is remembered yet is said by
the empty one.
-/

namespace SignalingServer

/-- The change of `UaMgr::UaInfoUpdate` to the session of a platform that has moved. -/
def UaSessionInfo.relocate (ua : UaSessionInfo) (host : String) (port : Int) (passwd : String)
    (now : Int) : UaSessionInfo :=
  if host ≠ ua.toUri.host ∨ port ≠ ua.toUri.port ∨ passwd ≠ ua.passwd then
    { ua with
      toUri := { ua.toUri with host := host, port := port }
      passwd := passwd
      heartTimeOutCount := 0
      lastSendHeartTime := 0
      iState := 0
      reissueRegistrationLater := now + 30 }
  else ua

/-- What other threads do to the sessions: the callbacks for the answers to a REGISTER and to a
keepalive, and `UaInfoUpdate`. -/
inductive SessionChange where
  | registState (callID : String) (h : ClientRegistrationHandle) (reason : Int)
  | registPageMsg (uasName : String) (reason : Int)
  | relocate (user host : String) (port : Int) (passwd : String) (now : Int)
  deriving DecidableEq, Repr

/-- What a turn of the loop in `CheckRegistState` meets: the changes since the turn before, the
valid handles, the clock, and the call-id that the stack would choose. -/
structure Turn where
  changes : List SessionChange
  valid : ClientRegistrationHandle → Bool
  now : Int
  callId : String

namespace UserAgentInfoMap

/-- `UaMgr::DoRegist`. -/
def doRegist (m : UserAgentInfoMap) (defaultFrom : Uri) (p : Platform) (callId : String) :
    UserAgentInfoMap :=
  match m.getUaInfoByUser p.target.user with
  | some _ => m
  | none =>
      let uaSession : UaSessionInfo :=
        { toUri := p.target, fromUri := defaultFrom, passwd := p.passwd,
          ssName := p.defaultSesName }
      m.insert p.target.user (uaSession.regist callId).1

/-- It is what the two steps of a registration do to the map. -/
theorem doRegist_eq (s : Registering) (p : Platform) (callId : String) (h : s.uaSession = none) :
    s.uaMap.doRegist s.defaultFrom p callId =
      match (s.doRegist p callId).uaSession with
      | some ua => ((s.doRegist p callId).insertSession ua).uaMap
      | none => s.uaMap := by
  unfold doRegist Registering.doRegist
  cases s.uaMap.getUaInfoByUser p.target.user with
  | some ua => simp [h]
  | none => rfl

/-- A change to the session of a user, if there is one. -/
def update (m : UserAgentInfoMap) (user : String) (f : UaSessionInfo → UaSessionInfo) :
    UserAgentInfoMap :=
  match m.getUaInfoByUser user with
  | some ua => m.insert user (f ua)
  | none => m

def change (m : UserAgentInfoMap) : SessionChange → UserAgentInfoMap
  | .registState callID h reason => (m.registStateCallBack callID h reason).1
  | .registPageMsg uasName reason => m.update uasName fun ua => ua.registPageMsg reason
  | .relocate user host port passwd now => m.update user fun ua => ua.relocate host port passwd now

/-- `UaMgr::GetNextUaInfoByUser`, with the key of the session. -/
def getNextUaInfoByUser (m : UserAgentInfoMap) (user : String) : Option (String × UaSessionInfo) :=
  if user = "" ∧ m.size > 0 then m.toList.head?
  else (m.toList.dropWhile fun item => item.1 != user).tail.head?

end UserAgentInfoMap

/-- The remainder of `CheckRegistState` is computed, and with a divisor of zero. -/
def UaSessionInfo.DividesByZero (ua : UaSessionInfo) (mDevCfg : DevConfig)
    (valid : ClientRegistrationHandle → Bool) : Prop :=
  ua.heartTimeOutCount ≥ mDevCfg.heartBeatCount ∧ valid ua.mh ∧ mDevCfg.heartBeatCount = 0

instance (ua : UaSessionInfo) (mDevCfg : DevConfig) (valid : ClientRegistrationHandle → Bool) :
    Decidable (ua.DividesByZero mDevCfg valid) := inferInstanceAs (Decidable (_ ∧ _))

/-- A round of `CheckRegistState`: the map, its variable `user`, the users of the sessions that
it has processed, and whether it has ended. -/
structure HeartbeatRound where
  uaMap : UserAgentInfoMap
  user : String
  processed : List String
  ended : Bool

namespace HeartbeatRound

def start (m : UserAgentInfoMap) : HeartbeatRound where
  uaMap := m
  user := ""
  processed := []
  ended := false

/-- One turn of the loop: `none` for a division by zero. -/
def turn (mDevCfg : DevConfig) (s : HeartbeatRound) (t : Turn) : Option HeartbeatRound :=
  let m := t.changes.foldl UserAgentInfoMap.change s.uaMap
  match m.getNextUaInfoByUser s.user with
  | none => some { s with uaMap := m, ended := true }
  | some (key, ua) =>
      if ua.DividesByZero mDevCfg t.valid then none
      else
        some { s with
          uaMap := m.insert key (ua.checkRegistState mDevCfg t.valid t.now t.callId).1
          user := ua.toUri.user
          processed := s.processed ++ [key] }

/-- The round after `n` turns; a round that has ended takes no more. -/
def run (mDevCfg : DevConfig) (m : UserAgentInfoMap) (turns : Nat → Turn) :
    Nat → Option HeartbeatRound
  | 0 => some (start m)
  | n + 1 =>
      (run mDevCfg m turns n).bind fun s => if s.ended then none else s.turn mDevCfg (turns n)

/-- The round ends, without a division by zero, and has processed every session once and
nothing else. -/
def Complete (mDevCfg : DevConfig) (m : UserAgentInfoMap) (turns : Nat → Turn) : Prop :=
  ∃ n s, run mDevCfg m turns n = some s ∧ s.ended = true ∧
    ∀ user, s.processed.count user = if user ∈ m then 1 else 0

/-- The session whose turn comes has no valid handle. -/
def Unregistered (s : HeartbeatRound) (t : Turn) : Prop :=
  ∀ key ua, (t.changes.foldl UserAgentInfoMap.change s.uaMap).getNextUaInfoByUser s.user =
    some (key, ua) → t.valid ua.mh = false

end HeartbeatRound

/-! ### The maps that the program builds -/

namespace UserAgentInfoMap

/-- What changes the map and its sessions: `DoRegist`, the other threads, and the rounds of
`CheckRegistState`, session by session. -/
inductive Event where
  | doRegist (p : Platform) (callId : String)
  | change (c : SessionChange)
  | checked (user : String) (t : Turn)

def event (mDevCfg : DevConfig) (defaultFrom : Uri) (m : UserAgentInfoMap) :
    Event → UserAgentInfoMap
  | .doRegist p callId => m.doRegist defaultFrom p callId
  | .change c => m.change c
  | .checked user t =>
      m.update user fun ua => (ua.checkRegistState mDevCfg t.valid t.now t.callId).1

/-- The map after these events. -/
def after (mDevCfg : DevConfig) (defaultFrom : Uri) (events : List Event) : UserAgentInfoMap :=
  events.foldl (event mDevCfg defaultFrom) ∅

/-! ### Sessions under their users -/

/-- Every session is stored under its user, and has not answered some number of keepalives. -/
def Keyed (m : UserAgentInfoMap) : Prop :=
  ∀ (key : String) (ua : UaSessionInfo), m[key]? = some ua →
    ua.toUri.user = key ∧ 0 ≤ ua.heartTimeOutCount

/-- The same users, and still under their names. -/
structure SameUsers (m m' : UserAgentInfoMap) : Prop where
  keys : m'.keys = m.keys
  keyed : m.Keyed → m'.Keyed

/-- A session that is still the one of its user. -/
structure Kept (ua ua' : UaSessionInfo) : Prop where
  user : ua'.toUri.user = ua.toUri.user
  count : 0 ≤ ua.heartTimeOutCount → 0 ≤ ua'.heartTimeOutCount

theorem SameUsers.refl (m : UserAgentInfoMap) : SameUsers m m := ⟨rfl, id⟩

theorem SameUsers.trans {m₁ m₂ m₃ : UserAgentInfoMap} (h : SameUsers m₁ m₂)
    (h' : SameUsers m₂ m₃) : SameUsers m₁ m₃ :=
  ⟨h'.keys.trans h.keys, fun hkeyed => h'.keyed (h.keyed hkeyed)⟩

theorem sameUsers_insert {m : UserAgentInfoMap} {key : String} {ua ua' : UaSessionInfo}
    (hua : m[key]? = some ua) (hkept : Kept ua ua') : SameUsers m (m.insert key ua') where
  keys := OrdMap.keys_insert_of_getElem? hua
  keyed hkeyed := by
    intro key' ua'' hua''
    rcases OrdMap.insert_cases hua'' with ⟨rfl, rfl⟩ | ⟨-, hold⟩
    · obtain ⟨huser, hcount⟩ := hkeyed key' ua hua
      exact ⟨hkept.user.trans huser, hkept.count hcount⟩
    · exact hkeyed key' ua'' hold

theorem sameUsers_update (m : UserAgentInfoMap) (user : String)
    {f : UaSessionInfo → UaSessionInfo} (hf : ∀ ua, Kept ua (f ua)) :
    SameUsers m (m.update user f) := by
  unfold update
  split
  · rename_i ua hua
    exact sameUsers_insert hua (hf ua)
  · exact .refl m

theorem kept_registState (ua : UaSessionInfo) (h : ClientRegistrationHandle) (reason : Int) :
    Kept ua (ua.registState h reason) where
  user := rfl
  count hcount := by
    show 0 ≤ if reason = 200 then 0 else ua.heartTimeOutCount
    split
    · exact le_rfl
    · exact hcount

theorem kept_registPageMsg (ua : UaSessionInfo) (reason : Int) :
    Kept ua (ua.registPageMsg reason) where
  user := rfl
  count hcount := by
    show 0 ≤ if reason = 200 then 0 else ua.heartTimeOutCount + 1
    split
    · exact le_rfl
    · omega

theorem kept_relocate (ua : UaSessionInfo) (host : String) (port : Int) (passwd : String)
    (now : Int) : Kept ua (ua.relocate host port passwd now) := by
  unfold UaSessionInfo.relocate
  split
  · exact ⟨rfl, fun _ => le_rfl⟩
  · exact ⟨rfl, id⟩

theorem kept_checkRegistState (ua : UaSessionInfo) (mDevCfg : DevConfig)
    (valid : ClientRegistrationHandle → Bool) (now : Int) (callId : String) :
    Kept ua (ua.checkRegistState mDevCfg valid now callId).1 := by
  unfold UaSessionInfo.checkRegistState
  split
  · split
    · exact ⟨rfl, id⟩
    · exact ⟨rfl, id⟩
  · split
    · exact ⟨rfl, fun _ => le_rfl⟩
    · unfold UaSessionInfo.sendHeart
      split
      · split
        · exact ⟨rfl, id⟩
        · exact ⟨rfl, id⟩
      · exact ⟨rfl, id⟩

theorem sameUsers_change (m : UserAgentInfoMap) (c : SessionChange) : SameUsers m (m.change c) := by
  cases c with
  | registState callID h reason =>
      dsimp only [change, registStateCallBack]
      split
      · rename_i user ua hfound
        exact sameUsers_insert (getUaInfoByCallID_eq_some hfound).1 (kept_registState ua h reason)
      · exact .refl m
  | registPageMsg uasName reason =>
      exact sameUsers_update m uasName fun ua => kept_registPageMsg ua reason
  | relocate user host port passwd now =>
      exact sameUsers_update m user fun ua => kept_relocate ua host port passwd now

theorem sameUsers_changes (m : UserAgentInfoMap) (changes : List SessionChange) :
    SameUsers m (changes.foldl change m) := by
  induction changes generalizing m with
  | nil => exact .refl m
  | cons c changes ih => exact (sameUsers_change m c).trans (ih (m.change c))

/-- `DoRegist` adds the user that it is called for, if it is new. -/
theorem keyed_doRegist {m : UserAgentInfoMap} (hm : m.Keyed) (defaultFrom : Uri) (p : Platform)
    (callId : String) :
    (m.doRegist defaultFrom p callId).Keyed ∧
      ∀ user, user ∈ m.doRegist defaultFrom p callId ↔ user = p.target.user ∨ user ∈ m := by
  unfold doRegist
  split
  · rename_i ua hua
    refine ⟨hm, fun user => ⟨.inr, ?_⟩⟩
    rintro (rfl | huser)
    · rw [Std.TreeMap.mem_iff_isSome_getElem?, show m[p.target.user]? = some ua from hua]
      rfl
    · exact huser
  · refine ⟨fun key ua hua => ?_, fun user => ?_⟩
    · rcases OrdMap.insert_cases hua with ⟨rfl, rfl⟩ | ⟨-, hold⟩
      · exact ⟨rfl, le_rfl⟩
      · exact hm key ua hold
    · rw [Std.TreeMap.mem_insert, Std.compare_eq_iff_eq, eq_comm]

theorem SameUsers.mem_iff {m m' : UserAgentInfoMap} (h : SameUsers m m') (user : String) :
    user ∈ m' ↔ user ∈ m := by
  rw [← Std.TreeMap.mem_keys, h.keys, Std.TreeMap.mem_keys]

/-- The users are those that `DoRegist` was called for. -/
theorem after_users (mDevCfg : DevConfig) (defaultFrom : Uri) (events : List Event) :
    (after mDevCfg defaultFrom events).Keyed ∧ ∀ user, user ∈ after mDevCfg defaultFrom events ↔
      ∃ p callId, .doRegist p callId ∈ events ∧ p.target.user = user := by
  induction events using List.reverseRecOn with
  | nil => exact ⟨fun key ua hua => by simp [after] at hua, fun user => by simp [after]⟩
  | append_singleton events e ih =>
      obtain ⟨hkeyed, hmem⟩ := ih
      have hafter : after mDevCfg defaultFrom (events ++ [e]) =
          event mDevCfg defaultFrom (after mDevCfg defaultFrom events) e := List.foldl_concat ..
      -- all but a registration leave the users as they are
      have hsame (hother : SameUsers (after mDevCfg defaultFrom events)
            (after mDevCfg defaultFrom (events ++ [e])))
          (hne : ∀ p callId, e ≠ .doRegist p callId) :
          (after mDevCfg defaultFrom (events ++ [e])).Keyed ∧
            ∀ user, user ∈ after mDevCfg defaultFrom (events ++ [e]) ↔
              ∃ p callId, .doRegist p callId ∈ events ++ [e] ∧ p.target.user = user := by
        refine ⟨hother.keyed hkeyed, fun user => ?_⟩
        rw [hother.mem_iff, hmem]
        simp [fun p callId => (hne p callId).symm]
      cases e with
      | doRegist p callId =>
          rw [hafter]
          obtain ⟨hkeyed', hmem'⟩ := keyed_doRegist hkeyed defaultFrom p callId
          refine ⟨hkeyed', fun user => ?_⟩
          rw [show user ∈ event mDevCfg defaultFrom (after mDevCfg defaultFrom events)
            (.doRegist p callId) ↔ _ from hmem' user, hmem]
          constructor
          · rintro (rfl | ⟨p', callId', hevent, huser⟩)
            · exact ⟨p, callId, by simp, rfl⟩
            · exact ⟨p', callId', by simp [hevent], huser⟩
          · rintro ⟨p', callId', hevent, huser⟩
            rcases List.mem_append.mp hevent with hold | hnew
            · exact .inr ⟨p', callId', hold, huser⟩
            · cases List.mem_singleton.mp hnew
              exact .inl huser.symm
      | change c =>
          refine hsame ?_ fun p callId h => by cases h
          rw [hafter]
          exact sameUsers_change _ c
      | checked user t =>
          refine hsame ?_ fun p callId h => by cases h
          rw [hafter]
          exact sameUsers_update _ user fun ua => kept_checkRegistState ua mDevCfg _ _ _

/-! ### The session behind a user -/

theorem nodup_users (m : UserAgentInfoMap) : (m.toList.map Prod.fst).Nodup := by
  rw [Std.TreeMap.map_fst_toList_eq_keys]
  exact Std.TreeMap.nodup_keys

/-- The empty user is the first of the map. -/
theorem head_keys_of_empty_mem {m : UserAgentInfoMap} (h : "" ∈ m) : m.keys.head? = some "" := by
  have hmem : "" ∈ m.keys := Std.TreeMap.mem_keys.mpr h
  have hordered : m.keys.Pairwise fun a b => compare a b = .lt := Std.TreeMap.ordered_keys
  cases hkeys : m.keys with
  | nil =>
      rw [hkeys] at hmem
      cases hmem
  | cons user keys =>
      rw [hkeys] at hmem hordered
      rcases List.mem_cons.mp hmem with rfl | hlater
      · rfl
      · have hlt := compareOfLessAndEq_eq_lt.mp (List.rel_of_pairwise_cons hordered hlater)
        exact absurd (show user.toList < [] from hlt) (List.not_lt_nil _)

/-- From the empty user on, the session is the first one. -/
theorem getNextUaInfoByUser_empty (m : UserAgentInfoMap) :
    m.getNextUaInfoByUser "" = m.toList.head? := by
  unfold getNextUaInfoByUser
  split
  · rfl
  · rename_i hsize
    have hnil : m.toList = [] := by
      rw [← List.length_eq_zero_iff, Std.TreeMap.length_toList]
      simpa using hsize
    rw [hnil]
    rfl

/-- From another user on, it is the one behind. -/
theorem getNextUaInfoByUser_of_getElem? {m : UserAgentInfoMap} {i : Nat} {user : String}
    (hi : m.keys[i]? = some user) (hne : user ≠ "") :
    m.getNextUaInfoByUser user = m.toList[i + 1]? := by
  rw [← Std.TreeMap.map_fst_toList_eq_keys, List.getElem?_map, Option.map_eq_some_iff] at hi
  obtain ⟨item, hitem, rfl⟩ := hi
  rw [getNextUaInfoByUser, if_neg fun h => hne h.1,
    OrdMap.dropWhile_eq_drop m.nodup_users hitem, List.tail_drop, List.head?_drop]

/-- The entry at a place has the key of that place. -/
theorem of_getElem?_toList {m : UserAgentInfoMap} {i : Nat} {key : String} {ua : UaSessionInfo}
    (h : m.toList[i]? = some (key, ua)) : m.keys[i]? = some key ∧ m[key]? = some ua := by
  constructor
  · rw [← Std.TreeMap.map_fst_toList_eq_keys, List.getElem?_map, h]
    rfl
  · exact Std.TreeMap.mem_toList_iff_getElem?_eq_some.mp (List.mem_of_getElem? h)

end UserAgentInfoMap

/-! ### A round -/

namespace HeartbeatRound

open UserAgentInfoMap

variable {mDevCfg : DevConfig} {m : UserAgentInfoMap} {turns : Nat → Turn} {s s' : HeartbeatRound}
  {t : Turn} {i n : Nat}

/-- A turn finds no session and ends the round, or it processes the one that it finds. -/
theorem turn_cases (hturn : s.turn mDevCfg t = some s') :
    ((t.changes.foldl change s.uaMap).getNextUaInfoByUser s.user = none ∧ s'.ended = true ∧
        s'.uaMap = t.changes.foldl change s.uaMap) ∨
      ∃ key ua, (t.changes.foldl change s.uaMap).getNextUaInfoByUser s.user = some (key, ua) ∧
        s' = { s with
          uaMap := (t.changes.foldl change s.uaMap).insert key
            (ua.checkRegistState mDevCfg t.valid t.now t.callId).1
          user := ua.toUri.user
          processed := s.processed ++ [key] } := by
  unfold turn at hturn
  dsimp only at hturn
  split at hturn
  · rename_i hnone
    cases hturn
    exact .inl ⟨hnone, rfl, rfl⟩
  · rename_i key ua hnext
    split at hturn
    · cases hturn
    · cases hturn
      exact .inr ⟨key, ua, hnext, rfl⟩

/-- The session that is found is one of the map. -/
theorem getElem?_of_next {m : UserAgentInfoMap} {user key : String} {ua : UaSessionInfo}
    (h : m.getNextUaInfoByUser user = some (key, ua)) : m[key]? = some ua := by
  apply Std.TreeMap.mem_toList_iff_getElem?_eq_some.mp
  unfold getNextUaInfoByUser at h
  split at h
  · exact List.mem_of_head? h
  · exact List.dropWhile_subset _ (List.mem_of_mem_tail (List.mem_of_head? h))

theorem sameUsers_turn (hturn : s.turn mDevCfg t = some s') : SameUsers s.uaMap s'.uaMap := by
  have hchanges := sameUsers_changes s.uaMap t.changes
  rcases turn_cases hturn with ⟨-, -, hmap⟩ | ⟨key, ua, hnext, rfl⟩
  · rw [hmap]
    exact hchanges
  · exact hchanges.trans
      (sameUsers_insert (getElem?_of_next hnext) (kept_checkRegistState ua mDevCfg _ _ _))

theorem run_succ_eq_some (h : run mDevCfg m turns (n + 1) = some s') :
    ∃ s, run mDevCfg m turns n = some s ∧ s.ended = false ∧ s.turn mDevCfg (turns n) = some s' := by
  obtain ⟨s, hrun, hturn⟩ := Option.bind_eq_some_iff.mp h
  split at hturn
  · cases hturn
  · rename_i hover
    exact ⟨s, hrun, Bool.eq_false_iff.mpr hover, hturn⟩

theorem run_succ_of_turn (hrun : run mDevCfg m turns n = some s) (hover : s.ended = false) :
    run mDevCfg m turns (n + 1) = s.turn mDevCfg (turns n) := by
  rw [run, hrun, Option.bind_some, hover]
  rfl

theorem run_none_of_le {k : Nat} (hnone : run mDevCfg m turns n = none) (hle : n ≤ k) :
    run mDevCfg m turns k = none := by
  induction hle with
  | refl => exact hnone
  | step hle ih => rw [run, ih, Option.bind_none]

theorem run_sameUsers (hrun : run mDevCfg m turns n = some s) : SameUsers m s.uaMap := by
  induction n generalizing s with
  | zero =>
      cases hrun
      exact .refl m
  | succ n ih =>
      obtain ⟨s₀, hrun₀, -, hturn⟩ := run_succ_eq_some hrun
      exact (ih hrun₀).trans (sameUsers_turn hturn)

/-! ### No empty user, and no division by zero -/

/-- The round has processed the first `i` sessions and remembers the user of the last. -/
structure At (m : UserAgentInfoMap) (s : HeartbeatRound) (i : Nat) : Prop where
  ended : s.ended = false
  users : SameUsers m s.uaMap
  processed : s.processed = m.keys.take i
  user : s.user = (m.keys.take i).getLast?.getD ""

theorem at_start (m : UserAgentInfoMap) : At m (start m) 0 := ⟨rfl, .refl m, rfl, rfl⟩

theorem At.next (h : At m s i) (hempty : "" ∉ m) (hi : i ≤ m.keys.length) (t : Turn) :
    (t.changes.foldl change s.uaMap).getNextUaInfoByUser s.user =
      (t.changes.foldl change s.uaMap).toList[i]? := by
  have hkeys := (h.users.trans (sameUsers_changes s.uaMap t.changes)).keys
  rw [h.user]
  cases i with
  | zero =>
      rw [List.take_zero, List.getLast?_nil, Option.getD_none, getNextUaInfoByUser_empty,
        List.head?_eq_getElem?]
  | succ i =>
      have huser : m.keys[i]? = some m.keys[i] := List.getElem?_eq_getElem hi
      have hne : m.keys[i] ≠ "" := by
        intro heq
        exact hempty (Std.TreeMap.mem_keys.mp (heq ▸ List.getElem_mem hi))
      rw [List.take_add_one, huser, Option.toList_some, List.getLast?_concat, Option.getD_some]
      exact getNextUaInfoByUser_of_getElem? (hkeys.symm ▸ huser) hne

/-- The session whose turn comes is processed. -/
theorem At.turn (h : At m s i) (hm : m.Keyed) (hempty : "" ∉ m) (hi : i < m.keys.length)
    (hvalid : mDevCfg.heartBeatCount = 0 → s.Unregistered t) :
    ∃ s', s.turn mDevCfg t = some s' ∧ At m s' (i + 1) := by
  have hchanges := h.users.trans (sameUsers_changes s.uaMap t.changes)
  have hlength : i < (t.changes.foldl change s.uaMap).toList.length := by
    rw [Std.TreeMap.length_toList, ← Std.TreeMap.length_keys, hchanges.keys]
    exact hi
  obtain ⟨⟨key, ua⟩, hitem⟩ : ∃ item, (t.changes.foldl change s.uaMap).toList[i]? = some item :=
    ⟨_, List.getElem?_eq_getElem hlength⟩
  have hnext := (h.next hempty hi.le t).trans hitem
  obtain ⟨hkey, hua⟩ := of_getElem?_toList hitem
  rw [hchanges.keys] at hkey
  have hdivides : ¬ ua.DividesByZero mDevCfg t.valid := by
    rintro ⟨-, hhandle, hzero⟩
    rw [hvalid hzero key ua hnext] at hhandle
    cases hhandle
  refine ⟨_, by rw [HeartbeatRound.turn, hnext]; exact if_neg hdivides, ?_⟩
  refine ⟨h.ended, ?_, ?_, ?_⟩
  · exact hchanges.trans (sameUsers_insert hua (kept_checkRegistState ua mDevCfg _ _ _))
  · show s.processed ++ [key] = m.keys.take (i + 1)
    rw [h.processed, List.take_add_one, hkey, Option.toList_some]
  · show ua.toUri.user = _
    rw [List.take_add_one, hkey, Option.toList_some, List.getLast?_concat, Option.getD_some]
    exact (hchanges.keyed hm key ua hua).1

theorem run_at (hm : m.Keyed) (hempty : "" ∉ m)
    (hvalid : mDevCfg.heartBeatCount = 0 → ∀ n s, run mDevCfg m turns n = some s →
      s.ended = false → s.Unregistered (turns n)) (hi : i ≤ m.keys.length) :
    ∃ s, run mDevCfg m turns i = some s ∧ At m s i := by
  induction i with
  | zero => exact ⟨start m, rfl, at_start m⟩
  | succ i ih =>
      obtain ⟨s, hrun, hat⟩ := ih (Nat.le_of_succ_le hi)
      obtain ⟨s', hturn, hat'⟩ :=
        hat.turn hm hempty hi fun hzero => hvalid hzero i s hrun hat.ended
      exact ⟨s', (run_succ_of_turn hrun hat.ended).trans hturn, hat'⟩

theorem complete_of_valid (hm : m.Keyed) (hempty : "" ∉ m)
    (hvalid : mDevCfg.heartBeatCount = 0 → ∀ n s, run mDevCfg m turns n = some s →
      s.ended = false → s.Unregistered (turns n)) : Complete mDevCfg m turns := by
  obtain ⟨s, hrun, hat⟩ := run_at hm hempty hvalid (le_refl m.keys.length)
  have hkeys := (hat.users.trans (sameUsers_changes s.uaMap (turns m.keys.length).changes)).keys
  have hend := hat.next hempty (le_refl _) (turns m.keys.length)
  rw [List.getElem?_eq_none_iff.mpr (by
    rw [Std.TreeMap.length_toList, ← Std.TreeMap.length_keys, hkeys])] at hend
  refine ⟨m.keys.length + 1, _, (run_succ_of_turn hrun hat.ended).trans
    (by rw [HeartbeatRound.turn, hend]), rfl, fun user => ?_⟩
  show s.processed.count user = _
  rw [hat.processed, List.take_length]
  split
  · rename_i huser
    exact List.count_eq_one_of_mem Std.TreeMap.nodup_keys (Std.TreeMap.mem_keys.mpr huser)
  · rename_i huser
    exact List.count_eq_zero_of_not_mem fun h => huser (Std.TreeMap.mem_keys.mp h)

/-! ### The other rounds -/

/-- With an empty user the round finds the same session again and again. -/
theorem run_of_empty (hm : m.Keyed) (hempty : "" ∈ m) (hrun : run mDevCfg m turns n = some s) :
    s.ended = false ∧ s.user = "" := by
  induction n generalizing s with
  | zero =>
      cases hrun
      exact ⟨rfl, rfl⟩
  | succ n ih =>
      obtain ⟨s₀, hrun₀, -, hturn⟩ := run_succ_eq_some hrun
      obtain ⟨hover, huser⟩ := ih hrun₀
      have hsame := (run_sameUsers hrun₀).trans (sameUsers_changes s₀.uaMap (turns n).changes)
      have hhead := head_keys_of_empty_mem ((hsame.mem_iff "").mpr hempty)
      rw [← Std.TreeMap.map_fst_toList_eq_keys, List.head?_map, Option.map_eq_some_iff] at hhead
      obtain ⟨⟨key, ua⟩, hitem, rfl⟩ := hhead
      have hnext := (getNextUaInfoByUser_empty _).trans hitem
      rcases turn_cases hturn with ⟨hnone, -, -⟩ | ⟨key', ua', hnext', rfl⟩
      · rw [huser, hnext] at hnone
        cases hnone
      · rw [huser, hnext] at hnext'
        cases hnext'
        exact ⟨hover, (hsame.keyed hm "" ua (getElem?_of_next hnext)).1⟩

theorem not_complete_of_empty (hm : m.Keyed) (hempty : "" ∈ m) : ¬ Complete mDevCfg m turns := by
  rintro ⟨n, s, hrun, hover, -⟩
  rw [(run_of_empty hm hempty hrun).1] at hover
  cases hover

/-- A round that ends has come through all its turns. -/
theorem Complete.turn_ne_none (h : Complete mDevCfg m turns) (hrun : run mDevCfg m turns n = some s)
    (hover : s.ended = false) : s.turn mDevCfg (turns n) ≠ none := by
  intro hnone
  obtain ⟨k, s', hrun', hover', -⟩ := h
  have hstuck : run mDevCfg m turns (n + 1) = none := (run_succ_of_turn hrun hover).trans hnone
  rcases Nat.lt_trichotomy k n with hlt | rfl | hgt
  · have hend : run mDevCfg m turns (k + 1) = none := by
      rw [run, hrun', Option.bind_some, hover']
      rfl
    rw [run_none_of_le hend hlt] at hrun
    cases hrun
  · rw [hrun, Option.some.injEq] at hrun'
    rw [hrun', hover'] at hover
    cases hover
  · rw [run_none_of_le hstuck hgt] at hrun'
    cases hrun'

theorem turn_eq_none (hm : m.Keyed) (hzero : mDevCfg.heartBeatCount = 0)
    (hrun : run mDevCfg m turns n = some s) {key : String} {ua : UaSessionInfo}
    (hnext : ((turns n).changes.foldl change s.uaMap).getNextUaInfoByUser s.user = some (key, ua))
    (hvalid : (turns n).valid ua.mh = true) : s.turn mDevCfg (turns n) = none := by
  have hsame := (run_sameUsers hrun).trans (sameUsers_changes s.uaMap (turns n).changes)
  have hcount := (hsame.keyed hm key ua (getElem?_of_next hnext)).2
  rw [HeartbeatRound.turn, hnext]
  exact if_pos ⟨hzero ▸ hcount, hvalid, hzero⟩

/-- A round over the sessions that the program has built ends, without a division by zero and
with every session processed once, exactly when none was registered without a user, and the
limit is not zero or no session whose turn comes has a valid handle. -/
theorem complete_iff (mDevCfg : DevConfig) (defaultFrom : Uri) (events : List Event)
    (turns : Nat → Turn) :
    Complete mDevCfg (after mDevCfg defaultFrom events) turns ↔
      (∀ p callId, .doRegist p callId ∈ events → p.target.user ≠ "") ∧
        (mDevCfg.heartBeatCount = 0 → ∀ n s,
          run mDevCfg (after mDevCfg defaultFrom events) turns n = some s → s.ended = false →
            s.Unregistered (turns n)) := by
  obtain ⟨hm, husers⟩ := after_users mDevCfg defaultFrom events
  have hempty : (∀ p callId, .doRegist p callId ∈ events → p.target.user ≠ "") ↔
      "" ∉ after mDevCfg defaultFrom events := by
    rw [husers]
    push Not
    rfl
  rw [hempty]
  constructor
  · intro h
    refine ⟨fun hmem => not_complete_of_empty hm hmem h, ?_⟩
    intro hzero n s hrun hover key ua hnext
    refine Bool.eq_false_iff.mpr fun hvalid => ?_
    exact h.turn_ne_none hrun hover (turn_eq_none hm hzero hrun hnext hvalid)
  · rintro ⟨hnotempty, hvalid⟩
    exact complete_of_valid hm hnotempty hvalid

/-- A platform with this user, and turns in which nothing happens. -/
def platform (user : String) : Platform := ⟨⟨user, "192.168.1.3", 5060⟩, "12345", "CCTV"⟩

def device : Uri := ⟨"34020000002000000001", "192.168.1.2", 5060⟩

def quiet : Nat → Turn := fun _ =>
  { changes := [], valid := Option.isSome, now := 100, callId := "call-2" }

/-- A platform without a user, and a registered one with a limit of zero. -/
theorem incomplete_rounds :
    ¬ Complete ⟨3, 3, 3600⟩ (after ⟨3, 3, 3600⟩ device [.doRegist (platform "") "call-1"]) quiet ∧
      ¬ Complete ⟨0, 3, 3600⟩ (after ⟨0, 3, 3600⟩ device
        [.doRegist (platform "34020000002000000002") "call-1",
          .change (.registState "call-1" (some 1) 200)]) quiet := by
  constructor
  · obtain ⟨hm, husers⟩ := after_users ⟨3, 3, 3600⟩ device [.doRegist (platform "") "call-1"]
    exact not_complete_of_empty hm
      ((husers "").mpr ⟨platform "", "call-1", List.mem_singleton_self _, rfl⟩)
  · intro h
    refine h.turn_ne_none (n := 0) rfl rfl (Option.isNone_iff_eq_none.mp ?_)
    decide +kernel

end HeartbeatRound

end SignalingServer
