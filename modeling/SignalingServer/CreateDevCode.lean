import SignalingServer.IDManager

/-!
The limits of `CDevCodeMng::CreateDevCode`: which numbers it gives, when it refuses,
and what a refusal leaves behind. The loop of `GetGBCodeSeq_R` tries the numbers of
the block and the one behind it.
-/

namespace SignalingServer

open Lts

/-- `EM_Node_Type`, without `em_node_unknown` and `em_node_type_max`. -/
inductive EmNodeType where
  | dvrCode
  | nvrCode
  | ipcCode
  | cameraCode
  | cmsCode
  | hardwareMediaserver
  | unitCode
  | mediadecodesvrCode
  | mediaencodesvrCode
  | groupCode
  | alarmcontrolCode
  | extCode
  deriving DecidableEq, Repr

def EmNodeType.code : EmNodeType → Int
  | .dvrCode => 111
  | .nvrCode => 118
  | .ipcCode => 132
  | .cameraCode => 131
  | .cmsCode => 200
  | .hardwareMediaserver => 214
  | .unitCode => 216
  | .mediadecodesvrCode => 114
  | .mediaencodesvrCode => 113
  | .groupCode => 215
  | .alarmcontrolCode => 117
  | .extCode => 217

/-- The type whose ids are made for it: the chain of `CreateDevCode` has no branch for
alarm hosts, which get the last one. -/
theorem EmNodeType.createStart_code (t : EmNodeType) :
    (CDevCodeMng.createStart t.code).2 = if t = .alarmcontrolCode then 217 else t.code := by
  cases t <;> decide

theorem EmNodeType.code_bounds (t : EmNodeType) : 0 < t.code ∧ t.code < 218 := by
  cases t <;> decide

namespace CHnaldeMrg

/-- The loop gives up when the block and the number behind it are in use. -/
theorem searchSeq_eq_none_iff {used : Finset Nat} {h rounds nistat : Nat}
    (hle : nistat ≤ h + 0x98967F) (hrounds : h + 0x98967F < nistat + rounds) :
    searchSeq used h rounds nistat = none ↔
      ∀ n, nistat ≤ n → n ≤ h + 0x98967F → n ∈ used := by
  induction rounds generalizing nistat with
  | zero => omega
  | succ rounds ih =>
      by_cases hused : nistat ∈ used
      · by_cases hlast : nistat > 0x98967E + h
        · rw [searchSeq, if_pos hused, if_pos hlast]
          refine iff_of_true rfl fun n hn hn' => ?_
          have heq : n = nistat := by omega
          rw [heq]
          exact hused
        · rw [searchSeq, if_pos hused, if_neg hlast, ih (by omega) (by omega)]
          constructor
          · intro hall n hn hn'
            by_cases heq : n = nistat
            · rw [heq]
              exact hused
            · exact hall n (by omega) hn'
          · exact fun hall n hn hn' => hall n (by omega) hn'
      · rw [searchSeq, if_neg hused]
        exact iff_of_false (Option.some_ne_none _) fun hall => hused (hall nistat (le_refl _) hle)

theorem searchSeq_start (used : Finset Nat) (h : Nat) :
    searchSeq used h (0x98967E + 2) h = none ↔ ∀ n, h ≤ n → n ≤ h + 0x98967F → n ∈ used :=
  searchSeq_eq_none_iff (by omega) (by omega)

theorem getGBCodeSeqR_pos_iff (q : CHnaldeMrg) {h : Nat} (hpos : 0 < h) :
    0 < (q.getGBCodeSeqR h).2 ↔ ¬ ∀ n, h ≤ n → n ≤ h + 0x98967F → n ∈ q.handlemap := by
  rw [← searchSeq_start, getGBCodeSeqR]
  cases hsearch : searchSeq q.handlemap h (0x98967E + 2) h with
  | none => exact iff_of_false (Nat.lt_irrefl 0) fun hnot => hnot rfl
  | some n => exact iff_of_true (Nat.lt_of_lt_of_le hpos (searchSeq_some hsearch).1) nofun

/-- A search that finds nothing leaves the set as it is. -/
theorem getGBCodeSeqR_eq_self {q : CHnaldeMrg} {h : Nat}
    (hall : ∀ n, h ≤ n → n ≤ h + 0x98967F → n ∈ q.handlemap) : q.getGBCodeSeqR h = (q, 0) := by
  rw [getGBCodeSeqR, (searchSeq_start q.handlemap h).mpr hall]

end CHnaldeMrg

namespace CDevCodeMng

/-- All numbers that `CreateDevCode` tries for a type are in use. -/
def UsedUp (m : CDevCodeMng) (devType : Int) : Prop :=
  ∀ n, (createStart devType).1 ≤ n → n ≤ (createStart devType).1 + 0x98967F →
    n ∈ m.seqOf (createStart devType).2

theorem createStart_pos (devType : Int) : 0 < (createStart devType).1 := by
  have hstart := createStart_spec devType
  have hbound := codeTypes_bounds hstart.1
  omega

section Table

variable {m : CDevCodeMng} {devType : Int} {q : CHnaldeMrg}
  (hq : m.devCodeSeq[(createStart devType).2]? = some q)

include hq

theorem takenSeq_pos_iff : 0 < takenSeq devType q ↔ ¬ m.UsedUp devType := by
  rw [UsedUp, seqOf_eq hq]
  exact q.getGBCodeSeqR_pos_iff (createStart_pos devType)

theorem createDevCode_refused (hrange : 0 < devType ∧ devType < 218)
    (h : m.UsedUp devType ∨ size m.strLocalGBID ≠ 20) :
    m.createDevCode devType = (m.takeSeq devType q, "") := by
  have hin : ¬ (devType ≤ 0 ∨ devType ≥ 218) := by omega
  unfold createDevCode
  rw [if_neg hin, hq]
  by_cases hused : m.UsedUp devType
  · have hzero : ¬ takenSeq devType q > 0 := fun hpos => (takenSeq_pos_iff hq).mp hpos hused
    exact if_neg hzero
  · have hpos : takenSeq devType q > 0 := (takenSeq_pos_iff hq).mpr hused
    exact (if_pos hpos).trans (if_neg (h.resolve_left hused))

theorem createDevCode_made (hrange : 0 < devType ∧ devType < 218) (hroom : ¬ m.UsedUp devType)
    (hsize : size m.strLocalGBID = 20) :
    m.createDevCode devType =
      ({ m.takeSeq devType q with
          gbidList := insert (domain m.strLocalGBID ++ toString (takenSeq devType q)) m.gbidList },
        domain m.strLocalGBID ++ toString (takenSeq devType q)) := by
  have hin : ¬ (devType ≤ 0 ∨ devType ≥ 218) := by omega
  have hpos : takenSeq devType q > 0 := (takenSeq_pos_iff hq).mpr hroom
  unfold createDevCode
  rw [if_neg hin, hq]
  exact (if_pos hpos).trans (if_pos hsize)

theorem createDevCode_eq_empty_iff (hrange : 0 < devType ∧ devType < 218) :
    (m.createDevCode devType).2 = "" ↔ m.UsedUp devType ∨ size m.strLocalGBID ≠ 20 := by
  by_cases h : m.UsedUp devType ∨ size m.strLocalGBID ≠ 20
  · rw [createDevCode_refused hq hrange h]
    exact iff_of_true rfl h
  · obtain ⟨hroom, hsize⟩ := not_or.mp h
    rw [createDevCode_made hq hrange hroom (not_not.mp hsize)]
    exact iff_of_false (made_ne_empty hq ((takenSeq_pos_iff hq).mpr hroom) (not_not.mp hsize)) h

end Table

/-! ### What a call leaves behind -/

/-- The id set and each sequence set are the same. -/
structure SameSets (m m' : CDevCodeMng) : Prop where
  ids : m'.gbidList = m.gbidList
  seqs : ∀ devType, m'.seqOf devType = m.seqOf devType

/-- `CreateDevCode` reserves a number. -/
def Reserves (m : CDevCodeMng) (devType : Int) : Prop :=
  (0 < devType ∧ devType < 218) ∧ (m.devCodeSeq[(createStart devType).2]?).isSome ∧
    ¬ m.UsedUp devType

theorem SameSets.refl (m : CDevCodeMng) : m.SameSets m := ⟨rfl, fun _ => rfl⟩

theorem seqOf_takeSeq_of_usedUp {m : CDevCodeMng} {devType : Int} {q : CHnaldeMrg}
    (hq : m.devCodeSeq[(createStart devType).2]? = some q) (hused : m.UsedUp devType) (t : Int) :
    (m.takeSeq devType q).seqOf t = m.seqOf t := by
  have hsame : (q.getGBCodeSeqR (createStart devType).1).1 = q := by
    rw [UsedUp, seqOf_eq hq] at hused
    rw [CHnaldeMrg.getGBCodeSeqR_eq_self hused]
  rw [takeSeq_eq hq]
  by_cases heq : (createStart devType).2 = t
  · rw [← heq, seqOf_modifySeq_self hq, hsame, seqOf_eq hq]
  · rw [seqOf_modifySeq_of_ne heq]

/-- A reserved number is new in its set. -/
theorem not_sameSets_of_reserves {m : CDevCodeMng} {devType : Int} (h : m.Reserves devType) :
    ¬ m.SameSets (m.createDevCode devType).1 := by
  obtain ⟨hrange, hsome, hroom⟩ := h
  obtain ⟨q, hq⟩ := Option.isSome_iff_exists.mp hsome
  obtain ⟨-, -, hfree, -, htaken⟩ := takenSeq_spec hq ((takenSeq_pos_iff hq).mpr hroom)
  have hseq : (m.createDevCode devType).1.seqOf (createStart devType).2 =
      (m.takeSeq devType q).seqOf (createStart devType).2 := by
    by_cases hsize : size m.strLocalGBID = 20
    · rw [createDevCode_made hq hrange hroom hsize]
    · rw [createDevCode_refused hq hrange (.inr hsize)]
  intro hsame
  rw [← hseq, hsame.seqs] at htaken
  exact hfree htaken

theorem sameSets_of_not_reserves {m : CDevCodeMng} {devType : Int} (h : ¬ m.Reserves devType) :
    m.SameSets (m.createDevCode devType).1 ∧ (m.createDevCode devType).2 = "" := by
  by_cases hrange : 0 < devType ∧ devType < 218
  · cases hq : m.devCodeSeq[(createStart devType).2]? with
    | none =>
        have hin : ¬ (devType ≤ 0 ∨ devType ≥ 218) := by omega
        rw [createDevCode, if_neg hin, hq]
        exact ⟨.refl m, rfl⟩
    | some q =>
        have hused : m.UsedUp devType := by
          by_contra hroom
          exact h ⟨hrange, by rw [hq]; rfl, hroom⟩
        rw [createDevCode_refused hq hrange (.inl hused)]
        exact ⟨⟨rfl, seqOf_takeSeq_of_usedUp hq hused⟩, rfl⟩
  · have hout : devType ≤ 0 ∨ devType ≥ 218 := by omega
    rw [createDevCode, if_pos hout]
    exact ⟨.refl m, rfl⟩

/-- An id is made if a number is reserved and the local id is set. -/
theorem createDevCode_ne_empty_iff (m : CDevCodeMng) (devType : Int) :
    (m.createDevCode devType).2 ≠ "" ↔ m.Reserves devType ∧ size m.strLocalGBID = 20 := by
  by_cases h : m.Reserves devType
  · obtain ⟨hrange, hsome, hroom⟩ := h
    obtain ⟨q, hq⟩ := Option.isSome_iff_exists.mp hsome
    rw [ne_eq, createDevCode_eq_empty_iff hq hrange]
    simp [Reserves, hrange, hsome, hroom]
  · exact iff_of_false (fun hmade => hmade (sameSets_of_not_reserves h).2) fun hmade => h hmade.1

/-- A call that makes no id leaves the sets as they are, unless it reserved a number
before it found that there is no local id. -/
theorem createDevCode_restores_iff (m : CDevCodeMng) (devType : Int) :
    ((m.createDevCode devType).2 = "" → m.SameSets (m.createDevCode devType).1) ↔
      ¬ m.Reserves devType ∨ size m.strLocalGBID = 20 := by
  by_cases h : m.Reserves devType
  · have hchanged := not_sameSets_of_reserves h
    constructor
    · intro hrestores
      have hmade := (createDevCode_ne_empty_iff m devType).mp fun hnone => hchanged (hrestores hnone)
      exact .inr hmade.2
    · intro hsize hnone
      have hmade := (createDevCode_ne_empty_iff m devType).mpr
        ⟨h, hsize.resolve_left (not_not.mpr h)⟩
      exact absurd hnone hmade
  · exact iff_of_true (fun _ => (sameSets_of_not_reserves h).1) (.inl h)

/-! ### The numbers of a type -/

def HasTables (m : CDevCodeMng) : Prop := ∀ t ∈ codeTypes, (m.devCodeSeq[t]?).isSome

/-- Each number of the type's block is in use. -/
def BlockUsed (m : CDevCodeMng) (devType : Int) : Prop :=
  ∀ n, InBlock devType n → n ∈ m.seqOf devType

/-- What is asked of the ids of a type. -/
structure CodesInRange (m : CDevCodeMng) (devType : Int) : Prop where
  typed : (m.createDevCode devType).2 ≠ "" →
    ∃ n : Nat, (m.createDevCode devType).2 = domain m.strLocalGBID ++ toString n ∧
      10 ^ 9 ≤ n ∧ n < 10 ^ 10 ∧ ((n / 10 ^ 7 : Nat) : Int) = devType
  found : ¬ m.BlockUsed devType → (m.createDevCode devType).2 ≠ ""
  refused : m.BlockUsed devType → (m.createDevCode devType).2 = ""

/-- The local id is set and a number of the block is free, and the type is not the one
without a branch; or the block is used up, and so is the number behind it or there is
no local id. For alarm hosts both blocks count. -/
def RangeKept (m : CDevCodeMng) (t : EmNodeType) : Prop :=
  (t ≠ .alarmcontrolCode ∧ size m.strLocalGBID = 20 ∧ ¬ m.BlockUsed t.code) ∨
    (m.BlockUsed t.code ∧ (m.UsedUp t.code ∨ size m.strLocalGBID ≠ 20))

theorem blockUsed_of_usedUp {m : CDevCodeMng} {devType : Int}
    (hstart : (createStart devType).2 = devType) (h : m.UsedUp devType) :
    m.BlockUsed devType := by
  rintro n ⟨hlow, hhigh⟩
  have hspec := (createStart_spec devType).2
  rw [UsedUp, hstart] at h
  rw [hstart] at hspec
  exact h n (by omega) (by omega)

/-- The least free number of a block that is not used up is the one that is taken. -/
theorem inBlock_takenSeq {m : CDevCodeMng} {devType : Int} {q : CHnaldeMrg}
    (hq : m.devCodeSeq[(createStart devType).2]? = some q) (hpos : 0 < takenSeq devType q)
    (hstart : (createStart devType).2 = devType) (hfree : ¬ m.BlockUsed devType) :
    InBlock devType (takenSeq devType q) := by
  obtain ⟨hge, -, -, hall, -⟩ := takenSeq_spec hq hpos
  have hspec := (createStart_spec devType).2
  rw [hstart] at hspec hall
  simp only [BlockUsed, not_forall] at hfree
  obtain ⟨n, ⟨hlow, hhigh⟩, hn⟩ := hfree
  have hle : takenSeq devType q ≤ n := by
    by_contra hlt
    exact hn (hall n (by omega) (by omega))
  exact ⟨by omega, by omega⟩

theorem codesInRange_iff {m : CDevCodeMng} (hm : m.HasTables) (t : EmNodeType) :
    m.CodesInRange t.code ↔ m.RangeKept t := by
  obtain ⟨q, hq⟩ := Option.isSome_iff_exists.mp (hm _ (createStart_spec t.code).1)
  have hempty := createDevCode_eq_empty_iff hq (t.code_bounds)
  have hstart := t.createStart_code
  by_cases hrefused : m.UsedUp t.code ∨ size m.strLocalGBID ≠ 20
  · have hnone := hempty.mpr hrefused
    constructor
    · intro h
      refine .inr ⟨?_, hrefused⟩
      by_contra hfree
      exact h.found hfree hnone
    · intro h
      have hused : m.BlockUsed t.code := by
        rcases h with ⟨ht, hsize, hfree⟩ | ⟨hused, -⟩
        · rw [if_neg ht] at hstart
          exact blockUsed_of_usedUp hstart (hrefused.resolve_right (not_not.mpr hsize))
        · exact hused
      exact ⟨fun hmade => absurd hnone hmade, fun hfree => absurd hused hfree, fun _ => hnone⟩
  · obtain ⟨hroom, hsize⟩ := not_or.mp hrefused
    have hsize := not_not.mp hsize
    have hpos := (takenSeq_pos_iff hq).mpr hroom
    have hmade : (m.createDevCode t.code).2 ≠ "" := fun hnone => hrefused (hempty.mp hnone)
    have hcode : (m.createDevCode t.code).2 =
        domain m.strLocalGBID ++ toString (takenSeq t.code q) := by
      rw [createDevCode_made hq (t.code_bounds) hroom hsize]
    constructor
    · intro h
      refine .inl ⟨?_, hsize, fun hused => hmade (h.refused hused)⟩
      rintro rfl
      -- the number of an alarm host is one of the last branch
      obtain ⟨n, hn, -, -, htype⟩ := h.typed hmade
      rw [hcode] at hn
      have heq := Decimal.toString_inj ((String.append_right_inj _).mp hn)
      have hge := (takenSeq_spec hq hpos).1
      have hspec := (createStart_spec EmNodeType.alarmcontrolCode.code).2
      have hcode' : EmNodeType.alarmcontrolCode.code = 117 := rfl
      rw [if_pos rfl] at hstart
      omega
    · intro h
      obtain ⟨ht, -, hfree⟩ := h.resolve_right fun hused => hrefused hused.2
      rw [if_neg ht] at hstart
      have hin := inBlock_takenSeq hq hpos hstart hfree
      have hdigits := takenSeq_digits hq hpos
      obtain ⟨hlow, hhigh⟩ := hin
      exact ⟨fun _ => ⟨_, hcode, by omega, by omega, by omega⟩, fun _ => hmade,
        fun hused => absurd hused hfree⟩

theorem HasTables.setLocalGBID {m : CDevCodeMng} (hm : m.HasTables) (localgbid : String) :
    (m.setLocalGBID localgbid).HasTables := by
  intro t ht
  unfold CDevCodeMng.setLocalGBID
  split
  · exact hm t ht
  · rw [addDevCodeID_isSome]
    exact (releaseLocal_isSome m t).trans (hm t ht)

theorem HasTables.createDevCode {m : CDevCodeMng} (hm : m.HasTables) (devType : Int) :
    (m.createDevCode devType).1.HasTables := by
  intro t ht
  obtain heq | ⟨q, -, heq⟩ | ⟨q, -, -, -, heq⟩ := createDevCode_cases m devType
  · rw [heq]
    exact hm t ht
  · rw [heq]
    exact takeSeq_isSome m q (hm t ht)
  · rw [heq]
    exact takeSeq_isSome m q (hm t ht)

end CDevCodeMng

namespace DevCodes

open CDevCodeMng

/-- No call takes a table away. -/
theorem hasTables_step {s s' : DevCodes} {c : DevCodeCall} (hs : s.mng.HasTables)
    (h : step s c = some s') : s'.mng.HasTables := by
  cases h
  cases c with
  | setLocalGBID localgbid => exact hs.setLocalGBID localgbid
  | addDevCodeID gbid => exact fun t ht => (addDevCodeID_isSome s.mng gbid t).trans (hs t ht)
  | delDevCodeID gbid => exact fun t ht => (delDevCodeID_isSome s.mng gbid t).trans (hs t ht)
  | createDevCode devType => exact hs.createDevCode devType

/-- In every state that is reached, the ids of a type are right exactly if the
condition holds for it. -/
theorem codes_in_range (localGbId : String) (calls : List DevCodeCall) {s : DevCodes}
    (hrun : exec step (start localGbId) calls = some s) (t : EmNodeType) :
    s.mng.CodesInRange t.code ↔ s.mng.RangeKept t :=
  codesInRange_iff
    (exec_invariant (I := fun s => s.mng.HasTables) (fun _ _ _ => hasTables_step)
      (inv_new localGbId).tables hrun) t

theorem codes_in_range_sample :
    ((start "").call (.setLocalGBID "34020000002000000001")).mng.CodesInRange 118 := by
  apply (codes_in_range "" [.setLocalGBID "34020000002000000001"] rfl .nvrCode).mpr
  refine .inl ⟨by decide, by decide, fun hused => ?_⟩
  have hfirst := hused 1180000001 ⟨by decide, by decide⟩
  revert hfirst
  unfold seqOf handles
  decide

/-- The first alarm host gets an id of type 217. -/
theorem alarm_host_gets_217 :
    ((start "34020000002000000001").mng.createDevCode EmNodeType.alarmcontrolCode.code).2 =
        "34020000002170000001" ∧
      ¬ ∀ (localGbId : String) (calls : List DevCodeCall) (s : DevCodes),
        exec step (start localGbId) calls = some s →
          ∀ t : EmNodeType, s.mng.CodesInRange t.code := by
  have hmade : ((start "34020000002000000001").mng.createDevCode
      EmNodeType.alarmcontrolCode.code).2 = "34020000002170000001" := by decide
  refine ⟨hmade, fun h => ?_⟩
  have hrange := h "34020000002000000001" [] _ rfl .alarmcontrolCode
  obtain ⟨n, hn, -, -, htype⟩ := hrange.typed (by decide)
  have hdomain : domain (start "34020000002000000001").mng.strLocalGBID = "3402000000" := by decide
  have hsplit : "34020000002170000001" = "3402000000" ++ toString 2170000001 := by decide
  rw [hmade, hdomain, hsplit] at hn
  have heq := Decimal.toString_inj ((String.append_right_inj _).mp hn)
  rw [← heq] at htype
  exact absurd htype (by decide)

end DevCodes

end SignalingServer
