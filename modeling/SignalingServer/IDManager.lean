import Mathlib.Data.Finset.Basic
import SignalingServer.Lib.OrdMap
import SignalingServer.Lib.Lts
import SignalingServer.Tools.TypeConversion

/-!
Allocation of GB ids (IDManager.cpp). `CDevCodeMng` keeps the set of all known
ids and, for each device type, the set of sequence numbers in use. An id is its
ten-character domain followed by a ten-digit number whose first three digits are
the device type; numbers are only recorded for ids of the local domain.
-/

namespace SignalingServer

open Lts

/-- `CHnaldeMrg<unsigned long long>`. -/
structure CHnaldeMrg where
  uistart : Nat
  uiMax : Nat
  curIncrHandle : Nat
  handlemap : Finset Nat := ∅

namespace CHnaldeMrg

/-- The loop of `GetGBCodeSeq_R`, with the rounds it may still take; `none` is
its `return 0`. -/
def searchSeq (used : Finset Nat) (h : Nat) : Nat → Nat → Option Nat
  | 0, _ => none
  | rounds + 1, nistat =>
      if nistat ∈ used then
        if nistat > 0x98967E + h then none else searchSeq used h rounds (nistat + 1)
      else some nistat

/-- `CHnaldeMrg::GetGBCodeSeq_R`: the least unused number from `h` on, or 0. -/
def getGBCodeSeqR (q : CHnaldeMrg) (h : Nat) : CHnaldeMrg × Nat :=
  match searchSeq q.handlemap h (0x98967E + 2) h with
  | none => (q, 0)
  | some nistat => ({ q with handlemap := insert nistat q.handlemap }, nistat)

def addHandleR (q : CHnaldeMrg) (h : Nat) : CHnaldeMrg :=
  { q with handlemap := insert h q.handlemap }

def releasHandle (q : CHnaldeMrg) (h : Nat) : CHnaldeMrg :=
  { q with
    handlemap := q.handlemap.erase h
    curIncrHandle := if q.curIncrHandle > h then h else q.curIncrHandle }

/-- The loop stops at the first unused number. -/
theorem searchSeq_some {used : Finset Nat} {h rounds nistat r : Nat}
    (hsome : searchSeq used h rounds nistat = some r) :
    nistat ≤ r ∧ r ∉ used ∧ ∀ n, nistat ≤ n → n < r → n ∈ used := by
  induction rounds generalizing nistat with
  | zero => cases hsome
  | succ rounds ih =>
      by_cases hused : nistat ∈ used
      · rw [searchSeq, if_pos hused] at hsome
        split at hsome
        · cases hsome
        · obtain ⟨hge, hfree, hall⟩ := ih hsome
          refine ⟨by omega, hfree, fun n hn hn' => ?_⟩
          by_cases heq : n = nistat
          · exact heq ▸ hused
          · exact hall n (by omega) hn'
      · rw [searchSeq, if_neg hused] at hsome
        cases hsome
        exact ⟨le_refl _, hused, fun n hn hn' => by omega⟩

theorem searchSeq_le {used : Finset Nat} {h rounds nistat r : Nat}
    (hle : nistat ≤ h + 0x98967F) (hsome : searchSeq used h rounds nistat = some r) :
    r ≤ h + 0x98967F := by
  induction rounds generalizing nistat with
  | zero => cases hsome
  | succ rounds ih =>
      rw [searchSeq] at hsome
      split at hsome
      · split at hsome
        · cases hsome
        · exact ih (by omega) hsome
      · cases hsome
        exact hle

/-- What `GetGBCodeSeq_R` returns when it returns a number. -/
theorem getGBCodeSeqR_pos {q : CHnaldeMrg} {h : Nat} (hpos : 0 < (q.getGBCodeSeqR h).2) :
    h ≤ (q.getGBCodeSeqR h).2 ∧ (q.getGBCodeSeqR h).2 ≤ h + 0x98967F ∧
      (q.getGBCodeSeqR h).2 ∉ q.handlemap ∧
      (∀ n, h ≤ n → n < (q.getGBCodeSeqR h).2 → n ∈ q.handlemap) ∧
      (q.getGBCodeSeqR h).1 =
        { q with handlemap := insert (q.getGBCodeSeqR h).2 q.handlemap } := by
  unfold getGBCodeSeqR at hpos ⊢
  cases hsearch : searchSeq q.handlemap h (0x98967E + 2) h with
  | none =>
      rw [hsearch] at hpos
      exact absurd hpos (by simp)
  | some r =>
      obtain ⟨hge, hfree, hall⟩ := searchSeq_some hsearch
      exact ⟨hge, searchSeq_le (by omega) hsearch, hfree, hall, rfl⟩

theorem getGBCodeSeqR_subset (q : CHnaldeMrg) (h : Nat) :
    q.handlemap ⊆ (q.getGBCodeSeqR h).1.handlemap := by
  unfold getGBCodeSeqR
  split
  · exact Finset.Subset.refl _
  · exact Finset.subset_insert _ _

end CHnaldeMrg

/-- `CDevCodeMng`. A null entry of `mDevCodeSeq` is the same as a missing one. -/
structure CDevCodeMng where
  gbidList : Finset String
  strLocalGBID : String
  devCodeSeq : Std.TreeMap Int CHnaldeMrg

namespace CDevCodeMng

/-- `String::size` of an id. -/
def size (gbid : String) : Nat := gbid.toList.length

/-- The first `DEVCODE_DOMAIN_LEN` characters. -/
def domain (gbid : String) : String := substr gbid 0 10

/-- The table that the constructor of `CDevCodeMng` fills in. -/
def initialSeq : Std.TreeMap Int CHnaldeMrg :=
  [(118, 0x46555F00 + 1, 0x46EDF57F), (132, 0x4EAD9A00 + 1, 0x4F46307F),
    (214, 0x7F8DCF00 + 1, 0x8026657F), (200, 0x77359400 + 1, 0x77CE2A7F),
    (216, 0x80BEFC00 + 1, 0x8157927F), (111, 0x42294180 + 1, 0x42C1D7FF),
    (114, 0x43F30500 + 1, 0x448B9B7F), (113, 0x435A6E80 + 1, 0x43F304FF),
    (131, 0x4E150380 + 1, 0x4EAD99FF), (215, 0x80266580 + 1, 0x80BEFBFF),
    (117, 0x45BCC880 + 1, 0x46555EFF), (217, 0x81579280 + 1, 0x81F028FF)].foldl
    (fun m (e : Int × Nat × Nat) =>
      m.insert e.1 { uistart := e.2.1, uiMax := e.2.2, curIncrHandle := e.2.1 }) ∅

def new (localGbId : String) : CDevCodeMng where
  gbidList := ∅
  strLocalGBID := localGbId
  devCodeSeq := initialSeq

def getDeviceType (gbId : String) : Int :=
  if size gbId = 20 then string2Int (substr gbId 10 3) else -1

/-- The sequence number that an id carries. -/
def codeSeq (gbid : String) : Nat := string2Ull (substr gbid 10 10)

/-- A write to the sequence set of a type, if there is one. -/
def modifySeq (m : CDevCodeMng) (devType : Int) (f : CHnaldeMrg → CHnaldeMrg) : CDevCodeMng :=
  match m.devCodeSeq[devType]? with
  | some q => { m with devCodeSeq := m.devCodeSeq.insert devType (f q) }
  | none => m

/-- The local id is set and the id is of its domain. -/
def InLocalDomain (m : CDevCodeMng) (gbid : String) : Prop :=
  size m.strLocalGBID = 20 ∧ size gbid = 20 ∧ domain m.strLocalGBID = domain gbid

instance (m : CDevCodeMng) (gbid : String) : Decidable (m.InLocalDomain gbid) :=
  inferInstanceAs (Decidable (_ ∧ _ ∧ _))

/-- The second half of `AddDevCodeID` and `DelDevCodeID`: the number of an id of
the local domain is entered into, or released from, its type's sequence set. -/
def updateSeq (m : CDevCodeMng) (gbid : String) (f : CHnaldeMrg → Nat → CHnaldeMrg) :
    CDevCodeMng :=
  if m.InLocalDomain gbid ∧ getDeviceType gbid > 0 then
    m.modifySeq (getDeviceType gbid) fun q => f q (codeSeq gbid)
  else m

def addDevCodeID (m : CDevCodeMng) (gbid : String) : CDevCodeMng :=
  if size gbid ≠ 20 then m
  else updateSeq { m with gbidList := insert gbid m.gbidList } gbid CHnaldeMrg.addHandleR

def delDevCodeID (m : CDevCodeMng) (gbid : String) : CDevCodeMng :=
  if size gbid ≠ 20 then m
  else updateSeq { m with gbidList := m.gbidList.erase gbid } gbid CHnaldeMrg.releasHandle

def isDevCodeExist (m : CDevCodeMng) (gbid : String) : Bool :=
  if size gbid ≠ 20 then true else gbid ∈ m.gbidList

/-- The first number and the type of the ids that `CreateDevCode` makes. -/
def createStart (devType : Int) : Nat × Int :=
  if devType = 118 then (0x46555F00 + 1, 118)
  else if devType = 132 then (0x4EAD9A00 + 1, 132)
  else if devType = 214 then (0x7F8DCF00 + 1, 214)
  else if devType = 200 then (0x77359400 + 1, 200)
  else if devType = 216 then (0x80BEFC00 + 1, 216)
  else if devType = 111 then (0x42294180 + 1, 111)
  else if devType = 114 then (0x43F30500 + 1, 114)
  else if devType = 113 then (0x435A6E80 + 1, 113)
  else if devType = 131 then (0x4E150380 + 1, 131)
  else if devType = 215 then (0x80266580 + 1, 215)
  else (0x81579280 + 1, 217)

/-- `CDevCodeMng::CreateDevCode`, with `em_node_unknown` 0 and `em_node_type_max` 218. -/
def createDevCode (m : CDevCodeMng) (devType : Int) : CDevCodeMng × String :=
  if devType ≤ 0 ∨ devType ≥ 218 then (m, "")
  else
    match m.devCodeSeq[(createStart devType).2]? with
    | none => (m, "")
    | some q =>
        let (q, nCode) := q.getGBCodeSeqR (createStart devType).1
        let m := { m with devCodeSeq := m.devCodeSeq.insert (createStart devType).2 q }
        if nCode > 0 then
          if size m.strLocalGBID = 20 then
            let newGBID := domain m.strLocalGBID ++ toString nCode
            ({ m with gbidList := insert newGBID m.gbidList }, newGBID)
          else (m, "")
        else (m, "")

/-- The first half of `SetLocalGBID`: the number of the old local id is released. -/
def releaseLocal (m : CDevCodeMng) : CDevCodeMng :=
  if size m.strLocalGBID = 20 then
    if getDeviceType m.strLocalGBID > 0 then
      m.modifySeq (getDeviceType m.strLocalGBID) fun q => q.releasHandle (codeSeq m.strLocalGBID)
    else m
  else m

def setLocalGBID (m : CDevCodeMng) (localgbid : String) : CDevCodeMng :=
  if size localgbid ≠ 20 ∨ m.strLocalGBID = localgbid then m
  else addDevCodeID { m.releaseLocal with strLocalGBID := localgbid } localgbid

/-! ### Ids and their numbers -/

/-- The device types that `CreateDevCode` makes ids for. -/
def codeTypes : List Int := [118, 132, 214, 200, 216, 111, 114, 113, 131, 215, 217]

/-- The numbers that `CreateDevCode` reserves for a type, `t0000001` to `t9999999`. -/
def InBlock (devType : Int) (n : Nat) : Prop :=
  devType * 10000000 < n ∧ (n : Int) < (devType + 1) * 10000000

/-- The first number of a block and its type. -/
def StartsBlock (start : Nat × Int) : Prop :=
  start.2 ∈ codeTypes ∧ (start.1 : Int) = start.2 * 10000000 + 1

theorem createStart_spec (devType : Int) :
    (createStart devType).2 ∈ codeTypes ∧
      ((createStart devType).1 : Int) = (createStart devType).2 * 10000000 + 1 := by
  show StartsBlock (createStart devType)
  unfold createStart
  -- one entry of the chain after the other
  iterate 10
    apply iteInduction (motive := StartsBlock)
    · exact fun _ => ⟨by decide, by decide⟩
    intro _
  exact ⟨by decide, by decide⟩

theorem codeTypes_bounds {t : Int} (ht : t ∈ codeTypes) : 111 ≤ t ∧ t ≤ 217 := by
  have hall : ∀ t ∈ codeTypes, 111 ≤ t ∧ t ≤ 217 := by decide
  exact hall t ht

theorem ten_digits {t : Int} {n : Nat} (ht : t ∈ codeTypes) (hn : InBlock t n) :
    10 ^ 9 ≤ n ∧ n < 2 ^ 32 ∧ ((n / 10 ^ 7 : Nat) : Int) = t := by
  obtain ⟨hlow, hhigh⟩ := codeTypes_bounds ht
  obtain ⟨hn₁, hn₂⟩ := hn
  refine ⟨by omega, by omega, by omega⟩

theorem length_toString {n : Nat} (hlow : 10 ^ 9 ≤ n) (hhigh : n < 10 ^ 10) :
    (toString n).toList.length = 10 := by
  rw [Nat.toString_eq_repr, Nat.toList_repr]
  exact Decimal.length_toDigits hlow hhigh

theorem domain_made {d : String} (hd : d.toList.length = 10) (s : String) :
    domain (d ++ s) = d := by
  apply String.toList_inj.mp
  rw [domain, toList_substr, String.toList_append, List.drop_zero, ← hd, List.take_left]

theorem drop_made {d : String} (hd : d.toList.length = 10) (s : String) :
    (d ++ s).toList.drop 10 = s.toList := by
  rw [String.toList_append, ← hd, List.drop_left]

section Made

variable {d : String} {n : Nat} (hd : d.toList.length = 10) (hlow : 10 ^ 9 ≤ n)
  (hhigh : n < 2 ^ 32)

include hd hlow hhigh

theorem size_made : size (d ++ toString n) = 20 := by
  rw [size, String.toList_append, List.length_append, hd, length_toString hlow (by omega)]

theorem codeSeq_made : codeSeq (d ++ toString n) = n := by
  have hlen := length_toString hlow (by omega : n < 10 ^ 10)
  have hsub : substr (d ++ toString n) 10 10 = toString n := by
    apply String.toList_inj.mp
    rw [toList_substr, drop_made hd]
    exact List.take_of_length_le (by omega)
  rw [codeSeq, hsub, string2Ull_toString (by omega)]

theorem getDeviceType_made : getDeviceType (d ++ toString n) = ((n / 10 ^ 7 : Nat) : Int) := by
  rw [getDeviceType, if_pos (size_made hd hlow hhigh)]
  apply string2Int_of_toDigits _ (by omega)
  obtain ⟨ds, -, heq⟩ := Decimal.toDigits_eq_append (n := n) (k := 7) (by omega)
  have hlen : (Nat.toDigits 10 (n / 10 ^ 7)).length = 3 :=
    Decimal.length_toDigits (by omega) (by omega)
  rw [toList_substr, drop_made hd, Nat.toString_eq_repr, Nat.toList_repr, heq, ← hlen,
    List.take_left]

end Made

theorem length_domain {gbid : String} (hsize : size gbid = 20) :
    (domain gbid).toList.length = 10 := by
  rw [domain, toList_substr, List.length_take, List.drop_zero]
  unfold size at hsize
  omega

/-- An id with a number of ten digits is made of its domain and that number. -/
theorem eq_made {gbid : String} (hsize : size gbid = 20) (hlow : 10 ^ 9 ≤ codeSeq gbid)
    (hhigh : codeSeq gbid < 10 ^ 10) : gbid = domain gbid ++ toString (codeSeq gbid) := by
  unfold size at hsize
  have htail : (substr gbid 10 10).toList.length = 10 := by
    rw [toList_substr, List.length_take, List.length_drop]
    omega
  have heq : substr gbid 10 10 = toString (codeSeq gbid) :=
    eq_toString_of_string2Ull htail rfl hlow hhigh
  rw [← heq]
  apply String.toList_inj.mp
  rw [String.toList_append, domain, toList_substr, toList_substr, List.drop_zero]
  have hrest : (gbid.toList.drop 10).take 10 = gbid.toList.drop 10 :=
    List.take_of_length_le (by rw [List.length_drop]; omega)
  rw [hrest, List.take_append_drop]

/-! ### The sequence sets -/

/-- The numbers in use for a type. -/
@[irreducible] def handles (s : Std.TreeMap Int CHnaldeMrg) (devType : Int) : Finset Nat :=
  match s[devType]? with
  | some q => q.handlemap
  | none => ∅

abbrev seqOf (m : CDevCodeMng) (devType : Int) : Finset Nat := handles m.devCodeSeq devType

@[simp] theorem modifySeq_gbidList (m : CDevCodeMng) (devType : Int)
    (f : CHnaldeMrg → CHnaldeMrg) : (m.modifySeq devType f).gbidList = m.gbidList := by
  unfold modifySeq
  split <;> rfl

@[simp] theorem modifySeq_strLocalGBID (m : CDevCodeMng) (devType : Int)
    (f : CHnaldeMrg → CHnaldeMrg) : (m.modifySeq devType f).strLocalGBID = m.strLocalGBID := by
  unfold modifySeq
  split <;> rfl

theorem modifySeq_isSome (m : CDevCodeMng) (devType t : Int) (f : CHnaldeMrg → CHnaldeMrg) :
    ((m.modifySeq devType f).devCodeSeq[t]?).isSome = (m.devCodeSeq[t]?).isSome := by
  unfold modifySeq
  cases hq : m.devCodeSeq[devType]? with
  | none => rfl
  | some q =>
      rw [OrdMap.getElem?_insert]
      split
      · rename_i heq
        rw [heq, hq]
        rfl
      · rfl

theorem seqOf_modifySeq_of_ne {m : CDevCodeMng} {devType t : Int}
    {f : CHnaldeMrg → CHnaldeMrg} (hne : devType ≠ t) :
    (m.modifySeq devType f).seqOf t = m.seqOf t := by
  unfold modifySeq
  split
  · unfold seqOf handles
    rw [OrdMap.getElem?_insert, if_neg (Ne.symm hne)]
  · rfl

theorem seqOf_modifySeq_self {m : CDevCodeMng} {t : Int} {q : CHnaldeMrg}
    {f : CHnaldeMrg → CHnaldeMrg} (hq : m.devCodeSeq[t]? = some q) :
    (m.modifySeq t f).seqOf t = (f q).handlemap := by
  rw [modifySeq, hq]
  rw [seqOf, handles, OrdMap.getElem?_insert, if_pos rfl]

theorem seqOf_eq {m : CDevCodeMng} {t : Int} {q : CHnaldeMrg}
    (hq : m.devCodeSeq[t]? = some q) : m.seqOf t = q.handlemap := by
  rw [seqOf, handles, hq]

/-! ### Ids and numbers in step -/

/-- Every known id of the domain whose number lies in a type's block has that
number in the type's sequence set. -/
def Recorded (m : CDevCodeMng) (d : String) : Prop :=
  ∀ t ∈ codeTypes, ∀ n, InBlock t n → d ++ toString n ∈ m.gbidList → n ∈ m.seqOf t

/-- The two structures are in step: the sequence sets exist, and they have the
numbers of the known ids of the local domain. -/
structure Inv (m : CDevCodeMng) : Prop where
  tables : ∀ t ∈ codeTypes, (m.devCodeSeq[t]?).isSome
  recorded : size m.strLocalGBID = 20 → m.Recorded (domain m.strLocalGBID)

theorem inv_new (localGbId : String) : Inv (new localGbId) where
  tables := by
    have hall : ∀ t ∈ codeTypes, (initialSeq[t]?).isSome := by decide
    exact hall
  recorded := fun _ t _ n _ hmem => absurd hmem (Finset.notMem_empty _)

@[simp] theorem updateSeq_gbidList (m : CDevCodeMng) (gbid : String)
    (f : CHnaldeMrg → Nat → CHnaldeMrg) : (m.updateSeq gbid f).gbidList = m.gbidList := by
  unfold updateSeq
  split
  · exact modifySeq_gbidList _ _ _
  · rfl

@[simp] theorem updateSeq_strLocalGBID (m : CDevCodeMng) (gbid : String)
    (f : CHnaldeMrg → Nat → CHnaldeMrg) :
    (m.updateSeq gbid f).strLocalGBID = m.strLocalGBID := by
  unfold updateSeq
  split
  · exact modifySeq_strLocalGBID _ _ _
  · rfl

theorem updateSeq_isSome (m : CDevCodeMng) (gbid : String)
    (f : CHnaldeMrg → Nat → CHnaldeMrg) (t : Int) :
    ((m.updateSeq gbid f).devCodeSeq[t]?).isSome = (m.devCodeSeq[t]?).isSome := by
  unfold updateSeq
  split
  · exact modifySeq_isSome _ _ _ _
  · rfl

theorem addDevCodeID_gbidList (m : CDevCodeMng) (gbid : String) :
    (m.addDevCodeID gbid).gbidList =
      if size gbid = 20 then insert gbid m.gbidList else m.gbidList := by
  by_cases hsize : size gbid = 20
  · rw [addDevCodeID, if_neg (not_not.mpr hsize), if_pos hsize, updateSeq_gbidList]
  · rw [addDevCodeID, if_pos hsize, if_neg hsize]

theorem delDevCodeID_gbidList (m : CDevCodeMng) (gbid : String) :
    (m.delDevCodeID gbid).gbidList =
      if size gbid = 20 then m.gbidList.erase gbid else m.gbidList := by
  by_cases hsize : size gbid = 20
  · rw [delDevCodeID, if_neg (not_not.mpr hsize), if_pos hsize, updateSeq_gbidList]
  · rw [delDevCodeID, if_pos hsize, if_neg hsize]

theorem addDevCodeID_strLocalGBID (m : CDevCodeMng) (gbid : String) :
    (m.addDevCodeID gbid).strLocalGBID = m.strLocalGBID := by
  unfold addDevCodeID
  split
  · rfl
  · exact updateSeq_strLocalGBID _ _ _

theorem delDevCodeID_strLocalGBID (m : CDevCodeMng) (gbid : String) :
    (m.delDevCodeID gbid).strLocalGBID = m.strLocalGBID := by
  unfold delDevCodeID
  split
  · rfl
  · exact updateSeq_strLocalGBID _ _ _

theorem addDevCodeID_isSome (m : CDevCodeMng) (gbid : String) (t : Int) :
    ((m.addDevCodeID gbid).devCodeSeq[t]?).isSome = (m.devCodeSeq[t]?).isSome := by
  unfold addDevCodeID
  split
  · rfl
  · exact updateSeq_isSome _ _ _ _

theorem delDevCodeID_isSome (m : CDevCodeMng) (gbid : String) (t : Int) :
    ((m.delDevCodeID gbid).devCodeSeq[t]?).isSome = (m.devCodeSeq[t]?).isSome := by
  unfold delDevCodeID
  split
  · rfl
  · exact updateSeq_isSome _ _ _ _

theorem subset_seqOf_addHandleR (m : CDevCodeMng) (devType t : Int) (h : Nat) :
    m.seqOf t ⊆ (m.modifySeq devType fun q => q.addHandleR h).seqOf t := by
  by_cases heq : devType = t
  · subst heq
    cases hq : m.devCodeSeq[devType]? with
    | none =>
        rw [modifySeq, hq]
    | some q =>
        rw [seqOf_eq hq, seqOf_modifySeq_self hq]
        exact Finset.subset_insert _ _
  · rw [seqOf_modifySeq_of_ne heq]

theorem subset_seqOf_addDevCodeID (m : CDevCodeMng) (gbid : String) (t : Int) :
    m.seqOf t ⊆ (m.addDevCodeID gbid).seqOf t := by
  unfold addDevCodeID updateSeq
  split
  · exact Finset.Subset.refl _
  · split
    · exact subset_seqOf_addHandleR { m with gbidList := insert gbid m.gbidList } _ _ _
    · exact Finset.Subset.refl _

/-- Adding an id of the local domain records its number. -/
theorem mem_seqOf_addDevCodeID {m : CDevCodeMng} {t : Int} {n : Nat}
    (ht : t ∈ codeTypes) (hn : InBlock t n) (hsome : (m.devCodeSeq[t]?).isSome)
    (hsize : size m.strLocalGBID = 20) :
    n ∈ (m.addDevCodeID (domain m.strLocalGBID ++ toString n)).seqOf t := by
  obtain ⟨hlow, hhigh, htype⟩ := ten_digits ht hn
  have hd := length_domain hsize
  have hgbid := size_made hd hlow hhigh
  have hdev : getDeviceType (domain m.strLocalGBID ++ toString n) = t :=
    (getDeviceType_made hd hlow hhigh).trans htype
  have hpos : t > 0 := by
    have hbound := codeTypes_bounds ht
    omega
  have hlocal : m.InLocalDomain (domain m.strLocalGBID ++ toString n) :=
    ⟨hsize, hgbid, (domain_made hd _).symm⟩
  obtain ⟨q, hq⟩ := Option.isSome_iff_exists.mp hsome
  have hq' : ({ m with
      gbidList := insert (domain m.strLocalGBID ++ toString n) m.gbidList } :
        CDevCodeMng).devCodeSeq[t]? = some q := hq
  rw [addDevCodeID, if_neg (not_not.mpr hgbid), updateSeq, hdev, codeSeq_made hd hlow hhigh,
    if_pos ⟨hlocal, hpos⟩, seqOf_modifySeq_self hq']
  exact Finset.mem_insert_self _ _

/-- Adding an id completes the record, also when only that id was missing in it. -/
theorem recorded_addDevCodeID {m : CDevCodeMng} {gbid : String}
    (htables : ∀ t ∈ codeTypes, (m.devCodeSeq[t]?).isSome) (hsize : size m.strLocalGBID = 20)
    (hrec : ∀ t ∈ codeTypes, ∀ n, InBlock t n → domain m.strLocalGBID ++ toString n ≠ gbid →
      domain m.strLocalGBID ++ toString n ∈ m.gbidList → n ∈ m.seqOf t) :
    (m.addDevCodeID gbid).Recorded (domain m.strLocalGBID) := by
  intro t ht n hn hmem
  by_cases heq : domain m.strLocalGBID ++ toString n = gbid
  · rw [← heq]
    exact mem_seqOf_addDevCodeID ht hn (htables t ht) hsize
  · rw [addDevCodeID_gbidList] at hmem
    have hold : domain m.strLocalGBID ++ toString n ∈ m.gbidList := by
      split at hmem
      · exact (Finset.mem_insert.mp hmem).resolve_left heq
      · exact hmem
    exact subset_seqOf_addDevCodeID m gbid t (hrec t ht n hn heq hold)

theorem Inv.addDevCodeID {m : CDevCodeMng} (hm : Inv m) (gbid : String) :
    Inv (m.addDevCodeID gbid) where
  tables := by
    intro t ht
    rw [addDevCodeID_isSome]
    exact hm.tables t ht
  recorded := by
    rw [addDevCodeID_strLocalGBID]
    intro hsize
    exact recorded_addDevCodeID hm.tables hsize
      fun t ht n hn _ hmem => hm.recorded hsize t ht n hn hmem

/-- A release takes a number out of a set only if it is the number of the id. -/
theorem mem_seqOf_releasHandle {m : CDevCodeMng} {devType t : Int} {h n : Nat}
    (hn : n ∈ m.seqOf t) (hne : ¬ (devType = t ∧ h = n)) :
    n ∈ (m.modifySeq devType fun q => q.releasHandle h).seqOf t := by
  by_cases heq : devType = t
  · subst heq
    have hne' : n ≠ h := fun hh => hne ⟨rfl, hh.symm⟩
    cases hq : m.devCodeSeq[devType]? with
    | none =>
        rw [modifySeq, hq]
        exact hn
    | some q =>
        rw [seqOf_modifySeq_self hq]
        rw [seqOf_eq hq] at hn
        exact Finset.mem_erase.mpr ⟨hne', hn⟩
  · rw [seqOf_modifySeq_of_ne heq]
    exact hn

theorem Inv.delDevCodeID {m : CDevCodeMng} (hm : Inv m) (gbid : String) :
    Inv (m.delDevCodeID gbid) where
  tables := by
    intro t ht
    rw [delDevCodeID_isSome]
    exact hm.tables t ht
  recorded := by
    rw [delDevCodeID_strLocalGBID]
    intro hlocal t ht n hn hmem
    rw [delDevCodeID_gbidList] at hmem
    by_cases hsize : size gbid = 20
    · rw [if_pos hsize] at hmem
      have hne := Finset.ne_of_mem_erase hmem
      have hold : n ∈ m.seqOf t :=
        hm.recorded hlocal t ht n hn (Finset.mem_of_mem_erase hmem)
      rw [CDevCodeMng.delDevCodeID, if_neg (not_not.mpr hsize), updateSeq]
      split
      · rename_i hin
        have hold' : n ∈ ({ m with gbidList := m.gbidList.erase gbid } : CDevCodeMng).seqOf t :=
          hold
        apply mem_seqOf_releasHandle hold'
        rintro ⟨-, hseq⟩
        -- The released number belongs to the id that was deleted.
        have hdigits := ten_digits ht hn
        have hgbid := eq_made hsize (by omega) (by omega)
        rw [hseq, ← hin.1.2.2] at hgbid
        exact hne hgbid.symm
      · exact hold
    · rw [if_neg hsize] at hmem
      rw [CDevCodeMng.delDevCodeID, if_pos hsize]
      exact hm.recorded hlocal t ht n hn hmem

/-! ### Making an id -/

/-- The state after `CreateDevCode` has taken its sequence number from `q`. -/
def takeSeq (m : CDevCodeMng) (devType : Int) (q : CHnaldeMrg) : CDevCodeMng :=
  { m with
    devCodeSeq := m.devCodeSeq.insert (createStart devType).2
      (q.getGBCodeSeqR (createStart devType).1).1 }

/-- The sequence number that `CreateDevCode` takes from `q`. -/
def takenSeq (devType : Int) (q : CHnaldeMrg) : Nat :=
  (q.getGBCodeSeqR (createStart devType).1).2

/-- `CreateDevCode` refuses, or only uses up a number, or makes an id. -/
theorem createDevCode_cases (m : CDevCodeMng) (devType : Int) :
    (m.createDevCode devType = (m, "")) ∨
      (∃ q, m.devCodeSeq[(createStart devType).2]? = some q ∧
        m.createDevCode devType = (m.takeSeq devType q, "")) ∨
      ∃ q, m.devCodeSeq[(createStart devType).2]? = some q ∧ 0 < takenSeq devType q ∧
        size m.strLocalGBID = 20 ∧
        m.createDevCode devType =
          ({ m.takeSeq devType q with
              gbidList := insert (domain m.strLocalGBID ++ toString (takenSeq devType q))
                m.gbidList },
            domain m.strLocalGBID ++ toString (takenSeq devType q)) := by
  unfold createDevCode
  by_cases hrange : devType ≤ 0 ∨ devType ≥ 218
  · exact .inl (if_pos hrange)
  · rw [if_neg hrange]
    cases hq : m.devCodeSeq[(createStart devType).2]? with
    | none => exact .inl rfl
    | some q =>
        by_cases hpos : takenSeq devType q > 0
        · by_cases hsize : size m.strLocalGBID = 20
          · refine .inr (.inr ⟨q, rfl, hpos, hsize, ?_⟩)
            exact (if_pos hpos).trans (if_pos hsize)
          · exact .inr (.inl ⟨q, rfl, (if_pos hpos).trans (if_neg hsize)⟩)
        · exact .inr (.inl ⟨q, rfl, if_neg hpos⟩)

theorem takeSeq_eq {m : CDevCodeMng} {devType : Int} {q : CHnaldeMrg}
    (hq : m.devCodeSeq[(createStart devType).2]? = some q) :
    m.takeSeq devType q =
      m.modifySeq (createStart devType).2 fun q => (q.getGBCodeSeqR (createStart devType).1).1 := by
  rw [modifySeq, hq, takeSeq]

theorem subset_seqOf_takeSeq {m : CDevCodeMng} {devType : Int} {q : CHnaldeMrg}
    (hq : m.devCodeSeq[(createStart devType).2]? = some q) (t : Int) :
    m.seqOf t ⊆ (m.takeSeq devType q).seqOf t := by
  rw [takeSeq_eq hq]
  by_cases heq : (createStart devType).2 = t
  · rw [← heq, seqOf_eq hq, seqOf_modifySeq_self hq]
    exact CHnaldeMrg.getGBCodeSeqR_subset _ _
  · rw [seqOf_modifySeq_of_ne heq]

theorem takeSeq_isSome (m : CDevCodeMng) {devType : Int} (q : CHnaldeMrg) {t : Int}
    (ht : (m.devCodeSeq[t]?).isSome) : ((m.takeSeq devType q).devCodeSeq[t]?).isSome := by
  rw [takeSeq, OrdMap.getElem?_insert]
  split
  · rfl
  · exact ht

/-- The number taken is unused and lies in the type's block, except for the one
number behind the block that the search reaches when the block is used up. -/
theorem takenSeq_spec {m : CDevCodeMng} {devType : Int} {q : CHnaldeMrg}
    (hq : m.devCodeSeq[(createStart devType).2]? = some q) (hpos : 0 < takenSeq devType q) :
    (createStart devType).1 ≤ takenSeq devType q ∧
      takenSeq devType q ≤ (createStart devType).1 + 0x98967F ∧
      takenSeq devType q ∉ m.seqOf (createStart devType).2 ∧
      (∀ n, (createStart devType).1 ≤ n → n < takenSeq devType q →
        n ∈ m.seqOf (createStart devType).2) ∧
      takenSeq devType q ∈ (m.takeSeq devType q).seqOf (createStart devType).2 := by
  obtain ⟨hge, hle, hfree, hall, heq⟩ := CHnaldeMrg.getGBCodeSeqR_pos hpos
  have hseq : m.seqOf (createStart devType).2 = q.handlemap := seqOf_eq hq
  rw [hseq]
  refine ⟨hge, hle, hfree, hall, ?_⟩
  rw [takeSeq_eq hq, seqOf_modifySeq_self hq, heq]
  exact Finset.mem_insert_self _ _

theorem takenSeq_digits {m : CDevCodeMng} {devType : Int} {q : CHnaldeMrg}
    (hq : m.devCodeSeq[(createStart devType).2]? = some q) (hpos : 0 < takenSeq devType q) :
    10 ^ 9 ≤ takenSeq devType q ∧ takenSeq devType q < 2 ^ 32 := by
  have hspec := takenSeq_spec hq hpos
  have hstart := createStart_spec devType
  have hbound := codeTypes_bounds hstart.1
  omega

theorem made_ne_empty {m : CDevCodeMng} {devType : Int} {q : CHnaldeMrg}
    (hq : m.devCodeSeq[(createStart devType).2]? = some q) (hpos : 0 < takenSeq devType q)
    (hsize : size m.strLocalGBID = 20) :
    domain m.strLocalGBID ++ toString (takenSeq devType q) ≠ "" := by
  intro hempty
  obtain ⟨hlow, hhigh⟩ := takenSeq_digits hq hpos
  have hlen := size_made (length_domain hsize) hlow hhigh
  rw [hempty] at hlen
  exact absurd hlen (by decide)

theorem Inv.createDevCode {m : CDevCodeMng} (hm : Inv m) (devType : Int) :
    Inv (m.createDevCode devType).1 := by
  obtain heq | ⟨q, hq, heq⟩ | ⟨q, hq, hpos, hsize, heq⟩ := createDevCode_cases m devType
  · rw [heq]
    exact hm
  · rw [heq]
    refine ⟨fun t ht => takeSeq_isSome m q (hm.tables t ht), ?_⟩
    intro hlocal t ht n hn hmem
    exact subset_seqOf_takeSeq hq t (hm.recorded hlocal t ht n hn hmem)
  · rw [heq]
    refine ⟨fun t ht => takeSeq_isSome m q (hm.tables t ht), ?_⟩
    intro hlocal t ht n hn hmem
    have hd := length_domain hsize
    rcases Finset.mem_insert.mp hmem with hnew | hold
    · -- The new id carries the number that was taken, and the block names its type.
      obtain ⟨hlow, hhigh, -⟩ := ten_digits ht hn
      obtain ⟨hlow', hhigh'⟩ := takenSeq_digits hq hpos
      have hseq : n = takenSeq devType q := by
        have hcodes : codeSeq (domain m.strLocalGBID ++ toString n) =
            codeSeq (domain m.strLocalGBID ++ toString (takenSeq devType q)) :=
          congrArg codeSeq hnew
        rwa [codeSeq_made hd hlow hhigh, codeSeq_made hd hlow' hhigh'] at hcodes
      obtain ⟨hge, hle, -, -, htaken⟩ := takenSeq_spec hq hpos
      have hstart := (createStart_spec devType).2
      have htype : (createStart devType).2 = t := by
        obtain ⟨hn₁, hn₂⟩ := hn
        omega
      rw [hseq, ← htype]
      exact htaken
    · exact subset_seqOf_takeSeq hq t (hm.recorded hlocal t ht n hn hold)

/-- `CreateDevCode` has a number of its own to give: one of the type's block is
unused, or the id behind the block is not taken. -/
def RoomFor (m : CDevCodeMng) (devType : Int) : Prop :=
  size m.strLocalGBID = 20 →
    (∃ n, (createStart devType).1 ≤ n ∧ n ≤ (createStart devType).1 + 0x98967E ∧
      n ∉ m.seqOf (createStart devType).2) ∨
    domain m.strLocalGBID ++ toString ((createStart devType).1 + 0x98967F) ∉ m.gbidList

/-- With the structures in step, a made id was not known before. -/
theorem Inv.fresh {m : CDevCodeMng} (hm : Inv m) {devType : Int} (hroom : m.RoomFor devType)
    (hmade : (m.createDevCode devType).2 ≠ "") :
    m.isDevCodeExist (m.createDevCode devType).2 = false := by
  obtain heq | ⟨q, hq, heq⟩ | ⟨q, hq, hpos, hsize, heq⟩ := createDevCode_cases m devType
  · rw [heq] at hmade
    exact absurd rfl hmade
  · rw [heq] at hmade
    exact absurd rfl hmade
  · rw [heq]
    have hd := length_domain hsize
    obtain ⟨hlow, hhigh⟩ := takenSeq_digits hq hpos
    obtain ⟨hge, hle, hfree, hall, -⟩ := takenSeq_spec hq hpos
    obtain ⟨htype, hstart⟩ := createStart_spec devType
    have hnew : domain m.strLocalGBID ++ toString (takenSeq devType q) ∉ m.gbidList := by
      intro hmem
      by_cases hlast : takenSeq devType q = (createStart devType).1 + 0x98967F
      · rcases hroom hsize with ⟨n, hn₁, hn₂, hn₃⟩ | hbehind
        · exact hn₃ (hall n hn₁ (by omega))
        · rw [← hlast] at hbehind
          exact hbehind hmem
      · have hblock : InBlock (createStart devType).2 (takenSeq devType q) :=
          ⟨by omega, by omega⟩
        exact hfree (hm.recorded hsize _ htype _ hblock hmem)
    rw [isDevCodeExist, if_neg (not_not.mpr (size_made hd hlow hhigh))]
    exact decide_eq_false hnew

/-! ### Changing the local id -/

/-- The structures stay in step when the local id changes: every known id of the
new domain, apart from the new local id itself, has its number recorded, and its
number is not the one of the old local id, which the change releases. -/
def Changeable (m : CDevCodeMng) (localgbid : String) : Prop :=
  size localgbid = 20 → m.strLocalGBID ≠ localgbid →
    ∀ t ∈ codeTypes, ∀ n, InBlock t n → domain localgbid ++ toString n ≠ localgbid →
      domain localgbid ++ toString n ∈ m.gbidList →
        n ∈ m.seqOf t ∧
          ¬ (size m.strLocalGBID = 20 ∧ getDeviceType m.strLocalGBID = t ∧
            codeSeq m.strLocalGBID = n)

@[simp] theorem releaseLocal_gbidList (m : CDevCodeMng) :
    m.releaseLocal.gbidList = m.gbidList := by
  unfold releaseLocal
  split
  · split
    · exact modifySeq_gbidList _ _ _
    · rfl
  · rfl

theorem releaseLocal_isSome (m : CDevCodeMng) (t : Int) :
    (m.releaseLocal.devCodeSeq[t]?).isSome = (m.devCodeSeq[t]?).isSome := by
  unfold releaseLocal
  split
  · split
    · exact modifySeq_isSome _ _ _ _
    · rfl
  · rfl

theorem mem_seqOf_releaseLocal {m : CDevCodeMng} {t : Int} {n : Nat} (hn : n ∈ m.seqOf t)
    (hne : ¬ (size m.strLocalGBID = 20 ∧ getDeviceType m.strLocalGBID = t ∧
      codeSeq m.strLocalGBID = n)) : n ∈ m.releaseLocal.seqOf t := by
  unfold releaseLocal
  split
  · rename_i hsize
    split
    · exact mem_seqOf_releasHandle hn fun hh => hne ⟨hsize, hh.1, hh.2⟩
    · exact hn
  · exact hn

theorem setLocalGBID_gbidList (m : CDevCodeMng) (localgbid : String) :
    (m.setLocalGBID localgbid).gbidList =
      if size localgbid ≠ 20 ∨ m.strLocalGBID = localgbid then m.gbidList
      else insert localgbid m.gbidList := by
  unfold setLocalGBID
  by_cases hsame : size localgbid ≠ 20 ∨ m.strLocalGBID = localgbid
  · rw [if_pos hsame, if_pos hsame]
  · have hsize : size localgbid = 20 := by
      by_contra hne
      exact hsame (.inl hne)
    rw [if_neg hsame, if_neg hsame, addDevCodeID_gbidList, if_pos hsize, releaseLocal_gbidList]

theorem Inv.setLocalGBID {m : CDevCodeMng} (hm : Inv m) {localgbid : String}
    (hchange : m.Changeable localgbid) : Inv (m.setLocalGBID localgbid) := by
  by_cases hsame : size localgbid ≠ 20 ∨ m.strLocalGBID = localgbid
  · rw [CDevCodeMng.setLocalGBID, if_pos hsame]
    exact hm
  · rw [CDevCodeMng.setLocalGBID, if_neg hsame]
    have hsize : size localgbid = 20 := by
      by_contra hne
      exact hsame (.inl hne)
    have hne : m.strLocalGBID ≠ localgbid := fun heq => hsame (.inr heq)
    have htables : ∀ t ∈ codeTypes, (m.releaseLocal.devCodeSeq[t]?).isSome := by
      intro t ht
      rw [releaseLocal_isSome]
      exact hm.tables t ht
    refine ⟨?_, ?_⟩
    · intro t ht
      rw [addDevCodeID_isSome]
      exact htables t ht
    · rw [addDevCodeID_strLocalGBID]
      intro _
      refine recorded_addDevCodeID (m := { m.releaseLocal with strLocalGBID := localgbid })
        htables hsize fun t ht n hn hself hmem => ?_
      have hmem' : domain localgbid ++ toString n ∈ m.gbidList := by
        rw [← releaseLocal_gbidList]
        exact hmem
      obtain ⟨hrec, hkept⟩ := hchange hsize hne t ht n hn hself hmem'
      exact mem_seqOf_releaseLocal hrec hkept

end CDevCodeMng

/-! ### Histories -/

/-- The manager with the ids that are live: added or made, and not deleted since. -/
structure DevCodes where
  mng : CDevCodeMng
  live : List String

/-- The calls of a history. -/
inductive DevCodeCall where
  | setLocalGBID (localgbid : String)
  | addDevCodeID (gbid : String)
  | delDevCodeID (gbid : String)
  | createDevCode (devType : Int)
  deriving DecidableEq, Repr

namespace DevCodes

open CDevCodeMng

def start (localGbId : String) : DevCodes := ⟨.new localGbId, []⟩

/-- An id that is added again is the same id. -/
def liveAdd (live : List String) (gbid : String) : List String :=
  if gbid ∈ live then live else live ++ [gbid]

def call (s : DevCodes) : DevCodeCall → DevCodes
  | .setLocalGBID localgbid =>
      { mng := s.mng.setLocalGBID localgbid
        live :=
          if size localgbid ≠ 20 ∨ s.mng.strLocalGBID = localgbid then s.live
          else liveAdd s.live localgbid }
  | .addDevCodeID gbid =>
      { mng := s.mng.addDevCodeID gbid
        live := if size gbid = 20 then liveAdd s.live gbid else s.live }
  | .delDevCodeID gbid =>
      { mng := s.mng.delDevCodeID gbid
        live := if size gbid = 20 then s.live.filter (· ≠ gbid) else s.live }
  | .createDevCode devType =>
      { mng := (s.mng.createDevCode devType).1
        live :=
          if (s.mng.createDevCode devType).2 = "" then s.live
          else s.live ++ [(s.mng.createDevCode devType).2] }

def step : Step DevCodes DevCodeCall := fun s c => some (s.call c)

/-- A call that makes an id makes one that was not known before. -/
def Fresh (s : DevCodes) : DevCodeCall → Prop
  | .createDevCode devType =>
      (s.mng.createDevCode devType).2 ≠ "" →
        s.mng.isDevCodeExist (s.mng.createDevCode devType).2 = false
  | _ => True

/-- No two live ids are equal. -/
abbrev Unique (s : DevCodes) : Prop := s.live.Nodup

/-- The calls that keep the two structures in step and have an id to give. -/
def InStep (s : DevCodes) : DevCodeCall → Prop
  | .setLocalGBID localgbid => s.mng.Changeable localgbid
  | .createDevCode devType => s.mng.RoomFor devType
  | _ => True

structure Inv (s : DevCodes) : Prop where
  mng : CDevCodeMng.Inv s.mng
  known : ∀ gbid, gbid ∈ s.live ↔ gbid ∈ s.mng.gbidList
  unique : s.Unique

theorem mem_liveAdd {live : List String} {x gbid : String} :
    x ∈ liveAdd live gbid ↔ x = gbid ∨ x ∈ live := by
  unfold liveAdd
  split
  · rename_i hmem
    constructor
    · exact .inr
    · rintro (rfl | hx)
      · exact hmem
      · exact hx
  · simp [or_comm]

theorem nodup_liveAdd {live : List String} (hlive : live.Nodup) (gbid : String) :
    (liveAdd live gbid).Nodup := by
  unfold liveAdd
  split
  · exact hlive
  · rename_i hnew
    exact List.nodup_append.mpr ⟨hlive, List.nodup_singleton _, by
      rintro x hx y hy rfl
      exact hnew (List.mem_singleton.mp hy ▸ hx)⟩

theorem inv_start (localGbId : String) : Inv (start localGbId) where
  mng := inv_new localGbId
  known := fun gbid => by simp [start, CDevCodeMng.new]
  unique := List.nodup_nil

theorem createDevCode_gbidList (m : CDevCodeMng) (devType : Int) :
    (m.createDevCode devType).1.gbidList =
      if (m.createDevCode devType).2 = "" then m.gbidList
      else insert (m.createDevCode devType).2 m.gbidList := by
  obtain heq | ⟨q, hq, heq⟩ | ⟨q, hq, hpos, hsize, heq⟩ := createDevCode_cases m devType
  · rw [heq, if_pos rfl]
  · rw [heq, if_pos rfl, takeSeq]
  · rw [heq, if_neg (made_ne_empty hq hpos hsize)]

/-- A call that keeps the structures in step keeps the invariant. -/
theorem preserves_inv : Preserves step InStep Inv := by
  intro s c s' hs hg hstep
  cases hstep
  cases c with
  | setLocalGBID localgbid =>
      refine ⟨hs.mng.setLocalGBID hg, fun x => ?_, ?_⟩
      · simp only [call, setLocalGBID_gbidList]
        split
        · exact hs.known x
        · rw [mem_liveAdd, Finset.mem_insert, hs.known x]
      · simp only [call, Unique]
        split
        · exact hs.unique
        · exact nodup_liveAdd hs.unique localgbid
  | addDevCodeID gbid =>
      refine ⟨hs.mng.addDevCodeID gbid, fun x => ?_, ?_⟩
      · simp only [call, addDevCodeID_gbidList]
        split
        · rw [mem_liveAdd, Finset.mem_insert, hs.known x]
        · exact hs.known x
      · simp only [call, Unique]
        split
        · exact nodup_liveAdd hs.unique gbid
        · exact hs.unique
  | delDevCodeID gbid =>
      refine ⟨hs.mng.delDevCodeID gbid, fun x => ?_, ?_⟩
      · simp only [call, delDevCodeID_gbidList]
        split
        · rw [List.mem_filter, Finset.mem_erase, hs.known x, decide_eq_true_eq, and_comm]
        · exact hs.known x
      · simp only [call, Unique]
        split
        · exact hs.unique.filter _
        · exact hs.unique
  | createDevCode devType =>
      refine ⟨hs.mng.createDevCode devType, fun x => ?_, ?_⟩
      · simp only [call, createDevCode_gbidList]
        split
        · exact hs.known x
        · rw [List.mem_append, List.mem_singleton, Finset.mem_insert, hs.known x, or_comm]
      · simp only [call, Unique]
        split
        · exact hs.unique
        · rename_i hmade
          -- an id made in step was unknown, hence not live
          have hfresh := hs.mng.fresh hg hmade
          have hnew : (s.mng.createDevCode devType).2 ∉ s.live := by
            rw [hs.known]
            intro hmem
            rw [isDevCodeExist] at hfresh
            split at hfresh
            · cases hfresh
            · exact of_decide_eq_false hfresh hmem
          exact List.nodup_append.mpr ⟨hs.unique, List.nodup_singleton _, by
            rintro x hx y hy rfl
            exact hnew (List.mem_singleton.mp hy ▸ hx)⟩

theorem fresh_of_inStep {s : DevCodes} {c : DevCodeCall} (hs : Inv s) (hg : InStep s c) :
    Fresh s c := by
  cases c with
  | createDevCode devType => exact fun hmade => hs.mng.fresh hg hmade
  | _ => trivial

/-- In every history whose calls keep the structures in step, each made id was
unknown before it was made, and no two live ids are ever equal. -/
theorem made_ids_unique (localGbId : String) (calls : List DevCodeCall)
    (hg : Guarded step InStep (start localGbId) calls) :
    Guarded step Fresh (start localGbId) calls ∧ Along step Unique (start localGbId) calls :=
  ⟨preserves_inv.guarded (fun _ _ hs hg => fresh_of_inStep hs hg) (inv_start localGbId) hg,
    (preserves_inv.along (inv_start localGbId) hg).mono fun _ hs => hs.unique⟩

/-- The local id is set first, an id of its domain is added, and one is made. -/
theorem made_ids_unique_sample :
    Guarded step Fresh (start "")
        [.setLocalGBID "34020000002000000001", .addDevCodeID "34020000001180000001",
          .createDevCode 118] ∧
      Along step Unique (start "")
        [.setLocalGBID "34020000002000000001", .addDevCodeID "34020000001180000001",
          .createDevCode 118] := by
  apply made_ids_unique
  rintro s₁ ⟨⟩
  refine ⟨fun _ _ t _ n _ _ hmem => absurd hmem (Finset.notMem_empty _), ?_⟩
  rintro s₂ ⟨⟩
  refine ⟨trivial, ?_⟩
  rintro s₃ ⟨⟩
  refine ⟨fun _ => .inl ⟨1180000002, by decide, by decide, ?_⟩, trivial⟩
  unfold seqOf handles
  decide

/-- An id that is known before the local id is set has no number recorded, so
the same id is made again. -/
theorem made_id_known_before :
    ∃ s : DevCodes,
      exec step (start "")
          [.addDevCodeID "34020000001180000001", .setLocalGBID "34020000002000000001"] = some s ∧
        (s.mng.createDevCode 118).2 = "34020000001180000001" ∧
        s.mng.isDevCodeExist "34020000001180000001" = true ∧
        ¬ Fresh s (.createDevCode 118) ∧ ¬ Unique (s.call (.createDevCode 118)) := by
  refine ⟨_, rfl, by decide, by decide, fun hfresh => ?_, by decide⟩
  exact absurd (hfresh (by decide)) (by decide)

end DevCodes

end SignalingServer
