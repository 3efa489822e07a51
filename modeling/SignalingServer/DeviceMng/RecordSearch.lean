import Mathlib.Algebra.Group.Int.Defs
import Mathlib.Algebra.Group.Nat.Defs
import Mathlib.Data.List.Infix
import SignalingServer.DeviceMng.JsonSdk

/-!
The search for records on an NVR (`JsonSdkInterface::SearchRecordFileList`). A data link is
opened for the search, the search is started on it, and then the SDK is asked for one file
after the other until it has no more. Nothing is assumed of the order of its replies.
-/

namespace SignalingServer

/-! ### The record of a reply -/

/-- The values of a JSON object that are read: integers of at most 64 bits, strings, objects. -/
inductive JsonMember where
  | int (n : Int)
  | string (s : String)
  | object (members : List (String × JsonMember))
  | other

abbrev JsonObject := List (String × JsonMember)

namespace JsonObject

/-- An integer from `low` on and below `high`, and 0 for everything else. -/
def number (o : JsonObject) (low high : Int) (strKey : String) : Int :=
  match o.lookup strKey with
  | some (.int n) => if low ≤ n ∧ n < high then n else 0
  | _ => 0

/-- `json_check_uint64`. -/
def uint64 (o : JsonObject) (strKey : String) : Nat := (o.number 0 (2 ^ 64) strKey).toNat

/-- `json_check_uint32`. -/
def uint32 (o : JsonObject) (strKey : String) : Nat := (o.number 0 (2 ^ 32) strKey).toNat

/-- `json_check_int32`. -/
def int32 (o : JsonObject) (strKey : String) : Int := o.number (-2 ^ 31) (2 ^ 31) strKey

/-- `json_check_string`. -/
def string (o : JsonObject) (strKey : String) : String :=
  match o.lookup strKey with
  | some (.string s) => s
  | _ => ""

end JsonObject

/-- `JsonRecordInfo` with all its members; those that stay uninitialised are `none`. -/
structure RecordFile where
  fileId : Nat
  fileType : Nat
  fileName : String
  fileSize : Nat
  startTime : Nat
  endTime : Nat
  chid : Nat
  streamType : Nat
  diskNo : Nat
  partitionNo : Nat
  recordType : Nat
  status : Nat
  traceId : Int
  faceFilePath : String
  depkeyFilePath : String
  identyId : String
  identyType : Int
  threshold : Nat
  mainLogo : String := ""
  subLogo : String := ""
  color : Option Nat := none
  deriving DecidableEq, Repr

/-- The part of `strRecordInfoToJsonRecordInfo` for `carplateinfo`. -/
def RecordFile.readCarplate (r : RecordFile) (document : JsonObject) : RecordFile :=
  match document.lookup "carplateinfo" with
  | some (.object msbody) =>
      { r with
        mainLogo := JsonObject.string msbody "main_logo"
        subLogo := JsonObject.string msbody "sub_logo"
        color := some (JsonObject.uint32 msbody "color") }
  | _ => r

/-- `strRecordInfoToJsonRecordInfo` of a text that is an object. -/
def strRecordInfoToJsonRecordInfo (document : JsonObject) : RecordFile :=
  RecordFile.readCarplate
    { fileId := document.uint64 "file_id"
      fileType := document.uint32 "file_type"
      fileName := document.string "file_name"
      fileSize := document.uint64 "file_size"
      startTime := document.uint32 "start_time"
      endTime := document.uint32 "end_time"
      chid := document.uint32 "chid"
      streamType := document.uint32 "stream_type"
      diskNo := document.uint32 "disk_no"
      partitionNo := document.uint32 "partition_no"
      recordType := document.uint32 "record_type"
      status := document.uint32 "status"
      traceId := document.int32 "trace_id"
      faceFilePath := document.string "face_file_path"
      depkeyFilePath := document.string "depkey_file_path"
      identyId := document.string "identy_id"
      identyType := document.int32 "identy_type"
      threshold := document.uint32 "threshold" } document

/-- A reply of `JsonSdk_SearchNextFile`: what it returns, and the text that is then in the
buffer; `info` is `none` where that is empty or no JSON. -/
structure NextFile where
  ret : UInt64
  info : Option JsonObject

namespace NextFile

/-- What is returned goes into an unsigned number of 32 bits. -/
def dwRet (r : NextFile) : UInt32 := r.ret.toUInt32

/-- `NS_QUERYINFO_NOFIND`, `NS_QUERYINFO_FINISH` or `NS_QUERYINFO_EXCEPTION`. -/
def Ends (r : NextFile) : Prop := r.dwRet = 1 ∨ r.dwRet = 3 ∨ r.dwRet = 4

instance (r : NextFile) : Decidable r.Ends := inferInstanceAs (Decidable (_ ∨ _))

/-- The record that `NS_QUERYINFO_SUCCESS` brings, if it has an id. -/
def record (r : NextFile) : Option RecordFile :=
  if r.dwRet = 0 then
    (r.info.map strRecordInfoToJsonRecordInfo).filter fun fileInfo => fileInfo.fileId > 0
  else none

end NextFile

/-! ### The search -/

/-- The calls of the SDK that a search makes. -/
inductive LinkCall where
  | newDataLink (userID newLinkID : UInt64)
  | searchFile (linkID : UInt64) (cond : List (String × Int))
  | searchNextFile (linkID : UInt64)
  | searchFileClose (linkID : UInt64)
  | freeDataLink (linkID : UInt64)
  deriving DecidableEq, Repr

/-- What a search meets: whether the SDK is there with its functions, what `NewDataLink` and
`SearchFile` return and fill in, whether there is memory for the buffer, and the replies. -/
structure SearchReplies where
  isInit : Bool
  functions : Bool
  newLinkRet : Int
  newLinkID : UInt64
  searchRet : Int
  searchCount : UInt32
  allocated : Bool
  next : Nat → NextFile

/-- The end of a search. `err` is `none` where an exception leaves the function. -/
structure SearchOutcome where
  err : Option Int
  recordInfos : List RecordFile
  calls : List LinkCall
  deriving DecidableEq, Repr

/-- The request of a search. -/
def searchCond (channel start stop : Int) : List (String × Int) :=
  [("chid", channel), ("stream_type", 0), ("start_time", start % 2 ^ 32),
    ("end_time", stop % 2 ^ 32), ("file_type", 1), ("record_type", 1), ("record_type", 1),
    ("start_file_id", 0), ("max_count", 20000)]

/-- The loop over the replies from `k` on, for at most `fuel` turns: how many replies it has
taken, and the list. -/
def searchNextFiles (next : Nat → NextFile) :
    Nat → Nat → List RecordFile → Option (Nat × List RecordFile)
  | 0, _, _ => none
  | fuel + 1, k, recordInfos =>
      if (next k).dwRet = 0 then
        let recordInfos := recordInfos ++ (next k).record.toList
        if ¬ (next k).Ends then searchNextFiles next fuel (k + 1) recordInfos
        else some (k + 1, recordInfos)
      else some (k + 1, recordInfos)

/-- `JsonSdkInterface::SearchRecordFileList`, for at most `fuel` replies. -/
def searchRecordFileList (fuel : Nat) (env : SearchReplies) (userID : UInt64)
    (channel start stop : Int) (recordInfos : List RecordFile) : Option SearchOutcome :=
  if env.isInit then
    if env.functions then
      if userID ≠ 0 then
        let opened := [LinkCall.newDataLink userID env.newLinkID]
        if env.newLinkID = 0 then some ⟨some env.newLinkRet, recordInfos, opened⟩
        else
          let searched := opened ++ [.searchFile env.newLinkID (searchCond channel start stop)]
          -- `new` throws, so that the test for a null pointer behind it is never met
          if env.allocated then
            if env.searchCount > 0 then
              (searchNextFiles env.next fuel 0 recordInfos).map fun r =>
                ⟨some 0, r.2, searched ++ List.replicate r.1 (.searchNextFile env.newLinkID) ++
                  [.searchFileClose env.newLinkID, .freeDataLink env.newLinkID]⟩
            else some ⟨some 0, recordInfos, searched ++ [.freeDataLink env.newLinkID]⟩
          else some ⟨none, recordInfos, searched⟩
      else some ⟨some (-2), recordInfos, []⟩
    else some ⟨some (-1), recordInfos, []⟩
  else some ⟨some (-1), recordInfos, []⟩

/-! ### What the search is for -/

/-- The records among the first `n` replies, in order. -/
def recordsOf (next : Nat → NextFile) (n : Nat) : List RecordFile :=
  (List.range n).filterMap fun i => (next i).record

/-- The first `n` replies come before an end. -/
def BeforeEnd (next : Nat → NextFile) (n : Nat) : Prop := ∀ i < n, ¬ (next i).Ends

instance (next : Nat → NextFile) (n : Nat) : Decidable (BeforeEnd next n) :=
  inferInstanceAs (Decidable (∀ i < n, _))

/-- The list has all records that come before the first end, in order, and no others. -/
structure AllRecords (next : Nat → NextFile) (found : List RecordFile) : Prop where
  replied : ∃ n, BeforeEnd next n ∧ found = recordsOf next n
  all : ∀ n, BeforeEnd next n → recordsOf next n <+: found

def LinkCall.opened : LinkCall → Option UInt64
  | .newDataLink _ newLinkID => if newLinkID = 0 then none else some newLinkID
  | _ => none

def LinkCall.freed : LinkCall → Option UInt64
  | .freeDataLink linkID => some linkID
  | _ => none

/-- However long the search has to run: when it returns without an error, the start has
succeeded and the list has got all records; and every link that it opens is freed once. -/
def Searches (env : SearchReplies) (userID : UInt64) (channel start stop : Int)
    (recordInfos : List RecordFile) : Prop :=
  ∀ fuel r, searchRecordFileList fuel env userID channel start stop recordInfos = some r →
    (r.err = some 0 →
      (∃ linkID cond, .searchFile linkID cond ∈ r.calls) ∧ env.searchRet = 0 ∧
        ∃ found, r.recordInfos = recordInfos ++ found ∧
          if env.searchCount > 0 then AllRecords env.next found else found = []) ∧
      r.calls.filterMap LinkCall.freed = r.calls.filterMap LinkCall.opened

/-- The reply with this number is the first that brings no file. -/
def FirstOther (next : Nat → NextFile) (k : Nat) : Prop :=
  (∀ i < k, (next i).dwRet = 0) ∧ (next k).dwRet ≠ 0

instance (next : Nat → NextFile) (k : Nat) : Decidable (FirstOther next k) :=
  inferInstanceAs (Decidable (_ ∧ _))

/-- No record comes behind this reply and before the first end. -/
def NothingBehind (next : Nat → NextFile) (k : Nat) : Prop :=
  ∀ n, k < n → BeforeEnd next (n + 1) → (next n).record = none

/-- The search meets no failure that it would hide: a link that is refused comes with a code,
the buffer is allocated, the start succeeds, and the first reply that brings no file is an end
or has no record behind it. -/
def Undisturbed (env : SearchReplies) : Prop :=
  if env.newLinkID = 0 then env.newLinkRet ≠ 0
  else
    env.allocated ∧
      if env.searchCount > 0 then
        ∀ k, FirstOther env.next k →
          env.searchRet = 0 ∧ (¬ (env.next k).Ends → NothingBehind env.next k)
      else env.searchRet = 0

/-! ### The loop -/

section

variable {next : Nat → NextFile} {k n : Nat}

theorem recordsOf_succ (next : Nat → NextFile) (n : Nat) :
    recordsOf next (n + 1) = recordsOf next n ++ (next n).record.toList := by
  rw [recordsOf, recordsOf, List.range_succ, List.filterMap_append]
  congr 1

theorem recordsOf_mono (next : Nat → NextFile) (h : k ≤ n) :
    recordsOf next k <+: recordsOf next n := by
  induction h with
  | refl => exact List.prefix_rfl
  | step _ ih =>
      rw [recordsOf_succ]
      exact ih.trans (List.prefix_append _ _)

theorem NextFile.not_ends {r : NextFile} (h : r.dwRet = 0) : ¬ r.Ends := by
  rw [NextFile.Ends, h]
  decide

theorem NextFile.record_eq_none {r : NextFile} (h : r.dwRet ≠ 0) : r.record = none := if_neg h

/-- The loop takes the replies up to the first that brings no file. -/
theorem searchNextFiles_eq_some {fuel k' : Nat} {found recordInfos : List RecordFile}
    (hloop : searchNextFiles next fuel k (recordInfos ++ recordsOf next k) = some (k', found))
    (hsuccess : ∀ i < k, (next i).dwRet = 0) :
    ∃ j, FirstOther next j ∧ k' = j + 1 ∧ found = recordInfos ++ recordsOf next j := by
  induction fuel generalizing k with
  | zero => cases hloop
  | succ fuel ih =>
      rw [searchNextFiles] at hloop
      split at hloop
      · rename_i hret
        dsimp only at hloop
        rw [if_pos (NextFile.not_ends hret), List.append_assoc, ← recordsOf_succ] at hloop
        refine ih hloop fun i hi => ?_
        rcases Nat.lt_succ_iff_lt_or_eq.mp hi with hlt | rfl
        · exact hsuccess i hlt
        · exact hret
      · rename_i hret
        cases hloop
        exact ⟨k, ⟨hsuccess, hret⟩, rfl, rfl⟩

/-- And it comes to it. -/
theorem searchNextFiles_of_firstOther {j : Nat} (hother : FirstOther next j) (hk : k ≤ j)
    (recordInfos : List RecordFile) :
    searchNextFiles next (j + 1 - k) k (recordInfos ++ recordsOf next k) =
      some (j + 1, recordInfos ++ recordsOf next j) := by
  induction hk using Nat.decreasingInduction with
  | self =>
      rw [Nat.add_sub_cancel_left, searchNextFiles, if_neg hother.2]
  | of_succ k hk ih =>
      have hret : (next k).dwRet = 0 := hother.1 k hk
      rw [show j + 1 - k = j + 1 - (k + 1) + 1 by omega, searchNextFiles, if_pos hret]
      dsimp only
      rw [if_pos (NextFile.not_ends hret), List.append_assoc, ← recordsOf_succ]
      exact ih

/-- The records up to there are all of them just when nothing comes behind. -/
theorem allRecords_iff (hother : FirstOther next k) :
    AllRecords next (recordsOf next k) ↔ (¬ (next k).Ends → NothingBehind next k) := by
  constructor
  · intro h _ n hkn hbefore
    have hall := (h.all (n + 1) hbefore).length_le
    have hpart := (recordsOf_mono next hkn.le).length_le
    rw [recordsOf_succ, List.length_append] at hall
    have hnone : (next n).record.toList = [] := List.length_eq_zero_iff.mp (by omega)
    exact Option.toList_eq_nil_iff.mp hnone
  · intro h
    refine ⟨⟨k, fun i hi => NextFile.not_ends (hother.1 i hi), rfl⟩, fun n hbefore => ?_⟩
    rcases Nat.lt_or_ge k n with hlt | hle
    · have hnone := h (hbefore k hlt)
      -- nothing is added behind the reply `k`, which brings no file itself
      have hsame : ∀ m, k ≤ m → m ≤ n → recordsOf next m = recordsOf next k := by
        intro m hkm
        induction hkm with
        | refl => exact fun _ => rfl
        | @step m hkm ih =>
            intro hmn
            have hrecord : (next m).record = none := by
              rcases Nat.eq_or_lt_of_le hkm with rfl | hlt'
              · exact NextFile.record_eq_none hother.2
              · exact hnone m hlt' fun i hi => hbefore i (by omega)
            rw [recordsOf_succ, ih (by omega), hrecord, Option.toList_none, List.append_nil]
      rw [hsame n hlt.le le_rfl]
    · exact recordsOf_mono next hle

end

/-! ### The search as a whole -/

section

variable {env : SearchReplies} {userID : UInt64} {channel start stop : Int}
  {recordInfos : List RecordFile}

/-- What a search does on a link. -/
theorem searchRecordFileList_of_link (fuel : Nat) (hinit : env.isInit = true)
    (hfunctions : env.functions = true) (huser : userID ≠ 0) (hlink : env.newLinkID ≠ 0)
    (hallocated : env.allocated = true) :
    searchRecordFileList fuel env userID channel start stop recordInfos =
      if env.searchCount > 0 then
        (searchNextFiles env.next fuel 0 recordInfos).map fun r =>
          ⟨some 0, r.2,
            [.newDataLink userID env.newLinkID,
                .searchFile env.newLinkID (searchCond channel start stop)] ++
              List.replicate r.1 (.searchNextFile env.newLinkID) ++
              [.searchFileClose env.newLinkID, .freeDataLink env.newLinkID]⟩
      else
        some ⟨some 0, recordInfos,
          [.newDataLink userID env.newLinkID,
            .searchFile env.newLinkID (searchCond channel start stop),
            .freeDataLink env.newLinkID]⟩ := by
  rw [searchRecordFileList, if_pos hinit, if_pos hfunctions, if_pos huser]
  dsimp only
  rw [if_neg hlink, if_pos hallocated]
  rfl

/-- The calls on the link free it once. -/
theorem freed_eq_opened (cond : List (String × Int)) (k : Nat) (close : List LinkCall)
    {linkID : UInt64} (hlink : linkID ≠ 0)
    (hclose : close = [] ∨ close = [.searchFileClose linkID]) :
    List.filterMap LinkCall.freed
        ([.newDataLink userID linkID, .searchFile linkID cond] ++
          List.replicate k (.searchNextFile linkID) ++ (close ++ [.freeDataLink linkID])) =
      List.filterMap LinkCall.opened
        ([.newDataLink userID linkID, .searchFile linkID cond] ++
          List.replicate k (.searchNextFile linkID) ++ (close ++ [.freeDataLink linkID])) := by
  rcases hclose with rfl | rfl <;>
    simp [List.filterMap_cons, List.filterMap_replicate, LinkCall.freed, LinkCall.opened, hlink]

/-- With a link and a buffer, the link is freed, and `err` is 0 whatever the start returned. -/
theorem searches_of_link (hinit : env.isInit = true) (hfunctions : env.functions = true)
    (huser : userID ≠ 0) (hlink : env.newLinkID ≠ 0) (hallocated : env.allocated = true) :
    Searches env userID channel start stop recordInfos ↔
      if env.searchCount > 0 then
        ∀ k, FirstOther env.next k →
          env.searchRet = 0 ∧ (¬ (env.next k).Ends → NothingBehind env.next k)
      else env.searchRet = 0 := by
  by_cases hcount : env.searchCount > 0
  · simp only [Searches, searchRecordFileList_of_link _ hinit hfunctions huser hlink hallocated,
      if_pos hcount]
    constructor
    · intro h k hother
      have hloop := searchNextFiles_of_firstOther hother (Nat.zero_le k) recordInfos
      rw [show recordsOf env.next 0 = [] from rfl, List.append_nil] at hloop
      obtain ⟨hreturned, -⟩ := h (k + 1) _ (Option.map_eq_some_iff.mpr ⟨_, hloop, rfl⟩)
      obtain ⟨-, hret, found, hfound, hall⟩ := hreturned rfl
      rw [← List.append_cancel_left hfound] at hall
      exact ⟨hret, (allRecords_iff hother).mp hall⟩
    · intro h fuel r hr
      obtain ⟨⟨k', list⟩, hloop, rfl⟩ := Option.map_eq_some_iff.mp hr
      rw [← List.append_nil recordInfos] at hloop
      obtain ⟨k, hother, rfl, rfl⟩ :=
        searchNextFiles_eq_some (k := 0) hloop fun i hi => absurd hi (Nat.not_lt_zero i)
      obtain ⟨hret, hbehind⟩ := h k hother
      refine ⟨fun _ => ⟨⟨env.newLinkID, searchCond channel start stop, ?_⟩, hret, _, rfl, ?_⟩, ?_⟩
      · simp
      · exact (allRecords_iff hother).mpr hbehind
      · exact freed_eq_opened _ (k + 1) [.searchFileClose env.newLinkID] hlink (.inr rfl)
  · simp only [Searches, searchRecordFileList_of_link _ hinit hfunctions huser hlink hallocated,
      if_neg hcount]
    constructor
    · intro h
      exact ((h 0 _ rfl).1 rfl).2.1
    · rintro hret fuel r hr
      cases hr
      have hnone : recordInfos = recordInfos ++ [] := (List.append_nil recordInfos).symm
      refine ⟨fun _ => ⟨⟨env.newLinkID, searchCond channel start stop, ?_⟩, hret, [], hnone, rfl⟩,
        ?_⟩
      · simp
      · exact freed_eq_opened _ 0 [] hlink (.inl rfl)

/-- Without a link nothing is searched, and the error is that of `NewDataLink`. -/
theorem searches_of_no_link (hinit : env.isInit = true) (hfunctions : env.functions = true)
    (huser : userID ≠ 0) (hlink : env.newLinkID = 0) :
    Searches env userID channel start stop recordInfos ↔ env.newLinkRet ≠ 0 := by
  have hsearch : ∀ fuel, searchRecordFileList fuel env userID channel start stop recordInfos =
      some ⟨some env.newLinkRet, recordInfos, [.newDataLink userID env.newLinkID]⟩ := by
    intro fuel
    rw [searchRecordFileList, if_pos hinit, if_pos hfunctions, if_pos huser]
    dsimp only
    rw [if_pos hlink]
  simp only [Searches, hsearch, Option.some.injEq, forall_eq']
  constructor
  · rintro h hret
    obtain ⟨⟨linkID, cond, hcall⟩, -⟩ := (h 0).1 hret
    cases List.mem_singleton.mp hcall
  · intro hret fuel
    refine ⟨fun h => absurd h hret, ?_⟩
    simp [LinkCall.freed, LinkCall.opened, hlink]

/-- An exception leaves the link open. -/
theorem not_searches_of_throw (hinit : env.isInit = true) (hfunctions : env.functions = true)
    (huser : userID ≠ 0) (hlink : env.newLinkID ≠ 0) (hallocated : env.allocated = false) :
    ¬ Searches env userID channel start stop recordInfos := by
  intro h
  obtain ⟨-, hfreed⟩ := h 0 ⟨none, recordInfos,
      [.newDataLink userID env.newLinkID,
        .searchFile env.newLinkID (searchCond channel start stop)]⟩ (by
    rw [searchRecordFileList, if_pos hinit, if_pos hfunctions, if_pos huser]
    dsimp only
    rw [if_neg hlink, hallocated]
    rfl)
  simp [List.filterMap_cons, LinkCall.freed, LinkCall.opened, hlink] at hfreed

/-- The early ways out report an error and have opened nothing. -/
theorem searches_of_early {err : Int} (hne : err ≠ 0)
    (hsearch : ∀ fuel, searchRecordFileList fuel env userID channel start stop recordInfos =
      some ⟨some err, recordInfos, []⟩) :
    Searches env userID channel start stop recordInfos := by
  intro fuel r hr
  rw [hsearch, Option.some.injEq] at hr
  subst hr
  exact ⟨fun h => absurd (Option.some.inj h) hne, rfl⟩

/-- A search loses no record, hides no failure and frees its link exactly when it stops before
it opens a link, or is undisturbed. -/
theorem searches_iff (env : SearchReplies) (userID : UInt64) (channel start stop : Int)
    (recordInfos : List RecordFile) :
    Searches env userID channel start stop recordInfos ↔
      (env.isInit = true → env.functions = true → userID ≠ 0 → Undisturbed env) := by
  by_cases hinit : env.isInit = true
  · by_cases hfunctions : env.functions = true
    · by_cases huser : userID ≠ 0
      · rw [imp_iff_right hinit, imp_iff_right hfunctions, imp_iff_right huser, Undisturbed]
        by_cases hlink : env.newLinkID = 0
        · rw [if_pos hlink]
          exact searches_of_no_link hinit hfunctions huser hlink
        · rw [if_neg hlink]
          by_cases hallocated : env.allocated = true
          · rw [searches_of_link hinit hfunctions huser hlink hallocated, and_iff_right hallocated]
          · have hthrow : env.allocated = false := Bool.eq_false_iff.mpr hallocated
            exact iff_of_false (not_searches_of_throw hinit hfunctions huser hlink hthrow)
              fun h => hallocated h.1
      · refine iff_of_true (searches_of_early (show (-2 : Int) ≠ 0 by decide) fun fuel => ?_)
          fun _ _ h => absurd h huser
        rw [searchRecordFileList, if_pos hinit, if_pos hfunctions, if_neg huser]
    · refine iff_of_true (searches_of_early (show (-1 : Int) ≠ 0 by decide) fun fuel => ?_)
        fun _ h => absurd h hfunctions
      rw [searchRecordFileList, if_pos hinit, if_neg hfunctions]
  · refine iff_of_true (searches_of_early (show (-1 : Int) ≠ 0 by decide) fun fuel => ?_)
      fun h => absurd h hinit
    rw [searchRecordFileList, if_neg hinit]

end

/-- A reply without a file. -/
def reply (code : UInt64) : NextFile := ⟨code, none⟩

/-- A file of the NVR. -/
def fileReply (fileId : Int) : NextFile := ⟨0, some [("file_id", .int fileId)]⟩

/-- A search with these answers of `NewDataLink`, of `SearchFile` and of `SearchNextFile`, which
finishes in the end. -/
def answers (newLink : Int × UInt64) (search : Int × UInt32) (replies : List NextFile) :
    SearchReplies where
  isInit := true
  functions := true
  newLinkRet := newLink.1
  newLinkID := newLink.2
  searchRet := search.1
  searchCount := search.2
  allocated := true
  next i := replies.getD i (reply 3)

/-- A reply between two files that the SDK is still looking. -/
def slowDisk : SearchReplies := answers (0, 7) (0, 2) [fileReply 1, reply 2, fileReply 2]

/-- The second file comes after a reply that the SDK is still looking for it; and a start that
fails with a code of its own. -/
theorem not_searches :
    ¬ Searches slowDisk 1 0 0 86400 [] ∧
      ¬ Searches (answers (0, 7) (3001, 0) []) 1 0 0 86400 [] := by
  constructor
  · intro h
    have hsearch := (searches_of_link rfl rfl (by decide) (by decide) rfl).mp h
    have hother : FirstOther slowDisk.next 1 := by decide
    have hbefore : BeforeEnd slowDisk.next 3 := by decide
    have hnone := (hsearch 1 hother).2 (by decide) 2 (by decide) hbefore
    cases hnone
  · intro h
    have hret : (3001 : Int) = 0 := (searches_of_link rfl rfl (by decide) (by decide) rfl).mp h
    exact absurd hret (by decide)

end SignalingServer
