import SignalingServer.Tools.AvFrame
import SignalingServer.UserAgent.Catalog

/-!
The answer to a record query (UaMessageMgr.cpp, MsgContentXml.cpp). The records
are cut into lists of ten, and every list is sent as a message of its own that
also names the number of all records. A query that finds no record is cut into
no list, and nothing is sent.
-/

namespace SignalingServer

section

variable {α : Type} (chunkSize : Nat)

/-- The loops of `splitList`, with the list that the inner one fills. -/
def splitFrom : List α → List α → List (List α)
  | [], subList => if subList = [] then [] else [subList]
  | a :: lst, subList =>
      if subList.length + 1 < chunkSize then splitFrom lst (subList ++ [a])
      else (subList ++ [a]) :: splitFrom lst []

/-- `splitList`. -/
def splitList (lst : List α) : List (List α) :=
  if chunkSize = 0 then [] else splitFrom chunkSize lst []

end

/-- The message of `CreateRecordInfoResponse`. -/
structure RecordInfoResponse where
  sn : UInt32
  deviceID : String
  name : String
  sumNum : Int
  num : Nat
  recordList : List RecordInfoResponseItem
  deriving DecidableEq, Repr

/-- `insertRecordInfo`. -/
def insertRecordInfo (charsetConvert : String → Option String) (item : RecordInfoResponseItem) :
    RecordInfoResponseItem :=
  { item with name := if item.name = "" then "" else utf8ToGbk charsetConvert item.name }

/-- `CreateRecordInfoResponse`. -/
def createRecordInfoResponse (charsetConvert : String → Option String) (deviceId : String)
    (sn : UInt32) (sumNum : Int) (records : List RecordInfoResponseItem) :
    RecordInfoResponse where
  sn := sn
  deviceID := deviceId
  name := deviceId
  sumNum := sumNum
  num := records.length
  recordList := records.map (insertRecordInfo charsetConvert)

/-- `CUserMessageMrg::RecordInfoQueryResponseTask`: the messages that it sends. -/
def ServerState.recordInfoQueryResponseTask (w : ServerState) (env : Env)
    (charsetConvert : String → Option String) (user : String) (sn : UInt32)
    (queryMsg : RecordInfoQueryMsg) : ServerState × List RecordInfoResponse :=
  match w.gb28181QueryRecordInfo env queryMsg with
  | (w, none) => (w, [])
  | (w, some records) =>
      (w, (splitList 10 records).map
        (createRecordInfoResponse charsetConvert user sn (AvFrame.toInt records.length)))

/-- The messages carry the records in order, in tens at most, and each says how
many it carries and how many there are. -/
structure CompleteRecords (charsetConvert : String → Option String)
    (records : List RecordInfoResponseItem) (msgs : List RecordInfoResponse) : Prop where
  items : msgs.flatMap (·.recordList) = records.map (insertRecordInfo charsetConvert)
  num : ∀ msg ∈ msgs, msg.recordList.length ≤ 10 ∧ msg.num = msg.recordList.length
  sumNum : ∀ msg ∈ msgs, msg.sumNum = records.length
  answered : msgs ≠ []

/-! ### The lists -/

section

variable {α : Type} {chunkSize : Nat}

theorem flatten_splitFrom (lst subList : List α) :
    (splitFrom chunkSize lst subList).flatten = subList ++ lst := by
  induction lst generalizing subList with
  | nil =>
      rw [splitFrom]
      split
      · rename_i hempty
        rw [hempty]
        rfl
      · simp
  | cons a lst ih =>
      rw [splitFrom]
      split
      · rw [ih, List.append_assoc]
        rfl
      · rw [List.flatten_cons, ih, List.append_assoc]
        rfl

theorem length_le_of_mem_splitFrom (hpos : 0 < chunkSize) {lst subList l : List α}
    (hsub : subList.length < chunkSize) (hl : l ∈ splitFrom chunkSize lst subList) :
    l.length ≤ chunkSize := by
  induction lst generalizing subList with
  | nil =>
      rw [splitFrom] at hl
      split at hl
      · cases hl
      · rw [List.mem_singleton.mp hl]
        exact Nat.le_of_lt hsub
  | cons a lst ih =>
      rw [splitFrom] at hl
      split at hl
      · rename_i hroom
        refine ih ?_ hl
        rw [List.length_append, List.length_singleton]
        exact hroom
      · rcases List.mem_cons.mp hl with rfl | hl
        · rw [List.length_append, List.length_singleton]
          exact hsub
        · have hempty : ([] : List α).length < chunkSize := hpos
          exact ih hempty hl

theorem flatten_splitList (hpos : 0 < chunkSize) (lst : List α) :
    (splitList chunkSize lst).flatten = lst := by
  rw [splitList, if_neg (Nat.pos_iff_ne_zero.mp hpos), flatten_splitFrom, List.nil_append]

theorem length_le_of_mem_splitList {lst l : List α} (hl : l ∈ splitList chunkSize lst) :
    l.length ≤ chunkSize := by
  rw [splitList] at hl
  split at hl
  · cases hl
  · rename_i hne
    have hpos : 0 < chunkSize := Nat.pos_of_ne_zero hne
    have hempty : ([] : List α).length < chunkSize := hpos
    exact length_le_of_mem_splitFrom hpos hempty hl

@[simp] theorem splitList_nil : splitList chunkSize ([] : List α) = [] := by
  simp [splitList, splitFrom]

theorem splitList_ne_nil (hpos : 0 < chunkSize) {lst : List α} (hlst : lst ≠ []) :
    splitList chunkSize lst ≠ [] := by
  intro hnil
  have hflat := flatten_splitList hpos lst
  rw [hnil] at hflat
  exact hlst hflat.symm

end

/-! ### The answer -/

namespace ServerState

variable {w : ServerState} {env : Env} {charsetConvert : String → Option String}
  {user : String} {sn : UInt32} {queryMsg : RecordInfoQueryMsg}
  {records : List RecordInfoResponseItem}

theorem recordInfoQueryResponseTask_eq
    (hfound : (w.gb28181QueryRecordInfo env queryMsg).2 = some records) :
    (w.recordInfoQueryResponseTask env charsetConvert user sn queryMsg).2 =
      (splitList 10 records).map
        (createRecordInfoResponse charsetConvert user sn (AvFrame.toInt records.length)) := by
  unfold recordInfoQueryResponseTask
  split
  · rename_i hnone
    rw [hnone] at hfound
    cases hfound
  · rename_i hsome
    rw [hsome] at hfound
    cases hfound
    rfl

/-- The answer to a query that succeeds is complete exactly when records were
found, and not too many for an `int`. -/
theorem completeRecords_iff (charsetConvert : String → Option String) (user : String)
    (sn : UInt32) (hfound : (w.gb28181QueryRecordInfo env queryMsg).2 = some records) :
    CompleteRecords charsetConvert records
        (w.recordInfoQueryResponseTask env charsetConvert user sn queryMsg).2 ↔
      records ≠ [] ∧ records.length < 2 ^ 31 := by
  rw [recordInfoQueryResponseTask_eq hfound]
  constructor
  · intro h
    have hne : records ≠ [] := by
      rintro rfl
      exact h.answered rfl
    obtain ⟨l, hl⟩ := List.exists_mem_of_ne_nil _ (splitList_ne_nil (Nat.succ_pos 9) hne)
    have hsum := h.sumNum _ (List.mem_map_of_mem hl)
    exact ⟨hne, AvFrame.toInt_eq_iff.mp hsum⟩
  · rintro ⟨hne, hlt⟩
    refine { items := ?items, num := ?num, sumNum := ?sumNum, answered := ?answered }
    case items =>
      rw [List.flatMap_map]
      show (splitList 10 records).flatMap (List.map (insertRecordInfo charsetConvert)) = _
      rw [List.flatMap_def, ← List.map_flatten, flatten_splitList (Nat.succ_pos 9)]
    case num =>
      intro msg hmsg
      obtain ⟨l, hl, rfl⟩ := List.mem_map.mp hmsg
      have hlength : (l.map (insertRecordInfo charsetConvert)).length = l.length :=
        List.length_map _
      exact ⟨hlength ▸ length_le_of_mem_splitList hl, hlength.symm⟩
    case sumNum =>
      intro msg hmsg
      obtain ⟨l, hl, rfl⟩ := List.mem_map.mp hmsg
      exact AvFrame.toInt_eq_iff.mpr hlt
    case answered =>
      simpa using splitList_ne_nil (Nat.succ_pos 9) hne

/-- A query for the records of the sample child. -/
def sampleRecordQuery : RecordInfoQueryMsg where
  deviceID := "34020000001320000001"
  startTime := "2024-01-01T00:00:00"
  endTime := "2024-01-02T00:00:00"
  filePath := ""
  address := ""
  secrecy := 0
  recordType := "all"
  recorderID := ""
  indistinctQuery := ""

/-- An SDK that finds these records. -/
def recordingSdk (records : List JsonRecordInfo) : Sdk := fun log c =>
  match c with
  | .searchRecordFileList _ _ _ _ => { records := records }
  | _ => workingSdk log c

def sampleRecordState : ServerState :=
  sampleState (ChildMap.empty.addChildDevice (sampleChild "7" "34020000001320000001" 1))

/-- One record more than a message carries, a minute each. -/
def elevenRecords : List JsonRecordInfo :=
  (List.range 11).map fun minute => ⟨60 * minute, 60 * minute + 60⟩

/-- A query that finds eleven records is answered completely, with two messages. -/
theorem completeRecords_sample :
    CompleteRecords some
        (elevenRecords.map (recordItem (sampleEnv workingSdk) "34020000001320000001"))
        (sampleRecordState.recordInfoQueryResponseTask (sampleEnv (recordingSdk elevenRecords)) some
          "34020000002000000001" 1 sampleRecordQuery).2 ↔
      elevenRecords.map (recordItem (sampleEnv workingSdk) "34020000001320000001") ≠ [] ∧
        (elevenRecords.map (recordItem (sampleEnv workingSdk) "34020000001320000001")).length <
          2 ^ 31 :=
  completeRecords_iff some "34020000002000000001" 1 (by decide)

/-- A query that succeeds without a record is not answered. -/
theorem empty_records_unanswered :
    (sampleRecordState.gb28181QueryRecordInfo (sampleEnv (recordingSdk []))
        sampleRecordQuery).2 = some [] ∧
      (sampleRecordState.recordInfoQueryResponseTask (sampleEnv (recordingSdk [])) some
        "34020000002000000001" 1 sampleRecordQuery).2 = [] ∧
      ¬ CompleteRecords some []
        (sampleRecordState.recordInfoQueryResponseTask (sampleEnv (recordingSdk [])) some
          "34020000002000000001" 1 sampleRecordQuery).2 := by
  refine ⟨by decide, by decide, fun h => ?_⟩
  exact h.answered (by decide)

end ServerState

end SignalingServer
