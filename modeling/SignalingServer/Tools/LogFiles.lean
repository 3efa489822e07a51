import Mathlib.Data.List.GetD
import Mathlib.Data.List.Perm.Subperm
import SignalingServer.Lib.Directory
import SignalingServer.Lib.Lts

/-!
The files of the logger (`tools/SelfLog.cpp`). `LogWrite` puts every record into the current
file; where the record would make it too large, the file is closed with a line of the logger's
own, the files are renamed in a chain, the last one is removed, and the current file is opened
anew. What is in the buffer of the open file counts as in the file, and no call of the file
system fails.
-/

namespace SignalingServer

inductive LogTarget
  | E_LOG_TARGET_NONE
  | E_LOG_TARGET_STDERR
  | E_LOG_TARGET_FILE
  | E_LOG_TARGET_BOTH
deriving DecidableEq, Repr

/-- `LogConfig`, as far as it is about the files. -/
structure LogConfig where
  nFileNum : Int
  nFileSize : Nat
  target : LogTarget
  logPath : List UInt8
  logName : List UInt8

/-- What a line of the logger's own takes from outside: the time, by `strftime` and in
milliseconds, and what `%p` makes of the handle. -/
structure LogMoment where
  strTime : List UInt8
  curtime : Nat
  handle : List UInt8

/-- The members of `CLog` for its files, and the files themselves. A file is the list of the
records that were written to it. The last two fields are history: all the records that were
written, and what the files that were closed contained then. -/
structure LogFiles where
  nFileNum : Nat
  nFileSize : Nat
  nTarget : LogTarget
  mPath : List UInt8
  mName : List UInt8
  nCurFileSize : Nat
  pLogFile : Option (List UInt8)
  mArrLogFileName : List (List UInt8)
  disk : Directory (List UInt8) (List (List UInt8))
  written : List (List UInt8)
  closed : List (List (List UInt8))

namespace LogFiles

/-- The bytes of a text of ASCII characters. -/
def ascii (text : List Char) : List UInt8 := text.map fun c => UInt8.ofNat c.toNat

/-- `InitLog`, for a logger that has not written yet, with `./logs` and `app` as its defaults. -/
def initLog (config : LogConfig) : LogFiles where
  nFileNum := if config.nFileNum > 0 then config.nFileNum.toNat else 5
  nFileSize := if config.nFileSize > 0 then config.nFileSize else 1 * 1024 * 1024
  nTarget := config.target
  mPath := if config.logPath ≠ [] then config.logPath else ascii "./logs".toList
  mName := if config.logName ≠ [] then config.logName else ascii "app".toList
  nCurFileSize := 0
  pLogFile := none
  mArrLogFileName := []
  disk := []
  written := []
  closed := []

/-- The name of a file: `path/name.log`, and `path/name_i.log` for the others. `snprintf` cuts it
off after 254 bytes. -/
def fileName (s : LogFiles) (i : Nat) : List UInt8 :=
  let number := if i = 0 then [] else ascii ('_' :: Nat.toDigits 10 i)
  (s.mPath ++ ascii ['/'] ++ s.mName ++ number ++ ascii ".log".toList).take 254

def fileNames (s : LogFiles) : List (List UInt8) := (List.range s.nFileNum).map s.fileName

/-- `mArrLogFileName.at(i)`. -/
def nameAt (s : LogFiles) (i : Nat) : List UInt8 := s.mArrLogFileName.getD i []

/-- A round of the loop of `reNameFile`. -/
def reNameStep (s : LogFiles) (i : Nat) : LogFiles :=
  let disk :=
    if s.nFileNum - 1 = i ∧ s.disk.has (s.nameAt i) then s.disk.remove (s.nameAt i) else s.disk
  { s with
    disk :=
      if disk.has (s.nameAt (i - 1)) then disk.rename (s.nameAt (i - 1)) (s.nameAt i)
      else disk }

/-- The rounds for `i` down to 1. -/
def reNameLoop : Nat → LogFiles → LogFiles
  | 0, s => s
  | i + 1, s => reNameLoop i (s.reNameStep (i + 1))

def reNameFile (s : LogFiles) : LogFiles :=
  if s.mArrLogFileName.length = s.nFileNum then reNameLoop (s.nFileNum - 1) s else s

/-- `LogInit`. Its lines are for a file that is not open. -/
def logInit (s : LogFiles) : LogFiles :=
  if s.nFileNum ≠ s.mArrLogFileName.length then { s with mArrLogFileName := s.fileNames } else s

/-- `openFile`, which opens with `a+`: a file that is there stays as it is. -/
def openFile (s : LogFiles) (fileName : List UInt8) : LogFiles :=
  let disk := s.disk.create fileName []
  { s with
    disk := disk
    pLogFile := some fileName
    nCurFileSize := ((disk.get? fileName).getD []).flatten.length }

def writeFile (s : LogFiles) (buffer : List UInt8) : LogFiles :=
  match s.pLogFile with
  | some fileName =>
      { s with
        disk := s.disk.modify fileName (· ++ [buffer])
        nCurFileSize := s.nCurFileSize + buffer.length
        written := s.written ++ [buffer] }
  | none => s

/-- The line that `threadOut(LOGMD, L_INFO, FILENAME, lineNo, ...)` makes, with the newline that
it writes behind it. The level of the module is `L_DEBUG`, so that it is let through. -/
def line (m : LogMoment) (lineNo : Nat) (msg : List UInt8) : List UInt8 :=
  m.strTime ++ ascii ('.' :: (Nat.toDigits 10 (m.curtime % 1000)).leftpad 3 '0') ++
    ascii "[LOGMD-I-SelfLog.cpp:".toList ++ ascii (Nat.toDigits 10 lineNo) ++ ascii "]:".toList ++
      msg ++ ascii ['\n']

/-- What `threadOut` does to the files. -/
def threadOut (s : LogFiles) (m : LogMoment) (lineNo : Nat) (msg : List UInt8) : LogFiles :=
  match s.nTarget with
  | .E_LOG_TARGET_FILE | .E_LOG_TARGET_BOTH => s.writeFile (line m lineNo msg)
  | .E_LOG_TARGET_NONE | .E_LOG_TARGET_STDERR => s

def closeFile (s : LogFiles) (m : LogMoment) : LogFiles :=
  match s.pLogFile with
  | some fileName =>
      let s := s.threadOut m 447 (ascii " close handle.fileFp:".toList ++ m.handle)
      { s with pLogFile := none, closed := s.closed ++ [(s.disk.get? fileName).getD []] }
  | none => s

def logOpen (s : LogFiles) : Bool × LogFiles :=
  let s := s.logInit
  if s.nFileNum < 1 ∨ s.pLogFile.isSome then (false, s) else (true, s.openFile (s.nameAt 0))

def switchFile (s : LogFiles) (m : LogMoment) : Bool × LogFiles :=
  (s.closeFile m).reNameFile.logOpen

/-- `LogWrite`; the level of a record only says whether the buffer is flushed. -/
def logWrite (s : LogFiles) (m : LogMoment) (szLog : List UInt8) : Bool × LogFiles :=
  if s.pLogFile.isNone ∨ s.nCurFileSize + szLog.length > s.nFileSize then
    match s.switchFile m with
    | (true, s) => (true, s.writeFile szLog)
    | (false, s) => (false, s)
  else (true, s.writeFile szLog)

/-- A record of `writeLogThread`. -/
def step : Lts.Step LogFiles (LogMoment × List UInt8) := fun s e => some (s.logWrite e.1 e.2).2

/-- Without its last record the file is not too large. -/
def WithinSize (nFileSize : Nat) (data : List (List UInt8)) : Prop :=
  ∀ szLog ∈ data.getLast?, data.flatten.length ≤ nFileSize + szLog.length

/-- What a rotation should keep to, with the configuration of `s₀`: the current file is the newest
and not larger than `nFileSize` and one record, and so was every file when it was closed; there are
at most `nFileNum` files, and their records, from the oldest file to the newest, are the last ones
that were written. Where no two names are cut off to the same, the files are numbered from the
newest to the oldest. -/
structure Rotated (s₀ s : LogFiles) : Prop where
  newest : s.disk.names.getLast? = s.pLogFile
  current : ∀ fileName ∈ s.pLogFile, ∀ data ∈ s.disk.get? fileName, WithinSize s₀.nFileSize data
  closed : ∀ data ∈ s.closed, WithinSize s₀.nFileSize data
  files : s.disk.length ≤ s₀.nFileNum
  suffix : s.disk.flatMap Prod.snd <:+ s.written
  numbered : s.fileNames.Nodup → s.disk.names.reverse = s.fileNames.take s.disk.length

/-! ### Renaming -/

/-- Below the last file, a round only renames. -/
theorem reNameLoop_eq (s : LogFiles) {i : Nat} (hi : i < s.nFileNum - 1) :
    reNameLoop i s = { s with disk := Directory.renames s.nameAt i s.disk } := by
  induction i generalizing s with
  | zero => rfl
  | succ i ih =>
      have hlast : ¬ (s.nFileNum - 1 = i + 1 ∧ s.disk.has (s.nameAt (i + 1)) = true) := by
        rintro ⟨heq, -⟩
        omega
      have hstep : s.reNameStep (i + 1) =
          { s with
            disk :=
              if s.disk.has (s.nameAt i) then s.disk.rename (s.nameAt i) (s.nameAt (i + 1))
              else s.disk } := by
        rw [reNameStep, if_neg hlast]
        rfl
      rw [reNameLoop, hstep, ih _ (by dsimp only; omega)]
      rfl

/-- The first round removes the last file. -/
theorem reNameFile_eq {s : LogFiles} (hnum : 2 ≤ s.nFileNum)
    (hnames : s.mArrLogFileName.length = s.nFileNum) :
    s.reNameFile =
      { s with
        disk := Directory.renames s.nameAt (s.nFileNum - 1)
          (s.disk.remove (s.nameAt (s.nFileNum - 1))) } := by
  obtain ⟨n, hn⟩ : ∃ n, s.nFileNum - 1 = n + 1 := ⟨s.nFileNum - 2, by omega⟩
  have hremove : (if s.nFileNum - 1 = n + 1 ∧ s.disk.has (s.nameAt (n + 1)) then
      s.disk.remove (s.nameAt (n + 1)) else s.disk) = s.disk.remove (s.nameAt (n + 1)) := by
    split
    · rfl
    · rename_i hnone
      exact (Directory.remove_of_not_mem fun hmem => hnone ⟨hn, Directory.has_iff.mpr hmem⟩).symm
  have hstep : s.reNameStep (n + 1) =
      { s with
        disk :=
          if (s.disk.remove (s.nameAt (n + 1))).has (s.nameAt n) then
            (s.disk.remove (s.nameAt (n + 1))).rename (s.nameAt n) (s.nameAt (n + 1))
          else s.disk.remove (s.nameAt (n + 1)) } := by
    rw [reNameStep, hremove]
    rfl
  rw [reNameFile, if_pos hnames, hn, reNameLoop, hstep, reNameLoop_eq _ (by dsimp only; omega)]
  rfl

@[simp] theorem length_fileNames (s : LogFiles) : s.fileNames.length = s.nFileNum := by
  rw [fileNames, List.length_map, List.length_range]

theorem nameAt_mem {s : LogFiles} (hnames : s.mArrLogFileName.length = s.nFileNum) {i : Nat}
    (hi : i < s.nFileNum) : s.nameAt i ∈ s.mArrLogFileName := by
  rw [nameAt, List.getD_eq_getElem _ _ (hnames ▸ hi)]
  exact List.getElem_mem _

/-! ### The line of a file that is closed -/

/-- What `closeFile` writes to the file. -/
def closeLines (s : LogFiles) (m : LogMoment) : List (List UInt8) :=
  if s.nTarget = .E_LOG_TARGET_FILE ∨ s.nTarget = .E_LOG_TARGET_BOTH then
    [line m 447 (ascii " close handle.fileFp:".toList ++ m.handle)]
  else []

/-- The current file with records behind the others. -/
def appended (s : LogFiles) (records : List (List UInt8)) : LogFiles :=
  { s with
    disk := s.disk.modify (s.nameAt 0) (· ++ records)
    nCurFileSize := s.nCurFileSize + records.flatten.length
    written := s.written ++ records }

theorem writeFile_eq {s : LogFiles} (hopened : s.pLogFile = some (s.nameAt 0))
    (szLog : List UInt8) : s.writeFile szLog = s.appended [szLog] := by
  unfold writeFile appended
  rw [hopened, List.flatten_singleton]

theorem appended_nil {s : LogFiles} : s.appended [] = s := by
  have hsame : s.disk.modify (s.nameAt 0) (· ++ []) = s.disk := by
    rw [Directory.modify]
    conv => rhs; rw [← List.map_id s.disk]
    apply List.map_congr_left
    intro e _
    rw [List.append_nil]
    exact ite_self _
  rw [appended, hsame, List.append_nil]
  rfl

theorem closeFile_eq {s : LogFiles} (hopened : s.pLogFile = some (s.nameAt 0)) (m : LogMoment) :
    s.closeFile m =
      { s.appended (s.closeLines m) with
        pLogFile := none
        closed := s.closed ++
          [((s.appended (s.closeLines m)).disk.get? (s.nameAt 0)).getD []] } := by
  have hline : s.threadOut m 447 (ascii " close handle.fileFp:".toList ++ m.handle) =
      s.appended (s.closeLines m) := by
    rw [threadOut, closeLines]
    cases s.nTarget with
    | E_LOG_TARGET_NONE => exact appended_nil.symm
    | E_LOG_TARGET_STDERR => exact appended_nil.symm
    | E_LOG_TARGET_FILE => exact writeFile_eq hopened _
    | E_LOG_TARGET_BOTH => exact writeFile_eq hopened _
  rw [closeFile, hopened]
  dsimp only
  rw [hline]
  rfl

/-- With no file under the name of the current one, `LogOpen` makes one. -/
theorem logOpen_eq {s s' : LogFiles} (hinit : s.logInit = s') (hnum : 0 < s'.nFileNum)
    (hclosed : s'.pLogFile = none) (hfree : s'.nameAt 0 ∉ s'.disk.names) :
    s.logOpen =
      (true,
        { s' with
          disk := s'.disk ++ [(s'.nameAt 0, [])]
          pLogFile := some (s'.nameAt 0)
          nCurFileSize := 0 }) := by
  have hopen : ¬ (s'.nFileNum < 1 ∨ s'.pLogFile.isSome = true) := by
    rw [hclosed]
    rintro (hlt | hsome)
    · omega
    · cases hsome
  have hnone : ¬ s'.disk.has (s'.nameAt 0) = true := fun hmem => hfree (Directory.has_iff.mp hmem)
  rw [logOpen, hinit, if_neg hopen, openFile, Directory.create, if_neg hnone,
    Directory.get?_concat hfree]
  rfl

theorem logInit_of_length {s : LogFiles} (hnames : s.mArrLogFileName.length = s.nFileNum) :
    s.logInit = s :=
  if_neg (not_not.mpr hnames.symm)

/-! ### A switch -/

/-- With two files and more, a file that was closed is followed by a rotation and a new file. -/
theorem reopen_eq {s : LogFiles} (hclosed : s.pLogFile = none) (hnum : 2 ≤ s.nFileNum)
    (hnames : s.mArrLogFileName.length = s.nFileNum) (hnodup : s.disk.names.Nodup) :
    s.reNameFile.logOpen =
      (true,
        { s with
          disk := s.disk.rotate s.nameAt (s.nFileNum - 1) ++ [(s.nameAt 0, [])]
          pLogFile := some (s.nameAt 0)
          nCurFileSize := 0 }) := by
  let renamed : LogFiles := { s with disk := s.disk.rotate s.nameAt (s.nFileNum - 1) }
  have hrename : s.reNameFile = renamed := by
    rw [reNameFile_eq hnum hnames]
    exact congrArg (fun disk => { s with disk := disk }) (Directory.renames_remove _ _)
  have hinit : renamed.logInit = renamed := logInit_of_length hnames
  have hfree : renamed.nameAt 0 ∉ renamed.disk.names := (Directory.nodup_rotate hnodup).2
  rw [hrename, logOpen_eq hinit (show 0 < s.nFileNum by omega) hclosed hfree]
  rfl

/-- The current file is open and the newest, with these records in it, and every file has the name
to which the file before it will go. Only the oldest file can have the last name. -/
structure Ready (s₀ s : LogFiles) (data : List (List UInt8)) : Prop where
  nFileNum : s.nFileNum = s₀.nFileNum
  nFileSize : s.nFileSize = s₀.nFileSize
  names : s.mArrLogFileName = s.fileNames
  opened : s.pLogFile = some (s.nameAt 0)
  current : ∃ old, s.disk = old ++ [(s.nameAt 0, data)]
  size : s.nCurFileSize = data.flatten.length
  nodup : s.disk.names.Nodup
  named : ∀ x ∈ s.disk.names, x ∈ s.mArrLogFileName
  chain : s.disk.names.IsChain fun older newer =>
    older = Directory.moved s.nameAt (s.nFileNum - 1) newer
  last : ∀ x ∈ s.disk.names.tail, x ≠ s.nameAt (s.nFileNum - 1)
  suffix : s.disk.flatMap Prod.snd <:+ s.written

section

variable {s₀ s : LogFiles} {data : List (List UInt8)}

theorem Ready.length_names (h : Ready s₀ s data) : s.mArrLogFileName.length = s.nFileNum := by
  rw [h.names, length_fileNames]

theorem Ready.newest (h : Ready s₀ s data) :
    ∃ old, s.disk = old ++ [(s.nameAt 0, data)] ∧ s.nameAt 0 ∉ Directory.names old := by
  obtain ⟨old, hdisk⟩ := h.current
  have hnodup := h.nodup
  rw [hdisk, Directory.names_concat] at hnodup
  exact ⟨old, hdisk, fun hmem => List.disjoint_of_nodup_append hnodup hmem List.mem_cons_self⟩

theorem Ready.getLast? (h : Ready s₀ s data) : s.disk.names.getLast? = some (s.nameAt 0) := by
  obtain ⟨old, hdisk⟩ := h.current
  rw [hdisk, Directory.names_concat, List.getLast?_concat]

theorem Ready.get? (h : Ready s₀ s data) : s.disk.get? (s.nameAt 0) = some data := by
  obtain ⟨old, hdisk, hfresh⟩ := h.newest
  rw [hdisk, Directory.get?_concat hfresh]

theorem Ready.length_disk (h : Ready s₀ s data) : s.disk.length ≤ s.nFileNum := by
  have hle := (List.subperm_of_subset h.nodup h.named).length_le
  rw [h.length_names] at hle
  simpa [Directory.names] using hle

/-- Distinct names are gone through in the order of their numbers. -/
theorem Ready.numbered (h : Ready s₀ s data) (hdistinct : s.fileNames.Nodup) :
    s.disk.names.reverse = s.fileNames.take s.disk.length := by
  have hlength := h.length_names
  have hname (i : Nat) (hi : i < s.nFileNum) : s.fileNames[i]? = some (s.nameAt i) := by
    rw [nameAt, ← h.names, List.getD_eq_getElem _ _ (hlength ▸ hi)]
    exact List.getElem?_eq_getElem _
  have hinj : ∀ i ≤ s.nFileNum - 1, ∀ j ≤ s.nFileNum - 1, s.nameAt i = s.nameAt j → i = j := by
    intro i hi j hj heq
    rcases Nat.eq_zero_or_pos s.nFileNum with hzero | hpos
    · omega
    · apply (List.getElem?_inj (by rw [length_fileNames]; omega) hdistinct).mp
      rw [hname i (by omega), hname j (by omega), heq]
  have hnext : ∀ k < s.nFileNum - 1,
      Directory.moved s.nameAt (s.nFileNum - 1) (s.nameAt k) = s.nameAt (k + 1) :=
    fun k hk => Directory.moved_name hinj hk
  have hcount : s.disk.names.length = s.disk.length := List.length_map _
  have hle := h.length_disk
  rw [Directory.names_of_chain hnext h.chain ?_ (by omega), hcount]
  · apply List.ext_getElem?
    intro i
    by_cases hi : i < s.disk.length
    · rw [List.getElem?_map, List.getElem?_range hi, List.getElem?_take_of_lt hi,
        hname i (by omega)]
      rfl
    · rw [List.getElem?_eq_none (by simp; omega), List.getElem?_eq_none (by simp; omega)]
  · obtain ⟨old, hdisk⟩ := h.current
    rw [hdisk, Directory.names_concat, List.getLast?_concat]
    intro a ha
    exact (Option.some.inj ha).symm

/-- Whether the files are rotated as they should be is a matter of their sizes. -/
theorem Ready.within_iff (h : Ready s₀ s data) : Rotated s₀ s ↔
    WithinSize s₀.nFileSize data ∧ ∀ file ∈ s.closed, WithinSize s₀.nFileSize file := by
  constructor
  · exact fun hrotated => ⟨hrotated.current _ h.opened _ h.get?, hrotated.closed⟩
  · rintro ⟨hcurrent, hclosed⟩
    refine
      { newest := h.getLast?.trans h.opened.symm
        current := fun fileName hname file hfile => ?_
        closed := hclosed
        files := h.nFileNum ▸ h.length_disk
        suffix := h.suffix
        numbered := h.numbered }
    rw [h.opened] at hname
    cases hname
    rw [h.get?] at hfile
    cases hfile
    exact hcurrent

/-- Records that are written go into the newest file. -/
theorem Ready.appended (h : Ready s₀ s data) (records : List (List UInt8)) :
    Ready s₀ (s.appended records) (data ++ records) := by
  obtain ⟨old, hdisk, hfresh⟩ := h.newest
  have hmodify : s.disk.modify (s.nameAt 0) (· ++ records) =
      old ++ [(s.nameAt 0, data ++ records)] := by
    rw [hdisk]
    exact Directory.modify_concat hfresh data _
  have hnames : Directory.names (old ++ [(s.nameAt 0, data ++ records)]) = s.disk.names := by
    rw [hdisk, Directory.names_concat, Directory.names_concat]
  rw [LogFiles.appended, hmodify]
  refine
    { nFileNum := h.nFileNum
      nFileSize := h.nFileSize
      names := h.names
      opened := h.opened
      current := ⟨old, rfl⟩
      size := ?_
      nodup := hnames ▸ h.nodup
      named := hnames ▸ h.named
      chain := hnames ▸ h.chain
      last := hnames ▸ h.last
      suffix := ?_ }
  · show s.nCurFileSize + records.flatten.length = _
    rw [h.size, List.flatten_append, List.length_append]
  · have hsuffix := h.suffix
    rw [hdisk, List.flatMap_append] at hsuffix
    show List.flatMap Prod.snd (old ++ [(s.nameAt 0, data ++ records)]) <:+ _
    obtain ⟨front, hfront⟩ := hsuffix
    refine ⟨front, ?_⟩
    show _ = s.written ++ records
    rw [← hfront]
    simp

/-- What is known of closed files has no part in it. -/
theorem Ready.with_closed (h : Ready s₀ s data) (files : List (List (List UInt8))) :
    Ready s₀ { s with closed := files } data :=
  ⟨h.nFileNum, h.nFileSize, h.names, h.opened, h.current, h.size, h.nodup, h.named, h.chain,
    h.last, h.suffix⟩

theorem Ready.closeFile_eq (h : Ready s₀ s data) (m : LogMoment) :
    s.closeFile m =
      { s.appended (s.closeLines m) with
        pLogFile := none, closed := s.closed ++ [data ++ s.closeLines m] } := by
  rw [LogFiles.closeFile_eq h.opened m]
  have hget : (s.appended (s.closeLines m)).disk.get? (s.nameAt 0) = _ := (h.appended _).get?
  rw [hget]
  rfl

/-- A switch removes the oldest file at most, lets every other one go on to the name of the file
before it, and begins a new file. -/
theorem Ready.switchFile (h : Ready s₀ s data) (hnum : 2 ≤ s.nFileNum) (m : LogMoment) :
    ∃ s', s.switchFile m = (true, s') ∧ Ready s₀ s' [] ∧
      s'.closed = s.closed ++ [data ++ s.closeLines m] := by
  have hclosed := h.appended (s.closeLines m)
  rw [LogFiles.switchFile, h.closeFile_eq]
  generalize s.appended (s.closeLines m) = c at hclosed
  have hnum : 2 ≤ c.nFileNum := hclosed.nFileNum ▸ h.nFileNum ▸ hnum
  have hlength := hclosed.length_names
  have hkept : c.disk.remove (c.nameAt (c.nFileNum - 1)) <:+ c.disk :=
    Directory.remove_suffix hclosed.last
  obtain ⟨hnodup, hfree⟩ : (c.disk.rotate c.nameAt (c.nFileNum - 1)).names.Nodup ∧
      c.nameAt 0 ∉ (c.disk.rotate c.nameAt (c.nFileNum - 1)).names :=
    Directory.nodup_rotate hclosed.nodup
  -- all but the oldest file have the names of the files that stayed
  obtain ⟨hchain, htail⟩ :=
    Directory.chain_concat (hkept.map Prod.fst) hclosed.chain hclosed.getLast?
  let shut : LogFiles :=
    { c with pLogFile := none, closed := s.closed ++ [data ++ s.closeLines m] }
  refine ⟨{ shut with
      disk := c.disk.rotate c.nameAt (c.nFileNum - 1) ++ [(c.nameAt 0, [])]
      pLogFile := some (c.nameAt 0)
      nCurFileSize := 0 }, reopen_eq (s := shut) rfl hnum hlength hclosed.nodup, ?_, rfl⟩
  have hnames : Directory.names
      (c.disk.rotate c.nameAt (c.nFileNum - 1) ++ [(c.nameAt 0, [])]) =
        (c.disk.rotate c.nameAt (c.nFileNum - 1)).names ++ [c.nameAt 0] :=
    Directory.names_concat _ _
  exact
    { nFileNum := hclosed.nFileNum
      nFileSize := hclosed.nFileSize
      names := hclosed.names
      opened := rfl
      current := ⟨_, rfl⟩
      size := rfl
      nodup := by
        rw [hnames]
        exact List.Nodup.append hnodup (List.nodup_singleton _)
          (List.disjoint_singleton.mpr hfree)
      named := by
        rw [hnames]
        intro x hx
        rcases List.mem_append.mp hx with hx | hx
        · exact Directory.mem_rotate (fun i hi => nameAt_mem hlength (by omega)) hclosed.named x hx
        · rw [List.mem_singleton.mp hx]
          exact nameAt_mem hlength (by omega)
      chain := by
        rw [hnames, Directory.names_rotate]
        exact hchain
      last := by
        rw [hnames, Directory.names_rotate]
        intro x hx heq
        exact Directory.not_mem_remove _ _ (heq ▸ htail x hx)
      suffix := by
        have hflat : (c.disk.rotate c.nameAt (c.nFileNum - 1) ++
            [(c.nameAt 0, [])]).flatMap Prod.snd =
              (c.disk.remove (c.nameAt (c.nFileNum - 1))).flatMap Prod.snd := by
          rw [Directory.rotate, List.flatMap_append, List.flatMap_map]
          exact List.append_nil _
        have hrecords : (c.disk.remove (c.nameAt (c.nFileNum - 1))).flatMap Prod.snd <:+
            c.disk.flatMap Prod.snd := by
          obtain ⟨front, hfront⟩ := hkept
          exact ⟨front.flatMap Prod.snd, by rw [← List.flatMap_append, hfront]⟩
        exact hflat ▸ hrecords.trans hclosed.suffix }

/-- There is no other name for an only file, so a switch opens it again, with the line in it. -/
theorem Ready.switchFile_one (h : Ready s₀ s data) (hnum : s.nFileNum = 1) (m : LogMoment) :
    ∃ s', s.switchFile m = (true, s') ∧ Ready s₀ s' (data ++ s.closeLines m) ∧
      s'.closed = s.closed ++ [data ++ s.closeLines m] := by
  have hclosed := h.appended (s.closeLines m)
  rw [LogFiles.switchFile, h.closeFile_eq]
  generalize s.closeLines m = lines at hclosed
  generalize hc : s.appended lines = c at hclosed
  have hnum : c.nFileNum = 1 := hclosed.nFileNum.trans (h.nFileNum.symm.trans hnum)
  let shut : LogFiles := { c with pLogFile := none, closed := s.closed ++ [data ++ lines] }
  have hrename : shut.reNameFile = shut := by
    have hrounds : shut.nFileNum - 1 = 0 := by
      show c.nFileNum - 1 = 0
      rw [hnum]
    rw [reNameFile, hrounds]
    exact ite_self _
  have hinit : shut.logInit = shut := logInit_of_length hclosed.length_names
  have hopen : ¬ (shut.nFileNum < 1 ∨ shut.pLogFile.isSome = true) := by
    rintro (hlt | hsome)
    · exact absurd hlt (by show ¬ c.nFileNum < 1; omega)
    · cases hsome
  have hhas : shut.disk.has (shut.nameAt 0) = true := by
    rw [Directory.has_iff]
    exact List.mem_of_mem_getLast? hclosed.getLast?
  refine ⟨{ c with closed := s.closed ++ [data ++ lines] }, ?_, hclosed.with_closed _, rfl⟩
  show shut.reNameFile.logOpen = _
  have hget : shut.disk.get? (shut.nameAt 0) = some (data ++ lines) := hclosed.get?
  rw [hrename, logOpen, hinit, if_neg hopen, openFile, Directory.create, if_pos hhas, hget]
  show (true, { c with
    pLogFile := some (c.nameAt 0)
    nCurFileSize := (data ++ lines).flatten.length
    closed := s.closed ++ [data ++ lines] }) = _
  rw [← hclosed.opened, ← hclosed.size]

end

/-! ### The first record -/

theorem switchFile_initLog (config : LogConfig) (m : LogMoment) :
    ∃ s', (initLog config).switchFile m = (true, s') ∧ Ready (initLog config) s' [] ∧
      s'.closed = [] := by
  have hnum : 0 < (initLog config).nFileNum := by
    show 0 < if config.nFileNum > 0 then config.nFileNum.toNat else 5
    split <;> omega
  let named : LogFiles :=
    { initLog config with mArrLogFileName := (initLog config).fileNames }
  have hclose : ((initLog config).closeFile m).reNameFile = initLog config :=
    if_neg (by show ¬ 0 = (initLog config).nFileNum; omega)
  have hinit : (initLog config).logInit = named :=
    if_pos (by show ¬ (initLog config).nFileNum = 0; omega)
  have hlength : named.mArrLogFileName.length = named.nFileNum := length_fileNames _
  let s' : LogFiles :=
    { named with
      disk := [(named.nameAt 0, [])]
      pLogFile := some (named.nameAt 0)
      nCurFileSize := 0 }
  refine ⟨s', ?_, ?_, rfl⟩
  · rw [switchFile, hclose]
    exact logOpen_eq hinit hnum rfl List.not_mem_nil
  · exact
      { nFileNum := rfl
        nFileSize := rfl
        names := rfl
        opened := rfl
        current := ⟨[], rfl⟩
        size := rfl
        nodup := List.nodup_singleton _
        named := by
          intro x hx
          rw [List.mem_singleton.mp hx]
          exact nameAt_mem hlength hnum
        chain := List.isChain_singleton _
        last := by rintro x ⟨⟩
        suffix := List.suffix_rfl }

theorem rotated_initLog (config : LogConfig) : Rotated (initLog config) (initLog config) where
  newest := rfl
  current := by rintro fileName ⟨⟩
  closed := by rintro file ⟨⟩
  files := Nat.zero_le _
  suffix := List.suffix_rfl
  numbered _ := rfl

/-! ### Every sequence of records -/

/-- Where a record does not fit into the open file, the file is not too large yet: with one file,
not even with the line of the logger, and with more of them, if there is such a line. -/
def Keeps (s : LogFiles) (e : LogMoment × List UInt8) : Prop :=
  s.pLogFile.isSome → s.nFileSize < s.nCurFileSize + e.2.length →
    if s.nFileNum = 1 then s.nCurFileSize + (s.closeLines e.1).flatten.length ≤ s.nFileSize
    else s.closeLines e.1 ≠ [] → s.nCurFileSize ≤ s.nFileSize

instance (s : LogFiles) (e : LogMoment × List UInt8) : Decidable (Keeps s e) :=
  inferInstanceAs (Decidable (_ → _ → _))

/-- What holds between two records: nothing was written yet, or the files are as they should be. -/
def Sound (s₀ s : LogFiles) : Prop :=
  s = s₀ ∨ ∃ data, Ready s₀ s data ∧ WithinSize s₀.nFileSize data ∧
    ∀ file ∈ s.closed, WithinSize s₀.nFileSize file

theorem withinSize_concat {nFileSize : Nat} {data : List (List UInt8)} {szLog : List UInt8} :
    WithinSize nFileSize (data ++ [szLog]) ↔ data.flatten.length ≤ nFileSize := by
  unfold WithinSize
  rw [List.getLast?_concat, List.flatten_concat, List.length_append]
  constructor
  · intro h
    have hlast := h szLog rfl
    omega
  · rintro h szLog' ⟨⟩
    omega

theorem forall_closed_concat {nFileSize : Nat} {closed : List (List (List UInt8))}
    {data : List (List UInt8)} :
    (∀ file ∈ closed ++ [data], WithinSize nFileSize file) ↔
      (∀ file ∈ closed, WithinSize nFileSize file) ∧ WithinSize nFileSize data := by
  rw [List.forall_mem_append]
  exact and_congr_right fun _ => List.forall_mem_singleton

section

variable {config : LogConfig} {s : LogFiles} {data : List (List UInt8)}

/-- A file is closed within its size, unless it was too large before the line. -/
theorem withinSize_closeLines (hwithin : WithinSize s.nFileSize data) (m : LogMoment) :
    WithinSize s.nFileSize (data ++ s.closeLines m) ↔
      (s.closeLines m ≠ [] → data.flatten.length ≤ s.nFileSize) := by
  have hlines : s.closeLines m = [] ∨ ∃ line, s.closeLines m = [line] := by
    unfold closeLines
    split
    · exact .inr ⟨_, rfl⟩
    · exact .inl rfl
  rcases hlines with hnone | ⟨line, hline⟩
  · rw [hnone, List.append_nil]
    exact iff_of_true hwithin fun h => absurd rfl h
  · rw [hline, withinSize_concat]
    exact ⟨fun h _ => h, fun h => h (List.cons_ne_nil _ _)⟩

/-- With a file that is open, a record is written as it should be exactly where `Keeps` holds. -/
theorem Ready.logWrite (h : Ready (initLog config) s data)
    (hwithin : WithinSize (initLog config).nFileSize data)
    (hclosed : ∀ file ∈ s.closed, WithinSize (initLog config).nFileSize file)
    (e : LogMoment × List UInt8) :
    (∃ data', Ready (initLog config) (s.logWrite e.1 e.2).2 data') ∧
      (Rotated (initLog config) (s.logWrite e.1 e.2).2 ↔ Keeps s e) := by
  obtain ⟨m, szLog⟩ := e
  rw [← h.nFileSize] at hwithin hclosed
  have hopened : s.pLogFile.isSome = true := h.opened ▸ rfl
  have hopen : ¬ s.pLogFile.isNone = true := by
    rw [h.opened]
    exact Bool.false_ne_true
  unfold LogFiles.logWrite Keeps
  dsimp only
  by_cases hroom : s.nFileSize < s.nCurFileSize + szLog.length
  · rw [if_pos (.inr hroom), imp_iff_right hopened, imp_iff_right hroom, h.size]
    by_cases hone : s.nFileNum = 1
    · obtain ⟨s', hswitch, hready, hclosed'⟩ := h.switchFile_one hone m
      have hwritten := hready.appended [szLog]
      rw [hswitch, if_pos hone, ← List.length_append, ← List.flatten_append]
      dsimp only
      rw [writeFile_eq hready.opened]
      refine ⟨⟨_, hwritten⟩, ?_⟩
      rw [hwritten.within_iff, withinSize_concat, ← h.nFileSize]
      show _ ∧ (∀ file ∈ s'.closed, _) ↔ _
      rw [hclosed', forall_closed_concat, withinSize_closeLines hwithin]
      refine and_iff_left_of_imp fun hsize => ⟨hclosed, fun _ => ?_⟩
      rw [List.flatten_append, List.length_append] at hsize
      omega
    · have hnum : 2 ≤ s.nFileNum := by
        have hsome : 0 < s.nFileNum := Nat.pos_of_ne_zero fun hzero => by
          have hle := h.length_disk
          obtain ⟨old, hdisk⟩ := h.current
          rw [hzero, hdisk, List.length_append, List.length_singleton] at hle
          omega
        omega
      obtain ⟨s', hswitch, hready, hclosed'⟩ := h.switchFile hnum m
      have hwritten := hready.appended [szLog]
      rw [hswitch, if_neg hone]
      dsimp only
      rw [writeFile_eq hready.opened]
      refine ⟨⟨_, hwritten⟩, ?_⟩
      rw [hwritten.within_iff, withinSize_concat, ← h.nFileSize]
      show _ ∧ (∀ file ∈ s'.closed, _) ↔ _
      rw [hclosed', forall_closed_concat, withinSize_closeLines hwithin, and_iff_right hclosed]
      exact and_iff_right (Nat.zero_le _)
  · have hwritten := h.appended [szLog]
    rw [if_neg (not_or.mpr ⟨hopen, hroom⟩)]
    dsimp only
    rw [writeFile_eq h.opened]
    refine ⟨⟨_, hwritten⟩, ?_⟩
    rw [hwritten.within_iff, withinSize_concat, ← h.nFileSize]
    refine iff_of_true ⟨?_, hclosed⟩ fun _ hmore => absurd hmore hroom
    have hsize := h.size
    omega

theorem Sound.rotated (h : Sound (initLog config) s) : Rotated (initLog config) s := by
  rcases h with rfl | ⟨data, hready, hsizes⟩
  · exact rotated_initLog config
  · exact hready.within_iff.mpr hsizes

/-- From sound files, a record leads to rotated ones exactly where `Keeps` holds, and these are
sound again. -/
theorem Sound.step (h : Sound (initLog config) s) (e : LogMoment × List UInt8) :
    (Rotated (initLog config) (s.logWrite e.1 e.2).2 ↔ Keeps s e) ∧
      (Keeps s e → Sound (initLog config) (s.logWrite e.1 e.2).2) := by
  rcases h with rfl | ⟨data, hready, hwithin, hclosed⟩
  · obtain ⟨s', hswitch, hready, hclosed⟩ := switchFile_initLog config e.1
    have hwritten := hready.appended [e.2]
    have hwrite : ((initLog config).logWrite e.1 e.2).2 = s'.appended [e.2] := by
      rw [LogFiles.logWrite, if_pos (.inl rfl), hswitch]
      exact writeFile_eq hready.opened _
    have hsizes : WithinSize (initLog config).nFileSize ([] ++ [e.2]) ∧
        ∀ file ∈ s'.closed, WithinSize (initLog config).nFileSize file := by
      rw [hclosed]
      exact ⟨withinSize_concat.mpr (Nat.zero_le _), List.forall_mem_nil _⟩
    have hfresh : Keeps (initLog config) e := fun hopen => absurd hopen Bool.false_ne_true
    rw [hwrite]
    exact ⟨iff_of_true (hwritten.within_iff.mpr hsizes) hfresh, fun _ => .inr ⟨_, hwritten, hsizes⟩⟩
  · obtain ⟨⟨data', hready'⟩, hiff⟩ := hready.logWrite hwithin hclosed e
    exact ⟨hiff, fun hkeeps => .inr ⟨data', hready', hready'.within_iff.mp (hiff.mpr hkeeps)⟩⟩

theorem along_iff (config : LogConfig) (records : List (LogMoment × List UInt8)) :
    Lts.Along step (Rotated (initLog config)) (initLog config) records ↔
      Lts.Guarded step Keeps (initLog config) records := by
  apply Lts.along_iff_guarded (I := Sound (initLog config))
  · rintro s e s' hsound hkeeps ⟨⟩
    exact (hsound.step e).2 hkeeps
  · exact fun s hsound => hsound.rotated
  · rintro s e s' hsound ⟨⟩ hrotated
    exact (hsound.step e).1.mp hrotated
  · exact .inl rfl

end

/-- The rotation keeps to all of it, after every record, exactly when no file is too large already
at the record that does not fit into it. -/
theorem rotated_iff (config : LogConfig) (records : List (LogMoment × List UInt8)) :
    Lts.Along step (Rotated (initLog config)) (initLog config) records ↔
      Lts.Guarded step Keeps (initLog config) records :=
  along_iff config records

/-- A time of day, and a handle. -/
def sampleMoment : LogMoment where
  strTime := ascii "2023-03-31 16:39:21".toList
  curtime := 1680280761130
  handle := ascii "0x55d0c8a3f2a0".toList

/-- An only file of ten bytes takes in eleven records of one byte each, and the line of the logger;
the first of two files takes in the line behind a record of twenty bytes. -/
theorem not_rotated :
    ¬ Lts.Along step (Rotated (initLog ⟨1, 10, .E_LOG_TARGET_FILE, [46], [97]⟩))
        (initLog ⟨1, 10, .E_LOG_TARGET_FILE, [46], [97]⟩)
        (List.replicate 11 (sampleMoment, [65])) ∧
      ¬ Lts.Along step (Rotated (initLog ⟨2, 10, .E_LOG_TARGET_FILE, [46], [97]⟩))
        (initLog ⟨2, 10, .E_LOG_TARGET_FILE, [46], [97]⟩)
        [(sampleMoment, List.replicate 20 65), (sampleMoment, [65])] := by
  rw [along_iff, along_iff]
  decide +kernel

end LogFiles

end SignalingServer
