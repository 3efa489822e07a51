import Mathlib.Algebra.Group.Nat.Defs
import SignalingServer.Lib.Lts
import SignalingServer.Lib.Threads

/-!
The logger (SelfLog.cpp): any number of producers push records under the lock and
count them in `mLogNum` afterwards; the writer thread pops a record under the
lock and then takes it off the counter. `StopLog` waits for the counter to be 0.
When the writer finds the counter at 0 after a pop, it stores the size of the
queue in it, and a producer whose record is pushed but not yet counted then
counts one too many.
-/

namespace SignalingServer

open Lts

structure LogInfo where
  log : String
  level : Int
  deriving DecidableEq, Repr

/-- The members of `CLog` that the threads share; `mLogNum` is a `uint32_t`. -/
structure CLog where
  mRunStatus : Nat
  mLogs : List LogInfo
  mLogNum : Nat
  deriving DecidableEq, Repr

/-- Where a thread is in `OutPut` (the first four) or `OutPutCall`. -/
inductive ProducerPc where
  | idle
  /-- The record is pushed and not yet counted. -/
  | pushed
  /-- Before the test `mLogNum.load() > 100`. -/
  | counted
  /-- That test led to a call of `OutPutCall`. -/
  | overfull
  /-- In `OutPutCall`, the record is pushed and not yet counted. -/
  | callPushed
  deriving DecidableEq, Repr

/-- Where `writeLogThread` is. -/
inductive WriterPc where
  | gone
  /-- Before the test of `mRunStatus`. -/
  | loopTop
  /-- In `wait_for`, which ends with the lock held, at the latest after 200 ms. -/
  | waiting
  /-- A record is popped, before the test `mLogNum.load() > 0`. -/
  | popped
  | toSub
  | toReset
  /-- The lock is held and `mLogs.size()` is read. -/
  | toStore (size : Nat)
  /-- In `LogWrite`. -/
  | writing
  deriving DecidableEq, Repr

namespace ProducerPc

def uncounted : ProducerPc → Bool
  | pushed | callPushed => true
  | _ => false

end ProducerPc

namespace WriterPc

/-- The popped record is still counted. -/
def owes : WriterPc → Bool
  | popped | toSub | toReset | toStore _ => true
  | _ => false

/-- About to store the size of the queue. -/
def storing : WriterPc → Bool
  | toStore _ => true
  | _ => false

end WriterPc

/-- The logger and its threads. -/
structure LogRun where
  log : CLog
  producers : List ProducerPc
  writer : WriterPc
  deriving DecidableEq, Repr

/-- One step of a producer (with its number), of a caller of `InitLog` or `StopLog`,
or of the writer. -/
inductive LogStep where
  | push (i : Nat) (log : LogInfo)
  | callPush (i : Nat) (log : LogInfo)
  | fetchAdd (i : Nat)
  | testNum (i : Nat)
  | initLog
  | stopLog
  | join
  | writer
  deriving DecidableEq, Repr

namespace LogRun

/-- No log thread, and `n` threads that use the logger. -/
def start (n : Nat) : LogRun where
  log := { mRunStatus := 0, mLogs := [], mLogNum := 0 }
  producers := List.replicate n .idle
  writer := .gone

/-- Producer `i` goes on to `pc`. -/
def goTo (s : LogRun) (i : Nat) (pc : ProducerPc) : LogRun :=
  { s with producers := s.producers.set i pc }

def pushBack (s : LogRun) (log : LogInfo) : LogRun :=
  { s with log := { s.log with mLogs := s.log.mLogs ++ [log] } }

def setNum (s : LogRun) (num : Nat) : LogRun := { s with log := { s.log with mLogNum := num } }

/-- The writer holds `logMtx`, so that nobody can push. -/
def locked (s : LogRun) : Bool := s.writer.storing

/-- The steps of `writeLogThread`. -/
def stepWriter (s : LogRun) : Option LogRun :=
  match s.writer with
  | .gone => none
  | .loopTop => some { s with writer := if s.log.mRunStatus = 1 then .waiting else .gone }
  | .waiting =>
      match s.log.mLogs with
      | [] => some { s with writer := .loopTop }
      | _ :: rest => some { s with log := { s.log with mLogs := rest }, writer := .popped }
  | .popped => some { s with writer := if s.log.mLogNum > 0 then .toSub else .toReset }
  | .toSub => some { s.setNum ((s.log.mLogNum + 2 ^ 32 - 1) % 2 ^ 32) with writer := .writing }
  | .toReset => some { s with writer := .toStore s.log.mLogs.length }
  | .toStore size => some { s.setNum (size % 2 ^ 32) with writer := .writing }
  | .writing => some { s with writer := .loopTop }

/-- `fetch_add(1)`. -/
def countRecord (s : LogRun) : LogRun := s.setNum ((s.log.mLogNum + 1) % 2 ^ 32)

/-- One step. `OutPutCall` is called from `OutPut`, or by itself for a record of its own. -/
def step : Step LogRun LogStep
  | s, .push i log =>
      if s.locked = true then none
      else if s.producers[i]? = some .idle then some ((s.pushBack log).goTo i .pushed)
      else none
  | s, .callPush i log =>
      if s.locked = true then none
      else if s.producers[i]? = some .idle ∨ s.producers[i]? = some .overfull then
        some ((s.pushBack log).goTo i .callPushed)
      else none
  | s, .fetchAdd i =>
      if s.producers[i]? = some .pushed then some (s.countRecord.goTo i .counted)
      else if s.producers[i]? = some .callPushed then some (s.countRecord.goTo i .idle)
      else none
  | s, .testNum i =>
      if s.producers[i]? = some .counted then
        some (s.goTo i (if s.log.mLogNum > 100 then .overfull else .idle))
      else none
  | s, .initLog =>
      if s.log.mRunStatus = 0 ∧ s.writer = .gone then
        some { s with log := { s.log with mRunStatus := 1 }, writer := .loopTop }
      else none
  | s, .stopLog =>
      if s.log.mRunStatus = 1 ∧ s.log.mLogNum = 0 then
        some { s with log := { s.log with mRunStatus := 2 } }
      else none
  | s, .join =>
      if s.log.mRunStatus = 2 ∧ s.writer = .gone then
        some { s with log := { s.log with mRunStatus := 0 } }
      else none
  | s, .writer => s.stepWriter

/-- The producers that have pushed a record and not yet counted it. -/
def pending (s : LogRun) : Nat := s.producers.countP ProducerPc.uncounted

/-- No producer is in the middle of an operation, and the writer has no popped
record that is still counted. -/
def Quiescent (s : LogRun) : Prop := (∀ pc ∈ s.producers, pc = .idle) ∧ s.writer.owes = false

instance (s : LogRun) : Decidable s.Quiescent := inferInstanceAs (Decidable (_ ∧ _))

/-- The counter is right whenever no operation is in progress, it is not decremented
at 0, and `StopLog` gets past its wait when the queue is drained. -/
structure Counted (s : LogRun) : Prop where
  counts : s.Quiescent → s.log.mLogNum = s.log.mLogs.length
  positive : s.writer = .toSub → 0 < s.log.mLogNum
  stops : s.Quiescent → s.log.mLogs = [] → s.log.mRunStatus = 1 → (step s .stopLog).isSome

/-- The counter does not overflow. -/
def Fits (s : LogRun) : LogStep → Prop
  | .fetchAdd _ => s.log.mLogNum + 1 < 2 ^ 32
  | .writer => s.writer.storing = true → s.log.mLogs.length < 2 ^ 32
  | _ => True

/-- Besides, when the writer stores the size of the queue, every pushed record is
counted already. -/
def Prompt (s : LogRun) (c : LogStep) : Prop :=
  Fits s c ∧ (c = .writer → s.writer.storing = true → s.pending = 0)

instance (s : LogRun) (c : LogStep) : Decidable (Fits s c) :=
  match c with
  | .fetchAdd _ => inferInstanceAs (Decidable (_ < _))
  | .writer => inferInstanceAs (Decidable (_ → _))
  | .push _ _ | .callPush _ _ | .testNum _ | .initLog | .stopLog | .join => isTrue trivial

instance (s : LogRun) (c : LogStep) : Decidable (Prompt s c) :=
  inferInstanceAs (Decidable (_ ∧ (_ → _ → _)))

/-! ### The ledger -/

/-- Counter and records in step up to `drift`: what is counted, or is going to be,
is what is queued, what the writer still has to take off, and the drift. -/
structure Ledger (drift : Nat) (s : LogRun) : Prop where
  balance : s.log.mLogNum + s.pending =
    s.log.mLogs.length + (if s.writer.owes then 1 else 0) + drift
  fits : s.log.mLogNum < 2 ^ 32
  positive : s.writer = .toSub → 0 < s.log.mLogNum
  size : ∀ size, s.writer = .toStore size → size = s.log.mLogs.length

theorem ledger_start (n : Nat) : Ledger 0 (start n) where
  balance := by simp [start, pending, WriterPc.owes, ProducerPc.uncounted, List.countP_replicate]
  fits := Nat.two_pow_pos 32
  positive := nofun
  size := nofun

/-- The drift after a step: storing the size of the queue sets it to the number of
records that are pushed and not yet counted. -/
def driftAfter (s : LogRun) (drift : Nat) : LogStep → Nat
  | .writer => if s.writer.storing = true then s.pending else drift
  | _ => drift

theorem pending_goTo {s : LogRun} {i : Nat} {a : ProducerPc} (h : s.producers[i]? = some a)
    (b : ProducerPc) : (s.goTo i b).pending + (if a.uncounted then 1 else 0) =
      s.pending + (if b.uncounted then 1 else 0) :=
  Threads.countP_set h b ProducerPc.uncounted

section LedgerSteps

variable {drift : Nat} {s s' : LogRun} (hs : Ledger drift s)

include hs

theorem Ledger.push {i : Nat} {log : LogInfo} {a b : ProducerPc} (hlock : s.locked = false)
    (ha : s.producers[i]? = some a) (hfrom : a.uncounted = false) (hto : b.uncounted = true) :
    Ledger drift ((s.pushBack log).goTo i b) := by
  have hpending := pending_goTo (s := s.pushBack log) ha b
  have hbalance := hs.balance
  simp only [hfrom, hto, if_true, Bool.false_eq_true, if_false] at hpending
  refine ⟨?_, hs.fits, hs.positive, fun size hsize => ?_⟩
  · have hsame : (s.pushBack log).pending = s.pending := rfl
    have hlength : ((s.pushBack log).goTo i b).log.mLogs.length = s.log.mLogs.length + 1 :=
      List.length_append
    have hnum : ((s.pushBack log).goTo i b).log.mLogNum = s.log.mLogNum := rfl
    have hwriter : ((s.pushBack log).goTo i b).writer = s.writer := rfl
    rw [hnum, hlength, hwriter]
    omega
  · have hwriter : s.writer = .toStore size := hsize
    rw [locked, hwriter] at hlock
    cases hlock

theorem Ledger.fetchAdd {i : Nat} {a b : ProducerPc} (hfit : s.log.mLogNum + 1 < 2 ^ 32)
    (ha : s.producers[i]? = some a) (hfrom : a.uncounted = true) (hto : b.uncounted = false) :
    Ledger drift (s.countRecord.goTo i b) := by
  have hpending := pending_goTo (s := s.countRecord) ha b
  have hbalance := hs.balance
  simp only [hfrom, hto, if_true, Bool.false_eq_true, if_false] at hpending
  have hnum : (s.countRecord.goTo i b).log.mLogNum = s.log.mLogNum + 1 := Nat.mod_eq_of_lt hfit
  refine ⟨?_, ?_, fun _ => ?_, hs.size⟩
  · have hsame : s.countRecord.pending = s.pending := rfl
    have hlogs : (s.countRecord.goTo i b).log.mLogs = s.log.mLogs := rfl
    have hwriter : (s.countRecord.goTo i b).writer = s.writer := rfl
    rw [hnum, hlogs, hwriter]
    omega
  · rw [hnum]
    exact hfit
  · rw [hnum]
    exact Nat.succ_pos _

theorem Ledger.testNum {i : Nat} {a b : ProducerPc} (ha : s.producers[i]? = some a)
    (hfrom : a.uncounted = false) (hto : b.uncounted = false) : Ledger drift (s.goTo i b) := by
  have hpending := pending_goTo ha b
  simp only [hfrom, hto, Bool.false_eq_true, if_false, Nat.add_zero] at hpending
  refine ⟨?_, hs.fits, hs.positive, hs.size⟩
  rw [hpending]
  exact hs.balance

/-- The writer goes on without touching the queue or the counter. -/
theorem Ledger.goWriter {w : WriterPc} (howes : w.owes = s.writer.owes)
    (hsub : w = .toSub → 0 < s.log.mLogNum)
    (hstore : ∀ size, w = .toStore size → size = s.log.mLogs.length) :
    Ledger drift { s with writer := w } where
  balance := by
    simp only [howes]
    exact hs.balance
  fits := hs.fits
  positive := hsub
  size := hstore

theorem Ledger.pop {log : LogInfo} {rest : List LogInfo} (hwriter : s.writer = .waiting)
    (hlogs : s.log.mLogs = log :: rest) :
    Ledger drift { s with log := { s.log with mLogs := rest }, writer := .popped } where
  balance := by
    have hbalance := hs.balance
    rw [hlogs, hwriter] at hbalance
    exact hbalance
  fits := hs.fits
  positive := nofun
  size := nofun

/-- `fetch_sub` after the test of the counter takes the popped record off. -/
theorem Ledger.fetchSub (hwriter : s.writer = .toSub) :
    Ledger drift
      { s.setNum ((s.log.mLogNum + 2 ^ 32 - 1) % 2 ^ 32) with writer := .writing } := by
  have hbalance := hs.balance
  have hfits := hs.fits
  have hpos := hs.positive hwriter
  have hnum : (s.log.mLogNum + 2 ^ 32 - 1) % 2 ^ 32 = s.log.mLogNum - 1 := by omega
  rw [hnum]
  simp only [hwriter, WriterPc.owes, if_true] at hbalance
  refine ⟨?_, ?_, nofun, nofun⟩
  · change s.log.mLogNum - 1 + s.pending = s.log.mLogs.length + 0 + drift
    omega
  · change s.log.mLogNum - 1 < 2 ^ 32
    omega

/-- The store of the size forgets what the counter said about the records that are
pushed and not yet counted. -/
theorem Ledger.store {size : Nat} (hwriter : s.writer = .toStore size)
    (hlength : s.log.mLogs.length < 2 ^ 32) :
    Ledger s.pending { s.setNum (size % 2 ^ 32) with writer := .writing } := by
  have hnum : size % 2 ^ 32 = s.log.mLogs.length := by
    rw [hs.size size hwriter]
    exact Nat.mod_eq_of_lt hlength
  rw [hnum]
  exact ⟨rfl, hlength, nofun, nofun⟩

/-- One step of the writer. Only the store of the size changes the drift. -/
theorem Ledger.stepWriter (hfit : Fits s .writer) (hstep : s.stepWriter = some s') :
    Ledger (driftAfter s drift .writer) s' := by
  unfold LogRun.stepWriter at hstep
  cases hwriter : s.writer with
  | gone => simp [hwriter] at hstep
  | loopTop =>
      simp only [hwriter, Option.some.injEq] at hstep
      subst hstep
      simp only [driftAfter, hwriter, WriterPc.storing]
      apply hs.goWriter
      · rw [hwriter]
        split <;> rfl
      · split <;> nofun
      · split <;> nofun
  | waiting =>
      simp only [driftAfter, hwriter, WriterPc.storing]
      cases hlogs : s.log.mLogs with
      | nil =>
          simp only [hwriter, hlogs, Option.some.injEq] at hstep
          subst hstep
          exact hs.goWriter (by rw [hwriter]; rfl) nofun nofun
      | cons log rest =>
          simp only [hwriter, hlogs, Option.some.injEq] at hstep
          subst hstep
          exact hs.pop hwriter hlogs
  | popped =>
      simp only [hwriter, Option.some.injEq] at hstep
      subst hstep
      simp only [driftAfter, hwriter, WriterPc.storing]
      by_cases hnum : s.log.mLogNum > 0
      · rw [if_pos hnum]
        exact hs.goWriter (by rw [hwriter]; rfl) (fun _ => hnum) nofun
      · rw [if_neg hnum]
        exact hs.goWriter (by rw [hwriter]; rfl) nofun nofun
  | toSub =>
      simp only [hwriter, Option.some.injEq] at hstep
      subst hstep
      simp only [driftAfter, hwriter, WriterPc.storing]
      exact hs.fetchSub hwriter
  | toReset =>
      simp only [hwriter, Option.some.injEq] at hstep
      subst hstep
      simp only [driftAfter, hwriter, WriterPc.storing]
      refine hs.goWriter (by rw [hwriter]; rfl) nofun fun size hsize => ?_
      exact (WriterPc.toStore.inj hsize).symm
  | toStore size =>
      simp only [hwriter, Option.some.injEq] at hstep
      subst hstep
      simp only [driftAfter, hwriter, WriterPc.storing, if_true]
      exact hs.store hwriter (hfit (by rw [hwriter]; rfl))
  | writing =>
      simp only [hwriter, Option.some.injEq] at hstep
      subst hstep
      simp only [driftAfter, hwriter, WriterPc.storing]
      exact hs.goWriter (by rw [hwriter]; rfl) nofun nofun

/-- One step of the logger. -/
theorem Ledger.of_step {c : LogStep} (hfit : Fits s c) (hstep : step s c = some s') :
    Ledger (driftAfter s drift c) s' := by
  cases c with
  | push i log =>
      simp only [step] at hstep
      split at hstep
      · cases hstep
      · rename_i hlock
        split at hstep
        · rename_i hidle
          cases hstep
          exact hs.push (Bool.eq_false_iff.mpr hlock) hidle rfl rfl
        · cases hstep
  | callPush i log =>
      simp only [step] at hstep
      split at hstep
      · cases hstep
      · rename_i hlock
        split at hstep
        · rename_i hfrom
          cases hstep
          rcases hfrom with hfrom | hfrom
          · exact hs.push (Bool.eq_false_iff.mpr hlock) hfrom rfl rfl
          · exact hs.push (Bool.eq_false_iff.mpr hlock) hfrom rfl rfl
        · cases hstep
  | fetchAdd i =>
      simp only [step] at hstep
      split at hstep
      · rename_i hfrom
        cases hstep
        exact hs.fetchAdd hfit hfrom rfl rfl
      · split at hstep
        · rename_i hfrom
          cases hstep
          exact hs.fetchAdd hfit hfrom rfl rfl
        · cases hstep
  | testNum i =>
      simp only [step] at hstep
      split at hstep
      · rename_i hfrom
        cases hstep
        exact hs.testNum hfrom rfl (by split <;> rfl)
      · cases hstep
  | initLog =>
      simp only [step] at hstep
      split at hstep
      · rename_i hstart
        cases hstep
        have hbalance := hs.balance
        rw [hstart.2] at hbalance
        exact ⟨hbalance, hs.fits, nofun, nofun⟩
      · cases hstep
  | stopLog =>
      simp only [step] at hstep
      split at hstep
      · cases hstep
        exact ⟨hs.balance, hs.fits, hs.positive, hs.size⟩
      · cases hstep
  | join =>
      simp only [step] at hstep
      split at hstep
      · cases hstep
        exact ⟨hs.balance, hs.fits, hs.positive, hs.size⟩
      · cases hstep
  | writer => exact hs.stepWriter hfit hstep

/-- With a drift, the counter is off by it when no operation is in progress. -/
theorem Ledger.quiescent (hquiet : s.Quiescent) : s.log.mLogNum = s.log.mLogs.length + drift := by
  have hbalance := hs.balance
  have hpending : s.pending = 0 := by
    apply List.countP_eq_zero.mpr
    intro pc hpc
    rw [hquiet.1 pc hpc]
    exact Bool.false_ne_true
  rw [hpending, hquiet.2] at hbalance
  exact hbalance

end LedgerSteps

theorem Ledger.counted {s : LogRun} (hs : Ledger 0 s) : Counted s where
  counts := fun hquiet => hs.quiescent hquiet
  positive := hs.positive
  stops := fun hquiet hempty hrun => by
    have hzero : s.log.mLogNum = 0 := by rw [hs.quiescent hquiet, hempty]; rfl
    simp [step, hrun, hzero]

/-! ### Runs -/

/-- The drift at the end of a run: the number of records that were pushed and not yet
counted when the writer last stored the size of the queue; 0 before that. -/
def lastDrift : LogRun → Nat → List LogStep → Nat
  | _, drift, [] => drift
  | s, drift, c :: cs =>
      match step s c with
      | none => drift
      | some s' => lastDrift s' (s.driftAfter drift c) cs

theorem Ledger.of_run {drift : Nat} {s t : LogRun} {cs : List LogStep} (hs : Ledger drift s)
    (hfit : Guarded step Fits s cs) (hrun : exec step s cs = some t) :
    Ledger (lastDrift s drift cs) t := by
  induction cs generalizing s drift with
  | nil =>
      cases hrun
      exact hs
  | cons c cs ih =>
      obtain ⟨m, hm, hrest⟩ := exec_cons_eq_some.mp hrun
      obtain ⟨hfits, hfitm⟩ := hfit m hm
      simp only [lastDrift, hm]
      exact ih (hs.of_step hfits hm) hfitm hrest

theorem preserves_ledger : Preserves step Prompt (Ledger 0) := by
  intro s c s' hs hg hstep
  have hnext := hs.of_step hg.1 hstep
  have hdrift : s.driftAfter 0 c = 0 := by
    cases c with
    | writer =>
        rw [driftAfter]
        split
        · rename_i hstoring
          exact hg.2 rfl hstoring
        · rfl
    | _ => rfl
  rwa [hdrift] at hnext

/-- The counter is right in every run in which no producer is between its push and its
increment when the writer stores the size of the queue; and in a run without overflow
it is right in a state without operation in progress exactly if no producer was there
when the writer last did so. -/
theorem counted_along (n : Nat) (cs : List LogStep) :
    (Guarded step Prompt (start n) cs → Along step Counted (start n) cs) ∧
    ∀ t, Guarded step Fits (start n) cs → exec step (start n) cs = some t → t.Quiescent →
      (Counted t ↔ lastDrift (start n) 0 cs = 0) := by
  refine ⟨fun hg => ?_, fun t hfit hrun hquiet => ?_⟩
  · exact (preserves_ledger.along (ledger_start n) hg).mono fun _ hs => hs.counted
  · have ht := (ledger_start n).of_run hfit hrun
    constructor
    · intro hcounted
      have hcount := hcounted.counts hquiet
      have hnum := ht.quiescent hquiet
      omega
    · intro hdrift
      rw [hdrift] at ht
      exact ht.counted

/-- Two producers, one of whose records is popped before it is counted. -/
theorem counted_along_sample :
    Along step Counted (start 2)
      [.initLog, .push 0 { log := "a", level := 4 }, .fetchAdd 0, .writer, .writer,
        .push 1 { log := "b", level := 4 }, .writer, .writer, .testNum 0, .writer, .writer,
        .writer, .writer, .fetchAdd 1, .writer, .writer, .testNum 1] :=
  (counted_along 2 _).1 (by decide)

/-- A queue that is drained while the counter is not at 0 keeps `StopLog` waiting: the
writer goes round its loop and changes neither. -/
theorem writer_idles {s : LogRun} (hrun : s.log.mRunStatus = 1) (hempty : s.log.mLogs = [])
    (hwriter : s.writer = .loopTop ∨ s.writer = .waiting) (k : Nat) :
    ∃ t, exec step s (List.replicate k .writer) = some t ∧ t.log = s.log := by
  induction k generalizing s with
  | zero => exact ⟨s, rfl, rfl⟩
  | succ k ih =>
      rcases hwriter with hwriter | hwriter
      · have hstep : step s .writer = some { s with writer := .waiting } := by
          simp [step, stepWriter, hwriter, hrun]
        obtain ⟨t, ht, hlog⟩ := ih (s := { s with writer := .waiting }) hrun hempty (.inr rfl)
        exact ⟨t, by rw [List.replicate_succ, exec_cons, hstep]; exact ht, hlog⟩
      · have hstep : step s .writer = some { s with writer := .loopTop } := by
          simp [step, stepWriter, hwriter, hempty]
        obtain ⟨t, ht, hlog⟩ := ih (s := { s with writer := .loopTop }) hrun hempty (.inl rfl)
        exact ⟨t, by rw [List.replicate_succ, exec_cons, hstep]; exact ht, hlog⟩

/-- The writer pops the record and stores the size of the empty queue before the
producer counts the record. -/
def lateCount : List LogStep :=
  [.initLog, .writer, .push 0 { log := "started", level := 4 }, .writer, .writer, .writer,
    .writer, .fetchAdd 0, .testNum 0, .writer]

/-- What `lateCount` ends in. -/
def miscounted : LogRun where
  log := { mRunStatus := 1, mLogs := [], mLogNum := 1 }
  producers := [.idle]
  writer := .loopTop

/-- Then the counter stays at 1 with an empty queue, and `StopLog` waits for ever. -/
theorem lateCount_miscounts :
    exec step (start 1) lateCount = some miscounted ∧ miscounted.Quiescent ∧
      ¬ Counted miscounted ∧
      ∀ k, ∃ t, exec step miscounted (List.replicate k .writer) = some t ∧
        step t .stopLog = none := by
  refine ⟨rfl, by decide, fun hcounted => ?_, fun k => ?_⟩
  · exact absurd (hcounted.counts (by decide)) (by decide)
  · obtain ⟨t, ht, hlog⟩ := writer_idles (s := miscounted) rfl rfl (.inl rfl) k
    refine ⟨t, ht, ?_⟩
    simp only [step, hlog]
    rfl

end LogRun

end SignalingServer
