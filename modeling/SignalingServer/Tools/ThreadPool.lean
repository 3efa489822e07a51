import SignalingServer.Lib.Lts
import SignalingServer.Lib.Threads

/-!
The thread pool (ThreadPool.cpp). A worker tests the queue and goes to sleep with
`m_conditional_mutex` held; `submit` and `shutdown` notify without it, and the queue
has a lock of its own. So a notification can fall between a worker's test and its
sleep. The worker waits once, without a predicate, and then takes a task if there is
one.
-/

namespace SignalingServer

open Lts

/-- Where a worker is in `operator()`. -/
inductive WorkerPc where
  /-- Before the test of `m_shutdown`. -/
  | loopTop
  | atLock
  /-- With `m_conditional_mutex`, before `m_queue.empty()`. -/
  | locked
  /-- With the mutex, after the queue was found empty. -/
  | toWait
  | blocked
  /-- Woken up, to go on as soon as it has the mutex again. -/
  | notified
  /-- With the mutex, before `dequeue`. -/
  | toDequeue
  | running (func : Option Nat)
  | gone
  deriving DecidableEq, Repr

/-- Where a thread is in `submit`. -/
inductive SubmitterPc where
  | idle
  /-- The task is enqueued, before `notify_one`. -/
  | enqueued
  deriving DecidableEq, Repr

/-- Where `shutdown` is. -/
inductive ShutdownPc where
  | idle
  /-- `m_shutdown` is set, before `notify_all`. -/
  | flagged
  | notified
  deriving DecidableEq, Repr

namespace WorkerPc

/-- The worker holds `m_conditional_mutex`. -/
def holds : WorkerPc → Bool
  | locked | toWait | toDequeue => true
  | _ => false

/-- The worker runs the task. -/
def runs (task : Nat) : WorkerPc → Bool
  | running (some func) => func == task
  | _ => false

/-- What `notify_all` does to a worker. -/
def woken : WorkerPc → WorkerPc
  | blocked => notified
  | pc => pc

end WorkerPc

/-- The pool and its threads; tasks are numbered in the order of their submission. -/
structure ThreadPool where
  m_shutdown : Bool
  m_queue : List Nat
  workers : List WorkerPc
  submitters : List SubmitterPc
  stopper : ShutdownPc
  submitted : Nat
  ran : List Nat
  deriving DecidableEq, Repr

/-- One step of a worker or a submitter (with its number) or of `shutdown`. A notified
worker is named; `wake` is a spurious wake-up. -/
inductive PoolStep where
  | worker (i : Nat)
  | wake (i : Nat)
  | enqueue (k : Nat)
  | notifyOne (k i : Nat)
  | setShutdown
  | notifyAll
  deriving DecidableEq, Repr

namespace ThreadPool

def start (workers submitters : Nat) : ThreadPool where
  m_shutdown := false
  m_queue := []
  workers := List.replicate workers .loopTop
  submitters := List.replicate submitters .idle
  stopper := .idle
  submitted := 0
  ran := []

/-- Worker `i` goes on to `pc`. -/
def goTo (s : ThreadPool) (i : Nat) (pc : WorkerPc) : ThreadPool :=
  { s with workers := s.workers.set i pc }

/-- Nobody holds `m_conditional_mutex`. -/
def lockFree (s : ThreadPool) : Bool := s.workers.countP WorkerPc.holds = 0

/-- What a worker at `pc` does next: its effect on the pool, and where it is then. -/
def move (s : ThreadPool) : WorkerPc → Option (ThreadPool × WorkerPc)
  | .loopTop => some (s, if s.m_shutdown then .gone else .atLock)
  | .atLock => if s.lockFree then some (s, .locked) else none
  | .locked => some (s, if s.m_queue = [] then .toWait else .toDequeue)
  | .toWait => some (s, .blocked)
  | .blocked => none
  | .notified => if s.lockFree then some (s, .toDequeue) else none
  | .toDequeue =>
      match s.m_queue with
      | [] => some (s, .running none)
      | task :: rest => some ({ s with m_queue := rest }, .running (some task))
  | .running func => some ({ s with ran := s.ran ++ func.toList }, .loopTop)
  | .gone => none

def step : Step ThreadPool PoolStep
  | s, .worker i =>
      match s.workers[i]? with
      | none => none
      | some pc => (s.move pc).map fun r => r.1.goTo i r.2
  | s, .wake i => if s.workers[i]? = some .blocked then some (s.goTo i .notified) else none
  | s, .enqueue k =>
      if s.submitters[k]? = some .idle then
        some { s with
          m_queue := s.m_queue ++ [s.submitted]
          submitters := s.submitters.set k .enqueued
          submitted := s.submitted + 1 }
      else none
  | s, .notifyOne k i =>
      if s.submitters[k]? = some .enqueued then
        let s' := { s with submitters := s.submitters.set k .idle }
        if .blocked ∈ s.workers then
          if s.workers[i]? = some .blocked then some (s'.goTo i .notified) else none
        else some s'
      else none
  | s, .setShutdown =>
      if s.stopper = .idle then some { s with m_shutdown := true, stopper := .flagged } else none
  | s, .notifyAll =>
      if s.stopper = .flagged then
        some { s with workers := s.workers.map WorkerPc.woken, stopper := .notified }
      else none

/-- A notification is on its way. -/
def Pending (s : ThreadPool) : Prop := .enqueued ∈ s.submitters ∨ s.stopper = .flagged

instance (s : ThreadPool) : Decidable s.Pending := inferInstanceAs (Decidable (_ ∨ _))

/-- Some worker sleeps, and every other one sleeps too or has returned. -/
def AllBlocked (s : ThreadPool) : Prop :=
  .blocked ∈ s.workers ∧ ∀ pc ∈ s.workers, pc = .blocked ∨ pc = .gone

instance (s : ThreadPool) : Decidable s.AllBlocked := inferInstanceAs (Decidable (_ ∧ _))

/-- Every worker that is left sleeps and nobody is going to wake one up, although there
is a task or the pool is shut down. -/
def Stuck (s : ThreadPool) : Prop :=
  (s.m_queue ≠ [] ∨ s.stopper = .notified) ∧ s.AllBlocked ∧ ¬ s.Pending

instance (s : ThreadPool) : Decidable s.Stuck := inferInstanceAs (Decidable (_ ∧ _ ∧ _))

/-- No wake-up is lost, and no task was run twice. -/
structure NoLostWakeup (s : ThreadPool) : Prop where
  awake : ¬ s.Stuck
  once : ∀ task, s.ran.count task ≤ 1

/-- Where a worker at `pc` is when it stops with its next step: asleep or returned. -/
def rest (s : ThreadPool) : WorkerPc → Option WorkerPc
  | .toWait => some .blocked
  | .loopTop => if s.m_shutdown then some .gone else none
  | _ => none

/-- When the last worker that is awake goes to sleep, or returns and leaves one asleep, and
no notification is on its way, then `shutdown` has not notified, and if it is the only
worker, the queue is still empty. -/
def Timely (s : ThreadPool) : PoolStep → Prop
  | .worker i =>
      ∀ pc', s.workers[i]?.bind s.rest = some pc' → (s.goTo i pc').AllBlocked → ¬ s.Pending →
        s.stopper ≠ .notified ∧ (s.workers.length = 1 → s.m_queue = [])
  | _ => True

/-! ### What a step of a worker does -/

/-- A step of a worker from `pc` to `pc'`: the other threads do not notice it, the mutex
is taken only when it is free, a worker stops as `rest` says, `toWait` comes only from
an empty queue, and tasks are neither lost nor doubled. -/
structure Move (s s' : ThreadPool) (pc pc' : WorkerPc) : Prop where
  workers : s'.workers = s.workers
  submitters : s'.submitters = s.submitters
  stopper : s'.stopper = s.stopper
  submitted : s'.submitted = s.submitted
  holds : pc'.holds = true → pc.holds = true ∨ s.lockFree = true
  m_shutdown : s'.m_shutdown = s.m_shutdown
  blocked : pc' = .blocked → pc = .toWait
  rest : pc' = .blocked ∨ pc' = .gone → s.rest pc = some pc' ∧ s' = s
  toWait : pc' = .toWait → s'.m_queue = []
  queue : s'.m_queue ≠ [] → s.m_queue ≠ []
  copies : ∀ task, s'.ran.count task + s'.m_queue.count task + (if pc'.runs task then 1 else 0) =
    s.ran.count task + s.m_queue.count task + (if pc.runs task then 1 else 0)

/-- A step that leaves the pool alone. -/
theorem Move.stay {s : ThreadPool} {pc pc' : WorkerPc}
    (holds : pc'.holds = true → pc.holds = true ∨ s.lockFree = true)
    (blocked : pc' = .blocked → pc = .toWait)
    (rest : pc' = .blocked ∨ pc' = .gone → s.rest pc = some pc')
    (toWait : pc' = .toWait → s.m_queue = [])
    (runs : ∀ task, pc'.runs task = pc.runs task) : Move s s pc pc' where
  workers := rfl
  submitters := rfl
  stopper := rfl
  submitted := rfl
  holds := holds
  m_shutdown := rfl
  blocked := blocked
  rest := fun h => ⟨rest h, rfl⟩
  toWait := toWait
  queue := id
  copies := fun task => by rw [runs task]

theorem move_spec {s s' : ThreadPool} {pc pc' : WorkerPc}
    (hmove : s.move pc = some (s', pc')) : Move s s' pc pc' := by
  cases pc with
  | loopTop =>
      simp only [move, Option.some.injEq, Prod.mk.injEq] at hmove
      obtain ⟨rfl, rfl⟩ := hmove
      split
      · rename_i hdown
        exact .stay nofun nofun (fun _ => if_pos hdown) nofun fun _ => rfl
      · exact .stay nofun nofun (by rintro (h | h) <;> cases h) nofun fun _ => rfl
  | atLock =>
      simp only [move] at hmove
      split at hmove
      · rename_i hfree
        cases hmove
        exact .stay (fun _ => .inr hfree) nofun (by rintro (h | h) <;> cases h) nofun fun _ => rfl
      · cases hmove
  | locked =>
      simp only [move, Option.some.injEq, Prod.mk.injEq] at hmove
      obtain ⟨rfl, rfl⟩ := hmove
      split
      · rename_i hempty
        exact .stay (fun _ => .inl rfl) nofun (by rintro (h | h) <;> cases h) (fun _ => hempty)
          fun _ => rfl
      · exact .stay (fun _ => .inl rfl) nofun (by rintro (h | h) <;> cases h) nofun fun _ => rfl
  | toWait =>
      cases hmove
      exact .stay nofun (fun _ => rfl) (fun _ => rfl) nofun fun _ => rfl
  | blocked => cases hmove
  | notified =>
      simp only [move] at hmove
      split at hmove
      · rename_i hfree
        cases hmove
        exact .stay (fun _ => .inr hfree) nofun (by rintro (h | h) <;> cases h) nofun fun _ => rfl
      · cases hmove
  | toDequeue =>
      simp only [move] at hmove
      split at hmove
      · cases hmove
        exact .stay nofun nofun (by rintro (h | h) <;> cases h) nofun fun _ => rfl
      · rename_i task rest hqueue
        cases hmove
        refine ⟨rfl, rfl, rfl, rfl, nofun, rfl, nofun, (by rintro (h | h) <;> cases h), nofun,
          fun _ => ?_, fun t => ?_⟩
        · rw [hqueue]
          exact List.cons_ne_nil _ _
        · by_cases heq : task = t
          · simp [hqueue, WorkerPc.runs, heq, Nat.add_assoc]
          · simp [hqueue, WorkerPc.runs, heq]
  | running func =>
      cases hmove
      refine ⟨rfl, rfl, rfl, rfl, nofun, rfl, nofun, (by rintro (h | h) <;> cases h), nofun, id,
        fun t => ?_⟩
      cases func with
      | none => simp [WorkerPc.runs]
      | some task =>
          by_cases heq : task = t
          · simp [WorkerPc.runs, heq, Nat.add_right_comm]
          · simp [WorkerPc.runs, heq]
  | gone => cases hmove

/-- What a step of the pool does. A sleeper is woken by a notification or spuriously; a
notification that finds no sleeper is gone. -/
inductive Stepped (s : ThreadPool) (c : PoolStep) (s' : ThreadPool) : Prop where
  | worker (i : Nat) (pc pc' : WorkerPc) (r : ThreadPool) (hc : c = .worker i)
      (hpc : s.workers[i]? = some pc) (hmove : s.move pc = some (r, pc'))
      (hs' : s' = r.goTo i pc')
  | wake (i : Nat) (submitters : List SubmitterPc) (hpc : s.workers[i]? = some .blocked)
      (hs' : s' = { s with submitters := submitters }.goTo i .notified)
  | enqueue (k : Nat) (hk : s.submitters[k]? = some .idle)
      (hs' : s' = { s with
        m_queue := s.m_queue ++ [s.submitted]
        submitters := s.submitters.set k .enqueued
        submitted := s.submitted + 1 })
  | notifyNone (submitters : List SubmitterPc) (hawake : .blocked ∉ s.workers)
      (hs' : s' = { s with submitters := submitters })
  | setShutdown (hs' : s' = { s with m_shutdown := true, stopper := .flagged })
  | notifyAll (hs' : s' = { s with workers := s.workers.map WorkerPc.woken, stopper := .notified })

theorem stepped_of_step {s s' : ThreadPool} {c : PoolStep} (hstep : step s c = some s') :
    Stepped s c s' := by
  cases c with
  | worker i =>
      simp only [step] at hstep
      split at hstep
      · cases hstep
      · rename_i pc hpc
        obtain ⟨⟨r, pc'⟩, hmove, rfl⟩ := Option.map_eq_some_iff.mp hstep
        exact .worker i pc pc' r rfl hpc hmove rfl
  | wake i =>
      obtain ⟨hpc, hs'⟩ := Option.ite_none_right_eq_some.mp hstep
      cases hs'
      exact .wake i s.submitters hpc rfl
  | enqueue k =>
      obtain ⟨hk, hs'⟩ := Option.ite_none_right_eq_some.mp hstep
      cases hs'
      exact .enqueue k hk rfl
  | notifyOne k i =>
      obtain ⟨-, hstep⟩ := Option.ite_none_right_eq_some.mp hstep
      split at hstep
      · obtain ⟨hpc, hs'⟩ := Option.ite_none_right_eq_some.mp hstep
        cases hs'
        exact .wake i _ hpc rfl
      · rename_i hawake
        cases hstep
        exact .notifyNone _ hawake rfl
  | setShutdown =>
      obtain ⟨-, hs'⟩ := Option.ite_none_right_eq_some.mp hstep
      cases hs'
      exact .setShutdown rfl
  | notifyAll =>
      obtain ⟨-, hs'⟩ := Option.ite_none_right_eq_some.mp hstep
      cases hs'
      exact .notifyAll rfl

/-! ### What every run keeps -/

/-- How often a task is queued, being run or run. -/
def copies (s : ThreadPool) (task : Nat) : Nat :=
  s.ran.count task + s.m_queue.count task + s.workers.countP (WorkerPc.runs task)

/-- When a worker is about to sleep although the queue is not empty any more, then a
submitter is going to notify, or another worker is awake, or there is no other worker. -/
def Window (s : ThreadPool) : Prop :=
  ∀ i : Nat, s.workers[i]? = some WorkerPc.toWait → s.m_queue ≠ [] →
    SubmitterPc.enqueued ∈ s.submitters ∨
      (∃ (j : Nat) (pc : WorkerPc), j ≠ i ∧ s.workers[j]? = some pc ∧ pc ≠ WorkerPc.blocked) ∨
      s.workers.length = 1

/-- Until `shutdown` begins, `m_shutdown` is not set and no worker has returned. -/
def Open (s : ThreadPool) : Prop :=
  s.stopper = .idle → s.m_shutdown = false ∧ .gone ∉ s.workers

/-- The mutex has one holder at most, and every submitted task is there once. -/
structure Inv (s : ThreadPool) : Prop where
  opened : s.Open
  mutex : s.workers.countP WorkerPc.holds ≤ 1
  tasks : ∀ task, s.copies task = if task < s.submitted then 1 else 0
  window : s.Window

theorem inv_start (workers submitters : Nat) : Inv (start workers submitters) where
  opened := fun _ => ⟨rfl, fun hgone => WorkerPc.noConfusion (List.eq_of_mem_replicate hgone)⟩
  mutex := by simp [start, List.countP_replicate, WorkerPc.holds]
  tasks := fun task => by simp [start, copies, List.countP_replicate, WorkerPc.runs]
  window := fun i hi hqueue => absurd rfl hqueue

/-- Where no worker sleeps, another worker is awake or there is none. -/
theorem window_of_notMem {s : ThreadPool} (hawake : WorkerPc.blocked ∉ s.workers) :
    s.Window := by
  intro i hi _
  have hlen : i < s.workers.length := (List.getElem?_eq_some_iff.mp hi).1
  by_cases hone : s.workers.length = 1
  · exact .inr (.inr hone)
  · obtain ⟨j, hj, hne⟩ : ∃ j < s.workers.length, j ≠ i := by
      by_cases hzero : i = 0
      · exact ⟨1, by omega, by omega⟩
      · exact ⟨0, by omega, Ne.symm hzero⟩
    refine .inr (.inl ⟨j, s.workers[j], hne, List.getElem?_eq_getElem hj, fun hblocked => ?_⟩)
    exact hawake (hblocked ▸ List.getElem_mem hj)

theorem rest_ne_gone {s : ThreadPool} {pc : WorkerPc} (hup : s.m_shutdown = false) :
    s.rest pc ≠ some .gone := by
  cases pc <;> simp [rest, hup]

section InvSteps

variable {s s' : ThreadPool} (hs : Inv s)

include hs

/-- Two workers do not hold the mutex. -/
theorem Inv.holder {i j : Nat} {a b : WorkerPc} (hi : s.workers[i]? = some a)
    (hj : s.workers[j]? = some b) (ha : a.holds = true) (hb : b.holds = true) : j = i := by
  by_contra hne
  have hset := Threads.countP_set hi .gone WorkerPc.holds
  have hstill : 0 < (s.workers.set i .gone).countP WorkerPc.holds := by
    apply List.countP_pos_iff.mpr
    refine ⟨b, List.mem_iff_getElem?.mpr ⟨j, ?_⟩, hb⟩
    rw [List.getElem?_set_ne (Ne.symm hne), hj]
  have hmutex := hs.mutex
  have hgone : WorkerPc.gone.holds = false := rfl
  rw [ha, hgone] at hset
  simp only [if_true, Bool.false_eq_true, if_false] at hset
  omega

theorem Inv.worker {i : Nat} {pc pc' : WorkerPc} {r : ThreadPool}
    (hpc : s.workers[i]? = some pc) (hmove : s.move pc = some (r, pc')) : Inv (r.goTo i pc') := by
  have hspec := move_spec hmove
  have hlen : i < s.workers.length := (List.getElem?_eq_some_iff.mp hpc).1
  have hcount : ∀ p : WorkerPc → Bool, (r.goTo i pc').workers.countP p + (if p pc then 1 else 0) =
      s.workers.countP p + (if p pc' then 1 else 0) := by
    intro p
    rw [goTo, hspec.workers]
    exact Threads.countP_set hpc pc' p
  refine ⟨fun hidle => ?_, ?_, fun task => ?_, fun j hj hqueue => ?_⟩
  · -- a worker returns only when it reads `m_shutdown`
    rw [goTo, hspec.stopper] at hidle
    obtain ⟨hup, hnone⟩ := hs.opened hidle
    rw [goTo, hspec.m_shutdown, hspec.workers]
    refine ⟨hup, fun hgone => ?_⟩
    rcases List.mem_or_eq_of_mem_set hgone with hold | rfl
    · exact hnone hold
    · exact rest_ne_gone hup (hspec.rest (.inr rfl)).1
  · have hmutex := hs.mutex
    have hnow := hcount WorkerPc.holds
    by_cases hholds : pc'.holds = true
    · rcases hspec.holds hholds with hheld | hfree
      · rw [hheld, hholds] at hnow
        omega
      · have hzero : s.workers.countP WorkerPc.holds = 0 := of_decide_eq_true hfree
        rw [if_pos hholds] at hnow
        omega
    · rw [if_neg hholds] at hnow
      omega
  · have hold := hs.tasks task
    have hnow := hcount (WorkerPc.runs task)
    have hcopies := hspec.copies task
    have hsub : (r.goTo i pc').submitted = s.submitted := hspec.submitted
    simp only [copies] at hold ⊢
    rw [hsub, ← hold]
    have hran : (r.goTo i pc').ran = r.ran := rfl
    have hqueue : (r.goTo i pc').m_queue = r.m_queue := rfl
    rw [hran, hqueue]
    omega
  · -- the worker that moved is awake, or it is the one that is about to sleep
    rw [goTo, hspec.workers] at hj
    by_cases heq : i = j
    · subst heq
      rw [List.getElem?_set_self hlen] at hj
      exact absurd (hspec.toWait (Option.some.inj hj)) hqueue
    · rw [List.getElem?_set_ne heq] at hj
      refine .inr (.inl ⟨i, pc', heq, ?_, fun hblocked => ?_⟩)
      · rw [goTo, hspec.workers, List.getElem?_set_self hlen]
      · have hwait := hspec.blocked hblocked
        rw [hwait] at hpc
        exact heq (hs.holder hj hpc rfl rfl)

/-- A worker that is woken up by `r`, a state with the same workers and tasks. -/
theorem Inv.wake {i : Nat} {r : ThreadPool} (hpc : s.workers[i]? = some .blocked)
    (hopen : r.Open) (hworkers : r.workers = s.workers) (htasks : r.copies = s.copies)
    (hsubmitted : r.submitted = s.submitted) : Inv (r.goTo i .notified) := by
  rw [← hworkers] at hpc
  have hlen : i < r.workers.length := (List.getElem?_eq_some_iff.mp hpc).1
  refine ⟨fun hidle => ?_, ?_, fun task => ?_, fun j hj _ => ?_⟩
  · obtain ⟨hup, hnone⟩ := hopen hidle
    refine ⟨hup, fun hgone => ?_⟩
    rcases List.mem_or_eq_of_mem_set hgone with hold | hnew
    · exact hnone hold
    · cases hnew
  · have hcount := Threads.countP_set hpc .notified WorkerPc.holds
    have hmutex := hs.mutex
    rw [← hworkers] at hmutex
    exact le_of_eq_of_le hcount hmutex
  · have hcount := Threads.countP_set hpc .notified (WorkerPc.runs task)
    have htask := hs.tasks task
    simp only [WorkerPc.runs, Bool.false_eq_true, if_false, Nat.add_zero] at hcount
    rw [← htasks, ← hsubmitted, copies] at htask
    rw [copies, goTo, hcount]
    exact htask
  · refine .inr (.inl ⟨i, .notified, ?_, List.getElem?_set_self hlen, nofun⟩)
    rintro rfl
    rw [goTo, List.getElem?_set_self hlen] at hj
    cases hj

/-- Steps that leave workers and tasks alone. -/
theorem Inv.of_window (hwindow : s'.Window) (hopen : s'.Open) (hworkers : s'.workers = s.workers)
    (htasks : s'.copies = s.copies) (hsubmitted : s'.submitted = s.submitted) : Inv s' where
  opened := hopen
  mutex := by rw [hworkers]; exact hs.mutex
  tasks := by rw [htasks, hsubmitted]; exact hs.tasks
  window := hwindow

theorem Inv.enqueue {k : Nat} (hk : s.submitters[k]? = some .idle) :
    Inv { s with
      m_queue := s.m_queue ++ [s.submitted]
      submitters := s.submitters.set k .enqueued
      submitted := s.submitted + 1 } where
  opened := hs.opened
  mutex := hs.mutex
  tasks := fun task => by
    have hold := hs.tasks task
    simp only [copies, List.count_append, List.count_singleton] at hold ⊢
    by_cases heq : s.submitted = task
    · simp only [heq, Nat.lt_irrefl, if_false] at hold
      simp only [heq, beq_self_eq_true, Nat.lt_succ_self, if_true]
      omega
    · have hsame : (task < s.submitted + 1) = (task < s.submitted) :=
        propext ⟨fun h => by omega, fun h => by omega⟩
      simp only [beq_iff_eq, heq, if_false, hsame]
      omega
  window := fun _ _ _ =>
    .inl (List.mem_set (List.getElem?_eq_some_iff.mp hk).1 _)

/-- `notify_all` wakes every sleeping worker. -/
theorem Inv.notifyAll : Inv { s with workers := s.workers.map .woken, stopper := .notified } := by
  have hholds : WorkerPc.holds ∘ WorkerPc.woken = WorkerPc.holds := by
    ext pc
    cases pc <;> rfl
  have hruns : ∀ task, WorkerPc.runs task ∘ WorkerPc.woken = WorkerPc.runs task := by
    intro task
    ext pc
    cases pc <;> rfl
  refine ⟨fun hidle => ShutdownPc.noConfusion hidle, ?_, fun task => ?_, ?_⟩
  · rw [List.countP_map, hholds]
    exact hs.mutex
  · rw [copies, List.countP_map, hruns]
    exact hs.tasks task
  · apply window_of_notMem
    intro hblocked
    obtain ⟨pc, -, hpc⟩ := List.mem_map.mp hblocked
    cases pc <;> cases hpc

theorem Inv.of_step {c : PoolStep} (hstep : step s c = some s') : Inv s' := by
  cases stepped_of_step hstep with
  | worker i pc pc' r hc hpc hmove hs' =>
      subst hs'
      exact hs.worker hpc hmove
  | wake i submitters hpc hs' =>
      subst hs'
      exact hs.wake hpc hs.opened rfl rfl rfl
  | enqueue k hk hs' =>
      subst hs'
      exact hs.enqueue hk
  | notifyNone submitters hawake hs' =>
      subst hs'
      exact hs.of_window (window_of_notMem hawake) hs.opened rfl rfl rfl
  | setShutdown hs' =>
      subst hs'
      exact hs.of_window hs.window (fun hidle => ShutdownPc.noConfusion hidle) rfl rfl rfl
  | notifyAll hs' =>
      subst hs'
      exact hs.notifyAll

end InvSteps

/-! ### Lost wake-ups -/

/-- A state with a worker that is awake is not stuck. -/
theorem not_allBlocked {s : ThreadPool} {pc : WorkerPc} (hmem : pc ∈ s.workers)
    (hblocked : pc ≠ .blocked) (hgone : pc ≠ .gone) : ¬ s.AllBlocked :=
  fun hall => (hall.2 pc hmem).elim hblocked hgone

/-- Only a worker that stops leads into a stuck state. -/
theorem stuck_of_step {s s' : ThreadPool} {c : PoolStep} (hstep : step s c = some s')
    (hstuck : s'.Stuck) :
    ∃ i pc', c = .worker i ∧ s.workers[i]?.bind s.rest = some pc' ∧ s' = s.goTo i pc' := by
  obtain ⟨-, hall, hpending⟩ := hstuck
  cases stepped_of_step hstep with
  | worker i pc pc' r hc hpc hmove hs' =>
      subst hs'
      have hspec := move_spec hmove
      have hlen : i < r.workers.length := by
        rw [hspec.workers]
        exact (List.getElem?_eq_some_iff.mp hpc).1
      obtain ⟨hrest, rfl⟩ := hspec.rest (hall.2 pc' (List.mem_set hlen pc'))
      exact ⟨i, pc', hc, by rw [hpc, Option.bind_some, hrest], rfl⟩
  | wake i submitters hpc hs' =>
      subst hs'
      have hlen := (List.getElem?_eq_some_iff.mp hpc).1
      exact absurd hall (not_allBlocked (List.mem_set hlen .notified) nofun nofun)
  | enqueue k hk hs' =>
      subst hs'
      have hlen := (List.getElem?_eq_some_iff.mp hk).1
      exact absurd (.inl (List.mem_set hlen .enqueued)) hpending
  | notifyNone submitters hawake hs' =>
      subst hs'
      exact absurd hall.1 hawake
  | setShutdown hs' =>
      subst hs'
      exact absurd (.inr rfl) hpending
  | notifyAll hs' =>
      subst hs'
      obtain ⟨old, -, hold⟩ := List.mem_map.mp hall.1
      cases old <;> cases hold

/-- Until `shutdown` begins, with two workers or more, a task that comes while the last one
goes to sleep wakes another one up. -/
theorem Inv.queue_eq_nil {s : ThreadPool} (hs : Inv s) {i : Nat}
    (hi : s.workers[i]? = some .toWait) (hall : (s.goTo i .blocked).AllBlocked)
    (hidle : s.stopper = .idle) (hpending : ¬ s.Pending) (hmany : s.workers.length ≠ 1) :
    s.m_queue = [] := by
  by_contra hqueue
  obtain hsubmitter | ⟨j, pc, hne, hj, hawake⟩ | hone := hs.window i hi hqueue
  · exact hpending (.inl hsubmitter)
  · have hothers := ((Threads.forall_set hi .blocked fun pc => pc = .blocked ∨ pc = .gone).mp
      hall.2).2
    rcases hothers j hne pc hj with hblocked | rfl
    · exact hawake hblocked
    · exact (hs.opened hidle).2 (List.mem_of_getElem? hj)
  · exact hmany hone

/-- A worker that stops before `shutdown` has notified goes to sleep. -/
theorem Inv.rest_toWait {s : ThreadPool} (hs : Inv s) (hidle : s.stopper = .idle) {i : Nat}
    {pc' : WorkerPc} (hrest : s.workers[i]?.bind s.rest = some pc') :
    s.workers[i]? = some .toWait ∧ pc' = .blocked := by
  obtain ⟨pc, hpc, hpc'⟩ := Option.bind_eq_some_iff.mp hrest
  cases pc with
  | toWait =>
      cases hpc'
      exact ⟨hpc, rfl⟩
  | loopTop =>
      rw [rest, (hs.opened hidle).1] at hpc'
      cases hpc'
  | _ => cases hpc'

/-- A worker's way to stop ends in a stuck state exactly if it is not timely. -/
theorem Inv.stuck_iff {s : ThreadPool} (hs : Inv s) {i : Nat} {pc' : WorkerPc}
    (hrest : s.workers[i]?.bind s.rest = some pc') :
    (s.goTo i pc').Stuck ↔ ¬ s.Timely (.worker i) := by
  constructor
  · rintro ⟨hwork, hall, hpending⟩ htimely
    obtain ⟨hstopper, hone⟩ := htimely pc' hrest hall hpending
    have hidle : s.stopper = .idle := by
      cases hstop : s.stopper with
      | idle => rfl
      | flagged => exact absurd (.inr hstop) hpending
      | notified => exact absurd hstop hstopper
    obtain ⟨hi, rfl⟩ := hs.rest_toWait hidle hrest
    rcases hwork with hqueue | hstopped
    · by_cases hlen : s.workers.length = 1
      · exact hqueue (hone hlen)
      · exact hqueue (hs.queue_eq_nil hi hall hidle hpending hlen)
    · exact hstopper hstopped
  · intro hlate
    by_contra hawake
    refine hlate fun pc hpc hall hpending => ?_
    rw [hrest] at hpc
    cases hpc
    refine ⟨fun hstopped => ?_, fun _ => ?_⟩
    · exact hawake ⟨.inr hstopped, hall, hpending⟩
    · by_contra hqueue
      exact hawake ⟨.inl hqueue, hall, hpending⟩

/-- A worker that stops is enabled, and its step is `rest`. -/
theorem step_rest {s : ThreadPool} {i : Nat} {pc' : WorkerPc}
    (hrest : s.workers[i]?.bind s.rest = some pc') :
    step s (.worker i) = some (s.goTo i pc') := by
  obtain ⟨pc, hpc, hpc'⟩ := Option.bind_eq_some_iff.mp hrest
  cases pc with
  | toWait =>
      cases hpc'
      simp [step, hpc, move]
  | loopTop =>
      obtain ⟨hdown, hpc'⟩ := Option.ite_none_right_eq_some.mp hpc'
      cases hpc'
      simp [step, hpc, move, hdown]
  | _ => cases hpc'

theorem Inv.noLostWakeup {s : ThreadPool} (hs : Inv s) (hawake : ¬ s.Stuck) :
    s.NoLostWakeup where
  awake := hawake
  once := fun task => by
    have htask := hs.tasks task
    rw [copies] at htask
    split at htask <;> omega

/-- No wake-up is lost along a run exactly if every worker stops in time. -/
theorem noLostWakeup_iff (workers submitters : Nat) (cs : List PoolStep) :
    Along step NoLostWakeup (start workers submitters) cs ↔
      Guarded step Timely (start workers submitters) cs := by
  have hkeep : Preserves step Timely fun s => Inv s ∧ ¬ s.Stuck := by
    rintro s c s' ⟨hs, -⟩ htimely hstep
    refine ⟨hs.of_step hstep, fun hstuck => ?_⟩
    obtain ⟨i, pc', rfl, hrest, rfl⟩ := stuck_of_step hstep hstuck
    exact (hs.stuck_iff hrest).mp hstuck htimely
  refine along_iff_guarded hkeep (fun s hs => hs.1.noLostWakeup hs.2) ?_
    ⟨inv_start workers submitters, fun hstuck => ?_⟩
  · rintro s c s' ⟨hs, -⟩ hstep hok
    cases c with
    | worker i =>
        intro pc' hrest
        by_contra hlate
        rw [step_rest hrest] at hstep
        cases hstep
        exact hok.awake ((hs.stuck_iff hrest).mpr fun htimely => hlate (htimely pc' hrest))
    | _ => trivial
  · rcases hstuck.1 with hqueue | hstopped
    · exact hqueue rfl
    · cases hstopped

/-- The only worker finds the queue empty; a task is submitted; the worker sleeps. -/
def lostTask : List PoolStep :=
  [.worker 0, .worker 0, .worker 0, .enqueue 0, .notifyOne 0 0, .worker 0]

/-- Two workers test `m_shutdown`; `shutdown` sets it and notifies; both sleep. -/
def lostShutdown : List PoolStep :=
  [.worker 0, .worker 1, .setShutdown, .notifyAll, .worker 0, .worker 0, .worker 0,
    .worker 1, .worker 1, .worker 1]

/-- The worker that has tested `m_shutdown` before sleeps after `shutdown` has notified; the
other one returns. -/
def lostSleeper : List PoolStep :=
  [.worker 0, .setShutdown, .notifyAll, .worker 1, .worker 0, .worker 0, .worker 0]

theorem wakeups_lost :
    (∃ s, exec step (start 1 1) lostTask = some s ∧ s.m_queue = [0] ∧ s.Stuck) ∧
    (∃ s, exec step (start 2 0) lostShutdown = some s ∧ s.stopper = .notified ∧ s.Stuck) ∧
    (∃ s, exec step (start 2 0) lostSleeper = some s ∧ s.workers = [.blocked, .gone] ∧ s.Stuck) :=
  ⟨⟨_, rfl, rfl, by decide⟩, ⟨_, rfl, rfl, by decide⟩, ⟨_, rfl, rfl, by decide⟩⟩

end ThreadPool

end SignalingServer
