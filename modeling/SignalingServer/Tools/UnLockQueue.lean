import SignalingServer.Lib.Lts
import SignalingServer.Lib.Ring

/-!
The queue of `tools/unLockQueue.h`: a ring of `MAX_SIZE` slots with an overflow
queue behind it. A push first moves the overflow into the ring; when the ring is
full the new value goes into the overflow instead, and the read index moves on.
-/

namespace SignalingServer

universe u

/-- The members of `unLockQueue<T>`. -/
structure UnLockQueue (α : Type u) where
  mVector : List α
  cacheQueue : List α
  maxSize : Nat
  write : Nat
  read : Nat
deriving DecidableEq, Repr

namespace UnLockQueue

variable {α : Type u}

/-- `unLockQueue(count)`; the slots start out default-constructed. -/
def new [Inhabited α] (count : Nat) : UnLockQueue α where
  mVector := List.replicate count default
  cacheQueue := []
  maxSize := count
  write := 0
  read := 0

/-- `(write + 1) % MAX_SIZE == read`. -/
def full (q : UnLockQueue α) : Bool := (q.write + 1) % q.maxSize = q.read

/-- `(write - pos + MAX_SIZE) % MAX_SIZE`. -/
def filled (q : UnLockQueue α) (pos : Nat) : Nat := (q.write + q.maxSize - pos) % q.maxSize

/-- `mVector[write] = frame; write = (++write) % MAX_SIZE`. -/
def store (q : UnLockQueue α) (frame : α) : UnLockQueue α :=
  { q with mVector := q.mVector.set q.write frame, write := (q.write + 1) % q.maxSize }

/-- The loop of `dump`, over the values that are left in the overflow. -/
def dumpFrom (q : UnLockQueue α) : List α → Bool × UnLockQueue α
  | [] => (false, { q with cacheQueue := [] })
  | frame :: cache =>
      if q.full then (true, { q with cacheQueue := frame :: cache })
      else (q.store frame).dumpFrom cache

def dump (q : UnLockQueue α) : Bool × UnLockQueue α := q.dumpFrom q.cacheQueue

/-- `push`, which returns true on both branches. -/
def push (q : UnLockQueue α) (frame : α) : UnLockQueue α :=
  if !q.dump.1 && !q.dump.2.full then q.dump.2.store frame
  else
    { q.dump.2 with
      read := (q.dump.2.read + 1) % q.dump.2.maxSize
      cacheQueue := q.dump.2.cacheQueue ++ [frame] }

/-- `front()`. -/
def front (q : UnLockQueue α) : Option α :=
  if 1 ≤ q.filled q.read then q.mVector[q.read]? else none

/-- `front(readIndex)`. -/
def frontAt (q : UnLockQueue α) (readIndex : Nat) : Option α :=
  if q.maxSize ≤ readIndex then none
  else if 1 ≤ q.filled readIndex then q.mVector[readIndex]?
  else none

def pop (q : UnLockQueue α) : UnLockQueue α :=
  if 1 ≤ q.filled q.read then { q with read := (q.read + 1) % q.maxSize } else q

/-- `GetNext`: `none` where it returns 1. -/
def getNext (q : UnLockQueue α) : Option α × UnLockQueue α :=
  match q.front with
  | some frame => (some frame, q.pop)
  | none => (none, q)

/-- `GetNextByHanlde`: `none` where it returns 1. -/
def getNextByHanlde (q : UnLockQueue α) (handle : Nat) : Option α := q.frontAt handle

/-- The values between the read and the write index, and behind them the overflow. -/
def waiting [Inhabited α] (q : UnLockQueue α) : List α :=
  (List.range (q.filled q.read)).map
      (fun k => (q.mVector[(q.read + k) % q.maxSize]?).getD default) ++ q.cacheQueue

@[simp] theorem store_maxSize (q : UnLockQueue α) (frame : α) :
    (q.store frame).maxSize = q.maxSize := rfl

@[simp] theorem pop_cacheQueue (q : UnLockQueue α) : q.pop.cacheQueue = q.cacheQueue := by
  rw [pop]
  split <;> rfl

@[simp] theorem dumpFrom_maxSize (q : UnLockQueue α) (cache : List α) :
    (q.dumpFrom cache).2.maxSize = q.maxSize := by
  induction cache generalizing q with
  | nil => rfl
  | cons frame cache ih =>
      rw [dumpFrom]
      split
      · rfl
      · rw [ih, store_maxSize]

@[simp] theorem push_maxSize (q : UnLockQueue α) (frame : α) :
    (q.push frame).maxSize = q.maxSize := by
  rw [push]
  split
  · rw [store_maxSize, dump, dumpFrom_maxSize]
  · exact dumpFrom_maxSize q q.cacheQueue

theorem getNext_eq (q : UnLockQueue α) :
    q.getNext = (q.front, if q.front.isSome then q.pop else q) := by
  rw [getNext]
  cases q.front with
  | none => rfl
  | some frame => rfl

/-- A property of every value in the ring and in the overflow. -/
structure All (p : α → Prop) (q : UnLockQueue α) : Prop where
  ring : ∀ x ∈ q.mVector, p x
  overflow : ∀ x ∈ q.cacheQueue, p x

section

variable {p : α → Prop} {q : UnLockQueue α} {frame : α}

theorem All.store (h : q.All p) (hframe : p frame) : (q.store frame).All p where
  ring x hx := by
    rcases List.mem_or_eq_of_mem_set hx with hx | rfl
    · exact h.ring x hx
    · exact hframe
  overflow := h.overflow

theorem All.dumpFrom (h : q.All p) {cache : List α} (hcache : ∀ x ∈ cache, p x) :
    (q.dumpFrom cache).2.All p := by
  induction cache generalizing q with
  | nil => exact ⟨h.ring, by rintro x ⟨⟩⟩
  | cons frame cache ih =>
      rw [UnLockQueue.dumpFrom]
      split
      · exact ⟨h.ring, hcache⟩
      · exact ih (h.store (hcache frame List.mem_cons_self))
          fun x hx => hcache x (List.mem_cons_of_mem frame hx)

theorem All.push (h : q.All p) (hframe : p frame) : (q.push frame).All p := by
  have hdump : q.dump.2.All p := h.dumpFrom h.overflow
  rw [UnLockQueue.push]
  split
  · exact hdump.store hframe
  · refine ⟨hdump.ring, fun x hx => ?_⟩
    rcases List.mem_append.mp hx with hx | hx
    · exact hdump.overflow x hx
    · rw [List.mem_singleton.mp hx]
      exact hframe

theorem All.getNextByHanlde (h : q.All p) {handle : Nat}
    (hnext : q.getNextByHanlde handle = some frame) : p frame := by
  rw [UnLockQueue.getNextByHanlde, frontAt] at hnext
  split at hnext
  · cases hnext
  · split at hnext
    · exact h.ring frame (List.mem_of_getElem? hnext)
    · cases hnext

end

/-! ### The ring as a sequence of values -/

variable [Inhabited α]

theorem all_new {p : α → Prop} (hdefault : p default) (count : Nat) : (new count).All p where
  ring x hx := by
    rw [List.eq_of_mem_replicate hx]
    exact hdefault
  overflow := by rintro x ⟨⟩

/-- The ring holds the values of `written`, of which the first `taken` have been
passed by the read index. -/
structure Holds (q : UnLockQueue α) (written : List α) (taken : Nat) : Prop where
  size : 2 ≤ q.maxSize
  length : q.mVector.length = q.maxSize
  write : q.write = written.length % q.maxSize
  read : q.read = taken % q.maxSize
  taken_le : taken ≤ written.length
  lap : written.length < taken + q.maxSize
  slots : ∀ i < q.maxSize, q.mVector[i]? = some (Ring.slot q.maxSize written i)

theorem holds_new {count : Nat} (hcount : 2 ≤ count) :
    (new count : UnLockQueue α).Holds [] 0 where
  size := hcount
  length := List.length_replicate
  write := (Nat.zero_mod count).symm
  read := (Nat.zero_mod count).symm
  taken_le := Nat.le_refl 0
  lap := by
    show 0 < 0 + count
    omega
  slots i hi := by
    show (List.replicate count default)[i]? = _
    exact List.getElem?_replicate_of_lt hi

section

variable {q : UnLockQueue α} {written : List α} {taken : Nat}

theorem Holds.pos (h : q.Holds written taken) : 0 < q.maxSize := by
  have hsize := h.size
  omega

/-- The overflow has no part in what the ring holds. -/
theorem Holds.with_cache (h : q.Holds written taken) (cache : List α) :
    ({ q with cacheQueue := cache }).Holds written taken :=
  ⟨h.size, h.length, h.write, h.read, h.taken_le, h.lap, h.slots⟩

theorem Holds.full_iff (h : q.Holds written taken) :
    q.full = true ↔ written.length + 1 = taken + q.maxSize := by
  have htaken := h.taken_le
  have hlap := h.lap
  have hsize := h.size
  rw [full, decide_eq_true_eq, h.write, h.read, Nat.mod_add_mod]
  rcases Nat.lt_or_eq_of_le (Nat.succ_le_of_lt hlap) with hroom | hfull
  · rw [Ring.mod_eq_mod_iff (by omega) hroom]
    omega
  · rw [show written.length + 1 = taken + q.maxSize from hfull, Nat.add_mod_right]
    simp

theorem Holds.filled_read (h : q.Holds written taken) :
    q.filled q.read = written.length - taken := by
  rw [filled, h.write, h.read]
  exact Ring.distance h.taken_le h.lap

theorem Holds.getElem? (h : q.Holds written taken) {j : Nat} (hj : j < written.length)
    (hlast : written.length ≤ j + q.maxSize) : q.mVector[j % q.maxSize]? = written[j]? := by
  rw [h.slots _ (Nat.mod_lt j h.pos), List.getElem?_eq_getElem hj,
    Ring.slot_of_lt h.pos (List.getElem?_eq_getElem hj) hlast]

theorem Holds.front_eq (h : q.Holds written taken) : q.front = written[taken]? := by
  rw [front, h.filled_read]
  split
  · rename_i hwaiting
    rw [h.read]
    exact h.getElem? (by omega) (Nat.le_of_lt h.lap)
  · rename_i hempty
    symm
    rw [List.getElem?_eq_none_iff]
    omega

theorem Holds.frontAt_eq (h : q.Holds written taken) (pos : Nat) :
    q.frontAt pos =
      if pos < q.maxSize ∧ pos ≠ q.write then some (Ring.slot q.maxSize written pos) else none := by
  have hwrite : q.write < q.maxSize := h.write ▸ Nat.mod_lt _ h.pos
  by_cases hpos : pos < q.maxSize
  · have hfilled : 1 ≤ q.filled pos ↔ pos ≠ q.write := by
      rw [filled]
      rcases Nat.lt_trichotomy pos q.write with hlt | heq | hgt
      · rw [show q.write + q.maxSize - pos = q.write - pos + q.maxSize by omega,
          Nat.add_mod_right, Nat.mod_eq_of_lt (by omega)]
        omega
      · rw [heq, Nat.add_sub_cancel_left, Nat.mod_self]
        omega
      · rw [Nat.mod_eq_of_lt (by omega)]
        omega
    simp only [frontAt, if_neg (Nat.not_le.mpr hpos), hfilled, h.slots pos hpos, hpos, true_and]
  · rw [frontAt, if_pos (Nat.not_lt.mp hpos), if_neg (fun hboth => hpos hboth.1)]

theorem Holds.waiting_eq (h : q.Holds written taken) :
    q.waiting = written.drop taken ++ q.cacheQueue := by
  have htaken := h.taken_le
  have hlap := h.lap
  rw [waiting, h.filled_read]
  congr 1
  apply List.ext_getElem?
  intro k
  rw [List.getElem?_map, List.getElem?_drop]
  by_cases hk : k < written.length - taken
  · have hj : taken + k < written.length := by omega
    rw [List.getElem?_range hk, Option.map_some, h.read, Nat.mod_add_mod,
      h.getElem? hj (by omega), List.getElem?_eq_getElem hj]
    rfl
  · rw [List.getElem?_eq_none_iff.mpr (by rw [List.length_range]; omega),
      List.getElem?_eq_none_iff.mpr (by omega)]
    rfl

theorem Holds.waiting_length (h : q.Holds written taken) :
    q.waiting.length = written.length - taken + q.cacheQueue.length := by
  rw [h.waiting_eq, List.length_append, List.length_drop]

/-! ### What the operations do to it -/

theorem Holds.store (h : q.Holds written taken) (frame : α)
    (hroom : written.length + 1 < taken + q.maxSize) :
    (q.store frame).Holds (written ++ [frame]) taken where
  size := h.size
  length := by
    show (q.mVector.set q.write frame).length = q.maxSize
    rw [List.length_set, h.length]
  write := by
    show (q.write + 1) % q.maxSize = _
    rw [h.write, Nat.mod_add_mod, List.length_append]
    rfl
  read := h.read
  taken_le := by
    have htaken := h.taken_le
    rw [List.length_append]
    omega
  lap := by
    rw [List.length_append, store_maxSize]
    exact hroom
  slots i hi := by
    show (q.mVector.set q.write frame)[i]? = some (Ring.slot q.maxSize _ i)
    have happend : Ring.slot q.maxSize (written ++ [frame]) i = _ :=
      Ring.slot_append written frame hi
    rw [happend, List.getElem?_set, ← h.write]
    by_cases hslot : q.write = i
    · rw [if_pos hslot, if_pos hslot.symm, if_pos (by rw [hslot, h.length]; exact hi)]
    · rw [if_neg hslot, if_neg (Ne.symm hslot)]
      exact h.slots i hi

/-- `dump` moves as much of the overflow into the ring as fits. -/
theorem Holds.dumpFrom (h : q.Holds written taken) (cache : List α) :
    (q.dumpFrom cache).2.Holds
        (written ++ cache.take (taken + q.maxSize - 1 - written.length)) taken ∧
      (q.dumpFrom cache).2.cacheQueue =
        cache.drop (taken + q.maxSize - 1 - written.length) ∧
      ((q.dumpFrom cache).1 = true ↔
        taken + q.maxSize - 1 - written.length < cache.length) := by
  -- on the overflow: each value stored leaves room for one less
  induction cache generalizing q written with
  | nil =>
      rw [List.take_nil, List.append_nil, List.drop_nil]
      exact ⟨h.with_cache [], rfl, by simp [UnLockQueue.dumpFrom]⟩
  | cons frame cache ih =>
      have hlap := h.lap
      rw [UnLockQueue.dumpFrom]
      by_cases hfull : q.full = true
      · have hnone : taken + q.maxSize - 1 - written.length = 0 := by
          have hlength := h.full_iff.mp hfull
          omega
        rw [if_pos hfull, hnone, List.take_zero, List.append_nil, List.drop_zero]
        exact ⟨h.with_cache _, rfl, by simp⟩
      · have hlength : written.length + 1 ≠ taken + q.maxSize := fun heq =>
          hfull (h.full_iff.mpr heq)
        obtain ⟨room, hroom⟩ : ∃ room, taken + q.maxSize - 1 - written.length = room + 1 :=
          ⟨taken + q.maxSize - 1 - written.length - 1, by omega⟩
        have hrest : taken + q.maxSize - 1 - (written ++ [frame]).length = room := by
          rw [List.length_append, List.length_singleton]
          omega
        obtain ⟨hholds, hcache, hleft⟩ := ih (h.store frame (by omega))
        rw [store_maxSize, hrest] at hholds hcache hleft
        rw [if_neg hfull, hroom, List.take_succ_cons, List.drop_succ_cons]
        refine ⟨?_, hcache, ?_⟩
        · rwa [List.append_assoc] at hholds
        · rw [hleft, List.length_cons]
          omega

/-- A push with room for everything moves the overflow and then the new value
into the ring. -/
theorem Holds.push_of_room (h : q.Holds written taken) (frame : α)
    (hroom : written.length + q.cacheQueue.length + 1 < taken + q.maxSize) :
    (q.push frame).Holds (written ++ q.cacheQueue ++ [frame]) taken ∧
      (q.push frame).cacheQueue = [] := by
  obtain ⟨hholds, hcache, hleft⟩ := h.dumpFrom q.cacheQueue
  have hall : q.cacheQueue.length ≤ taken + q.maxSize - 1 - written.length := by omega
  rw [List.take_of_length_le hall] at hholds
  rw [List.drop_of_length_le hall] at hcache
  have hdone : q.dump.1 = false := by
    rw [← Bool.not_eq_true, dump, hleft]
    omega
  have hfree : q.dump.2.full = false := by
    rw [← Bool.not_eq_true, dump, hholds.full_iff, List.length_append, dumpFrom_maxSize]
    omega
  rw [push, hdone, hfree, if_pos (show (!false && !false) = true from rfl)]
  refine ⟨hholds.store frame ?_, hcache⟩
  rw [List.length_append, dumpFrom_maxSize]
  exact hroom

/-- A push into a full ring passes over the oldest value of the ring. -/
theorem Holds.push_of_full (h : q.Holds written taken) (frame : α)
    (hfull : taken + q.maxSize ≤ written.length + q.cacheQueue.length + 1) :
    (q.push frame).Holds
        (written ++ q.cacheQueue.take (taken + q.maxSize - 1 - written.length)) (taken + 1) ∧
      (q.push frame).cacheQueue =
        q.cacheQueue.drop (taken + q.maxSize - 1 - written.length) ++ [frame] := by
  have hsize := h.size
  have hlap := h.lap
  obtain ⟨hholds, hcache, hleft⟩ := h.dumpFrom q.cacheQueue
  have hlength : (written ++ q.cacheQueue.take
      (taken + q.maxSize - 1 - written.length)).length + 1 = taken + q.maxSize := by
    rw [List.length_append, List.length_take]
    omega
  have hnow : q.dump.2.full = true := by
    rw [dump, hholds.full_iff, dumpFrom_maxSize]
    exact hlength
  rw [push, hnow, Bool.not_true, Bool.and_false, if_neg Bool.false_ne_true]
  refine ⟨⟨hholds.size, hholds.length, hholds.write, ?_, ?_, ?_, hholds.slots⟩, ?_⟩
  · show (q.dump.2.read + 1) % q.dump.2.maxSize = _
    rw [dump, hholds.read, Nat.mod_add_mod]
  · omega
  · show _ < taken + 1 + q.dump.2.maxSize
    rw [dump, dumpFrom_maxSize]
    omega
  · show q.dump.2.cacheQueue ++ [frame] = _
    rw [dump, hcache]

theorem Holds.push (h : q.Holds written taken) (frame : α) :
    ∃ written' taken', (q.push frame).Holds written' taken' ∧
      written' ++ (q.push frame).cacheQueue = written ++ q.cacheQueue ++ [frame] := by
  by_cases hroom : written.length + q.cacheQueue.length + 1 < taken + q.maxSize
  · obtain ⟨hafter, hcache⟩ := h.push_of_room frame hroom
    refine ⟨_, _, hafter, ?_⟩
    rw [hcache, List.append_nil]
  · obtain ⟨hafter, hcache⟩ := h.push_of_full frame (by omega)
    refine ⟨_, _, hafter, ?_⟩
    rw [hcache, List.append_assoc, ← List.append_assoc (q.cacheQueue.take _),
      List.take_append_drop, List.append_assoc]

theorem Holds.pop (h : q.Holds written taken) (hsome : taken < written.length) :
    q.pop.Holds written (taken + 1) := by
  have hlap := h.lap
  rw [UnLockQueue.pop, h.filled_read, if_pos (by omega)]
  refine ⟨h.size, h.length, h.write, ?_, hsome, ?_, h.slots⟩
  · show (q.read + 1) % q.maxSize = _
    rw [h.read, Nat.mod_add_mod]
  · show _ < taken + 1 + q.maxSize
    omega

theorem Holds.pop_of_empty (h : q.Holds written taken) (hnone : written.length ≤ taken) :
    q.pop = q := by
  rw [UnLockQueue.pop, h.filled_read, if_neg (by omega)]

end

/-! ### Runs of a queue -/

/-- A call that puts a value in, or one that looks at or takes the next value. -/
inductive Call (α : Type u)
  | push (frame : α)
  | getNext
  | front
  | pop

/-- A queue with the values that were pushed and those that were taken out,
by `GetNext` or by `pop`. -/
structure Run (α : Type u) where
  queue : UnLockQueue α
  pushed : List α
  returned : List α
deriving DecidableEq

namespace Run

def start (count : Nat) : Run α := { queue := new count, pushed := [], returned := [] }

def step : Lts.Step (Run α) (Call α)
  | s, .push frame =>
      some { s with queue := s.queue.push frame, pushed := s.pushed ++ [frame] }
  | s, .getNext =>
      some { s with
        queue := s.queue.getNext.2
        returned := s.returned ++ s.queue.getNext.1.toList }
  | s, .front => some s
  | s, .pop =>
      some { s with queue := s.queue.pop, returned := s.returned ++ s.queue.front.toList }

/-- What was taken out comes first among the pushed values, and what still waits
makes up the rest. -/
def Lossless (s : Run α) : Prop :=
  s.returned <+: s.pushed ∧ s.returned ++ s.queue.waiting = s.pushed

/-- A push finds a free slot beside the one that keeps the ring from being full. -/
def HasRoom (s : Run α) : Call α → Prop
  | .push _ => s.queue.waiting.length + 1 < s.queue.maxSize
  | _ => True

instance (s : Run α) : ∀ c, Decidable (s.HasRoom c)
  | .push _ => inferInstanceAs (Decidable (_ < _))
  | .getNext | .front | .pop => isTrue trivial

/-- The ring and the overflow hold all pushed values in order, and the read index
has passed just the values that were taken out. -/
def Sound (s : Run α) : Prop :=
  ∃ written, s.queue.Holds written s.returned.length ∧
    written ++ s.queue.cacheQueue = s.pushed ∧ s.returned <+: written

theorem sound_start {count : Nat} (hcount : 2 ≤ count) : (start count : Run α).Sound :=
  ⟨[], holds_new hcount, rfl, List.prefix_rfl⟩

theorem Sound.lossless {s : Run α} (hs : s.Sound) : s.Lossless := by
  obtain ⟨written, hholds, hpushed, rest, hwritten⟩ := hs
  have hall : s.returned ++ s.queue.waiting = s.pushed := by
    rw [hholds.waiting_eq, ← hpushed, ← hwritten, List.drop_left, List.append_assoc]
  exact ⟨⟨s.queue.waiting, hall⟩, hall⟩

/-- Taking the next value out, whichever call does it. -/
theorem Sound.take {s : Run α} (hs : s.Sound) :
    ({ s with queue := s.queue.pop, returned := s.returned ++ s.queue.front.toList }).Sound := by
  obtain ⟨_, hholds, hpushed, rest, rfl⟩ := hs
  rw [hholds.front_eq, List.getElem?_append_right (Nat.le_refl _), Nat.sub_self]
  cases rest with
  | nil =>
      rw [List.append_nil] at hholds hpushed
      rw [hholds.pop_of_empty (Nat.le_refl _), List.getElem?_nil, Option.toList_none,
        List.append_nil]
      exact ⟨s.returned, hholds, hpushed, List.prefix_rfl⟩
  | cons x rest =>
      have hafter := hholds.pop (by simp)
      refine ⟨s.returned ++ x :: rest, ?_, ?_, ?_⟩
      · rw [List.getElem?_cons_zero, Option.toList_some, List.length_append]
        exact hafter
      · rw [pop_cacheQueue]
        exact hpushed
      · show s.returned ++ [x] <+: s.returned ++ ([x] ++ rest)
        rw [← List.append_assoc]
        exact List.prefix_append _ rest

theorem Sound.push {s : Run α} (hs : s.Sound) (frame : α)
    (hroom : s.queue.waiting.length + 1 < s.queue.maxSize) :
    ({ s with queue := s.queue.push frame, pushed := s.pushed ++ [frame] }).Sound := by
  obtain ⟨written, hholds, hpushed, hwritten⟩ := hs
  have htaken := hholds.taken_le
  rw [hholds.waiting_length] at hroom
  obtain ⟨hafter, hcache⟩ := hholds.push_of_room frame (by omega)
  refine ⟨written ++ s.queue.cacheQueue ++ [frame], hafter, ?_, ?_⟩
  · rw [hcache, List.append_nil, hpushed]
  · rw [List.append_assoc]
    exact hwritten.trans (List.prefix_append _ _)

theorem preserves_sound : Lts.Preserves step HasRoom (Sound (α := α)) := by
  intro s c s' hs hroom hstep
  cases c with
  | push frame =>
      cases hstep
      exact hs.push frame hroom
  | getNext =>
      cases hstep
      rw [getNext_eq]
      cases hfront : s.queue.front with
      | none =>
          rw [Option.toList_none, List.append_nil]
          exact hs
      | some frame =>
          have htake := hs.take
          rw [hfront] at htake
          exact htake
  | front =>
      cases hstep
      exact hs
  | pop =>
      cases hstep
      exact hs.take

/-- A push without room loses the oldest value that waits in the ring. -/
theorem Sound.hasRoom {s s' : Run α} {c : Call α} (hs : s.Sound) (hstep : step s c = some s')
    (hlossless : s'.Lossless) : s.HasRoom c := by
  cases c with
  | push frame =>
      cases hstep
      obtain ⟨written, hholds, hpushed, -⟩ := hs
      have htaken := hholds.taken_le
      show s.queue.waiting.length + 1 < s.queue.maxSize
      rw [hholds.waiting_length]
      by_contra hfull
      obtain ⟨hafter, hcache⟩ := hholds.push_of_full frame (by omega)
      have hlength := congrArg List.length hlossless.2
      have htaken' := hafter.taken_le
      simp only [List.length_append, hafter.waiting_length, hcache, ← hpushed, List.length_take,
        List.length_drop, List.length_singleton] at hlength htaken'
      omega
  | getNext => trivial
  | front => trivial
  | pop => trivial

/-- The queue is a lossless queue exactly while no push meets `MAX_SIZE - 1` or
more waiting values. -/
theorem lossless_iff_hasRoom (count : Nat) (hcount : 2 ≤ count) (calls : List (Call α)) :
    Lts.Along step Lossless (start count) calls ↔ Lts.Guarded step HasRoom (start count) calls :=
  Lts.along_iff_guarded preserves_sound (fun _ hs => hs.lossless)
    (fun _ _ _ hs hstep hlossless => hs.hasRoom hstep hlossless) (sound_start hcount)

/-- Two values at a time pass through three slots, around the end of the ring. -/
theorem lossless_iff_hasRoom_three :
    Lts.Along step Lossless (start 3)
      [.push 1, .push 2, .getNext, .front, .pop, .push 3, .push 4, .getNext, .getNext] :=
  (lossless_iff_hasRoom 3 (by decide) _).mpr (by decide)

/-- The third value that waits pushes the first one out of three slots. -/
theorem third_push_loses_first :
    ∃ s, Lts.exec step (start 3) [.push 1, .push 2, .push 3, .getNext] = some s ∧
      s.pushed = [1, 2, 3] ∧ s.returned = [2] ∧ ¬ s.returned <+: s.pushed := by
  refine ⟨_, rfl, rfl, rfl, ?_⟩
  decide

end Run

end UnLockQueue

end SignalingServer
