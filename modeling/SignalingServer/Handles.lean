import SignalingServer.IDManager
import SignalingServer.Lib.Until

/-!
The handles of `CHnaldeMrg` (IDManager.h). `GetHandle_R` goes on from its cursor to the next
handle that is not in use, and from `m_uiMax` back to behind `m_uistart`; `ReleasHandle` takes the
cursor back to a handle below it.
-/

namespace SignalingServer

open Lts

namespace CHnaldeMrg

/-- `CHnaldeMrg(ui_start, uimax)`. -/
def new (start max : Nat) : CHnaldeMrg where
  uistart := start
  uiMax := max
  curIncrHandle := start

/-- The body of the loop of `GetHandle_R`. The cursor stays below `m_uiMax`, so that it does not
overflow. -/
def nextHandle (q : CHnaldeMrg) (cur : Nat) : Nat :=
  (if cur ≥ q.uiMax then q.uistart else cur) + 1

/-- The loop of `GetHandle_R`, with the rounds it may take. -/
def handleLoop (q : CHnaldeMrg) (rounds cur : Nat) : Option Nat :=
  Until.loop (· ∉ q.handlemap) q.nextHandle rounds cur

/-- `CHnaldeMrg::GetHandle_R`; `none` where the loop does not end. -/
def getHandleR (q : CHnaldeMrg) : Option (CHnaldeMrg × Nat) :=
  (q.handleLoop (2 * q.uiMax + 2) q.curIncrHandle).map fun handle =>
    ({ q with handlemap := insert handle q.handlemap, curIncrHandle := handle }, handle)

/-- The calls on a `CHnaldeMrg`. -/
inductive Call where
  | getHandleR
  | addHandleR (h : Nat)
  | releasHandle (h : Nat)
  deriving DecidableEq, Repr

def step : Step CHnaldeMrg Call
  | q, .getHandleR => q.getHandleR.map (·.1)
  | q, .addHandleR h => some (q.addHandleR h)
  | q, .releasHandle h => some (q.releasHandle h)

/-- A handle of the range is not in use. -/
def Free (start max : Nat) (q : CHnaldeMrg) : Prop :=
  ∃ h, start ≤ h ∧ h ≤ max ∧ h ∉ q.handlemap

/-- If there is a free handle, `GetHandle_R` ends with a handle of the range that was not in
use. -/
def HandsOut (start max : Nat) (q : CHnaldeMrg) : Prop :=
  q.Free start max → ∃ q' handle, q.getHandleR = some (q', handle) ∧
    start ≤ handle ∧ handle ≤ max ∧ handle ∉ q.handlemap

/-- From the cursor up to the range, all handles are in use. -/
def NoneBelow (start : Nat) (q : CHnaldeMrg) : Prop :=
  ∀ h, q.curIncrHandle ≤ h → h < start → h ∈ q.handlemap

/-! ### The loop -/

section

variable {q : CHnaldeMrg} {rounds cur h handle : Nat}

theorem nextHandle_le (hrange : q.uistart < q.uiMax) (hcur : cur ≤ q.uiMax) :
    q.nextHandle cur ≤ q.uiMax := by
  rw [nextHandle]
  split <;> omega

theorem nextHandle_of_lt (hcur : cur < q.uiMax) : q.nextHandle cur = cur + 1 := by
  rw [nextHandle, if_neg (Nat.not_le.mpr hcur)]

/-- The cursor does not go past a handle that is not in use. -/
theorem handleLoop_le (hmax : h ≤ q.uiMax) (hfree : h ∉ q.handlemap) (hcur : cur ≤ h)
    (hloop : q.handleLoop rounds cur = some handle) : handle ≤ h := by
  refine (Until.loop_invariant (I := fun x => x ≤ h) (fun x hx hused => ?_) hcur hloop).1
  have hne : x ≠ h := fun heq => hused (heq ▸ hfree)
  rw [nextHandle_of_lt (by omega)]
  omega

/-- How many rounds it takes to a handle, at most once round. -/
def distance (q : CHnaldeMrg) (h cur : Nat) : Nat :=
  if cur ≤ h then h - cur else q.uiMax + 1 - cur + (h - q.uistart)

/-- The loop comes to every handle ahead of the cursor, and to every one behind `m_uistart`. -/
theorem handleLoop_ends (hrange : q.uistart < q.uiMax) (hcur : cur ≤ q.uiMax)
    (hmax : h ≤ q.uiMax) (hfree : h ∉ q.handlemap) (hahead : q.uistart < h ∨ cur ≤ h)
    (hrounds : 2 * q.uiMax + 2 ≤ rounds) : ∃ handle, q.handleLoop rounds cur = some handle := by
  refine Until.loop_ends (I := fun x => x ≤ q.uiMax ∧ (q.uistart < h ∨ x ≤ h)) (q.distance h)
    (fun x hx hused => ?_) ⟨hcur, hahead⟩ ?_
  · obtain ⟨hx, hahead⟩ := hx
    have hne : x ≠ h := fun heq => hused (heq ▸ hfree)
    refine ⟨⟨nextHandle_le hrange hx, ?_⟩, ?_⟩
    · rw [nextHandle]
      split <;> omega
    · rw [nextHandle, distance, distance]
      split <;> split <;> split <;> omega
  · rw [distance]
    split <;> omega

/-- A loop that ends at all ends within these rounds. -/
theorem handleLoop_enough (hrange : q.uistart < q.uiMax) (hcur : cur ≤ q.uiMax)
    (hloop : q.handleLoop rounds cur = some handle) :
    q.handleLoop (2 * q.uiMax + 2) cur = some handle := by
  have hkeep : ∀ x, (x ≤ q.uiMax ∧ (q.uistart < x ∨ cur ≤ x)) → ¬ x ∉ q.handlemap →
      q.nextHandle x ≤ q.uiMax ∧ (q.uistart < q.nextHandle x ∨ cur ≤ q.nextHandle x) := by
    intro x hx _
    refine ⟨nextHandle_le hrange hx.1, ?_⟩
    rw [nextHandle]
    split <;> omega
  obtain ⟨⟨hmax, hahead⟩, hfree⟩ :=
    Until.loop_invariant hkeep ⟨hcur, .inr (Nat.le_refl cur)⟩ hloop
  obtain ⟨handle', hloop'⟩ :=
    handleLoop_ends hrange hcur hmax hfree hahead (Nat.le_refl (2 * q.uiMax + 2))
  have hall := Until.loop_mono (Nat.le_max_left rounds (2 * q.uiMax + 2)) hloop
  have hall' := Until.loop_mono (Nat.le_max_right rounds (2 * q.uiMax + 2)) hloop'
  rw [hloop', ← hall', hall]

theorem getHandleR_eq_some {q' : CHnaldeMrg} (hget : q.getHandleR = some (q', handle)) :
    q.handleLoop (2 * q.uiMax + 2) q.curIncrHandle = some handle ∧
      q' = { q with handlemap := insert handle q.handlemap, curIncrHandle := handle } := by
  obtain ⟨handle', hloop, heq⟩ := Option.map_eq_some_iff.mp hget
  cases heq
  exact ⟨hloop, rfl⟩

end

/-! ### Runs -/

/-- The cursor is not above the range, and not above its first handle while that one is free. -/
structure Cursor (start max : Nat) (q : CHnaldeMrg) : Prop where
  range : start < max
  uistart : q.uistart = start
  uiMax : q.uiMax = max
  cur_le : q.curIncrHandle ≤ max
  first : start ∉ q.handlemap → q.curIncrHandle ≤ start

section

variable {start max : Nat} {q q' : CHnaldeMrg} {handle : Nat}

theorem cursor_new (hrange : start < max) : (new start max).Cursor start max where
  range := hrange
  uistart := rfl
  uiMax := rfl
  cur_le := Nat.le_of_lt hrange
  first := fun _ => Nat.le_refl start

/-- What `GetHandle_R` returns was not in use, and is not above the range. -/
theorem Cursor.handle_spec (hq : q.Cursor start max) (hget : q.getHandleR = some (q', handle)) :
    handle ∉ q.handlemap ∧ handle ≤ max := by
  have hrange : q.uistart < q.uiMax := by rw [hq.uistart, hq.uiMax]; exact hq.range
  obtain ⟨hmax, hfree⟩ := Until.loop_invariant (I := fun x => x ≤ q.uiMax)
    (fun x hx _ => nextHandle_le hrange hx) (hq.uiMax ▸ hq.cur_le) (getHandleR_eq_some hget).1
  exact ⟨hfree, hq.uiMax ▸ hmax⟩

/-- It is in the range just when no handle below the range is free from the cursor on. -/
theorem Cursor.start_le_iff (hq : q.Cursor start max)
    (hget : q.getHandleR = some (q', handle)) : start ≤ handle ↔ q.NoneBelow start := by
  have hloop := (getHandleR_eq_some hget).1
  constructor
  · intro hle h hcur hlt
    by_contra hfree
    have hmax : h ≤ q.uiMax := by
      have hrange := hq.range
      rw [hq.uiMax]
      omega
    have hbelow := handleLoop_le hmax hfree hcur hloop
    omega
  · intro hnone
    have hkeep : ∀ x, (q.curIncrHandle ≤ x ∨ start ≤ x) → ¬ x ∉ q.handlemap →
        q.curIncrHandle ≤ q.nextHandle x ∨ start ≤ q.nextHandle x := by
      intro x hx _
      rw [nextHandle, hq.uistart]
      split <;> omega
    obtain ⟨hahead, -⟩ := Until.loop_invariant hkeep (.inl (Nat.le_refl _)) hloop
    by_contra hlt
    rcases hahead with hcur | hle
    · exact (hq.handle_spec hget).1 (hnone handle hcur (Nat.lt_of_not_le hlt))
    · exact hlt hle

/-- With a free handle in the range, `GetHandle_R` ends. -/
theorem Cursor.ends (hq : q.Cursor start max) (hfree : q.Free start max) :
    ∃ q' handle, q.getHandleR = some (q', handle) := by
  obtain ⟨h, hstart, hmax, hfree⟩ := hfree
  have hahead : q.uistart < h ∨ q.curIncrHandle ≤ h := by
    rw [hq.uistart]
    rcases Nat.lt_or_eq_of_le hstart with hlt | rfl
    · exact .inl hlt
    · exact .inr (hq.first hfree)
  have hrange : q.uistart < q.uiMax := by rw [hq.uistart, hq.uiMax]; exact hq.range
  obtain ⟨handle, hloop⟩ := handleLoop_ends hrange (hq.uiMax ▸ hq.cur_le) (hq.uiMax ▸ hmax) hfree
    hahead (Nat.le_refl _)
  exact ⟨_, handle, Option.map_eq_some_iff.mpr ⟨handle, hloop, rfl⟩⟩

theorem Cursor.getHandleR (hq : q.Cursor start max) (hget : q.getHandleR = some (q', handle)) :
    q'.Cursor start max := by
  obtain ⟨hloop, rfl⟩ := getHandleR_eq_some hget
  obtain ⟨-, hmax⟩ := hq.handle_spec hget
  refine ⟨hq.range, hq.uistart, hq.uiMax, hmax, fun hfree => ?_⟩
  have hunused : start ∉ q.handlemap := fun hmem => hfree (Finset.mem_insert_of_mem hmem)
  have hrange := hq.range
  refine handleLoop_le ?_ hunused (hq.first hunused) hloop
  rw [hq.uiMax]
  omega

theorem Cursor.addHandleR (hq : q.Cursor start max) (h : Nat) :
    (q.addHandleR h).Cursor start max where
  range := hq.range
  uistart := hq.uistart
  uiMax := hq.uiMax
  cur_le := hq.cur_le
  first := fun hfree => hq.first fun hmem => hfree (Finset.mem_insert_of_mem hmem)

theorem releasHandle_cur (q : CHnaldeMrg) (h : Nat) :
    (q.releasHandle h).curIncrHandle = min q.curIncrHandle h := by
  show (if q.curIncrHandle > h then h else q.curIncrHandle) = _
  split <;> omega

theorem Cursor.releasHandle (hq : q.Cursor start max) (h : Nat) :
    (q.releasHandle h).Cursor start max where
  range := hq.range
  uistart := hq.uistart
  uiMax := hq.uiMax
  cur_le := by
    rw [releasHandle_cur]
    exact Nat.le_trans (Nat.min_le_left _ _) hq.cur_le
  first := by
    intro hfree
    rw [releasHandle_cur]
    by_cases heq : start = h
    · exact heq ▸ Nat.min_le_right _ _
    · have hunused : start ∉ q.handlemap := fun hmem => hfree (Finset.mem_erase.mpr ⟨heq, hmem⟩)
      exact Nat.le_trans (Nat.min_le_left _ _) (hq.first hunused)

theorem Cursor.step {call : Call} (hq : q.Cursor start max) (hstep : step q call = some q') :
    q'.Cursor start max := by
  cases call with
  | getHandleR =>
      obtain ⟨⟨q'', handle⟩, hget, rfl⟩ := Option.map_eq_some_iff.mp hstep
      exact hq.getHandleR hget
  | addHandleR h =>
      cases hstep
      exact hq.addHandleR h
  | releasHandle h =>
      cases hstep
      exact hq.releasHandle h

theorem Cursor.handsOut_iff_noneBelow (hq : q.Cursor start max) :
    q.HandsOut start max ↔ (q.Free start max → q.NoneBelow start) := by
  constructor
  · intro hout hfree
    obtain ⟨q', handle, hget, hstart, -⟩ := hout hfree
    exact (hq.start_le_iff hget).mp hstart
  · intro hnone hfree
    obtain ⟨q', handle, hget⟩ := hq.ends hfree
    obtain ⟨hunused, hmax⟩ := hq.handle_spec hget
    exact ⟨q', handle, hget, (hq.start_le_iff hget).mpr (hnone hfree), hmax, hunused⟩

end

/-- In every state of every run, `GetHandle_R` hands out a fresh handle of the range just when no
handle below the range is free from the cursor on. -/
theorem handsOut_iff (start max : Nat) (hrange : start < max) (calls : List Call)
    (q : CHnaldeMrg) (hrun : exec step (new start max) calls = some q) :
    q.HandsOut start max ↔ (q.Free start max → q.NoneBelow start) :=
  (exec_invariant (fun _ _ _ hq hstep => Cursor.step hq hstep) (cursor_new hrange)
    hrun).handsOut_iff_noneBelow

/-- A run over the whole range of three handles, with one of them released. -/
theorem handsOut_iff_three :
    ∃ q, exec step (new 1 3) [.getHandleR, .addHandleR 7, .getHandleR, .getHandleR,
        .releasHandle 2] = some q ∧
      (q.HandsOut 1 3 ↔ (q.Free 1 3 → q.NoneBelow 1)) :=
  ⟨_, rfl, handsOut_iff 1 3 (by decide) [.getHandleR, .addHandleR 7, .getHandleR, .getHandleR,
    .releasHandle 2] _ rfl⟩

/-- After the release of a handle below the range, that one is handed out. -/
theorem not_handsOut :
    ∃ q, exec step (new 10 20) [.releasHandle 3] = some q ∧ q.Free 10 20 ∧
      ¬ q.HandsOut 10 20 := by
  refine ⟨_, rfl, ⟨10, by decide, by decide, by decide⟩, fun hout => ?_⟩
  obtain ⟨q', handle, hget, hstart, -⟩ := hout ⟨10, by decide, by decide, by decide⟩
  have hthree := congrArg (Option.map (·.2)) hget
  have hhandle : some 3 = some handle := hthree
  cases hhandle
  exact absurd hstart (by decide)

/-! ### Runs that release no handle below the range -/

/-- A call that gives back no handle below the range. -/
def KeepsUp (q : CHnaldeMrg) (call : Call) : Prop :=
  ∀ h, call = .releasHandle h → q.uistart ≤ h

/-- The cursor is in the range. -/
structure InRange (start max : Nat) (q : CHnaldeMrg) : Prop extends Cursor start max q where
  le_cur : start ≤ q.curIncrHandle

theorem InRange.noneBelow {start max : Nat} {q : CHnaldeMrg} (hq : q.InRange start max) :
    q.NoneBelow start := by
  intro h hcur hlt
  have hle := hq.le_cur
  omega

theorem preserves_inRange (start max : Nat) : Preserves step KeepsUp (InRange start max) := by
  intro q call q' hq hup hstep
  refine ⟨hq.toCursor.step hstep, ?_⟩
  cases call with
  | getHandleR =>
      obtain ⟨⟨q'', handle⟩, hget, rfl⟩ := Option.map_eq_some_iff.mp hstep
      obtain ⟨-, rfl⟩ := getHandleR_eq_some hget
      exact (hq.start_le_iff hget).mpr hq.noneBelow
  | addHandleR h =>
      cases hstep
      exact hq.le_cur
  | releasHandle h =>
      cases hstep
      rw [releasHandle_cur]
      exact Nat.le_min.mpr ⟨hq.le_cur, hq.uistart ▸ hup h rfl⟩

/-- In such a run, `GetHandle_R` hands out a fresh handle of the range in every state. -/
theorem handsOut_along (start max : Nat) (hrange : start < max) (calls : List Call)
    (hup : Guarded step KeepsUp (new start max) calls) :
    Along step (HandsOut start max) (new start max) calls :=
  ((preserves_inRange start max).along ⟨cursor_new hrange, Nat.le_refl start⟩ hup).mono
    fun _ hq => hq.handsOut_iff_noneBelow.mpr fun _ => hq.noneBelow

end CHnaldeMrg

end SignalingServer
