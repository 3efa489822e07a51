import SignalingServer.Lib.Lts
import SignalingServer.Lib.Table
import SignalingServer.Media.StreamMap

/-!
Viewers that leave one stream at the same time. A close is split where other
threads can run in between: it gets a pointer, reads `use_count`, stops the
stream, reads `use_count` again under the lock of the map, erases the stream,
and drops the pointer.
-/

namespace SignalingServer

/-- The front end of a viewer. A websocket connection closes with the pointer it
has; a SIP call frees its source first and looks the stream up again. -/
inductive FrontEnd where
  | sip
  | ws
  deriving DecidableEq, Repr

/-- What a viewer, or the close of one, does next. -/
inductive ViewerPhase where
  | watching (front : FrontEnd)
  | finding
  | counting
  | stopping
  | removing
  | erasing
  | dropping
  deriving DecidableEq, Repr

namespace ViewerPhase

/-- The pointer to the stream in this phase: the viewer's, or a temporary. -/
def pointer : ViewerPhase → Option Unit
  | .finding => none
  | _ => some ()

/-- The first count is still to come. -/
def Undecided : ViewerPhase → Prop
  | .watching _ | .finding | .counting => True
  | _ => False

/-- The first count has come out for the stop. -/
def Decided : ViewerPhase → Prop
  | .stopping | .removing | .erasing => True
  | _ => False

theorem pointer_eq_none_iff {p : ViewerPhase} : p.pointer = none ↔ p = .finding := by
  cases p <;> simp [pointer]

end ViewerPhase

structure ClosingStream where
  media : ServerState
  phases : Table Nat ViewerPhase
  stops : List ServerState.StopCall

inductive ViewerStep where
  | openStream (v : Nat) (front : FrontEnd)
  | run (v : Nat)
  deriving DecidableEq, Repr

namespace ClosingStream

/-- The pointers outside `mStreamMap`. -/
def held (s : ClosingStream) : Nat := (Table.gather ViewerPhase.pointer s.phases).length

/-- A close is between its second count and the erasure, and has the lock of the map. -/
abbrev Locked (s : ClosingStream) : Prop := .erasing ∈ Table.gather some s.phases

def enter (s : ClosingStream) (v : Nat) (p : ViewerPhase) : ClosingStream :=
  { s with phases := s.phases.insert v p }

def leave (s : ClosingStream) (v : Nat) : ClosingStream :=
  { s with phases := s.phases.erase v }

/-- `Dev_StopPreview` or `Dev_StopPlayBack` between the two counts, once the
stream's NVR is found. -/
def stop (s : ClosingStream) (env : Env) (ms : MediaStream) (v : Nat) : ClosingStream :=
  match s.media.streamNvr ms with
  | none => s.enter v .dropping
  | some (ref, nvr) =>
      let r := s.media.stopHandle env ms ref nvr
      { s.enter v (if ServerState.stopErr r.2 = 0 then .removing else .dropping) with
        media := r.1
        stops := r.2.toList ++ s.stops }

/-- The next step of a viewer that closes; `none` while it waits for the lock. -/
def advance (env : Env) (ms : MediaStream) (s : ClosingStream) (v : Nat) :
    ViewerPhase → Option ClosingStream
  | .watching .ws => some (s.enter v .counting)
  | .watching .sip => some (s.enter v .finding)
  | .finding =>
      if s.Locked then none
      else if s.media.findStream ms.streamId = some ms then some (s.enter v .counting)
      else some (s.leave v)
  | .counting =>
      some (s.enter v (if s.media.useCount s.held ms ≤ 2 then .stopping else .dropping))
  | .stopping => some (s.stop env ms v)
  | .removing =>
      if s.Locked then none
      else
        some (s.enter v
          (if s.media.removable (fun _ => s.held) ms.streamId then .erasing else .dropping))
  | .erasing => some { s.enter v .dropping with media := s.media.eraseStream ms.streamId }
  | .dropping => some (s.leave v)

/-- A viewer opens the stream if it finds it in the map. -/
def step (env : Env) (ms : MediaStream) : Lts.Step ClosingStream ViewerStep
  | s, .openStream v front =>
      if s.Locked ∨ s.phases.lookup v ≠ none ∨ s.media.findStream ms.streamId ≠ some ms then none
      else some (s.enter v (.watching front))
  | s, .run v => (s.phases.lookup v).bind (s.advance env ms v)

/-- A registered stream with its first viewer. -/
def start (w : ServerState) (v : Nat) (front : FrontEnd) : ClosingStream :=
  ⟨w, (∅ : Table Nat ViewerPhase).insert v (.watching front), []⟩

/-- Without a viewer and without a close in progress, the stream has been stopped
once and is no longer registered. -/
def Settled (ms : MediaStream) (s : ClosingStream) : Prop :=
  (∀ v, s.phases.lookup v = none) →
    s.stops.length = 1 ∧ s.media.findStream ms.streamId = none

/-- Another viewer or close is in the phase. -/
def Other (s : ClosingStream) (v : Nat) (p : ViewerPhase) : Prop :=
  ∃ v', v' ≠ v ∧ s.phases.lookup v' = some p

/-- The condition on a step: a first count does not come when all the others have
counted and only have their pointers left to drop, and a second count comes when
no other has a pointer. -/
def Safe (s : ClosingStream) : ViewerStep → Prop
  | .openStream _ _ => True
  | .run v =>
      (s.phases.lookup v = some .counting →
        ∀ p, s.Other v p → ∃ p', s.Other v p' ∧ p' ≠ .dropping) ∧
      (s.phases.lookup v = some .removing → ∀ p, s.Other v p → p = .finding)

/-! ### Phases and counts -/

section

variable {s : ClosingStream} {v v' : Nat} {p q : ViewerPhase}

theorem lookup_enter : (s.enter v p).phases.lookup v' =
    if v' = v then some p else s.phases.lookup v' :=
  Table.lookup_insert s.phases v v' p

theorem lookup_leave : (s.leave v).phases.lookup v' =
    if v' = v then none else s.phases.lookup v' :=
  Table.lookup_erase s.phases v v'

theorem locked_iff : s.Locked ↔ ∃ v, s.phases.lookup v = some .erasing := by
  rw [Locked, Table.mem_gather_iff]
  constructor
  · rintro ⟨v, p, hv, hp⟩
    cases hp
    exact ⟨v, hv⟩
  · rintro ⟨v, hv⟩
    exact ⟨v, .erasing, hv, rfl⟩

/-- A viewer with a pointer is the only one exactly if the pointers count to one. -/
theorem held_le_one_iff (hv : s.phases.lookup v = some p) (hp : p ≠ .finding) :
    s.held ≤ 1 ↔ ∀ q, s.Other v q → q = .finding := by
  have hlen := (Table.gather_perm ViewerPhase.pointer hv).length_eq
  have hown : p.pointer.toList.length = 1 := by
    cases p with
    | finding => exact absurd rfl hp
    | _ => rfl
  rw [List.length_append, hown] at hlen
  have hnone : s.held ≤ 1 ↔ Table.gather ViewerPhase.pointer (s.phases.erase v) = [] := by
    rw [held, hlen, ← List.length_eq_zero_iff]
    omega
  rw [hnone, List.eq_nil_iff_forall_not_mem]
  constructor
  · rintro hempty q ⟨v', hne, hv'⟩
    rw [← ViewerPhase.pointer_eq_none_iff]
    cases hq : q.pointer with
    | none => rfl
    | some u =>
        refine absurd ?_ (hempty u)
        rw [Table.mem_gather_iff]
        exact ⟨v', q, by rw [Table.lookup_erase, if_neg hne, hv'], hq⟩
  · intro hothers u hu
    obtain ⟨v', q, hv', hq⟩ := Table.mem_gather_iff.mp hu
    rw [Table.lookup_erase] at hv'
    split at hv'
    · cases hv'
    · rename_i hne
      rw [hothers q ⟨v', hne, hv'⟩] at hq
      cases hq

/-- With the stream in the map, a count of at most two says that no other viewer
has a pointer. -/
theorem useCount_le_two_iff {ms : MediaStream}
    (hmap : s.media.findStream ms.streamId = some ms) (hv : s.phases.lookup v = some p)
    (hp : p ≠ .finding) :
    s.media.useCount s.held ms ≤ 2 ↔ ∀ q, s.Other v q → q = .finding := by
  rw [← held_le_one_iff hv hp, ServerState.useCount, if_pos hmap]
  omega

end

theorem isSome_streamNvr_putSession {m : ServerState} {ms : MediaStream} {ref : Nat}
    {session : NvrSession} (h : (m.streamNvr ms).isSome) :
    ((m.putSession ref session).streamNvr ms).isSome := by
  obtain ⟨p, hp⟩ := Option.isSome_iff_exists.mp h
  obtain ⟨child, hchild, hparent⟩ := Option.bind_eq_some_iff.mp hp
  have hnvr : (m.parentNvr child).isSome := by simp [hparent]
  have hkept : ((m.putSession ref session).parentNvr child).isSome :=
    ServerState.isSome_parentNvr (fun _ hr => ServerState.isSome_putSession hr) rfl hnvr
  obtain ⟨p', hp'⟩ := Option.isSome_iff_exists.mp hkept
  rw [ServerState.streamNvr]
  exact Option.isSome_iff_exists.mpr ⟨p', Option.bind_eq_some_iff.mpr ⟨child, hchild, hp'⟩⟩

/-! ### The stages of a stream -/

/-- No count has come out for the stop yet, and one is still to come. -/
structure Watched (ms : MediaStream) (s : ClosingStream) : Prop where
  registered : s.media.findStream ms.streamId = some ms
  stops : s.stops = []
  phases : ∀ v p, s.phases.lookup v = some p → p.Undecided ∨ p = .dropping
  left : ∃ v p, s.phases.lookup v = some p ∧ p.Undecided

/-- One close, and only it, has decided to stop the stream. -/
structure Closing (ms : MediaStream) (s : ClosingStream) (w : Nat) (p : ViewerPhase) : Prop where
  registered : s.media.findStream ms.streamId = some ms
  closer : s.phases.lookup w = some p
  decided : p.Decided
  stops : s.stops.length = if p = .stopping then 0 else 1
  others : ∀ q, s.Other w q → q.Undecided ∨ q = .dropping
  alone : p = .erasing → ∀ q, s.Other w q → q = .finding

/-- The stream is stopped and erased, and no pointer is counted any more. -/
structure Closed (ms : MediaStream) (s : ClosingStream) : Prop where
  erased : s.media.findStream ms.streamId = none
  stops : s.stops.length = 1
  phases : ∀ v p, s.phases.lookup v = some p → p = .finding ∨ p = .dropping

/-- The stream's NVR is found, and the stream is in one of the stages. -/
structure Inv (ms : MediaStream) (s : ClosingStream) : Prop where
  nvr : (s.media.streamNvr ms).isSome
  stage : Watched ms s ∨ (∃ w p, Closing ms s w p) ∨ Closed ms s

section

variable {s s' : ClosingStream} {env : Env} {ms : MediaStream} {v w : Nat} {p q : ViewerPhase}

theorem Watched.enter (h : Watched ms s) (hp : p.Undecided) : Watched ms (s.enter v p) := by
  refine ⟨h.registered, h.stops, fun v' q hv' => ?_, ⟨v, p, by rw [lookup_enter, if_pos rfl], hp⟩⟩
  rw [lookup_enter] at hv'
  split at hv'
  · cases hv'
    exact .inl hp
  · exact h.phases v' q hv'

/-- A viewer is through with its count, and another one is not. -/
theorem Watched.drop (h : Watched ms s) (hleft : s.Other v q) (hq : q.Undecided) :
    Watched ms (s.enter v .dropping) ∧ Watched ms (s.leave v) := by
  obtain ⟨v', hne, hv'⟩ := hleft
  refine ⟨⟨h.registered, h.stops, fun u r hu => ?_, v', q, ?_, hq⟩,
    ⟨h.registered, h.stops, fun u r hu => ?_, v', q, ?_, hq⟩⟩
  · rw [lookup_enter] at hu
    split at hu
    · cases hu
      exact .inr rfl
    · exact h.phases u r hu
  · rw [lookup_enter, if_neg hne]
    exact hv'
  · rw [lookup_leave] at hu
    split at hu
    · cases hu
    · exact h.phases u r hu
  · rw [lookup_leave, if_neg hne]
    exact hv'

/-- A count that finds no other pointer decides to stop. -/
theorem Watched.decide (h : Watched ms s) (hothers : ∀ q, s.Other v q → q = .finding) :
    Closing ms (s.enter v .stopping) v .stopping where
  registered := h.registered
  closer := by rw [lookup_enter, if_pos rfl]
  decided := trivial
  stops := by
    rw [if_pos rfl, List.length_eq_zero_iff]
    exact h.stops
  others := by
    rintro q ⟨v', hne, hv'⟩
    rw [lookup_enter, if_neg hne] at hv'
    rw [hothers q ⟨v', hne, hv'⟩]
    exact .inl trivial
  alone := nofun

theorem Closing.enter (h : Closing ms s w p) (hne : v ≠ w) (hq : q.Undecided ∨ q = .dropping)
    (hlock : p ≠ .erasing) : Closing ms (s.enter v q) w p where
  registered := h.registered
  closer := by
    rw [lookup_enter, if_neg (Ne.symm hne)]
    exact h.closer
  decided := h.decided
  stops := h.stops
  others := by
    rintro r ⟨v', hv', hlookup⟩
    rw [lookup_enter] at hlookup
    split at hlookup
    · cases hlookup
      exact hq
    · exact h.others r ⟨v', hv', hlookup⟩
  alone := fun heq => absurd heq hlock

theorem Closing.leave (h : Closing ms s w p) (hne : v ≠ w) : Closing ms (s.leave v) w p := by
  have hother {r : ViewerPhase} (hr : (s.leave v).Other w r) : s.Other w r := by
    obtain ⟨v', hv', hlookup⟩ := hr
    rw [lookup_leave] at hlookup
    split at hlookup
    · cases hlookup
    · exact ⟨v', hv', hlookup⟩
  refine ⟨h.registered, ?_, h.decided, h.stops, fun r hr => h.others r (hother hr),
    fun heq r hr => h.alone heq r (hother hr)⟩
  rw [lookup_leave, if_neg (Ne.symm hne)]
  exact h.closer

/-- The deciding close goes on to its next phase. -/
theorem Closing.advance (h : Closing ms s w p) {w' : ServerState} {stops : List ServerState.StopCall}
    (hmap : w'.findStream ms.streamId = some ms) (hq : q.Decided)
    (hstops : stops.length = if q = .stopping then 0 else 1)
    (halone : q = .erasing → ∀ r, s.Other w r → r = .finding) :
    Closing ms { s.enter w q with media := w', stops := stops } w q := by
  have hother {r : ViewerPhase} (hr : (s.enter w q).Other w r) : s.Other w r := by
    obtain ⟨v', hv', hlookup⟩ := hr
    rw [lookup_enter, if_neg hv'] at hlookup
    exact ⟨v', hv', hlookup⟩
  refine ⟨hmap, ?_, hq, hstops, fun r hr => h.others r (hother hr),
    fun heq r hr => halone heq r (hother hr)⟩
  exact lookup_enter.trans (if_pos rfl)

theorem Closed.leave (h : Closed ms s) : Closed ms (s.leave v) := by
  refine ⟨h.erased, h.stops, fun v' q hv' => ?_⟩
  rw [lookup_leave] at hv'
  split at hv'
  · cases hv'
  · exact h.phases v' q hv'

/-! ### The steps -/

theorem Watched.run (h : Watched ms s) (hv : s.phases.lookup v = some p)
    (hsafe : s.Safe (.run v)) (hstep : s.advance env ms v p = some s') :
    s'.media = s.media ∧ (Watched ms s' ∨ ∃ w q, Closing ms s' w q) := by
  have hphase := h.phases v p hv
  cases p with
  | watching front =>
      cases front with
      | ws =>
          cases hstep
          exact ⟨rfl, .inl (h.enter trivial)⟩
      | sip =>
          cases hstep
          exact ⟨rfl, .inl (h.enter trivial)⟩
  | finding =>
      simp only [advance, h.registered, if_true] at hstep
      split at hstep
      · cases hstep
      · cases hstep
        exact ⟨rfl, .inl (h.enter trivial)⟩
  | counting =>
      have hcount := useCount_le_two_iff h.registered hv (by simp)
      simp only [advance] at hstep
      split at hstep
      · rename_i htwo
        cases hstep
        exact ⟨rfl, .inr ⟨v, .stopping, h.decide (hcount.mp htwo)⟩⟩
      · rename_i hthree
        cases hstep
        -- another pointer was counted, and its close or viewer is still to count
        have hothers := mt hcount.mpr hthree
        push Not at hothers
        obtain ⟨q, hq, -⟩ := hothers
        obtain ⟨q', hleft, hne⟩ := hsafe.1 hv q hq
        have hphase' : q'.Undecided := by
          obtain ⟨v', -, hv'⟩ := hleft
          exact (h.phases v' q' hv').resolve_right hne
        exact ⟨rfl, .inl (h.drop hleft hphase').1⟩
  | dropping =>
      cases hstep
      obtain ⟨v', q, hv', hq⟩ := h.left
      -- the viewer left over by the invariant is another one
      have hne : v' ≠ v := by
        rintro rfl
        rw [hv] at hv'
        cases hv'
        exact hq
      exact ⟨rfl, .inl (h.drop ⟨v', hne, hv'⟩ hq).2⟩
  | stopping => simp [ViewerPhase.Undecided] at hphase
  | removing => simp [ViewerPhase.Undecided] at hphase
  | erasing => simp [ViewerPhase.Undecided] at hphase

/-- The viewers that have not decided cannot do so any more. -/
theorem Closing.run_other (h : Closing ms s w p) (hne : v ≠ w)
    (hv : s.phases.lookup v = some q) (hstep : s.advance env ms v q = some s') :
    s'.media = s.media ∧ Closing ms s' w p := by
  have hphase := h.others q ⟨v, hne, hv⟩
  -- a close that erases has seen that all others are still finding
  have hfree (hq : q ≠ .finding) : p ≠ .erasing := by
    intro heq
    exact hq (h.alone heq q ⟨v, hne, hv⟩)
  cases q with
  | watching front =>
      cases front with
      | ws =>
          cases hstep
          exact ⟨rfl, h.enter hne (.inl trivial) (hfree (by simp))⟩
      | sip =>
          cases hstep
          exact ⟨rfl, h.enter hne (.inl trivial) (hfree (by simp))⟩
  | finding =>
      simp only [ClosingStream.advance, h.registered, if_true] at hstep
      split at hstep
      · cases hstep
      · rename_i hlock
        cases hstep
        refine ⟨rfl, h.enter hne (.inl trivial) ?_⟩
        rintro rfl
        exact hlock (locked_iff.mpr ⟨w, h.closer⟩)
  | counting =>
      have hcount := useCount_le_two_iff h.registered hv (by simp)
      simp only [ClosingStream.advance] at hstep
      split at hstep
      · rename_i htwo
        -- a second decision: it would have counted the closer as gone
        have hw := hcount.mp htwo p ⟨w, Ne.symm hne, h.closer⟩
        have hdecided := h.decided
        rw [hw] at hdecided
        cases hdecided
      · cases hstep
        exact ⟨rfl, h.enter hne (.inr rfl) (hfree (by simp))⟩
  | dropping =>
      cases hstep
      exact ⟨rfl, h.leave hne⟩
  | stopping => simp [ViewerPhase.Undecided] at hphase
  | removing => simp [ViewerPhase.Undecided] at hphase
  | erasing => simp [ViewerPhase.Undecided] at hphase

theorem Closed.run (h : Closed ms s) (hv : s.phases.lookup v = some p)
    (hstep : s.advance env ms v p = some s') : s'.media = s.media ∧ Closed ms s' := by
  rcases h.phases v p hv with rfl | rfl
  · simp only [advance, h.erased] at hstep
    split at hstep
    · cases hstep
    · cases hstep
      exact ⟨rfl, h.leave⟩
  · cases hstep
    exact ⟨rfl, h.leave⟩

section

variable {op : NvrOp} (hop : ServerState.stopOp ms = some op)
  (hstop : ∀ session, (op.run env.sdk session).err = 0)

include hop hstop

/-- A stop that the NVR carries out. -/
theorem stop_eq {ref : Nat} {nvr : JsonNvrDevic}
    (hfind : s.media.streamNvr ms = some (ref, nvr)) (v : Nat) :
    s.stop env ms v =
      { s.enter v .removing with
        media := s.media.putSession ref (op.run env.sdk (s.media.session nvr)).session
        stops := ⟨ms, ref, op, 0⟩ :: s.stops } := by
  rw [stop, hfind]
  simp only [ServerState.stopHandle_eq hop, ServerState.stopErr_some, hstop, if_true]
  rfl

/-- The deciding close stops the stream, and erases it when it is alone. -/
theorem Closing.run (h : Closing ms s w p) (hnvr : (s.media.streamNvr ms).isSome)
    (hsafe : s.Safe (.run w)) (hstep : s.advance env ms w p = some s') : Inv ms s' := by
  cases p with
  | stopping =>
      obtain ⟨⟨ref, nvr⟩, hfind⟩ := Option.isSome_iff_exists.mp hnvr
      have hstops : s.stops = [] := by simpa using h.stops
      cases hstep
      rw [stop_eq hop hstop hfind]
      refine ⟨isSome_streamNvr_putSession hnvr, .inr (.inl ⟨w, .removing, ?_⟩)⟩
      refine h.advance (q := .removing) h.registered trivial ?_ nofun
      simp [hstops]
  | removing =>
      simp only [ClosingStream.advance] at hstep
      split at hstep
      · cases hstep
      · -- by the step condition no other viewer holds the stream here
        have halone := hsafe.2 h.closer
        have hcount := (useCount_le_two_iff h.registered h.closer (by simp)).mpr halone
        have hremovable : s.media.removable (fun _ => s.held) ms.streamId = true := by
          simp [ServerState.removable, h.registered, hcount]
        rw [hremovable] at hstep
        cases hstep
        refine ⟨hnvr, .inr (.inl ⟨w, .erasing, ?_⟩)⟩
        exact h.advance h.registered trivial h.stops fun _ => halone
  | erasing =>
      cases hstep
      refine ⟨hnvr, .inr (.inr ⟨?_, h.stops, fun v q hv => ?_⟩)⟩
      · exact (ServerState.findStream_eraseStream _ _ _).trans (if_pos rfl)
      · have hlookup : (s.enter w .dropping).phases.lookup v = some q := hv
        rw [lookup_enter] at hlookup
        split at hlookup
        · cases hlookup
          exact .inr rfl
        · rename_i hne
          exact .inl (h.alone rfl q ⟨v, hne, hlookup⟩)
  | watching front => cases h.decided
  | finding => cases h.decided
  | counting => cases h.decided
  | dropping => cases h.decided

theorem preserves_inv : Lts.Preserves (step env ms) Safe (Inv ms) := by
  intro s e s' h hsafe hstep
  cases e with
  | openStream v front =>
      simp only [step] at hstep
      split at hstep
      · cases hstep
      · rename_i hopen
        simp only [not_or, not_not] at hopen
        obtain ⟨hlock, hfresh, hmap⟩ := hopen
        cases hstep
        -- a viewer can join at every stage but the last, where the id is out of the map
        refine ⟨h.nvr, ?_⟩
        rcases h.stage with hstage | ⟨w, p, hstage⟩ | hstage
        · exact .inl (hstage.enter trivial)
        · refine .inr (.inl ⟨w, p, hstage.enter ?_ (.inl trivial) ?_⟩)
          · rintro rfl
            rw [hstage.closer] at hfresh
            cases hfresh
          · rintro rfl
            exact hlock (locked_iff.mpr ⟨w, hstage.closer⟩)
        · rw [hstage.erased] at hmap
          cases hmap
  | run v =>
      obtain ⟨p, hv, hadv⟩ := Option.bind_eq_some_iff.mp hstep
      rcases h.stage with hstage | ⟨w, q, hstage⟩ | hstage
      · obtain ⟨hmedia, hnext⟩ := hstage.run hv hsafe hadv
        exact ⟨hmedia ▸ h.nvr, hnext.imp_right .inl⟩
      · by_cases hne : v = w
        · subst hne
          rw [hstage.closer] at hv
          cases hv
          exact hstage.run hop hstop h.nvr hsafe hadv
        · obtain ⟨hmedia, hnext⟩ := hstage.run_other hne hv hadv
          exact ⟨hmedia ▸ h.nvr, .inr (.inl ⟨w, q, hnext⟩)⟩
      · obtain ⟨hmedia, hnext⟩ := hstage.run hv hadv
        exact ⟨hmedia ▸ h.nvr, .inr (.inr hnext)⟩

end

theorem Inv.settled (h : Inv ms s) : Settled ms s := by
  intro hempty
  rcases h.stage with hstage | ⟨w, p, hstage⟩ | hstage
  · obtain ⟨v, p, hv, -⟩ := hstage.left
    rw [hempty v] at hv
    cases hv
  · have hw := hstage.closer
    rw [hempty w] at hw
    cases hw
  · exact ⟨hstage.stops, hstage.erased⟩

theorem inv_start {m : ServerState} (front : FrontEnd)
    (hmap : m.findStream ms.streamId = some ms) (hnvr : (m.streamNvr ms).isSome) :
    Inv ms (start m v front) := by
  refine ⟨hnvr, .inl ⟨hmap, rfl, fun v' p hv' => ?_, v, .watching front, ?_, trivial⟩⟩
  · simp only [start, Table.lookup_insert] at hv'
    split at hv'
    · cases hv'
      exact .inl trivial
    · cases hv'
  · simp only [start, Table.lookup_insert, if_true]

end

/-- In every interleaving of opens and closes in which no first count comes when
all that is left are closes that have counted, and in which the close that stops
the stream finds no other pointer at its second count, the stream is stopped once
and erased with its last viewer. -/
theorem stopped_with_last_viewer {env : Env} {ms : MediaStream} {op : NvrOp} (m : ServerState)
    (hop : ServerState.stopOp ms = some op) (hstop : ∀ session, (op.run env.sdk session).err = 0)
    (hmap : m.findStream ms.streamId = some ms) (hnvr : (m.streamNvr ms).isSome) (v : Nat)
    (front : FrontEnd) (events : List ViewerStep)
    (hsafe : Lts.Guarded (step env ms) Safe (start m v front) events) :
    Lts.Along (step env ms) (Settled ms) (start m v front) events :=
  ((preserves_inv hop hstop).along (inv_start front hmap hnvr) hsafe).mono fun _ h => h.settled

/-! ### A close without interruption -/

section

variable {s t : ClosingStream} {env : Env} {ms : MediaStream} {v : Nat} {p q : ViewerPhase}

/-- Steps of one viewer, with no other in between. -/
def Alone (env : Env) (ms : MediaStream) (v : Nat) (s t : ClosingStream) : Prop :=
  ∃ n, Lts.exec (step env ms) s (List.replicate n (.run v)) = some t

theorem Alone.head {s' : ClosingStream} (hv : s.phases.lookup v = some p)
    (hstep : s.advance env ms v p = some s') (h : Alone env ms v s' t) : Alone env ms v s t := by
  obtain ⟨n, hn⟩ := h
  refine ⟨n + 1, ?_⟩
  rw [List.replicate_succ, Lts.exec_cons_eq_some]
  exact ⟨s', by simp [step, hv, hstep], hn⟩

theorem alone_leave (hv : s.phases.lookup v = some .dropping) : Alone env ms v s (s.leave v) :=
  Alone.head hv rfl ⟨0, rfl⟩

theorem held_enter (hv : s.phases.lookup v = some p) (hp : p ≠ .finding) (hq : q ≠ .finding) :
    (s.enter v q).held = s.held := by
  have hone {r : ViewerPhase} (hr : r ≠ .finding) : r.pointer = some () := by
    cases r with
    | finding => exact absurd rfl hr
    | _ => rfl
  have hlen := (Table.gather_perm ViewerPhase.pointer hv).length_eq
  simp only [held, enter, Table.gather_insert]
  rw [hlen, hone hp, hone hq]

theorem unlocked_enter (hlock : ¬ s.Locked) (hq : q ≠ .erasing) : ¬ (s.enter v q).Locked := by
  rw [locked_iff] at hlock ⊢
  rintro ⟨v', hv'⟩
  rw [lookup_enter] at hv'
  split at hv'
  · cases hv'
    exact hq rfl
  · exact hlock ⟨v', hv'⟩

theorem lookup_entered : (s.enter v q).phases.lookup v = some q :=
  lookup_enter.trans (if_pos rfl)

theorem lookup_left : (s.leave v).phases.lookup v = none :=
  lookup_leave.trans (if_pos rfl)

variable (env ms)

/-- `removeStream` and the drop of the pointer. -/
theorem remove_alone (hv : s.phases.lookup v = some .removing) (hlock : ¬ s.Locked) :
    ∃ t, Alone env ms v s t ∧ t.phases.lookup v = none ∧
      t.media = s.media.removeStream (fun _ => s.held) ms.streamId ∧ t.stops = s.stops := by
  unfold ServerState.removeStream
  by_cases hremovable : s.media.removable (fun _ => s.held) ms.streamId = true
  · rw [if_pos hremovable]
    have herasing : s.advance env ms v .removing = some (s.enter v .erasing) := by
      simp [advance, hlock, hremovable]
    exact ⟨_, .head hv herasing (.head lookup_entered rfl (alone_leave lookup_entered)),
      lookup_left, rfl, rfl⟩
  · rw [if_neg hremovable]
    have hdropping : s.advance env ms v .removing = some (s.enter v .dropping) := by
      simp [advance, hlock, hremovable]
    exact ⟨_, .head hv hdropping (alone_leave lookup_entered), lookup_left, rfl, rfl⟩

/-- The stop operation and what follows it. -/
theorem stop_alone (hv : s.phases.lookup v = some .stopping) (hlock : ¬ s.Locked) {ref : Nat}
    {nvr : JsonNvrDevic} (hnvr : s.media.streamNvr ms = some (ref, nvr)) :
    ∃ t, Alone env ms v s t ∧ t.phases.lookup v = none ∧
      t.media = (s.media.stopStream env (fun _ => s.held) ms ref nvr).1 ∧
      t.stops = (s.media.stopStream env (fun _ => s.held) ms ref nvr).2.toList ++ s.stops := by
  have hstop : s.advance env ms v .stopping = some (s.stop env ms v) := rfl
  simp only [stop, hnvr] at hstop
  simp only [ServerState.stopStream]
  by_cases herr : ServerState.stopErr (s.media.stopHandle env ms ref nvr).2 = 0
  · rw [if_pos herr] at hstop ⊢
    have hheld : (s.enter v .removing).held = s.held := held_enter hv (by simp) (by simp)
    obtain ⟨t, halone, hgone, hmedia, hstops⟩ := remove_alone env ms
      (s := { s.enter v .removing with
        media := (s.media.stopHandle env ms ref nvr).1
        stops := (s.media.stopHandle env ms ref nvr).2.toList ++ s.stops })
      lookup_entered (unlocked_enter hlock (by simp))
    refine ⟨t, .head hv hstop halone, hgone, ?_, hstops⟩
    rw [hmedia, ← hheld]
    rfl
  · rw [if_neg herr] at hstop ⊢
    exact ⟨_, .head hv hstop (alone_leave lookup_entered), lookup_left, rfl, rfl⟩

/-- A close that no other thread interrupts is `closeStreamByStreamId`. -/
theorem close_alone (hv : s.phases.lookup v = some .counting) (hlock : ¬ s.Locked) :
    ∃ t, Alone env ms v s t ∧ t.phases.lookup v = none ∧
      t.media = (s.media.closeStreamByStreamId env (fun _ => s.held) ms).1 ∧
      t.stops = (s.media.closeStreamByStreamId env (fun _ => s.held) ms).2.toList ++ s.stops := by
  unfold ServerState.closeStreamByStreamId
  by_cases hcount : s.media.useCount s.held ms ≤ 2
  · simp only [if_pos hcount]
    have hcounted : s.advance env ms v .counting = some (s.enter v .stopping) := by
      simp [advance, hcount]
    cases hnvr : s.media.streamNvr ms with
    | none =>
        have hstop : (s.enter v .stopping).advance env ms v .stopping =
            some ((s.enter v .stopping).enter v .dropping) := by
          simp only [advance, stop, enter, hnvr]
        exact ⟨_, .head hv hcounted (.head lookup_entered hstop (alone_leave lookup_entered)),
          lookup_left, rfl, rfl⟩
    | some p =>
        have hheld : (s.enter v .stopping).held = s.held := held_enter hv (by simp) (by simp)
        obtain ⟨t, halone, hgone, hmedia, hstops⟩ := stop_alone env ms lookup_entered
          (unlocked_enter hlock (by simp)) hnvr
        rw [hheld] at hmedia hstops
        exact ⟨t, .head hv hcounted halone, hgone, hmedia, hstops⟩
  · simp only [if_neg hcount]
    have hcounted : s.advance env ms v .counting = some (s.enter v .dropping) := by
      simp [advance, hcount]
    exact ⟨_, .head hv hcounted (alone_leave lookup_entered), lookup_left, rfl, rfl⟩

end

/-! ### Sample runs -/

theorem other_iff_mem {s : ClosingStream} {v : Nat} {p : ViewerPhase} :
    s.Other v p ↔ p ∈ Table.gather some (s.phases.erase v) := by
  rw [Table.mem_gather_iff]
  constructor
  · rintro ⟨v', hne, hv'⟩
    exact ⟨v', p, by rw [Table.lookup_erase, if_neg hne, hv'], rfl⟩
  · rintro ⟨v', q, hv', hq⟩
    cases hq
    rw [Table.lookup_erase] at hv'
    split at hv'
    · cases hv'
    · rename_i hne
      exact ⟨v', hne, hv'⟩

instance (s : ClosingStream) : ∀ e, Decidable (s.Safe e)
  | .openStream _ _ => isTrue trivial
  | .run v => decidable_of_iff
      ((s.phases.lookup v = some .counting → ∀ p ∈ Table.gather some (s.phases.erase v),
        ∃ p' ∈ Table.gather some (s.phases.erase v), p' ≠ .dropping) ∧
      (s.phases.lookup v = some .removing → ∀ p ∈ Table.gather some (s.phases.erase v),
        p = .finding)) (by simp only [Safe, other_iff_mem])

/-- The live stream of a child that is stored under its GB id. -/
def sampleStream : MediaStream where
  ref := 0
  deviceId := "34020000001320000001"
  streamId := "34020000001320000001_0"
  streamHandle := 1
  streamType := 0

def sampleMedia : ServerState :=
  (ServerState.sampleState (ChildMap.empty.addChildDevice
    (ServerState.sampleChild "34020000001320000001" "34020000001320000001" 1))).addStream
      sampleStream

theorem workingSdk_stops (handle : Nat) (session : NvrSession) :
    ((NvrOp.devStopPreview handle).run ServerState.workingSdk session).err = 0 := by
  have hinit : (session.initSdk ServerState.workingSdk).2 = 0 := by
    unfold NvrSession.initSdk
    split
    · rfl
    · rfl
  simp only [NvrOp.run, NvrSession.devStopPreview, NvrSession.openOp, hinit, NvrSession.operate]
  split
  · rfl
  · rfl

/-- A SIP call joins a websocket viewer and stays on; both close one after the other. -/
theorem stopped_with_last_viewer_sample :
    Lts.Along (step (ServerState.sampleEnv ServerState.workingSdk) sampleStream)
      (Settled sampleStream) (start sampleMedia 1 .ws)
      ([.openStream 2 .sip] ++ List.replicate 3 (.run 1) ++ List.replicate 7 (.run 2)) :=
  stopped_with_last_viewer sampleMedia rfl (workingSdk_stops 1) (by decide) (by decide) 1 .ws _
    (by decide)

/-- Two viewers that leave together count each other's pointer, and neither stops
the stream. -/
theorem two_closes_stop_nothing :
    ∃ t, Lts.exec (step (ServerState.sampleEnv ServerState.workingSdk) sampleStream)
        (start sampleMedia 1 .ws)
        [.openStream 2 .ws, .run 1, .run 2, .run 1, .run 2, .run 1, .run 2] = some t ∧
      (∀ v, t.phases.lookup v = none) ∧ t.stops = [] ∧
      t.media.findStream sampleStream.streamId = some sampleStream ∧
      ¬ Settled sampleStream t := by
  refine ⟨⟨sampleMedia, ∅, []⟩, rfl, fun v => AList.lookup_empty v, rfl, by decide, ?_⟩
  intro hsettled
  have hstops := (hsettled fun v => AList.lookup_empty v).1
  cases hstops

end ClosingStream

end SignalingServer
