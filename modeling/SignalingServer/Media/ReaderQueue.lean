import SignalingServer.Lib.Lts
import SignalingServer.Lib.Ring

/-!
The frame queue of `H264FileReader` and `H265FileReader` (`media/h264-file-reader.cpp`,
`media/h265-file-reader.cpp`): a ring in `m_videos` with an overflow queue behind it. Only a
push moves the overflow into the ring. The two classes have the same code with another number
of slots, and differ in what `GetNextFrameEx` returns when the ring is empty.
-/

namespace SignalingServer

universe u

/-- The two readers. -/
inductive ReaderCodec
  | h264
  | h265
deriving DecidableEq, Repr

/-- `MAX_SIZE` and `H265_FRAME_QUEUE_SIZE`. -/
def ReaderCodec.maxSize : ReaderCodec → Nat
  | .h264 => 128
  | .h265 => 300

theorem ReaderCodec.two_le_maxSize (c : ReaderCodec) : 2 ≤ c.maxSize := by
  cases c <;> decide

/-- `m_videos`, the indices `read` and `write` (`m_readIdx` and `m_writeIdx`), which are always
below `maxSize`, and the overflow. -/
structure ReaderQueue (α : Type u) where
  m_videos : List α
  readIdx : Nat
  writeIdx : Nat
  cacheQueue : List α
deriving DecidableEq, Repr

namespace ReaderQueue

variable {α : Type u} (c : ReaderCodec)

/-- `(write + 1) % MAX_SIZE == read`. -/
def full (q : ReaderQueue α) : Bool := (q.writeIdx + 1) % c.maxSize = q.readIdx

/-- `(write - read + MAX_SIZE) % MAX_SIZE`. -/
def filled (q : ReaderQueue α) : Nat := (q.writeIdx + c.maxSize - q.readIdx) % c.maxSize

/-- `m_videos[write] = frame; write = (++write) % MAX_SIZE`; `none` where `m_videos` has no
such element. -/
def store (q : ReaderQueue α) (frame : α) : Option (ReaderQueue α) :=
  if q.writeIdx < q.m_videos.length then
    some { q with
      m_videos := q.m_videos.set q.writeIdx frame
      writeIdx := (q.writeIdx + 1) % c.maxSize }
  else none

/-- The loop of `dump`, over the frames that are left in the overflow. -/
def dumpFrom (q : ReaderQueue α) : List α → Option (Bool × ReaderQueue α)
  | [] => some (false, { q with cacheQueue := [] })
  | frame :: cache =>
      if q.full c then some (true, { q with cacheQueue := frame :: cache })
      else (q.store c frame).bind fun q => q.dumpFrom cache

def dump (q : ReaderQueue α) : Option (Bool × ReaderQueue α) := q.dumpFrom c q.cacheQueue

/-- `push`, which returns true on both branches. -/
def push (q : ReaderQueue α) (frame : α) : Option (ReaderQueue α) :=
  (q.dump c).bind fun (left, q) =>
    if !left && !q.full c then q.store c frame
    else some { q with cacheQueue := q.cacheQueue ++ [frame] }

/-- `front`: the outer `none` where the slot does not exist, the inner one for NULL. -/
def front (q : ReaderQueue α) : Option (Option α) :=
  if 1 ≤ q.filled c then q.m_videos[q.readIdx]?.map some else some none

def pop (q : ReaderQueue α) : ReaderQueue α :=
  if 1 ≤ q.filled c then { q with readIdx := (q.readIdx + 1) % c.maxSize } else q

/-- `GetNextFrameEx`: what it returns and the frame that it fills in, if any. -/
def getNextFrameEx (q : ReaderQueue α) : Option (Int × Option α × ReaderQueue α) :=
  (q.front c).map fun
    | some frame => (0, some frame, q.pop c)
    | none =>
        match c with
        | .h264 => (0, none, q)
        | .h265 => (-1, none, q)

/-- The frames from the read index to the write index. -/
def ring (q : ReaderQueue α) : List α :=
  (List.range (q.filled c)).filterMap fun k => q.m_videos[(q.readIdx + k) % c.maxSize]?

/-- The next `n` slots from the write index on exist. -/
def HasSlots (q : ReaderQueue α) (n : Nat) : Prop :=
  ∀ i < n, (q.writeIdx + i) % c.maxSize < q.m_videos.length

instance (q : ReaderQueue α) (n : Nat) : Decidable (q.HasSlots c n) :=
  inferInstanceAs (Decidable (∀ i < n, _ < _))

/-- `n` pushes find their slots: those that the overflow and the new frames take as far as the
ring has room. -/
def Takes (q : ReaderQueue α) (n : Nat) : Prop :=
  q.HasSlots c (min (c.maxSize - 1 - q.filled c) (q.cacheQueue.length + n))

instance (q : ReaderQueue α) (n : Nat) : Decidable (q.Takes c n) :=
  inferInstanceAs (Decidable (HasSlots ..))

/-! ### The ring as a sequence of frames -/

/-- The ring has taken in the frames of `written`, of which the first `taken` have been read. -/
structure Keeps (q : ReaderQueue α) (written : List α) (taken : Nat) : Prop where
  writeIdx : q.writeIdx = written.length % c.maxSize
  readIdx : q.readIdx = taken % c.maxSize
  taken_le : taken ≤ written.length
  lap : written.length < taken + c.maxSize
  slots : ∀ ⦃j : Nat⦄ ⦃frame : α⦄, taken ≤ j → written[j]? = some frame →
    q.m_videos[j % c.maxSize]? = some frame

section

variable {c} {q q' : ReaderQueue α} {written : List α} {taken m n : Nat} {frame : α}

theorem HasSlots.mono (h : q.HasSlots c n) (hle : m ≤ n) : q.HasSlots c m :=
  fun i hi => h i (Nat.lt_of_lt_of_le hi hle)

theorem hasSlots_zero : q.HasSlots c 0 := fun i hi => absurd hi (Nat.not_lt_zero i)

theorem keeps_start (c : ReaderCodec) (slots : List α) :
    Keeps c { m_videos := slots, readIdx := 0, writeIdx := 0, cacheQueue := [] } [] 0 where
  writeIdx := (Nat.zero_mod _).symm
  readIdx := (Nat.zero_mod _).symm
  taken_le := Nat.le_refl 0
  lap := by
    have hsize := c.two_le_maxSize
    rw [List.length_nil]
    omega
  slots j frame _ h := by cases h

/-- The overflow has no part in what the ring holds. -/
theorem Keeps.with_cache (h : q.Keeps c written taken) (cache : List α) :
    Keeps c { q with cacheQueue := cache } written taken :=
  ⟨h.writeIdx, h.readIdx, h.taken_le, h.lap, h.slots⟩

theorem Keeps.full_iff (h : q.Keeps c written taken) :
    q.full c = true ↔ written.length + 1 = taken + c.maxSize := by
  have htaken := h.taken_le
  have hlap := h.lap
  rw [full, decide_eq_true_eq, h.writeIdx, h.readIdx, Nat.mod_add_mod]
  rcases Nat.lt_or_eq_of_le (Nat.succ_le_of_lt hlap) with hroom | hfull
  · rw [Ring.mod_eq_mod_iff (by omega) hroom]
    have hsize := c.two_le_maxSize
    omega
  · rw [show written.length + 1 = taken + c.maxSize from hfull, Nat.add_mod_right]
    simp

theorem Keeps.filled (h : q.Keeps c written taken) : q.filled c = written.length - taken := by
  rw [ReaderQueue.filled, h.writeIdx, h.readIdx]
  exact Ring.distance h.taken_le h.lap

/-- The slots behind the last frame, by their number in the order of the frames. -/
theorem Keeps.hasSlots_iff (h : q.Keeps c written taken) :
    q.HasSlots c n ↔ ∀ i < n, (written.length + i) % c.maxSize < q.m_videos.length := by
  unfold HasSlots
  simp only [h.writeIdx, Nat.mod_add_mod]

/-- They are the slots of some frames and those behind the last of these. -/
theorem Keeps.hasSlots_add {more : List α} (h : q.Keeps c written taken)
    (h' : q'.Keeps c (written ++ more) taken) (hlength : q'.m_videos.length = q.m_videos.length) :
    q.HasSlots c (more.length + n) ↔ q.HasSlots c more.length ∧ q'.HasSlots c n := by
  rw [h.hasSlots_iff, h.hasSlots_iff, h'.hasSlots_iff, hlength, List.length_append]
  constructor
  · intro hall
    refine ⟨fun i hi => hall i (Nat.lt_add_right n hi), fun i hi => ?_⟩
    rw [Nat.add_assoc]
    exact hall _ (Nat.add_lt_add_left hi _)
  · rintro ⟨hfirst, hrest⟩ i hi
    rcases Nat.lt_or_ge i more.length with hlt | hge
    · exact hfirst i hlt
    · have hi' := hrest (i - more.length) (by omega)
      rwa [Nat.add_assoc, Nat.add_sub_cancel' hge] at hi'

/-- They are the next slot and those from which on a queue with one more frame writes. -/
theorem Keeps.hasSlots_succ (h : q.Keeps c written taken)
    (h' : q'.Keeps c (written ++ [frame]) taken) (hlength : q'.m_videos.length = q.m_videos.length) :
    q.HasSlots c (n + 1) ↔ q.writeIdx < q.m_videos.length ∧ q'.HasSlots c n := by
  rw [h.hasSlots_iff, h'.hasSlots_iff, Nat.forall_lt_succ_left, Nat.add_zero, ← h.writeIdx,
    hlength, List.length_append, List.length_singleton]
  refine and_congr_right fun _ => forall₂_congr fun i _ => ?_
  rw [Nat.add_assoc, Nat.add_comm 1]

theorem Keeps.ring (h : q.Keeps c written taken) : q.ring c = written.drop taken := by
  have hread : (List.range (written.length - taken)).map
      (fun k => q.m_videos[(q.readIdx + k) % c.maxSize]?) = (written.drop taken).map some := by
    apply List.ext_getElem?
    intro k
    rw [List.getElem?_map, List.getElem?_map, List.getElem?_drop]
    by_cases hk : k < written.length - taken
    · have hlt : taken + k < written.length := by omega
      rw [List.getElem?_range hk, Option.map_some, h.readIdx, Nat.mod_add_mod,
        h.slots (Nat.le_add_right _ _) (List.getElem?_eq_getElem hlt),
        List.getElem?_eq_getElem hlt, Option.map_some]
    · rw [List.getElem?_eq_none_iff.mpr (by rw [List.length_range]; omega),
        List.getElem?_eq_none_iff.mpr (by omega)]
      rfl
  have hfilter := congrArg (List.filterMap id) hread
  rw [List.filterMap_map, List.filterMap_map] at hfilter
  rw [ReaderQueue.ring, h.filled]
  simpa using hfilter

/-! ### What the operations do to it -/

theorem Keeps.store (h : q.Keeps c written taken)
    (hroom : written.length + 1 < taken + c.maxSize) (hstore : q.store c frame = some q') :
    q'.Keeps c (written ++ [frame]) taken ∧ q'.cacheQueue = q.cacheQueue ∧
      q'.m_videos.length = q.m_videos.length := by
  have htaken := h.taken_le
  have hslot := (Option.ite_none_right_eq_some.mp hstore).1
  obtain rfl := Option.some.inj (Option.ite_none_right_eq_some.mp hstore).2
  refine ⟨⟨?_, h.readIdx, ?_, ?_, ?_⟩, rfl, List.length_set⟩
  · show (q.writeIdx + 1) % c.maxSize = _
    rw [h.writeIdx, Nat.mod_add_mod, List.length_append, List.length_singleton]
  · rw [List.length_append]
    omega
  · rw [List.length_append, List.length_singleton]
    exact hroom
  · intro j f hj hf
    show (q.m_videos.set q.writeIdx frame)[j % c.maxSize]? = some f
    rcases Ring.getElem?_concat_cases hf with ⟨hlt, hf⟩ | ⟨rfl, rfl⟩
    · -- another slot than those that are waiting
      rw [List.getElem?_set_ne]
      · exact h.slots hj hf
      · rw [h.writeIdx]
        exact Ring.mod_ne htaken (by omega) hj (by omega) (by omega)
    · rw [← h.writeIdx]
      exact List.getElem?_set_self hslot

theorem store_isSome_iff : (q.store c frame).isSome ↔ q.writeIdx < q.m_videos.length := by
  unfold ReaderQueue.store
  split
  · rename_i h
    exact iff_of_true rfl h
  · rename_i h
    exact iff_of_false Bool.false_ne_true h

/-- `dump` moves as much of the overflow into the ring as there is room for, if all the slots
that it needs exist. -/
theorem Keeps.dumpFrom (h : q.Keeps c written taken) (cache : List α) {room : Nat}
    (hroom : taken + c.maxSize = written.length + room + 1) :
    ((q.dumpFrom c cache).isSome ↔ q.HasSlots c (min room cache.length)) ∧
      ∀ r, q.dumpFrom c cache = some r →
        r.2.Keeps c (written ++ cache.take room) taken ∧ r.2.cacheQueue = cache.drop room ∧
          r.2.m_videos.length = q.m_videos.length ∧ (r.1 = true ↔ room < cache.length) := by
  -- on the overflow: each frame that is stored leaves room for one less
  induction cache generalizing q written room with
  | nil =>
      refine ⟨iff_of_true rfl (hasSlots_zero.mono (Nat.min_le_right _ _)), ?_⟩
      · rintro r ⟨⟩
        rw [List.take_nil, List.append_nil, List.drop_nil]
        exact ⟨h.with_cache [], rfl, rfl, by simp⟩
  | cons frame cache ih =>
      rw [ReaderQueue.dumpFrom]
      cases room with
      | zero =>
          rw [if_pos (h.full_iff.mpr (by omega))]
          refine ⟨iff_of_true rfl (hasSlots_zero.mono (Nat.min_le_left _ _)), ?_⟩
          · rintro r ⟨⟩
            rw [List.take_zero, List.append_nil, List.drop_zero]
            exact ⟨h.with_cache _, rfl, rfl, by simp⟩
      | succ room =>
          have hfree : ¬ q.full c = true := by
            rw [h.full_iff]
            omega
          rw [if_neg hfree, List.length_cons, Nat.succ_min_succ]
          cases hstore : q.store c frame with
          | none =>
              have hslot : ¬ q.writeIdx < q.m_videos.length := by
                rw [← store_isSome_iff, hstore]
                exact Bool.false_ne_true
              refine ⟨iff_of_false Bool.false_ne_true fun hslots => ?_, by rintro r ⟨⟩⟩
              have hfirst := h.hasSlots_iff.mp hslots 0 (Nat.succ_pos _)
              rw [Nat.add_zero, ← h.writeIdx] at hfirst
              exact hslot hfirst
          | some q₁ =>
              obtain ⟨hkeeps, -, hlength⟩ := h.store (by omega) hstore
              have hslot : q.writeIdx < q.m_videos.length := by
                rw [← store_isSome_iff, hstore]
                rfl
              have hless : taken + c.maxSize = (written ++ [frame]).length + room + 1 := by
                rw [List.length_append, List.length_singleton]
                omega
              obtain ⟨hsome, hspec⟩ := ih hkeeps hless
              rw [Option.bind_some]
              constructor
              · rw [hsome, h.hasSlots_succ hkeeps hlength]
                exact (and_iff_right hslot).symm
              · intro r hr
                obtain ⟨hafter, hcache, hlength', hleft⟩ := hspec r hr
                rw [List.append_assoc, List.singleton_append] at hafter
                rw [List.take_succ_cons, List.drop_succ_cons]
                exact ⟨hafter, hcache, hlength'.trans hlength, by rw [hleft]; omega⟩

/-- A push puts the frame behind all the others, if the slots that it needs exist. -/
theorem Keeps.push (h : q.Keeps c written taken) (frame : α) {room : Nat}
    (hroom : taken + c.maxSize = written.length + room + 1) :
    ((q.push c frame).isSome ↔ q.HasSlots c (min room (q.cacheQueue.length + 1))) ∧
      ∀ q', q.push c frame = some q' → ∃ more, q'.Keeps c (written ++ more) taken ∧
        more ++ q'.cacheQueue = q.cacheQueue ++ [frame] ∧
          more.length = min room (q.cacheQueue.length + 1) ∧
            q'.m_videos.length = q.m_videos.length := by
  obtain ⟨hdump, hspec⟩ := h.dumpFrom q.cacheQueue hroom
  unfold ReaderQueue.push ReaderQueue.dump
  cases hresult : q.dumpFrom c q.cacheQueue with
  | none =>
      refine ⟨iff_of_false Bool.false_ne_true fun hslots => ?_, by rintro q' ⟨⟩⟩
      rw [hresult] at hdump
      exact Bool.false_ne_true (hdump.mpr (hslots.mono (by omega)))
  | some r =>
      obtain ⟨left, q₁⟩ := r
      rw [hresult] at hdump
      obtain ⟨hkeeps, hcache, hlength, hleft⟩ := hspec _ hresult
      have hslots := hdump.mp rfl
      dsimp only at hkeeps hcache hlength hleft
      rw [Option.bind_some]
      dsimp only
      have hall : q.cacheQueue.take room ++ q₁.cacheQueue = q.cacheQueue := by
        rw [hcache, List.take_append_drop]
      have hwritten : (written ++ q.cacheQueue.take room).length =
          written.length + min room q.cacheQueue.length := by
        rw [List.length_append, List.length_take]
      by_cases hfits : q.cacheQueue.length < room
      · -- the overflow is empty now and there is room left
        have hnone : q₁.cacheQueue = [] := by
          rw [hcache, List.drop_of_length_le (by omega)]
        have hleft : left = false := by
          rw [← Bool.not_eq_true, hleft]
          omega
        have hfree : q₁.full c = false := by
          rw [← Bool.not_eq_true, hkeeps.full_iff]
          omega
        rw [hleft, hfree, if_pos (by rfl)]
        have hlast : q.HasSlots c (min room (q.cacheQueue.length + 1)) ↔
            q₁.writeIdx < q₁.m_videos.length := by
          rw [h.hasSlots_iff, hkeeps.writeIdx, hwritten, hlength,
            Nat.min_eq_right (Nat.le_of_lt hfits), Nat.min_eq_right hfits]
          rw [h.hasSlots_iff, Nat.min_eq_right (Nat.le_of_lt hfits)] at hslots
          rw [Nat.forall_lt_succ_right]
          exact and_iff_right hslots
        refine ⟨store_isSome_iff.trans hlast.symm, fun q' hq' => ?_⟩
        obtain ⟨hafter, hsame, hlength'⟩ := hkeeps.store (by omega) hq'
        rw [List.append_assoc] at hafter
        refine ⟨_, hafter, ?_, ?_, hlength'.trans hlength⟩
        · rw [hsame, hnone, List.append_nil]
          rw [hnone, List.append_nil] at hall
          rw [hall]
        · rw [List.length_append, List.length_take, List.length_singleton]
          omega
      · have hbusy : (!left && !q₁.full c) = false := by
          rcases Nat.lt_or_eq_of_le (Nat.le_of_not_lt hfits) with hmore | heq
          · rw [hleft.mpr hmore]
            rfl
          · have hfull : q₁.full c = true := by
              rw [hkeeps.full_iff]
              omega
            rw [hfull, Bool.not_true, Bool.and_false]
        rw [hbusy, if_neg Bool.false_ne_true]
        refine ⟨iff_of_true rfl (hslots.mono (by omega)), ?_⟩
        rintro q' ⟨⟩
        refine ⟨_, hkeeps.with_cache _, ?_, ?_, hlength⟩
        · show q.cacheQueue.take room ++ (q₁.cacheQueue ++ [frame]) = _
          rw [← List.append_assoc, hall]
        · rw [List.length_take]
          omega

/-- What holds of a queue to which frames are only pushed: nothing waits in the overflow while
the ring has room. -/
def Packed (c : ReaderCodec) (q : ReaderQueue α) : Prop :=
  ∃ written taken, q.Keeps c written taken ∧ (q.cacheQueue = [] ∨ q.full c = true)

theorem packed_start (c : ReaderCodec) (slots : List α) :
    Packed c { m_videos := slots, readIdx := 0, writeIdx := 0, cacheQueue := [] } :=
  ⟨[], 0, keeps_start c slots, .inl rfl⟩

/-- A new slot at the end changes none of the frames. -/
theorem Packed.push_back (h : q.Packed c) (slot : α) :
    Packed c { q with m_videos := q.m_videos ++ [slot] } := by
  obtain ⟨written, taken, hkeeps, hcache⟩ := h
  refine ⟨written, taken, ⟨hkeeps.writeIdx, hkeeps.readIdx, hkeeps.taken_le, hkeeps.lap, ?_⟩,
    hcache⟩
  intro j frame hj hframe
  have hslot := hkeeps.slots hj hframe
  show (q.m_videos ++ [slot])[j % c.maxSize]? = some frame
  rw [List.getElem?_append_left (List.getElem?_eq_some_iff.mp hslot).1]
  exact hslot

theorem Packed.takes_zero (h : q.Packed c) : q.Takes c 0 := by
  obtain ⟨written, taken, hkeeps, hcache⟩ := h
  have hzero : min (c.maxSize - 1 - q.filled c) (q.cacheQueue.length + 0) = 0 := by
    rcases hcache with hnone | hfull
    · rw [hnone]
      exact Nat.min_zero _
    · have hlast := hkeeps.full_iff.mp hfull
      rw [hkeeps.filled]
      omega
  rw [Takes, hzero]
  exact hasSlots_zero

/-- A push is defined where its slot exists. With the slots of `n` more frames in the new queue
those of `n + 1` exist in the old one. -/
theorem Packed.push (h : q.Packed c) (frame : α) :
    ((q.push c frame).isSome ↔ q.Takes c 1) ∧
      ∀ q', q.push c frame = some q' → q'.Packed c ∧
        q'.m_videos.length = q.m_videos.length ∧ (q.Takes c (n + 1) ↔ q'.Takes c n) := by
  obtain ⟨written, taken, hkeeps, -⟩ := h
  have htaken := hkeeps.taken_le
  have hlap := hkeeps.lap
  have hroom : taken + c.maxSize = written.length + (c.maxSize - 1 - q.filled c) + 1 := by
    rw [hkeeps.filled]
    omega
  obtain ⟨hsome, hspec⟩ := hkeeps.push frame hroom
  refine ⟨hsome, fun q' hq' => ?_⟩
  obtain ⟨more, hkeeps', hall, hmore, hlength⟩ := hspec q' hq'
  have hcache := congrArg List.length hall
  rw [List.length_append, List.length_append, List.length_singleton] at hcache
  refine ⟨⟨_, _, hkeeps', ?_⟩, hlength, ?_⟩
  · rw [hkeeps'.full_iff, ← List.length_eq_zero_iff, List.length_append]
    omega
  · have hfirst : q.HasSlots c more.length := by
      rw [hmore]
      rw [hq'] at hsome
      exact hsome.mp rfl
    have hsum : min (c.maxSize - 1 - q.filled c) (q.cacheQueue.length + (n + 1)) = more.length +
        min (c.maxSize - 1 - q'.filled c) (q'.cacheQueue.length + n) := by
      rw [hkeeps.filled] at hmore ⊢
      rw [hkeeps'.filled, List.length_append]
      omega
    rw [Takes, hsum, hkeeps.hasSlots_add hkeeps' hlength]
    exact and_iff_right hfirst

/-- Pushes one after the other are defined exactly where all their slots exist. -/
theorem Packed.pushes (h : q.Packed c) (frames : List α) :
    ((frames.foldlM (ReaderQueue.push c) q).isSome ↔ q.Takes c frames.length) ∧
      ∀ q', frames.foldlM (ReaderQueue.push c) q = some q' → q'.Packed c := by
  induction frames generalizing q with
  | nil =>
      refine ⟨iff_of_true rfl h.takes_zero, ?_⟩
      rintro q' ⟨⟩
      exact h
  | cons frame frames ih =>
      obtain ⟨hsome, hspec⟩ := h.push (n := frames.length) frame
      rw [List.foldlM_cons, List.length_cons]
      cases hpush : q.push c frame with
      | none =>
          rw [hpush] at hsome
          refine ⟨iff_of_false Bool.false_ne_true fun hslots => ?_, by rintro q' ⟨⟩⟩
          exact Bool.false_ne_true (hsome.mpr (hslots.mono (by omega)))
      | some q' =>
          obtain ⟨hpacked, -, htakes⟩ := hspec q' hpush
          rw [htakes]
          exact ih hpacked

/-- A ring with all its slots takes any number of frames. -/
theorem takes_of_length (h : c.maxSize ≤ q.m_videos.length) : q.Takes c n :=
  fun _ _ => Nat.lt_of_lt_of_le
    (Nat.mod_lt _ (Nat.lt_of_lt_of_le Nat.two_pos c.two_le_maxSize)) h

theorem Keeps.front (h : q.Keeps c written taken) : q.front c = some written[taken]? := by
  rw [ReaderQueue.front, h.filled]
  split
  · have hlt : taken < written.length := by omega
    rw [h.readIdx, h.slots (Nat.le_refl _) (List.getElem?_eq_getElem hlt),
      List.getElem?_eq_getElem hlt]
    rfl
  · rw [List.getElem?_eq_none (by omega)]

theorem getNextFrameEx_of_some (h : q.front c = some (some frame)) :
    q.getNextFrameEx c = some (0, some frame, q.pop c) := by
  simp [getNextFrameEx, h]

theorem getNextFrameEx_of_none (h : q.front c = some none) :
    q.getNextFrameEx c = some (if c = .h264 then 0 else -1, none, q) := by
  cases c <;> simp [getNextFrameEx, h]

theorem Keeps.pop (h : q.Keeps c written taken) (hlt : taken < written.length) :
    (q.pop c).Keeps c written (taken + 1) ∧ (q.pop c).cacheQueue = q.cacheQueue := by
  have hlap := h.lap
  rw [ReaderQueue.pop, h.filled, if_pos (by omega)]
  refine ⟨⟨h.writeIdx, ?_, hlt, by omega, fun j f hj => h.slots (Nat.le_of_succ_le hj)⟩, rfl⟩
  show (q.readIdx + 1) % c.maxSize = _
  rw [h.readIdx, Nat.mod_add_mod]

end

/-! ### Runs of a queue -/

inductive Call (α : Type u)
  | push (frame : α)
  | getNextFrameEx

/-- A queue with the frames that were pushed and those that were delivered. -/
structure Run (α : Type u) where
  queue : ReaderQueue α
  pushed : List α
  delivered : List α
deriving DecidableEq, Repr

namespace Run

/-- A reader whose `m_videos` has these elements. -/
def start (slots : List α) : Run α where
  queue := { m_videos := slots, readIdx := 0, writeIdx := 0, cacheQueue := [] }
  pushed := []
  delivered := []

def step (c : ReaderCodec) : Lts.Step (Run α) (Call α)
  | s, .push frame =>
      (s.queue.push c frame).map fun q => { s with queue := q, pushed := s.pushed ++ [frame] }
  | s, .getNextFrameEx =>
      (s.queue.getNextFrameEx c).map fun (_, frame, q) =>
        { s with queue := q, delivered := s.delivered ++ frame.toList }

/-- The frames that were delivered, those in the ring and those in the overflow are the frames
that were pushed, in order. -/
def Conserves (c : ReaderCodec) (s : Run α) : Prop :=
  s.delivered ++ s.queue.ring c ++ s.queue.cacheQueue = s.pushed

/-- Some pushed frame has not been delivered yet. -/
def Pending (s : Run α) : Prop := s.delivered.length < s.pushed.length

instance (s : Run α) : Decidable s.Pending := inferInstanceAs (Decidable (_ < _))

/-- `GetNextFrameEx` returns 0 and fills in a frame exactly when there is one to deliver. -/
def Reports (c : ReaderCodec) (s : Run α) : Call α → Prop
  | .push _ => True
  | .getNextFrameEx => ∃ ret frame q, s.queue.getNextFrameEx c = some (ret, frame, q) ∧
      (ret = 0 ↔ s.Pending) ∧ (frame.isSome ↔ s.Pending)

/-- A push needs slots that exist. A frame must be in the ring when it is asked for, except
that `H265FileReader` may have none at all. -/
def Serves (c : ReaderCodec) (s : Run α) : Call α → Prop
  | .push _ =>
      s.queue.HasSlots c (min (c.maxSize - 1 - s.queue.filled c) (s.queue.cacheQueue.length + 1))
  | .getNextFrameEx => 1 ≤ s.queue.filled c ∨ (c = .h265 ∧ s.queue.cacheQueue = [])

instance [DecidableEq α] (c : ReaderCodec) (s : Run α) : ∀ a, Decidable (s.Serves c a)
  | .push _ => inferInstanceAs (Decidable (HasSlots ..))
  | .getNextFrameEx => inferInstanceAs (Decidable (_ ∨ _))

/-- The ring and the overflow hold all pushed frames in order, and the read index has passed
just the frames that were delivered. -/
def Sound (c : ReaderCodec) (s : Run α) : Prop :=
  ∃ written, s.queue.Keeps c written s.delivered.length ∧ s.delivered <+: written ∧
    written ++ s.queue.cacheQueue = s.pushed

section

variable {c : ReaderCodec} {s s' : Run α}

theorem sound_start (c : ReaderCodec) (slots : List α) : (start slots).Sound c :=
  ⟨[], keeps_start c slots, List.prefix_rfl, rfl⟩

theorem Sound.conserves (hs : s.Sound c) : s.Conserves c := by
  obtain ⟨written, hkeeps, ⟨rest, rfl⟩, hpushed⟩ := hs
  rw [Conserves, hkeeps.ring, List.drop_left, hpushed]

/-- A push is defined exactly when the slots exist, and keeps the frames. -/
theorem Sound.push (hs : s.Sound c) (frame : α) :
    ((step c s (.push frame)).isSome ↔ s.Serves c (.push frame)) ∧
      ∀ s', step c s (.push frame) = some s' → s'.Sound c := by
  obtain ⟨written, hkeeps, hprefix, hpushed⟩ := hs
  have htaken := hkeeps.taken_le
  have hlap := hkeeps.lap
  have hroom : s.delivered.length + c.maxSize =
      written.length + (c.maxSize - 1 - s.queue.filled c) + 1 := by
    rw [hkeeps.filled]
    omega
  obtain ⟨hsome, hspec⟩ := hkeeps.push frame hroom
  constructor
  · show ((s.queue.push c frame).map _).isSome ↔ _
    rw [Option.isSome_map]
    exact hsome
  · intro s' hs'
    obtain ⟨q, hq, rfl⟩ := Option.map_eq_some_iff.mp hs'
    obtain ⟨more, hkeeps', hall, -⟩ := hspec q hq
    refine ⟨_, hkeeps', hprefix.trans (List.prefix_append _ _), ?_⟩
    show written ++ more ++ q.cacheQueue = s.pushed ++ [frame]
    rw [List.append_assoc, hall, ← List.append_assoc, hpushed]

theorem Sound.pending_iff (hs : s.Sound c) :
    s.Pending ↔ 1 ≤ s.queue.filled c ∨ s.queue.cacheQueue ≠ [] := by
  obtain ⟨written, hkeeps, -, hpushed⟩ := hs
  have htaken := hkeeps.taken_le
  rw [Pending, ← hpushed, List.length_append, hkeeps.filled, ← List.length_pos_iff]
  omega

/-- A read is always defined and keeps the frames; it reports as it should exactly when the
ring has a frame, or nothing is left and the reader is the one that says so. -/
theorem Sound.getNextFrameEx (hs : s.Sound c) :
    ∃ s', step c s .getNextFrameEx = some s' ∧ s'.Sound c ∧
      (s.Reports c .getNextFrameEx ↔ s.Serves c .getNextFrameEx) := by
  have hpending := hs.pending_iff
  obtain ⟨_, hkeeps, ⟨rest, rfl⟩, hpushed⟩ := hs
  have hfront := hkeeps.front
  have hfilled := hkeeps.filled
  rw [List.getElem?_append_right (Nat.le_refl _), Nat.sub_self] at hfront
  rw [List.length_append, Nat.add_sub_cancel_left] at hfilled
  cases rest with
  | cons frame rest =>
      have hring : 1 ≤ s.queue.filled c := by
        rw [hfilled]
        exact Nat.succ_pos _
      obtain ⟨hpop, hcache⟩ := hkeeps.pop (by simp)
      have hget := getNextFrameEx_of_some hfront
      refine ⟨_, congrArg (Option.map _) hget, ⟨s.delivered ++ frame :: rest, ?_, ?_, ?_⟩, ?_⟩
      · show (s.queue.pop c).Keeps c _ (s.delivered ++ [frame]).length
        rw [List.length_append, List.length_singleton]
        exact hpop
      · exact ⟨rest, List.append_assoc _ _ _⟩
      · show _ ++ (s.queue.pop c).cacheQueue = s.pushed
        rw [hcache, hpushed]
      · exact iff_of_true ⟨_, _, _, hget, iff_of_true rfl (hpending.mpr (.inl hring)),
          iff_of_true rfl (hpending.mpr (.inl hring))⟩ (.inl hring)
  | nil =>
      have hring : ¬ 1 ≤ s.queue.filled c := by
        rw [hfilled]
        exact Nat.not_succ_le_zero 0
      have hget := getNextFrameEx_of_none hfront
      refine ⟨_, congrArg (Option.map _) hget, ⟨s.delivered ++ [], ?_, ?_, hpushed⟩, ?_⟩
      · show s.queue.Keeps c _ (s.delivered ++ []).length
        rw [List.append_nil] at hkeeps ⊢
        exact hkeeps
      · exact List.prefix_rfl
      · rw [Serves, or_iff_right hring]
        have hcache : s.Pending ↔ s.queue.cacheQueue ≠ [] := by
          rw [hpending, or_iff_right hring]
        constructor
        · rintro ⟨ret, frame, q, hget', hret, hframe⟩
          rw [hget] at hget'
          cases hget'
          have hnone : s.queue.cacheQueue = [] := by
            by_contra hleft
            exact Bool.false_ne_true (hframe.mpr (hcache.mpr hleft))
          refine ⟨?_, hnone⟩
          cases c with
          | h264 => exact absurd hnone (hcache.mp (hret.mp rfl))
          | h265 => rfl
        · rintro ⟨rfl, hnone⟩
          have hdone : ¬ s.Pending := fun h => hcache.mp h hnone
          exact ⟨_, _, _, hget, iff_of_false (by decide) hdone,
            iff_of_false Bool.false_ne_true hdone⟩

end

/-- The queue of a reader conserves its frames, and reports one exactly while some pushed
frame has not been delivered, if and only if every call is served. -/
theorem conserves_iff_serves (c : ReaderCodec) (slots : List α) (calls : List (Call α)) :
    Lts.Completes (step c) (fun s a s' => s'.Conserves c ∧ s.Reports c a) (start slots) calls ↔
      Lts.Checked (step c) (Serves c) (start slots) calls := by
  apply Lts.completes_iff_checked (I := Sound c)
  · intro s a hs hserves
    cases a with
    | push frame =>
        obtain ⟨hsome, hkept⟩ := hs.push frame
        obtain ⟨s', hs'⟩ := Option.isSome_iff_exists.mp (hsome.mpr hserves)
        exact ⟨s', hs', ⟨(hkept s' hs').conserves, trivial⟩, hkept s' hs'⟩
    | getNextFrameEx =>
        obtain ⟨s', hs', hsound, hreports⟩ := hs.getNextFrameEx
        exact ⟨s', hs', ⟨hsound.conserves, hreports.mpr hserves⟩, hsound⟩
  · intro s a s' hs hstep hgood
    cases a with
    | push frame =>
        have hsome := (hs.push frame).1
        rw [hstep] at hsome
        exact hsome.mp rfl
    | getNextFrameEx =>
        obtain ⟨s₁, -, -, hreports⟩ := hs.getNextFrameEx
        exact hreports.mp hgood.2
  · exact sound_start c slots

/-- A reader whose ring is empty while a frame waits in the overflow. -/
theorem not_reports_of_overflow {c : ReaderCodec} {s : Run α} (hnull : s.queue.front c = some none)
    (hpending : s.Pending) : ¬ s.Reports c .getNextFrameEx := by
  rintro ⟨ret, frame, q, hget, -, hframe⟩
  rw [getNextFrameEx_of_none hnull] at hget
  cases hget
  exact Bool.false_ne_true (hframe.mpr hpending)

/-- Asked for a frame before any was pushed, `H264FileReader` reports one; and its 128th frame
waits in the overflow when the ring has been read to its end. -/
theorem not_conserves :
    ¬ Lts.Completes (step .h264) (fun s a s' => s'.Conserves .h264 ∧ s.Reports .h264 a)
        (start (List.replicate 128 0)) [.getNextFrameEx] ∧
      ¬ Lts.Completes (step .h264) (fun s a s' => s'.Conserves .h264 ∧ s.Reports .h264 a)
        (start (List.replicate 128 0))
        (((List.range 128).map .push ++ List.replicate 127 .getNextFrameEx) ++
          [.getNextFrameEx]) := by
  constructor
  · rintro ⟨s', -, ⟨-, ret, frame, q, hget, hret, -⟩, -⟩
    cases hget
    exact absurd (hret.mp rfl) (by decide)
  · intro hall
    have hrun : (Lts.exec (step .h264) (start (List.replicate 128 0))
        ((List.range 128).map .push ++ List.replicate 127 .getNextFrameEx)).map
          (fun t => (t.queue.front .h264, decide t.Pending)) = some (some none, true) := by
      decide +kernel
    obtain ⟨t, ht, hfront⟩ := Option.map_eq_some_iff.mp hrun
    obtain ⟨s', -, ⟨-, hreports⟩, -⟩ := hall.of_append ht
    obtain ⟨hnull, hpending⟩ := Prod.mk.inj hfront
    exact not_reports_of_overflow hnull (of_decide_eq_true hpending) hreports

end Run

end ReaderQueue

end SignalingServer
