import Mathlib.Data.List.ReduceOption
import SignalingServer.Media.FileReader
import SignalingServer.Media.ParameterSets

/-!
What the file readers keep of the parameter sets of a stream, and what all six loops that store
parameter sets have in common. The readers note the place behind the start code together with the
number of bytes from the beginning of the frame, start code included, which is never the length of
the NAL unit.
-/

namespace SignalingServer

namespace FileReader

open VideoNalu

/-- The loops of the two readers. -/
inductive SetLoop
  | init (c : ReaderCodec)
  | init2 (c : ReaderCodec)
deriving DecidableEq, Repr

/-- What `keepSet` appends to `m_sps`. -/
def setAt (r : FileReader) (s : Scan) (pn : Nat) : BlockPtr × Nat :=
  (⟨s.block, s.p + if r.memory s.block (s.p + 2) == 1 then 3 else 4⟩, pn - s.nalu)

/-- The bytes of an element of `m_sps`. -/
def readSet (r : FileReader) (set : BlockPtr × Nat) : List UInt8 :=
  (List.range set.2).map fun i => r.memory set.1.block (set.1.pos + i)

namespace SetLoop

def codec : SetLoop → ReaderCodec
  | init c => c
  | init2 c => c

def round : SetLoop → FileReader → Scan → Option (FileReader × Scan)
  | init .h264 => fun r s => some (round264 r s)
  | init .h265 => round265
  | init2 c => round2 c

/-- `spspps` of `Init`, or `spspps2`. -/
def wanted : SetLoop → FileReader → Scan → Bool
  | init _, _, s => s.spspps
  | init2 _, r, _ => r.spspps2

/-- Whether a round takes the NAL unit of this type for the end of a frame; `new` is what
`h264_nal_new_access` says. -/
def endsFrame : SetLoop → Nat → Bool → Bool
  | init .h264, t, new => decide (t ≤ 5) && new
  | init .h265, _, _ => true
  | init2 c, t, new => decide (t ≤ lastSlice c) && new

/-- Whether a round takes it for a parameter set: in `H265FileReader::Init` also at the end of a
frame. -/
def takesSet : SetLoop → Nat → Bool → Bool
  | init .h265, t, _ => isParameterSet .h265 t
  | l, t, new => isParameterSet l.codec t && !l.endsFrame t new

/-- `pn` of a round. -/
def next (r : FileReader) (s : Scan) : Nat := searchStartCode (r.memory s.block) (s.p + 4) s.stop

/-- `nal_unit_type` of a round. -/
def typeAt (l : SetLoop) (r : FileReader) (s : Scan) : Nat :=
  nalType l.codec (r.memory s.block) s.p

/-- What `h264_nal_new_access` says in a round. -/
def newAt (r : FileReader) (s : Scan) : Bool :=
  h264NalNewAccess (r.memory s.block) (next r s) s.stop

def ends (l : SetLoop) (r : FileReader) (s : Scan) : Bool := l.endsFrame (l.typeAt r s) (newAt r s)

/-- What a round appends to `m_sps`. -/
def kept (l : SetLoop) (r : FileReader) (s : Scan) : Option (BlockPtr × Nat) :=
  if l.wanted r s && l.takesSet (l.typeAt r s) (newAt r s) then some (r.setAt s (next r s))
  else none

/-- What a round leaves of the sets and of the local variables. The frames that it pushes have no
part in it. -/
def after (l : SetLoop) (r : FileReader) (s : Scan) : FileReader × Scan :=
  let m_sps := r.m_sps ++ (l.kept r s).toList
  let wanted := if l.ends r s then l.wanted r s && m_sps.isEmpty else l.wanted r s
  let s' := { s with p := next r s, nalu := if l.ends r s then next r s else s.nalu }
  match l with
  | init _ => ({ r with m_sps := m_sps }, { s' with spspps := wanted })
  | init2 _ => ({ r with m_sps := m_sps, spspps2 := wanted }, s')

end SetLoop

/-- What the rounds of a loop append, one after the other. -/
def keptEntries (l : SetLoop) : Nat → FileReader → Scan → List (Option (BlockPtr × Nat))
  | 0, _, _ => []
  | fuel + 1, r, s =>
      if s.p < s.stop then l.kept r s :: keptEntries l fuel (l.after r s).1 (l.after r s).2 else []

/-- The bytes of what they append. -/
def keptSets (l : SetLoop) (fuel : Nat) (r : FileReader) (s : Scan) :
    List (Option (List UInt8)) :=
  (keptEntries l fuel r s).map fun entry => entry.map r.readSet

/-- Two states of a loop that differ in the frames only. -/
structure SameSets (a a' : FileReader × Scan) : Prop where
  m_sps : a'.1.m_sps = a.1.m_sps
  spspps2 : a'.1.spspps2 = a.1.spspps2
  memory : a'.1.memory = a.1.memory
  block : a'.2.block = a.2.block
  stop : a'.2.stop = a.2.stop
  p : a'.2.p = a.2.p
  nalu : a'.2.nalu = a.2.nalu
  spspps : a'.2.spspps = a.2.spspps

section

variable {l : SetLoop} {r : FileReader} {s : Scan} {u : NalUnit} {us : List NalUnit}

/-! ### The rounds -/

/-- What a round keeps, and what it leaves, does not depend on the frames. -/
theorem SameSets.round {a a' : FileReader × Scan} (h : SameSets a a') (l : SetLoop) :
    l.kept a'.1 a'.2 = l.kept a.1 a.2 ∧
      SameSets (l.after a.1 a.2) (l.after a'.1 a'.2) := by
  obtain ⟨r, s⟩ := a
  obtain ⟨r', s'⟩ := a'
  obtain ⟨hm_sps, hspspps2, hmemory, hblock, hstop, hp, hnalu, hspspps⟩ := h
  dsimp only at *
  have hnext : SetLoop.next r' s' = SetLoop.next r s := by
    rw [SetLoop.next, SetLoop.next, hmemory, hblock, hp, hstop]
  have htype : l.typeAt r' s' = l.typeAt r s := by
    rw [SetLoop.typeAt, SetLoop.typeAt, hmemory, hblock, hp]
  have hnew : SetLoop.newAt r' s' = SetLoop.newAt r s := by
    rw [SetLoop.newAt, SetLoop.newAt, hnext, hmemory, hblock, hstop]
  have hends : l.ends r' s' = l.ends r s := by
    rw [SetLoop.ends, SetLoop.ends, htype, hnew]
  have hwanted : l.wanted r' s' = l.wanted r s := by
    cases l with
    | init c => exact hspspps
    | init2 c => exact hspspps2
  have hkept : l.kept r' s' = l.kept r s := by
    rw [SetLoop.kept, SetLoop.kept, hwanted, htype, hnew, setAt, setAt, hmemory, hblock, hp,
      hnalu, hnext]
  refine ⟨hkept, ?_⟩
  unfold SetLoop.after
  rw [hkept, hends, hwanted, hnext]
  cases l with
  | init c =>
      exact ⟨by rw [hm_sps], hspspps2, hmemory, hblock, hstop, rfl, by rw [hnalu],
        by rw [hm_sps]⟩
  | init2 c =>
      exact ⟨by rw [hm_sps], by rw [hm_sps], hmemory, hblock, hstop, rfl, by rw [hnalu], hspspps⟩

theorem SameSets.keptEntries {a a' : FileReader × Scan} (h : SameSets a a') (l : SetLoop)
    (fuel : Nat) : keptEntries l fuel a'.1 a'.2 = keptEntries l fuel a.1 a.2 := by
  induction fuel generalizing a a' with
  | zero => rfl
  | succ fuel ih =>
      obtain ⟨hkept, hafter⟩ := h.round l
      rw [FileReader.keptEntries, FileReader.keptEntries, h.p, h.stop, hkept, ih hafter]

theorem advance_same (r : FileReader) (bytes : Nat) :
    (r.advance bytes).m_sps = r.m_sps ∧ (r.advance bytes).memory = r.memory ∧
      (r.advance bytes).spspps2 = r.spspps2 := by
  unfold advance
  split
  · split
    · exact ⟨rfl, rfl, rfl⟩
    · exact ⟨rfl, rfl, rfl⟩
  · exact ⟨rfl, rfl, rfl⟩

theorem takesSet_eq (h : l ≠ .init .h265) (t : Nat) (new : Bool) :
    l.takesSet t new = (isParameterSet l.codec t && !l.endsFrame t new) := by
  cases l with
  | init c =>
      cases c with
      | h264 => rfl
      | h265 => exact absurd rfl h
  | init2 c => rfl

/-- At the end of a frame nothing is kept, but in `H265FileReader::Init`. -/
theorem kept_of_ends (h : l ≠ .init .h265) (hends : l.ends r s = true) : l.kept r s = none := by
  rw [SetLoop.kept, takesSet_eq h, show l.endsFrame _ _ = true from hends, Bool.not_true,
    Bool.and_false, Bool.and_false]
  rfl

theorem kept_of_not_ends (h : l ≠ .init .h265) (hends : ¬ l.ends r s = true) :
    l.kept r s =
      if isParameterSet l.codec (l.typeAt r s) && l.wanted r s then
        some (r.setAt s (SetLoop.next r s))
      else none := by
  rw [SetLoop.kept, takesSet_eq h, show l.endsFrame _ _ = false from Bool.not_eq_true _ ▸ hends,
    Bool.not_false, Bool.and_true, Bool.and_comm]

/-- Where a frame goes on, the loops that are not `H265FileReader::Init` do the same. -/
theorem sameSets_of_not_ends (h : l ≠ .init .h265) (hends : ¬ l.ends r s = true) :
    SameSets (l.after r s)
      (if isParameterSet l.codec (l.typeAt r s) && l.wanted r s then
        (r.keepSet s (SetLoop.next r s), { s with p := SetLoop.next r s })
      else (r, { s with p := SetLoop.next r s })) := by
  have hkept := kept_of_not_ends h hends
  unfold SetLoop.after
  dsimp only
  rw [if_neg hends, if_neg hends]
  by_cases hset : (isParameterSet l.codec (l.typeAt r s) && l.wanted r s) = true
  · rw [if_pos hset] at hkept ⊢
    rw [hkept]
    cases l with
    | init c => exact ⟨rfl, rfl, rfl, rfl, rfl, rfl, rfl, rfl⟩
    | init2 c => exact ⟨rfl, rfl, rfl, rfl, rfl, rfl, rfl, rfl⟩
  · rw [if_neg hset] at hkept ⊢
    rw [hkept, Option.toList_none, List.append_nil]
    cases l with
    | init c => exact ⟨rfl, rfl, rfl, rfl, rfl, rfl, rfl, rfl⟩
    | init2 c => exact ⟨rfl, rfl, rfl, rfl, rfl, rfl, rfl, rfl⟩

theorem sameSets_init264 (r : FileReader) (s : Scan) :
    SameSets (SetLoop.after (.init .h264) r s) (round264 r s) := by
  have hne : SetLoop.init .h264 ≠ .init .h265 := by decide
  by_cases hends : SetLoop.ends (.init .h264) r s = true
  · have hkept := kept_of_ends hne hends
    have hround : round264 r s = _ := if_pos hends
    unfold SetLoop.after
    dsimp only
    rw [hround, if_pos hends, if_pos hends, hkept, Option.toList_none, List.append_nil]
    exact ⟨rfl, rfl, rfl, rfl, rfl, rfl, rfl, rfl⟩
  · have hround : round264 r s = _ := if_neg hends
    rw [hround]
    exact sameSets_of_not_ends hne hends

theorem sameSets_init2 {c : ReaderCodec} {a : FileReader × Scan} (h : round2 c r s = some a) :
    SameSets (SetLoop.after (.init2 c) r s) a := by
  have hne : SetLoop.init2 c ≠ .init .h265 := SetLoop.noConfusion
  by_cases hends : SetLoop.ends (.init2 c) r s = true
  · have hkept := kept_of_ends hne hends
    have hround : round2 c r s = _ := if_pos hends
    rw [hround] at h
    obtain ⟨pushed, hpush, rfl⟩ := Option.map_eq_some_iff.mp h
    obtain ⟨queue, -, rfl⟩ := Option.map_eq_some_iff.mp hpush
    obtain ⟨hsps, hmemory, hflag⟩ := advance_same
      { r with spspps2 := r.spspps2 && r.m_sps.isEmpty, queue := queue }
      (SetLoop.next r s - s.nalu)
    unfold SetLoop.after
    dsimp only
    rw [if_pos hends, if_pos hends, hkept, Option.toList_none, List.append_nil]
    exact ⟨hsps, hflag, hmemory, rfl, rfl, rfl, rfl, rfl⟩
  · have hround : round2 c r s = some _ := (if_neg hends).trans (apply_ite some _ _ _).symm
    obtain rfl := Option.some.inj (hround.symm.trans h)
    exact sameSets_of_not_ends hne hends

theorem sameSets_init265 {a : FileReader × Scan} (h : round265 r s = some a) :
    SameSets (SetLoop.after (.init .h265) r s) a := by
  have hkept : (if isParameterSet .h265 (nalType .h265 (r.memory s.block) s.p) && s.spspps then
      r.keepSet s (SetLoop.next r s) else r) =
        { r with m_sps := r.m_sps ++ (SetLoop.kept (.init .h265) r s).toList } := by
    have hwhen : SetLoop.kept (.init .h265) r s =
        if isParameterSet .h265 (nalType .h265 (r.memory s.block) s.p) && s.spspps then
          some (r.setAt s (SetLoop.next r s))
        else none := by
      rw [SetLoop.kept, Bool.and_comm]
      rfl
    rw [hwhen]
    split
    · rfl
    · rw [Option.toList_none, List.append_nil]
  unfold round265 at h
  dsimp only at h
  rw [show searchStartCode (r.memory s.block) (s.p + 4) s.stop = SetLoop.next r s from rfl,
    hkept] at h
  obtain ⟨pushed, hpush, rfl⟩ := Option.map_eq_some_iff.mp h
  obtain ⟨queue, -, rfl⟩ := Option.map_eq_some_iff.mp hpush
  exact ⟨rfl, rfl, rfl, rfl, rfl, rfl, rfl, rfl⟩

/-- A round of each of the loops that is defined leaves what `after` says. -/
theorem sameSets_round {a : FileReader × Scan} (h : l.round r s = some a) :
    SameSets (l.after r s) a := by
  cases l with
  | init c =>
      cases c with
      | h264 =>
          obtain rfl := Option.some.inj h
          exact sameSets_init264 r s
      | h265 => exact sameSets_init265 h
  | init2 c => exact sameSets_init2 h

/-- What `after` leaves, for both kinds of loops. -/
structure SetRound (l : SetLoop) (r : FileReader) (s : Scan) : Prop where
  sets : (l.after r s).1.m_sps = r.m_sps ++ (l.kept r s).toList
  memory : (l.after r s).1.memory = r.memory
  block : (l.after r s).2.block = s.block
  stop : (l.after r s).2.stop = s.stop
  p : (l.after r s).2.p = SetLoop.next r s
  nalu : (l.after r s).2.nalu = if l.ends r s then SetLoop.next r s else s.nalu
  wanted : l.wanted (l.after r s).1 (l.after r s).2 =
    if l.ends r s then l.wanted r s && (l.after r s).1.m_sps.isEmpty else l.wanted r s

theorem setRound (l : SetLoop) (r : FileReader) (s : Scan) : SetRound l r s := by
  cases l with
  | init c => exact ⟨rfl, rfl, rfl, rfl, rfl, rfl, rfl⟩
  | init2 c => exact ⟨rfl, rfl, rfl, rfl, rfl, rfl, rfl⟩

/-- What the rounds append is what is behind the old elements of `m_sps` after the loop. -/
theorem scanLoop_m_sps (l : SetLoop) (fuel : Nat) {r r' : FileReader} {s : Scan}
    (h : scanLoop l.round fuel r s = some r') :
    r'.m_sps = r.m_sps ++ (keptEntries l fuel r s).reduceOption := by
  induction fuel generalizing r s with
  | zero =>
      rw [scanLoop] at h
      split at h
      · cases h
      · obtain rfl := Option.some.inj h
        exact (List.append_nil _).symm
  | succ fuel ih =>
      rw [scanLoop] at h
      rw [keptEntries]
      split
      · rename_i hmore
        rw [if_pos hmore] at h
        obtain ⟨a, ha, hrest⟩ := Option.bind_eq_some_iff.mp h
        have hsame := sameSets_round ha
        rw [ih hrest, hsame.keptEntries, hsame.m_sps, (setRound l r s).sets, List.append_assoc]
        cases l.kept r s with
        | none => rw [List.reduceOption_cons_of_none]; rfl
        | some entry => rw [List.reduceOption_cons_of_some]; rfl
      · rename_i hmore
        rw [if_neg hmore] at h
        obtain rfl := Option.some.inj h
        exact (List.append_nil _).symm

/-- The elements that `Init` appends to `m_sps`. -/
theorem init_m_sps {c : ReaderCodec} {r' : FileReader} {block : Nat}
    (h : r.init c block = some r') :
    r'.m_sps = r.m_sps ++ (keptEntries (.init c) r.m_capacity r
      (r.startScan block 0 r.m_capacity)).reduceOption := by
  cases c with
  | h264 => exact scanLoop_m_sps (.init .h264) r.m_capacity h
  | h265 => exact scanLoop_m_sps (.init .h265) r.m_capacity h

/-- Those that `Init2` appends. -/
theorem init2_m_sps {c : ReaderCodec} {r' : FileReader} {oneFrame : BlockPtr} {size : Nat}
    (h : r.init2 c oneFrame size = some r') :
    r'.m_sps = r.m_sps ++ (keptEntries (.init2 c) size r
      (r.startScan oneFrame.block oneFrame.pos (oneFrame.pos + size))).reduceOption :=
  scanLoop_m_sps (.init2 c) size h

/-! ### What is kept at a NAL unit -/

def typeOf : ReaderCodec → NalUnit → Nat
  | .h264, u => h264Nal u.header
  | .h265, u => h265Nal u.header

/-- No unit is taken for a parameter set while they are wanted. `any` says whether `m_sps` has
elements: then they are not wanted any more behind a frame. -/
def NothingKept (l : SetLoop) (wanted any : Bool) : List NalUnit → Prop
  | [] => True
  | u :: us =>
      ¬ (wanted && l.takesSet (typeOf l.codec u) (newAccess us)) = true ∧
        NothingKept l (if l.endsFrame (typeOf l.codec u) (newAccess us) then wanted && !any
          else wanted) any us

/-- What a round finds at a NAL unit. -/
theorem round_at (l : SetLoop) (h : AtUnits (r.memory s.block) s.p s.stop (u :: us)) :
    SetLoop.next r s = s.p + u.encode.length ∧ l.typeAt r s = typeOf l.codec u ∧
      SetLoop.newAt r s = newAccess us := by
  obtain ⟨hsearch, htype, htype', hnew⟩ := h.calls
  refine ⟨hsearch, ?_, ?_⟩
  · unfold SetLoop.typeAt
    cases l.codec with
    | h264 => exact htype
    | h265 => exact htype'
  · rw [SetLoop.newAt, show SetLoop.next r s = s.p + u.encode.length from hsearch]
    exact hnew

/-- What is kept is longer than the NAL unit. -/
theorem readSet_setAt_ne (h : AtUnits (r.memory s.block) s.p s.stop (u :: us))
    (hle : s.nalu ≤ s.p) : r.readSet (r.setAt s (SetLoop.next r s)) ≠ u.nal := by
  have hnext : SetLoop.next r s = s.p + u.encode.length := h.calls.1
  have hlen : u.encode.length = u.startCode.length + u.nal.length := List.length_append
  have hcode := u.length_startCode
  intro heq
  have hlength := congrArg List.length heq
  rw [readSet, List.length_map, List.length_range, setAt, hnext] at hlength
  dsimp only at hlength
  split at hcode
  · omega
  · omega

theorem exactSet_kept_iff (isSet : NalUnit → Bool)
    (h : AtUnits (r.memory s.block) s.p s.stop (u :: us)) (hle : s.nalu ≤ s.p) :
    FrameMemPool.ExactSet isSet u ((l.kept r s).map r.readSet) ↔
      ¬ (l.wanted r s && l.takesSet (typeOf l.codec u) (newAccess us)) = true := by
  obtain ⟨-, htype, hnew⟩ := round_at l h
  rw [SetLoop.kept, htype, hnew]
  split
  · rename_i hset
    refine iff_of_false (fun hall => ?_) (not_not.mpr hset)
    exact readSet_setAt_ne h hle (hall _ rfl).2
  · rename_i hset
    exact iff_of_true (FrameMemPool.exactSet_none isSet u) hset

/-- A loop keeps what it should exactly where it keeps nothing. -/
theorem keptSets_iff (l : SetLoop) (isSet : NalUnit → Bool) (units : List NalUnit) (fuel : Nat)
    (h : AtUnits (r.memory s.block) s.p s.stop units) (hle : s.nalu ≤ s.p)
    (hfuel : units.length ≤ fuel) :
    List.Forall₂ (FrameMemPool.ExactSet isSet) units (keptSets l fuel r s) ↔
      NothingKept l (l.wanted r s) (!r.m_sps.isEmpty) units := by
  induction units generalizing fuel r s with
  | nil =>
      have hnil : keptEntries l fuel r s = [] := by
        cases fuel with
        | zero => rfl
        | succ fuel => rw [keptEntries, if_neg h.not_lt]
      rw [keptSets, hnil]
      exact iff_of_true .nil trivial
  | cons u us ih =>
      obtain ⟨fuel, rfl⟩ := Nat.exists_eq_add_one_of_ne_zero (Nat.ne_zero_of_lt hfuel)
      obtain ⟨hnext, htype, hnew⟩ := round_at l h
      have hround := setRound l r s
      have hends : l.ends r s = l.endsFrame (typeOf l.codec u) (newAccess us) := by
        rw [SetLoop.ends, htype, hnew]
      have hread : (l.after r s).1.readSet = r.readSet := by
        funext set
        rw [readSet, readSet, hround.memory]
      have hrest : keptSets l (fuel + 1) r s = (l.kept r s).map r.readSet ::
          keptSets l fuel (l.after r s).1 (l.after r s).2 := by
        rw [keptSets, keptEntries, if_pos h.lt, List.map_cons, keptSets, hread]
      rw [hrest, List.forall₂_cons, exactSet_kept_iff isSet h hle, NothingKept]
      refine and_congr_right fun hnone => ?_
      have hkept : l.kept r s = none := by
        rw [SetLoop.kept, htype, hnew, if_neg hnone]
      have hsets : (l.after r s).1.m_sps = r.m_sps := by
        rw [hround.sets, hkept, Option.toList_none, List.append_nil]
      have hat : AtUnits ((l.after r s).1.memory (l.after r s).2.block) (l.after r s).2.p
          (l.after r s).2.stop us := by
        rw [hround.memory, hround.block, hround.p, hround.stop, hnext]
        exact h.next
      have hle' : (l.after r s).2.nalu ≤ (l.after r s).2.p := by
        rw [hround.nalu, hround.p, hnext]
        split
        · exact Nat.le_refl _
        · exact Nat.le_trans hle (Nat.le_add_right _ _)
      rw [ih fuel hat hle' (Nat.le_of_succ_le_succ hfuel), hround.wanted, hsets, hends,
        Bool.not_not]

/-- The loop over the bytes of a buffer. -/
theorem keptSets_of_buffer (l : SetLoop) (isSet : NalUnit → Bool) (ptr : BlockPtr) (size : Nat)
    (lead : List UInt8) {units : List NalUnit}
    (hdata : r.readSet (ptr, size) = lead ++ stream units) (hlead : NoCode lead (stream units))
    (hw : WellFormed units) :
    List.Forall₂ (FrameMemPool.ExactSet isSet) units
        (keptSets l size r (r.startScan ptr.block ptr.pos (ptr.pos + size))) ↔
      NothingKept l (l.wanted r (r.startScan ptr.block ptr.pos (ptr.pos + size)))
        (!r.m_sps.isEmpty) units := by
  obtain ⟨hholds, hsize⟩ : Holds (r.memory ptr.block) ptr.pos (lead ++ stream units) ∧
      size = (lead ++ stream units).length := Holds.of_read hdata
  obtain ⟨hsearch, hat⟩ := atUnits_search hholds hlead hw
  rw [← hsize] at hsearch hat
  have hfuel : units.length ≤ size := by
    have hle := length_le_stream units
    rw [hsize, List.length_append]
    omega
  refine keptSets_iff l isSet units size ?_ (Nat.le_refl _) hfuel
  show AtUnits (r.memory ptr.block)
    (searchStartCode (r.memory ptr.block) ptr.pos (ptr.pos + size)) (ptr.pos + size) units
  rw [hsearch]
  exact hat

end

end FileReader

namespace FrameMemPool

open VideoNalu

variable {pool : FrameMemPool} {readPtr : PoolPtr} (lead : List UInt8) {units : List NalUnit}

theorem storedSets_of_buffer264 (htype : pool.frameType = .GB_CODEC_H264)
    (hdata : pool.mem.read readPtr pool.mem.readSize = lead ++ stream units)
    (hlead : NoCode lead (stream units)) (hw : WellFormed units) :
    List.Forall₂ (ExactSet NalUnit.isSet264) units
        (storedSets pool.mem.readSize pool (pool.startScan readPtr)) ↔
      FirstInUnit pool.vpsspspps pool.sps.isSome pool.pps.isSome true units := by
  obtain ⟨hat, hstart⟩ := startScan_at hdata hlead hw
  rw [hstart]
  exact storedSets_264 units pool.mem.readSize true hat htype (Nat.le_refl _)
    (iff_of_true rfl rfl) (length_le_readSize hdata)

theorem storedSets_of_buffer265 (htype : pool.frameType = .GB_CODEC_H265)
    (hdata : pool.mem.read readPtr pool.mem.readSize = lead ++ stream units)
    (hlead : NoCode lead (stream units)) (hw : WellFormed units) :
    List.Forall₂ (ExactSet NalUnit.isSet265) units
      (storedSets pool.mem.readSize pool (pool.startScan readPtr)) := by
  obtain ⟨hat, hstart⟩ := startScan_at hdata hlead hw
  rw [hstart]
  exact storedSets_265 units pool.mem.readSize hat htype rfl (length_le_readSize hdata)

end FrameMemPool

/-! ### All loops -/

/-- The loops that store parameter sets, each with the object and the data that it reads. -/
inductive SetScanner
  | init264 (pool : FrameMemPool) (readPtr : PoolPtr)
  | init265 (pool : FrameMemPool) (readPtr : PoolPtr)
  | readerInit (c : ReaderCodec) (r : FileReader) (block : Nat)
  | readerInit2 (c : ReaderCodec) (r : FileReader) (oneFrame : BlockPtr) (oneFrameSize : Nat)

namespace SetScanner

open VideoNalu FrameMemPool FileReader

/-- The data that the loop reads. -/
def Reads : SetScanner → List UInt8 → Prop
  | init264 pool readPtr, data =>
      pool.frameType = .GB_CODEC_H264 ∧ pool.mem.read readPtr pool.mem.readSize = data
  | init265 pool readPtr, data =>
      pool.frameType = .GB_CODEC_H265 ∧ pool.mem.read readPtr pool.mem.readSize = data
  | readerInit _ r block, data => r.readSet (⟨block, 0⟩, r.m_capacity) = data
  | readerInit2 _ r oneFrame oneFrameSize, data => r.readSet (oneFrame, oneFrameSize) = data

/-- What the rounds store. -/
def stores : SetScanner → List (Option (List UInt8))
  | init264 pool readPtr => storedSets pool.mem.readSize pool (pool.startScan readPtr)
  | init265 pool readPtr => storedSets pool.mem.readSize pool (pool.startScan readPtr)
  | readerInit c r block =>
      keptSets (.init c) r.m_capacity r (r.startScan block 0 r.m_capacity)
  | readerInit2 c r oneFrame oneFrameSize =>
      keptSets (.init2 c) oneFrameSize r
        (r.startScan oneFrame.block oneFrame.pos (oneFrame.pos + oneFrameSize))

/-- The NAL units that are parameter sets. -/
def isSet : SetScanner → NalUnit → Bool
  | init264 _ _ | readerInit .h264 _ _ | readerInit2 .h264 _ _ _ => NalUnit.isSet264
  | init265 _ _ | readerInit .h265 _ _ | readerInit2 .h265 _ _ _ => NalUnit.isSet265

/-- There is a round for every NAL unit, and what it stores is this unit, a parameter set. -/
def StoresExact (sc : SetScanner) (units : List NalUnit) : Prop :=
  List.Forall₂ (ExactSet sc.isSet) units sc.stores

/-- The streams of which the sets are stored as they are. -/
def Suits : SetScanner → List NalUnit → Prop
  | init264 pool _, units =>
      FirstInUnit pool.vpsspspps pool.sps.isSome pool.pps.isSome true units
  | init265 _ _, _ => True
  | readerInit c r _, units => NothingKept (.init c) true (!r.m_sps.isEmpty) units
  | readerInit2 c r _ _, units => NothingKept (.init2 c) r.spspps2 (!r.m_sps.isEmpty) units

/-- `Init264` stores the sets of a stream as they are exactly where they come first in their
access units, `Init265` always, and the file readers where they store none. -/
theorem storesExact_iff (sc : SetScanner) (lead : List UInt8) (units : List NalUnit)
    (hdata : sc.Reads (lead ++ stream units)) (hlead : NoCode lead (stream units))
    (hw : WellFormed units) : sc.StoresExact units ↔ sc.Suits units := by
  cases sc with
  | init264 pool readPtr => exact storedSets_of_buffer264 lead hdata.1 hdata.2 hlead hw
  | init265 pool readPtr =>
      exact iff_of_true (storedSets_of_buffer265 lead hdata.1 hdata.2 hlead hw) trivial
  | readerInit c r block =>
      have hinit := keptSets_of_buffer (.init c) (readerInit c r block).isSet ⟨block, 0⟩
        r.m_capacity lead hdata hlead hw
      rw [Nat.zero_add] at hinit
      exact hinit
  | readerInit2 c r oneFrame oneFrameSize =>
      exact keptSets_of_buffer (.init2 c) _ oneFrame oneFrameSize lead hdata hlead hw

theorem storesExact_iff_sample :
    (init264 samplePool ⟨.buf, 0⟩).StoresExact sampleUnits ↔
      (init264 samplePool ⟨.buf, 0⟩).Suits sampleUnits :=
  storesExact_iff (init264 samplePool ⟨.buf, 0⟩) [0xFF] sampleUnits ⟨rfl, by decide⟩ (by decide)
    (by decide)

/-- An SPS, a PPS and an IDR slice. -/
def setUnits : List NalUnit :=
  [⟨false, 0x67, [0x42]⟩, ⟨false, 0x68, [0xce]⟩, ⟨false, 0x65, [0x88]⟩]

/-- A reader with a file in its block. -/
def setReader (data : List UInt8) : FileReader := (blank [] true fun _ _ => 0).load data

/-- A PPS behind an SPS is stored with the bytes that follow it; `H264FileReader` counts the start
code in; and `H265FileReader` takes slices of type 7 for parameter sets. -/
theorem not_storesExact :
    ¬ (init264 (filledPool .GB_CODEC_H264 (stream setUnits)) ⟨.buf, 0⟩).StoresExact setUnits ∧
      ¬ (readerInit .h264 (setReader (stream setUnits)) 0).StoresExact setUnits ∧
      ¬ (readerInit .h265 (setReader (stream [⟨false, 0x0e, [1, 0x88]⟩])) 0).StoresExact
        [⟨false, 0x0e, [1, 0x88]⟩] := by
  refine ⟨fun h => ?_, fun h => ?_, fun h => ?_⟩
  · have hsuits := (storedSets_of_buffer264 [] rfl (by decide) trivial (by decide)).mp h
    exact absurd hsuits.2.1 Bool.false_ne_true
  · have hsuits := (keptSets_of_buffer (.init .h264) NalUnit.isSet264 ⟨0, 0⟩ _ [] (by decide)
      trivial (by decide)).mp h
    exact hsuits.1 rfl
  · have hsuits := (keptSets_of_buffer (.init .h265) NalUnit.isSet265 ⟨0, 0⟩ _ [] (by decide)
      trivial (by decide)).mp h
    exact hsuits.1 rfl

end SetScanner

end SignalingServer
