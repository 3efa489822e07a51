import SignalingServer.Lib.LeadBytes
import SignalingServer.Lib.Utf8

/-!
The incremental check of `tools/CodeConversion.cpp`. A state other than 0 is an entry of the table
`e0f4`: it holds the bounds of the next byte and where the table goes on.
-/

namespace SignalingServer

open Utf8

namespace CheckUtf8

/-! ### The functions -/

/-- An entry of the table: `low | ((quarters - 1) << 2) | next`. -/
def entry (low quarters next : UInt8) : UInt8 := low ||| ((quarters - 1) <<< 2) ||| next

def e0f4 : List UInt8 :=
  [ -- e0 to ef
    entry 0xa0 2 1, entry 0x80 4 1, entry 0x80 4 1, entry 0x80 4 1, entry 0x80 4 1,
    entry 0x80 4 1, entry 0x80 4 1, entry 0x80 4 1, entry 0x80 4 1, entry 0x80 4 1,
    entry 0x80 4 1, entry 0x80 4 1, entry 0x80 4 1, entry 0x80 2 1, entry 0x80 4 1,
    entry 0x80 4 1,
    -- f0 to f4
    entry 0x90 3 2, entry 0x80 4 2, entry 0x80 4 2, entry 0x80 4 2, entry 0x80 1 2,
    -- s0, s2, s3
    0, entry 0x80 4 0, entry 0x80 4 1]

/-- The test for a byte that does not fit behind others; its numbers are of type `int`. -/
def unfit (s c : UInt8) : Bool :=
  c.toNat < (s.toNat &&& 0xf0) || c.toNat ≥ (s.toNat &&& 0xf0) + 0x10 + ((s.toNat <<< 2) &&& 0x30)

/-- `check_byte_utf8`; `none` for a read outside of the table. -/
def checkByteUtf8 (state c : UInt8) : Option Int :=
  if state = 0 then
    if c ≥ 0x80 then
      if c < 0xc2 ∨ c > 0xf4 then some (-1)
      else if c < 0xe0 then some (entry 0x80 4 0).toNat
      else e0f4[c.toNat - 0xe0]?.map fun e => (e.toNat : Int)
    else some state.toNat
  else if unfit state c then some (-1)
  else e0f4[21 + (state.toNat &&& 3)]?.map fun e => (e.toNat : Int)

/-- The loop of `check_utf8`: the state at the end, or that it returned 1. -/
def loop : UInt8 → List UInt8 → Option (Option UInt8)
  | s, [] => some (some s)
  | s, c :: buf =>
      if s = 0 then
        if c ≥ 0x80 then
          if c < 0xc2 ∨ c > 0xf4 then some none
          else if c < 0xe0 then loop (entry 0x80 4 0) buf
          else e0f4[c.toNat - 0xe0]?.bind fun s => loop s buf
        else loop s buf
      else if unfit s c then some none
      else e0f4[21 + (s.toNat &&& 3)]?.bind fun s => loop s buf

/-- `check_utf8`: what it returns, and `*state` then. -/
def checkUtf8 (state : UInt8) (buf : List UInt8) : Option (Int × UInt8) :=
  (loop state buf).map fun
    | some s => (0, s)
    | none => (1, state)

/-- A text in several parts, each with the state that the one before has left. -/
def checkParts : UInt8 → List (List UInt8) → Option (Int × UInt8)
  | state, [] => some (0, state)
  | state, buf :: bufs =>
      (checkUtf8 state buf).bind fun (ret, state) =>
        if ret = 0 then checkParts state bufs else some (ret, state)

/-- `check_byte_utf8` over the bytes, with the state that it returns, up to the first -1. -/
def foldBytes : UInt8 → List UInt8 → Option Int
  | state, [] => some state.toNat
  | state, c :: cs =>
      (checkByteUtf8 state c).bind fun ret =>
        if ret = -1 then some (-1) else foldBytes (UInt8.ofNat ret.toNat) cs

/-! ### The loop -/

/-- A round of `check_utf8` is a call of `check_byte_utf8`. -/
theorem loop_cons (s c : UInt8) (buf : List UInt8) :
    loop s (c :: buf) = (checkByteUtf8 s c).bind fun ret =>
      if ret = -1 then some none else loop (UInt8.ofNat ret.toNat) buf := by
  have hstate : ∀ e : UInt8, (if (e.toNat : Int) = -1 then some none
      else loop (UInt8.ofNat (e.toNat : Int).toNat) buf) = loop e buf := by
    intro e
    rw [if_neg (by omega), Int.toNat_natCast, UInt8.ofNat_toNat]
  have hentry : ∀ i : Nat, (e0f4[i]?.map fun e => (e.toNat : Int)).bind (fun ret =>
      if ret = -1 then some none else loop (UInt8.ofNat ret.toNat) buf) =
        e0f4[i]?.bind fun s => loop s buf := by
    intro i
    cases e0f4[i]? with
    | none => rfl
    | some e => exact hstate e
  unfold checkByteUtf8
  rw [loop]
  by_cases hstart : s = 0
  · rw [if_pos hstart, if_pos hstart]
    by_cases hhigh : c ≥ 0x80
    · rw [if_pos hhigh, if_pos hhigh]
      by_cases hbad : c < 0xc2 ∨ c > 0xf4
      · rw [if_pos hbad, if_pos hbad]
        rfl
      · rw [if_neg hbad, if_neg hbad]
        by_cases htwo : c < 0xe0
        · rw [if_pos htwo, if_pos htwo]
          exact (hstate _).symm
        · rw [if_neg htwo, if_neg htwo, hentry]
    · rw [if_neg hhigh, if_neg hhigh]
      exact (hstate s).symm
  · rw [if_neg hstart, if_neg hstart]
    by_cases hunfit : unfit s c = true
    · rw [if_pos hunfit, if_pos hunfit]
      rfl
    · rw [if_neg hunfit, if_neg hunfit, hentry]

theorem foldBytes_eq (s : UInt8) (bs : List UInt8) :
    foldBytes s bs = (loop s bs).map fun
      | some s' => (s'.toNat : Int)
      | none => -1 := by
  induction bs generalizing s with
  | nil => rfl
  | cons c bs ih =>
      rw [loop_cons, foldBytes, Option.map_bind]
      refine congrArg _ (funext fun ret => ?_)
      by_cases hret : ret = -1
      · rw [if_pos hret, Function.comp_apply, if_pos hret]
        rfl
      · rw [if_neg hret, Function.comp_apply, if_neg hret]
        exact ih _

theorem loop_append (s : UInt8) (bs cs : List UInt8) :
    loop s (bs ++ cs) = (loop s bs).bind fun
      | some s' => loop s' cs
      | none => some none := by
  induction bs generalizing s with
  | nil => rfl
  | cons c bs ih =>
      rw [List.cons_append, loop_cons, loop_cons, Option.bind_assoc]
      refine congrArg _ (funext fun ret => ?_)
      by_cases hret : ret = -1
      · rw [if_pos hret, if_pos hret]
        rfl
      · rw [if_neg hret, if_neg hret]
        exact ih _

/-- The parts of a text one after the other. -/
theorem checkParts_eq (parts : List (List UInt8)) (s : UInt8) {ret : Option UInt8}
    (h : loop s parts.flatten = some ret) :
    ∃ s', checkParts s parts = some (if ret.isSome then 0 else 1, s') ∧ ∀ e ∈ ret, s' = e := by
  induction parts generalizing s with
  | nil =>
      obtain rfl := Option.some.inj h
      exact ⟨s, rfl, fun e he => Option.some.inj he⟩
  | cons part parts ih =>
      rw [List.flatten_cons, loop_append] at h
      obtain ⟨first, hfirst, hrest⟩ := Option.bind_eq_some_iff.mp h
      rw [checkParts, checkUtf8, hfirst]
      cases first with
      | some s₁ => exact ih s₁ hrest
      | none =>
          obtain rfl := Option.some.inj hrest
          exact ⟨s, rfl, fun e he => by cases he⟩

/-! ### States as ranges -/

/-- The states, each with the ranges of the bytes that are still to come. -/
def states : List (UInt8 × List (Nat × Nat)) :=
  [(0, []), (0x8c, [tail]), (0x8d, [tail, tail]), (0x8e, [tail, tail, tail]),
    (0xa5, [(0xa0, 0xbf), tail]), (0x85, [(0x80, 0x9f), tail]),
    (0x9a, [(0x90, 0xbf), tail, tail]), (0x82, [(0x80, 0x8f), tail, tail])]

/-- A byte takes a state to the one for the ranges that are left. -/
theorem checkByteUtf8_step : ∀ p ∈ states, ∀ c,
    (step p.2 c = none ∧ checkByteUtf8 p.1 c = some (-1)) ∨
      ∃ q ∈ states, step p.2 c = some q.2 ∧ checkByteUtf8 p.1 c = some (q.1.toNat : Int) := by
  intro p hp
  refine LeadBytes.forall_byte ?_
  revert p
  decide +kernel

theorem loop_run {p : UInt8 × List (Nat × Nat)} (hp : p ∈ states) (bs : List UInt8) :
    (run p.2 bs = none ∧ loop p.1 bs = some none) ∨
      ∃ q ∈ states, run p.2 bs = some q.2 ∧ loop p.1 bs = some (some q.1) := by
  induction bs generalizing p with
  | nil => exact .inr ⟨p, hp, rfl, rfl⟩
  | cons c bs ih =>
      rw [loop_cons, run]
      rcases checkByteUtf8_step p hp c with ⟨hstep, hcheck⟩ | ⟨q, hq, hstep, hcheck⟩
      · rw [hstep, hcheck]
        exact .inl ⟨rfl, rfl⟩
      · rw [hstep, hcheck, Option.bind_some, Option.bind_some, if_neg (by omega),
          Int.toNat_natCast, UInt8.ofNat_toNat]
        exact ih hq

/-- Only state 0 is that between two characters. -/
theorem states_zero_iff : ∀ p ∈ states, p.1 = 0 ↔ p.2 = [] := by decide

/-- `check_utf8` fails exactly where the bytes do not begin a text, and ends in state 0 exactly
where they are one. A text in parts gives the same, and so does `check_byte_utf8` for one byte
after the other. -/
theorem checkUtf8_recognises (bs : List UInt8) :
    ∃ ret s, checkUtf8 0 bs = some (ret, s) ∧ (ret = 0 ∨ ret = 1) ∧
      (ret = 1 ↔ ¬ ∃ more, IsText (bs ++ more)) ∧ (ret = 0 ∧ s = 0 ↔ IsText bs) ∧
      (∀ parts : List (List UInt8), parts.flatten = bs →
        ∃ s', checkParts 0 parts = some (ret, s') ∧ (ret = 0 → s' = s)) ∧
      foldBytes 0 bs = some (if ret = 0 then (s.toNat : Int) else -1) := by
  have hzero : ((0, []) : UInt8 × List (Nat × Nat)) ∈ states := List.mem_cons_self
  rw [← run_eq_none_iff, ← run_eq_nil_iff, foldBytes_eq, checkUtf8]
  rcases loop_run hzero bs with ⟨hrun, hloop⟩ | ⟨q, hq, hrun, hloop⟩
  · rw [hrun, hloop]
    refine ⟨1, 0, rfl, .inr rfl, iff_of_true rfl rfl, iff_of_false ?_ nofun, ?_, rfl⟩
    · exact fun h => absurd h.1 (by decide)
    · rintro parts rfl
      obtain ⟨s', hparts, -⟩ := checkParts_eq parts 0 hloop
      exact ⟨s', hparts, fun h => absurd h (by decide)⟩
  · rw [hrun, hloop]
    refine ⟨0, q.1, rfl, .inl rfl, iff_of_false (by decide) nofun, ?_, ?_, rfl⟩
    · rw [and_iff_right rfl, states_zero_iff q hq, Option.some_inj]
    · rintro parts rfl
      obtain ⟨s', hparts, hsame⟩ := checkParts_eq parts 0 hloop
      exact ⟨s', hparts, fun _ => hsame q.1 rfl⟩

example : checkUtf8 0 [0x61, 0xe4, 0xb8] = some (0, 0x8c) := by decide
example : checkUtf8 0 [0xed, 0xa0] = some (1, 0) := by decide

end CheckUtf8

end SignalingServer
