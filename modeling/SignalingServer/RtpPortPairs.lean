import Mathlib.Algebra.Group.Nat.Defs
import Mathlib.Data.List.Perm.Basic
import Mathlib.Data.List.Nodup
import SignalingServer.Lib.Lts
import SignalingServer.RtpPortManager

/-!
Ports of the pool in pairs. The call code uses an allocated port for RTP and the
next one for RTCP. The constructor lists every second port up to the end of the
range, so when the range has an odd number of ports the last one is listed
without a partner.
-/

namespace SignalingServer

open Lts

namespace RTPPortManager

/-- The loop of the constructor, with the rounds it may still take; `i` is an
`unsigned int`. -/
def fillPorts (portRangeMax : Nat) : Nat → Nat → List Nat
  | 0, _ => []
  | rounds + 1, i =>
      if i ≤ portRangeMax then i :: fillPorts portRangeMax rounds ((i + 2) % 2 ^ 32) else []

theorem fillPorts_eq {portRangeMax rounds i : Nat} (hmax : portRangeMax + 2 < 2 ^ 32)
    (hi : i ≤ portRangeMax + 2) (hrounds : (portRangeMax + 2 - i) / 2 ≤ rounds) :
    fillPorts portRangeMax rounds i = List.range' i ((portRangeMax + 2 - i) / 2) 2 := by
  induction rounds generalizing i with
  | zero =>
      have hnone : (portRangeMax + 2 - i) / 2 = 0 := by omega
      rw [hnone]
      rfl
  | succ rounds ih =>
      rw [fillPorts]
      by_cases hle : i ≤ portRangeMax
      · have hcount : (portRangeMax + 2 - i) / 2 = (portRangeMax + 2 - (i + 2)) / 2 + 1 := by
          omega
        rw [if_pos hle, Nat.mod_eq_of_lt (by omega), ih (by omega) (by omega), hcount,
          List.range'_succ]
      · have hnone : (portRangeMax + 2 - i) / 2 = 0 := by omega
        rw [if_neg hle, hnone]
        rfl

/-- The constructor's list is what its loop fills in. -/
theorem new_eq_fillPorts {portRangeMin portRangeMax rounds : Nat}
    (hle : portRangeMin ≤ portRangeMax) (hmax : portRangeMax < 2 ^ 31)
    (hrounds : portRangeMax - portRangeMin < rounds) :
    (new portRangeMin portRangeMax).mRTPPortFreeList =
      fillPorts portRangeMax rounds portRangeMin := by
  rw [fillPorts_eq (by omega) (by omega) (by omega)]
  rfl

end RTPPortManager

/-- A range of ports as the constructor takes it, in two `int`s. -/
structure PortRange where
  portRangeMin : Nat
  portRangeMax : Nat
  le : portRangeMin ≤ portRangeMax
  int : portRangeMax < 2 ^ 31

namespace PortRange

variable (r : PortRange)

def manager : RTPPortManager := RTPPortManager.new r.portRangeMin r.portRangeMax

def Contains (port : Nat) : Prop := r.portRangeMin ≤ port ∧ port ≤ r.portRangeMax

instance (port : Nat) : Decidable (r.Contains port) := inferInstanceAs (Decidable (_ ∧ _))

/-- A listed port lies in the range, at an even distance from its start. -/
theorem mem_manager {port : Nat} :
    port ∈ r.manager.mRTPPortFreeList ↔ r.Contains port ∧ (port - r.portRangeMin) % 2 = 0 := by
  have hle := r.le
  simp only [manager, RTPPortManager.new, List.mem_range', Contains]
  constructor
  · rintro ⟨i, hi, rfl⟩
    omega
  · rintro ⟨⟨hmin, hmax⟩, heven⟩
    exact ⟨(port - r.portRangeMin) / 2, by omega, by omega⟩

end PortRange

/-- The local ports of a transport, `{ myRtpPort, myRtpPort + rtcpPortIn }`; all of
them are of type `unsigned short`. -/
def localport (port : Nat) : Nat × Nat := (port % 2 ^ 16, (port % 2 ^ 16 + 1) % 2 ^ 16)

/-- The RTP port and the RTCP port of an allocation. -/
def portPair (port : Nat) : List Nat := [port, port + 1]

/-- The pool, with the ports that are allocated and not yet freed. -/
structure PortPool where
  mng : RTPPortManager
  held : List Nat

inductive PortCall where
  | allocateRTPPort
  | freeRTPPort (port : Nat)

namespace PortPool

def start (r : PortRange) : PortPool where
  mng := r.manager
  held := []

/-- A call of the pool; only held ports are freed, and port 0 is no port. -/
def step : Step PortPool PortCall
  | s, .allocateRTPPort =>
      let (port, mng) := s.mng.allocateRTPPort
      some { mng := mng, held := if port = 0 then s.held else s.held ++ [port] }
  | s, .freeRTPPort port =>
      if port ∈ s.held then
        (s.mng.freeRTPPort port).map fun mng => { mng := mng, held := s.held.erase port }
      else none

/-- A port whose RTCP port is the next one, with both in the range. -/
def PairFits (r : PortRange) (port : Nat) : Prop :=
  localport port = (port, port + 1) ∧ r.Contains port ∧ r.Contains (port + 1)

/-- The pairs of the held ports fit into the range, they are disjoint, and the pool
answers 0 only when they fill the range. -/
structure PairsOk (r : PortRange) (s : PortPool) : Prop where
  fits : ∀ port ∈ s.held, PairFits r port
  disjoint : s.held.Pairwise fun p q => (portPair p).Disjoint (portPair q)
  full : s.mng.allocateRTPPort.1 = 0 →
    ∀ x, r.Contains x → ∃ port ∈ s.held, x ∈ portPair port

/-- The port that is allocated next has a next port, in the range and of 16 bits. -/
def Partnered (r : PortRange) (s : PortPool) : PortCall → Prop
  | .allocateRTPPort => ∀ port ∈ s.mng.mRTPPortFreeList.head?,
      port ≠ r.portRangeMax ∧ port + 1 < 2 ^ 16
  | .freeRTPPort _ => True

/-! ### What every history keeps -/

/-- Held and free ports are together the ports that the constructor listed. -/
structure Accounts (r : PortRange) (s : PortPool) : Prop where
  perm : (s.held ++ s.mng.mRTPPortFreeList).Perm r.manager.mRTPPortFreeList
  min : s.mng.mPortRangeMin = r.portRangeMin
  max : s.mng.mPortRangeMax = r.portRangeMax

theorem accounts_start (r : PortRange) : Accounts r (start r) where
  perm := List.Perm.refl _
  min := rfl
  max := rfl

section Accounted

variable {r : PortRange} {s : PortPool} (hs : Accounts r s)

include hs

theorem Accounts.mem {port : Nat} (hmem : port ∈ s.held ++ s.mng.mRTPPortFreeList) :
    r.Contains port ∧ (port - r.portRangeMin) % 2 = 0 :=
  r.mem_manager.mp (hs.perm.mem_iff.mp hmem)

theorem Accounts.nodup : (s.held ++ s.mng.mRTPPortFreeList).Nodup :=
  hs.perm.nodup_iff.mpr (RTPPortManager.nodup_new _ _)

/-- An allocation from a pool that is not empty holds the first free port. -/
theorem Accounts.allocate (hpos : 0 < r.portRangeMin) {port : Nat} {rest : List Nat}
    (hfree : s.mng.mRTPPortFreeList = port :: rest) :
    step s .allocateRTPPort =
      some { mng := { s.mng with mRTPPortFreeList := rest }, held := s.held ++ [port] } := by
  have hne : port ≠ 0 := by
    have hmem : port ∈ s.held ++ s.mng.mRTPPortFreeList := by simp [hfree]
    have hmin := (hs.mem hmem).1.1
    omega
  simp [step, RTPPortManager.allocateRTPPort, hfree, hne]

/-- The steps of a pool: an allocation from the front, an allocation that finds the
pool empty, and the return of a held port to the end. -/
theorem Accounts.step_cases (hpos : 0 < r.portRangeMin) {c : PortCall} {s' : PortPool}
    (hstep : step s c = some s') :
    (∃ port rest, c = .allocateRTPPort ∧ s.mng.mRTPPortFreeList = port :: rest ∧
      s' = { mng := { s.mng with mRTPPortFreeList := rest }, held := s.held ++ [port] }) ∨
    (c = .allocateRTPPort ∧ s.mng.mRTPPortFreeList = [] ∧ s' = s) ∨
    (∃ port ∈ s.held, c = .freeRTPPort port ∧
      s' = { mng := { s.mng with mRTPPortFreeList := s.mng.mRTPPortFreeList ++ [port] },
             held := s.held.erase port }) := by
  cases c with
  | allocateRTPPort =>
      cases hfree : s.mng.mRTPPortFreeList with
      | nil =>
          refine .inr (.inl ⟨rfl, rfl, ?_⟩)
          simpa [step, RTPPortManager.allocateRTPPort, hfree] using hstep.symm
      | cons port rest =>
          rw [hs.allocate hpos hfree] at hstep
          exact .inl ⟨port, rest, rfl, rfl, (Option.some.inj hstep).symm⟩
  | freeRTPPort port =>
      simp only [step] at hstep
      split at hstep
      · rename_i hheld
        obtain ⟨mng, hmng, hs'⟩ := Option.map_eq_some_iff.mp hstep
        rw [RTPPortManager.freeRTPPort_eq hmng] at hs'
        exact .inr (.inr ⟨port, hheld, rfl, hs'.symm⟩)
      · cases hstep

theorem Accounts.step (hpos : 0 < r.portRangeMin) {c : PortCall} {s' : PortPool}
    (hstep : step s c = some s') : Accounts r s' := by
  obtain ⟨port, rest, -, hfree, rfl⟩ | ⟨-, -, rfl⟩ | ⟨port, hheld, -, rfl⟩ :=
    hs.step_cases hpos hstep
  · have hperm := hs.perm
    rw [hfree] at hperm
    refine ⟨?_, hs.min, hs.max⟩
    rw [List.append_assoc]
    exact hperm
  · exact hs
  · refine ⟨?_, hs.min, hs.max⟩
    have hmove : (s.held.erase port ++ (s.mng.mRTPPortFreeList ++ [port])).Perm
        (s.held ++ s.mng.mRTPPortFreeList) := by
      calc s.held.erase port ++ (s.mng.mRTPPortFreeList ++ [port])
          = (s.held.erase port ++ s.mng.mRTPPortFreeList) ++ [port] :=
            (List.append_assoc _ _ _).symm
        List.Perm _ (port :: (s.held.erase port ++ s.mng.mRTPPortFreeList)) :=
            List.perm_append_singleton _ _
        List.Perm _ (s.held ++ s.mng.mRTPPortFreeList) :=
            (List.perm_cons_erase hheld).symm.append_right _
    exact hmove.trans hs.perm

/-- Different ports of the list are at least two apart. -/
theorem Accounts.disjoint :
    s.held.Pairwise fun p q => (portPair p).Disjoint (portPair q) := by
  have hheld : s.held.Nodup := (List.nodup_append.mp hs.nodup).1
  refine hheld.imp_of_mem fun {p q} hp hq hne => ?_
  obtain ⟨⟨hpmin, -⟩, hpeven⟩ := hs.mem (List.mem_append_left _ hp)
  obtain ⟨⟨hqmin, -⟩, hqeven⟩ := hs.mem (List.mem_append_left _ hq)
  intro x hxp hxq
  simp only [portPair, List.mem_cons, List.not_mem_nil, or_false] at hxp hxq
  omega

/-- When the pool is empty, every port of the range belongs to a held pair. -/
theorem Accounts.full (hpos : 0 < r.portRangeMin) (hzero : s.mng.allocateRTPPort.1 = 0)
    {x : Nat} (hx : r.Contains x) : ∃ port ∈ s.held, x ∈ portPair port := by
  have hempty : s.mng.mRTPPortFreeList = [] := by
    cases hfree : s.mng.mRTPPortFreeList with
    | nil => rfl
    | cons port rest =>
        have hmem : port ∈ s.held ++ s.mng.mRTPPortFreeList := by simp [hfree]
        have hmin := (hs.mem hmem).1.1
        rw [RTPPortManager.allocateRTPPort, hfree] at hzero
        change port = 0 at hzero
        omega
  obtain ⟨hmin, hmax⟩ := hx
  have hlisted : x - (x - r.portRangeMin) % 2 ∈ r.manager.mRTPPortFreeList :=
    r.mem_manager.mpr ⟨⟨by omega, by omega⟩, by omega⟩
  rw [← hs.perm.mem_iff, hempty, List.append_nil] at hlisted
  refine ⟨_, hlisted, ?_⟩
  simp only [portPair, List.mem_cons, List.not_mem_nil, or_false]
  omega

theorem Accounts.pairsOk (hpos : 0 < r.portRangeMin) (hfits : ∀ port ∈ s.held, PairFits r port) :
    PairsOk r s where
  fits := hfits
  disjoint := hs.disjoint
  full := fun hzero _ hx => hs.full hpos hzero hx

/-- A listed port fits exactly if it has a partner. -/
theorem Accounts.pairFits_iff {port : Nat} (hmem : port ∈ s.held ++ s.mng.mRTPPortFreeList) :
    PairFits r port ↔ port ≠ r.portRangeMax ∧ port + 1 < 2 ^ 16 := by
  obtain ⟨⟨hmin, hmax⟩, -⟩ := hs.mem hmem
  simp only [PairFits, localport, PortRange.Contains, Prod.mk.injEq]
  omega

end Accounted

/-- A pool that starts at port 0 answers 0 at once. -/
theorem not_pairsOk_start {r : PortRange} (hzero : r.portRangeMin = 0) :
    ¬ PairsOk r (start r) := by
  intro hok
  have hle := r.le
  have hcount : (r.portRangeMax + 2 - r.portRangeMin) / 2 =
      (r.portRangeMax + 2 - r.portRangeMin) / 2 - 1 + 1 := by omega
  have hfirst : (start r).mng.allocateRTPPort.1 = 0 := by
    rw [start, PortRange.manager, RTPPortManager.new, hcount, List.range'_succ, hzero]
    rfl
  obtain ⟨port, hport, -⟩ := hok.full hfirst r.portRangeMin ⟨le_refl _, hle⟩
  exact absurd hport (List.not_mem_nil)

/-- The pairs are in order along a history exactly if the range does not start at 0
and no port without a partner is allocated. -/
theorem along_pairsOk_iff (r : PortRange) (calls : List PortCall) :
    Along step (PairsOk r) (start r) calls ↔
      0 < r.portRangeMin ∧ Guarded step (Partnered r) (start r) calls := by
  by_cases hpos : 0 < r.portRangeMin
  swap
  · constructor
    · exact fun hok => absurd hok.head (not_pairsOk_start (by omega))
    · exact fun hcond => absurd hcond.1 hpos
  have hkeep : Preserves step (Partnered r)
      fun s => Accounts r s ∧ ∀ port ∈ s.held, PairFits r port := by
    rintro s c s' ⟨hs, hfits⟩ hpartner hstep
    refine ⟨hs.step hpos hstep, ?_⟩
    obtain ⟨port, rest, rfl, hfree, rfl⟩ | ⟨-, -, rfl⟩ | ⟨port, hheld, -, rfl⟩ :=
      hs.step_cases hpos hstep
    · intro q hq
      rcases List.mem_append.mp hq with hq | hq
      · exact hfits q hq
      · rw [List.mem_singleton.mp hq]
        exact (hs.pairFits_iff (by simp [hfree])).mpr (hpartner port (by simp [hfree]))
    · exact hfits
    · exact fun q hq => hfits q (List.mem_of_mem_erase hq)
  rw [along_iff_guarded hkeep (fun s hs => hs.1.pairsOk hpos hs.2) ?_
    ⟨accounts_start r, fun _ h => absurd h List.not_mem_nil⟩]
  · exact ⟨fun hg => ⟨hpos, hg⟩, fun hg => hg.2⟩
  -- an allocated port is held afterwards, so it has to fit
  rintro s c s' ⟨hs, -⟩ hstep hok
  obtain ⟨port, rest, rfl, hfree, rfl⟩ | ⟨rfl, hfree, rfl⟩ | ⟨port, -, rfl, -⟩ :=
    hs.step_cases hpos hstep
  · intro q hq
    have hq : q = port := by simpa [hfree, eq_comm] using hq
    rw [hq]
    exact (hs.pairFits_iff (by simp [hfree])).mp (hok.fits port (by simp))
  · intro q hq
    simp [hfree] at hq
  · trivial

/-! ### All histories of a range -/

/-- Allocations alone move the listed ports to the held ones, in their order. -/
theorem exec_allocate {r : PortRange} (hpos : 0 < r.portRangeMin) {s : PortPool}
    (hs : Accounts r s) (ports rest : List Nat) (hfree : s.mng.mRTPPortFreeList = ports ++ rest) :
    exec step s (List.replicate ports.length .allocateRTPPort) =
      some { mng := { s.mng with mRTPPortFreeList := rest }, held := s.held ++ ports } := by
  induction ports generalizing s with
  | nil =>
      rw [List.nil_append] at hfree
      rw [← hfree, List.append_nil]
      rfl
  | cons port ports ih =>
      have hstep := hs.allocate hpos hfree
      rw [List.length_cons, List.replicate_succ, exec_cons, hstep, Option.bind_some,
        ih (hs.step hpos hstep) rfl, List.append_assoc, List.singleton_append]

/-- The last listed port: the end of the range, or the port before it. -/
theorem last_listed (r : PortRange) :
    r.portRangeMax - (r.portRangeMax - r.portRangeMin) % 2 ∈ r.manager.mRTPPortFreeList := by
  have hle := r.le
  exact r.mem_manager.mpr ⟨⟨by omega, by omega⟩, by omega⟩

/-- The pairs are in order in every history exactly for the ranges of 16-bit ports
that have an even number of ports and do not start at 0. -/
theorem forall_along_pairsOk_iff (r : PortRange) :
    (∀ calls, Along step (PairsOk r) (start r) calls) ↔
      0 < r.portRangeMin ∧ (r.portRangeMax - r.portRangeMin) % 2 = 1 ∧
        r.portRangeMax < 2 ^ 16 := by
  constructor
  · intro hall
    have hpos := ((along_pairsOk_iff r []).mp (hall [])).1
    have hrun := exec_allocate hpos (accounts_start r) r.manager.mRTPPortFreeList []
      (List.append_nil _).symm
    have hok := (hall _).exec hrun
    have hlast := last_listed r
    have hfits := hok.fits _ hlast
    have hle := r.le
    simp only [PairFits, localport, PortRange.Contains, Prod.mk.injEq] at hfits
    omega
  · rintro ⟨hpos, hodd, hmax⟩ calls
    refine (along_pairsOk_iff r calls).mpr ⟨hpos, ?_⟩
    have hkeep : Preserves step (fun _ _ => True) (Accounts r) :=
      fun _ _ _ hs _ hstep => hs.step hpos hstep
    refine hkeep.guarded (fun s c hs _ => ?_) (accounts_start r)
      (guarded_of_forall (fun _ _ => trivial) _ _)
    cases c with
    | freeRTPPort port => trivial
    | allocateRTPPort =>
        intro port hport
        obtain ⟨⟨hmin, hle⟩, heven⟩ :=
          hs.mem (List.mem_append_right _ (List.mem_of_head? hport))
        omega

/-- Along a history the pairs are in order as long as the range starts above 0 and
only ports with a partner are allocated; in all histories they are for the ranges of
16-bit ports with an even number of ports that start above 0. -/
theorem port_pairs_iff (r : PortRange) :
    (∀ calls, Along step (PairsOk r) (start r) calls ↔
      0 < r.portRangeMin ∧ Guarded step (Partnered r) (start r) calls) ∧
    ((∀ calls, Along step (PairsOk r) (start r) calls) ↔
      0 < r.portRangeMin ∧ (r.portRangeMax - r.portRangeMin) % 2 = 1 ∧
        r.portRangeMax < 2 ^ 16) :=
  ⟨along_pairsOk_iff r, forall_along_pairsOk_iff r⟩

/-- The default range of the constructor lists port 18000, and its RTCP port is outside. -/
theorem default_range_unpaired :
    ¬ ∀ calls, Along step (PairsOk ⟨17000, 18000, by decide, by decide⟩)
      (start ⟨17000, 18000, by decide, by decide⟩) calls := by
  rw [forall_along_pairsOk_iff]
  decide

end PortPool

end SignalingServer
