import Mathlib.Data.List.Range

/-!
The pool of RTP ports (RtpPortManager.cpp): a free list that is taken from at
the front and given back to at the end.
-/

namespace SignalingServer

structure RTPPortManager where
  mPortRangeMin : Nat
  mPortRangeMax : Nat
  mRTPPortFreeList : List Nat
  deriving DecidableEq, Repr

namespace RTPPortManager

/-- The constructor lists every second port of the range. -/
def new (portRangeMin portRangeMax : Nat) : RTPPortManager where
  mPortRangeMin := portRangeMin
  mPortRangeMax := portRangeMax
  mRTPPortFreeList := List.range' portRangeMin ((portRangeMax + 2 - portRangeMin) / 2) 2

/-- Port 0 stands for an empty pool. -/
def allocateRTPPort (m : RTPPortManager) : Nat × RTPPortManager :=
  match m.mRTPPortFreeList with
  | [] => (0, m)
  | port :: rest => (port, { m with mRTPPortFreeList := rest })

/-- `none` where the assertion on the range fails. -/
def freeRTPPort (m : RTPPortManager) (port : Nat) : Option RTPPortManager :=
  if m.mPortRangeMin ≤ port ∧ port ≤ m.mPortRangeMax then
    some { m with mRTPPortFreeList := m.mRTPPortFreeList ++ [port] }
  else none

theorem freeRTPPort_eq {m m' : RTPPortManager} {port : Nat} (h : m.freeRTPPort port = some m') :
    m' = { m with mRTPPortFreeList := m.mRTPPortFreeList ++ [port] } := by
  unfold freeRTPPort at h
  split at h
  · exact (Option.some.inj h).symm
  · cases h

theorem nodup_new (portRangeMin portRangeMax : Nat) :
    (new portRangeMin portRangeMax).mRTPPortFreeList.Nodup :=
  List.nodup_range' _

end RTPPortManager

end SignalingServer
