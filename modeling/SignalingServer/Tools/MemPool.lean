import Mathlib.Data.List.Basic

/-!
The memory pool of `tools/memPool.h`: two buffers of the same size that are
filled in turn. When the rest of the current buffer is too short for the data
that comes in, writing starts over at the beginning of the other one.
-/

namespace SignalingServer

/-- The two buffers of the pool. -/
inductive PoolHalf
  | buf
  | bm_ptr
deriving DecidableEq, Repr

namespace PoolHalf

def other : PoolHalf → PoolHalf
  | buf => bm_ptr
  | bm_ptr => buf

end PoolHalf

/-- The address of a byte of the pool. -/
structure PoolPtr where
  half : PoolHalf
  pos : Nat
deriving DecidableEq, Repr

/-- What is in the buffers and in the positions before they are written. -/
structure PoolGarbage where
  bytes : PoolHalf → Nat → UInt8
  rPos : Nat
  wPos : Nat
  frPos : Nat
  fwPos : Nat

instance : Inhabited PoolGarbage := ⟨⟨fun _ _ => 0, 0, 0, 0, 0⟩⟩

/-- The members of `avMemPool`. `bytes` is the memory that the buffers point to;
`curBuf` is `none` where the allocation in the constructor failed. -/
structure AvMemPool where
  bytes : PoolHalf → Nat → UInt8
  curBuf : Option PoolHalf
  bufSize : Nat
  rPos : Nat
  wPos : Nat
  frPos : Nat
  fwPos : Nat
  readPtr : Option PoolPtr
  readSize : Nat

namespace AvMemPool

/-- `avMemPool(size)`. The buffers are not initialised, and where an allocation fails, the
positions are not either. -/
def new (size : Nat) (allocated : Bool) (garbage : PoolGarbage) : AvMemPool where
  bytes := garbage.bytes
  curBuf := if allocated then some .buf else none
  bufSize := if size = 0 then 1024 * 1024 * 1 else size
  rPos := if allocated then 0 else garbage.rPos
  wPos := if allocated then 0 else garbage.wPos
  frPos := if allocated then 0 else garbage.frPos
  fwPos := if allocated then 0 else garbage.fwPos
  readPtr := none
  readSize := 0

/-- `memcpy(curBuf + wPos, data, size)` with the assignments around it. -/
def copyData (p : AvMemPool) (cur : PoolHalf) (data : List UInt8) : AvMemPool :=
  { p with
    readPtr := some ⟨cur, p.wPos⟩
    readSize := data.length
    bytes := fun half pos =>
      if half = cur ∧ p.wPos ≤ pos then (data[pos - p.wPos]?).getD (p.bytes half pos)
      else p.bytes half pos
    wPos := p.wPos + data.length }

/-- The other buffer becomes the current one. -/
def switchBuf (p : AvMemPool) (cur : PoolHalf) : AvMemPool :=
  { p with
    frPos := if p.wPos ≠ p.rPos then p.rPos else p.frPos
    fwPos := if p.wPos ≠ p.rPos then p.wPos else p.fwPos
    wPos := 0
    rPos := 0
    curBuf := some cur.other }

/-- Where `wirteData` copies `size` bytes to, and the pool just before the copy. -/
def place (p : AvMemPool) (cur : PoolHalf) (size : Nat) : PoolHalf × AvMemPool :=
  if size ≤ p.bufSize - p.wPos then (cur, p) else (cur.other, p.switchBuf cur)

/-- `wirteData` up to its call of `Init`; `none` where it returns -1. Its call of
itself after the switch of buffers finds an empty buffer and copies there. -/
def wirteData (p : AvMemPool) : Option (List UInt8) → Option AvMemPool
  | none => none
  | some data =>
      if p.bufSize < data.length then none
      else
        match p.curBuf with
        | none => none
        | some cur =>
            some ((p.place cur data.length).2.copyData (p.place cur data.length).1 data)

/-- `wirteData` with its call of itself; `none` where `fuel` calls are not enough. -/
def wirteDataCalls : Nat → AvMemPool → List UInt8 → Option (Option AvMemPool)
  | 0, _, _ => none
  | fuel + 1, p, data =>
      if p.bufSize < data.length then some none
      else
        match p.curBuf with
        | none => some none
        | some cur =>
            if data.length ≤ p.bufSize - p.wPos then some (some (p.copyData cur data))
            else wirteDataCalls fuel (p.switchBuf cur) data

/-- The `size` bytes from an address on. -/
def read (p : AvMemPool) (ptr : PoolPtr) (size : Nat) : List UInt8 :=
  (List.range size).map fun i => p.bytes ptr.half (ptr.pos + i)

@[simp] theorem place_bytes (p : AvMemPool) (cur : PoolHalf) (size : Nat) :
    (p.place cur size).2.bytes = p.bytes := by
  rw [place]
  split <;> rfl

@[simp] theorem length_read (p : AvMemPool) (ptr : PoolPtr) (size : Nat) :
    (p.read ptr size).length = size := by
  rw [read, List.length_map, List.length_range]

theorem read_eq_iff {p p' : AvMemPool} {ptr : PoolPtr} {size : Nat} :
    p'.read ptr size = p.read ptr size ↔
      ∀ i < size, p'.bytes ptr.half (ptr.pos + i) = p.bytes ptr.half (ptr.pos + i) := by
  rw [read, read, List.map_inj_left]
  simp only [List.mem_range]

/-- A part of the data that was just copied is read back as it was. -/
theorem read_copyData (p : AvMemPool) (cur : PoolHalf) (data : List UInt8) (off size : Nat)
    (hsize : off + size ≤ data.length) :
    (p.copyData cur data).read ⟨cur, p.wPos + off⟩ size = (data.drop off).take size := by
  apply List.ext_getElem?
  intro i
  by_cases hi : i < size
  · have hdata : off + i < data.length := by omega
    rw [read, List.getElem?_map, List.getElem?_range hi, List.getElem?_take_of_lt hi,
      List.getElem?_drop, List.getElem?_eq_getElem hdata]
    have hpos : p.wPos ≤ p.wPos + off + i := by omega
    have hcopied : (p.copyData cur data).bytes cur (p.wPos + off + i) = _ :=
      if_pos ⟨rfl, hpos⟩
    rw [Option.map_some, hcopied, show p.wPos + off + i - p.wPos = off + i by omega,
      List.getElem?_eq_getElem hdata, Option.getD_some]
  · rw [List.getElem?_eq_none (by rw [length_read]; omega),
      List.getElem?_eq_none (by rw [List.length_take]; omega)]

/-- The data that a successful write has put into the pool. -/
theorem read_wirteData {p p' : AvMemPool} {data : List UInt8}
    (h : p.wirteData (some data) = some p') :
    ∃ ptr, p'.readPtr = some ptr ∧ p'.readSize = data.length ∧
      ∀ off size, off + size ≤ data.length →
        p'.read ⟨ptr.half, ptr.pos + off⟩ size = (data.drop off).take size := by
  rw [wirteData] at h
  split at h
  · cases h
  · cases hcur : p.curBuf with
    | none =>
        rw [hcur] at h
        cases h
    | some cur =>
      rw [hcur] at h
      cases h
      exact ⟨⟨(p.place cur data.length).1, (p.place cur data.length).2.wPos⟩, rfl, rfl,
        read_copyData _ _ data⟩

/-- `wirteData` calls itself once at most. -/
theorem wirteDataCalls_two (p : AvMemPool) (data : List UInt8) :
    p.wirteDataCalls 2 data = some (p.wirteData (some data)) := by
  rw [wirteDataCalls, wirteData]
  split
  · rfl
  · rename_i hsize
    cases hcur : p.curBuf with
    | none => rfl
    | some cur =>
        dsimp only
        rw [place]
        split
        · rfl
        · -- the buffer that the call of itself finds is empty
          rw [wirteDataCalls]
          exact (if_neg hsize).trans (if_pos (Nat.le_of_not_lt hsize))

theorem wirteData_eq_none_iff {p : AvMemPool} {data : List UInt8} :
    p.wirteData (some data) = none ↔ p.bufSize < data.length ∨ p.curBuf = none := by
  rw [wirteData]
  split
  · rename_i hsize
    exact iff_of_true rfl (.inl hsize)
  · rename_i hsize
    cases p.curBuf with
    | none => exact iff_of_true rfl (.inr rfl)
    | some cur =>
        refine iff_of_false (Option.some_ne_none _) ?_
        rintro (hlarge | hnone)
        · exact hsize hlarge
        · cases hnone

/-- What a write of `size` bytes leaves: they stand from `ptr` to `wPos` in the current half,
behind the old ones or at the beginning of a half. -/
structure Written (p : AvMemPool) (size : Nat) (p' : AvMemPool) (ptr : PoolPtr) : Prop where
  readPtr : p'.readPtr = some ptr
  readSize : p'.readSize = size
  curBuf : p'.curBuf = some ptr.half
  bufSize : p'.bufSize = p.bufSize
  inside : ptr.pos + size ≤ p.bufSize
  wPos : p'.wPos = ptr.pos + size
  rPos : (ptr.pos = p.wPos ∧ p'.rPos = p.rPos) ∨ (ptr.pos = 0 ∧ p'.rPos = 0)

theorem written_wirteData {p p' : AvMemPool} {data : List UInt8} (hw : p.wPos ≤ p.bufSize)
    (h : p.wirteData (some data) = some p') : ∃ ptr, Written p data.length p' ptr := by
  rw [wirteData] at h
  split at h
  · cases h
  · rename_i hsize
    cases hcur : p.curBuf with
    | none =>
        rw [hcur] at h
        cases h
    | some cur =>
        rw [hcur] at h
        dsimp only at h
        rw [place] at h
        split at h
        · rename_i hroom
          obtain rfl := Option.some.inj h
          exact ⟨⟨cur, p.wPos⟩, rfl, rfl, hcur, rfl, by dsimp only; omega, rfl, .inl ⟨rfl, rfl⟩⟩
        · obtain rfl := Option.some.inj h
          exact ⟨⟨cur.other, 0⟩, rfl, rfl, rfl, rfl, by dsimp only; omega, rfl, .inr ⟨rfl, rfl⟩⟩

end AvMemPool

end SignalingServer
