import SignalingServer.Media.VideoNalu

/-!
Annex-B streams: NAL units behind start codes of three or four bytes, and how the functions of
`media/videoNalu.hpp` go through them. A search that starts behind the first four bytes of a unit
ends at the next one.
-/

namespace SignalingServer

namespace VideoNalu

/-- A NAL unit as it stands in a stream, with the length of the start code before it. -/
structure NalUnit where
  long : Bool
  header : UInt8
  payload : List UInt8
deriving DecidableEq, Repr

namespace NalUnit

def startCode (u : NalUnit) : List UInt8 := if u.long then [0, 0, 0, 1] else [0, 0, 1]

/-- The unit itself. -/
def nal (u : NalUnit) : List UInt8 := u.header :: u.payload

def encode (u : NalUnit) : List UInt8 := u.startCode ++ u.nal

/-- What stands behind the first four bytes. -/
def behind (u : NalUnit) : List UInt8 := if u.long then u.nal else u.payload

/-- The parameter sets of H.264. -/
def isSet264 (u : NalUnit) : Bool := h264Nal u.header == NAL_SPS || h264Nal u.header == NAL_PPS

/-- The parameter sets of H.265. -/
def isSet265 (u : NalUnit) : Bool :=
  h265Nal u.header == NAL_SPS_5 || h265Nal u.header == NAL_PPS_5 || h265Nal u.header == NAL_VPS

theorem length_startCode (u : NalUnit) : u.startCode.length = if u.long then 4 else 3 := by
  unfold startCode
  split
  · rfl
  · rfl

theorem length_encode (u : NalUnit) : u.encode.length = 4 + u.behind.length := by
  unfold encode behind
  rw [List.length_append, length_startCode]
  split
  · rfl
  · rw [nal, List.length_cons]
    omega

end NalUnit

def stream : List NalUnit → List UInt8
  | [] => []
  | u :: us => u.encode ++ stream us

theorem stream_append (us vs : List NalUnit) : stream (us ++ vs) = stream us ++ stream vs := by
  induction us with
  | nil => rfl
  | cons u us ih => rw [List.cons_append, stream, stream, ih, List.append_assoc]

/-- A start code stands at the beginning. -/
def BeginsCode (bs : List UInt8) : Prop := [0, 0, 1] <+: bs ∨ [0, 0, 0, 1] <+: bs

instance (bs : List UInt8) : Decidable (BeginsCode bs) := inferInstanceAs (Decidable (_ ∨ _))

/-- No start code begins in `bs`, where `rest` stands behind it. -/
def NoCode : List UInt8 → List UInt8 → Prop
  | [], _ => True
  | b :: bs, rest => ¬ BeginsCode (b :: bs ++ rest) ∧ NoCode bs rest

instance decidableNoCode : ∀ bs rest, Decidable (NoCode bs rest)
  | [], _ => isTrue trivial
  | b :: bs, rest =>
      let _ := decidableNoCode bs rest
      inferInstanceAs (Decidable (¬ BeginsCode (b :: bs ++ rest) ∧ NoCode bs rest))

/-- A type that `h264_nal_new_access` takes for a slice. -/
def IsSlice (t : Nat) : Prop := 1 ≤ t ∧ t ≤ 5

instance (t : Nat) : Decidable (IsSlice t) := inferInstanceAs (Decidable (_ ∧ _))

/-- No unit contains a start code, and every slice has a byte behind its header. -/
def WellFormed : List NalUnit → Prop
  | [] => True
  | u :: us =>
      NoCode u.nal (stream us) ∧ (IsSlice (h264Nal u.header) → u.payload ≠ []) ∧ WellFormed us

instance decidableWellFormed : ∀ us, Decidable (WellFormed us)
  | [] => isTrue trivial
  | u :: us =>
      let _ := decidableWellFormed us
      inferInstanceAs (Decidable (NoCode u.nal (stream us) ∧
        (IsSlice (h264Nal u.header) → u.payload ≠ []) ∧ WellFormed us))

/-- Whether the units that follow start a new access unit: at the end of the stream, with a unit
that is no slice, or with the first slice of a picture. -/
def newAccess : List NalUnit → Bool
  | [] => true
  | v :: _ =>
      if IsSlice (h264Nal v.header) then v.payload.head?.any fun b => b &&& 0x80 != 0 else true

/-! ### Searching -/

/-- The bytes from `p` on are these. -/
def Holds (byte : Nat → UInt8) (p : Nat) (bs : List UInt8) : Prop :=
  ∀ i b, bs[i]? = some b → byte (p + i) = b

section

variable {byte : Nat → UInt8} {p ptr stop : Nat} {bs cs : List UInt8} {b : UInt8}

theorem Holds.append (h : Holds byte p (bs ++ cs)) :
    Holds byte p bs ∧ Holds byte (p + bs.length) cs := by
  constructor
  · intro i b hb
    have hlt := (List.getElem?_eq_some_iff.mp hb).1
    exact h i b ((List.getElem?_append_left hlt).trans hb)
  · intro i b hb
    rw [Nat.add_assoc]
    apply h (bs.length + i) b
    rw [List.getElem?_append_right (Nat.le_add_right _ _), Nat.add_sub_cancel_left]
    exact hb

theorem Holds.head (h : Holds byte p (b :: bs)) : byte p = b := h 0 b rfl

theorem Holds.tail (h : Holds byte p (b :: bs)) : Holds byte (p + 1) bs :=
  have happend : Holds byte p ([b] ++ bs) := h
  happend.append.2

theorem Holds.beginsCode_of_isStartCode (h : Holds byte p bs) (hlen : 4 ≤ bs.length)
    (hcode : isStartCode byte p = true) : BeginsCode bs := by
  match bs, hlen with
  | b₀ :: b₁ :: b₂ :: b₃ :: bs, _ =>
    have h₀ := h 0 b₀ rfl
    have h₁ := h 1 b₁ rfl
    have h₂ := h 2 b₂ rfl
    have h₃ := h 3 b₃ rfl
    unfold isStartCode at hcode
    rw [show byte p = b₀ from h₀, h₁, h₂, h₃] at hcode
    simp only [Bool.and_eq_true, Bool.or_eq_true, beq_iff_eq] at hcode
    obtain ⟨⟨rfl, rfl⟩, rfl | ⟨rfl, rfl⟩⟩ := hcode
    · exact .inl ⟨b₃ :: bs, rfl⟩
    · exact .inr ⟨bs, rfl⟩

theorem Holds.isStartCode {u : NalUnit} (h : Holds byte p (u.encode ++ bs)) :
    isStartCode byte p = true := by
  unfold VideoNalu.isStartCode
  unfold NalUnit.encode NalUnit.startCode at h
  split at h
  · rw [show byte p = 0 from h 0 0 rfl, h 1 0 rfl, h 2 0 rfl, h 3 1 rfl]
    rfl
  · rw [show byte p = 0 from h 0 0 rfl, h 1 0 rfl, h 2 1 rfl]
    rfl

theorem searchStartCode_of_short (h : stop ≤ ptr + 3) : searchStartCode byte ptr stop = stop := by
  rw [searchStartCode, show stop - 3 - ptr = 0 by omega]
  rfl

theorem searchStartCode_step (h : ptr + 3 < stop) :
    searchStartCode byte ptr stop =
      if isStartCode byte ptr then ptr else searchStartCode byte (ptr + 1) stop := by
  obtain ⟨n, hn⟩ : ∃ n, stop - 3 - ptr = n + 1 := ⟨stop - 3 - ptr - 1, by omega⟩
  rw [searchStartCode, hn, List.range'_succ, List.find?_cons]
  cases VideoNalu.isStartCode byte ptr with
  | true => rfl
  | false =>
      rw [if_neg Bool.false_ne_true, searchStartCode, show stop - 3 - (ptr + 1) = n by omega]

/-- Bytes in which no start code begins are skipped. -/
theorem search_stream (units : List NalUnit) (skip : List UInt8)
    (h : Holds byte ptr (skip ++ stream units)) (hno : NoCode skip (stream units)) :
    searchStartCode byte ptr (ptr + (skip ++ stream units).length) = ptr + skip.length := by
  induction skip generalizing ptr with
  | nil =>
      cases units with
      | nil => exact searchStartCode_of_short (Nat.le_add_right ptr 3)
      | cons u us =>
          have hlen := u.length_encode
          rw [searchStartCode_step, if_pos (Holds.isStartCode h)]
          · rfl
          · rw [List.nil_append, stream, List.length_append]
            omega
  | cons b skip ih =>
      have hstop : ptr + (b :: skip ++ stream units).length =
          ptr + 1 + (skip ++ stream units).length := by
        rw [List.cons_append, List.length_cons]
        omega
      by_cases hmore : ptr + 3 < ptr + (b :: skip ++ stream units).length
      · have hnot : ¬ VideoNalu.isStartCode byte ptr = true := fun hcode =>
          hno.1 (h.beginsCode_of_isStartCode (by omega) hcode)
        rw [searchStartCode_step hmore, if_neg hnot, hstop, ih h.tail hno.2, List.length_cons]
        omega
      · rw [searchStartCode_of_short (Nat.le_of_not_lt hmore)]
        -- a unit has four bytes, so that none follows
        cases units with
        | nil => rw [stream, List.append_nil]
        | cons u us =>
            have hlen := u.length_encode
            rw [stream] at hmore
            simp only [List.cons_append, List.length_cons, List.length_append] at hmore
            omega

/-! ### At a unit -/

variable {u : NalUnit} {us : List NalUnit}

theorem NalUnit.encode_eq (u : NalUnit) :
    ∃ front, front.length = 4 ∧ u.encode = front ++ u.behind := by
  unfold encode startCode behind nal
  split
  · exact ⟨[0, 0, 0, 1], rfl, rfl⟩
  · exact ⟨[0, 0, 1, u.header], rfl, rfl⟩

/-- The search from behind the first four bytes of a unit ends at the next unit. -/
theorem search_next (h : Holds byte p (stream (u :: us))) (hw : WellFormed (u :: us)) :
    searchStartCode byte (p + 4) (p + (stream (u :: us)).length) = p + u.encode.length ∧
      Holds byte (p + u.encode.length) (stream us) := by
  have happend : Holds byte p (u.encode ++ stream us) := h
  have hrest := happend.append.2
  obtain ⟨front, hfront, hencode⟩ := u.encode_eq
  rw [stream, hencode, List.append_assoc] at h
  have hbehind := h.append.2
  have hno : NoCode u.behind (stream us) := by
    unfold NalUnit.behind
    split
    · exact hw.1
    · exact hw.1.2
  have hsearch := search_stream us u.behind hbehind hno
  rw [hfront] at hsearch
  refine ⟨?_, hrest⟩
  rw [u.length_encode, ← Nat.add_assoc, ← hsearch, stream, hencode, List.append_assoc,
    List.length_append, hfront, Nat.add_assoc]

theorem Holds.startCodeEnd (h : Holds byte p (u.encode ++ bs)) :
    startCodeEnd byte p = p + u.startCode.length ∧
      (byte (p + 2) == 1) = !u.long ∧ Holds byte (p + u.startCode.length) (u.nal ++ bs) := by
  rw [NalUnit.encode, List.append_assoc] at h
  refine ⟨?_, ?_, h.append.2⟩
  · rw [VideoNalu.startCodeEnd, u.length_startCode]
    unfold NalUnit.startCode at h
    split at h
    · rename_i hlong
      rw [h 2 0 rfl, if_pos hlong]
      rfl
    · rename_i hshort
      rw [h 2 1 rfl, if_neg hshort]
      rfl
  · unfold NalUnit.startCode at h
    split at h
    · rename_i hlong
      rw [h 2 0 rfl, hlong]
      rfl
    · rename_i hshort
      rw [h 2 1 rfl, Bool.not_eq_true] at *
      rw [hshort]
      rfl

theorem Holds.nalType (h : Holds byte p (u.encode ++ bs)) :
    h264NalType byte p = h264Nal u.header ∧ h265NalType byte p = h265Nal u.header := by
  obtain ⟨hend, -, hnal⟩ := h.startCodeEnd
  have hheader : byte (VideoNalu.startCodeEnd byte p) = u.header := by
    rw [hend]
    exact hnal.head
  rw [h264NalType, h265NalType, hheader]
  exact ⟨rfl, rfl⟩

theorem h264NalNewAccess_eq (us : List NalUnit) (h : Holds byte p (stream us))
    (hw : WellFormed us) :
    h264NalNewAccess byte p (p + (stream us).length) = newAccess us := by
  cases us with
  | nil => exact if_pos (by rw [stream, List.length_nil]; omega)
  | cons v us =>
      have hlen := v.length_encode
      have hall : (stream (v :: us)).length = v.encode.length + (stream us).length := by
        rw [stream, List.length_append]
      obtain ⟨hend, -, hnal⟩ := Holds.startCodeEnd h
      rw [h264NalNewAccess, if_neg (by omega), (Holds.nalType h).1, newAccess]
      by_cases hslice : IsSlice (h264Nal v.header)
      · have hneither :
            ¬ (decide (h264Nal v.header < 1) || decide (h264Nal v.header > 5)) = true := by
          rw [Bool.or_eq_true, decide_eq_true_eq, decide_eq_true_eq]
          unfold IsSlice at hslice
          omega
        rw [if_neg hneither, if_pos hslice]
        cases hpayload : v.payload with
        | nil => exact absurd hpayload (hw.2.1 hslice)
        | cons b payload =>
            have hinside :
                ¬ VideoNalu.startCodeEnd byte p + 1 > p + (stream (v :: us)).length := by
              rw [hend, hall, NalUnit.encode, List.length_append, NalUnit.nal, List.length_cons]
              omega
            rw [NalUnit.nal, hpayload] at hnal
            rw [if_neg hinside, hend, hnal 1 b rfl]
            rfl
      · have heither :
            (decide (h264Nal v.header < 1) || decide (h264Nal v.header > 5)) = true := by
          rw [Bool.or_eq_true, decide_eq_true_eq, decide_eq_true_eq]
          unfold IsSlice at hslice
          omega
        rw [if_pos heither, if_neg hslice]

/-- The bytes that are read are those of the memory. -/
theorem Holds.of_read {size : Nat} {data : List UInt8}
    (h : (List.range size).map (fun i => byte (p + i)) = data) :
    Holds byte p data ∧ size = data.length := by
  subst h
  refine ⟨fun i b hb => ?_, by rw [List.length_map, List.length_range]⟩
  rw [List.getElem?_map] at hb
  obtain ⟨j, hj, rfl⟩ := Option.map_eq_some_iff.mp hb
  obtain ⟨hlt, rfl⟩ := List.getElem?_eq_some_iff.mp hj
  rw [List.getElem_range]

/-- The units of a stream are no more than its bytes. -/
theorem length_le_stream (us : List NalUnit) : us.length ≤ (stream us).length := by
  induction us with
  | nil => exact Nat.le_refl 0
  | cons u us ih =>
      have hlen := u.length_encode
      rw [stream, List.length_append, List.length_cons]
      omega

/-- The bytes from `p` to `stop` are NAL units. -/
structure AtUnits (byte : Nat → UInt8) (p stop : Nat) (units : List NalUnit) : Prop where
  holds : Holds byte p (stream units)
  wellFormed : WellFormed units
  stop : stop = p + (stream units).length

/-- The search for the first start code comes to the first unit. -/
theorem atUnits_search {lead : List UInt8} {units : List NalUnit}
    (h : Holds byte ptr (lead ++ stream units)) (hlead : NoCode lead (stream units))
    (hw : WellFormed units) :
    searchStartCode byte ptr (ptr + (lead ++ stream units).length) = ptr + lead.length ∧
      AtUnits byte (ptr + lead.length) (ptr + (lead ++ stream units).length) units :=
  ⟨search_stream units lead h hlead, h.append.2, hw, by rw [List.length_append, Nat.add_assoc]⟩

theorem AtUnits.lt (h : AtUnits byte p stop (u :: us)) : p < stop := by
  have hstop := h.stop
  have hlen := u.length_encode
  rw [stream, List.length_append] at hstop
  omega

theorem AtUnits.not_lt (h : AtUnits byte p stop []) : ¬ p < stop := by
  rw [h.stop]
  exact Nat.lt_irrefl _

theorem AtUnits.next (h : AtUnits byte p stop (u :: us)) :
    AtUnits byte (p + u.encode.length) stop us :=
  ⟨(search_next h.holds h.wellFormed).2, h.wellFormed.2.2,
    by rw [h.stop, stream, List.length_append, Nat.add_assoc]⟩

/-- What the calls of a round give at a NAL unit. -/
theorem AtUnits.calls (h : AtUnits byte p stop (u :: us)) :
    searchStartCode byte (p + 4) stop = p + u.encode.length ∧
      h264NalType byte p = h264Nal u.header ∧ h265NalType byte p = h265Nal u.header ∧
      h264NalNewAccess byte (p + u.encode.length) stop = newAccess us := by
  obtain ⟨htype, htype'⟩ := Holds.nalType h.holds
  refine ⟨?_, htype, htype', ?_⟩
  · rw [h.stop]
    exact (search_next h.holds h.wellFormed).1
  · rw [h.next.stop]
    exact h264NalNewAccess_eq us h.next.holds h.next.wellFormed

end

end VideoNalu

end SignalingServer
