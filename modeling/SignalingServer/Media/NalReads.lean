import SignalingServer.Media.AnnexB
import SignalingServer.Media.ReaderQueue

/-!
The reads of `media/videoNalu.hpp` in a buffer, with its asserts. A pointer into the buffer is the
list of the bytes from there to the end, so that `ptr[i]` is inside where the list has an element
`i`; `none` is a read behind the end or an assert that fails.
-/

namespace SignalingServer

namespace NalReads

open VideoNalu

/-! ### The functions -/

/-- The test of `search_start_code`. -/
def isStartCode (p : List UInt8) : Option Bool :=
  p[0]?.bind fun b₀ =>
    if b₀ ≠ 0 then some false
    else p[1]?.bind fun b₁ =>
      if b₁ ≠ 0 then some false
      else p[2]?.bind fun b₂ =>
        if b₂ = 1 then some true
        else if b₂ ≠ 0 then some false
        else p[3]?.map fun b₃ => b₃ == 1

/-- `search_start_code`. -/
def searchStartCode : List UInt8 → Option (List UInt8)
  | [] => some []
  | b :: p =>
      if 3 < (b :: p).length then
        (isStartCode (b :: p)).bind fun found => if found then some (b :: p) else searchStartCode p
      else some []

/-- `i` in `h264_nal_type`, `h265_nal_type` and `h264_nal_new_access` behind their asserts. -/
def codeIndex (ptr : List UInt8) : Option Nat :=
  ptr[0]?.bind fun b₀ =>
    if b₀ ≠ 0 then none
    else ptr[1]?.bind fun b₁ =>
      if b₁ ≠ 0 then none
      else ptr[2]?.bind fun b₂ =>
        let i := if b₂ = 0 then 3 else 2
        ptr[i]?.bind fun b => if b = 1 then some i else none

/-- `h264_nal_type`. -/
def h264NalType (ptr : List UInt8) : Option Nat :=
  (codeIndex ptr).bind fun i => ptr[i + 1]?.map h264Nal

/-- `h265_nal_type`. -/
def h265NalType (ptr : List UInt8) : Option Nat :=
  (codeIndex ptr).bind fun i => ptr[i + 1]?.map h265Nal

/-- `h264_nal_new_access`. -/
def h264NalNewAccess (ptr : List UInt8) : Option Bool :=
  if ptr.length < 4 then some true
  else
    (codeIndex ptr).bind fun i =>
      ptr[i + 1]?.bind fun v =>
        if h264Nal v < 1 ∨ h264Nal v > 5 then some true
        else if i + 2 > ptr.length then some true
        else ptr[i + 2]?.map fun b => b &&& 0x80 != 0

/-- The calls in the loop of `Init264`, with its own assert. -/
def walk264 : Nat → List UInt8 → Option Unit
  | 0, p => if p = [] then some () else none
  | fuel + 1, p =>
      if p = [] then some ()
      else
        (searchStartCode (p.drop 4)).bind fun pn =>
          (h264NalType p).bind fun nal_unit_type =>
            if nal_unit_type = 0 then none
            else if nal_unit_type ≤ 5 then
              (h264NalNewAccess pn).bind fun _ => walk264 fuel pn
            else walk264 fuel pn

/-- The calls in the loop of `Init265`. -/
def walk265 : Nat → List UInt8 → Option Unit
  | 0, p => if p = [] then some () else none
  | fuel + 1, p =>
      if p = [] then some ()
      else
        (searchStartCode (p.drop 4)).bind fun pn =>
          (h265NalType p).bind fun _ => walk265 fuel pn

/-- The calls of `Init264` and `Init265` on a buffer. -/
def scan (c : ReaderCodec) (data : List UInt8) : Option Unit :=
  (searchStartCode data).bind fun nalu =>
    match c with
    | .h264 => walk264 data.length nalu
    | .h265 => walk265 data.length nalu

/-! ### The start codes of a buffer -/

/-- The first start code with a byte behind it (in the case of four bytes, also without one). -/
def nextCode : List UInt8 → List UInt8
  | [] => []
  | b :: p => if 4 ≤ (b :: p).length ∧ BeginsCode (b :: p) then b :: p else nextCode p

/-- The start codes of a buffer, each looked for from behind the first four bytes of the one
before it. -/
def codes : Nat → List UInt8 → List (List UInt8)
  | 0, _ => []
  | fuel + 1, p =>
      if nextCode p = [] then [] else nextCode p :: codes fuel ((nextCode p).drop 4)

/-- The header of a NAL unit: the byte behind the start code. -/
def header? (p : List UInt8) : Option UInt8 := if [0, 0, 1] <+: p then p[3]? else p[4]?

/-- The byte behind the header. -/
def payload? (p : List UInt8) : Option UInt8 := if [0, 0, 1] <+: p then p[4]? else p[5]?

/-- Every NAL unit has a header with a type other than 0, and a slice behind a unit of type up to
5 has a byte behind its header. -/
def Sound264 : List (List UInt8) → Prop
  | [] => True
  | p :: ps =>
      (∃ v, header? p = some v ∧ h264Nal v ≠ 0 ∧
        (h264Nal v ≤ 5 → ∀ q ∈ ps.head?, ∀ w ∈ header? q, IsSlice (h264Nal w) →
          (payload? q).isSome)) ∧
        Sound264 ps

/-- The buffers of which all reads are inside. -/
def Sound (c : ReaderCodec) (data : List UInt8) : Prop :=
  match c with
  | .h264 => Sound264 (codes data.length data)
  | .h265 => ∀ p ∈ codes data.length data, (header? p).isSome

/-- A place that the search comes to. -/
def Found (p : List UInt8) : Prop := 4 ≤ p.length ∧ BeginsCode p

section

variable {p : List UInt8}

theorem nextCode_cases (p : List UInt8) : nextCode p = [] ∨ Found (nextCode p) := by
  induction p with
  | nil => exact .inl rfl
  | cons b p ih =>
      rw [nextCode]
      split
      · rename_i hfound
        exact .inr hfound
      · exact ih

theorem nextCode_length (p : List UInt8) : (nextCode p).length ≤ p.length := by
  induction p with
  | nil => exact Nat.le_refl 0
  | cons b p ih =>
      rw [nextCode]
      split
      · exact Nat.le_refl _
      · exact Nat.le_succ_of_le ih

theorem isStartCode_eq (h : 4 ≤ p.length) : isStartCode p = some (decide (BeginsCode p)) := by
  match p, h with
  | b₀ :: b₁ :: b₂ :: b₃ :: bs, _ =>
    have hcode : BeginsCode (b₀ :: b₁ :: b₂ :: b₃ :: bs) ↔
        b₀ = 0 ∧ b₁ = 0 ∧ (b₂ = 1 ∨ (b₂ = 0 ∧ b₃ = 1)) := by
      unfold BeginsCode
      simp only [List.cons_prefix_cons, List.nil_prefix, and_true]
      constructor
      · rintro (⟨h₀, h₁, h₂⟩ | ⟨h₀, h₁, h₂, h₃⟩)
        · exact ⟨h₀.symm, h₁.symm, .inl h₂.symm⟩
        · exact ⟨h₀.symm, h₁.symm, .inr ⟨h₂.symm, h₃.symm⟩⟩
      · rintro ⟨rfl, rfl, rfl | ⟨rfl, rfl⟩⟩
        · exact .inl ⟨rfl, rfl, rfl⟩
        · exact .inr ⟨rfl, rfl, rfl, rfl⟩
    simp only [hcode]
    unfold isStartCode
    simp only [List.getElem?_cons_zero, List.getElem?_cons_succ, Option.bind_some,
      Option.map_some]
    by_cases h₀ : b₀ = 0
    · by_cases h₁ : b₁ = 0
      · by_cases h₂ : b₂ = 1
        · simp [h₀, h₁, h₂]
        · by_cases h₂' : b₂ = 0
          · simp [h₀, h₁, h₂', beq_eq_decide]
          · simp [h₀, h₁, h₂, h₂']
      · simp [h₀, h₁]
    · simp [h₀]

/-- The search never reads behind the end. -/
theorem searchStartCode_eq (p : List UInt8) : searchStartCode p = some (nextCode p) := by
  induction p with
  | nil => rfl
  | cons b p ih =>
      rw [searchStartCode, nextCode]
      by_cases hlen : 3 < (b :: p).length
      · rw [if_pos hlen, isStartCode_eq hlen, Option.bind_some]
        by_cases hcode : BeginsCode (b :: p)
        · rw [decide_eq_true hcode, if_pos rfl, if_pos ⟨hlen, hcode⟩]
        · rw [decide_eq_false hcode, if_neg Bool.false_ne_true, if_neg fun h => hcode h.2]
          exact ih
      · rw [if_neg hlen, if_neg fun h => hlen h.1]
        rcases nextCode_cases p with hnil | hfound
        · rw [hnil]
        · have hle := nextCode_length p
          have hfour := hfound.1
          rw [List.length_cons] at hlen
          omega

/-- At a start code the asserts hold. -/
theorem Found.codeIndex (h : Found p) :
    codeIndex p = some (if [0, 0, 1] <+: p then 2 else 3) := by
  obtain ⟨hlen, ⟨bs, rfl⟩ | ⟨bs, rfl⟩⟩ := h
  · have hshort : [0, 0, 1] <+: [0, 0, 1] ++ bs := List.prefix_append _ _
    rw [if_pos hshort]
    rfl
  · have hlong : ¬ [0, 0, 1] <+: [0, 0, 0, 1] ++ bs := by
      simp [List.cons_prefix_cons]
    rw [if_neg hlong]
    rfl

theorem Found.nalType (h : Found p) :
    h264NalType p = (header? p).map h264Nal ∧ h265NalType p = (header? p).map h265Nal := by
  rw [h264NalType, h265NalType, h.codeIndex, header?]
  split
  · exact ⟨rfl, rfl⟩
  · exact ⟨rfl, rfl⟩

/-- `h264_nal_new_access` at a start code or at the end. -/
theorem Found.newAccess (h : Found p) :
    (h264NalNewAccess p).isSome ↔
      ∃ w, header? p = some w ∧ (IsSlice (h264Nal w) → (payload? p).isSome) := by
  have hlen := h.1
  rw [h264NalNewAccess, if_neg (by omega), h.codeIndex, Option.bind_some]
  have hheader : p[(if [0, 0, 1] <+: p then 2 else 3) + 1]? = header? p := by
    rw [header?]
    split
    · rfl
    · rfl
  have hpayload : p[(if [0, 0, 1] <+: p then 2 else 3) + 2]? = payload? p := by
    rw [payload?]
    split
    · rfl
    · rfl
  rw [hheader, hpayload]
  cases hw : header? p with
  | none => simp
  | some w =>
      rw [Option.bind_some]
      by_cases hslice : IsSlice (h264Nal w)
      · have hneither : ¬ (h264Nal w < 1 ∨ h264Nal w > 5) := by
          unfold IsSlice at hslice
          omega
        -- the test of the end allows one byte too many: with a header it never applies
        have hinside : ¬ (if [0, 0, 1] <+: p then 2 else 3) + 2 > p.length := by
          have hlt := (List.getElem?_eq_some_iff.mp (hheader.trans hw)).1
          omega
        rw [if_neg hneither, if_neg hinside, Option.isSome_map]
        constructor
        · exact fun hsome => ⟨w, rfl, fun _ => hsome⟩
        · rintro ⟨w', hw', himp⟩
          obtain rfl := Option.some.inj hw'
          exact himp hslice
      · have heither : h264Nal w < 1 ∨ h264Nal w > 5 := by
          unfold IsSlice at hslice
          omega
        rw [if_pos heither]
        exact iff_of_true rfl ⟨w, rfl, fun h => absurd h hslice⟩

/-! ### The loops -/

theorem codes_head? {fuel : Nat} (h : p.length ≤ fuel) :
    (codes fuel p).head? = if nextCode p = [] then none else some (nextCode p) := by
  cases fuel with
  | zero =>
      rw [List.length_eq_zero_iff.mp (Nat.le_zero.mp h)]
      rfl
  | succ fuel =>
      rw [codes]
      split
      · rfl
      · rfl

/-- What is left behind the first four bytes at a start code. -/
theorem Found.rest {fuel : Nat} (h : Found (nextCode p)) (hfuel : p.length ≤ fuel + 1) :
    ((nextCode p).drop 4).length ≤ fuel := by
  have hle := nextCode_length p
  have hfour := h.1
  rw [List.length_drop]
  omega

/-- A header of the first start code, where there is one. -/
theorem header_of_sound {ps : List (List UInt8)} (h : Sound264 ps) {q : List UInt8}
    (hq : ps.head? = some q) : ∃ w, header? q = some w := by
  cases ps with
  | nil => cases hq
  | cons p ps =>
      obtain rfl := Option.some.inj hq
      obtain ⟨⟨w, hw, -⟩, -⟩ := h
      exact ⟨w, hw⟩

theorem bind_isSome {α β : Type} {o : Option α} {r : Option β} :
    (o.bind fun _ => r).isSome ↔ o.isSome ∧ r.isSome := by
  cases o with
  | none => simp
  | some a => simp

/-- `h264_nal_new_access` at the next start code, where the units from there on are sound. -/
theorem newAccess_isSome_iff {fuel : Nat} (hfuel : p.length ≤ fuel)
    (hsound : Sound264 (codes fuel p)) :
    (h264NalNewAccess (nextCode p)).isSome ↔
      ∀ q ∈ (codes fuel p).head?, ∀ w ∈ header? q, IsSlice (h264Nal w) → (payload? q).isSome := by
  have hhead := codes_head? hfuel
  by_cases hend : nextCode p = []
  · rw [if_pos hend] at hhead
    rw [hhead, hend]
    refine iff_of_true rfl fun q hq => ?_
    cases hq
  · rw [if_neg hend] at hhead
    obtain ⟨w, hw⟩ := header_of_sound hsound hhead
    rw [hhead, ((nextCode_cases p).resolve_left hend).newAccess]
    constructor
    · rintro ⟨w', hw', hpayload⟩ q hq x hx hslice
      obtain rfl := Option.some.inj hq
      obtain rfl := Option.some.inj (hw'.symm.trans hx)
      exact hpayload hslice
    · exact fun hall => ⟨w, hw, hall _ rfl w hw⟩

/-- The calls of `Init264` from the next start code on. -/
theorem walk264_isSome (fuel : Nat) {p : List UInt8} (hfuel : p.length ≤ fuel) :
    (walk264 fuel (nextCode p)).isSome ↔ Sound264 (codes fuel p) := by
  induction fuel generalizing p with
  | zero =>
      rw [List.length_eq_zero_iff.mp (Nat.le_zero.mp hfuel)]
      exact iff_of_true rfl trivial
  | succ fuel ih =>
      rw [walk264, codes]
      by_cases hnil : nextCode p = []
      · rw [if_pos hnil, if_pos hnil]
        exact iff_of_true rfl trivial
      · have hfound := (nextCode_cases p).resolve_left hnil
        have hrest := hfound.rest hfuel
        rw [if_neg hnil, if_neg hnil, searchStartCode_eq, Option.bind_some, hfound.nalType.1,
          Sound264, ← ih hrest]
        cases hv : header? (nextCode p) with
        | none => simp
        | some v =>
            simp only [Option.map_some, Option.bind_some, Option.some.injEq, exists_eq_left']
            by_cases hzero : h264Nal v = 0
            · rw [if_pos hzero]
              exact iff_of_false (by decide) fun h => h.1.1 hzero
            · rw [if_neg hzero]
              by_cases hslice : h264Nal v ≤ 5
              · rw [if_pos hslice, bind_isSome]
                refine and_congr_left fun hwalk => ?_
                rw [newAccess_isSome_iff hrest ((ih hrest).mp hwalk)]
                exact ⟨fun hall => ⟨hzero, fun _ => hall⟩, fun h => h.2 hslice⟩
              · rw [if_neg hslice]
                exact (and_iff_right ⟨hzero, fun hle => absurd hle hslice⟩).symm

/-- The calls of `Init265`. -/
theorem walk265_isSome (fuel : Nat) {p : List UInt8} (hfuel : p.length ≤ fuel) :
    (walk265 fuel (nextCode p)).isSome ↔ ∀ q ∈ codes fuel p, (header? q).isSome := by
  induction fuel generalizing p with
  | zero =>
      rw [List.length_eq_zero_iff.mp (Nat.le_zero.mp hfuel)]
      exact iff_of_true rfl fun q hq => absurd hq List.not_mem_nil
  | succ fuel ih =>
      rw [walk265, codes]
      by_cases hnil : nextCode p = []
      · rw [if_pos hnil, if_pos hnil]
        exact iff_of_true rfl fun q hq => absurd hq List.not_mem_nil
      · have hfound := (nextCode_cases p).resolve_left hnil
        have hrest := hfound.rest hfuel
        rw [if_neg hnil, if_neg hnil, searchStartCode_eq, Option.bind_some, hfound.nalType.2,
          bind_isSome, Option.isSome_map, ih hrest, List.forall_mem_cons]

/-! ### The functions that read at addresses -/

variable {byte : Nat → UInt8} {ptr : Nat}

theorem holds_isStartCode_iff (h : Holds byte ptr p) (hlen : 4 ≤ p.length) :
    VideoNalu.isStartCode byte ptr = true ↔ BeginsCode p := by
  refine ⟨h.beginsCode_of_isStartCode hlen, ?_⟩
  unfold VideoNalu.isStartCode
  rintro (⟨bs, rfl⟩ | ⟨bs, rfl⟩)
  · rw [show byte ptr = 0 from h 0 0 rfl, h 1 0 rfl, h 2 1 rfl]
    rfl
  · rw [show byte ptr = 0 from h 0 0 rfl, h 1 0 rfl, h 2 0 rfl, h 3 1 rfl]
    rfl

/-- The search that reads at addresses comes to the same place. -/
theorem searchStartCode_agrees (h : Holds byte ptr p) :
    VideoNalu.searchStartCode byte ptr (ptr + p.length) + (nextCode p).length =
      ptr + p.length := by
  induction p generalizing ptr with
  | nil => exact searchStartCode_of_short (Nat.le_add_right ptr 3)
  | cons b p ih =>
      have hshift : ptr + (b :: p).length = ptr + 1 + p.length := by
        rw [List.length_cons]
        omega
      rw [nextCode]
      by_cases hlen : 4 ≤ (b :: p).length
      · rw [searchStartCode_step (by omega)]
        by_cases hcode : BeginsCode (b :: p)
        · rw [if_pos ((holds_isStartCode_iff h hlen).mpr hcode), if_pos ⟨hlen, hcode⟩]
        · rw [if_neg (mt (holds_isStartCode_iff h hlen).mp hcode), if_neg fun hboth => hcode hboth.2,
            hshift]
          exact ih h.tail
      · have hnil : nextCode p = [] := by
          refine (nextCode_cases p).resolve_right fun hfound => ?_
          have hle := nextCode_length p
          have hfour := hfound.1
          rw [List.length_cons] at hlen
          omega
        rw [if_neg fun hboth => hlen hboth.1, hnil, searchStartCode_of_short (by omega)]
        rfl

theorem codeIndex_agrees (h : Holds byte ptr p) {i : Nat} (hi : codeIndex p = some i) :
    startCodeEnd byte ptr = ptr + (i + 1) := by
  obtain ⟨b₀, -, hi⟩ := Option.bind_eq_some_iff.mp hi
  split at hi
  · cases hi
  · obtain ⟨b₁, -, hi⟩ := Option.bind_eq_some_iff.mp hi
    split at hi
    · cases hi
    · obtain ⟨b₂, hb₂, hi⟩ := Option.bind_eq_some_iff.mp hi
      obtain ⟨b, -, hi⟩ := Option.bind_eq_some_iff.mp hi
      rw [startCodeEnd, h 2 b₂ hb₂]
      split at hi
      · obtain rfl := Option.some.inj hi
        by_cases hlong : b₂ = 0
        · rw [if_pos hlong, if_pos (beq_iff_eq.mpr hlong)]
        · rw [if_neg hlong, if_neg (mt beq_iff_eq.mp hlong)]
      · cases hi

/-- Where nothing is read outside, the functions that read at addresses give the same. -/
theorem nalType_agrees (h : Holds byte ptr p) {t : Nat} :
    (h264NalType p = some t → VideoNalu.h264NalType byte ptr = t) ∧
      (h265NalType p = some t → VideoNalu.h265NalType byte ptr = t) := by
  constructor
  · intro ht
    obtain ⟨i, hi, ht⟩ := Option.bind_eq_some_iff.mp ht
    obtain ⟨v, hv, rfl⟩ := Option.map_eq_some_iff.mp ht
    rw [VideoNalu.h264NalType, codeIndex_agrees h hi, h _ v hv]
  · intro ht
    obtain ⟨i, hi, ht⟩ := Option.bind_eq_some_iff.mp ht
    obtain ⟨v, hv, rfl⟩ := Option.map_eq_some_iff.mp ht
    rw [VideoNalu.h265NalType, codeIndex_agrees h hi, h _ v hv]

theorem newAccess_agrees (h : Holds byte ptr p) {new : Bool} (hnew : h264NalNewAccess p = some new) :
    VideoNalu.h264NalNewAccess byte ptr (ptr + p.length) = new := by
  rw [h264NalNewAccess] at hnew
  rw [VideoNalu.h264NalNewAccess]
  split at hnew
  · rename_i hshort
    rw [if_pos (by omega)]
    exact Option.some.inj hnew
  · rename_i hlong
    obtain ⟨i, hi, hnew⟩ := Option.bind_eq_some_iff.mp hnew
    obtain ⟨v, hv, hnew⟩ := Option.bind_eq_some_iff.mp hnew
    have htype : VideoNalu.h264NalType byte ptr = h264Nal v := by
      rw [VideoNalu.h264NalType, codeIndex_agrees h hi, h _ v hv]
    rw [if_neg (by omega), htype, codeIndex_agrees h hi]
    by_cases hother : h264Nal v < 1 ∨ h264Nal v > 5
    · rw [if_pos hother] at hnew
      rw [if_pos (by simpa using hother)]
      exact Option.some.inj hnew
    · rw [if_neg hother] at hnew
      rw [if_neg (by simpa using hother)]
      split at hnew
      · rename_i hend
        rw [if_pos (by omega)]
        exact Option.some.inj hnew
      · rename_i hend
        obtain ⟨b, hb, rfl⟩ := Option.map_eq_some_iff.mp hnew
        rw [if_neg (by omega), Nat.add_assoc, h _ b hb]

end

/-- The calls of `Init264` and `Init265` read inside the buffer and their asserts hold exactly for
these buffers. -/
theorem scan_isSome_iff (c : ReaderCodec) (data : List UInt8) :
    (scan c data).isSome ↔ Sound c data := by
  rw [scan, searchStartCode_eq, Option.bind_some]
  cases c with
  | h264 => exact walk264_isSome data.length (Nat.le_refl _)
  | h265 => exact walk265_isSome data.length (Nat.le_refl _)

example : (scan .h264 [0, 0, 1, 0x65, 0x88, 0, 0, 1, 0x41, 0x9a]).isSome = true := by decide
example : scan .h264 [0, 0, 1, 0x65, 0x88, 0, 0, 1, 0x41] = none := by decide

/-- A start code of four bytes at the end, a NAL unit of type 0, and a slice that ends with its
header. -/
theorem not_scan_isSome :
    ¬ (scan .h265 [0, 0, 0, 1]).isSome ∧ ¬ (scan .h264 [0, 0, 1, 0]).isSome ∧
      ¬ (scan .h264 [0, 0, 1, 0x65, 0x88, 0, 0, 1, 0x41]).isSome := by
  decide

end NalReads

end SignalingServer
