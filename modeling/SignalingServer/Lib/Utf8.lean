import Mathlib.Data.List.Forall2

/-!
UTF-8 texts, and how to recognise them one byte at a time: a lead byte says in which ranges the
bytes behind it must be, and these ranges are all that is to be kept until the next lead byte.
-/

namespace Utf8

/-- The encodings of characters, one behind the other. -/
def IsText (bs : List UInt8) : Prop := ∃ cs : List Char, cs.flatMap String.utf8EncodeChar = bs

def InRange (r : Nat × Nat) (b : UInt8) : Prop := r.1 ≤ b.toNat ∧ b.toNat ≤ r.2

instance (r : Nat × Nat) (b : UInt8) : Decidable (InRange r b) :=
  inferInstanceAs (Decidable (_ ∧ _))

/-- The range of the bytes behind a lead byte, unless the first one of them is restricted. -/
def tail : Nat × Nat := (0x80, 0xbf)

/-- The ranges of the bytes behind a lead byte. -/
def ranges (b : UInt8) : Option (List (Nat × Nat)) :=
  if b.toNat < 0x80 then some []
  else if b.toNat < 0xc2 then none
  else if b.toNat < 0xe0 then some [tail]
  else if b.toNat = 0xe0 then some [(0xa0, 0xbf), tail]
  else if b.toNat = 0xed then some [(0x80, 0x9f), tail]
  else if b.toNat < 0xf0 then some [tail, tail]
  else if b.toNat = 0xf0 then some [(0x90, 0xbf), tail, tail]
  else if b.toNat < 0xf4 then some [tail, tail, tail]
  else if b.toNat = 0xf4 then some [(0x80, 0x8f), tail, tail]
  else none

/-! ### One character -/

theorem exists_char {v : Nat} (h : v < 0xd800 ∨ (0xdfff < v ∧ v < 0x110000)) :
    ∃ c : Char, c.val.toNat = v :=
  ⟨Char.ofNatAux v h, rfl⟩

theorem ofNat_eq {n : Nat} {b : UInt8} (h : n = b.toNat) : UInt8.ofNat n = b := by
  rw [h, UInt8.ofNat_toNat]

theorem inRange_ofNat {r : Nat × Nat} {n : Nat} (h : r.1 ≤ n) (h' : n ≤ r.2) (hlt : n < 256) :
    InRange r (UInt8.ofNat n) := by
  rw [InRange, UInt8.toNat_ofNat_of_lt' hlt]
  exact ⟨h, h'⟩

/-- The bits of a byte behind the first one. -/
theorem inRange_tail (v : Nat) : InRange tail (UInt8.ofNat (v % 0x40 + 0x80)) :=
  inRange_ofNat (by show 0x80 ≤ _; omega) (by show _ ≤ 0xbf; omega) (by omega)

theorem ranges_ofNat {n : Nat} {rs : Option (List (Nat × Nat))} (hlt : n < 256)
    (h : ∀ b : UInt8, b.toNat = n → ranges b = rs) : ranges (UInt8.ofNat n) = rs :=
  h _ (UInt8.toNat_ofNat_of_lt' hlt)

/-- Three bytes: overlong forms and surrogates are left out. -/
theorem ranges_three {v : Nat} (hlong : 0x800 ≤ v) (hlt : v ≤ 0xffff)
    (hvalid : v < 0xd800 ∨ 0xdfff < v) :
    ∃ rs, ranges (UInt8.ofNat (v / 4096 % 0x10 + 0xe0)) = some rs ∧
      List.Forall₂ InRange rs
        [UInt8.ofNat (v / 64 % 0x40 + 0x80), UInt8.ofNat (v % 0x40 + 0x80)] := by
  rcases Nat.lt_or_ge v 0x1000 with hlow | hhigh
  · refine ⟨[(0xa0, 0xbf), tail], ranges_ofNat (by omega) fun b hb => ?_,
      .cons (inRange_ofNat ?_ ?_ (by omega)) (.cons (inRange_tail _) .nil)⟩
    · rw [ranges, if_neg (by omega), if_neg (by omega), if_neg (by omega), if_pos (by omega)]
    · show 0xa0 ≤ _
      omega
    · show _ ≤ 0xbf
      omega
  by_cases hsurr : v / 4096 % 0x10 = 0xd
  · refine ⟨[(0x80, 0x9f), tail], ranges_ofNat (by omega) fun b hb => ?_,
      .cons (inRange_ofNat ?_ ?_ (by omega)) (.cons (inRange_tail _) .nil)⟩
    · rw [ranges, if_neg (by omega), if_neg (by omega), if_neg (by omega), if_neg (by omega),
        if_pos (by omega)]
    · show 0x80 ≤ _
      omega
    · show _ ≤ 0x9f
      omega
  · refine ⟨[tail, tail], ranges_ofNat (by omega) fun b hb => ?_,
      .cons (inRange_tail _) (.cons (inRange_tail _) .nil)⟩
    rw [ranges, if_neg (by omega), if_neg (by omega), if_neg (by omega), if_neg (by omega),
      if_neg (by omega), if_pos (by omega)]

/-- Four bytes: overlong forms and what is above U+10FFFF are left out. -/
theorem ranges_four {v : Nat} (hlong : 0x10000 ≤ v) (hlt : v < 0x110000) :
    ∃ rs, ranges (UInt8.ofNat (v / 262144 % 0x08 + 0xf0)) = some rs ∧
      List.Forall₂ InRange rs
        [UInt8.ofNat (v / 4096 % 0x40 + 0x80), UInt8.ofNat (v / 64 % 0x40 + 0x80),
          UInt8.ofNat (v % 0x40 + 0x80)] := by
  rcases Nat.lt_or_ge v 0x40000 with hlow | hhigh
  · refine ⟨[(0x90, 0xbf), tail, tail], ranges_ofNat (by omega) fun b hb => ?_,
      .cons (inRange_ofNat ?_ ?_ (by omega))
        (.cons (inRange_tail _) (.cons (inRange_tail _) .nil))⟩
    · rw [ranges, if_neg (by omega), if_neg (by omega), if_neg (by omega), if_neg (by omega),
        if_neg (by omega), if_neg (by omega), if_pos (by omega)]
    · show 0x90 ≤ _
      omega
    · show _ ≤ 0xbf
      omega
  rcases Nat.lt_or_ge v 0x100000 with hmid | hlast
  · refine ⟨[tail, tail, tail], ranges_ofNat (by omega) fun b hb => ?_,
      .cons (inRange_tail _) (.cons (inRange_tail _) (.cons (inRange_tail _) .nil))⟩
    rw [ranges, if_neg (by omega), if_neg (by omega), if_neg (by omega), if_neg (by omega),
      if_neg (by omega), if_neg (by omega), if_neg (by omega), if_pos (by omega)]
  · refine ⟨[(0x80, 0x8f), tail, tail], ranges_ofNat (by omega) fun b hb => ?_,
      .cons (inRange_ofNat ?_ ?_ (by omega))
        (.cons (inRange_tail _) (.cons (inRange_tail _) .nil))⟩
    · rw [ranges, if_neg (by omega), if_neg (by omega), if_neg (by omega), if_neg (by omega),
        if_neg (by omega), if_neg (by omega), if_neg (by omega), if_neg (by omega),
        if_pos (by omega)]
    · show 0x80 ≤ _
      omega
    · show _ ≤ 0x8f
      omega

/-- The bytes that encode a character are in the ranges of the first one. -/
theorem ranges_of_encode (c : Char) :
    ∃ b bs rs, String.utf8EncodeChar c = b :: bs ∧ ranges b = some rs ∧
      List.Forall₂ InRange rs bs := by
  have hvalid : c.val.toNat < 0xd800 ∨ (0xdfff < c.val.toNat ∧ c.val.toNat < 0x110000) := c.valid
  obtain ⟨v, hv⟩ : ∃ v, c.val.toNat = v := ⟨_, rfl⟩
  unfold String.utf8EncodeChar
  rw [hv] at hvalid
  dsimp only
  rw [hv]
  split
  · refine ⟨_, _, [], rfl, ranges_ofNat (by omega) fun b hb => ?_, .nil⟩
    rw [ranges, if_pos (by omega)]
  split
  · refine ⟨_, _, [tail], rfl, ranges_ofNat (by omega) fun b hb => ?_, .cons (inRange_tail _) .nil⟩
    rw [ranges, if_neg (by omega), if_neg (by omega), if_pos (by omega)]
  split
  · obtain ⟨rs, hranges, hbs⟩ := ranges_three (v := v) (by omega) (by omega) (by omega)
    exact ⟨_, _, rs, rfl, hranges, hbs⟩
  · obtain ⟨rs, hranges, hbs⟩ := ranges_four (v := v) (by omega) (by omega)
    exact ⟨_, _, rs, rfl, hranges, hbs⟩

section

variable {b x y z : UInt8}

theorem encode_one (hb : b.toNat < 0x80) : ∃ c, String.utf8EncodeChar c = [b] := by
  obtain ⟨c, hc⟩ := exists_char (v := b.toNat) (.inl (by omega))
  refine ⟨c, ?_⟩
  unfold String.utf8EncodeChar
  dsimp only
  rw [hc, if_pos (by omega), UInt8.ofNat_toNat]

theorem encode_two (hb : 0xc2 ≤ b.toNat ∧ b.toNat < 0xe0) (hx : InRange tail x) :
    ∃ c, String.utf8EncodeChar c = [b, x] := by
  obtain ⟨hx, hx'⟩ : 0x80 ≤ x.toNat ∧ x.toNat ≤ 0xbf := hx
  obtain ⟨c, hc⟩ := exists_char (v := (b.toNat - 0xc0) * 64 + (x.toNat - 0x80)) (.inl (by omega))
  refine ⟨c, ?_⟩
  unfold String.utf8EncodeChar
  dsimp only
  rw [hc, if_neg (by omega), if_pos (by omega)]
  exact congrArg₂ _ (ofNat_eq (by omega)) (congrArg₂ _ (ofNat_eq (by omega)) rfl)

theorem encode_three (hb : 0xe0 ≤ b.toNat ∧ b.toNat < 0xf0) (hx : InRange tail x)
    (hy : InRange tail y) (hlow : b.toNat = 0xe0 → 0xa0 ≤ x.toNat)
    (hsurr : b.toNat = 0xed → x.toNat ≤ 0x9f) : ∃ c, String.utf8EncodeChar c = [b, x, y] := by
  obtain ⟨hx, hx'⟩ : 0x80 ≤ x.toNat ∧ x.toNat ≤ 0xbf := hx
  obtain ⟨hy, hy'⟩ : 0x80 ≤ y.toNat ∧ y.toNat ≤ 0xbf := hy
  obtain ⟨c, hc⟩ := exists_char
    (v := ((b.toNat - 0xe0) * 64 + (x.toNat - 0x80)) * 64 + (y.toNat - 0x80)) (by omega)
  refine ⟨c, ?_⟩
  unfold String.utf8EncodeChar
  dsimp only
  rw [hc, if_neg (by omega), if_neg (by omega), if_pos (by omega)]
  exact congrArg₂ _ (ofNat_eq (by omega)) (congrArg₂ _ (ofNat_eq (by omega))
    (congrArg₂ _ (ofNat_eq (by omega)) rfl))

theorem encode_four (hb : 0xf0 ≤ b.toNat ∧ b.toNat ≤ 0xf4) (hx : InRange tail x)
    (hy : InRange tail y) (hz : InRange tail z) (hlow : b.toNat = 0xf0 → 0x90 ≤ x.toNat)
    (hhigh : b.toNat = 0xf4 → x.toNat ≤ 0x8f) : ∃ c, String.utf8EncodeChar c = [b, x, y, z] := by
  obtain ⟨hx, hx'⟩ : 0x80 ≤ x.toNat ∧ x.toNat ≤ 0xbf := hx
  obtain ⟨hy, hy'⟩ : 0x80 ≤ y.toNat ∧ y.toNat ≤ 0xbf := hy
  obtain ⟨hz, hz'⟩ : 0x80 ≤ z.toNat ∧ z.toNat ≤ 0xbf := hz
  obtain ⟨c, hc⟩ := exists_char (v := (((b.toNat - 0xf0) * 64 + (x.toNat - 0x80)) * 64 +
    (y.toNat - 0x80)) * 64 + (z.toNat - 0x80)) (by omega)
  refine ⟨c, ?_⟩
  unfold String.utf8EncodeChar
  dsimp only
  rw [hc, if_neg (by omega), if_neg (by omega), if_neg (by omega)]
  exact congrArg₂ _ (ofNat_eq (by omega)) (congrArg₂ _ (ofNat_eq (by omega))
    (congrArg₂ _ (ofNat_eq (by omega)) (congrArg₂ _ (ofNat_eq (by omega)) rfl)))

end

theorem InRange.to_tail {r : Nat × Nat} {b : UInt8} (h : InRange r b) (hlow : 0x80 ≤ r.1)
    (hhigh : r.2 ≤ 0xbf) : InRange tail b :=
  ⟨Nat.le_trans hlow h.1, Nat.le_trans h.2 hhigh⟩

/-- Bytes in the ranges of the first one encode a character. -/
theorem encode_of_ranges {b : UInt8} {bs : List UInt8} {rs : List (Nat × Nat)}
    (hranges : ranges b = some rs) (hbs : List.Forall₂ InRange rs bs) :
    ∃ c, String.utf8EncodeChar c = b :: bs := by
  unfold ranges at hranges
  split at hranges
  · obtain rfl := Option.some.inj hranges
    obtain ⟨⟩ := hbs
    exact encode_one (by omega)
  split at hranges
  · cases hranges
  split at hranges
  · obtain rfl := Option.some.inj hranges
    obtain _ | ⟨hx, ⟨⟩⟩ := hbs
    exact encode_two (by omega) hx
  split at hranges
  · obtain rfl := Option.some.inj hranges
    obtain _ | ⟨hx, _ | ⟨hy, ⟨⟩⟩⟩ := hbs
    exact encode_three (by omega) (hx.to_tail (by decide) (by decide)) hy (fun _ => hx.1) (by omega)
  split at hranges
  · obtain rfl := Option.some.inj hranges
    obtain _ | ⟨hx, _ | ⟨hy, ⟨⟩⟩⟩ := hbs
    exact encode_three (by omega) (hx.to_tail (by decide) (by decide)) hy (by omega) fun _ => hx.2
  split at hranges
  · obtain rfl := Option.some.inj hranges
    obtain _ | ⟨hx, _ | ⟨hy, ⟨⟩⟩⟩ := hbs
    exact encode_three (by omega) hx hy (by omega) (by omega)
  split at hranges
  · obtain rfl := Option.some.inj hranges
    obtain _ | ⟨hx, _ | ⟨hy, _ | ⟨hz, ⟨⟩⟩⟩⟩ := hbs
    exact encode_four (by omega) (hx.to_tail (by decide) (by decide)) hy hz (fun _ => hx.1)
      (by omega)
  split at hranges
  · obtain rfl := Option.some.inj hranges
    obtain _ | ⟨hx, _ | ⟨hy, _ | ⟨hz, ⟨⟩⟩⟩⟩ := hbs
    exact encode_four (by omega) hx hy hz (by omega) (by omega)
  split at hranges
  · obtain rfl := Option.some.inj hranges
    obtain _ | ⟨hx, _ | ⟨hy, _ | ⟨hz, ⟨⟩⟩⟩⟩ := hbs
    exact encode_four (by omega) (hx.to_tail (by decide) (by decide)) hy hz (by omega) fun _ => hx.2
  · cases hranges

/-! ### Texts -/

/-- What may follow where bytes in these ranges are still to come. -/
def Rest (rs : List (Nat × Nat)) (bs : List UInt8) : Prop :=
  ∃ front rest, bs = front ++ rest ∧ List.Forall₂ InRange rs front ∧ IsText rest

theorem rest_nil {bs : List UInt8} : Rest [] bs ↔ IsText bs := by
  constructor
  · rintro ⟨front, rest, rfl, ⟨⟩, hrest⟩
    exact hrest
  · exact fun h => ⟨[], bs, rfl, .nil, h⟩

theorem rest_cons {r : Nat × Nat} {rs : List (Nat × Nat)} {b : UInt8} {bs : List UInt8} :
    Rest (r :: rs) (b :: bs) ↔ InRange r b ∧ Rest rs bs := by
  constructor
  · rintro ⟨front, rest, hbs, _ | ⟨hb, hfront⟩, hrest⟩
    obtain ⟨rfl, rfl⟩ := List.cons.inj hbs
    exact ⟨hb, _, rest, rfl, hfront, hrest⟩
  · rintro ⟨hb, front, rest, rfl, hfront, hrest⟩
    exact ⟨b :: front, rest, rfl, .cons hb hfront, hrest⟩

theorem not_rest_nil {r : Nat × Nat} {rs : List (Nat × Nat)} : ¬ Rest (r :: rs) [] := by
  rintro ⟨front, rest, hbs, hfront, -⟩
  cases hfront
  cases hbs

theorem isText_nil : IsText [] := ⟨[], rfl⟩

/-- A text by its first byte. -/
theorem isText_cons {b : UInt8} {bs : List UInt8} :
    IsText (b :: bs) ↔ ∃ rs, ranges b = some rs ∧ Rest rs bs := by
  constructor
  · rintro ⟨_ | ⟨c, cs⟩, hcs⟩
    · cases hcs
    · obtain ⟨b', front, rs, hc, hranges, hfront⟩ := ranges_of_encode c
      rw [List.flatMap_cons, hc] at hcs
      obtain ⟨rfl, rfl⟩ := List.cons.inj hcs
      exact ⟨rs, hranges, front, _, rfl, hfront, cs, rfl⟩
  · rintro ⟨rs, hranges, front, rest, rfl, hfront, cs, rfl⟩
    obtain ⟨c, hc⟩ := encode_of_ranges hranges hfront
    exact ⟨c :: cs, by rw [List.flatMap_cons, hc]; rfl⟩

/-! ### The recogniser -/

/-- The ranges that are left after a byte. -/
def step : List (Nat × Nat) → UInt8 → Option (List (Nat × Nat))
  | [], b => ranges b
  | r :: rs, b => if InRange r b then some rs else none

def run : List (Nat × Nat) → List UInt8 → Option (List (Nat × Nat))
  | rs, [] => some rs
  | rs, b :: bs => (step rs b).bind fun rs => run rs bs

theorem rest_step {rs : List (Nat × Nat)} {b : UInt8} {bs : List UInt8} :
    Rest rs (b :: bs) ↔ ∃ rs', step rs b = some rs' ∧ Rest rs' bs := by
  cases rs with
  | nil => exact rest_nil.trans isText_cons
  | cons r rs =>
      rw [rest_cons, step]
      split
      · rename_i hb
        rw [and_iff_right hb]
        exact ⟨fun h => ⟨rs, rfl, h⟩, fun ⟨_, heq, h⟩ => Option.some.inj heq ▸ h⟩
      · rename_i hb
        exact iff_of_false (fun h => hb h.1) (fun ⟨_, heq, _⟩ => nomatch heq)

/-- What may follow some bytes is what may follow where the recogniser is then. -/
theorem rest_run {rs : List (Nat × Nat)} {bs more : List UInt8} :
    Rest rs (bs ++ more) ↔ ∃ rs', run rs bs = some rs' ∧ Rest rs' more := by
  induction bs generalizing rs with
  | nil => exact ⟨fun h => ⟨rs, rfl, h⟩, fun ⟨_, heq, h⟩ => Option.some.inj heq ▸ h⟩
  | cons b bs ih =>
      rw [List.cons_append, rest_step, run]
      constructor
      · rintro ⟨rs', hstep, hrest⟩
        rw [hstep]
        exact ih.mp hrest
      · rintro ⟨rs', hrun, hrest⟩
        obtain ⟨rs'', hstep, hrun'⟩ := Option.bind_eq_some_iff.mp hrun
        exact ⟨rs'', hstep, ih.mpr ⟨rs', hrun', hrest⟩⟩

/-- The recogniser ends between two characters exactly behind texts. -/
theorem run_eq_nil_iff {bs : List UInt8} : run [] bs = some [] ↔ IsText bs := by
  rw [← rest_nil, ← List.append_nil bs, rest_run, List.append_nil]
  constructor
  · exact fun h => ⟨[], h, rest_nil.mpr isText_nil⟩
  · rintro ⟨_ | ⟨r, rs⟩, hrun, hrest⟩
    · exact hrun
    · exact absurd hrest not_rest_nil

/-- Ranges that have an element. -/
def Proper (rs : List (Nat × Nat)) : Prop := ∀ r ∈ rs, r.1 ≤ r.2 ∧ r.2 < 256

theorem Proper.exists_rest {rs : List (Nat × Nat)} (h : Proper rs) : ∃ bs, Rest rs bs := by
  induction rs with
  | nil => exact ⟨[], rest_nil.mpr isText_nil⟩
  | cons r rs ih =>
      obtain ⟨hr, hrs⟩ := List.forall_mem_cons.mp h
      obtain ⟨bs, hbs⟩ := ih hrs
      refine ⟨UInt8.ofNat r.1 :: bs, rest_cons.mpr ⟨?_, hbs⟩⟩
      exact inRange_ofNat (Nat.le_refl _) hr.1 (Nat.lt_of_le_of_lt hr.1 hr.2)

theorem proper_of_ranges {b : UInt8} {rs : List (Nat × Nat)} (h : ranges b = some rs) :
    Proper rs := by
  unfold ranges at h
  split_ifs at h <;> cases h <;> unfold Proper <;> decide

theorem Proper.step {rs rs' : List (Nat × Nat)} {b : UInt8} (h : Proper rs)
    (hstep : step rs b = some rs') : Proper rs' := by
  cases rs with
  | nil => exact proper_of_ranges hstep
  | cons r rs =>
      obtain rfl := Option.some.inj (Option.ite_none_right_eq_some.mp hstep).2
      exact (List.forall_mem_cons.mp h).2

theorem Proper.run {rs rs' : List (Nat × Nat)} {bs : List UInt8} (h : Proper rs)
    (hrun : run rs bs = some rs') : Proper rs' := by
  induction bs generalizing rs with
  | nil => exact Option.some.inj hrun ▸ h
  | cons b bs ih =>
      obtain ⟨rs'', hstep, hrun'⟩ := Option.bind_eq_some_iff.mp hrun
      exact ih (h.step hstep) hrun'

/-- The recogniser fails exactly where the bytes do not begin a text. -/
theorem run_eq_none_iff {bs : List UInt8} : run [] bs = none ↔ ¬ ∃ more, IsText (bs ++ more) := by
  constructor
  · rintro hnone ⟨more, hmore⟩
    obtain ⟨rs, hrun, -⟩ := rest_run.mp (rest_nil.mpr hmore)
    rw [hnone] at hrun
    cases hrun
  · intro hno
    cases hrun : run [] bs with
    | none => rfl
    | some rs =>
        have hproper : Proper rs := Proper.run (fun r hr => absurd hr List.not_mem_nil) hrun
        obtain ⟨more, hmore⟩ := hproper.exists_rest
        exact absurd ⟨more, rest_nil.mp (rest_run.mpr ⟨rs, hrun, hmore⟩)⟩ hno

end Utf8
