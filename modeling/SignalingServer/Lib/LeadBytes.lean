import Mathlib.Data.List.Basic

/-!
Byte strings that are made of sequences: a lead byte, which says how long its sequence is, and
continuation bytes.
-/

namespace LeadBytes

/-- A continuation byte: `10xxxxxx`. -/
def IsTail (b : UInt8) : Prop := b &&& 0xc0 = 0x80

instance (b : UInt8) : Decidable (IsTail b) := inferInstanceAs (Decidable (_ = _))

/-- The bytes are sequences, of the lengths that `size` gives for their lead bytes. -/
inductive Splits (size : UInt8 → Option Nat) : List UInt8 → Prop
  | nil : Splits size []
  | cons {b : UInt8} {tail rest : List UInt8} : size b = some (tail.length + 1) →
      (∀ c ∈ tail, IsTail c) → Splits size rest → Splits size (b :: (tail ++ rest))

/-- The bytes end inside a sequence. -/
def EndsInside (size : UInt8 → Option Nat) (bs : List UInt8) : Prop :=
  ∃ front b tail n, bs = front ++ b :: tail ∧ Splits size front ∧ size b = some (n + 1) ∧
    tail.length < n ∧ ∀ c ∈ tail, IsTail c

/-- What is checked of all numbers below 256 holds of every byte. -/
theorem forall_byte {P : UInt8 → Prop} (h : ∀ n < 256, P (UInt8.ofNat n)) (b : UInt8) : P b := by
  have hb := h b.toNat b.toNat_lt
  rwa [UInt8.ofNat_toNat] at hb

theorem IsTail.bounds {b : UInt8} : IsTail b → 0x80 ≤ b ∧ b < 0xc0 :=
  forall_byte (P := fun b => IsTail b → 0x80 ≤ b ∧ b < 0xc0) (by decide +kernel) b

variable {size size' : UInt8 → Option Nat} {b : UInt8} {bs : List UInt8}

theorem splits_cons_iff : Splits size (b :: bs) ↔
    ∃ n, size b = some (n + 1) ∧ n ≤ bs.length ∧ (∀ c ∈ bs.take n, IsTail c) ∧
      Splits size (bs.drop n) := by
  constructor
  · rintro (_ | ⟨hsize, htail, hrest⟩)
    rename_i tail rest
    refine ⟨tail.length, hsize, ?_, ?_, ?_⟩
    · rw [List.length_append]
      exact Nat.le_add_right _ _
    · rwa [List.take_left]
    · rwa [List.drop_left]
  · rintro ⟨n, hsize, hle, htail, hrest⟩
    rw [← List.take_append_drop n bs]
    refine .cons ?_ htail hrest
    rw [hsize, List.length_take, Nat.min_eq_left hle]

theorem not_endsInside_nil : ¬ EndsInside size [] := by
  rintro ⟨front, b, tail, n, hbs, -⟩
  exact List.append_ne_nil_of_right_ne_nil front (List.cons_ne_nil b tail) hbs.symm

theorem endsInside_cons_iff : EndsInside size (b :: bs) ↔
    ∃ n, size b = some (n + 1) ∧
      ((bs.length < n ∧ ∀ c ∈ bs, IsTail c) ∨
        (n ≤ bs.length ∧ (∀ c ∈ bs.take n, IsTail c) ∧ EndsInside size (bs.drop n))) := by
  constructor
  · rintro ⟨front, b', tail, n, hbs, hfront, hsize, hlt, htail⟩
    cases hfront with
    | nil =>
        obtain ⟨rfl, rfl⟩ := List.cons.inj hbs
        exact ⟨n, hsize, .inl ⟨hlt, htail⟩⟩
    | cons hsize' htail' hrest =>
        rename_i b'' tail' rest
        rw [List.cons_append, List.append_assoc] at hbs
        obtain ⟨rfl, rfl⟩ := List.cons.inj hbs
        refine ⟨tail'.length, hsize', .inr ⟨?_, ?_, ?_⟩⟩
        · rw [List.length_append]
          exact Nat.le_add_right _ _
        · rwa [List.take_left]
        · rw [List.drop_left]
          exact ⟨rest, b', tail, n, rfl, hrest, hsize, hlt, htail⟩
  · rintro ⟨n, hsize, ⟨hlt, htail⟩ |
      ⟨hle, htail, front, b', tail, m, hbs, hfront, hsize', hlt, htail'⟩⟩
    · exact ⟨[], b, bs, n, rfl, .nil, hsize, hlt, htail⟩
    · refine ⟨b :: (bs.take n ++ front), b', tail, m, ?_, .cons ?_ htail hfront, hsize', hlt,
        htail'⟩
      · rw [List.cons_append, List.append_assoc, ← hbs, List.take_append_drop]
      · rw [hsize, List.length_take, Nat.min_eq_left hle]

theorem splits_cons {n : Nat} (hsize : size b = some (n + 1)) : Splits size (b :: bs) ↔
    n ≤ bs.length ∧ (∀ c ∈ bs.take n, IsTail c) ∧ Splits size (bs.drop n) := by
  rw [splits_cons_iff, hsize]
  constructor
  · rintro ⟨m, hm, hall⟩
    obtain rfl := Nat.succ.inj (Option.some.inj hm)
    exact hall
  · exact fun hall => ⟨n, rfl, hall⟩

theorem endsInside_cons {n : Nat} (hsize : size b = some (n + 1)) : EndsInside size (b :: bs) ↔
    (bs.length < n ∧ ∀ c ∈ bs, IsTail c) ∨
      (n ≤ bs.length ∧ (∀ c ∈ bs.take n, IsTail c) ∧ EndsInside size (bs.drop n)) := by
  rw [endsInside_cons_iff, hsize]
  constructor
  · rintro ⟨m, hm, hall⟩
    obtain rfl := Nat.succ.inj (Option.some.inj hm)
    exact hall
  · exact fun hall => ⟨n, rfl, hall⟩

/-- No sequence begins with a byte that is no lead byte. -/
theorem not_cons_of_none (hsize : size b = none) :
    ¬ Splits size (b :: bs) ∧ ¬ EndsInside size (b :: bs) := by
  rw [splits_cons_iff, endsInside_cons_iff, hsize]
  constructor
  · rintro ⟨n, hn, -⟩
    cases hn
  · rintro ⟨n, hn, -⟩
    cases hn

/-- A sequence of one byte. -/
theorem cons_of_one (hsize : size b = some 1) :
    (Splits size (b :: bs) ↔ Splits size bs) ∧
      (EndsInside size (b :: bs) ↔ EndsInside size bs) := by
  have hnone : ∀ c ∈ bs.take 0, IsTail c := fun c hc => absurd hc List.not_mem_nil
  rw [splits_cons hsize, endsInside_cons hsize, List.drop_zero]
  constructor
  · rw [and_iff_right (Nat.zero_le _), and_iff_right hnone]
  · rw [or_iff_right (fun h => Nat.not_lt_zero _ h.1), and_iff_right (Nat.zero_le _),
      and_iff_right hnone]

/-- Bytes other than lead bytes are continuation bytes. -/
theorem Splits.lead_or_tail (h : Splits size bs) :
    ∀ b ∈ bs, (∃ n, size b = some n) ∨ IsTail b := by
  induction h with
  | nil => exact fun b hb => absurd hb List.not_mem_nil
  | cons hsize htail hrest ih =>
      intro b hb
      rcases List.mem_cons.mp hb with rfl | hb
      · exact .inl ⟨_, hsize⟩
      · rcases List.mem_append.mp hb with hb | hb
        · exact .inr (htail b hb)
        · exact ih b hb

/-- The sequences are those of other lengths too, where these give the same for the bytes. -/
theorem Splits.change (h : Splits size bs)
    (hsame : ∀ b ∈ bs, ∀ n, size b = some n → size' b = some n) : Splits size' bs := by
  induction h with
  | nil => exact .nil
  | cons hsize htail hrest ih =>
      refine .cons (hsame _ List.mem_cons_self _ hsize) htail (ih fun b hb => ?_)
      exact hsame b (List.mem_cons_of_mem _ (List.mem_append_right _ hb))

end LeadBytes
