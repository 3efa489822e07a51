import SignalingServer.Media.JsonStream

/-!
How a header is found in a buffer (`media/mediaIn/JsonStream.cpp`). Two kinds of start code
are searched for, and the first one of the extended kind wins over all of the other. The
header behind it is read as far as the buffer has it.
-/

namespace SignalingServer

/-! ### The start code -/

/-- A start code stands at this place. -/
def CodeAt (data : List UInt8) (extended : Bool) (pos : Nat) : Prop :=
  Borders.Occurs (startCode extended) data pos

instance (data : List UInt8) (extended : Bool) (pos : Nat) : Decidable (CodeAt data extended pos) :=
  inferInstanceAs (Decidable (Borders.Occurs _ _ _))

/-- The place of the start code that is used: of the first extended one, or of the first
one if there is no extended one. -/
def Used (data : List UInt8) (pos : Nat) : Prop :=
  data.length < 2 ^ 31 ∧
    ((CodeAt data true pos ∧ ∀ p < pos, ¬ CodeAt data true p) ∨
      ((∀ p, ¬ CodeAt data true p) ∧ CodeAt data false pos ∧ ∀ p < pos, ¬ CodeAt data false p))

theorem Used.code {data : List UInt8} {pos : Nat} (h : Used data pos) :
    ∃ extended, CodeAt data extended pos := by
  rcases h.2 with ⟨hcode, -⟩ | ⟨-, hcode, -⟩
  · exact ⟨true, hcode⟩
  · exact ⟨false, hcode⟩

theorem startCode_ne_nil (extended : Bool) : startCode extended ≠ [] := by
  cases extended <;> decide

/-- `MatchDataHeard` returns the place of the start code that is used, or -1. -/
theorem matchDataHeard_cases (data : List UInt8) :
    (∃ pos : Nat, matchDataHeard data = pos ∧ Used data pos) ∨
      (matchDataHeard data = -1 ∧ ∀ pos, ¬ Used data pos) := by
  unfold matchDataHeard
  by_cases hint : data.length < 2 ^ 31
  · rw [if_pos hint]
    rcases kmpMatch_cases (startCode_ne_nil true) data with ⟨hsearch, hnone⟩ |
      ⟨pos, hsearch, hcode, hfirst⟩
    · rw [hsearch, if_neg (by decide)]
      rcases kmpMatch_cases (startCode_ne_nil false) data with ⟨hsearch', hnone'⟩ |
        ⟨pos, hsearch', hcode, hfirst⟩
      · refine .inr ⟨hsearch', fun pos hused => ?_⟩
        rcases hused.2 with ⟨hcode, -⟩ | ⟨-, hcode, -⟩
        · exact hnone pos hcode
        · exact hnone' pos hcode
      · exact .inl ⟨pos, hsearch', hint, .inr ⟨hnone, hcode, hfirst⟩⟩
    · rw [hsearch, if_pos (Int.natCast_nonneg pos)]
      exact .inl ⟨pos, rfl, hint, .inl ⟨hcode, hfirst⟩⟩
  · rw [if_neg hint]
    exact .inr ⟨rfl, fun pos hused => hint hused.1⟩

theorem Used.unique {data : List UInt8} {pos pos' : Nat} (h : Used data pos)
    (h' : Used data pos') : pos = pos' := by
  have hfirst : ∀ extended, CodeAt data extended pos → (∀ p < pos, ¬ CodeAt data extended p) →
      CodeAt data extended pos' → (∀ p < pos', ¬ CodeAt data extended p) → pos = pos' := by
    intro extended hcode hless hcode' hless'
    rcases Nat.lt_trichotomy pos pos' with hlt | heq | hgt
    · exact absurd hcode (hless' pos hlt)
    · exact heq
    · exact absurd hcode' (hless pos' hgt)
  rcases h.2 with ⟨hcode, hless⟩ | ⟨hnone, hcode, hless⟩
  · rcases h'.2 with ⟨hcode', hless'⟩ | ⟨hnone', -, -⟩
    · exact hfirst true hcode hless hcode' hless'
    · exact absurd hcode (hnone' pos)
  · rcases h'.2 with ⟨hcode', -⟩ | ⟨-, hcode', hless'⟩
    · exact absurd hcode' (hnone pos')
    · exact hfirst false hcode hless hcode' hless'

/-! ### The header -/

/-- The bytes of a header by its codec and type, the start code included. -/
def DataHeard.size (h : DataHeard) : Nat :=
  if h.SizedSet ∨ h.KeySlice then 16 + 4 + 4 + 8
  else if h.codect ∈ ptAudio then 16 + 1 + 4
  else 16

/-- The little-endian value of bytes of the data. -/
def fieldAt (data : List UInt8) (pos len : Nat) : Nat :=
  LittleEndian.decode ((data.drop pos).take len)

/-- What the bytes that every header has say at this place. -/
def basicAt (data : List UInt8) (pos : Nat) : DataHeard where
  codect := fieldAt data (pos + 4) 2
  framet := fieldAt data (pos + 6) 2
  gapms := fieldAt data (pos + 8) 2
  framerate := fieldAt data (pos + 10) 2
  framelen := fieldAt data (pos + 12) 4

/-- What all bytes of a header say. -/
def heardAt (data : List UInt8) (pos : Nat) : DataHeard :=
  let h := basicAt data pos
  if h.SizedSet ∨ h.KeySlice then
    { h with
      vwidth := fieldAt data (pos + 16) 4
      vheight := fieldAt data (pos + 20) 4
      timestamp := fieldAt data (pos + 24) 8 }
  else if h.codect ∈ ptAudio then
    { h with
      chl := fieldAt data (pos + 16) 1
      frate := fieldAt data (pos + 17) 4 }
  else h

/-- All bytes of a header are there. -/
def HeaderAt (data : List UInt8) (pos : Nat) : Prop :=
  (CodeAt data true pos ∨ CodeAt data false pos) ∧ pos + (heardAt data pos).size ≤ data.length

instance (data : List UInt8) (pos : Nat) : Decidable (HeaderAt data pos) :=
  inferInstanceAs (Decidable (_ ∧ _))

/-- The header is complete and no other one is before it, its fields are what its bytes say,
and `FrameHeardLen` gives the bytes that it has. -/
structure Synced (data : List UInt8) (h : DataHeard) (skipsize : Nat) : Prop where
  complete : HeaderAt data skipsize
  first : ∀ pos < skipsize, ¬ HeaderAt data pos
  fields : h = heardAt data skipsize
  payload : skipsize + h.frameHeardLen = skipsize + h.size

/-- What is expected of `PraseFrameHeard`: it reads no byte behind the data, and a header
that it returns is in step with them. -/
def HeaderSync (data : List UInt8) : Prop :=
  ∃ r, praseFrameHeard data = some r ∧ ∀ h skipsize, r = .ok h skipsize → Synced data h skipsize

/-- The header is not complete, and `PraseFrameHeard` sees it. Of a parameter set it does not
ask for the bytes of the time stamp. -/
def Noticed (data : List UInt8) (pos : Nat) : Prop :=
  data.length < pos + 16 ∨ data.length < pos +
    if (heardAt data pos).SizedSet then 16 + 4 + 4 else (heardAt data pos).size

instance (data : List UInt8) (pos : Nat) : Decidable (Noticed data pos) :=
  inferInstanceAs (Decidable (_ ∨ _))

variable {data : List UInt8} {pos : Nat}

theorem headerField_drop (data : List UInt8) (pos off len : Nat) :
    headerField (data.drop pos) off len = fieldAt data (pos + off) len := by
  rw [headerField, fieldAt, List.drop_drop]

theorem readHeard_drop (data : List UInt8) (pos : Nat) :
    readHeard (data.drop pos) = basicAt data pos := by
  simp only [readHeard, basicAt, headerField_drop]

/-- The codec and the type are among the bytes that every header has. -/
theorem heardAt_kind (data : List UInt8) (pos : Nat) :
    (heardAt data pos).codect = (basicAt data pos).codect ∧
      (heardAt data pos).framet = (basicAt data pos).framet := by
  simp only [heardAt]
  split_ifs <;> exact ⟨rfl, rfl⟩

theorem kinds_of_eq {h h' : DataHeard} (hcodect : h.codect = h'.codect)
    (hframet : h.framet = h'.framet) :
    (h.SizedSet ↔ h'.SizedSet) ∧ (h.KeySlice ↔ h'.KeySlice) ∧ h.size = h'.size := by
  have hset : h.SizedSet ↔ h'.SizedSet := by
    rw [DataHeard.SizedSet, hcodect, hframet, DataHeard.SizedSet]
  have hkey : h.KeySlice ↔ h'.KeySlice := by
    rw [DataHeard.KeySlice, hcodect, hframet, DataHeard.KeySlice]
  refine ⟨hset, hkey, ?_⟩
  simp only [DataHeard.size, hset, hkey, hcodect]

theorem Used.le_length (h : Used data pos) : pos ≤ data.length := by
  obtain ⟨extended, hcode⟩ := h.code
  have hle := ((Borders.occurs_iff_fits (startCode_ne_nil extended)).mp hcode).1
  omega

/-- What `PraseFrameHeard` returns for the start code that is used. -/
theorem praseFrameHeard_used (hused : Used data pos) :
    praseFrameHeard data =
      if Noticed data pos then some .notEnough
      else if pos + (heardAt data pos).size ≤ data.length then some (.ok (heardAt data pos) pos)
      else none := by
  have hmatch : matchDataHeard data = pos := by
    rcases matchDataHeard_cases data with ⟨pos', hmatch, hused'⟩ | ⟨-, hnone⟩
    · rw [hmatch, hused'.unique hused]
    · exact absurd hused (hnone pos)
  have hle := hused.le_length
  obtain ⟨hcodect, hframet⟩ := heardAt_kind data pos
  obtain ⟨hset, hkey, hsize⟩ := kinds_of_eq hcodect hframet
  unfold praseFrameHeard Noticed
  simp only [hmatch, ge_iff_le, Int.natCast_nonneg, if_true, Int.toNat_natCast, readHeard_drop,
    List.length_drop, hset, hsize]
  by_cases hshort : data.length < pos + 16
  · rw [if_pos (by omega), if_pos (.inl hshort)]
  · rw [if_neg (by omega)]
    unfold DataHeard.size
    by_cases hsized : (basicAt data pos).SizedSet
    · have hfields : readSizes (basicAt data pos) (data.drop pos) = heardAt data pos := by
        simp only [readSizes, headerField_drop, heardAt, if_pos (Or.inl hsized)]
      simp only [if_pos hsized, if_pos (Or.inl hsized : _ ∨ (basicAt data pos).KeySlice), hfields]
      split_ifs <;> first | rfl | omega
    · by_cases hslice : (basicAt data pos).KeySlice
      · have hfields : readSizes (basicAt data pos) (data.drop pos) = heardAt data pos := by
          simp only [readSizes, headerField_drop, heardAt, if_pos (Or.inr hslice)]
        simp only [if_neg hsized, if_pos hslice,
          if_pos (Or.inr hslice : (basicAt data pos).SizedSet ∨ _), hfields]
        split_ifs <;> first | rfl | omega
      · have hneither := not_or.mpr ⟨hsized, hslice⟩
        by_cases haudio : (basicAt data pos).codect ∈ ptAudio
        · have hfields : readAudio (basicAt data pos) (data.drop pos) = heardAt data pos := by
            simp only [readAudio, headerField_drop, heardAt, if_neg hneither, if_pos haudio]
          simp only [if_neg hsized, if_neg hslice, if_neg hneither, if_pos haudio, hfields]
          split_ifs <;> first | rfl | omega
        · have hfields : basicAt data pos = heardAt data pos := by
            simp only [heardAt, if_neg hneither, if_neg haudio]
          simp only [if_neg hsized, if_neg hslice, if_neg hneither, if_neg haudio]
          rw [← hfields, if_neg (by omega), if_pos (by omega)]

/-- Without a start code that is used, `PraseFrameHeard` returns a header of zeros. -/
theorem praseFrameHeard_unused (hnone : ∀ pos, ¬ Used data pos) :
    praseFrameHeard data = some (.ok {} data.length) := by
  rcases matchDataHeard_cases data with ⟨pos, -, hused⟩ | ⟨hmatch, -⟩
  · exact absurd hused (hnone pos)
  · rw [praseFrameHeard, hmatch]
    rfl

theorem size_ge (h : DataHeard) : 16 ≤ h.size := by
  unfold DataHeard.size
  split_ifs <;> decide

/-- `FrameHeardLen` gives the bytes of the header but for a point cloud. -/
theorem frameHeardLen_eq_size_iff (h : DataHeard) :
    h.frameHeardLen = h.size ↔ h.codect ∉ ptPointCloud := by
  unfold DataHeard.frameHeardLen DataHeard.size
  by_cases hsized : h.SizedSet ∨ h.KeySlice
  · have hcodect : h.codect = ptH264 ∨ h.codect = ptH265 := by
      rcases hsized with h | h
      · exact h.imp And.left And.left
      · exact h.imp And.left And.left
    rw [if_pos hsized, if_pos hsized]
    rcases hcodect with h | h
    · rw [h]
      decide
    · rw [h]
      decide
  · rw [if_neg hsized, if_neg hsized]
    by_cases haudio : h.codect ∈ ptAudio
    · rw [if_pos haudio, if_pos haudio]
      have hdisjoint : ∀ c ∈ ptPointCloud, c ∉ ptAudio := by decide
      exact iff_of_true rfl fun hcloud => hdisjoint _ hcloud haudio
    · rw [if_neg haudio, if_neg haudio]
      split
      · rename_i hcloud
        exact iff_of_false (by decide) fun hnot => hnot hcloud
      · rename_i hcloud
        exact iff_of_true rfl hcloud

/-- `PraseFrameHeard` is in step with the data exactly when there is a start code, and the
header at the one that is used is either incomplete, with a field missing that it asks for,
or complete, not of a point cloud, and behind no other complete header. -/
theorem headerSync_iff (data : List UInt8) :
    HeaderSync data ↔ ∃ pos, Used data pos ∧ (Noticed data pos ∨
      (HeaderAt data pos ∧ (heardAt data pos).codect ∉ ptPointCloud ∧
        ∀ p < pos, ¬ HeaderAt data p)) := by
  constructor
  · rintro ⟨r, hread, hsync⟩
    by_cases hany : ∃ pos, Used data pos
    · obtain ⟨pos, hused⟩ := hany
      refine ⟨pos, hused, ?_⟩
      rw [praseFrameHeard_used hused] at hread
      split at hread
      · rename_i hnoticed
        exact .inl hnoticed
      · split at hread
        · cases hread
          have hsynced := hsync _ _ rfl
          have hlen : (heardAt data pos).frameHeardLen = (heardAt data pos).size :=
            Nat.add_left_cancel hsynced.payload
          exact .inr ⟨hsynced.complete, (frameHeardLen_eq_size_iff _).mp hlen, hsynced.first⟩
        · cases hread
    · -- The header of zeros would have to stand behind the data.
      rw [praseFrameHeard_unused (not_exists.mp hany)] at hread
      cases hread
      have hle := (hsync _ _ rfl).complete.2
      have hsize := size_ge (heardAt data data.length)
      omega
  · rintro ⟨pos, hused, hcase⟩
    have hread := praseFrameHeard_used hused
    by_cases hnoticed : Noticed data pos
    · rw [if_pos hnoticed] at hread
      refine ⟨_, hread, ?_⟩
      rintro h skipsize ⟨⟩
    · obtain ⟨hcomplete, hcloud, hfirst⟩ := hcase.resolve_left hnoticed
      rw [if_neg hnoticed, if_pos hcomplete.2] at hread
      refine ⟨_, hread, ?_⟩
      rintro h skipsize ⟨⟩
      exact ⟨hcomplete, hfirst, rfl, congrArg (pos + ·) ((frameHeardLen_eq_size_iff _).mpr hcloud)⟩

/-- Three buffers that are not read in step: an empty one, for which a header is returned; a
complete header of a P slice with an extended start code in the payload, which is used in its
place; and a parameter set that ends in front of its time stamp. -/
theorem not_headerSync :
    ¬ HeaderSync [] ∧
      ¬ HeaderSync ([0, 0, 1, 0xF0, 26, 0, 1, 0, 40, 0, 25, 0, 20, 0, 0, 0] ++
        [0, 0, 1, 0xFE, 26, 0, 1, 0, 40, 0, 25, 0, 4, 0, 0, 0, 1, 2, 3, 4]) ∧
      ¬ HeaderSync ([0, 0, 1, 0xF0, 26, 0, 7, 0, 40, 0, 25, 0, 20, 0, 0, 0] ++
        [128, 7, 0, 0, 56, 4, 0, 0]) := by
  refine ⟨?_, ?_, ?_⟩
  · rintro ⟨r, hread, hsync⟩
    cases hread
    exact absurd (hsync _ _ rfl).complete (by decide)
  · rintro ⟨r, hread, hsync⟩
    have hlater : praseFrameHeard
        ([0, 0, 1, 0xF0, 26, 0, 1, 0, 40, 0, 25, 0, 20, 0, 0, 0] ++
          [0, 0, 1, 0xFE, 26, 0, 1, 0, 40, 0, 25, 0, 4, 0, 0, 0, 1, 2, 3, 4]) =
        some (.ok ⟨26, 1, 40, 25, 4, 0, 0, 0, 0, 0⟩ 16) := by
      decide +kernel
    rw [hlater] at hread
    cases hread
    exact (hsync _ _ rfl).first 0 (by decide) (by decide +kernel)
  · rintro ⟨r, hread, -⟩
    have hbehind : praseFrameHeard
        ([0, 0, 1, 0xF0, 26, 0, 7, 0, 40, 0, 25, 0, 20, 0, 0, 0] ++
          [128, 7, 0, 0, 56, 4, 0, 0]) = none := by
      decide +kernel
    rw [hbehind] at hread
    cases hread

end SignalingServer
