import SignalingServer.Media.FileReader

/-!
The read position `m_vit` of the file readers: what `H264FileReader::GetNextFrame` delivers
when it is called until the end of the file, and where `Seek` goes.
-/

namespace SignalingServer

namespace FileReader

/-! ### Reading to the end -/

/-- What the calls of `GetNextFrame` fill in until one returns -1; `none` where that is not
within `fuel` calls, or where a call is undefined. -/
def readAll : Nat → FileReader → Option (List ReaderFrame)
  | 0, _ => none
  | fuel + 1, r =>
      (H264FileReader.getNextFrame r).bind fun
        | (none, _) => some []
        | (some frame, r) => (readAll fuel r).map (frame :: ·)

/-- Reading from the first frame on yields every frame once, in order. -/
def DeliversAll (r : FileReader) : Prop :=
  ∃ fuel, readAll fuel { r with m_vit := 0 } = some r.queue.m_videos

variable {r r' : FileReader} {frame : ReaderFrame}

theorem getNextFrame264_of_some (h : r.getNextFrame264 = some (some frame, r')) :
    r'.m_vit = r.m_vit + 1 ∧ r'.queue.m_videos.length + 1 = r.queue.m_videos.length ∧
      r.m_vit < r.queue.m_videos.length := by
  unfold getNextFrame264 at h
  split at h
  · cases h
  · obtain ⟨f, hf, heq⟩ := Option.map_eq_some_iff.mp h
    obtain ⟨-, rfl⟩ := Prod.mk.inj heq
    have hlt := (List.getElem?_eq_some_iff.mp hf).1
    refine ⟨rfl, ?_, hlt⟩
    show r.queue.m_videos.dropLast.length + 1 = _
    rw [List.length_dropLast]
    omega

theorem getNextFrame264_of_none (h : r.getNextFrame264 = some (none, r')) :
    r.m_vit = r.queue.m_videos.length := by
  unfold getNextFrame264 at h
  split at h
  · assumption
  · obtain ⟨f, -, heq⟩ := Option.map_eq_some_iff.mp h
    cases heq

/-- Every call takes one frame off the end, so that the position meets the end half way. -/
theorem readAll_length {fuel : Nat} {frames : List ReaderFrame}
    (h : readAll fuel r = some frames) :
    r.m_vit + 2 * frames.length = r.queue.m_videos.length := by
  induction fuel generalizing r frames with
  | zero => cases h
  | succ fuel ih =>
      obtain ⟨⟨next, r'⟩, hnext, hrest⟩ := Option.bind_eq_some_iff.mp h
      cases next with
      | none =>
          obtain rfl := Option.some.inj hrest
          rw [List.length_nil, getNextFrame264_of_none hnext, Nat.mul_zero, Nat.add_zero]
      | some frame =>
          obtain ⟨frames', hframes', rfl⟩ := Option.map_eq_some_iff.mp hrest
          obtain ⟨hvit, hlength, -⟩ := getNextFrame264_of_some hnext
          have hhalf := ih hframes'
          rw [List.length_cons]
          omega

/-- `H264FileReader` delivers the frames of a file exactly when there are none. -/
theorem deliversAll_iff (r : FileReader) : r.DeliversAll ↔ r.queue.m_videos = [] := by
  constructor
  · rintro ⟨fuel, hall⟩
    have hhalf := readAll_length hall
    rw [← List.length_eq_zero_iff]
    dsimp only at hhalf
    omega
  · intro hnone
    refine ⟨1, ?_⟩
    simp [readAll, H264FileReader.getNextFrame, getNextFrame264, hnone]

/-! ### Seeking -/

/-- The first frame whose time is not less than `dts`. -/
def IsFirst (videos : List ReaderFrame) (dts : Int) (n : Nat) : Prop :=
  ∃ frame, videos[n]? = some frame ∧ dts ≤ frame.time ∧
    ∀ m < n, ∀ f, videos[m]? = some f → f.time < dts

/-- There is an IDR frame at this place. -/
def IdrAt (videos : List ReaderFrame) (i : Nat) : Prop :=
  ∃ frame, videos[i]? = some frame ∧ frame.idr = true

/-- The last IDR frame at or before place `n`. -/
def IsLastIdr (videos : List ReaderFrame) (n i : Nat) : Prop :=
  i ≤ n ∧ IdrAt videos i ∧ ∀ j, i < j → j ≤ n → ¬ IdrAt videos j

/-- Where `Seek` returns 0 the read position is the last IDR frame at or before the first
frame that is not earlier than `dts`, and it returns 0 if there is such a frame. -/
def SeeksRight (r : FileReader) (dts : Int) : Prop :=
  ((r.seek dts).1 = 0 → ∃ n i, IsFirst r.queue.m_videos dts n ∧
    IsLastIdr r.queue.m_videos n i ∧ (r.seek dts).2.m_vit = i) ∧
  ((∃ n i, IsFirst r.queue.m_videos dts n ∧ IsLastIdr r.queue.m_videos n i) →
    (r.seek dts).1 = 0)

theorem idrAt_iff {videos : List ReaderFrame} {i : Nat} :
    IdrAt videos i ↔ videos[i]?.any (·.idr) = true := by
  rw [Option.any_eq_true]
  rfl

/-- The walk finds the last IDR frame, if there is one behind the first frame. -/
theorem walkBack_of_some {videos : List ReaderFrame} {n i : Nat}
    (h : walkBack videos n = some i) : 0 < i ∧ IsLastIdr videos n i := by
  induction n with
  | zero => cases h
  | succ n ih =>
      rw [walkBack] at h
      split at h
      · rename_i hidr
        obtain rfl := Option.some.inj h
        exact ⟨Nat.succ_pos n, Nat.le_refl _, idrAt_iff.mpr hidr,
          fun j hlt hle => absurd hle (Nat.not_le.mpr hlt)⟩
      · rename_i hidr
        obtain ⟨hpos, hle, hat, hlast⟩ := ih h
        refine ⟨hpos, Nat.le_succ_of_le hle, hat, fun j hlt hle' => ?_⟩
        rcases Nat.lt_or_eq_of_le hle' with hless | rfl
        · exact hlast j hlt (Nat.le_of_lt_succ hless)
        · exact fun hj => hidr (idrAt_iff.mp hj)

theorem walkBack_of_none {videos : List ReaderFrame} {n : Nat} (h : walkBack videos n = none) :
    ∀ j, 0 < j → j ≤ n → ¬ IdrAt videos j := by
  induction n with
  | zero => exact fun j hpos hle => absurd hle (Nat.not_le.mpr hpos)
  | succ n ih =>
      rw [walkBack] at h
      split at h
      · cases h
      · rename_i hidr
        intro j hpos hle
        rcases Nat.lt_or_eq_of_le hle with hless | rfl
        · exact ih h j hpos (Nat.le_of_lt_succ hless)
        · exact fun hj => hidr (idrAt_iff.mp hj)

/-- Where the times do not decrease, `lower_bound` finds the end of the frames before `dts`. -/
theorem splits_lowerBound {videos : List ReaderFrame}
    (hsorted : videos.Pairwise fun f g => f.time ≤ g.time) (dts : Int) :
    LowerBound.Splits (fun frame => decide (frame.time < dts)) videos
      (LowerBound.lowerBound (fun frame => frame.time < dts) videos) := by
  apply LowerBound.lowerBound_splits
  apply LowerBound.partitioned_of_pairwise _ hsorted
  intro f g hle hg
  simp only [decide_eq_true_eq] at hg ⊢
  omega

theorem isFirst_iff {videos : List ReaderFrame} {dts : Int} {it : Nat}
    (hsplits : LowerBound.Splits (fun frame => decide (frame.time < dts)) videos it) (n : Nat) :
    IsFirst videos dts n ↔ n = it ∧ n < videos.length := by
  constructor
  · rintro ⟨frame, hframe, hle, hbefore⟩
    refine ⟨?_, (List.getElem?_eq_some_iff.mp hframe).1⟩
    rcases Nat.lt_trichotomy n it with hlt | rfl | hgt
    · have hless := of_decide_eq_true (hsplits.before hlt hframe)
      omega
    · rfl
    · have hit : it < videos.length := Nat.lt_trans hgt (List.getElem?_eq_some_iff.mp hframe).1
      have hless := hbefore it hgt _ (List.getElem?_eq_getElem hit)
      have hnot := of_decide_eq_false
        (hsplits.behind (Nat.le_refl it) (List.getElem?_eq_getElem hit))
      exact absurd hless hnot
  · rintro ⟨rfl, hlt⟩
    refine ⟨_, List.getElem?_eq_getElem hlt, ?_, fun m hm f hf => ?_⟩
    · have hnot := of_decide_eq_false
        (hsplits.behind (Nat.le_refl n) (List.getElem?_eq_getElem hlt))
      omega
    · exact of_decide_eq_true (hsplits.before hm hf)

/-- The frame to go to is not the first one of the file, unless `m_vit` is there already. -/
def HasTarget (r : FileReader) (dts : Int) : Prop :=
  ∀ n, IsFirst r.queue.m_videos dts n →
    (∃ i, 0 < i ∧ i ≤ n ∧ IdrAt r.queue.m_videos i) ∨
      (r.m_vit = 0 ∧ IdrAt r.queue.m_videos 0)

/-- `Seek` goes to the last IDR frame exactly when there is one behind the first frame, or
the first frame is one and the read position, which stays as it is, is at it. -/
theorem seeksRight_iff (r : FileReader) (dts : Int)
    (hsorted : r.queue.m_videos.Pairwise fun f g => f.time ≤ g.time) :
    r.SeeksRight dts ↔ r.HasTarget dts := by
  have hsplits := splits_lowerBound hsorted dts
  unfold SeeksRight HasTarget seek
  generalize LowerBound.lowerBound (fun frame => decide (frame.time < dts)) r.queue.m_videos = it
    at hsplits
  have hfirst := isFirst_iff hsplits
  dsimp only
  by_cases hend : it = r.queue.m_videos.length
  · have hnone : ∀ n, ¬ IsFirst r.queue.m_videos dts n := by
      intro n hn
      obtain ⟨rfl, hlt⟩ := (hfirst n).mp hn
      omega
    rw [if_pos hend]
    refine iff_of_true ⟨fun h => absurd h (by simp), ?_⟩ fun n hn => absurd hn (hnone n)
    rintro ⟨n, i, hn, -⟩
    exact absurd hn (hnone n)
  · have hit : IsFirst r.queue.m_videos dts it :=
      (hfirst it).mpr ⟨rfl, Nat.lt_of_le_of_ne hsplits.le hend⟩
    have hunique : ∀ n, IsFirst r.queue.m_videos dts n → n = it := fun n hn => ((hfirst n).mp hn).1
    rw [if_neg hend]
    dsimp only
    cases hwalk : walkBack r.queue.m_videos it with
    | some i =>
        obtain ⟨hpos, hlast⟩ := walkBack_of_some hwalk
        refine iff_of_true ⟨fun _ => ⟨it, i, hit, hlast, rfl⟩, fun _ => rfl⟩ fun n hn => .inl ?_
        obtain rfl := hunique n hn
        exact ⟨i, hpos, hlast.1, hlast.2.1⟩
    | none =>
        have hno := walkBack_of_none hwalk
        constructor
        · rintro ⟨hright, -⟩ n hn
          obtain ⟨m, i, hm, ⟨hle, hat, -⟩, hvit⟩ := hright rfl
          obtain rfl := hunique m hm
          rcases Nat.eq_zero_or_pos i with rfl | hpos
          · exact .inr ⟨hvit, hat⟩
          · exact absurd hat (hno i hpos hle)
        · intro htarget
          rcases htarget it hit with ⟨i, hpos, hle, hat⟩ | ⟨hvit, hat⟩
          · exact absurd hat (hno i hpos hle)
          · exact ⟨fun _ => ⟨it, 0, hit, ⟨Nat.zero_le it, hat, hno⟩, hvit⟩, fun _ => rfl⟩

/-- A reader with these frames, at a read position. -/
def sampleReader (videos : List ReaderFrame) (vit : Nat) : FileReader :=
  { blank videos true fun _ _ => 0 with m_vit := vit }

/-- Three frames, of which the first one is an IDR frame. -/
def sampleVideos : List ReaderFrame :=
  [⟨⟨0, 0⟩, 0, 6, true⟩, ⟨⟨0, 6⟩, 40, 6, false⟩, ⟨⟨0, 12⟩, 80, 6, false⟩]

theorem seeksRight_iff_rewound :
    (sampleReader sampleVideos 0).SeeksRight 40 ↔ (sampleReader sampleVideos 0).HasTarget 40 :=
  seeksRight_iff (sampleReader sampleVideos 0) 40 (by decide)

/-- Two frames of which one is delivered. -/
theorem not_deliversAll : ¬ (sampleReader (sampleVideos.take 2) 0).DeliversAll := by
  rintro ⟨fuel, hall⟩
  have hhalf := readAll_length hall
  revert hhalf
  decide

/-- From its end the file is not rewound: 0 is returned, and `m_vit` stays. -/
theorem not_seeksRight : ¬ (sampleReader sampleVideos 3).SeeksRight 40 := by
  rintro ⟨hright, -⟩
  obtain ⟨n, i, -, ⟨-, ⟨frame, hframe, -⟩, -⟩, hvit⟩ := hright (by decide)
  obtain rfl : 3 = i := hvit
  cases hframe

end FileReader

end SignalingServer
