import SignalingServer.Tinyxml2.StrPair

/-!
What `PrintString` writes for a text, and what `GetStr` makes of it again. Line ends do not come
back as they were: a carriage return becomes a line feed, alone or with one on either side.
Everything else does, also an ampersand that would be a reference.
-/

namespace SignalingServer

namespace Tinyxml2

/-- `_restrictedEntityFlag` and `_entityFlag`. -/
def entityFlag (restricted : Bool) (c : Char) : Bool :=
  if restricted then c = '&' || c = '<' || c = '>' else entities.any fun e => e.value = c

/-- What is written for a byte: the first entity with this value, if it is flagged. -/
def printChar (restricted : Bool) (c : Char) : List Char :=
  if entityFlag restricted c then
    match entities.find? fun e => e.value = c with
    | some e => '&' :: (e.pattern ++ [';'])
    | none => []
  else [c]

/-- `XMLPrinter::PrintString`. -/
def printString (restricted : Bool) (p : List Char) : List Char :=
  p.flatMap (printChar restricted)

/-- A carriage return alone is a line end. -/
def newline (c : Char) : Char := if c = cr then lf else c

/-- Every line end as one line feed: a carriage return with a line feed on either side, or
alone. -/
def normalizeNewlines : List Char → List Char
  | [] => []
  | [c] => [newline c]
  | c :: d :: s =>
      if (c = cr ∧ d = lf) ∨ (c = lf ∧ d = cr) then lf :: normalizeNewlines s
      else newline c :: normalizeNewlines (d :: s)

variable {c d : Char} {s t q : List Char} {restricted : Bool} {flags : StrFlags}

/-! ### Line ends -/

theorem newline_ne_cr (c : Char) : cr ≠ newline c := by
  rw [newline]
  split
  next => decide
  next hc => exact Ne.symm hc

theorem newline_of_ne (hc : c ≠ cr) : newline c = c := if_neg hc

theorem isWhiteSpace_newline (c : Char) : isWhiteSpace (newline c) = isWhiteSpace c := by
  rw [newline]
  split
  next hc =>
    rw [hc]
    decide
  next => rfl

theorem cr_notMem_normalizeNewlines (s : List Char) : cr ∉ normalizeNewlines s := by
  induction s using normalizeNewlines.induct with
  | case1 => exact List.not_mem_nil
  | case2 c => exact fun h => newline_ne_cr c (List.mem_singleton.mp h)
  | case3 c d s hpair ih =>
      rw [normalizeNewlines, if_pos hpair, List.mem_cons, not_or]
      exact ⟨by decide, ih⟩
  | case4 c d s hpair ih =>
      rw [normalizeNewlines, if_neg hpair, List.mem_cons, not_or]
      exact ⟨newline_ne_cr c, ih⟩

theorem normalizeNewlines_of_notMem (h : cr ∉ s) : normalizeNewlines s = s := by
  induction s using normalizeNewlines.induct with
  | case1 => rfl
  | case2 c => rw [normalizeNewlines, newline_of_ne fun hc => h (by simp [hc])]
  | case3 c d s hpair ih =>
      simp only [List.mem_cons, not_or] at h
      rcases hpair with ⟨hc, -⟩ | ⟨-, hd⟩
      · exact absurd hc.symm h.1
      · exact absurd hd.symm h.2.1
  | case4 c d s hpair ih =>
      rw [List.mem_cons, not_or] at h
      rw [normalizeNewlines, if_neg hpair, newline_of_ne (Ne.symm h.1), ih h.2]

/-- A text comes back as it was exactly if it has no carriage return. -/
theorem normalizeNewlines_eq_self : normalizeNewlines s = s ↔ cr ∉ s := by
  refine ⟨fun h => ?_, normalizeNewlines_of_notMem⟩
  rw [← h]
  exact cr_notMem_normalizeNewlines s

theorem mem_normalizeNewlines (h : c ∈ normalizeNewlines s) : c ∈ s ∨ c = lf := by
  have hnewline (d : Char) (hc : c = newline d) : c = d ∨ c = lf := by
    rw [newline] at hc
    split at hc
    · exact .inr hc
    · exact .inl hc
  induction s using normalizeNewlines.induct with
  | case1 => exact .inl h
  | case2 d =>
      rw [List.mem_singleton]
      exact hnewline d (List.mem_singleton.mp h)
  | case3 d e s hpair ih =>
      rw [normalizeNewlines, if_pos hpair, List.mem_cons] at h
      rcases h with rfl | h
      · exact .inr rfl
      · exact (ih h).imp_left fun h => by simp [h]
  | case4 d e s hpair ih =>
      rw [normalizeNewlines, if_neg hpair, List.mem_cons] at h
      rw [List.mem_cons]
      rcases h with h | h
      · exact (hnewline d h).imp_left .inl
      · exact (ih h).imp_left .inr

/-- White space in the place of white space. -/
theorem all_isWhiteSpace_normalizeNewlines (s : List Char) :
    (normalizeNewlines s).all isWhiteSpace = s.all isWhiteSpace := by
  induction s using normalizeNewlines.induct with
  | case1 => rfl
  | case2 c =>
      rw [normalizeNewlines, List.all_cons, List.all_cons, isWhiteSpace_newline]
  | case3 c d s hpair ih =>
      have hcd : isWhiteSpace c = true ∧ isWhiteSpace d = true := by
        rcases hpair with ⟨hc, hd⟩ | ⟨hc, hd⟩ <;> rw [hc, hd] <;> decide
      rw [normalizeNewlines, if_pos hpair, List.all_cons, List.all_cons, List.all_cons, ih,
        hcd.1, hcd.2]
      rfl
  | case4 c d s hpair ih =>
      rw [normalizeNewlines, if_neg hpair, List.all_cons, ih, isWhiteSpace_newline,
        List.all_cons (a := c)]

/-! ### Rounds of `GetStr` -/

@[simp] theorem getStrFrom_nil (read : Nat) : getStrFrom flags read q [] = [] := by
  cases read <;> rfl

theorem getStrFrom_zero (p : List Char) : getStrFrom flags 0 q (c :: p) =
    (getStrRound flags (q.headD c) c p).1 ++
      getStrFrom flags (getStrRound flags (q.headD c) c p).2
        (q.drop (getStrRound flags (q.headD c) c p).1.length) p := rfl

/-- What a round has read already is passed by. -/
theorem getStrFrom_length (a : List Char) (p : List Char) :
    getStrFrom flags a.length q (a ++ p) = getStrFrom flags 0 q p := by
  induction a with
  | nil => rfl
  | cons c a ih => exact ih

/-- A byte that is no line end and begins no reference. -/
theorem getStrRound_plain (hcr : c ≠ cr) (hlf : c ≠ lf)
    (hamp : ¬ (flags.needsEntityProcessing = true ∧ c = '&')) (stale : Char) (p : List Char) :
    getStrRound flags stale c p = ([c], 0) := by
  rw [getStrRound, if_neg (fun h => hcr h.2), if_neg (fun h => hlf h.2), if_neg hamp]

/-- A line end is read with its other half, if that is the next byte. -/
theorem getStrRound_pair (hflags : flags.needsNewlineNormalization = true)
    (hpair : (c = cr ∧ d = lf) ∨ (c = lf ∧ d = cr)) (stale : Char) (p : List Char) :
    getStrRound flags stale c (d :: p) = ([lf], 1) := by
  rcases hpair with ⟨rfl, rfl⟩ | ⟨rfl, rfl⟩
  · rw [getStrRound, if_pos ⟨hflags, rfl⟩]
    rfl
  · rw [getStrRound, if_neg (fun h => absurd h.2 (by decide)), if_pos ⟨hflags, rfl⟩]
    rfl

theorem getStrRound_lone (hflags : flags.needsNewlineNormalization = true)
    (hc : c = cr ∨ c = lf) {p : List Char}
    (hlone : ∀ d, p.head? = some d → ¬ ((c = cr ∧ d = lf) ∨ (c = lf ∧ d = cr))) (stale : Char) :
    getStrRound flags stale c p = ([lf], 0) := by
  rcases hc with rfl | rfl
  · rw [getStrRound, if_pos ⟨hflags, rfl⟩, if_neg fun hhead => hlone lf hhead (.inl ⟨rfl, rfl⟩)]
  · rw [getStrRound, if_neg (fun h => absurd h.2 (by decide)), if_pos ⟨hflags, rfl⟩,
      if_neg fun hhead => hlone cr hhead (.inr ⟨rfl, rfl⟩)]

theorem getStrRound_entity (hflags : flags.needsEntityProcessing = true) {e : Entity}
    (he : e ∈ entities) (stale : Char) (p : List Char) :
    getStrRound flags stale '&' (e.pattern ++ (';' :: p)) = ([e.value], e.pattern.length + 1) := by
  rw [getStrRound, if_neg (fun h => absurd h.2 (by decide)),
    if_neg (fun h => absurd h.2 (by decide)), if_pos ⟨hflags, rfl⟩]
  simp only [entities, List.mem_cons, List.not_mem_nil, or_false] at he
  rcases he with rfl | rfl | rfl | rfl | rfl <;> simp [entities]

theorem newline_of_newline (hc : c = cr ∨ c = lf) : newline c = lf := by
  rcases hc with rfl | rfl <;> rfl

/-- Without references, only the line ends are decoded. -/
theorem getStrFrom_commentValue (s q : List Char) :
    getStrFrom commentValue 0 q s = normalizeNewlines s := by
  have hplain (c : Char) : ¬ (commentValue.needsEntityProcessing = true ∧ c = '&') :=
    fun h => Bool.false_ne_true h.1
  induction s using normalizeNewlines.induct generalizing q with
  | case1 => rfl
  | case2 c =>
      rw [getStrFrom_zero, getStrFrom_nil, List.append_nil, normalizeNewlines]
      by_cases hc : c = cr ∨ c = lf
      · rw [getStrRound_lone (p := []) rfl hc (fun _ h => nomatch h), newline_of_newline hc]
      · rw [not_or] at hc
        rw [getStrRound_plain hc.1 hc.2 (hplain c), newline_of_ne hc.1]
  | case3 c d s hpair ih =>
      rw [getStrFrom_zero, getStrRound_pair rfl hpair, normalizeNewlines, if_pos hpair]
      exact congrArg (lf :: ·) (ih _)
  | case4 c d s hpair ih =>
      rw [normalizeNewlines, if_neg hpair, getStrFrom_zero]
      by_cases hc : c = cr ∨ c = lf
      · rw [getStrRound_lone rfl hc (fun e he => by cases he; exact hpair),
          newline_of_newline hc]
        exact congrArg (lf :: ·) (ih _)
      · rw [not_or] at hc
        rw [getStrRound_plain hc.1 hc.2 (hplain c), newline_of_ne hc.1]
        exact congrArg (c :: ·) (ih _)

/-! ### Printed texts -/

/-- A byte is written as it is, or as the entity that stands for it; an ampersand never as it
is. -/
theorem printChar_cases (restricted : Bool) (c : Char) :
    (printChar restricted c = [c] ∧ entityFlag restricted c = false) ∨
      ∃ e ∈ entities, e.value = c ∧ printChar restricted c = '&' :: (e.pattern ++ [';']) := by
  rw [printChar]
  cases hflag : entityFlag restricted c with
  | false => exact .inl ⟨rfl, rfl⟩
  | true =>
      right
      have hany : entities.any (fun e => e.value = c) = true := by
        cases restricted with
        | false => exact hflag
        | true =>
            simp only [entityFlag, if_true, Bool.or_eq_true, decide_eq_true_eq] at hflag
            rcases hflag with (rfl | rfl) | rfl <;> rfl
      rw [if_pos rfl]
      cases hfind : entities.find? (fun e => e.value = c) with
      | none =>
          obtain ⟨e, hmem, hval⟩ := List.any_eq_true.mp hany
          exact absurd hval (List.find?_eq_none.mp hfind e hmem)
      | some e =>
          exact ⟨e, List.mem_of_find?_eq_some hfind,
            of_decide_eq_true (List.find?_some (p := fun e : Entity => decide (e.value = c)) hfind),
            rfl⟩

theorem entityFlag_amp (restricted : Bool) : entityFlag restricted '&' = true := by
  cases restricted <;> decide

theorem printString_cons (restricted : Bool) (c : Char) (s : List Char) :
    printString restricted (c :: s) = printChar restricted c ++ printString restricted s :=
  List.flatMap_cons

/-- What is no entity is written as it is. -/
theorem printChar_of_notMem (h : ∀ e ∈ entities, e.value ≠ c) :
    printChar restricted c = [c] := by
  rcases printChar_cases restricted c with ⟨hprint, -⟩ | ⟨e, he, hval, -⟩
  · exact hprint
  · exact absurd hval (h e he)

theorem printChar_newline (hc : c = cr ∨ c = lf) : printChar restricted c = [c] :=
  printChar_of_notMem (by rcases hc with rfl | rfl <;> decide)

/-- The first byte written is a line end only for a line end. -/
theorem head?_printString (hd : d = cr ∨ d = lf) :
    (printString restricted (c :: s)).head? = some d ↔ c = d := by
  rw [printString_cons]
  rcases printChar_cases restricted c with ⟨hprint, -⟩ | ⟨e, he, hval, hprint⟩
  · rw [hprint]
    exact Option.some.injEq c d ▸ Iff.rfl
  · rw [hprint]
    have hamp : '&' ≠ d := by rcases hd with rfl | rfl <;> decide
    have hne : c ≠ d := by
      rintro rfl
      rw [printChar_newline hd] at hprint
      exact absurd (List.cons.inj hprint).1.symm hamp
    simp [hamp, hne]

/-- The decoding of what is written for one byte, with the decoding of what is behind it. -/
theorem getStrFrom_printChar (c : Char) (p q : List Char)
    (hlone : ∀ d, p.head? = some d → ¬ ((c = cr ∧ d = lf) ∨ (c = lf ∧ d = cr)))
    (hrest : ∀ q, getStrFrom textElement 0 q p = t) :
    getStrFrom textElement 0 q (printChar restricted c ++ p) = newline c :: t := by
  by_cases hc : c = cr ∨ c = lf
  · rw [printChar_newline hc, List.singleton_append, getStrFrom_zero,
      getStrRound_lone rfl hc hlone, newline_of_newline hc]
    exact congrArg (lf :: ·) (hrest _)
  · rw [not_or] at hc
    rw [newline_of_ne hc.1]
    rcases printChar_cases restricted c with ⟨hprint, hflag⟩ | ⟨e, he, rfl, hprint⟩
    · have hamp : ¬ (textElement.needsEntityProcessing = true ∧ c = '&') := by
        rintro ⟨-, rfl⟩
        rw [entityFlag_amp] at hflag
        exact Bool.noConfusion hflag
      rw [hprint, List.singleton_append, getStrFrom_zero,
        getStrRound_plain hc.1 hc.2 hamp]
      exact congrArg (c :: ·) (hrest _)
    · rw [hprint, List.cons_append, List.append_assoc, List.singleton_append, getStrFrom_zero,
        getStrRound_entity rfl he]
      have hread : (e.pattern ++ [';']).length = e.pattern.length + 1 := List.length_append
      have hsplit : e.pattern ++ (';' :: p) = (e.pattern ++ [';']) ++ p := by
        rw [List.append_assoc, List.singleton_append]
      rw [← hread, hsplit, getStrFrom_length, hrest]
      rfl

/-- A printed text is decoded as if it stood there as it is. -/
theorem getStrFrom_printString (s q : List Char) :
    getStrFrom textElement 0 q (printString restricted s) = normalizeNewlines s := by
  induction s using normalizeNewlines.induct generalizing q with
  | case1 => rfl
  | case2 c =>
      rw [printString_cons, normalizeNewlines]
      exact getStrFrom_printChar c [] q (fun _ h => nomatch h) (fun _ => getStrFrom_nil 0)
  | case3 c d s hpair ih =>
      have hc : c = cr ∨ c = lf := hpair.imp And.left And.left
      have hd : d = cr ∨ d = lf := (hpair.imp And.right And.right).symm
      rw [printString_cons, printChar_newline hc, printString_cons, printChar_newline hd,
        List.singleton_append, List.singleton_append, getStrFrom_zero,
        getStrRound_pair rfl hpair, normalizeNewlines, if_pos hpair]
      exact congrArg (lf :: ·) (ih _)
  | case4 c d s hpair ih =>
      rw [normalizeNewlines, if_neg hpair, printString_cons]
      refine getStrFrom_printChar c _ q (fun e he hpair' => ?_) fun q' => ih q'
      have he' : e = cr ∨ e = lf := (hpair'.imp And.right And.right).symm
      exact hpair ((head?_printString he').mp he ▸ hpair')

theorem mem_printString :
    c ∈ printString restricted s ↔ ∃ d ∈ s, c ∈ printChar restricted d :=
  List.mem_flatMap

/-- Of the flagged bytes only the ampersand is ever written. -/
theorem notMem_printString (hflag : entityFlag restricted c = true) (hamp : c ≠ '&') :
    c ∉ printString restricted s := by
  rw [mem_printString]
  rintro ⟨d, -, hmem⟩
  have hvalues : ∀ e ∈ entities, ∀ e' ∈ entities, e'.value ∉ e.pattern ++ [';'] := by decide
  have hentity : ∃ e' ∈ entities, e'.value = c := by
    rcases printChar_cases restricted c with ⟨-, hnot⟩ | ⟨e', he', hval, -⟩
    · exact absurd (hflag.symm.trans hnot) Bool.noConfusion
    · exact ⟨e', he', hval⟩
  obtain ⟨e', he', rfl⟩ := hentity
  rcases printChar_cases restricted d with ⟨hprint, hnot⟩ | ⟨e, he, -, hprint⟩
  · rw [hprint, List.mem_singleton] at hmem
    rw [hmem, hnot] at hflag
    exact Bool.noConfusion hflag
  · rw [hprint, List.mem_cons] at hmem
    exact hmem.elim hamp (hvalues e he e' he')

theorem nul_notMem_printString (h : SqlText.nul ∉ s) : SqlText.nul ∉ printString restricted s := by
  rw [mem_printString]
  rintro ⟨d, hd, hmem⟩
  have hentities : ∀ e ∈ entities, SqlText.nul ∉ '&' :: (e.pattern ++ [';']) := by decide
  rcases printChar_cases restricted d with ⟨hprint, -⟩ | ⟨e, he, -, hprint⟩
  · rw [hprint, List.mem_singleton] at hmem
    exact h (hmem ▸ hd)
  · rw [hprint] at hmem
    exact hentities e he hmem

/-- Only white space is written as white space. -/
theorem all_isWhiteSpace_printString (s : List Char) :
    (printString restricted s).all isWhiteSpace = s.all isWhiteSpace := by
  have hentities : ∀ e ∈ entities,
      isWhiteSpace e.value = false ∧ isWhiteSpace '&' = false := by decide
  induction s with
  | nil => rfl
  | cons c s ih =>
      rw [printString_cons, List.all_append, ih, List.all_cons]
      congr 1
      rcases printChar_cases restricted c with ⟨hprint, -⟩ | ⟨e, he, rfl, hprint⟩
      · rw [hprint, List.all_cons, List.all_nil, Bool.and_true]
      · rw [hprint, List.all_cons, (hentities e he).1, (hentities e he).2, Bool.false_and]

theorem nul_notMem_normalizeNewlines (h : SqlText.nul ∉ s) :
    SqlText.nul ∉ normalizeNewlines s := fun hmem =>
  (mem_normalizeNewlines hmem).elim h fun heq => absurd heq (by decide)

/-- What is printed for a text is read back as the text, but for its line ends. -/
theorem getStr_printString (h : SqlText.nul ∉ s) :
    getStr textElement (printString restricted s) = normalizeNewlines s := by
  rw [getStr, getStrFrom_printString, SqlText.cText_of_notMem (nul_notMem_normalizeNewlines h)]

theorem getStr_commentValue (h : SqlText.nul ∉ s) :
    getStr commentValue s = normalizeNewlines s := by
  rw [getStr, getStrFrom_commentValue, SqlText.cText_of_notMem (nul_notMem_normalizeNewlines h)]

end Tinyxml2

end SignalingServer
