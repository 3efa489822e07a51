import Mathlib.Data.List.Basic

/-!
The tokens of an SQL text, as MySQL reads it: words, names in backticks, single
characters, and string literals with doubled quotes and backslash escapes. Outside of
a literal, what the statements do not use (comments, double quotes) is read as single
characters. A text that is put between quotes as it stands is read back as itself
exactly if it is `Verbatim`; this holds for a whole statement with any number of such
texts, between fixed parts that have no quotes.
-/

namespace SqlText

inductive Token where
  | word (name : List Char)
  | ident (name : List Char)
  | sym (c : Char)
  | str (value : List Char)
  deriving DecidableEq, Repr

/-- Where the reader is, with what it has of the token. -/
inductive LexState where
  | start
  | word (w : List Char)
  | ident (w : List Char)
  | str (w : List Char)
  /-- After a backslash in a literal. -/
  | esc (w : List Char)
  /-- After a quote in a literal, which ends it or is the first of two. -/
  | quote (w : List Char)
  deriving DecidableEq, Repr

def nul : Char := Char.ofNat 0

def isSpace (c : Char) : Bool := c = ' ' || c = '\t' || c = '\n' || c = '\r'

def wordChar (c : Char) : Bool := c.isAlphanum || c = '_' || c = '$'

/-- What a backslash and `c` stand for. -/
def unescape (c : Char) : List Char :=
  if c = '0' then [nul]
  else if c = 'b' then [Char.ofNat 8]
  else if c = 'n' then ['\n']
  else if c = 'r' then ['\r']
  else if c = 't' then ['\t']
  else if c = 'Z' then [Char.ofNat 26]
  else if c = '%' ∨ c = '_' then ['\\', c]
  else [c]

/-- The first character of a token, or one between tokens. -/
def begin (c : Char) : List Token × LexState :=
  if isSpace c then ([], .start)
  else if c = '\'' then ([], .str [])
  else if c = '`' then ([], .ident [])
  else if wordChar c then ([], .word [c])
  else ([.sym c], .start)

/-- One character: the tokens that it completes, and where the reader is then. -/
def step : LexState → Char → List Token × LexState
  | .start, c => begin c
  | .word w, c =>
      if wordChar c then ([], .word (w ++ [c])) else (.word w :: (begin c).1, (begin c).2)
  | .ident w, c => if c = '`' then ([.ident w], .start) else ([], .ident (w ++ [c]))
  | .str w, c =>
      if c = '\'' then ([], .quote w)
      else if c = '\\' then ([], .esc w)
      else ([], .str (w ++ [c]))
  | .esc w, c => ([], .str (w ++ unescape c))
  | .quote w, c =>
      if c = '\'' then ([], .str (w ++ ['\''])) else (.str w :: (begin c).1, (begin c).2)

def scan : LexState → List Char → List Token × LexState
  | st, [] => ([], st)
  | st, c :: cs => ((step st c).1 ++ (scan (step st c).2 cs).1, (scan (step st c).2 cs).2)

/-- The last token; a name or a literal that is not closed is an error. -/
def finish : LexState → Option (List Token)
  | .start => some []
  | .word w => some [.word w]
  | .quote w => some [.str w]
  | .ident _ | .str _ | .esc _ => none

def lexFrom (st : LexState) (cs : List Char) : Option (List Token) :=
  (finish (scan st cs).2).map ((scan st cs).1 ++ ·)

/-- A C string ends at its first NUL. -/
def cText (cs : List Char) : List Char := cs.takeWhile (· ≠ nul)

/-- The tokens of a statement. -/
def lex (cs : List Char) : Option (List Token) := lexFrom .start (cText cs)

/-- A text that a literal may hold as it stands: no NUL, no quote, and a backslash only
before a percent sign or an underscore. -/
def Verbatim : List Char → Bool
  | [] => true
  | '\\' :: '%' :: cs => Verbatim cs
  | '\\' :: '_' :: cs => Verbatim cs
  | c :: cs => c ≠ '\'' && c ≠ '\\' && c ≠ nul && Verbatim cs

theorem scan_append (st : LexState) (as bs : List Char) :
    scan st (as ++ bs) =
      ((scan st as).1 ++ (scan (scan st as).2 bs).1, (scan (scan st as).2 bs).2) := by
  induction as generalizing st with
  | nil => rfl
  | cons c as ih => simp only [List.cons_append, scan, ih, List.append_assoc]

theorem lexFrom_append (st : LexState) (as bs : List Char) :
    lexFrom st (as ++ bs) = (lexFrom (scan st as).2 bs).map ((scan st as).1 ++ ·) := by
  simp only [lexFrom, scan_append, Option.map_map]
  congr 1
  ext ts : 1
  exact List.append_assoc _ _ _

theorem lexFrom_cons (st : LexState) (c : Char) (cs : List Char) :
    lexFrom st (c :: cs) = (lexFrom (step st c).2 cs).map ((step st c).1 ++ ·) := by
  have happ := lexFrom_append st [c] cs
  simpa [scan] using happ

/-! ### Inside a literal -/

theorem map_nil_append (o : Option (List Token)) : o.map (([] : List Token) ++ ·) = o := by
  simp

@[simp] theorem lexFrom_str_plain {c : Char} (hq : c ≠ '\'') (hb : c ≠ '\\') (w cs : List Char) :
    lexFrom (.str w) (c :: cs) = lexFrom (.str (w ++ [c])) cs := by
  rw [lexFrom_cons, step, if_neg hq, if_neg hb]
  exact map_nil_append _

@[simp] theorem lexFrom_str_quote (w cs : List Char) :
    lexFrom (.str w) ('\'' :: cs) = lexFrom (.quote w) cs := by
  rw [lexFrom_cons, step, if_pos rfl]
  exact map_nil_append _

@[simp] theorem lexFrom_str_backslash (w cs : List Char) :
    lexFrom (.str w) ('\\' :: cs) = lexFrom (.esc w) cs := by
  rw [lexFrom_cons, step, if_neg (by decide), if_pos rfl]
  exact map_nil_append _

@[simp] theorem lexFrom_esc (w : List Char) (c : Char) (cs : List Char) :
    lexFrom (.esc w) (c :: cs) = lexFrom (.str (w ++ unescape c)) cs := by
  rw [lexFrom_cons, step]
  exact map_nil_append _

@[simp] theorem lexFrom_quote_quote (w cs : List Char) :
    lexFrom (.quote w) ('\'' :: cs) = lexFrom (.str (w ++ ['\''])) cs := by
  rw [lexFrom_cons, step, if_pos rfl]
  exact map_nil_append _

/-- Any other character ends the literal and is read for itself. -/
theorem lexFrom_quote {c : Char} (hq : c ≠ '\'') (w cs : List Char) :
    lexFrom (.quote w) (c :: cs) = (lexFrom .start (c :: cs)).map (.str w :: ·) := by
  have hstep : step (.quote w) c = (.str w :: (begin c).1, (begin c).2) := if_neg hq
  rw [lexFrom_cons, lexFrom_cons, hstep, Option.map_map]
  rfl

@[simp] theorem lexFrom_str_nil (w : List Char) : lexFrom (.str w) [] = none := rfl

@[simp] theorem lexFrom_esc_nil (w : List Char) : lexFrom (.esc w) [] = none := rfl

/-- How a literal is read, after its opening quote: its value, the input, and what
is left of the input. -/
inductive Literal : List Char → List Char → List Char → Prop where
  | close {rest : List Char} : Literal [] ('\'' :: rest) rest
  | plain {c : Char} {v cs rest : List Char} : c ≠ '\'' → c ≠ '\\' → Literal v cs rest →
      Literal (c :: v) (c :: cs) rest
  | doubled {v cs rest : List Char} : Literal v cs rest →
      Literal ('\'' :: v) ('\'' :: '\'' :: cs) rest
  | escape {c : Char} {v cs rest : List Char} : Literal v cs rest →
      Literal (unescape c ++ v) ('\\' :: c :: cs) rest

theorem literal_of_lexFrom (n : Nat) {cs : List Char} (hn : cs.length ≤ n) {w v : List Char}
    {ts : List Token} (h : lexFrom (.str w) cs = some (.str v :: ts)) :
    ∃ v' rest, v = w ++ v' ∧ Literal v' cs rest := by
  induction n generalizing cs w with
  | zero =>
      rw [List.length_eq_zero_iff.mp (Nat.le_zero.mp hn)] at h
      cases h
  | succ n ih =>
      rcases cs with _ | ⟨c, cs⟩
      · cases h
      have hlen : cs.length ≤ n := Nat.le_of_succ_le_succ hn
      by_cases hq : c = '\''
      · subst hq
        rw [lexFrom_str_quote] at h
        rcases cs with _ | ⟨d, cs⟩
        · obtain ⟨rfl, -⟩ : w = v ∧ ts = [] := by
            simpa [lexFrom, scan, finish] using Option.some.inj h
          exact ⟨[], [], (List.append_nil _).symm, .close⟩
        by_cases hd : d = '\''
        · subst hd
          rw [lexFrom_quote_quote] at h
          obtain ⟨v', rest, rfl, hlit⟩ := ih (Nat.le_of_succ_le hlen) h
          exact ⟨'\'' :: v', rest, List.append_assoc _ _ _, .doubled hlit⟩
        · rw [lexFrom_quote hd] at h
          obtain ⟨ts', -, heq⟩ := Option.map_eq_some_iff.mp h
          obtain rfl : w = v := by simpa using (List.cons.inj heq).1
          exact ⟨[], d :: cs, (List.append_nil _).symm, .close⟩
      · by_cases hb : c = '\\'
        · subst hb
          rw [lexFrom_str_backslash] at h
          rcases cs with _ | ⟨d, cs⟩
          · cases h
          rw [lexFrom_esc] at h
          obtain ⟨v', rest, rfl, hlit⟩ := ih (Nat.le_of_succ_le hlen) h
          exact ⟨unescape d ++ v', rest, List.append_assoc _ _ _, .escape hlit⟩
        · rw [lexFrom_str_plain hq hb] at h
          obtain ⟨v', rest, rfl, hlit⟩ := ih hlen h
          exact ⟨c :: v', rest, List.append_assoc _ _ _, .plain hq hb hlit⟩

/-- A quote or a backslash. -/
def Special (c : Char) : Prop := c = '\'' ∨ c = '\\'

instance (c : Char) : Decidable (Special c) := inferInstanceAs (Decidable (_ ∨ _))

theorem unescape_cases (c : Char) :
    (Special c ∧ unescape c = [c]) ∨ ((c = '%' ∨ c = '_') ∧ unescape c = ['\\', c]) ∨
      ∃ u, ¬ Special u ∧ unescape c = [u] := by
  unfold unescape
  by_cases h0 : c = '0'
  · exact .inr (.inr ⟨_, by decide, if_pos h0⟩)
  rw [if_neg h0]
  by_cases hbs : c = 'b'
  · exact .inr (.inr ⟨_, by decide, if_pos hbs⟩)
  rw [if_neg hbs]
  by_cases hn : c = 'n'
  · exact .inr (.inr ⟨_, by decide, if_pos hn⟩)
  rw [if_neg hn]
  by_cases hr : c = 'r'
  · exact .inr (.inr ⟨_, by decide, if_pos hr⟩)
  rw [if_neg hr]
  by_cases ht : c = 't'
  · exact .inr (.inr ⟨_, by decide, if_pos ht⟩)
  rw [if_neg ht]
  by_cases hz : c = 'Z'
  · exact .inr (.inr ⟨_, by decide, if_pos hz⟩)
  rw [if_neg hz]
  by_cases hp : c = '%' ∨ c = '_'
  · exact .inr (.inl ⟨hp, if_pos hp⟩)
  rw [if_neg hp]
  by_cases hs : Special c
  · exact .inl ⟨hs, rfl⟩
  · exact .inr (.inr ⟨c, hs, rfl⟩)

/-- A literal takes more characters than its value has. -/
theorem Literal.length_lt {v cs rest : List Char} (h : Literal v cs rest) :
    v.length < cs.length := by
  induction h with
  | close => exact Nat.succ_pos _
  | plain _ _ _ ih => exact Nat.succ_lt_succ ih
  | doubled _ ih =>
      simp only [List.length_cons]
      omega
  | @escape c v cs rest _ ih =>
      have hlen : (unescape c).length ≤ 2 := by
        rcases unescape_cases c with ⟨-, heq⟩ | ⟨-, heq⟩ | ⟨u, -, heq⟩ <;> simp [heq]
      simp only [List.length_append, List.length_cons]
      omega

/-- A text that starts with quotes and backslashes is not one that starts with another
character. -/
theorem append_special_ne {ahead : List Char} (hahead : ∀ c ∈ ahead, Special c) {d : Char}
    (hd : Special d) (cs : List Char) {r : Char} (hr : ¬ Special r) (rest : List Char) :
    ahead ++ d :: cs ≠ r :: rest := by
  intro heq
  cases ahead with
  | nil =>
      rw [(List.cons.inj heq).1] at hd
      exact hr hd
  | cons y ahead =>
      have hy := hahead y List.mem_cons_self
      rw [(List.cons.inj heq).1] at hy
      exact hr hy

/-- Once the reader is ahead of the text that it is to give back, by quotes and
backslashes that it still has to give, it does not get to the end of the text: the
value has to go on with quotes and backslashes, and each takes two more of them. -/
theorem Literal.not_ahead {v cs left : List Char} (h : Literal v cs left) (ahead : List Char)
    (hne : ahead ≠ []) (hahead : ∀ c ∈ ahead, Special c) {r : Char} {rest : List Char}
    (hr : ¬ Special r) : ahead ++ cs ≠ v ++ '\'' :: r :: rest := by
  induction h generalizing ahead with
  | close =>
      intro heq
      obtain ⟨x, ahead, rfl⟩ := List.exists_cons_of_ne_nil hne
      exact append_special_ne (fun c hc => hahead c (List.mem_cons_of_mem _ hc)) (.inl rfl) _ hr _
        (List.cons.inj heq).2
  | plain hq hb _ _ =>
      intro heq
      obtain ⟨x, ahead, rfl⟩ := List.exists_cons_of_ne_nil hne
      have hx := hahead x List.mem_cons_self
      rw [(List.cons.inj heq).1] at hx
      exact hx.elim hq hb
  | @doubled v cs left _ ih =>
      intro heq
      obtain ⟨x, ahead, rfl⟩ := List.exists_cons_of_ne_nil hne
      apply ih (ahead ++ ['\'', '\'']) (by simp)
      · intro c hc
        rcases List.mem_append.mp hc with hc | hc
        · exact hahead c (List.mem_cons_of_mem _ hc)
        · left
          simpa using hc
      · rw [List.append_assoc]
        exact (List.cons.inj heq).2
  | @escape c v cs left _ ih =>
      intro heq
      obtain ⟨x, ahead, rfl⟩ := List.exists_cons_of_ne_nil hne
      have hx := hahead x List.mem_cons_self
      rcases unescape_cases c with ⟨hc, hval⟩ | ⟨hc, hval⟩ | ⟨u, hu, hval⟩
      · rw [hval] at heq
        apply ih (ahead ++ ['\\', c]) (by simp)
        · intro d hd
          rcases List.mem_append.mp hd with hd | hd
          · exact hahead d (List.mem_cons_of_mem _ hd)
          · rcases List.mem_cons.mp hd with rfl | hd
            · exact .inr rfl
            · rw [List.mem_singleton.mp hd]
              exact hc
        · rw [List.append_assoc]
          exact (List.cons.inj heq).2
      · -- the percent sign is neither ahead nor the backslash before it
        have hplain : ¬ Special c := by rcases hc with rfl | rfl <;> decide
        rw [hval] at heq
        exact append_special_ne (fun c hc => hahead c (List.mem_cons_of_mem _ hc)) (.inr rfl) _
          hplain _ (List.cons.inj heq).2
      · rw [hval] at heq
        rw [(List.cons.inj heq).1] at hx
        exact hu hx

theorem verbatim_cons {c : Char} (hb : c ≠ '\\') (cs : List Char) :
    Verbatim (c :: cs) = (c ≠ '\'' && c ≠ nul && Verbatim cs) := by
  rw [Verbatim.eq_4 c cs (fun _ h _ => hb h) (fun _ h _ => hb h)]
  simp [hb]

theorem verbatim_escape {c : Char} (hc : c = '%' ∨ c = '_') (cs : List Char) :
    Verbatim ('\\' :: c :: cs) = Verbatim cs := by
  rcases hc with rfl | rfl <;> rfl

/-- A text that its literal gives back is `Verbatim`. -/
theorem Literal.verbatim {v cs left : List Char} (h : Literal v cs left) (hnul : nul ∉ v)
    {r : Char} {rest : List Char} (hr : ¬ Special r) (hcs : cs = v ++ '\'' :: r :: rest) :
    Verbatim v := by
  induction h with
  | close => rfl
  | @plain c v cs left hq hb _ ih =>
      have hc : c ≠ nul := fun heq => hnul (heq ▸ List.mem_cons_self)
      rw [verbatim_cons hb]
      simp only [hq, hc, ne_eq, not_false_eq_true, decide_true, Bool.true_and]
      exact ih (fun h => hnul (List.mem_cons_of_mem _ h)) (List.cons.inj hcs).2
  | @doubled v cs left hlit _ =>
      have hahead := (List.cons.inj hcs).2
      exact absurd hahead (hlit.not_ahead ['\''] (by simp) (by simp [Special]) hr)
  | @escape c v cs left hlit ih =>
      rcases unescape_cases c with ⟨hc, hval⟩ | ⟨hc, hval⟩ | ⟨u, hu, hval⟩
      · rw [hval] at hcs
        obtain ⟨hslash, hahead⟩ := List.cons.inj hcs
        exact absurd hahead (hlit.not_ahead [c] (by simp) (by simpa using hc) hr)
      · rw [hval] at hcs hnul ⊢
        have htail := (List.cons.inj (List.cons.inj hcs).2).2
        refine (verbatim_escape hc v).trans (ih (fun h => hnul ?_) htail)
        exact List.mem_append_right _ h
      · rw [hval] at hcs
        exact absurd (.inr (List.cons.inj hcs).1.symm) hu

/-- A `Verbatim` text is read back as itself. -/
theorem lexFrom_verbatim {f : List Char} (hf : Verbatim f) (w cs : List Char) :
    lexFrom (.str w) (f ++ '\'' :: cs) = lexFrom (.quote (w ++ f)) cs := by
  induction f using Verbatim.induct generalizing w with
  | case1 => rw [List.nil_append, lexFrom_str_quote, List.append_nil]
  | case2 f ih =>
      rw [verbatim_escape (.inl rfl)] at hf
      have hesc : unescape '%' = ['\\', '%'] := rfl
      rw [List.cons_append, List.cons_append, lexFrom_str_backslash, lexFrom_esc, ih hf, hesc,
        List.append_assoc]
      rfl
  | case3 f ih =>
      rw [verbatim_escape (.inr rfl)] at hf
      have hesc : unescape '_' = ['\\', '_'] := rfl
      rw [List.cons_append, List.cons_append, lexFrom_str_backslash, lexFrom_esc, ih hf, hesc,
        List.append_assoc]
      rfl
  | case4 c f hp hu ih =>
      rw [Verbatim.eq_4 c f hp hu] at hf
      simp only [ne_eq, Bool.and_eq_true, decide_eq_true_eq] at hf
      obtain ⟨⟨⟨hq, hb⟩, -⟩, hf⟩ := hf
      rw [List.cons_append, lexFrom_str_plain hq hb, ih hf, List.append_assoc]
      rfl

theorem nul_notMem {f : List Char} (hf : Verbatim f) : nul ∉ f := by
  induction f using Verbatim.induct with
  | case1 => exact List.not_mem_nil
  | case2 f ih =>
      rw [verbatim_escape (.inl rfl)] at hf
      intro h
      rcases List.mem_cons.mp h with h | h
      · exact absurd h (by decide)
      · rcases List.mem_cons.mp h with h | h
        · exact absurd h (by decide)
        · exact ih hf h
  | case3 f ih =>
      rw [verbatim_escape (.inr rfl)] at hf
      intro h
      rcases List.mem_cons.mp h with h | h
      · exact absurd h (by decide)
      · rcases List.mem_cons.mp h with h | h
        · exact absurd h (by decide)
        · exact ih hf h
  | case4 c f hp hu ih =>
      rw [Verbatim.eq_4 c f hp hu] at hf
      simp only [ne_eq, Bool.and_eq_true, decide_eq_true_eq] at hf
      intro h
      rcases List.mem_cons.mp h with h | h
      · exact hf.1.2 h.symm
      · exact ih hf.2 h

/-! ### Texts between fixed parts -/

/-- A part without quotes that is read from token to token, and that a literal in front
of it ends at. -/
structure Fixed (lead : List Char) : Prop where
  ends : (scan .start lead).2 = .start
  head : ∃ c cs, lead = c :: cs ∧ ¬ Special c
  nul : nul ∉ lead

instance (lead : List Char) : Decidable (Fixed lead) :=
  decidable_of_iff
    ((scan .start lead).2 = .start ∧ (lead.head?.any fun c => ¬ Special c) ∧ nul ∉ lead) <| by
      constructor
      · rintro ⟨hends, hhead, hnul⟩
        cases lead with
        | nil => cases hhead
        | cons c cs => exact ⟨hends, ⟨c, cs, rfl, of_decide_eq_true hhead⟩, hnul⟩
      · rintro ⟨hends, ⟨c, cs, rfl, hspecial⟩, hnul⟩
        exact ⟨hends, decide_eq_true hspecial, hnul⟩

theorem Fixed.append {as bs : List Char} (has : Fixed as) (hbs : Fixed bs) : Fixed (as ++ bs) where
  ends := by
    rw [scan_append, has.ends]
    exact hbs.ends
  head := by
    obtain ⟨c, cs, rfl, hc⟩ := has.head
    exact ⟨c, cs ++ bs, rfl, hc⟩
  nul := by
    rw [List.mem_append, not_or]
    exact ⟨has.nul, hbs.nul⟩

/-- Fixed parts are read one after the other. -/
theorem Fixed.scan_append {as : List Char} (has : Fixed as) (bs : List Char) :
    (scan .start (as ++ bs)).1 = (scan .start as).1 ++ (scan .start bs).1 := by
  rw [SqlText.scan_append, has.ends]

/-- A statement: texts in quotes, each after a fixed part, and a fixed part at the end. -/
def render : List (List Char × List Char) → List Char → List Char
  | [], tail => tail
  | (lead, f) :: items, tail => lead ++ '\'' :: (f ++ '\'' :: render items tail)

/-- Its tokens, with one literal for each text. -/
def expected : List (List Char × List Char) → List Char → List Token
  | [], tail => (scan .start tail).1
  | (lead, f) :: items, tail => (scan .start lead).1 ++ .str f :: expected items tail

theorem cText_append {as : List Char} (h : nul ∉ as) (bs : List Char) :
    cText (as ++ bs) = as ++ cText bs := by
  apply List.takeWhile_append_of_pos
  intro c hc
  simp only [ne_eq, decide_eq_true_eq]
  rintro rfl
  exact h hc

theorem cText_of_notMem {cs : List Char} (h : nul ∉ cs) : cText cs = cs := by
  rw [← List.append_nil cs, cText_append h]
  rfl

/-- A NUL cuts off what follows it. -/
theorem length_cText_le (as bs : List Char) : (cText (as ++ nul :: bs)).length ≤ as.length := by
  induction as with
  | nil => exact Nat.le_refl _
  | cons c as ih =>
      rw [List.cons_append, cText, List.takeWhile_cons]
      split
      · exact Nat.succ_le_succ ih
      · exact Nat.zero_le _

theorem cText_quote (cs : List Char) : cText ('\'' :: cs) = '\'' :: cText cs := by
  have hnot : nul ∉ ['\''] := by decide
  exact cText_append hnot cs

/-- A fixed part in front of a literal. -/
theorem lexFrom_fixed {lead : List Char} (hlead : Fixed lead) (cs : List Char) :
    lexFrom .start (lead ++ '\'' :: cs) =
      (lexFrom (.str []) cs).map ((scan .start lead).1 ++ ·) := by
  have hquote : lexFrom .start ('\'' :: cs) = lexFrom (.str []) cs := by
    rw [lexFrom_cons]
    exact map_nil_append _
  rw [lexFrom_append, hlead.ends, hquote]

/-- What a statement starts with ends a literal in front of it. -/
theorem render_head {items : List (List Char × List Char)} {tail : List Char}
    (hitems : ∀ it ∈ items, Fixed it.1) (htail : Fixed tail) :
    ∃ c cs, render items tail = c :: cs ∧ ¬ Special c ∧ c ≠ nul := by
  have hfixed : ∀ {lead : List Char}, Fixed lead → ∀ cs,
      ∃ c cs', lead ++ cs = c :: cs' ∧ ¬ Special c ∧ c ≠ nul := by
    intro lead hlead cs
    obtain ⟨c, cs', rfl, hc⟩ := hlead.head
    exact ⟨c, cs' ++ cs, rfl, hc, fun heq => hlead.nul (heq ▸ List.mem_cons_self)⟩
  cases items with
  | nil => simpa [render] using hfixed htail []
  | cons it items => exact hfixed (hitems it List.mem_cons_self) _

/-- One literal: it is read back as the text, and what follows is read from its start,
exactly if the text is `Verbatim`. -/
theorem lexFrom_field {f cs : List Char} (hcs : ∃ c cs', cs = c :: cs' ∧ ¬ Special c ∧ c ≠ nul)
    (ts : List Token) :
    lexFrom (.str []) (cText (f ++ '\'' :: cs)) = some (.str f :: ts) ↔
      Verbatim f ∧ lexFrom .start (cText cs) = some ts := by
  obtain ⟨c, cs', rfl, hc, hcnul⟩ := hcs
  have hctext : cText (c :: cs') = c :: cText cs' := by
    have hnot : nul ∉ [c] := by simpa using Ne.symm hcnul
    exact cText_append hnot cs'
  constructor
  · intro h
    have hnul : nul ∉ f := by
      -- cut off inside the text, the input is too short for it
      intro hmem
      obtain ⟨v, left, hv, hlit⟩ := literal_of_lexFrom _ (Nat.le_refl _) h
      rw [List.nil_append] at hv
      subst hv
      obtain ⟨as, bs, hsplit⟩ := List.append_of_mem hmem
      have hshort : (cText (f ++ '\'' :: c :: cs')).length ≤ as.length := by
        rw [hsplit, List.append_assoc]
        exact length_cText_le as _
      have hlen := hlit.length_lt
      have hf : f.length = as.length + (bs.length + 1) := by rw [hsplit]; simp
      omega
    rw [cText_append hnul, cText_quote] at h
    obtain ⟨v, left, hv, hlit⟩ := literal_of_lexFrom _ (Nat.le_refl _) h
    rw [List.nil_append] at hv
    subst hv
    rw [hctext] at hlit
    have hverb : Verbatim f := hlit.verbatim hnul hc rfl
    refine ⟨hverb, ?_⟩
    rw [lexFrom_verbatim hverb, hctext, List.nil_append, lexFrom_quote (fun hq => hc (.inl hq))] at h
    obtain ⟨ts', hts', heq⟩ := Option.map_eq_some_iff.mp h
    rw [hctext, hts', (List.cons.inj heq).2]
  · rintro ⟨hverb, h⟩
    rw [cText_append (nul_notMem hverb), cText_quote, lexFrom_verbatim hverb, hctext,
      List.nil_append, lexFrom_quote (fun hq => hc (.inl hq)), ← hctext, h]
    rfl

/-- A statement is read as its tokens, with one literal for each text, exactly if all
texts are `Verbatim`. -/
theorem lex_render_iff {items : List (List Char × List Char)} {tail : List Char}
    (hitems : ∀ it ∈ items, Fixed it.1) (htail : Fixed tail) :
    lex (render items tail) = some (expected items tail) ↔ ∀ it ∈ items, Verbatim it.2 := by
  induction items with
  | nil =>
      have hcut : cText tail = tail := by
        have happ := cText_append htail.nul []
        have hnil : cText [] = [] := rfl
        rwa [hnil, List.append_nil] at happ
      simp only [lex, render, expected, hcut, lexFrom, htail.ends, finish]
      simp
  | cons it items ih =>
      obtain ⟨lead, f⟩ := it
      have hlead : Fixed lead := hitems _ List.mem_cons_self
      have hrest := fun it hit => hitems it (List.mem_cons_of_mem _ hit)
      have hhead := render_head hrest htail
      simp only [lex, render, expected, List.forall_mem_cons]
      rw [cText_append hlead.nul, cText_quote, lexFrom_fixed hlead, ← ih hrest, lex,
        ← lexFrom_field hhead]
      constructor
      · intro h
        obtain ⟨ts, hts, heq⟩ := Option.map_eq_some_iff.mp h
        rw [hts, List.append_cancel_left heq]
      · intro h
        rw [h]
        rfl

end SqlText
