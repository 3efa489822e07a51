import Mathlib.Tactic.IntervalCases
import SignalingServer.Tinyxml2.XMLDocument

/-!
The texts that the parser accepts, as a grammar. `Content` says which text is the content of a
level, with the nodes that stand in it and with the end tag behind them; nothing in it looks
ahead or counts rounds. The parser accepts exactly these texts and returns exactly these nodes,
and it always comes to an end.
-/

namespace SignalingServer

namespace Tinyxml2

open Scanning XMLNode

/-! ### The grammar -/

def Blank (s : List Char) : Prop := ∀ c ∈ s, isWhiteSpace c = true

/-- The text does not go on with a character of this kind. -/
def Stops (kind : Char → Bool) (s : List Char) : Prop := ∀ c ∈ s.head?, kind c = false

def IsName (name : Name) : Prop :=
  ∃ c rest, name = c :: rest ∧ isNameStartChar c = true ∧ ∀ d ∈ rest, isNameChar d = true

instance : DecidablePred IsName
  | [] => isFalse fun ⟨_, _, h, _⟩ => nomatch h
  | c :: rest =>
      decidable_of_iff (isNameStartChar c = true ∧ ∀ d ∈ rest, isNameChar d = true)
        ⟨fun h => ⟨c, rest, rfl, h.1, h.2⟩, fun ⟨_, _, h, hc, hrest⟩ => by
          obtain ⟨rfl, rfl⟩ := List.cons.inj h
          exact ⟨hc, hrest⟩⟩

/-- The rest of a tag: its attributes, whether it ends with `/>`, and what is behind it. The
names that are there already do not occur again. -/
inductive Attributes : List Name → List Char → List (Name × List Char) → Bool → List Char → Prop
  | open {seen : List Name} {ws r : List Char} (hws : Blank ws) :
      Attributes seen (ws ++ '>' :: r) [] false r
  | sealed {seen : List Name} {ws r : List Char} (hws : Blank ws) :
      Attributes seen (ws ++ '/' :: '>' :: r) [] true r
  | cons {seen : List Name} {attributes : List (Name × List Char)} {sealed : Bool} {quote : Char}
      {ws ws₁ ws₂ name v p r : List Char}
      (hws : Blank ws) (hname : IsName name) (hnew : name ∉ seen) (hws₁ : Blank ws₁)
      (hws₂ : Blank ws₂) (hquote : quote = '"' ∨ quote = '\'') (hv : quote ∉ v)
      (hrest : Attributes (seen ++ [name]) p attributes sealed r) :
      Attributes seen (ws ++ (name ++ (ws₁ ++ '=' :: (ws₂ ++ quote :: (v ++ quote :: p)))))
        ((name, getStr attributeValue v) :: attributes) sealed r

/-- A tag behind its `<`. -/
inductive TagText : List Char → Tag → List Char → Prop
  | mk {attributes : List (Name × List Char)} {sealed : Bool} {ws name p r : List Char}
      (slash : Bool) (hws : Blank ws)
      (hname : IsName name) (hstop : Stops isNameChar p)
      (hattributes : Attributes [] p attributes sealed r) :
      TagText (ws ++ ((if slash then ['/'] else []) ++ (name ++ p)))
        ⟨name, attributes, if sealed then .closed else if slash then .closing else .open⟩ r

/-- A node between two marks. -/
inductive Leaf : List Char → XMLNode → Prop
  | declaration {v : List Char} (hv : ¬ "?>".toList <:+: v) :
      Leaf ("<?".toList ++ (v ++ "?>".toList)) (.declaration (getStr commentValue v))
  | comment {v : List Char} (hv : ¬ "-->".toList <:+: v) :
      Leaf ("<!--".toList ++ (v ++ "-->".toList)) (.comment (getStr commentValue v))
  | cData {v : List Char} (hv : ¬ "]]>".toList <:+: v) :
      Leaf ("<![CDATA[".toList ++ (v ++ "]]>".toList)) (.text (getStr commentValue v) true)
  | unknown {v : List Char} (hv : '>' ∉ v) (hcomment : ¬ "--".toList <+: v)
      (hcData : ¬ "[CDATA[".toList <+: v) :
      Leaf ("<!".toList ++ (v ++ ">".toList)) (.unknown (getStr commentValue v))

/-- The content of the level `depth`: its nodes, the name of the end tag behind them, if there is
one, and what is behind that. Declarations come first, and only in the document itself. -/
inductive Content : (depth : Nat) → (prolog : Bool) → List Char → List XMLNode → Option Name →
    List Char → Prop
  | done {depth : Nat} {prolog : Bool} {ws : List Char} (hws : Blank ws) :
      Content depth prolog ws [] none []
  | endTag {depth : Nat} {prolog : Bool} {tag : Tag} {ws p r : List Char} (hws : Blank ws)
      (htag : TagText p tag r) (hclosing : tag.closingType = .closing) :
      Content depth prolog (ws ++ '<' :: p) [] (some tag.name) r
  | empty {depth : Nat} {prolog : Bool} {tag : Tag} {nodes : List XMLNode} {e : Option Name}
      {ws p q r : List Char} (hws : Blank ws) (htag : TagText p tag q)
      (hclosed : tag.closingType = .closed) (hrest : Content depth false q nodes e r) :
      Content depth prolog (ws ++ '<' :: p)
        (.element tag.name tag.attributes [] :: nodes) e r
  | element {depth : Nat} {prolog : Bool} {tag : Tag} {children nodes : List XMLNode}
      {e : Option Name} {ws p q r s : List Char} (hws : Blank ws) (htag : TagText p tag q)
      (hopen : tag.closingType = .open) (hmore : q ≠ []) (hdepth : depth + 1 < maxElementDepth)
      (hchildren : Content (depth + 1) false q children (some tag.name) s)
      (hrest : Content depth false s nodes e r) :
      Content depth prolog (ws ++ '<' :: p)
        (.element tag.name tag.attributes children :: nodes) e r
  | text {depth : Nat} {prolog : Bool} {nodes : List XMLNode} {e : Option Name}
      {v q r : List Char} (hblank : ¬ Blank v) (hv : '<' ∉ v) (hmore : q ≠ [])
      (hrest : Content depth false ('<' :: q) nodes e r) :
      Content depth prolog (v ++ '<' :: q) (.text (getStr textElement v) false :: nodes) e r
  | leaf {depth : Nat} {prolog : Bool} {node : XMLNode} {nodes : List XMLNode} {e : Option Name}
      {ws v q r : List Char} (hws : Blank ws) (hleaf : Leaf v node)
      (hlocated : node.isDeclaration = true → prolog = true)
      (hrest : Content depth (prolog && node.isDeclaration) q nodes e r) :
      Content depth prolog (ws ++ (v ++ q)) (node :: nodes) e r

variable {c : Char} {p q r s v ws name : List Char}

/-! ### White space and names -/

theorem skipWhiteSpace_append (hws : Blank ws) (hstop : Stops isWhiteSpace p) :
    skipWhiteSpace (ws ++ p) = p := dropWhile_append_stop hws hstop

theorem skipWhiteSpace_split (p : List Char) :
    ∃ ws, Blank ws ∧ p = ws ++ skipWhiteSpace p ∧ Stops isWhiteSpace (skipWhiteSpace p) :=
  ⟨p.takeWhile isWhiteSpace, fun _ hc => List.mem_takeWhile_imp hc,
    List.takeWhile_append_dropWhile.symm, head?_dropWhile p⟩

theorem stops_cons {kind : Char → Bool} : Stops kind (c :: s) ↔ kind c = false := by
  simp [Stops]

/-- The kinds of characters do not overlap. -/
theorem not_isNameStartChar_of_isWhiteSpace (hc : isWhiteSpace c = true) :
    isNameStartChar c = false := by
  have hrange : c = ' ' ∨ ('\t' ≤ c ∧ c ≤ '\r') := by
    simpa [isWhiteSpace, Decimal.isSpace] using hc
  rcases hrange with rfl | ⟨hlow, hhigh⟩
  · decide
  · have hlow' : 9 ≤ c.toNat := hlow
    have hhigh' : c.toNat ≤ 13 := hhigh
    have hofNat : Char.ofNat c.toNat = c := Char.ofNat_toNat c
    rw [← hofNat]
    interval_cases c.toNat <;> decide

theorem not_isNameChar_of_isWhiteSpace (hc : isWhiteSpace c = true) : isNameChar c = false := by
  have hdigit : c.isDigit = false := by
    cases hdigit : c.isDigit with
    | false => rfl
    | true => exact absurd (hc.symm.trans (Decimal.not_isSpace_of_isDigit hdigit)) (by decide)
  have hdot : c ≠ '.' := by
    rintro rfl
    exact absurd hc (by decide)
  have hminus : c ≠ '-' := by
    rintro rfl
    exact absurd hc (by decide)
  simp [isNameChar, not_isNameStartChar_of_isWhiteSpace hc, hdigit, hdot, hminus]

theorem IsName.stops (h : IsName name) (p : List Char) : Stops isWhiteSpace (name ++ p) := by
  obtain ⟨c, rest, rfl, hc, -⟩ := h
  rw [List.cons_append, stops_cons, ← Bool.not_eq_true]
  intro hspace
  rw [not_isNameStartChar_of_isWhiteSpace hspace] at hc
  exact Bool.noConfusion hc

theorem IsName.nul_notMem (h : IsName name) : SqlText.nul ∉ name := by
  obtain ⟨c, rest, rfl, hc, hrest⟩ := h
  intro hmem
  rcases List.mem_cons.mp hmem with rfl | hmem
  · exact absurd hc (by decide)
  · exact absurd (hrest _ hmem) (by decide)

theorem parseName_eq_some_iff :
    parseName p = some (name, r) ↔ p = name ++ r ∧ IsName name ∧ Stops isNameChar r := by
  cases p with
  | nil =>
      constructor
      · exact fun h => nomatch h
      · rintro ⟨h, ⟨c, rest, rfl, -⟩, -⟩
        exact nomatch h
  | cons c p =>
      rw [parseName]
      cases hc : isNameStartChar c with
      | false =>
          rw [if_neg Bool.false_ne_true]
          constructor
          · exact fun h => nomatch h
          · rintro ⟨h, ⟨d, rest, rfl, hd, -⟩, -⟩
            obtain ⟨rfl, -⟩ := List.cons.inj h
            exact absurd (hc.symm.trans hd) Bool.false_ne_true
      | true =>
          rw [if_pos rfl, Option.some.injEq, Prod.mk.injEq]
          constructor
          · rintro ⟨rfl, rfl⟩
            refine ⟨?_, ⟨c, _, rfl, hc, fun d hd => List.mem_takeWhile_imp hd⟩, head?_dropWhile p⟩
            rw [List.cons_append, List.takeWhile_append_dropWhile]
          · rintro ⟨h, ⟨d, rest, rfl, hd, hrest⟩, hstop⟩
            obtain ⟨rfl, rfl⟩ := List.cons.inj h
            exact ⟨congrArg (c :: ·) (takeWhile_append_stop hrest hstop),
              dropWhile_append_stop hrest hstop⟩

/-! ### Tags -/

/-- The text of an attribute in front of its closing quote. -/
theorem parseAttribute_eq_some_iff {value : List Char} :
    parseAttribute p = some ((name, value), r) ↔
      ∃ ws₁ ws₂ quote v, p = name ++ (ws₁ ++ '=' :: (ws₂ ++ quote :: (v ++ quote :: r))) ∧
        IsName name ∧ Blank ws₁ ∧ Blank ws₂ ∧ (quote = '"' ∨ quote = '\'') ∧ quote ∉ v ∧
        value = getStr attributeValue v := by
  constructor
  · intro h
    rw [parseAttribute] at h
    cases hparse : parseName p with
    | none =>
        rw [hparse] at h
        exact nomatch h
    | some found =>
        obtain ⟨name', p₁⟩ := found
        rw [hparse] at h
        obtain ⟨rfl, hname, -⟩ := parseName_eq_some_iff.mp hparse
        obtain ⟨ws₁, hws₁, hp₁, -⟩ := skipWhiteSpace_split p₁
        dsimp only at h
        split at h
        next p₂ heq =>
          obtain ⟨ws₂, hws₂, hp₂, -⟩ := skipWhiteSpace_split p₂
          split at h
          next quote p₃ hquote =>
            split at h
            next hor =>
              obtain ⟨⟨v, r'⟩, hbreak, hmk⟩ := Option.map_eq_some_iff.mp h
              obtain ⟨hpair, rfl⟩ := Prod.mk.inj hmk
              obtain ⟨rfl, rfl⟩ := Prod.mk.inj hpair
              obtain ⟨rfl, hfree⟩ := breakOn_singleton.mp hbreak
              refine ⟨ws₁, ws₂, quote, v, ?_, hname, hws₁, hws₂, hor, hfree, rfl⟩
              rw [← hquote, ← hp₂, ← heq, ← hp₁]
            next => exact nomatch h
          next => exact nomatch h
        next => exact nomatch h
  · rintro ⟨ws₁, ws₂, quote, v, rfl, hname, hws₁, hws₂, hquote, hfree, rfl⟩
    have hstop : Stops isNameChar (ws₁ ++ '=' :: (ws₂ ++ quote :: (v ++ quote :: r))) := by
      cases ws₁ with
      | nil => exact stops_cons.mpr (by decide)
      | cons c ws₁ =>
          exact stops_cons.mpr (not_isNameChar_of_isWhiteSpace (hws₁ c List.mem_cons_self))
    have hquote' : isWhiteSpace quote = false := by rcases hquote with rfl | rfl <;> decide
    have hbreak : parseText [quote] (v ++ quote :: r) = some (v, r) :=
      breakOn_singleton.mpr ⟨rfl, hfree⟩
    rw [parseAttribute, parseName_eq_some_iff.mpr ⟨rfl, hname, hstop⟩]
    have hskip : skipWhiteSpace (ws₁ ++ '=' :: (ws₂ ++ quote :: (v ++ quote :: r))) =
        '=' :: (ws₂ ++ quote :: (v ++ quote :: r)) :=
      skipWhiteSpace_append hws₁ (stops_cons.mpr (by decide))
    have hskip' : skipWhiteSpace (ws₂ ++ quote :: (v ++ quote :: r)) =
        quote :: (v ++ quote :: r) := skipWhiteSpace_append hws₂ (stops_cons.mpr hquote')
    simp only [hskip, hskip', if_pos hquote, hbreak, Option.map_some]

theorem Attributes.length_lt {seen : List Name} {attributes : List (Name × List Char)}
    {sealed : Bool} (h : Attributes seen p attributes sealed r) : r.length < p.length := by
  induction h with
  | «open» => simp only [List.length_append, List.length_cons]; omega
  | sealed => simp only [List.length_append, List.length_cons]; omega
  | cons _ _ _ _ _ _ _ _ ih => simp only [List.length_append, List.length_cons]; omega

/-- What the loop returns is in the grammar. -/
theorem attributes_of_parseAttributes {rounds : Nat} {before all : List (Name × List Char)}
    {sealed : Bool} (h : parseAttributes rounds before p = .ok (all, sealed, r)) :
    ∃ attributes, all = before ++ attributes ∧
      Attributes (before.map Prod.fst) p attributes sealed r := by
  induction rounds generalizing before p with
  | zero => exact nomatch h
  | succ rounds ih =>
      obtain ⟨ws, hws, hp, -⟩ := skipWhiteSpace_split p
      rw [parseAttributes] at h
      split at h
      next => exact nomatch h
      next c p' heq =>
        rw [heq] at hp
        subst hp
        split at h
        next hstart =>
          split at h
          next => exact nomatch h
          next attrib q hattribute =>
            obtain ⟨name, value⟩ := attrib
            split at h
            next => exact nomatch h
            next hnew =>
              obtain ⟨attributes, rfl, hrest⟩ := ih h
              obtain ⟨ws₁, ws₂, quote, v, htext, hname, hws₁, hws₂, hquote, hv, rfl⟩ :=
                parseAttribute_eq_some_iff.mp hattribute
              refine ⟨_ :: attributes, by rw [List.append_assoc, List.singleton_append], ?_⟩
              rw [List.map_append, List.map_singleton] at hrest
              rw [htext]
              exact .cons hws hname hnew hws₁ hws₂ hquote hv hrest
        next =>
          split at h
          next hgt =>
            obtain ⟨rfl, hmk⟩ := Prod.mk.inj (Except.ok.inj h)
            obtain ⟨rfl, rfl⟩ := Prod.mk.inj hmk
            exact ⟨[], (List.append_nil _).symm, hgt ▸ .open hws⟩
          next =>
            split at h
            next hslash =>
              obtain ⟨rfl, hmk⟩ := Prod.mk.inj (Except.ok.inj h)
              obtain ⟨rfl, rfl⟩ := Prod.mk.inj hmk
              refine ⟨[], (List.append_nil _).symm, ?_⟩
              cases p' with
              | nil => exact nomatch hslash.2
              | cons d p' =>
                  obtain ⟨rfl, hd⟩ := hslash
                  rw [List.head?_cons, Option.some.injEq] at hd
                  exact hd ▸ .sealed hws
            next => exact nomatch h

/-- A text of the grammar is read, with one round for each byte. -/
theorem Attributes.parseAttributes {seen : List Name} {attributes : List (Name × List Char)}
    {sealed : Bool} (h : Attributes seen p attributes sealed r)
    {before : List (Name × List Char)} (hseen : before.map Prod.fst = seen) {rounds : Nat}
    (hrounds : p.length < rounds) :
    parseAttributes rounds before p = .ok (before ++ attributes, sealed, r) := by
  induction h generalizing before rounds with
  | «open» hws =>
      obtain ⟨rounds, rfl⟩ := Nat.exists_eq_add_of_lt hrounds
      rw [Tinyxml2.parseAttributes, skipWhiteSpace_append hws (stops_cons.mpr (by decide)),
        List.append_nil]
      rfl
  | sealed hws =>
      obtain ⟨rounds, rfl⟩ := Nat.exists_eq_add_of_lt hrounds
      rw [Tinyxml2.parseAttributes, skipWhiteSpace_append hws (stops_cons.mpr (by decide)),
        List.append_nil]
      rfl
  | @cons seen attributes sealed quote ws ws₁ ws₂ name v p r hws hname hnew hws₁ hws₂ hquote hv
      hrest ih =>
      obtain ⟨rounds, rfl⟩ := Nat.exists_eq_add_of_lt hrounds
      have hattribute := (parseAttribute_eq_some_iff (r := p)).mpr
        ⟨ws₁, ws₂, quote, v, rfl, hname, hws₁, hws₂, hquote, hv, rfl⟩
      have hlen := hrest.length_lt
      rw [Tinyxml2.parseAttributes, skipWhiteSpace_append hws (hname.stops _)]
      obtain ⟨c, rest, rfl, hc, hchars⟩ := hname
      rw [List.cons_append] at hattribute ⊢
      dsimp only
      rw [if_pos hc, hattribute]
      dsimp only
      rw [if_neg (hseen ▸ hnew), ih (by rw [List.map_append, hseen]; rfl), List.append_assoc]
      · rfl
      · simp only [List.length_append, List.length_cons] at hrounds ⊢
        omega

theorem TagText.length_lt {tag : Tag} (h : TagText p tag r) : r.length < p.length := by
  cases h with
  | mk slash hws hname hstop hattributes =>
      have hlt := hattributes.length_lt
      simp only [List.length_append]
      omega

theorem IsName.head_ne_slash (h : IsName name) (p : List Char) :
    skipSlash (name ++ p) = (false, name ++ p) := by
  obtain ⟨c, rest, rfl, hc, -⟩ := h
  rw [skipSlash.eq_2]
  rintro p' heq
  obtain ⟨rfl, -⟩ := List.cons.inj heq
  exact absurd hc (by decide)

theorem skipSlash_split (p : List Char) :
    p = (if (skipSlash p).1 then ['/'] else []) ++ (skipSlash p).2 := by
  fun_cases skipSlash p with
  | case1 => rfl
  | case2 => rfl

theorem tagText_of_parseTag {rounds : Nat} {tag : Tag} (h : parseTag rounds p = .ok (tag, r)) :
    TagText p tag r := by
  obtain ⟨ws, hws, hp, -⟩ := skipWhiteSpace_split p
  have htext := skipSlash_split (skipWhiteSpace p)
  obtain ⟨slash, p', hskip⟩ : ∃ slash p', skipSlash (skipWhiteSpace p) = (slash, p') :=
    ⟨_, _, rfl⟩
  rw [hskip] at htext
  rw [parseTag, hskip] at h
  dsimp only at h
  cases hname : parseName p' with
  | none =>
      rw [hname] at h
      exact nomatch h
  | some found =>
      obtain ⟨name, p''⟩ := found
      rw [hname] at h
      obtain ⟨rfl, hisName, hstop⟩ := parseName_eq_some_iff.mp hname
      dsimp only at h
      cases hattributes : parseAttributes rounds [] p'' with
      | error halt =>
          rw [hattributes] at h
          exact nomatch h
      | ok found =>
          obtain ⟨all, sealed, r'⟩ := found
          rw [hattributes] at h
          obtain ⟨rfl, rfl⟩ := Prod.mk.inj (Except.ok.inj h)
          obtain ⟨attributes, rfl, hgrammar⟩ := attributes_of_parseAttributes hattributes
          rw [hp, htext]
          exact .mk slash hws hisName hstop hgrammar

theorem TagText.parseTag {tag : Tag} (h : TagText p tag r) {rounds : Nat}
    (hrounds : p.length < rounds) : parseTag rounds p = .ok (tag, r) := by
  cases h with
  | @mk attributes sealed ws name p r slash hws hname hstop hattributes =>
      have hstart : Stops isWhiteSpace ((if slash then ['/'] else []) ++ (name ++ p)) := by
        cases slash with
        | false => exact hname.stops p
        | true => exact stops_cons.mpr (by decide)
      have hslash : skipSlash ((if slash then ['/'] else []) ++ (name ++ p)) =
          (slash, name ++ p) := by
        cases slash with
        | false => exact hname.head_ne_slash p
        | true => rfl
      have hlt : p.length < rounds := by
        simp only [List.length_append] at hrounds
        omega
      have hread : parseAttributes rounds [] p = .ok ([] ++ attributes, sealed, r) :=
        hattributes.parseAttributes rfl hlt
      rw [Tinyxml2.parseTag, skipWhiteSpace_append hws hstart, hslash]
      dsimp only
      rw [parseName_eq_some_iff.mpr ⟨rfl, hname, hstop⟩]
      dsimp only
      rw [hread]
      rfl

end Tinyxml2

end SignalingServer
