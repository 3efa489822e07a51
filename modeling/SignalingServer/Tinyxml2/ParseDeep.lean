import SignalingServer.Tinyxml2.Grammar

/-!
The parser against the grammar. What a level has read is in the grammar, by induction on the
rounds; a text of the grammar is read, by induction on its derivation, with one round for each
byte. So the rounds are never used up.
-/

namespace SignalingServer

namespace Tinyxml2

open Scanning XMLNode

variable {c : Char} {p q r s u v ws : List Char} {node : XMLNode} {header : Header}

/-! ### What a node begins with -/

theorem identify_eq_none_iff : identify p = none ↔ Blank p := by
  rw [identify]
  constructor
  · intro h
    split at h
    next heq =>
      obtain ⟨ws, hws, hp, -⟩ := skipWhiteSpace_split p
      rw [heq, List.append_nil] at hp
      exact hp ▸ hws
    next => split at h <;> exact nomatch h
  · intro h
    have hskip : skipWhiteSpace p = [] := List.dropWhile_eq_nil_iff.mpr h
    rw [hskip]

/-- The text from its first character on that is no white space decides what it begins with. -/
theorem identify_of_start {lead : List Char} (hws : Blank ws) (hlead : (lead, header) ∈ headers)
    (hfind : headers.find? (fun h => h.1 <+: lead ++ s) = some (lead, header)) :
    identify (ws ++ (lead ++ s)) = some (header, s) := by
  have hstop : Stops isWhiteSpace (lead ++ s) := by
    simp only [headers, List.mem_cons, List.not_mem_nil, or_false, Prod.mk.injEq] at hlead
    rcases hlead with ⟨rfl, -⟩ | ⟨rfl, -⟩ | ⟨rfl, -⟩ | ⟨rfl, -⟩ | ⟨rfl, -⟩ <;>
      exact stops_cons.mpr (by decide)
  have hne : lead ++ s ≠ [] := by
    rintro hnil
    rw [(List.append_eq_nil_iff.mp hnil).1] at hlead
    exact absurd hlead (by simp [headers])
  rw [identify, skipWhiteSpace_append hws hstop]
  split
  next heq => exact absurd heq hne
  next =>
    rw [hfind]
    simp only [List.drop_left']

theorem identify_element (hws : Blank ws) (hfirst : ∀ c ∈ s.head?, c ≠ '?' ∧ c ≠ '!') :
    identify (ws ++ '<' :: s) = some (.element, s) := by
  have hfind : headers.find? (fun h => h.1 <+: "<".toList ++ s) = some ("<".toList, .element) := by
    cases s with
    | nil => rfl
    | cons c s =>
        obtain ⟨hquestion, hexclamation⟩ := hfirst c rfl
        simp [headers, Ne.symm hquestion, Ne.symm hexclamation]
  exact identify_of_start hws (by simp [headers]) hfind

/-- A prefix without a character that stands behind the text is one of the text. -/
theorem prefix_of_notMem {w : List Char} (hc : c ∉ w) (h : w <+: v ++ c :: q) : w <+: v := by
  rcases Nat.lt_or_ge v.length w.length with hlt | hle
  · have hle : (v ++ [c]).length ≤ w.length := by
      rw [List.length_append]
      exact hlt
    have hwhole : v ++ [c] <+: v ++ c :: q :=
      ⟨q, by rw [List.append_assoc, List.singleton_append]⟩
    have hpre : v ++ [c] <+: w := List.prefix_of_prefix_length_le hwhole h hle
    exact absurd (hpre.subset (List.mem_append_right v List.mem_cons_self)) hc
  · exact List.prefix_of_prefix_length_le h (List.prefix_append _ _) hle

theorem parseValue_eq_ok_iff {endTag : List Char} (hne : endTag ≠ []) (hu : Unbordered endTag)
    (mk : List Char → XMLNode) (id : XMLError) :
    parseValue endTag mk id p = .ok (node, q) ↔
      ∃ v, p = v ++ (endTag ++ q) ∧ ¬ endTag <:+: v ∧ node = mk (getStr commentValue v) := by
  rw [parseValue, parseText]
  constructor
  · intro h
    split at h
    next v r hbreak =>
      obtain ⟨rfl, rfl⟩ := Prod.mk.inj (Except.ok.inj h)
      obtain ⟨rfl, hfree⟩ := (breakOn_unbordered hne hu).mp hbreak
      exact ⟨v, rfl, hfree, rfl⟩
    next => exact nomatch h
  · rintro ⟨v, rfl, hfree, rfl⟩
    rw [(breakOn_unbordered hne hu).mpr ⟨rfl, hfree⟩]

/-- A node between two marks is read up to the second one. -/
theorem identify_leaf (hws : Blank ws) (hleaf : Leaf u node) (q : List Char) :
    ∃ header p', identify (ws ++ (u ++ q)) = some (header, p') ∧ header ≠ .element ∧
      parseLeaf header p' = .ok (node, q) := by
  cases hleaf with
  | @declaration v hv =>
      refine ⟨.declaration, v ++ ("?>".toList ++ q), ?_, Header.noConfusion,
        (parseValue_eq_ok_iff (by decide) (by decide) _ _).mpr ⟨v, rfl, hv, rfl⟩⟩
      rw [List.append_assoc, List.append_assoc]
      exact identify_of_start hws (by simp [headers]) rfl
  | @comment v hv =>
      refine ⟨.comment, v ++ ("-->".toList ++ q), ?_, Header.noConfusion,
        (parseValue_eq_ok_iff (by decide) (by decide) _ _).mpr ⟨v, rfl, hv, rfl⟩⟩
      rw [List.append_assoc, List.append_assoc]
      exact identify_of_start hws (by simp [headers]) rfl
  | @cData v hv =>
      refine ⟨.cData, v ++ ("]]>".toList ++ q), ?_, Header.noConfusion,
        (parseValue_eq_ok_iff (by decide) (by decide) (.text · true) _).mpr ⟨v, rfl, hv, rfl⟩⟩
      rw [List.append_assoc, List.append_assoc]
      exact identify_of_start hws (by simp [headers]) rfl
  | @unknown v hv hcomment hcData =>
      have hfree : ¬ ">".toList <:+: v := fun hinfix =>
        hv ((List.singleton_infix_iff _ _).mp hinfix)
      refine ⟨.unknown, v ++ (">".toList ++ q), ?_, Header.noConfusion,
        (parseValue_eq_ok_iff (by decide) (by decide) _ _).mpr ⟨v, rfl, hfree, rfl⟩⟩
      rw [List.append_assoc, List.append_assoc]
      refine identify_of_start hws (by simp [headers]) ?_
      have hcomment' : ¬ ['-', '-'] <+: v ++ '>' :: q := fun h =>
        hcomment (prefix_of_notMem (by decide) h)
      have hcData' : ¬ ['[', 'C', 'D', 'A', 'T', 'A', '['] <+: v ++ '>' :: q := fun h =>
        hcData (prefix_of_notMem (by decide) h)
      simp [headers, hcomment', hcData']

theorem identify_text (hblank : ¬ Blank v) (hv : '<' ∉ v) (q : List Char) :
    identify (v ++ '<' :: q) = some (.text, v ++ '<' :: q) := by
  obtain ⟨ws, hws, hp, hstop⟩ := skipWhiteSpace_split v
  cases hskip : skipWhiteSpace v with
  | nil =>
      rw [hskip, List.append_nil] at hp
      exact absurd (hp ▸ hws) hblank
  | cons c rest =>
      rw [hskip] at hp hstop
      have hne : '<' ≠ c := fun heq => hv (by rw [hp, heq]; simp)
      have hstart : skipWhiteSpace (v ++ '<' :: q) = c :: (rest ++ '<' :: q) := by
        rw [hp, List.append_assoc]
        exact skipWhiteSpace_append hws (stops_cons.mpr (stops_cons.mp hstop))
      rw [identify, hstart]
      simp [headers, hne]

theorem parseLeaf_text (hv : '<' ∉ v) (hmore : q ≠ []) :
    parseLeaf .text (v ++ '<' :: q) =
      .ok (.text (getStr textElement v) false, '<' :: q) := by
  have hbreak : breakOn "<".toList (v ++ '<' :: q) = some (v, q) :=
    breakOn_singleton.mpr ⟨rfl, hv⟩
  simp only [parseLeaf, parseText, hbreak]

/-- A text begins with another character; everything else begins with its header. -/
theorem identify_eq_some (h : identify p = some (header, s)) :
    (header = .text ∧ s = p ∧ ¬ ['<'] <+: skipWhiteSpace p) ∨
      ∃ lead, headers.find? (fun h => h.1 <+: skipWhiteSpace p) = some (lead, header) ∧
        skipWhiteSpace p = lead ++ s := by
  rw [identify] at h
  split at h
  next => exact nomatch h
  next =>
    split at h
    next lead header' hfind =>
      obtain ⟨rfl, rfl⟩ := Prod.mk.inj (Option.some.inj h)
      have hpre : lead <+: skipWhiteSpace p := by
        simpa using List.find?_some hfind
      obtain ⟨rest, hrest⟩ := hpre
      refine .inr ⟨lead, hfind, ?_⟩
      rw [← hrest, List.drop_left' rfl]
    next hfind =>
      obtain ⟨rfl, rfl⟩ := Prod.mk.inj (Option.some.inj h)
      refine .inl ⟨rfl, rfl, fun hpre => ?_⟩
      exact List.find?_eq_none.mp hfind ("<".toList, .element) (by simp [headers])
        (decide_eq_true hpre)

/-- What `ParseDeep` of a node without content reads is a text, or a node between two marks. -/
theorem of_parseLeaf {p' : List Char} (hidentify : identify p = some (header, p'))
    (hne : header ≠ .element) (h : parseLeaf header p' = .ok (node, q)) :
    (∃ v s, p = v ++ '<' :: s ∧ ¬ Blank v ∧ '<' ∉ v ∧ s ≠ [] ∧
        node = .text (getStr textElement v) false ∧ q = '<' :: s) ∨
      ∃ ws u, Blank ws ∧ p = ws ++ (u ++ q) ∧ Leaf u node := by
  obtain ⟨ws, hws, hp, -⟩ := skipWhiteSpace_split p
  rcases identify_eq_some hidentify with ⟨rfl, rfl, hnot⟩ | ⟨lead, hfind, hskip⟩
  · left
    simp only [parseLeaf, parseText] at h
    split at h
    next => exact nomatch h
    next v s hmore hbreak =>
      obtain ⟨rfl, rfl⟩ := Prod.mk.inj (Except.ok.inj h)
      obtain ⟨rfl, hfree⟩ := breakOn_singleton.mp hbreak
      refine ⟨v, s, rfl, fun hblank => hnot ?_, hfree, fun hnil => hmore hnil, rfl, rfl⟩
      rw [skipWhiteSpace_append hblank (stops_cons.mpr (by decide))]
      exact List.prefix_append ['<'] s
    next => exact nomatch h
  · right
    have hmem := List.mem_of_find?_eq_some hfind
    rw [hskip] at hp hfind
    simp only [headers, List.mem_cons, List.not_mem_nil, or_false, Prod.mk.injEq] at hmem
    rcases hmem with ⟨rfl, rfl⟩ | ⟨rfl, rfl⟩ | ⟨rfl, rfl⟩ | ⟨rfl, rfl⟩ | ⟨rfl, rfl⟩
    · obtain ⟨v, rfl, hfree, rfl⟩ := (parseValue_eq_ok_iff (by decide) (by decide) _ _).mp h
      exact ⟨ws, _, hws, by rw [hp]; simp only [List.append_assoc], .declaration hfree⟩
    · obtain ⟨v, rfl, hfree, rfl⟩ := (parseValue_eq_ok_iff (by decide) (by decide) _ _).mp h
      exact ⟨ws, _, hws, by rw [hp]; simp only [List.append_assoc], .comment hfree⟩
    · obtain ⟨v, rfl, hfree, rfl⟩ :=
        (parseValue_eq_ok_iff (by decide) (by decide) (.text · true) _).mp h
      exact ⟨ws, _, hws, by rw [hp]; simp only [List.append_assoc], .cData hfree⟩
    · obtain ⟨v, rfl, hfree, rfl⟩ := (parseValue_eq_ok_iff (by decide) (by decide) _ _).mp h
      have hgt : '>' ∉ v := fun hmem => hfree ((List.singleton_infix_iff _ _).mpr hmem)
      refine ⟨ws, _, hws, by rw [hp]; simp only [List.append_assoc], .unknown hgt ?_ ?_⟩
      -- the longer headers are looked for first
      · rintro ⟨rest, rfl⟩
        cases hfind
      · rintro ⟨rest, rfl⟩
        cases hfind
    · exact absurd rfl hne

/-- An element begins with its `<`. -/
theorem of_identify_element {p' : List Char} (h : identify p = some (.element, p')) :
    ∃ ws, Blank ws ∧ p = ws ++ '<' :: p' := by
  obtain ⟨ws, hws, hp, -⟩ := skipWhiteSpace_split p
  rcases identify_eq_some h with ⟨hne, -⟩ | ⟨lead, hfind, hskip⟩
  · exact nomatch hne
  · have hmem := List.mem_of_find?_eq_some hfind
    simp only [headers, List.mem_cons, List.not_mem_nil, or_false, Prod.mk.injEq, reduceCtorEq,
      and_false, false_or, and_true] at hmem
    subst hmem
    exact ⟨ws, hws, by rw [hp, hskip]; rfl⟩

/-- A tag does not begin like a declaration or a comment. -/
theorem TagText.first {tag : Tag} (h : TagText p tag r) : ∀ c ∈ p.head?, c ≠ '?' ∧ c ≠ '!' := by
  intro c hc
  cases h with
  | @mk attributes sealed ws name p r slash hws hname hstop hattributes =>
      have hcases : isWhiteSpace c = true ∨ c = '/' ∨ isNameStartChar c = true := by
        cases ws with
        | cons d ws =>
            cases Option.some.inj hc
            exact .inl (hws c List.mem_cons_self)
        | nil =>
            obtain ⟨d, rest, rfl, hd, -⟩ := hname
            cases slash with
            | true =>
                cases Option.some.inj hc
                exact .inr (.inl rfl)
            | false =>
                cases Option.some.inj hc
                exact .inr (.inr hd)
      constructor
      · rintro rfl
        exact absurd hcases (by decide)
      · rintro rfl
        exact absurd hcases (by decide)

/-! ### Lengths -/

theorem Leaf.length_pos (h : Leaf u node) : 0 < u.length := by
  cases h <;> exact Nat.succ_pos _

theorem length_pos_of_not_blank (h : ¬ Blank v) : 0 < v.length := by
  cases v with
  | nil => exact absurd (fun _ hc => nomatch hc) h
  | cons c v => exact Nat.succ_pos _

/-- A node without content takes at least one byte, as a tag does. -/
theorem length_lt_of_parseLeaf {p' : List Char} (hidentify : identify p = some (header, p'))
    (hne : header ≠ .element) (h : parseLeaf header p' = .ok (node, q)) :
    q.length < p.length := by
  rcases of_parseLeaf hidentify hne h with
    ⟨v, s, rfl, hblank, -, -, -, rfl⟩ | ⟨ws, u, -, rfl, hmark⟩
  · have hlen := length_pos_of_not_blank hblank
    simp only [List.length_append, List.length_cons]
    omega
  · have hlen := hmark.length_pos
    simp only [List.length_append]
    omega

theorem Content.length_le {depth : Nat} {prolog : Bool} {nodes : List XMLNode} {e : Option Name}
    (h : Content depth prolog p nodes e r) : r.length ≤ p.length := by
  induction h with
  | done hws => exact Nat.zero_le _
  | endTag hws htag hclosing =>
      have hlt := htag.length_lt
      simp only [List.length_append, List.length_cons]
      omega
  | empty hws htag hclosed hrest ih =>
      have hlt := htag.length_lt
      simp only [List.length_append, List.length_cons]
      omega
  | element hws htag hopen hmore hdepth hchildren hrest ihchildren ihrest =>
      have hlt := htag.length_lt
      simp only [List.length_append, List.length_cons]
      omega
  | text hblank hv hmore hrest ih =>
      have hpos := length_pos_of_not_blank hblank
      simp only [List.length_append, List.length_cons] at ih ⊢
      omega
  | leaf hws hleaf hlocated hrest ih =>
      have hpos := hleaf.length_pos
      simp only [List.length_append]
      omega

/-! ### Where declarations may stand -/

/-- Behind a node that may stand there, the first and the last node say whether all are
declarations. -/
theorem wellLocated_append {depth : Nat} {siblings : List XMLNode}
    (h : node.isDeclaration = true → wellLocated depth siblings = true) :
    wellLocated depth (siblings ++ [node]) =
      (wellLocated depth siblings && node.isDeclaration) := by
  have hlast : (siblings ++ [node]).getLast?.all isDeclaration = node.isDeclaration := by
    rw [List.getLast?_append, List.getLast?_singleton]
    rfl
  cases hnode : node.isDeclaration with
  | false => rw [wellLocated, hlast, hnode, Bool.and_false, Bool.and_false]
  | true =>
      have hlocated := h hnode
      rw [hlocated, wellLocated, hlast, hnode]
      cases siblings with
      | nil =>
          simp only [wellLocated, List.head?_nil, List.getLast?_nil, Option.all_none,
            Bool.and_true] at hlocated
          simp [hlocated, hnode]
      | cons first siblings =>
          rw [wellLocated, Bool.and_eq_true] at hlocated
          rw [List.cons_append, List.head?_cons, ← List.head?_cons (l := siblings), hlocated.1]

/-- Behind a node that is no declaration there may be none. -/
theorem wellLocated_other {depth : Nat} {siblings : List XMLNode}
    (h : node.isDeclaration = false) : wellLocated depth (siblings ++ [node]) = false := by
  rw [wellLocated_append (fun hnode => absurd (hnode.symm.trans h) (by decide)), h,
    Bool.and_false]

theorem wellLocated_content {depth : Nat} (hpos : 0 < depth) :
    wellLocated (depth + 1) [] = false := by
  have hne : (depth + 1 == 1) = false := beq_false_of_ne (by omega)
  rw [wellLocated, hne]
  rfl

/-! ### The parser and the grammar -/

/-- What a level has read is in the grammar. -/
theorem content_of_parseDeep {rounds depth : Nat} {siblings : List XMLNode} {level : Level}
    (hpos : 0 < depth) (hdepth : depth < maxElementDepth)
    (h : parseDeep rounds depth siblings p = .ok level) :
    ∃ nodes, level.nodes = siblings ++ nodes ∧
      Content depth (wellLocated depth siblings) p nodes level.endTag level.rest := by
  induction rounds generalizing depth siblings p level with
  | zero => exact nomatch h
  | succ rounds ih =>
      rw [parseDeep] at h
      split at h
      next hidentify =>
        rw [← Except.ok.inj h]
        exact ⟨[], (List.append_nil _).symm, .done (identify_eq_none_iff.mp hidentify)⟩
      next p' hidentify =>
        obtain ⟨ws, hws, rfl⟩ := of_identify_element hidentify
        split at h
        next => exact nomatch h
        next tag q htag =>
          have htext := tagText_of_parseTag htag
          split at h
          next hclosing =>
            rw [← Except.ok.inj h]
            exact ⟨[], (List.append_nil _).symm, .endTag hws htext hclosing⟩
          next hclosed =>
            obtain ⟨nodes, hnodes, hrest⟩ := ih hpos hdepth h
            rw [wellLocated_other rfl] at hrest
            exact ⟨_, by rw [hnodes, List.append_assoc]; rfl, .empty hws htext hclosed hrest⟩
          next hopen =>
            split at h
            next => exact nomatch h
            next hmore =>
              split at h
              next => exact nomatch h
              next hlevel =>
                have hdepth' : depth + 1 < maxElementDepth := by omega
                split at h
                next => exact nomatch h
                next => exact nomatch h
                next children endTag s hin =>
                  split at h
                  next hname =>
                    subst hname
                    obtain ⟨inner, hinner, hchildren⟩ := ih (Nat.succ_pos depth) hdepth' hin
                    obtain ⟨nodes, hnodes, hrest⟩ := ih hpos hdepth h
                    rw [List.nil_append] at hinner
                    dsimp only at hinner hchildren
                    rw [wellLocated_content hpos, ← hinner] at hchildren
                    rw [wellLocated_other rfl] at hrest
                    exact ⟨_, by rw [hnodes, List.append_assoc]; rfl,
                      .element hws htext hopen hmore hdepth' hchildren hrest⟩
                  next => exact nomatch h
      next header p' hne hidentify =>
        split at h
        next => exact nomatch h
        next node q hleaf =>
          split at h
          next => exact nomatch h
          next hlocated =>
            have hlocated' : node.isDeclaration = true → wellLocated depth siblings = true := by
              intro hnode
              rw [hnode] at hlocated
              simpa using hlocated
            obtain ⟨nodes, hnodes, hrest⟩ := ih hpos hdepth h
            rw [wellLocated_append hlocated'] at hrest
            refine ⟨node :: nodes, by rw [hnodes, List.append_assoc]; rfl, ?_⟩
            rcases of_parseLeaf hidentify hne hleaf with
              ⟨v, s, rfl, hblank, hv, hmore, rfl, rfl⟩ | ⟨ws, u, hws, rfl, hmark⟩
            · rw [show isDeclaration (.text (getStr textElement v) false) = false from rfl,
                Bool.and_false] at hrest
              exact .text hblank hv hmore hrest
            · exact .leaf hws hmark hlocated' hrest

/-- A text of the grammar is read. -/
theorem Content.parseDeep {depth : Nat} {prolog : Bool} {nodes : List XMLNode} {e : Option Name}
    (h : Content depth prolog p nodes e r) (hpos : 0 < depth) {siblings : List XMLNode}
    (hprolog : wellLocated depth siblings = prolog) {rounds : Nat} (hrounds : p.length < rounds) :
    parseDeep rounds depth siblings p = .ok ⟨siblings ++ nodes, e, r⟩ := by
  induction h generalizing siblings rounds with
  | done hws =>
      obtain ⟨rounds, rfl⟩ := Nat.exists_eq_add_of_lt hrounds
      rw [Tinyxml2.parseDeep, identify_eq_none_iff.mpr hws, List.append_nil]
  | endTag hws htag hclosing =>
      obtain ⟨rounds, rfl⟩ := Nat.exists_eq_add_of_lt hrounds
      rw [Tinyxml2.parseDeep, identify_element hws htag.first]
      dsimp only
      rw [htag.parseTag (by simp only [List.length_append, List.length_cons]; omega)]
      simp only [hclosing, List.append_nil]
  | empty hws htag hclosed hrest ih =>
      obtain ⟨rounds, rfl⟩ := Nat.exists_eq_add_of_lt hrounds
      have hlt := htag.length_lt
      simp only [List.length_append, List.length_cons] at hrounds
      rw [Tinyxml2.parseDeep, identify_element hws htag.first]
      dsimp only
      rw [htag.parseTag (by simp only [List.length_append, List.length_cons]; omega)]
      simp only [hclosed]
      rw [ih hpos (wellLocated_other rfl)
        (by simp only [List.length_append, List.length_cons]; omega), List.append_assoc]
      rfl
  | element hws htag hopen hmore hdepth hchildren hrest ihchildren ihrest =>
      obtain ⟨rounds, rfl⟩ := Nat.exists_eq_add_of_lt hrounds
      have hlt := htag.length_lt
      have hle := hchildren.length_le
      simp only [List.length_append, List.length_cons] at hrounds
      rw [Tinyxml2.parseDeep, identify_element hws htag.first]
      dsimp only
      rw [htag.parseTag (by simp only [List.length_append, List.length_cons]; omega)]
      simp only [hopen, if_neg hmore, if_neg (Nat.ne_of_lt hdepth)]
      rw [ihchildren (Nat.succ_pos _) (wellLocated_content hpos)
        (by simp only [List.length_append, List.length_cons]; omega)]
      simp only [if_true]
      rw [ihrest hpos (wellLocated_other rfl)
        (by simp only [List.length_append, List.length_cons]; omega), List.append_assoc]
      rfl
  | text hblank hv hmore hrest ih =>
      obtain ⟨rounds, rfl⟩ := Nat.exists_eq_add_of_lt hrounds
      have hlen := length_pos_of_not_blank hblank
      simp only [List.length_append, List.length_cons] at hrounds
      rw [Tinyxml2.parseDeep, identify_text hblank hv]
      dsimp only
      rw [parseLeaf_text hv hmore]
      simp only [isDeclaration, Bool.false_and, Bool.false_eq_true, if_false]
      rw [ih hpos (wellLocated_other rfl)
        (by simp only [List.length_append, List.length_cons]; omega), List.append_assoc]
      rfl
  | @leaf depth prolog node nodes e ws v q r hws hleaf hlocated hrest ih =>
      obtain ⟨rounds, rfl⟩ := Nat.exists_eq_add_of_lt hrounds
      have hlen := hleaf.length_pos
      obtain ⟨header, p', hidentify, hne, hparse⟩ := identify_leaf hws hleaf _
      simp only [List.length_append] at hrounds
      have hallowed : (node.isDeclaration && !wellLocated depth siblings) = false := by
        cases hnode : node.isDeclaration with
        | false => rfl
        | true => rw [hprolog, hlocated hnode]; rfl
      have hnext : wellLocated depth (siblings ++ [node]) = (prolog && node.isDeclaration) := by
        rw [wellLocated_append (fun hnode => hprolog.trans (hlocated hnode)), hprolog]
      rw [Tinyxml2.parseDeep, hidentify]
      cases header with
      | element => exact absurd rfl hne
      | _ =>
          simp only [hparse, hallowed, Bool.false_eq_true, if_false]
          rw [ih hpos hnext (by simp only [List.length_append]; omega), List.append_assoc]
          rfl

/-! ### The rounds -/

theorem parseAttributes_ne_rounds {rounds : Nat} {before : List (Name × List Char)}
    (hrounds : p.length < rounds) : parseAttributes rounds before p ≠ .error .rounds := by
  induction rounds generalizing before p with
  | zero => exact absurd hrounds (Nat.not_lt_zero _)
  | succ rounds ih =>
      obtain ⟨ws, -, hp, -⟩ := skipWhiteSpace_split p
      rw [parseAttributes]
      split
      next => rintro ⟨⟩
      next c p' heq =>
        split
        next =>
          split
          next => rintro ⟨⟩
          next attrib q hattribute =>
            obtain ⟨name, value⟩ := attrib
            split
            next => rintro ⟨⟩
            next =>
              obtain ⟨ws₁, ws₂, quote, v, htext, -⟩ := parseAttribute_eq_some_iff.mp hattribute
              have hlen := congrArg List.length hp
              rw [heq, htext] at hlen
              simp only [List.length_append, List.length_cons] at hlen
              exact ih (by omega)
        next =>
          split
          next => rintro ⟨⟩
          next => split <;> rintro ⟨⟩

theorem parseTag_ne_rounds {rounds : Nat} (hrounds : p.length < rounds) :
    parseTag rounds p ≠ .error .rounds := by
  obtain ⟨ws, -, hp, -⟩ := skipWhiteSpace_split p
  have htext := skipSlash_split (skipWhiteSpace p)
  obtain ⟨slash, p', hskip⟩ : ∃ slash p', skipSlash (skipWhiteSpace p) = (slash, p') :=
    ⟨_, _, rfl⟩
  rw [hskip] at htext
  rw [parseTag, hskip]
  dsimp only
  cases hname : parseName p' with
  | none => rintro ⟨⟩
  | some found =>
      obtain ⟨name, q⟩ := found
      have hlt : q.length < rounds := by
        rw [hp, htext, (parseName_eq_some_iff.mp hname).1] at hrounds
        simp only [List.length_append] at hrounds
        omega
      have hattributes : parseAttributes rounds [] q ≠ .error .rounds :=
        parseAttributes_ne_rounds hlt
      intro h
      dsimp only at h
      cases hparse : parseAttributes rounds [] q with
      | error halt =>
          rw [hparse] at h
          exact hattributes (hparse.trans (congrArg _ (Except.error.inj h)))
      | ok found =>
          rw [hparse] at h
          cases h

/-- One round for each byte is enough. -/
theorem parseDeep_ne_rounds {rounds depth : Nat} {siblings : List XMLNode} (hpos : 0 < depth)
    (hdepth : depth < maxElementDepth) (hrounds : p.length < rounds) :
    parseDeep rounds depth siblings p ≠ .error .rounds := by
  induction rounds generalizing depth siblings p with
  | zero => exact absurd hrounds (Nat.not_lt_zero _)
  | succ rounds ih =>
      rw [parseDeep]
      split
      next => exact fun h => nomatch h
      next p' hidentify =>
        obtain ⟨ws, -, rfl⟩ := of_identify_element hidentify
        simp only [List.length_append, List.length_cons] at hrounds
        split
        next halt htag =>
          intro h
          rw [Except.error.inj h] at htag
          exact parseTag_ne_rounds (by omega) htag
        next tag q htag =>
          have hlt := (tagText_of_parseTag htag).length_lt
          split
          next => exact fun h => nomatch h
          next => exact ih hpos hdepth (by omega)
          next =>
            split
            next => exact fun h => nomatch h
            next =>
              split
              next => exact fun h => nomatch h
              next hlevel =>
                have hdepth' : depth + 1 < maxElementDepth := by omega
                split
                next halt hin =>
                  intro h
                  rw [Except.error.inj h] at hin
                  exact ih (Nat.succ_pos depth) hdepth' (by omega) hin
                next => exact fun h => nomatch h
                next children endTag s hin =>
                  obtain ⟨inner, -, hchildren⟩ :=
                    content_of_parseDeep (Nat.succ_pos depth) hdepth' hin
                  have hle : s.length ≤ q.length := hchildren.length_le
                  split
                  next => exact ih hpos hdepth (by omega)
                  next => exact fun h => nomatch h
      next header p' hne hidentify =>
        split
        next => exact fun h => nomatch h
        next node q hleaf =>
          split
          next => exact fun h => nomatch h
          next =>
            have hlt := length_lt_of_parseLeaf hidentify hne hleaf
            exact ih hpos hdepth (by omega)

/-! ### Documents -/

/-- The text of a document behind the white space and the byte order mark at its beginning. -/
def body (xml : List Char) : List Char := readBOM (skipWhiteSpace (SqlText.cText xml))

/-- What `Parse` does with a text that is not empty. -/
theorem parse_of_body_ne_nil {xml : List Char} (hne : body xml ≠ []) :
    parse xml = (parseDeep ((body xml).length + 1) 1 [] (body xml)).map Level.nodes := by
  rw [parse, ← body]
  split
  next heq => exact absurd heq hne
  next => cases parseDeep ((body xml).length + 1) 1 [] (body xml) <;> rfl

theorem parse_of_body_eq_nil {xml : List Char} (hnil : body xml = []) :
    parse xml = .error (.error .emptyDocument) := by
  rw [parse, ← body, hnil]

theorem parse_eq_ok_iff {xml : List Char} {nodes : List XMLNode} :
    parse xml = .ok nodes ↔ body xml ≠ [] ∧ ∃ e r, Content 1 true (body xml) nodes e r := by
  constructor
  · intro h
    have hne : body xml ≠ [] := by
      intro hnil
      rw [parse_of_body_eq_nil hnil] at h
      exact nomatch h
    refine ⟨hne, ?_⟩
    rw [parse_of_body_ne_nil hne] at h
    cases hparse : parseDeep ((body xml).length + 1) 1 [] (body xml) with
    | error halt =>
        rw [hparse] at h
        exact nomatch h
    | ok level =>
        rw [hparse] at h
        obtain ⟨nodes', hnodes, hcontent⟩ :=
          content_of_parseDeep Nat.one_pos (by decide) hparse
        rw [← Except.ok.inj h, hnodes]
        exact ⟨_, _, hcontent⟩
  · rintro ⟨hne, e, r, hcontent⟩
    rw [parse_of_body_ne_nil hne, hcontent.parseDeep Nat.one_pos rfl (Nat.lt_succ_self _)]
    rfl

theorem parse_ne_rounds (xml : List Char) : parse xml ≠ .error .rounds := by
  intro h
  by_cases hnil : body xml = []
  · rw [parse_of_body_eq_nil hnil] at h
    exact nomatch h
  · rw [parse_of_body_ne_nil hnil] at h
    cases hparse : parseDeep ((body xml).length + 1) 1 [] (body xml) with
    | error halt =>
        rw [hparse] at h
        rw [Except.error.inj h] at hparse
        exact parseDeep_ne_rounds Nat.one_pos (by decide) (Nat.lt_succ_self _) hparse
    | ok level =>
        rw [hparse] at h
        exact nomatch h

/-- `Parse` accepts exactly the texts of the grammar, and its nodes are those of the grammar; it
does not read on without an end. -/
theorem parse_iff_content (xml : List Char) (nodes : List XMLNode) :
    (parse xml = .ok nodes ↔
      body xml ≠ [] ∧ ∃ e r, Content 1 true (body xml) nodes e r) ∧
    parse xml ≠ .error .rounds :=
  ⟨parse_eq_ok_iff, parse_ne_rounds xml⟩

end Tinyxml2

end SignalingServer
