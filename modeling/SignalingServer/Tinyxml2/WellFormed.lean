import SignalingServer.Tinyxml2.RoundTrip

/-!
Every document that the parser accepts is one that can be printed, unless it has a text outside
of an element; what is read of the print is fixed from then on.
-/

namespace SignalingServer

namespace Tinyxml2

open Scanning XMLNode

variable {c : Char} {p q r s v w name : List Char} {node : XMLNode} {nodes : List XMLNode}
variable {depth : Nat} {prolog : Bool} {e : Option Name}

/-! ### Values -/

theorem prefix_of_normalizeNewlines (hlf : lf ∉ w) (h : w <+: normalizeNewlines s) : w <+: s := by
  have hhead {c : Char} {w s : List Char} (hlf : lf ∉ w) (h : w <+: newline c :: s) :
      w = [] ∨ ∃ w', w = c :: w' ∧ w' <+: s := by
    rcases List.prefix_cons_iff.mp h with rfl | ⟨w', rfl, hw'⟩
    · exact .inl rfl
    · refine .inr ⟨w', ?_, hw'⟩
      rw [newline] at hlf ⊢
      split at hlf
      · exact absurd List.mem_cons_self hlf
      · rw [if_neg ‹_›]
  induction s using normalizeNewlines.induct generalizing w with
  | case1 => exact h
  | case2 c =>
      rcases hhead hlf h with rfl | ⟨w', rfl, hw'⟩
      · exact List.nil_prefix
      · exact List.cons_prefix_cons.mpr ⟨rfl, hw'⟩
  | case3 c d s hpair ih =>
      rw [normalizeNewlines, if_pos hpair] at h
      rcases List.prefix_cons_iff.mp h with rfl | ⟨w', rfl, -⟩
      · exact List.nil_prefix
      · exact absurd List.mem_cons_self hlf
  | case4 c d s hpair ih =>
      rw [normalizeNewlines, if_neg hpair] at h
      rcases hhead hlf h with rfl | ⟨w', rfl, hw'⟩
      · exact List.nil_prefix
      · exact List.cons_prefix_cons.mpr
          ⟨rfl, ih (fun hmem => hlf (List.mem_cons_of_mem c hmem)) hw'⟩

theorem infix_of_normalizeNewlines (hlf : lf ∉ w) (h : w <:+: normalizeNewlines s) : w <:+: s := by
  induction s using normalizeNewlines.induct with
  | case1 => exact h
  | case2 c =>
      rcases List.infix_cons_iff.mp h with h | h
      · exact (prefix_of_normalizeNewlines (s := [c]) hlf h).isInfix
      · exact h.trans (List.nil_infix)
  | case3 c d s hpair ih =>
      have h' := h
      rw [normalizeNewlines, if_pos hpair] at h'
      rcases List.infix_cons_iff.mp h' with hfirst | hrest
      · refine (prefix_of_normalizeNewlines hlf ?_).isInfix
        rwa [normalizeNewlines, if_pos hpair]
      · exact (ih hrest).trans ⟨[c, d], [], by simp⟩
  | case4 c d s hpair ih =>
      have h' := h
      rw [normalizeNewlines, if_neg hpair] at h'
      rcases List.infix_cons_iff.mp h' with hfirst | hrest
      · refine (prefix_of_normalizeNewlines hlf ?_).isInfix
        rwa [normalizeNewlines, if_neg hpair]
      · exact List.infix_cons (ih hrest)

theorem nul_notMem_getStr (flags : StrFlags) (v : List Char) : SqlText.nul ∉ getStr flags v := by
  intro hmem
  have hne := List.mem_takeWhile_imp hmem
  simp at hne

theorem prefix_of_getStr (hlf : lf ∉ w) (h : w <+: getStr commentValue v) : w <+: v := by
  rw [getStr, getStrFrom_commentValue] at h
  exact prefix_of_normalizeNewlines hlf (h.trans (List.takeWhile_prefix _))

theorem printableValue_getStr (hlf : lf ∉ w) (h : ¬ w <:+: v) :
    PrintableValue w (getStr commentValue v) := by
  refine ⟨nul_notMem_getStr _ _, fun hmem => h ?_⟩
  rw [getStr, getStrFrom_commentValue] at hmem
  exact infix_of_normalizeNewlines hlf (hmem.trans (List.takeWhile_prefix _).isInfix)

/-! ### Nodes -/

theorem Leaf.printable {u : List Char} (h : Leaf u node) (depth : Nat) :
    Printable depth node ∧ node.isPlainText = false := by
  cases h with
  | declaration hv => exact ⟨printableValue_getStr (by decide) hv, rfl⟩
  | comment hv => exact ⟨printableValue_getStr (by decide) hv, rfl⟩
  | cData hv =>
      have hvalue := printableValue_getStr (by decide) hv
      exact ⟨⟨hvalue.1, fun _ => hvalue.2⟩, rfl⟩
  | @unknown v hv hcomment hcData =>
      have hgt : ¬ ">".toList <:+: v := fun h => hv (h.subset List.mem_cons_self)
      exact ⟨⟨printableValue_getStr (by decide) hgt,
        fun h => hcomment (prefix_of_getStr (by decide) h),
        fun h => hcData (prefix_of_getStr (by decide) h)⟩, rfl⟩

theorem Attributes.printable {seen : List Name} {attributes : List (Name × List Char)}
    {sealed : Bool} (h : Attributes seen p attributes sealed r) :
    (∀ a ∈ attributes, IsName a.1 ∧ SqlText.nul ∉ a.2) ∧
      (∀ a ∈ attributes, a.1 ∉ seen) ∧ (attributes.map Prod.fst).Nodup := by
  induction h with
  | «open» => exact ⟨by simp, by simp, List.nodup_nil⟩
  | sealed => exact ⟨by simp, by simp, List.nodup_nil⟩
  | @cons seen attributes sealed quote ws ws₁ ws₂ name v p r _ hname hnew _ _ _ _ _ ih =>
      obtain ⟨hvalues, hseen, hnodup⟩ := ih
      refine ⟨?_, ?_, ?_⟩
      · exact List.forall_mem_cons.mpr ⟨⟨hname, nul_notMem_getStr _ _⟩, hvalues⟩
      · exact List.forall_mem_cons.mpr
          ⟨hnew, fun a ha hmem => hseen a ha (List.mem_append_left _ hmem)⟩
      · rw [List.map_cons, List.nodup_cons]
        refine ⟨fun hmem => ?_, hnodup⟩
        obtain ⟨a, ha, hfst⟩ := List.mem_map.mp hmem
        exact hseen a ha (List.mem_append_right _ (List.mem_singleton.mpr hfst))

theorem TagText.printable {tag : Tag} (h : TagText p tag r) :
    IsName tag.name ∧ (∀ a ∈ tag.attributes, IsName a.1 ∧ SqlText.nul ∉ a.2) ∧
      (tag.attributes.map Prod.fst).Nodup := by
  cases h with
  | mk slash hws hname hstop hattributes =>
      obtain ⟨hvalues, -, hnodup⟩ := hattributes.printable
      exact ⟨hname, hvalues, hnodup⟩

/-! ### Contents -/

theorem Located.cons_other (hnode : node.isDeclaration = false) (hnodes : Located false nodes) :
    Located prolog (node :: nodes) := by
  have hall : ∀ next ∈ node :: nodes, next.isDeclaration = false :=
    List.forall_mem_cons.mpr ⟨hnode, hnodes⟩
  intro next hnext
  refine hall next ?_
  split at hnext
  · exact (List.dropWhile_suffix _).subset hnext
  · exact hnext

theorem Located.cons (hnode : node.isDeclaration = true → prolog = true)
    (hnodes : Located (prolog && node.isDeclaration) nodes) : Located prolog (node :: nodes) := by
  cases hdeclaration : node.isDeclaration with
  | false =>
      rw [hdeclaration, Bool.and_false] at hnodes
      exact .cons_other hdeclaration hnodes
  | true =>
      obtain rfl : prolog = true := hnode hdeclaration
      rw [hdeclaration] at hnodes
      rw [Located, if_pos rfl, List.dropWhile_cons_of_pos hdeclaration]
      exact hnodes

/-- Behind a `<` stands no text. -/
theorem Content.isPlainText_of_lt (h : Content depth prolog ('<' :: q) nodes e r) :
    ∀ node ∈ nodes.head?, node.isPlainText = false := by
  generalize htext : '<' :: q = t at h
  cases h with
  | done => exact fun _ h => nomatch h
  | endTag => exact fun _ h => nomatch h
  | empty => exact fun _ h => Option.some.inj h ▸ rfl
  | element => exact fun _ h => Option.some.inj h ▸ rfl
  | @text _ _ _ _ v q r hblank hv =>
      refine absurd (fun c hc => ?_) hblank
      cases v with
      | nil => exact nomatch hc
      | cons d v =>
          obtain ⟨rfl, -⟩ := List.cons.inj htext
          exact absurd List.mem_cons_self hv
  | leaf _ hleaf => exact fun _ h => Option.some.inj h ▸ (hleaf.printable 0).2

theorem separated_cons (hnode : node.isPlainText = true →
      ∀ next ∈ nodes.head?, next.isPlainText = false)
    (hnodes : Separated nodes) : Separated (node :: nodes) := by
  cases nodes with
  | nil => trivial
  | cons next nodes => exact ⟨fun h => hnode h next rfl, hnodes⟩

/-- What the nodes of a content are like: no name twice in a tag, not too deep, no two texts side
by side, and the declarations first. -/
theorem Content.printable (h : Content depth prolog p nodes e r) :
    PrintableAll depth nodes ∧ Separated nodes ∧ Located prolog nodes := by
  have hnil (prolog : Bool) : Located prolog [] := fun node hnode => by
    cases prolog <;> exact nomatch hnode
  induction h with
  | done => exact ⟨trivial, trivial, hnil _⟩
  | endTag => exact ⟨trivial, trivial, hnil _⟩
  | @empty depth prolog tag nodes e ws p q r hws htag hclosed hrest ih =>
      obtain ⟨hname, hattributes, hnodup⟩ := htag.printable
      obtain ⟨hprintable, hseparated, hlocated⟩ := ih
      have helement : Printable depth (.element tag.name tag.attributes []) :=
        ⟨hname, hattributes, hnodup, fun h => absurd rfl h, by simp, trivial, trivial⟩
      exact ⟨⟨helement, hprintable⟩, separated_cons (fun h => nomatch h) hseparated,
        .cons_other rfl hlocated⟩
  | @element depth prolog tag children nodes e ws p q r s hws htag hopen hmore hdepth hchildren
      hrest ih ih' =>
      obtain ⟨hname, hattributes, hnodup⟩ := htag.printable
      obtain ⟨hinner, hapart, hplaced⟩ := ih
      obtain ⟨hprintable, hseparated, hlocated⟩ := ih'
      have helement : Printable depth (.element tag.name tag.attributes children) :=
        ⟨hname, hattributes, hnodup, fun _ => hdepth, hplaced, hapart, hinner⟩
      exact ⟨⟨helement, hprintable⟩, separated_cons (fun h => nomatch h) hseparated,
        .cons_other rfl hlocated⟩
  | @text depth prolog nodes e v q r hblank hv hmore hrest ih =>
      obtain ⟨hprintable, hseparated, hlocated⟩ := ih
      have htext : Printable depth (.text (getStr textElement v) false) :=
        ⟨nul_notMem_getStr _ _, fun h => nomatch h⟩
      exact ⟨⟨htext, hprintable⟩, separated_cons (fun _ => hrest.isPlainText_of_lt) hseparated,
        .cons_other rfl hlocated⟩
  | @leaf depth prolog node nodes e ws v q r hws hleaf hlocated hrest ih =>
      obtain ⟨hprintable, hseparated, hplaced⟩ := ih
      obtain ⟨hnode, hplain⟩ := hleaf.printable depth
      refine ⟨⟨hnode, hprintable⟩, separated_cons (fun h => ?_) hseparated, .cons hlocated hplaced⟩
      exact absurd (hplain.symm.trans h) Bool.false_ne_true

/-! ### What is read again -/

theorem normalizeNewlines_twice (s : List Char) :
    normalizeNewlines (normalizeNewlines s) = normalizeNewlines s :=
  normalizeNewlines_of_notMem (cr_notMem_normalizeNewlines s)

mutual

theorem readBackAll_readBack : ∀ node : XMLNode, readBackAll (readBack node) = readBack node
  | .element name attributes children => by
      have htwice : (attributes.map fun a => (a.1, normalizeNewlines a.2)).map
          (fun a => (a.1, normalizeNewlines a.2)) =
          attributes.map fun a => (a.1, normalizeNewlines a.2) := by
        simp [normalizeNewlines_twice]
      rw [readBack, readBackAll, readBack, readBackAll, readBackAll_twice children, htwice]
      rfl
  | .text value cData => by
      rw [readBack]
      split
      next => rfl
      next hmore =>
        rw [readBackAll, readBack, all_isWhiteSpace_normalizeNewlines, if_neg hmore,
          normalizeNewlines_twice]
        rfl
  | .comment value => by
      rw [readBack, readBackAll, readBack, normalizeNewlines_twice]
      rfl
  | .declaration value => by
      rw [readBack, readBackAll, readBack, normalizeNewlines_twice]
      rfl
  | .unknown value => by
      rw [readBack, readBackAll, readBack, normalizeNewlines_twice]
      rfl

/-- What has been read of a print is read as it is. -/
theorem readBackAll_twice : ∀ nodes : List XMLNode,
    readBackAll (readBackAll nodes) = readBackAll nodes
  | [] => rfl
  | node :: nodes => by
      rw [readBackAll, readBackAll_append, readBackAll_readBack node, readBackAll_twice nodes]

end

theorem readBack_of_not_isPlainText (h : node.isPlainText = false) :
    ∃ read, readBack node = [read] ∧ read.isPlainText = false := by
  cases node with
  | text value cData =>
      cases cData with
      | false => exact nomatch h
      | true => exact ⟨_, rfl, rfl⟩
  | _ => exact ⟨_, rfl, rfl⟩

/-! ### Documents -/

theorem printableDocument_of_parse {xml : List Char} (h : parse xml = .ok nodes)
    (hne : nodes ≠ []) (hplain : ∀ node ∈ nodes, node.isPlainText = false) :
    PrintableDocument nodes := by
  obtain ⟨-, e, r, hcontent⟩ := parse_eq_ok_iff.mp h
  obtain ⟨hprintable, -, hlocated⟩ := hcontent.printable
  exact ⟨hne, hprintable, hplain, hlocated⟩

theorem isPlainText_readBackAll (h : ∀ node ∈ nodes, node.isPlainText = false) :
    ∀ read ∈ readBackAll nodes, read.isPlainText = false := by
  induction nodes with
  | nil => exact fun _ hmem => nomatch hmem
  | cons node nodes ih =>
      obtain ⟨read, hread, hplain⟩ := readBack_of_not_isPlainText (h node List.mem_cons_self)
      rw [readBackAll, hread, List.singleton_append]
      exact List.forall_mem_cons.mpr
        ⟨hplain, ih fun node hnode => h node (List.mem_cons_of_mem _ hnode)⟩

theorem PrintableDocument.readBackAll (h : PrintableDocument nodes) :
    PrintableDocument (readBackAll nodes) := by
  refine printableDocument_of_parse (parse_print false h) ?_ (isPlainText_readBackAll h.noText)
  obtain ⟨node, rest, rfl⟩ := List.exists_cons_of_ne_nil h.nonempty
  obtain ⟨read, hread, -⟩ := readBack_of_not_isPlainText (h.noText node List.mem_cons_self)
  rw [Tinyxml2.readBackAll, hread]
  exact List.cons_ne_nil _ _

/-- A document is read as it was printed, up to its line ends and the texts of white space, in
either mode of the printer; what is read of it comes back unchanged however often it is printed. -/
theorem printed_document_fixed (compact compact' : Bool) (h : PrintableDocument nodes) :
    parse (print compact nodes) = .ok (readBackAll nodes) ∧
      parse (print compact' (readBackAll nodes)) = .ok (readBackAll nodes) := by
  refine ⟨parse_print compact h, ?_⟩
  rw [parse_print compact' h.readBackAll, readBackAll_twice]

/-- An element whose text has an ampersand and a carriage return, behind a declaration. -/
theorem printed_document_fixed_item :
    parse (print true [.declaration ['v'], .element ['a'] [(['k'], ['"', '&'])]
        [.text ['x', cr, '<'] false]]) =
      .ok [.declaration ['v'], .element ['a'] [(['k'], ['"', '&'])]
        [.text ['x', lf, '<'] false]] := by
  have hdocument : PrintableDocument [.declaration ['v'], .element ['a'] [(['k'], ['"', '&'])]
      [.text ['x', cr, '<'] false]] := by
    refine ⟨List.cons_ne_nil _ _, ⟨⟨by decide, by decide⟩, ?_, trivial⟩, by decide, by decide⟩
    exact ⟨by decide, by decide, by decide, fun _ => by decide, by decide, trivial,
      ⟨by decide, fun h => nomatch h⟩, trivial⟩
  exact (printed_document_fixed true false hdocument).1

/-- What the parser accepts is well formed, and if it has no text outside of an element, it can be
printed and read again. -/
theorem parsed_well_formed (xml : List Char) (nodes : List XMLNode) (h : parse xml = .ok nodes) :
    (PrintableAll 1 nodes ∧ Separated nodes ∧ Located true nodes) ∧
      (nodes ≠ [] → (∀ node ∈ nodes, node.isPlainText = false) → ∀ compact,
        parse (print compact nodes) = .ok (readBackAll nodes)) := by
  obtain ⟨-, e, r, hcontent⟩ := parse_eq_ok_iff.mp h
  refine ⟨hcontent.printable, fun hne hplain compact => ?_⟩
  exact parse_print compact (printableDocument_of_parse h hne hplain)

theorem parsed_well_formed_item :
    parse (print false [.element ['a'] [(['k'], ['1'])] [.text ['x'] false]]) =
      .ok [.element ['a'] [(['k'], ['1'])] [.text ['x'] false]] :=
  (parsed_well_formed "<a k='1'>x</a>".toList [.element ['a'] [(['k'], ['1'])] [.text ['x'] false]]
    rfl).2 (by decide) (by decide) false

end Tinyxml2

end SignalingServer
