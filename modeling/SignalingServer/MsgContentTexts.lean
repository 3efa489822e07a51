import SignalingServer.MsgContentXml

/-!
What is received of a message. Its text is parsed to its document, with every text in it as it is
received; no text can end an element, begin one or become a reference. So the analysis of the
receiver and the lists that it reads depend on the texts alone.
-/

namespace SignalingServer

open Tinyxml2
open scoped Scanning

namespace MsgContentXml

variable {depth : Nat} {name root text : String} {nodes nodes' : List XMLNode} {node : XMLNode}

/-! ### Texts -/

/-- A text as it is received; `none` where it is blank, and no text is read. -/
def receivedText (text : String) : Option String :=
  if (SqlText.cText text.toList).all isWhiteSpace then none
  else some (String.ofList (normalizeNewlines (SqlText.cText text.toList)))

/-- A text that is received as it is. -/
theorem receivedText_eq_self (hnul : SqlText.nul ∉ text.toList) (hcr : cr ∉ text.toList)
    (hblank : ¬ Blank text.toList) : receivedText text = some text := by
  rw [receivedText, SqlText.cText_of_notMem hnul, if_neg, normalizeNewlines_of_notMem hcr,
    String.ofList_toList]
  exact fun h => hblank (List.all_eq_true.mp h)

theorem nul_notMem_cText (s : List Char) : SqlText.nul ∉ SqlText.cText s := fun hmem => by
  have hne := List.mem_takeWhile_imp hmem
  simp at hne

/-- Digits, with a sign in front or a fraction behind. -/
theorem receivedText_of_plain (hplain : ∀ c ∈ text.toList, c.isDigit ∨ c = '-' ∨ c = '.')
    (hne : text.toList ≠ []) : receivedText text = some text := by
  have hnot : ∀ c : Char, c.isDigit ∨ c = '-' ∨ c = '.' → isWhiteSpace c = false := by
    rintro c (hc | rfl | rfl)
    · exact Decimal.not_isSpace_of_isDigit hc
    · decide
    · decide
  refine receivedText_eq_self (fun hmem => ?_) (fun hmem => ?_) fun hblank => ?_
  · exact absurd (hplain _ hmem) (by decide)
  · exact absurd (hplain _ hmem) (by decide)
  · obtain ⟨c, rest, hrest⟩ := List.exists_cons_of_ne_nil hne
    have hc : c ∈ text.toList := by simp [hrest]
    exact absurd ((hnot c (hplain c hc)).symm.trans (hblank c hc)) (by decide)

theorem receivedText_nat (n : Nat) : receivedText (toString n) = some (toString n) := by
  refine receivedText_of_plain (fun c hc => .inl (isDigit_toString hc)) ?_
  rw [Nat.toString_eq_repr, Nat.toList_repr]
  exact Nat.toDigits_ne_nil

theorem receivedText_int (n : Int) : receivedText (toString n) = some (toString n) := by
  cases n with
  | ofNat n => exact receivedText_nat n
  | negSucc n =>
      have hstring : toString (Int.negSucc n) = "-" ++ toString (n + 1) := rfl
      refine receivedText_of_plain (fun c hc => ?_) ?_
      · rw [hstring, String.toList_append] at hc
        rcases List.mem_append.mp hc with hc | hc
        · exact .inr (.inl (List.mem_singleton.mp hc))
        · exact .inl (isDigit_toString hc)
      · rw [hstring, String.toList_append]
        exact List.cons_ne_nil _ _

/-! ### Documents -/

def isElement : XMLNode → Bool
  | .element .. => true
  | _ => false

theorem printableAll_iff : PrintableAll depth nodes ↔ ∀ node ∈ nodes, Printable depth node := by
  induction nodes with
  | nil =>
      constructor
      · exact fun _ _ h => absurd h List.not_mem_nil
      · exact fun _ => trivial
  | cons node nodes ih => rw [PrintableAll, ih, List.forall_mem_cons]

theorem separated_of_elements (h : ∀ node ∈ nodes, isElement node = true) : Separated nodes := by
  induction nodes with
  | nil => trivial
  | cons node nodes ih =>
      rw [List.forall_mem_cons] at h
      cases nodes with
      | nil => trivial
      | cons next nodes =>
          refine ⟨fun hplain => ?_, ih h.2⟩
          cases node with
          | element => exact absurd hplain Bool.false_ne_true
          | _ => exact absurd h.1 Bool.false_ne_true

theorem not_isDeclaration_of_element (h : isElement node = true) :
    node.isDeclaration = false := by
  cases node with
  | element => rfl
  | _ => exact absurd h Bool.false_ne_true

/-- An element with elements in it, and perhaps with numbers in its tag. -/
theorem printable_element {name : Name} {attributes : List (Name × List Char)}
    (hname : IsName name) (hattributes : ∀ a ∈ attributes, IsName a.1 ∧ SqlText.nul ∉ a.2)
    (hnodup : (attributes.map Prod.fst).Nodup) (hdepth : depth + 1 < maxElementDepth)
    (helements : ∀ node ∈ nodes, isElement node = true)
    (hprintable : ∀ node ∈ nodes, Printable (depth + 1) node) :
    Printable depth (.element name attributes nodes) :=
  ⟨hname, hattributes, hnodup, fun _ => hdepth,
    fun node hnode => not_isDeclaration_of_element (helements node hnode),
    separated_of_elements helements, printableAll_iff.mpr hprintable⟩

theorem printable_field (hname : IsName name.toList) (hdepth : depth + 1 < maxElementDepth)
    (text : String) : Printable depth (field name text) := by
  refine ⟨hname, ?_, List.nodup_nil, fun _ => hdepth, ?_, trivial, ?_, trivial⟩
  · exact fun _ h => absurd h List.not_mem_nil
  · intro child hchild
    rw [List.mem_singleton.mp hchild]
    rfl
  · exact ⟨nul_notMem_cText _, fun h => absurd h Bool.false_ne_true⟩

/-- Elements that may stand in the document at this depth. -/
def Fits (depth : Nat) (nodes : List XMLNode) : Prop :=
  ∀ node ∈ nodes, isElement node = true ∧ Printable depth node

theorem Fits.append (h : Fits depth nodes) (h' : Fits depth nodes') :
    Fits depth (nodes ++ nodes') := by
  intro node hnode
  rcases List.mem_append.mp hnode with hnode | hnode
  · exact h node hnode
  · exact h' node hnode

theorem fits_singleton (helement : isElement node = true) (hprintable : Printable depth node) :
    Fits depth [node] := by
  intro next hnext
  rw [List.mem_singleton.mp hnext]
  exact ⟨helement, hprintable⟩

theorem fits_fields {texts : List (String × String)}
    (hnames : ∀ t ∈ texts, IsName t.1.toList) (hdepth : depth + 1 < maxElementDepth) :
    Fits depth (fields texts) := by
  intro node hnode
  obtain ⟨t, ht, rfl⟩ := List.mem_map.mp hnode
  exact ⟨rfl, printable_field (hnames t ht) hdepth t.2⟩

theorem fits_group (hname : IsName name.toList) (hdepth : depth + 1 < maxElementDepth)
    (h : Fits (depth + 1) nodes) : Fits depth [group name nodes] :=
  fits_singleton rfl (printable_element hname (fun _ h => absurd h List.not_mem_nil)
    List.nodup_nil hdepth (fun node hnode => (h node hnode).1) fun node hnode => (h node hnode).2)

theorem fits_listElement (hname : IsName name.toList) (hdepth : depth + 1 < maxElementDepth)
    (num : Nat) (h : Fits (depth + 1) nodes) : Fits depth [listElement name num nodes] := by
  refine fits_singleton rfl (printable_element hname ?_ (List.nodup_singleton _) hdepth
    (fun node hnode => (h node hnode).1) fun node hnode => (h node hnode).2)
  intro a ha
  rw [List.mem_singleton.mp ha]
  have hnum : IsName "Num".toList := by decide
  exact ⟨hnum, fun hmem => absurd (isDigit_toString hmem) (by decide)⟩

/-- Items of a list: groups of elements with one text each. -/
theorem fits_items {α : Type} {items : List α} {texts : α → List (String × String)}
    (hnames : ∀ item ∈ items, ∀ t ∈ texts item, IsName t.1.toList)
    (hdepth : depth + 1 + 1 < maxElementDepth) :
    Fits depth (items.map fun item => group "Item" (fields (texts item))) := by
  intro node hnode
  obtain ⟨item, hitem, rfl⟩ := List.mem_map.mp hnode
  exact fits_group (by decide) (by omega) (fits_fields (hnames item hitem) hdepth) _
    (List.mem_singleton_self _)

/-- A message is read as its document. -/
theorem parse_content (hroot : IsName root.toList) (hnodes : Fits 2 nodes) :
    parse (content (document root nodes)).toList =
      .ok [declaration, .element root.toList [] (readBackAll nodes)] := by
  have hprintable : Printable 1 (group root nodes) :=
    ((fits_group hroot (by decide) hnodes) _ (List.mem_singleton_self _)).2
  have hdeclaration : Printable 1 declaration := ⟨by decide, by decide⟩
  have hdocument : PrintableDocument (document root nodes) := by
    refine ⟨List.cons_ne_nil _ _, ⟨hdeclaration, hprintable, trivial⟩, ?_, ?_⟩
    · simp [document, declaration, group, XMLNode.isPlainText]
    · intro node hnode
      have hrest : (document root nodes).dropWhile XMLNode.isDeclaration = [group root nodes] :=
        rfl
      rw [hrest, List.mem_singleton] at hnode
      rw [hnode]
      rfl
  have hread : readBackAll (document root nodes) =
      [declaration, .element root.toList [] (readBackAll nodes)] := by
    rw [document, readBackAll, readBackAll, readBackAll, declaration, group, readBack, readBack,
      normalizeNewlines_of_notMem (by decide)]
    rfl
  rw [content, String.toList_ofList, parse_print false hdocument, hread]

/-! ### What the analysis sees -/

theorem toXmlNodes_append (nodes nodes' : List XMLNode) :
    toXmlNodes (nodes ++ nodes') = toXmlNodes nodes ++ toXmlNodes nodes' := by
  induction nodes with
  | nil => rfl
  | cons node nodes ih => rw [List.cons_append, toXmlNodes, toXmlNodes, ih, List.cons_append]

/-- Elements as the analysis reads them. -/
def seen (nodes : List XMLNode) : List XmlNode := toXmlNodes (readBackAll nodes)

theorem seen_append (nodes nodes' : List XMLNode) :
    seen (nodes ++ nodes') = seen nodes ++ seen nodes' := by
  rw [seen, readBackAll_append, toXmlNodes_append, seen, seen]

/-- An element with one text, as the analysis reads it. -/
def seenField (t : String × String) : XmlNode :=
  .element t.1 ((receivedText t.2).toList.map .text)

theorem seen_field (name text : String) : seen [field name text] = [seenField (name, text)] := by
  rw [seen, readBackAll, field, readBack, readBackAll, readBackAll, readBackAll, readBack,
    seenField, receivedText, Bool.not_false, Bool.true_and]
  cases hblank : (SqlText.cText text.toList).all isWhiteSpace with
  | true => simp [toXmlNodes, XMLNode.toXmlNode]
  | false => simp [toXmlNodes, XMLNode.toXmlNode]

theorem seen_fields (texts : List (String × String)) :
    seen (fields texts) = texts.map seenField := by
  induction texts with
  | nil => rfl
  | cons t texts ih =>
      have hcons : fields (t :: texts) = [field t.1 t.2] ++ fields texts := rfl
      rw [hcons, seen_append, seen_field, ih, List.map_cons, List.singleton_append]

theorem seen_group (name : String) (nodes : List XMLNode) :
    seen [group name nodes] = [.element name (seen nodes)] := by
  rw [seen, readBackAll, group, readBack, readBackAll, List.append_nil, toXmlNodes,
    XMLNode.toXmlNode, toXmlNodes, String.ofList_toList, seen]

theorem seen_listElement (name : String) (num : Nat) (nodes : List XMLNode) :
    seen [listElement name num nodes] = [.element name (seen nodes)] := by
  rw [seen, readBackAll, listElement, readBack, readBackAll, List.append_nil, toXmlNodes,
    XMLNode.toXmlNode, toXmlNodes, String.ofList_toList, seen]

theorem seen_items {α : Type} (items : List α) (texts : α → List (String × String)) :
    seen (items.map fun item => group "Item" (fields (texts item))) =
      items.map fun item => .element "Item" ((texts item).map seenField) := by
  induction items with
  | nil => rfl
  | cons item items ih =>
      rw [List.map_cons, ← List.singleton_append, seen_append, seen_group, seen_fields, ih,
        List.map_cons, List.singleton_append]

variable {scanHex : String → Option UInt32}

/-- The root element that the receiver finds. -/
theorem parse_reader (hroot : IsName root.toList) (hnodes : Fits 2 nodes) :
    (reader scanHex).parse (content (document root nodes)) = some ⟨root, seen nodes⟩ := by
  have hparse := parse_content hroot hnodes
  simp only [reader, hparse]
  rw [rootElement, declaration, firstChildElement, List.findSome?_cons, List.findSome?_cons]
  simp only [Option.map_some, String.ofList_toList, seen]

end MsgContentXml

end SignalingServer
