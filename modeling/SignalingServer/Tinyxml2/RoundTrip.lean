import SignalingServer.Tinyxml2.XMLPrinter

/-!
What is printed is read back. Each printed node is a beginning of a text of the grammar, whatever
is behind it; only a text asks for a `<` behind it, and the printer never puts white space there.
The induction is on the tree that is printed.
-/

namespace SignalingServer

namespace Tinyxml2

open Scanning XMLNode

variable {c : Char} {p q r s v ws name : List Char} {node : XMLNode} {nodes : List XMLNode}
variable {depth : Nat} {prolog : Bool} {e : Option Name}

/-! ### White space in front of a content -/

/-- A text that begins with a node that is no text, or has no nodes. -/
def Markup (p : List Char) : Prop := Blank p ∨ ∃ ws q, Blank ws ∧ p = ws ++ '<' :: q

theorem Blank.append (hws : Blank ws) (hp : Blank p) : Blank (ws ++ p) := by
  intro c hc
  rcases List.mem_append.mp hc with hc | hc
  · exact hws c hc
  · exact hp c hc

theorem blank_nil : Blank [] := fun _ hc => nomatch hc

theorem blank_space : Blank [' '] := fun _ hc => List.mem_singleton.mp hc ▸ rfl

theorem Blank.notMem (hws : Blank ws) : '<' ∉ ws := fun hmem => absurd (hws '<' hmem) (by decide)

theorem Markup.append (hws : Blank ws) (hp : Markup p) : Markup (ws ++ p) := by
  rcases hp with hblank | ⟨ws', q, hws', rfl⟩
  · exact .inl (hws.append hblank)
  · exact .inr ⟨ws ++ ws', q, hws.append hws', by rw [List.append_assoc]⟩

/-- The first `<` of a text divides it in one way. -/
theorem eq_of_append_lt (hv : '<' ∉ v) (hws : '<' ∉ ws) (h : v ++ '<' :: p = ws ++ '<' :: q) :
    v = ws := by
  have hv' : breakOn ['<'] (v ++ '<' :: p) = some (v, p) := breakOn_singleton.mpr ⟨rfl, hv⟩
  have hws' : breakOn ['<'] (ws ++ '<' :: q) = some (ws, q) := breakOn_singleton.mpr ⟨rfl, hws⟩
  rw [h, hws'] at hv'
  exact (Prod.mk.inj (Option.some.inj hv')).1.symm

theorem Content.prepend (hws : Blank ws) (hp : Markup p) (h : Content depth prolog p nodes e r) :
    Content depth prolog (ws ++ p) nodes e r := by
  cases h with
  | done hws' => exact .done (hws.append hws')
  | endTag hws' htag hclosing =>
      rw [← List.append_assoc]
      exact .endTag (hws.append hws') htag hclosing
  | empty hws' htag hclosed hrest =>
      rw [← List.append_assoc]
      exact .empty (hws.append hws') htag hclosed hrest
  | element hws' htag hopen hmore hdepth hchildren hrest =>
      rw [← List.append_assoc]
      exact .element (hws.append hws') htag hopen hmore hdepth hchildren hrest
  | text hblank hv hmore hrest =>
      -- a text is no markup
      rcases hp with hp | ⟨ws', q', hws', hp⟩
      · exact absurd (fun c hc => hp c (List.mem_append_left _ hc)) hblank
      · exact absurd (eq_of_append_lt hv hws'.notMem hp ▸ hws') hblank
  | leaf hws' hleaf hlocated hrest =>
      rw [← List.append_assoc]
      exact .leaf (hws.append hws') hleaf hlocated hrest

/-! ### Beginnings of a content -/

/-- The text is read as these nodes, in front of everything that may be behind it; if they end
with a text, that begins with a tag. -/
def Reads (depth : Nat) (prolog after ends : Bool) (t : List Char) (nodes : List XMLNode) : Prop :=
  ∀ cont more e r, (ends = true → ∃ q, cont = '<' :: q ∧ q ≠ []) →
    Content depth after cont more e r → Content depth prolog (t ++ cont) (nodes ++ more) e r

theorem reads_nil : Reads depth prolog prolog false [] [] := fun _ _ _ _ _ h => h

/-- One text behind another. What is behind a text begins with a tag. -/
theorem Reads.append {after after' ends ends' : Bool} {t t' : List Char}
    {nodes nodes' : List XMLNode} (h : Reads depth prolog after ends t nodes)
    (h' : Reads depth after after' ends' t' nodes')
    (hends : ends = true → ∃ q, t' = '<' :: q ∧ q ≠ []) :
    Reads depth prolog after' ends' (t ++ t') (nodes ++ nodes') := by
  intro cont more e r hcont hcontent
  rw [List.append_assoc, List.append_assoc]
  refine h _ _ _ _ (fun hends' => ?_) (h' cont more e r hcont hcontent)
  obtain ⟨q, rfl, hq⟩ := hends hends'
  exact ⟨q ++ cont, rfl, fun hnil => hq (List.append_eq_nil_iff.mp hnil).1⟩

theorem Reads.prepend {after ends : Bool} {t : List Char} (hws : Blank ws)
    (ht : ∃ q, t = '<' :: q) (h : Reads depth prolog after ends t nodes) :
    Reads depth prolog after ends (ws ++ t) nodes := by
  intro cont more e r hcont hcontent
  obtain ⟨q, rfl⟩ := ht
  rw [List.append_assoc]
  exact (h cont more e r hcont hcontent).prepend hws (.inr ⟨[], q ++ cont, blank_nil, rfl⟩)

theorem Leaf.reads {u : List Char} (hleaf : Leaf u node)
    (hlocated : node.isDeclaration = true → prolog = true) :
    Reads depth prolog (prolog && node.isDeclaration) false u [node] := by
  intro cont more e r _ hcontent
  exact .leaf blank_nil hleaf hlocated hcontent

/-- A printed text: one of white space alone is not read. -/
theorem reads_text (hnul : SqlText.nul ∉ v) :
    Reads depth false false true (printString true v) (readBack (.text v false)) := by
  intro cont more e r hcont hcontent
  obtain ⟨q, rfl, hq⟩ := hcont rfl
  have hall : (printString true v).all isWhiteSpace = v.all isWhiteSpace :=
    all_isWhiteSpace_printString v
  rw [readBack, Bool.not_false, Bool.true_and]
  cases hblank : v.all isWhiteSpace with
  | true =>
      have hprinted : Blank (printString true v) := List.all_eq_true.mp (hall.trans hblank)
      exact hcontent.prepend hprinted (.inr ⟨[], q, blank_nil, rfl⟩)
  | false =>
      have hprinted : ¬ Blank (printString true v) := fun h =>
        absurd (hblank.symm.trans (hall.symm.trans (List.all_eq_true.mpr h))) (by decide)
      have hfree : '<' ∉ printString true v := notMem_printString rfl (by decide)
      rw [show normalizeNewlines v = getStr textElement (printString true v) from
        (getStr_printString hnul).symm]
      exact .text hprinted hfree hq hcontent

/-! ### Tags -/

/-- What is printed of attributes. -/
def printAttributes (attributes : List (Name × List Char)) : List Char :=
  attributes.flatMap fun a =>
    " ".toList ++ (a.1 ++ ("=\"".toList ++ (printString false a.2 ++ "\"".toList)))

def readAttributes (attributes : List (Name × List Char)) : List (Name × List Char) :=
  attributes.map fun a => (a.1, normalizeNewlines a.2)

theorem attributes_print {attributes : List (Name × List Char)}
    (hattributes : ∀ a ∈ attributes, IsName a.1 ∧ SqlText.nul ∉ a.2)
    (hnodup : (attributes.map Prod.fst).Nodup) {seen : List Name}
    (hseen : ∀ a ∈ attributes, a.1 ∉ seen) {last : List Char} {sealed : Bool}
    (hlast : ∀ seen, Attributes seen last [] sealed r) :
    Attributes seen (printAttributes attributes ++ last) (readAttributes attributes) sealed r := by
  induction attributes generalizing seen with
  | nil => exact hlast seen
  | cons a attributes ih =>
      obtain ⟨hname, hnul⟩ := hattributes a List.mem_cons_self
      rw [List.map_cons, List.nodup_cons] at hnodup
      have hquote : '"' ∉ printString false a.2 := notMem_printString rfl (by decide)
      have hseen' : ∀ b ∈ attributes, b.1 ∉ seen ++ [a.1] := by
        intro b hb
        rw [List.mem_append, List.mem_singleton, not_or]
        exact ⟨hseen b (List.mem_cons_of_mem a hb),
          fun heq => hnodup.1 (List.mem_map.mpr ⟨b, hb, heq⟩)⟩
      have hrest := ih (fun b hb => hattributes b (List.mem_cons_of_mem a hb)) hnodup.2 hseen'
      have hcons : Attributes seen ([' '] ++ (a.1 ++ ([] ++ '=' :: ([] ++ '"' ::
          (printString false a.2 ++ '"' :: (printAttributes attributes ++ last))))))
          ((a.1, getStr attributeValue (printString false a.2)) :: readAttributes attributes)
          sealed r :=
        .cons blank_space hname (hseen a List.mem_cons_self) blank_nil blank_nil (.inl rfl)
          hquote hrest
      rw [show getStr attributeValue (printString false a.2) = normalizeNewlines a.2 from
        getStr_printString hnul] at hcons
      simpa [printAttributes, readAttributes, List.append_assoc] using hcons

/-- The text behind a name that the printer writes. -/
theorem stops_print (attributes : List (Name × List Char)) {last : List Char}
    (hlast : Stops isNameChar last) : Stops isNameChar (printAttributes attributes ++ last) := by
  cases attributes with
  | nil => exact hlast
  | cons a attributes => exact stops_cons.mpr (by decide)

theorem tagText_print (hname : IsName name) {attributes : List (Name × List Char)}
    (hattributes : ∀ a ∈ attributes, IsName a.1 ∧ SqlText.nul ∉ a.2)
    (hnodup : (attributes.map Prod.fst).Nodup) {last : List Char} {sealed : Bool}
    (hlast : ∀ seen, Attributes seen last [] sealed r) (hstop : Stops isNameChar last) :
    TagText (name ++ (printAttributes attributes ++ last))
      ⟨name, readAttributes attributes, if sealed then .closed else .open⟩ r := by
  have htext := TagText.mk false blank_nil hname (stops_print attributes hstop)
    (attributes_print hattributes hnodup (fun _ _ => List.not_mem_nil) hlast)
  exact htext

theorem tagText_end (hname : IsName name) (r : List Char) :
    TagText ('/' :: (name ++ '>' :: r)) ⟨name, [], .closing⟩ r :=
  .mk true blank_nil hname (stops_cons.mpr (by decide)) (.open blank_nil)

/-! ### Steps of the printer -/

namespace XMLPrinter

variable {printer printer' : XMLPrinter} {t t' : List Char}

/-- What seals the tag that is open. -/
def sealText (printer : XMLPrinter) : List Char := if printer.elementJustOpened then ['>'] else []

/-- The white space in front of the next node. -/
def blank (printer : XMLPrinter) : List Char :=
  if printer.compactMode then [] else printer.indent

/-- A node has been printed, or none has white space in front of it. -/
def Settled (printer : XMLPrinter) : Prop :=
  printer.compactMode = true ∨ printer.firstElement = false

/-- What a node leaves as it was, and what it appends to the buffer. -/
structure Printed (printer printer' : XMLPrinter) (t : List Char) : Prop where
  buffer : printer'.buffer = printer.buffer ++ t
  depth : printer'.depth = printer.depth
  stack : printer'.stack = printer.stack
  compactMode : printer'.compactMode = printer.compactMode
  settled : printer.Settled → printer'.Settled

theorem blank_space (depth : Nat) : Blank (space depth) := by
  intro c hc
  obtain ⟨word, hword, hc⟩ := List.mem_flatten.mp hc
  rw [List.eq_of_mem_replicate hword] at hc
  simp only [String.reduceToList, List.mem_cons, List.not_mem_nil, or_false, or_self] at hc
  rw [hc]
  rfl

theorem blank_newline (depth : Nat) : Blank ('\n' :: space depth) := by
  intro c hc
  rcases List.mem_cons.mp hc with rfl | hc
  · rfl
  · exact blank_space depth c hc

theorem blank_blank (printer : XMLPrinter) : Blank printer.blank := by
  rw [blank, indent]
  split
  · exact blank_nil
  split
  · exact blank_space _
  split
  · exact blank_newline _
  · exact blank_nil

/-- Behind a text there is no white space. -/
theorem Settled.blank_eq_nil (h : printer.Settled) (htext : 0 ≤ printer.textDepth) :
    printer.blank = [] := by
  rw [blank, indent]
  rcases h with hcompact | hfirst
  · rw [if_pos hcompact]
  · rw [hfirst, if_neg (by decide : ¬ false = true), if_neg (by omega : ¬ printer.textDepth < 0),
      ite_self]

@[simp] theorem write_buffer : (printer.write t).buffer = printer.buffer ++ t := rfl

theorem sealElementIfJustOpened_eq (printer : XMLPrinter) : printer.sealElementIfJustOpened =
    { printer with buffer := printer.buffer ++ printer.sealText, elementJustOpened := false } := by
  rw [sealElementIfJustOpened, sealText]
  cases hopened : printer.elementJustOpened with
  | true => rfl
  | false =>
      rw [if_neg (by decide), if_neg (by decide), List.append_nil, ← hopened]

theorem prepareForNewNode_eq (printer : XMLPrinter) : printer.prepareForNewNode =
    { printer with
      buffer := printer.buffer ++ (printer.sealText ++ printer.blank)
      elementJustOpened := false
      firstElement := printer.compactMode && printer.firstElement } := by
  rw [prepareForNewNode, sealElementIfJustOpened_eq, blank]
  cases hcompact : printer.compactMode with
  | true => simp
  | false => simp [write, indent]

theorem settled_prepareForNewNode (printer : XMLPrinter) : printer.prepareForNewNode.Settled := by
  rw [prepareForNewNode_eq]
  cases hcompact : printer.compactMode with
  | true => exact .inl rfl
  | false => exact .inr rfl

/-- A node between two marks. -/
theorem printed_mark (printer : XMLPrinter) (t : List Char) :
    Printed printer (printer.prepareForNewNode.write t)
      (printer.sealText ++ (printer.blank ++ t)) ∧
    (printer.prepareForNewNode.write t).elementJustOpened = false ∧
    (printer.prepareForNewNode.write t).Settled := by
  have hsettled := settled_prepareForNewNode printer
  refine ⟨⟨?_, ?_, ?_, ?_, fun _ => hsettled⟩, ?_, hsettled⟩
  · rw [write_buffer, prepareForNewNode_eq]
    simp only [List.append_assoc]
  all_goals rw [prepareForNewNode_eq]; rfl

theorem foldl_pushAttribute (attributes : List (Name × List Char)) (printer : XMLPrinter) :
    attributes.foldl pushAttribute printer = printer.write (printAttributes attributes) := by
  induction attributes generalizing printer with
  | nil => rw [List.foldl_nil, write, printAttributes, List.flatMap_nil, List.append_nil]
  | cons a attributes ih =>
      rw [List.foldl_cons, ih, pushAttribute, write, write, printAttributes, printAttributes,
        List.flatMap_cons, write]
      simp only [List.append_assoc]

theorem openElement_eq (printer : XMLPrinter) (name : Name) : printer.openElement name =
    { printer with
      buffer := printer.buffer ++ (printer.sealText ++ (printer.blank ++ '<' :: name))
      elementJustOpened := true
      firstElement := printer.compactMode && printer.firstElement
      stack := name :: printer.stack
      depth := printer.depth + 1 } := by
  rw [openElement, prepareForNewNode_eq]
  simp [write]

/-- What stands behind an element: a line end, if it is one of the document. -/
def trail (compact : Bool) (depth : Nat) : List Char :=
  if depth = 0 ∧ !compact then ['\n'] else []

/-- The depth of the element with a text, behind an element of this depth. -/
def outerTextDepth (printer : XMLPrinter) (depth : Nat) : Int :=
  if printer.textDepth = depth then -1 else printer.textDepth

/-- The end of an element that is still open. -/
theorem closeElement_opened (hopened : printer.elementJustOpened = true) {depth : Nat}
    (hdepth : printer.depth = depth + 1) : printer.closeElement =
      { printer with
        buffer := printer.buffer ++ ('/' :: '>' :: trail printer.compactMode depth)
        elementJustOpened := false, depth := depth, stack := printer.stack.tail
        textDepth := printer.outerTextDepth depth } := by
  obtain ⟨buffer, _, first, _, textDepth, stack, compact⟩ := printer
  cases hopened
  cases hdepth
  cases compact <;> by_cases hzero : depth = 0 <;>
    simp [closeElement, trail, outerTextDepth, write, hzero]

/-- The white space in front of an end tag. -/
def endBlank (printer : XMLPrinter) (depth : Nat) : List Char :=
  if printer.textDepth < 0 ∧ !printer.compactMode then '\n' :: space depth else []

theorem blank_endBlank (printer : XMLPrinter) (depth : Nat) : Blank (printer.endBlank depth) := by
  rw [endBlank]
  split
  · exact blank_newline depth
  · exact blank_nil

theorem endBlank_eq_nil (htext : 0 ≤ printer.textDepth) (depth : Nat) :
    printer.endBlank depth = [] := if_neg fun h => absurd h.1 (by omega)

/-- The end tag of an element. -/
theorem closeElement_sealed (hopened : printer.elementJustOpened = false) {depth : Nat}
    (hdepth : printer.depth = depth + 1) {name : Name} (hstack : printer.stack.headD [] = name) :
    printer.closeElement =
      { printer with
        buffer := printer.buffer ++ (printer.endBlank depth ++
          ('<' :: '/' :: (name ++ '>' :: trail printer.compactMode depth)))
        depth := depth, stack := printer.stack.tail
        textDepth := printer.outerTextDepth depth } := by
  obtain ⟨buffer, _, first, _, textDepth, stack, compact⟩ := printer
  cases hopened
  cases hdepth
  cases hstack
  cases compact <;> by_cases hzero : depth = 0 <;>
    simp [closeElement, trail, outerTextDepth, endBlank, write, hzero]

theorem settled_openElement (printer : XMLPrinter) (name : Name) :
    (printer.openElement name).Settled := by
  rw [openElement_eq]
  cases hcompact : printer.compactMode with
  | true => exact .inl rfl
  | false => exact .inr rfl

end XMLPrinter

/-! ### Nodes -/

open XMLPrinter

/-- What stands behind a node, as far as it is not part of its text. -/
def XMLNode.trail (printer : XMLPrinter) : XMLNode → List Char
  | .element .. => XMLPrinter.trail printer.compactMode printer.depth
  | _ => []

/-- A node has been printed, with this text. -/
structure PrintedNode (printer printer' : XMLPrinter) (node : XMLNode) (t : List Char) :
    Prop where
  printed : Printed printer printer' (printer.sealText ++ (t ++ node.trail printer))
  closed : printer'.elementJustOpened = false
  noNul : SqlText.nul ∉ t
  reads : ∀ prolog, (node.isDeclaration = true → prolog = true) →
    (node.isPlainText = true → prolog = false) →
    Reads (printer.depth + 1) prolog (prolog && node.isDeclaration) node.isPlainText t
      (readBack node)
  lead : node.isPlainText = false →
    ∃ ws q, t = ws ++ '<' :: q ∧ q ≠ [] ∧ (ws = [] ∨ ws = printer.blank)
  text : node.isPlainText = true → printer'.textDepth = (printer.depth : Int) - 1

/-- Whether the last node is a text that is not marked as CDATA. -/
def endsInText (nodes : List XMLNode) : Bool := nodes.getLast?.any isPlainText

/-- Nodes in an element have been printed, with this text. -/
structure PrintedNodes (printer printer' : XMLPrinter) (nodes : List XMLNode) (t : List Char) :
    Prop where
  printed : Printed printer printer' ((if nodes.isEmpty then [] else printer.sealText) ++ t)
  closed : printer'.elementJustOpened = (nodes.isEmpty && printer.elementJustOpened)
  noNul : SqlText.nul ∉ t
  reads : Reads (printer.depth + 1) false false (endsInText nodes) t (readBackAll nodes)
  lead : ∀ node, nodes.head? = some node → node.isPlainText = false → 0 ≤ printer.textDepth →
    ∃ q, t = '<' :: q ∧ q ≠ []
  text : endsInText nodes = true → 0 ≤ printer'.textDepth

variable {printer : XMLPrinter}

theorem Blank.nul_notMem (hws : Blank ws) : SqlText.nul ∉ ws := fun hmem =>
  absurd (hws SqlText.nul hmem) (by decide)

/-- A node between two marks. -/
theorem printedNode_mark {u : List Char} (hwrite : accept node printer =
      printer.prepareForNewNode.write u) (htrail : node.trail printer = [])
    (hplain : node.isPlainText = false) (hu : SqlText.nul ∉ u)
    (hlead : ∃ q, u = '<' :: q ∧ q ≠ []) {read : XMLNode} (hread : readBack node = [read])
    (hdeclaration : read.isDeclaration = node.isDeclaration) (hleaf : Leaf u read) :
    ∃ t, PrintedNode printer (accept node printer) node t := by
  obtain ⟨hprinted, hclosed, -⟩ := printed_mark printer u
  have hblank := blank_blank printer
  refine ⟨printer.blank ++ u, ?_, ?_, ?_, ?_, ?_, ?_⟩
  · rwa [hwrite, htrail, List.append_nil]
  · rwa [hwrite]
  · rw [List.mem_append, not_or]
    exact ⟨hblank.nul_notMem, hu⟩
  · intro prolog hlocated _
    rw [hread, hplain, ← hdeclaration]
    exact (hleaf.reads (hdeclaration ▸ hlocated)).prepend hblank
      (hlead.imp fun q hq => hq.1)
  · intro _
    obtain ⟨q, rfl, hq⟩ := hlead
    exact ⟨printer.blank, q, rfl, hq, .inr rfl⟩
  · exact fun h => absurd (hplain.symm.trans h) (by decide)

/-- A text of either kind. -/
theorem printedNode_text {cData : Bool} (hv : SqlText.nul ∉ v)
    (hcData : cData = true → ¬ "]]>".toList <:+: v) :
    ∃ t, PrintedNode printer (accept (.text v cData) printer) (.text v cData) t := by
  have hseal := sealElementIfJustOpened_eq
    { printer with textDepth := (printer.depth : Int) - 1 }
  have htrail : XMLNode.trail printer (.text v cData) = [] := rfl
  cases cData with
  | true =>
      have hwrite : accept (.text v true) printer =
          { printer with
            buffer := printer.buffer ++ (printer.sealText ++
              ("<![CDATA[".toList ++ (v ++ "]]>".toList)))
            elementJustOpened := false, textDepth := (printer.depth : Int) - 1 } := by
        rw [accept, pushText, hseal]
        simp [write, sealText]
      have hleaf := Leaf.cData (hcData rfl)
      rw [getStr_commentValue hv] at hleaf
      refine ⟨"<![CDATA[".toList ++ (v ++ "]]>".toList), ?_, ?_, ?_, ?_, ?_, ?_⟩
      · rw [hwrite, htrail, List.append_nil]
        exact ⟨rfl, rfl, rfl, rfl, id⟩
      · rw [hwrite]
      · simp only [List.mem_append, not_or]
        exact ⟨by decide, hv, by decide⟩
      · exact fun prolog hlocated _ => hleaf.reads hlocated
      · exact fun _ => ⟨[], _, rfl, by simp, .inl rfl⟩
      · exact fun h => absurd h Bool.false_ne_true
  | false =>
      have hwrite : accept (.text v false) printer =
          { printer with
            buffer := printer.buffer ++ (printer.sealText ++ printString true v)
            elementJustOpened := false, textDepth := (printer.depth : Int) - 1 } := by
        rw [accept, pushText, hseal]
        simp [write, sealText]
      refine ⟨printString true v, ?_, ?_, nul_notMem_printString hv, ?_, ?_, ?_⟩
      · rw [hwrite, htrail, List.append_nil]
        exact ⟨rfl, rfl, rfl, rfl, id⟩
      · rw [hwrite]
      · intro prolog _ hprolog
        rw [hprolog rfl]
        exact reads_text hv
      · exact fun h => absurd h.symm Bool.false_ne_true
      · intro _
        rw [hwrite]

theorem nul_notMem_printAttributes {attributes : List (Name × List Char)}
    (h : ∀ a ∈ attributes, IsName a.1 ∧ SqlText.nul ∉ a.2) :
    SqlText.nul ∉ printAttributes attributes := by
  intro hmem
  obtain ⟨a, ha, hmem⟩ := List.mem_flatMap.mp hmem
  obtain ⟨hname, hvalue⟩ := h a ha
  simp only [List.mem_append] at hmem
  rcases hmem with hmem | hmem | hmem | hmem | hmem
  · exact absurd hmem (by decide)
  · exact hname.nul_notMem hmem
  · exact absurd hmem (by decide)
  · exact nul_notMem_printString hvalue hmem
  · exact absurd hmem (by decide)

/-- An element without children is printed as one tag. -/
theorem printedNode_empty {attributes : List (Name × List Char)} (hname : IsName name)
    (hattributes : ∀ a ∈ attributes, IsName a.1 ∧ SqlText.nul ∉ a.2)
    (hnodup : (attributes.map Prod.fst).Nodup) :
    ∃ t, PrintedNode printer (accept (.element name attributes []) printer)
      (.element name attributes []) t := by
  have hwrite : accept (.element name attributes []) printer =
      { printer with
        buffer := printer.buffer ++ (printer.sealText ++ (printer.blank ++ '<' :: (name ++
          (printAttributes attributes ++ ('/' :: '>' ::
            XMLPrinter.trail printer.compactMode printer.depth)))))
        elementJustOpened := false
        firstElement := printer.compactMode && printer.firstElement
        textDepth := printer.outerTextDepth printer.depth } := by
    rw [accept, acceptAll, foldl_pushAttribute, openElement_eq,
      closeElement_opened rfl rfl]
    simp [write, outerTextDepth]
  have hblank := blank_blank printer
  refine ⟨printer.blank ++ '<' :: (name ++ (printAttributes attributes ++ "/>".toList)),
    ?_, ?_, ?_, ?_, ?_, ?_⟩
  · rw [hwrite]
    refine ⟨by simp [XMLNode.trail], rfl, rfl, rfl, fun hsettled => ?_⟩
    exact hsettled.imp id fun hfirst => by simp [hfirst]
  · rw [hwrite]
  · simp only [List.mem_append, List.mem_cons, not_or]
    exact ⟨hblank.nul_notMem, by decide, hname.nul_notMem,
      nul_notMem_printAttributes hattributes, by decide⟩
  · intro prolog _ _ cont more e r _ hcontent
    have htag : TagText (name ++ (printAttributes attributes ++ '/' :: '>' :: cont))
        ⟨name, readAttributes attributes, .closed⟩ cont :=
      tagText_print hname hattributes hnodup (fun _ => .sealed blank_nil)
        (stops_cons.mpr (by decide))
    have hempty : Content (printer.depth + 1) prolog
        (printer.blank ++ '<' :: (name ++ (printAttributes attributes ++ '/' :: '>' :: cont)))
        (.element name (readAttributes attributes) [] :: more) e r :=
      .empty hblank htag rfl (Bool.and_false prolog ▸ hcontent)
    simpa [readBack, readBackAll, readAttributes] using hempty
  · exact fun _ => ⟨printer.blank, _, rfl, by simp, .inr rfl⟩
  · exact fun h => absurd h Bool.false_ne_true

/-- An element is printed with its children between its tags, and no white space stands between
a text at their end and its end tag. -/
theorem printedNode_element {attributes : List (Name × List Char)} {children : List XMLNode}
    (hname : IsName name)
    (hattributes : ∀ a ∈ attributes, IsName a.1 ∧ SqlText.nul ∉ a.2)
    (hnodup : (attributes.map Prod.fst).Nodup) (hne : children ≠ [])
    (hdepth : printer.depth + 1 + 1 < maxElementDepth)
    (hchildren : ∀ printer' : XMLPrinter, printer'.depth = printer.depth + 1 →
      printer'.Settled →
      ∃ t, PrintedNodes printer' (acceptAll children printer') children t) :
    ∃ t, PrintedNode printer (accept (.element name attributes children) printer)
      (.element name attributes children) t := by
  obtain ⟨inner, hinner⟩ :
      ∃ inner, inner = (printer.openElement name).write (printAttributes attributes) := ⟨_, rfl⟩
  have heq : inner =
      { printer with
        buffer := printer.buffer ++ (printer.sealText ++ (printer.blank ++ '<' :: name)) ++
          printAttributes attributes
        elementJustOpened := true
        firstElement := printer.compactMode && printer.firstElement
        stack := name :: printer.stack
        depth := printer.depth + 1 } := by
    rw [hinner, openElement_eq]
    rfl
  have hdepthInner : inner.depth = printer.depth + 1 := by rw [heq]
  have hsettledInner : inner.Settled := hinner ▸ settled_openElement printer name
  obtain ⟨tc, hc⟩ := hchildren inner hdepthInner hsettledInner
  obtain ⟨out, hout⟩ : ∃ out, out = acceptAll children inner := ⟨_, rfl⟩
  rw [← hout] at hc
  have hisEmpty : children.isEmpty = false := by simpa using hne
  have hbuffer : out.buffer = printer.buffer ++ (printer.sealText ++ (printer.blank ++ '<' ::
      (name ++ (printAttributes attributes ++ ('>' :: tc))))) := by
    rw [hc.printed.buffer, hisEmpty, heq]
    simp [sealText]
  have hclosed : out.elementJustOpened = false := by
    rw [hc.closed, hisEmpty, Bool.false_and]
  have hdepthOut : out.depth = printer.depth + 1 := hc.printed.depth.trans hdepthInner
  have hcompact : out.compactMode = printer.compactMode := by rw [hc.printed.compactMode, heq]
  have hstack : out.stack = name :: printer.stack := by rw [hc.printed.stack, heq]
  have hwrite : accept (.element name attributes children) printer =
      { out with
        buffer := out.buffer ++ (out.endBlank printer.depth ++
          ('<' :: '/' :: (name ++ '>' :: XMLPrinter.trail out.compactMode printer.depth)))
        depth := printer.depth, stack := out.stack.tail
        textDepth := out.outerTextDepth printer.depth } := by
    rw [accept, foldl_pushAttribute, ← hinner, ← hout]
    exact closeElement_sealed hclosed hdepthOut (by rw [hstack]; rfl)
  have hblank := blank_blank printer
  have hendBlank := blank_endBlank out printer.depth
  refine ⟨printer.blank ++ '<' :: (name ++ (printAttributes attributes ++ ('>' :: (tc ++
    (out.endBlank printer.depth ++ '<' :: '/' :: (name ++ ['>'])))))), ?_, ?_, ?_, ?_, ?_, ?_⟩
  · rw [hwrite]
    refine ⟨?_, rfl, by rw [hstack]; rfl, hcompact, fun _ => hc.printed.settled hsettledInner⟩
    simp only [hbuffer, hcompact, XMLNode.trail]
    simp
  · rw [hwrite]
    exact hclosed
  · simp only [List.mem_append, List.mem_cons, not_or]
    exact ⟨hblank.nul_notMem, by decide, hname.nul_notMem, nul_notMem_printAttributes hattributes,
      by decide, hc.noNul, hendBlank.nul_notMem, by decide, by decide, hname.nul_notMem, by decide⟩
  · intro prolog _ _ cont more e r _ hcontent
    have hends : endsInText children = true → ∃ q,
        out.endBlank printer.depth ++ '<' :: '/' :: (name ++ '>' :: cont) = '<' :: q ∧ q ≠ [] := by
      intro hends
      rw [endBlank_eq_nil (hc.text hends)]
      exact ⟨_, rfl, by simp⟩
    have hin := hc.reads _ _ _ _ hends (.endTag hendBlank (tagText_end hname cont) rfl)
    rw [hdepthInner, List.append_nil] at hin
    have htag (q : List Char) : TagText (name ++ (printAttributes attributes ++ '>' :: q))
        ⟨name, readAttributes attributes, .open⟩ q :=
      tagText_print hname hattributes hnodup (fun _ => .open blank_nil)
        (stops_cons.mpr (by decide))
    have helement : Content (printer.depth + 1) prolog (printer.blank ++ '<' :: (name ++
        (printAttributes attributes ++ '>' :: (tc ++
          (out.endBlank printer.depth ++ '<' :: '/' :: (name ++ '>' :: cont))))))
        (.element name (readAttributes attributes) (readBackAll children) :: more) e r :=
      .element hblank (htag _) rfl (by simp) hdepth hin (Bool.and_false prolog ▸ hcontent)
    simpa [readBack, readAttributes] using helement
  · exact fun _ => ⟨printer.blank, _, rfl, by simp, .inr rfl⟩
  · exact fun h => absurd h Bool.false_ne_true

/-! ### Trees -/

theorem readBackAll_append (nodes nodes' : List XMLNode) :
    readBackAll (nodes ++ nodes') = readBackAll nodes ++ readBackAll nodes' := by
  induction nodes with
  | nil => rfl
  | cons node nodes ih => rw [List.cons_append, readBackAll, readBackAll, ih, List.append_assoc]

theorem endsInText_cons (node next : XMLNode) (nodes : List XMLNode) :
    endsInText (node :: next :: nodes) = endsInText (next :: nodes) := by
  rw [endsInText, endsInText, List.getLast?_cons_cons]

theorem Separated.tail (h : Separated (node :: nodes)) : Separated nodes := by
  cases nodes with
  | nil => trivial
  | cons next nodes => exact h.2

/-- A node in an element, and what is printed behind it there. -/
theorem printedNodes_cons {t : List Char} {next : XMLPrinter}
    (hpos : 0 < printer.depth) (hsettled : printer.Settled)
    (hdeclaration : node.isDeclaration = false) (hseparated : Separated (node :: nodes))
    (hnode : PrintedNode printer next node t)
    (hnodes : ∃ t, PrintedNodes next (acceptAll nodes next) nodes t) :
    ∃ t, PrintedNodes printer (acceptAll nodes next) (node :: nodes) t := by
  obtain ⟨t', hnodes⟩ := hnodes
  have htrail : node.trail printer = [] := by
    cases node with
    | element => exact if_neg (fun h => absurd h.1 (Nat.ne_of_gt hpos))
    | _ => rfl
  have hnodePrinted := hnode.printed
  rw [htrail, List.append_nil] at hnodePrinted
  have hseal : next.sealText = [] := by rw [sealText, hnode.closed]; rfl
  have hrest := hnodes.printed
  rw [hseal, ite_self, List.nil_append] at hrest
  have hreads := hnode.reads false
    (fun h => absurd (hdeclaration.symm.trans h) Bool.false_ne_true) (fun _ => rfl)
  rw [Bool.false_and] at hreads
  have hreadsRest := hnodes.reads
  rw [hnodePrinted.depth] at hreadsRest
  refine ⟨t ++ t', ?_, ?_, ?_, ?_, ?_, ?_⟩
  · refine ⟨?_, hrest.depth.trans hnodePrinted.depth, hrest.stack.trans hnodePrinted.stack,
      hrest.compactMode.trans hnodePrinted.compactMode,
      fun h => hrest.settled (hnodePrinted.settled h)⟩
    rw [hrest.buffer, hnodePrinted.buffer]
    simp
  · rw [hnodes.closed, hnode.closed, Bool.and_false]
    rfl
  · rw [List.mem_append, not_or]
    exact ⟨hnode.noNul, hnodes.noNul⟩
  · cases nodes with
    | nil =>
        have hnil : t' = [] := by
          have hbuffer := hrest.buffer
          rw [acceptAll] at hbuffer
          exact List.self_eq_append_right.mp hbuffer
        rw [hnil, List.append_nil, readBackAll, readBackAll, List.append_nil]
        exact hreads
    | cons following nodes =>
        rw [endsInText_cons, readBackAll]
        refine hreads.append hreadsRest fun hplain => ?_
        refine hnodes.lead following rfl (hseparated.1 hplain) ?_
        rw [hnode.text hplain]
        omega
  · intro first hfirst hplain htext
    cases hfirst
    obtain ⟨ws, q, rfl, hq, hws⟩ := hnode.lead hplain
    have hnil : ws = [] := by
      rcases hws with hws | hws
      · exact hws
      · rw [hws, hsettled.blank_eq_nil htext]
    rw [hnil]
    exact ⟨q ++ t', rfl, fun h => hq (List.append_eq_nil_iff.mp h).1⟩
  · intro hends
    cases nodes with
    | nil =>
        rw [acceptAll, hnode.text hends]
        omega
    | cons following nodes => exact hnodes.text (endsInText_cons node following nodes ▸ hends)

mutual

/-- A printable node is printed as a beginning of a text of the grammar. -/
theorem accept_printed : ∀ (node : XMLNode) (printer : XMLPrinter),
    Printable (printer.depth + 1) node →
    ∃ t, PrintedNode printer (accept node printer) node t
  | .element name attributes [], printer, h => printedNode_empty h.1 h.2.1 h.2.2.1
  | .element name attributes (child :: children), printer, h => by
      obtain ⟨hname, hattributes, hnodup, hdepth, hdeclarations, hseparated, hchildren⟩ := h
      refine printedNode_element hname hattributes hnodup (List.cons_ne_nil _ _)
        (hdepth (List.cons_ne_nil _ _)) fun printer' hdepth' hsettled => ?_
      exact acceptAll_printed (child :: children) printer' (by omega) hsettled
        (hdepth' ▸ hchildren) hdeclarations hseparated
  | .text value cData, printer, h => printedNode_text h.1 h.2
  | .comment value, printer, h => by
      have hleaf := Leaf.comment h.2
      rw [getStr_commentValue h.1] at hleaf
      exact printedNode_mark rfl rfl rfl
        (by simp only [List.mem_append, not_or]; exact ⟨by decide, h.1, by decide⟩)
        ⟨_, rfl, by simp⟩ rfl rfl hleaf
  | .declaration value, printer, h => by
      have hleaf := Leaf.declaration h.2
      rw [getStr_commentValue h.1] at hleaf
      exact printedNode_mark rfl rfl rfl
        (by simp only [List.mem_append, not_or]; exact ⟨by decide, h.1, by decide⟩)
        ⟨_, rfl, by simp⟩ rfl rfl hleaf
  | .unknown value, printer, h => by
      obtain ⟨⟨hnul, hmark⟩, hcomment, hcData⟩ := h
      have hgt : '>' ∉ value := fun hmem => hmark ((List.singleton_infix_iff _ _).mpr hmem)
      have hleaf := Leaf.unknown hgt hcomment hcData
      rw [getStr_commentValue hnul] at hleaf
      exact printedNode_mark rfl rfl rfl
        (by simp only [List.mem_append, not_or]; exact ⟨by decide, hnul, by decide⟩)
        ⟨_, rfl, by simp⟩ rfl rfl hleaf

/-- The children of an element. -/
theorem acceptAll_printed : ∀ (nodes : List XMLNode) (printer : XMLPrinter),
    0 < printer.depth → printer.Settled → PrintableAll (printer.depth + 1) nodes →
    (∀ node ∈ nodes, node.isDeclaration = false) → Separated nodes →
    ∃ t, PrintedNodes printer (acceptAll nodes printer) nodes t
  | [], printer, _, _, _, _, _ => by
      refine ⟨[], ⟨?_, rfl, rfl, rfl, id⟩, rfl, List.not_mem_nil, reads_nil, ?_, ?_⟩
      · exact (List.append_nil _).symm
      · exact fun _ h => nomatch h
      · exact fun h => absurd h Bool.false_ne_true
  | node :: nodes, printer, hpos, hsettled, hprintable, hdeclarations, hseparated => by
      obtain ⟨t, hnode⟩ := accept_printed node printer hprintable.1
      have hdepth := hnode.printed.depth
      refine printedNodes_cons hpos hsettled (hdeclarations node List.mem_cons_self) hseparated
        hnode (acceptAll_printed nodes (accept node printer) (hdepth ▸ hpos)
          (hnode.printed.settled hsettled) (hdepth ▸ hprintable.2)
          (fun next hnext => hdeclarations next (List.mem_cons_of_mem node hnext))
          hseparated.tail)

end

/-! ### Documents -/

/-- Whether declarations may come first. -/
def Located (prolog : Bool) (nodes : List XMLNode) : Prop :=
  ∀ node ∈ (if prolog then nodes.dropWhile isDeclaration else nodes), node.isDeclaration = false

theorem Located.head (h : Located prolog (node :: nodes)) :
    node.isDeclaration = true → prolog = true := by
  intro hnode
  cases prolog with
  | true => rfl
  | false => exact absurd ((h node List.mem_cons_self).symm.trans hnode) Bool.false_ne_true

theorem Located.tail (h : Located prolog (node :: nodes)) :
    Located (prolog && node.isDeclaration) nodes := by
  intro next hnext
  cases prolog with
  | false => exact h next (List.mem_cons_of_mem node hnext)
  | true =>
      cases hnode : node.isDeclaration with
      | true =>
          apply h next
          rw [hnode] at hnext
          rwa [if_pos rfl, List.dropWhile_cons_of_pos hnode]
      | false =>
          apply h next
          rw [hnode] at hnext
          rw [if_pos rfl, List.dropWhile_cons_of_neg (by simp [hnode])]
          exact List.mem_cons_of_mem node hnext

theorem blank_trail (compact : Bool) (depth : Nat) : Blank (XMLPrinter.trail compact depth) := by
  rw [XMLPrinter.trail]
  split
  · exact blank_newline 0
  · exact blank_nil

/-- The nodes of a document are printed as a text of the grammar. -/
theorem acceptAll_document (nodes : List XMLNode) {printer : XMLPrinter} {prolog : Bool}
    (hdepth : printer.depth = 0) (hclosed : printer.elementJustOpened = false)
    (hprintable : PrintableAll 1 nodes) (hplain : ∀ node ∈ nodes, node.isPlainText = false)
    (hlocated : Located prolog nodes) :
    ∃ t, (acceptAll nodes printer).buffer = printer.buffer ++ t ∧ SqlText.nul ∉ t ∧
      Content 1 prolog t (readBackAll nodes) none [] ∧ Markup t ∧
      (nodes ≠ [] → ∃ ws q, t = ws ++ '<' :: q ∧ (ws = [] ∨ ws = printer.blank)) := by
  induction nodes generalizing printer prolog with
  | nil =>
      exact ⟨[], (List.append_nil _).symm, List.not_mem_nil, .done blank_nil, .inl blank_nil,
        fun h => absurd rfl h⟩
  | cons node nodes ih =>
      obtain ⟨t, hnode⟩ := accept_printed node printer (by rw [hdepth]; exact hprintable.1)
      have hnodePlain := hplain node List.mem_cons_self
      have hseal : printer.sealText = [] := by rw [sealText, hclosed]; rfl
      obtain ⟨t', hbuffer, hnul, hcontent, hmarkup, -⟩ := ih
        (hnode.printed.depth.trans hdepth) hnode.closed hprintable.2
        (fun next hnext => hplain next (List.mem_cons_of_mem node hnext)) hlocated.tail
      have htrail : Blank (node.trail printer) := by
        cases node with
        | element => exact blank_trail _ _
        | _ => exact blank_nil
      have hreads := hnode.reads prolog hlocated.head
        (fun h => absurd (hnodePlain.symm.trans h) Bool.false_ne_true)
      rw [hnodePlain, hdepth] at hreads
      obtain ⟨ws, q, rfl, -, hws⟩ := hnode.lead hnodePlain
      have hblank : Blank ws := by
        rcases hws with rfl | rfl
        · exact blank_nil
        · exact blank_blank printer
      refine ⟨(ws ++ '<' :: q) ++ (node.trail printer ++ t'), ?_, ?_, ?_, ?_, fun _ => ?_⟩
      · rw [acceptAll, hbuffer, hnode.printed.buffer, hseal]
        simp
      · intro hmem
        rcases List.mem_append.mp hmem with hmem | hmem
        · exact hnode.noNul hmem
        · exact (List.mem_append.mp hmem).elim htrail.nul_notMem hnul
      · rw [readBackAll]
        exact hreads _ _ _ _ (fun h => absurd h Bool.false_ne_true)
          (hcontent.prepend htrail hmarkup)
      · exact .inr ⟨ws, q ++ (node.trail printer ++ t'), hblank, by simp⟩
      · exact ⟨ws, q ++ (node.trail printer ++ t'), by simp, hws⟩

theorem body_of_lt (hnul : SqlText.nul ∉ '<' :: q) : body ('<' :: q) = '<' :: q := by
  have hskip : skipWhiteSpace ('<' :: q) = '<' :: q :=
    skipWhiteSpace_append blank_nil (stops_cons.mpr (by decide))
  rw [body, SqlText.cText_of_notMem hnul, hskip]
  cases q with
  | nil => rfl
  | cons b q =>
      cases q with
      | nil => rfl
      | cons c q =>
          rw [readBOM, if_neg]
          exact fun h => absurd h.1 (by decide)

/-- A document that is printed is read back, in either mode of the printer. -/
theorem parse_print (compact : Bool) (h : PrintableDocument nodes) :
    parse (print compact nodes) = .ok (readBackAll nodes) := by
  have hlocated : Located true nodes := h.declarations
  obtain ⟨t, hbuffer, hnul, hcontent, -, hlead⟩ :=
    @acceptAll_document nodes (XMLPrinter.new compact) true rfl rfl h.printable h.noText hlocated
  obtain ⟨ws, q, rfl, hws⟩ := hlead h.nonempty
  have hnil : ws = [] := by
    rcases hws with hws | hws
    · exact hws
    · rw [hws, blank]
      exact ite_self _
  rw [hnil, List.nil_append] at hbuffer hnul hcontent
  have hprint : print compact nodes = '<' :: q := hbuffer
  rw [hprint, parse_eq_ok_iff, body_of_lt hnul]
  exact ⟨List.cons_ne_nil _ _, none, [], hcontent⟩

end Tinyxml2

end SignalingServer
