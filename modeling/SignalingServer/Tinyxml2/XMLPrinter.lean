import SignalingServer.Tinyxml2.ParseDeep
import SignalingServer.Tinyxml2.PrintString

/-!
The printer of tinyxml2, into its buffer. What is printed for a document is in the grammar, with
the nodes that were printed, but for three things: line ends are normalized in every value, texts
of white space alone are not read, and of two texts that stand side by side one would be made, so
that there must be none.
-/

namespace SignalingServer

namespace Tinyxml2

open XMLNode

/-- `XMLPrinter`, without a file. `CStr` is the buffer. -/
structure XMLPrinter where
  buffer : List Char
  elementJustOpened : Bool
  firstElement : Bool
  depth : Nat
  /-- The depth of an element that has a text, or -1; around texts no white space is written. -/
  textDepth : Int
  stack : List Name
  compactMode : Bool

namespace XMLPrinter

def new (compact : Bool) : XMLPrinter :=
  { buffer := [], elementJustOpened := false, firstElement := true, depth := 0, textDepth := -1,
    stack := [], compactMode := compact }

def write (printer : XMLPrinter) (data : List Char) : XMLPrinter :=
  { printer with buffer := printer.buffer ++ data }

def sealElementIfJustOpened (printer : XMLPrinter) : XMLPrinter :=
  if printer.elementJustOpened then { printer.write ">".toList with elementJustOpened := false }
  else printer

/-- What `PrintSpace` writes. -/
def space (depth : Nat) : List Char := (List.replicate depth "    ".toList).flatten

/-- The white space in front of a node that is no text. -/
def indent (printer : XMLPrinter) : List Char :=
  if printer.firstElement then space printer.depth
  else if printer.textDepth < 0 then '\n' :: space printer.depth
  else []

def prepareForNewNode (printer : XMLPrinter) : XMLPrinter :=
  let printer := printer.sealElementIfJustOpened
  if printer.compactMode then printer
  else { printer.write printer.indent with firstElement := false }

def openElement (printer : XMLPrinter) (name : Name) : XMLPrinter :=
  let printer := printer.prepareForNewNode.write ("<".toList ++ name)
  { printer with
    stack := name :: printer.stack, elementJustOpened := true, depth := printer.depth + 1 }

def pushAttribute (printer : XMLPrinter) (attrib : Name × List Char) : XMLPrinter :=
  printer.write
    (" ".toList ++ (attrib.1 ++ ("=\"".toList ++ (printString false attrib.2 ++ "\"".toList))))

def closeElement (printer : XMLPrinter) : XMLPrinter :=
  let depth := printer.depth - 1
  let name := printer.stack.headD []
  let printer :=
    if printer.elementJustOpened then printer.write "/>".toList
    else
      let blank := if printer.textDepth < 0 ∧ !printer.compactMode then '\n' :: space depth else []
      printer.write (blank ++ ("</".toList ++ (name ++ ">".toList)))
  let textDepth := if printer.textDepth = depth then -1 else printer.textDepth
  let printer := if depth = 0 ∧ !printer.compactMode then printer.write "\n".toList else printer
  { printer with
    depth := depth, stack := printer.stack.tail, textDepth := textDepth,
    elementJustOpened := false }

def pushText (printer : XMLPrinter) (text : List Char) (cData : Bool) : XMLPrinter :=
  let printer := { printer with textDepth := (printer.depth : Int) - 1 }
  let printer := printer.sealElementIfJustOpened
  if cData then printer.write ("<![CDATA[".toList ++ (text ++ "]]>".toList))
  else printer.write (printString true text)

def pushComment (printer : XMLPrinter) (comment : List Char) : XMLPrinter :=
  printer.prepareForNewNode.write ("<!--".toList ++ (comment ++ "-->".toList))

def pushDeclaration (printer : XMLPrinter) (value : List Char) : XMLPrinter :=
  printer.prepareForNewNode.write ("<?".toList ++ (value ++ "?>".toList))

def pushUnknown (printer : XMLPrinter) (value : List Char) : XMLPrinter :=
  printer.prepareForNewNode.write ("<!".toList ++ (value ++ ">".toList))

end XMLPrinter

mutual

/-- `XMLNode::Accept` with a printer. -/
def accept : XMLNode → XMLPrinter → XMLPrinter
  | .element name attributes children, printer =>
      (acceptAll children
        (attributes.foldl XMLPrinter.pushAttribute (printer.openElement name))).closeElement
  | .text value cData, printer => printer.pushText value cData
  | .comment value, printer => printer.pushComment value
  | .declaration value, printer => printer.pushDeclaration value
  | .unknown value, printer => printer.pushUnknown value

def acceptAll : List XMLNode → XMLPrinter → XMLPrinter
  | [], printer => printer
  | node :: nodes, printer => acceptAll nodes (accept node printer)

end

/-- `XMLDocument::Print` into a printer, and its text. -/
def print (compact : Bool) (nodes : List XMLNode) : List Char :=
  (acceptAll nodes (XMLPrinter.new compact)).buffer

mutual

/-- What is read of a node that was printed. -/
def readBack : XMLNode → List XMLNode
  | .element name attributes children =>
      [.element name (attributes.map fun a => (a.1, normalizeNewlines a.2)) (readBackAll children)]
  | .text value cData =>
      if !cData && value.all isWhiteSpace then [] else [.text (normalizeNewlines value) cData]
  | .comment value => [.comment (normalizeNewlines value)]
  | .declaration value => [.declaration (normalizeNewlines value)]
  | .unknown value => [.unknown (normalizeNewlines value)]

def readBackAll : List XMLNode → List XMLNode
  | [] => []
  | node :: nodes => readBack node ++ readBackAll nodes

end

namespace XMLNode

/-- A text that is not marked as CDATA. -/
def isPlainText : XMLNode → Bool
  | .text _ cData => !cData
  | _ => false

end XMLNode

/-- A C string that may stand in front of a mark. -/
def PrintableValue (endTag v : List Char) : Prop := SqlText.nul ∉ v ∧ ¬ endTag <:+: v

/-- No two texts stand side by side. -/
def Separated : List XMLNode → Prop
  | [] => True
  | [_] => True
  | node :: next :: nodes =>
      (node.isPlainText = true → next.isPlainText = false) ∧ Separated (next :: nodes)

mutual

/-- A node that is read as it was printed, in the level `depth`. -/
def Printable (depth : Nat) : XMLNode → Prop
  | .element name attributes children =>
      IsName name ∧ (∀ a ∈ attributes, IsName a.1 ∧ SqlText.nul ∉ a.2) ∧
        (attributes.map Prod.fst).Nodup ∧
        (children ≠ [] → depth + 1 < maxElementDepth) ∧
        (∀ child ∈ children, child.isDeclaration = false) ∧ Separated children ∧
        PrintableAll (depth + 1) children
  | .text value cData =>
      SqlText.nul ∉ value ∧ (cData = true → ¬ "]]>".toList <:+: value)
  | .comment value => PrintableValue "-->".toList value
  | .declaration value => PrintableValue "?>".toList value
  | .unknown value =>
      PrintableValue ">".toList value ∧ ¬ "--".toList <+: value ∧ ¬ "[CDATA[".toList <+: value

def PrintableAll (depth : Nat) : List XMLNode → Prop
  | [] => True
  | node :: nodes => Printable depth node ∧ PrintableAll depth nodes

end

/-- A document that is read as it was printed: declarations first, and no text outside of an
element. -/
structure PrintableDocument (nodes : List XMLNode) : Prop where
  nonempty : nodes ≠ []
  printable : PrintableAll 1 nodes
  noText : ∀ node ∈ nodes, node.isPlainText = false
  declarations : ∀ node ∈ nodes.dropWhile isDeclaration, node.isDeclaration = false

end Tinyxml2

end SignalingServer
