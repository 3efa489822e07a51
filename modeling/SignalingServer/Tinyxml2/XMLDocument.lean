import SignalingServer.Tinyxml2.StrPair

/-!
The parser of tinyxml2. `XMLNode::ParseDeep` reads the nodes of one level and calls itself for
the content of an element; the end tag of an element is read like an element by the level inside
of it, and handed out. A loop that reads on has a number of rounds, which one round for each byte
is enough for. Of an error only its number is kept, not the line and the text.
-/

namespace SignalingServer

namespace Tinyxml2

abbrev Name := List Char

/-- `XMLNode`, with the strings as `GetStr` decodes them. -/
inductive XMLNode where
  | element (name : Name) (attributes : List (Name × List Char)) (children : List XMLNode)
  | text (value : List Char) (cData : Bool)
  | comment (value : List Char)
  | declaration (value : List Char)
  | unknown (value : List Char)

/-- The errors that `Parse` can end with. -/
inductive XMLError where
  | parsingElement
  | parsingAttribute
  | parsingText
  | parsingCData
  | parsingComment
  | parsingDeclaration
  | parsingUnknown
  | emptyDocument
  | mismatchedElement
  | parsing
  | elementDepthExceeded
  deriving DecidableEq

/-- Why a loop does not go on: an error, or no rounds are left. -/
inductive Halt where
  | error (id : XMLError)
  | rounds
  deriving DecidableEq

/-! ### Tags -/

/-- `XMLAttribute::ParseDeep`. -/
def parseAttribute (p : List Char) : Option ((Name × List Char) × List Char) :=
  match parseName p with
  | none => none
  | some (name, p) =>
      match skipWhiteSpace p with
      | '=' :: p =>
          match skipWhiteSpace p with
          | quote :: p =>
              if quote = '"' ∨ quote = '\'' then
                (parseText [quote] p).map fun (value, p) =>
                  ((name, getStr attributeValue value), p)
              else none
          | [] => none
      | _ => none

/-- `XMLElement::ParseAttributes`, with the attributes that are there already; whether the tag
ends with `/>`, and what is behind it. -/
def parseAttributes : Nat → List (Name × List Char) → List Char →
    Except Halt (List (Name × List Char) × Bool × List Char)
  | 0, _, _ => .error .rounds
  | rounds + 1, attributes, p =>
      match skipWhiteSpace p with
      | [] => .error (.error .parsingElement)
      | c :: p =>
          if isNameStartChar c then
            match parseAttribute (c :: p) with
            | none => .error (.error .parsingAttribute)
            | some (attrib, p) =>
                if attrib.1 ∈ attributes.map Prod.fst then .error (.error .parsingAttribute)
                else parseAttributes rounds (attributes ++ [attrib]) p
          else if c = '>' then .ok (attributes, false, p)
          else if c = '/' ∧ p.head? = some '>' then .ok (attributes, true, p.tail)
          else .error (.error .parsingElement)

/-- `XMLElement::ElementClosingType`. -/
inductive ClosingType where
  | open
  | closed
  | closing
  deriving DecidableEq

structure Tag where
  name : Name
  attributes : List (Name × List Char)
  closingType : ClosingType

/-- The slash of an end tag, if there is one. -/
def skipSlash : List Char → Bool × List Char
  | '/' :: p => (true, p)
  | p => (false, p)

/-- `XMLElement::ParseDeep`, up to the content of the element. A tag that ends with `/>` is one
of an empty element, also if it begins with a slash. -/
def parseTag (rounds : Nat) (p : List Char) : Except Halt (Tag × List Char) :=
  let (slash, p) := skipSlash (skipWhiteSpace p)
  match parseName p with
  | none => .error (.error .parsing)
  | some (name, p) =>
      (parseAttributes rounds [] p).map fun (attributes, sealed, p) =>
        (⟨name, attributes, if sealed then .closed else if slash then .closing else .open⟩, p)

/-! ### Nodes -/

/-- What a node begins with. -/
inductive Header where
  | declaration
  | comment
  | cData
  | unknown
  | element
  | text
  deriving DecidableEq

/-- The headers in the order in which they are looked for. -/
def headers : List (List Char × Header) :=
  [("<?".toList, .declaration), ("<!--".toList, .comment), ("<![CDATA[".toList, .cData),
    ("<!".toList, .unknown), ("<".toList, .element)]

/-- `XMLDocument::Identify`. The white space in front of a text is part of it. -/
def identify (p : List Char) : Option (Header × List Char) :=
  match skipWhiteSpace p with
  | [] => none
  | start =>
      match headers.find? fun h => h.1 <+: start with
      | some (header, kind) => some (kind, start.drop header.length)
      | none => some (.text, p)

/-- `ParseDeep` of a node that ends with a mark of its own. -/
def parseValue (endTag : List Char) (mk : List Char → XMLNode) (id : XMLError) (p : List Char) :
    Except XMLError (XMLNode × List Char) :=
  match parseText endTag p with
  | some (value, p) => .ok (mk (getStr commentValue value), p)
  | none => .error id

/-- `ParseDeep` of the nodes without content. A text ends at a `<` with something behind it. -/
def parseLeaf : Header → List Char → Except XMLError (XMLNode × List Char)
  | .declaration, p => parseValue "?>".toList .declaration .parsingDeclaration p
  | .comment, p => parseValue "-->".toList .comment .parsingComment p
  | .cData, p => parseValue "]]>".toList (.text · true) .parsingCData p
  | .unknown, p => parseValue ">".toList .unknown .parsingUnknown p
  | _, p =>
      match parseText "<".toList p with
      | some (_, []) => .error .parsing
      | some (value, p) => .ok (.text (getStr textElement value) false, '<' :: p)
      | none => .error .parsingText

namespace XMLNode

/-- `ToDeclaration() != 0`. -/
def isDeclaration : XMLNode → Bool
  | .declaration _ => true
  | _ => false

/-- Whether a declaration may stand behind these nodes: only declarations are there, by the first
and the last of them. -/
def wellLocated (depth : Nat) (siblings : List XMLNode) : Bool :=
  depth == 1 && siblings.head?.all isDeclaration && siblings.getLast?.all isDeclaration

end XMLNode

open XMLNode

def maxElementDepth : Nat := 100

/-- What a level ends with: its nodes, the name of the end tag that ends it, if one does, and
what is behind it. -/
structure Level where
  nodes : List XMLNode
  endTag : Option Name
  rest : List Char

/-- `XMLNode::ParseDeep`: the nodes of the level `depth`, behind those that are there already.
The document is the level 1. -/
def parseDeep : Nat → Nat → List XMLNode → List Char → Except Halt Level
  | 0, _, _, _ => .error .rounds
  | rounds + 1, depth, siblings, p =>
      match identify p with
      | none => .ok ⟨siblings, none, []⟩
      | some (.element, p) =>
          match parseTag rounds p with
          | .error halt => .error halt
          | .ok (tag, p) =>
              match tag.closingType with
              | .closing => .ok ⟨siblings, some tag.name, p⟩
              | .closed =>
                  parseDeep rounds depth (siblings ++ [.element tag.name tag.attributes []]) p
              | .open =>
                  -- an element without anything behind its tag has no end tag
                  if p = [] then .error (.error .mismatchedElement)
                  else if depth + 1 = maxElementDepth then
                    .error (.error .elementDepthExceeded)
                  else
                    match parseDeep rounds (depth + 1) [] p with
                    | .error halt => .error halt
                    | .ok ⟨_, none, _⟩ => .error (.error .parsing)
                    | .ok ⟨children, some endTag, p⟩ =>
                        if endTag = tag.name then
                          parseDeep rounds depth
                            (siblings ++ [.element tag.name tag.attributes children]) p
                        else .error (.error .mismatchedElement)
      | some (header, p) =>
          match parseLeaf header p with
          | .error id => .error (.error id)
          | .ok (node, p) =>
              if node.isDeclaration && !wellLocated depth siblings then
                .error (.error .parsingDeclaration)
              else parseDeep rounds depth (siblings ++ [node]) p

/-! ### Documents -/

/-- `XMLUtil::ReadBOM`. -/
def readBOM (p : List Char) : List Char :=
  match p with
  | a :: b :: c :: rest =>
      if a = Char.ofNat 0xef ∧ b = Char.ofNat 0xbb ∧ c = Char.ofNat 0xbf then rest else p
  | _ => p

/-- `XMLDocument::Parse`: the nodes of the document. An end tag ends it without an error. -/
def parse (xml : List Char) : Except Halt (List XMLNode) :=
  match readBOM (skipWhiteSpace (SqlText.cText xml)) with
  | [] => .error (.error .emptyDocument)
  | p => (parseDeep (p.length + 1) 1 [] p).map Level.nodes

/-- `FirstChildElement`. -/
def firstChildElement (nodes : List XMLNode) :
    Option (Name × List (Name × List Char) × List XMLNode) :=
  nodes.findSome? fun
    | .element name attributes children => some (name, attributes, children)
    | _ => none

end Tinyxml2

end SignalingServer
