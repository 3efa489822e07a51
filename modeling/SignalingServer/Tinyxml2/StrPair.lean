import SignalingServer.Lib.Decimal
import SignalingServer.Lib.Scanning
import SignalingServer.Lib.SqlText

/-!
The strings of tinyxml2 (`StrPair` and `XMLUtil`). A text is a list of bytes, each as a
character, up to its NUL. `GetStr` decodes a piece of the text in the buffer it stands in, with
a pointer that reads and one that writes; no byte is written in front of the reader, so that
what the writer has not reached yet is the text as it was.
-/

namespace SignalingServer

namespace Tinyxml2

open Scanning

def lf : Char := '\n'

def cr : Char := '\r'

/-! ### Names and white space -/

/-- `XMLUtil::IsWhiteSpace`. -/
abbrev isWhiteSpace (p : Char) : Bool := Decimal.isSpace p

def isNameStartChar (ch : Char) : Bool :=
  128 ≤ ch.toNat || ch.isAlpha || ch == ':' || ch == '_'

def isNameChar (ch : Char) : Bool :=
  isNameStartChar ch || ch.isDigit || ch == '.' || ch == '-'

def skipWhiteSpace (p : List Char) : List Char := p.dropWhile isWhiteSpace

/-- `StrPair::ParseName`. -/
def parseName : List Char → Option (List Char × List Char)
  | [] => none
  | c :: p =>
      if isNameStartChar c then some (c :: p.takeWhile isNameChar, p.dropWhile isNameChar)
      else none

/-- `StrPair::ParseText`. -/
def parseText (endTag p : List Char) : Option (List Char × List Char) := breakOn endTag p

/-! ### Character references -/

/-- `XMLUtil::ConvertUTF32ToUTF8`: no byte for what does not fit into four. -/
def convertUTF32ToUTF8 (input : Nat) : List Char :=
  let byte (n : Nat) : Char := Char.ofNat (n % 256)
  let low (n : Nat) : Char := byte ((n ||| 0x80) &&& 0xbf)
  if input < 0x80 then [byte input]
  else if input < 0x800 then [byte ((input >>> 6) ||| 0xc0), low input]
  else if input < 0x10000 then
    [byte ((input >>> 12) ||| 0xe0), low (input >>> 6), low input]
  else if input < 0x200000 then
    [byte ((input >>> 18) ||| 0xf0), low (input >>> 12), low (input >>> 6), low input]
  else []

def hexDigit (q : Char) : Option Nat :=
  if '0' ≤ q ∧ q ≤ '9' then some (q.toNat - '0'.toNat)
  else if 'a' ≤ q ∧ q ≤ 'f' then some (q.toNat - 'a'.toNat + 10)
  else if 'A' ≤ q ∧ q ≤ 'F' then some (q.toNat - 'A'.toNat + 10)
  else none

def decimalDigit (q : Char) : Option Nat :=
  if '0' ≤ q ∧ q ≤ '9' then some (q.toNat - '0'.toNat) else none

/-- The digits in front of the `;`, from the last one back to the mark in front of them. -/
def readDigits (digit : Char → Option Nat) (base : Nat) (mark : Char) :
    (ucs mult : Nat) → List Char → Option Nat
  | ucs, _, [] => some ucs
  | ucs, mult, q :: back =>
      if q = mark then some ucs
      else
        match digit q with
        | none => none
        | some d =>
            let digitScaled := mult * d % 2 ^ 32
            readDigits digit base mark ((ucs + digitScaled) % 2 ^ 64) (mult * base % 2 ^ 32) back

/-- `XMLUtil::GetCharacterRef`, for the text `p` behind `&#`: the bytes of the character, and how
many bytes of `p` are read. -/
def getCharacterRef : List Char → Option (List Char × Option Nat)
  | [] => some ([], none)
  | 'x' :: p =>
      match breakOn [';'] p with
      | none => none
      | some (digits, _) =>
          (readDigits hexDigit 16 'x' 0 1 digits.reverse).map fun ucs =>
            (convertUTF32ToUTF8 ucs, some (digits.length + 2))
  | p =>
      match breakOn [';'] p with
      | none => none
      | some (digits, _) =>
          (readDigits decimalDigit 10 '#' 0 1 digits.reverse).map fun ucs =>
            (convertUTF32ToUTF8 ucs, some (digits.length + 1))

/-! ### Decoding -/

structure Entity where
  pattern : List Char
  value : Char

def entities : List Entity :=
  [⟨"quot".toList, '"'⟩, ⟨"amp".toList, '&'⟩, ⟨"apos".toList, '\''⟩, ⟨"lt".toList, '<'⟩,
    ⟨"gt".toList, '>'⟩]

/-- The flags that say how a piece of text is decoded. -/
structure StrFlags where
  needsEntityProcessing : Bool
  needsNewlineNormalization : Bool

def textElement : StrFlags := ⟨true, true⟩

def attributeValue : StrFlags := ⟨true, true⟩

/-- Comments, declarations, CDATA and what is not known. -/
def commentValue : StrFlags := ⟨false, true⟩

/-- One round of `GetStr` at the byte `c`, with the bytes `p` behind it: the bytes it writes, and
how many bytes behind `c` it reads. `stale` stands where the next byte is written. -/
def getStrRound (flags : StrFlags) (stale c : Char) (p : List Char) : List Char × Nat :=
  if flags.needsNewlineNormalization ∧ c = cr then ([lf], if p.head? = some lf then 1 else 0)
  else if flags.needsNewlineNormalization ∧ c = lf then
    ([lf], if p.head? = some cr then 1 else 0)
  else if flags.needsEntityProcessing ∧ c = '&' then
    if p.head? = some '#' then
      match getCharacterRef p.tail with
      | none => ([c], 0)
      -- of a reference at the end of the text only `&` is read
      | some (bytes, read) => (bytes, (read.map (· + 1)).getD 0)
    else
      match entities.find? fun e => e.pattern ++ [';'] <+: p with
      | some e => ([e.value], e.pattern.length + 1)
      -- both pointers move on, and nothing is written
      | none => ([stale], 0)
  else ([c], 0)

/-- The rounds of `GetStr`, with the number of bytes that the last one has read already and the
text from the writer on. -/
def getStrFrom (flags : StrFlags) : Nat → List Char → List Char → List Char
  | _, _, [] => []
  | read + 1, q, _ :: p => getStrFrom flags read q p
  | 0, q, c :: p =>
      let round := getStrRound flags (q.headD c) c p
      round.1 ++ getStrFrom flags round.2 (q.drop round.1.length) p

/-- `StrPair::GetStr`, up to the first NUL, as every caller reads it. -/
def getStr (flags : StrFlags) (text : List Char) : List Char :=
  SqlText.cText (getStrFrom flags 0 text text)

end Tinyxml2

end SignalingServer
