import Mathlib.Algebra.GroupWithZero.Nat
import Mathlib.Tactic.Common

/-!
PTZ commands of GB/T 28181 (GB28181Msg.cpp). A command is a string of sixteen
hex digits; digit 6 says which class it belongs to and digit 7 which command of
the class it is. Each class has its own reader, and the readers do not look at
each other's digits.
-/

namespace SignalingServer

/-- `PTZCMDType::GB28181PtzCmd`. -/
inductive GB28181PtzCmd where
  | no | stop | up | down | left | right | upLeft | upRight | downLeft | downRight
  | zoomIn | zoomOut | focusIn | focusOut | irisIn | irisOut
  | setPreset | gtoPreset | delPreset | movPreset
  deriving DecidableEq, Repr

/-- `PTZCMDType`, with the characters of `mptzcmd` that were copied into it. -/
structure PTZCMDType where
  mptzcmd : Vector Char 20

namespace PTZCMDType

/-- `PTZCMDType(const char*)`: at most sixteen characters, then zeros. -/
def ofString (ptzcmd : String) : PTZCMDType where
  mptzcmd :=
    Vector.ofFn fun i =>
      if i.val < 16 then
        ((ptzcmd.toList.takeWhile (· ≠ Char.ofNat 0))[i.val]?).getD (Char.ofNat 0)
      else Char.ofNat 0

/-- `HexStrToTen` of one character; anything but a hex digit counts as zero. -/
def hexStrToTen (c : Char) : Nat :=
  if '0' ≤ c ∧ c ≤ '9' then c.toNat - '0'.toNat
  else
    match c with
    | 'A' | 'a' => 10
    | 'B' | 'b' => 11
    | 'C' | 'c' => 12
    | 'D' | 'd' => 13
    | 'E' | 'e' => 14
    | 'F' | 'f' => 15
    | _ => 0

/-- `HexStrToTen(mptzcmd[i])`. -/
def digit (p : PTZCMDType) (i : Fin 20) : Nat := hexStrToTen p.mptzcmd[i]

/-- `mptzcmd[i] = c`. -/
def put (p : PTZCMDType) (i : Fin 20) (c : Char) : PTZCMDType := ⟨p.mptzcmd.set i c⟩

def hexChars : List Char := "0123456789ABCDEF".toList

/-- The sixteen characters are hex digits. -/
def IsHex (p : PTZCMDType) : Prop := ∀ i : Fin 20, i.val < 16 → p.mptzcmd[i] ∈ hexChars

instance (p : PTZCMDType) : Decidable p.IsHex :=
  inferInstanceAs (Decidable (∀ i : Fin 20, i.val < 16 → p.mptzcmd[i] ∈ hexChars))

/-- The places in `mptzcmd` are written as numerals. -/
instance : NeZero 20 := ⟨nofun⟩

/-- `HexStrToTen(&mptzcmd[i], 2)`. -/
def byte (p : PTZCMDType) (i j : Fin 20) : Nat := p.digit i * 16 + p.digit j

def isHaveFICmd (p : PTZCMDType) : Bool := (p.digit 6).testBit 2

/-- `GetPTZZoomCmd`: the command and its argument. -/
def getPTZZoomCmd (p : PTZCMDType) : GB28181PtzCmd × Nat :=
  if (p.digit 6).testBit 0 then (.zoomIn, p.byte 12 13)
  else if (p.digit 6).testBit 1 then (.zoomOut, p.byte 12 13)
  else (.no, 0)

/-- The left or right half of `GetPTZUDLREx`. -/
def leftRight (p : PTZCMDType) : GB28181PtzCmd × Nat :=
  if (p.digit 7).testBit 0 then (.right, p.byte 8 9)
  else if (p.digit 7).testBit 1 then (.left, p.byte 8 9)
  else (.no, 0)

/-- The up or down half of `GetPTZUDLREx`. -/
def upDown (p : PTZCMDType) : GB28181PtzCmd × Nat :=
  if (p.digit 7).testBit 2 then (.down, p.byte 10 11)
  else if (p.digit 7).testBit 3 then (.up, p.byte 10 11)
  else (.no, 0)

/-- `GetPTZUDLREx`: the movement, and the arguments `lrArg` and `udarg`. -/
def getPTZUDLREx (p : PTZCMDType) : GB28181PtzCmd × Nat × Nat :=
  let cmd : GB28181PtzCmd :=
    match p.leftRight.1, p.upDown.1 with
    | .left, .down => .downLeft
    | .left, .up => .upLeft
    | .right, .down => .downRight
    | .right, .up => .upRight
    | isleft, isupstate => if isleft ≠ .no then isleft else isupstate
  (cmd, p.leftRight.2, p.upDown.2)

/-- `GetFIIrseCmd`, which reads the focus commands. -/
def getFIIrseCmd (p : PTZCMDType) : GB28181PtzCmd × Nat :=
  if (p.digit 7).testBit 0 then (.focusIn, p.byte 8 9)
  else if (p.digit 7).testBit 1 then (.focusOut, p.byte 8 9)
  else (.no, p.byte 8 9)

/-- `GetFIFocusCmd`, which reads the iris commands. -/
def getFIFocusCmd (p : PTZCMDType) : GB28181PtzCmd × Nat :=
  if (p.digit 7).testBit 2 then (.irisOut, p.byte 10 11)
  else if (p.digit 7).testBit 3 then (.irisIn, p.byte 10 11)
  else (.no, p.byte 10 11)

def getPresetCmd (p : PTZCMDType) : GB28181PtzCmd × Nat :=
  if (p.digit 6).testBit 3 then
    if (p.digit 7).testBit 0 ∧ (p.digit 7).testBit 1 then (.movPreset, p.byte 10 11)
    else if (p.digit 7).testBit 0 then (.setPreset, p.byte 10 11)
    else if (p.digit 7).testBit 1 then (.gtoPreset, p.byte 10 11)
    else (.no, p.byte 10 11)
  else (.no, p.byte 10 11)

/-- All command bits are zero. -/
def noCommandBits (p : PTZCMDType) : Prop := p.digit 6 = 0 ∧ p.digit 7 = 0

/-- A reader of a class other than pan and tilt recognises the command. -/
def Recognised (p : PTZCMDType) (c : GB28181PtzCmd) : Prop :=
  c ≠ .no ∧
    (p.getPTZZoomCmd.1 = c ∨
      (p.isHaveFICmd = true ∧ (p.getFIIrseCmd.1 = c ∨ p.getFIFocusCmd.1 = c)) ∨
      p.getPresetCmd.1 = c)

/-- The string is a zoom, focus, iris or preset command. -/
def LensOrPreset (p : PTZCMDType) : Prop := ∃ c, p.Recognised c

end PTZCMDType

/-- `JsonNvrDevic::PTZCONTROL_COMMAND`, as far as commands are translated to it. -/
inductive PTZControlCommand where
  | unknown | up | down | left | right | upLeft | upRight | downLeft | downRight
  | zoomIn | zoomOut | focusNear | focusFar | irisOpen | irisClose
  | callPreset | savePreset
  deriving DecidableEq, Repr

namespace PTZControlCommand

/-- The numbers of the enumeration. -/
def code : PTZControlCommand → Int
  | unknown => 0
  | up => 1
  | down => 2
  | left => 3
  | right => 4
  | upLeft => 5
  | upRight => 6
  | downLeft => 7
  | downRight => 8
  | zoomIn => 9
  | zoomOut => 10
  | focusNear => 11
  | focusFar => 12
  | irisOpen => 13
  | irisClose => 14
  | callPreset => 22
  | savePreset => 23

/-- `JsonNvrDevic::switchFromGB28181`. -/
def switchFromGB28181 : GB28181PtzCmd → PTZControlCommand
  | .no => unknown
  | .stop => unknown
  | .up => up
  | .down => down
  | .left => left
  | .right => right
  | .upLeft => upLeft
  | .upRight => upRight
  | .downLeft => downLeft
  | .downRight => downRight
  | .zoomIn => zoomIn
  | .zoomOut => zoomOut
  | .focusIn => focusNear
  | .focusOut => focusFar
  | .irisIn => irisOpen
  | .irisOut => irisClose
  | .setPreset => savePreset
  | .gtoPreset => unknown
  | .delPreset => unknown
  | .movPreset => callPreset

/-- The numbers of the pan and tilt movements. -/
def IsMovement (code : Int) : Prop := 1 ≤ code ∧ code ≤ 8

end PTZControlCommand

end SignalingServer
