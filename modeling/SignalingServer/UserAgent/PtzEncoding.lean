import Mathlib.Logic.Function.Basic
import SignalingServer.UserAgent.GB28181Msg

/-!
The encoder of PTZ commands (`PTZCMDType::AddPtzCmd`). A command is written into the
digits that are there: digit 6 and 7 for its class and its bits, two digits for its
argument, and the checksum at the end. The readers of GB28181Msg.lean read it back.
-/

namespace SignalingServer

namespace PTZCMDType

/-! ### The encoder -/

/-- `PTZCMDType()`. -/
def new : PTZCMDType := ofString "A50F010000000000"

/-- `TenIntToChar`. -/
def tenIntToChar (ii : Int) : Char :=
  if ii > 16 then Char.ofNat 0
  else
    match ii with
    | 0 => '0'
    | 1 => '1'
    | 2 => '2'
    | 3 => '3'
    | 4 => '4'
    | 5 => '5'
    | 6 => '6'
    | 7 => '7'
    | 8 => '8'
    | 9 => '9'
    | 10 => 'A'
    | 11 => 'B'
    | 12 => 'C'
    | 13 => 'D'
    | 14 => 'E'
    | 15 => 'F'
    | _ => '0'

/-- `TenIntToChar2(ii, &mptzcmd[i])`, with `j` behind `i`. -/
def tenIntToChar2 (p : PTZCMDType) (ii : Int) (i j : Fin 20) : PTZCMDType :=
  if ii > 16 then (p.put i (tenIntToChar (ii.tdiv 16))).put j (tenIntToChar (ii.tmod 16))
  else (p.put i '0').put j (tenIntToChar ii)

/-- The seven rounds of the loop of `GetCmdParityBit`. -/
def sumBytes (p : PTZCMDType) : Nat :=
  p.byte 0 1 + p.byte 2 3 + p.byte 4 5 + p.byte 6 7 + p.byte 8 9 + p.byte 10 11 + p.byte 12 13

def getCmdParityBit (p : PTZCMDType) : PTZCMDType :=
  p.tenIntToChar2 (p.sumBytes % 256 : Nat) 14 15

/-- Digits 6 and 7 are written. -/
def putBits (p : PTZCMDType) (ntempCmd nCmd : Nat) : PTZCMDType :=
  (p.put 6 (tenIntToChar ntempCmd)).put 7 (tenIntToChar nCmd)

/-- `AddPtzCmd`, which always returns true. -/
def addPtzCmd (p : PTZCMDType) (pcmd : GB28181PtzCmd) (arg : Int) : PTZCMDType :=
  match pcmd with
  | .no => p
  | .stop => ([6, 7, 8, 9, 10, 11, 12, 13].foldl (fun p i => p.put i '0') p).getCmdParityBit
  | .up => ((p.putBits 0 (1 <<< 3)).tenIntToChar2 arg 10 11).getCmdParityBit
  | .down => ((p.putBits 0 (p.digit 7 ||| 1 <<< 2)).tenIntToChar2 arg 10 11).getCmdParityBit
  | .left => ((p.putBits 0 (p.digit 7 ||| 1 <<< 1)).tenIntToChar2 arg 8 9).getCmdParityBit
  | .right => ((p.putBits 0 (p.digit 7 ||| 1)).tenIntToChar2 arg 8 9).getCmdParityBit
  | .upLeft =>
      (((p.putBits 0 (1 <<< 3 ||| 1 <<< 1)).tenIntToChar2 arg 8 9).tenIntToChar2 arg 10
        11).getCmdParityBit
  | .upRight =>
      (((p.putBits 0 (1 <<< 3 ||| 1)).tenIntToChar2 arg 8 9).tenIntToChar2 arg 10
        11).getCmdParityBit
  | .downLeft =>
      (((p.putBits 0 (1 <<< 2 ||| 1 <<< 1)).tenIntToChar2 arg 8 9).tenIntToChar2 arg 10
        11).getCmdParityBit
  | .downRight =>
      (((p.putBits 0 (1 <<< 2 ||| 1)).tenIntToChar2 arg 8 9).tenIntToChar2 arg 10
        11).getCmdParityBit
  | .zoomIn => ((p.put 6 (tenIntToChar 1)).tenIntToChar2 arg 12 13).getCmdParityBit
  | .zoomOut => ((p.put 6 (tenIntToChar 2)).tenIntToChar2 arg 12 13).getCmdParityBit
  | .focusIn => ((p.putBits (1 <<< 2) (1 <<< 1)).tenIntToChar2 arg 8 9).getCmdParityBit
  | .focusOut => ((p.putBits (1 <<< 2) 1).tenIntToChar2 arg 8 9).getCmdParityBit
  | .irisIn => ((p.putBits (1 <<< 2) (1 <<< 3)).tenIntToChar2 arg 10 11).getCmdParityBit
  | .irisOut => ((p.putBits (1 <<< 2) (1 <<< 2)).tenIntToChar2 arg 10 11).getCmdParityBit
  | .setPreset => ((p.putBits (1 <<< 3) 1).tenIntToChar2 arg 10 11).getCmdParityBit
  | .gtoPreset => ((p.putBits (1 <<< 3) 2).tenIntToChar2 arg 10 11).getCmdParityBit
  | .delPreset => ((p.putBits (1 <<< 3) 3).tenIntToChar2 arg 10 11).getCmdParityBit
  -- the class bits are computed and not written, and there is no new checksum
  | .movPreset => (p.put 7 (tenIntToChar (p.digit 7 &&& 3 : Nat))).tenIntToChar2 arg 10 11

/-! ### Written digits read back -/

theorem hexStrToTen_lt (c : Char) : hexStrToTen c < 16 := by
  unfold hexStrToTen
  split
  · rename_i hdigit
    have hle := Char.le_def.mp hdigit.2
    have hnat : c.toNat ≤ '9'.toNat := hle
    have hnine : '9'.toNat = 57 := rfl
    have hzero : '0'.toNat = 48 := rfl
    omega
  · split <;> decide

theorem digit_lt (p : PTZCMDType) (i : Fin 20) : p.digit i < 16 := hexStrToTen_lt _

theorem hexStrToTen_tenIntToChar {n : Nat} (hn : n < 16) : hexStrToTen (tenIntToChar n) = n := by
  have hall : ∀ n < 16, hexStrToTen (tenIntToChar (n : Nat)) = n := by decide
  exact hall n hn

@[simp] theorem digit_put (p : PTZCMDType) (i j : Fin 20) (c : Char) :
    (p.put i c).digit j = if i = j then hexStrToTen c else p.digit j := by
  have hget : (p.put i c).mptzcmd[j] = if i.val = j.val then c else p.mptzcmd[j] :=
    Vector.getElem_set i.isLt j.isLt
  rw [digit, hget]
  by_cases heq : i = j
  · rw [if_pos heq, if_pos (congrArg Fin.val heq)]
  · rw [if_neg heq, if_neg fun h => heq (Fin.ext h)]
    rfl

/-- The value of two digits that were written for `n`: sixteen becomes zero. -/
def written (n : Nat) : Nat := if n = 16 then 0 else n

theorem digit_tenIntToChar2 (p : PTZCMDType) {n : Nat} (hn : n < 256) (i j k : Fin 20) :
    (p.tenIntToChar2 n i j).digit k =
      if j = k then written n % 16 else if i = k then written n / 16 else p.digit k := by
  unfold tenIntToChar2
  by_cases hlarge : (n : Int) > 16
  · have hne : n ≠ 16 := by omega
    have hhigh : ((n : Int).tdiv 16) = (n / 16 : Nat) := rfl
    have hlow : ((n : Int).tmod 16) = (n % 16 : Nat) := rfl
    rw [if_pos hlarge, hhigh, hlow, written, if_neg hne]
    simp only [digit_put, hexStrToTen_tenIntToChar (Nat.mod_lt n (by decide : 0 < 16)),
      hexStrToTen_tenIntToChar (by omega : n / 16 < 16)]
  · have hzero : hexStrToTen '0' = 0 := by decide
    rw [if_neg hlarge]
    simp only [digit_put, hzero]
    by_cases heq : n = 16
    · subst heq
      rfl
    · have hdiv : n / 16 = 0 := by omega
      have hmod : n % 16 = n := by omega
      rw [written, if_neg heq, hdiv, hmod, hexStrToTen_tenIntToChar (by omega)]

theorem byte_tenIntToChar2_self (p : PTZCMDType) {n : Nat} (hn : n < 256) {i j : Fin 20}
    (hij : j ≠ i) : (p.tenIntToChar2 n i j).byte i j = written n := by
  rw [byte, digit_tenIntToChar2 p hn, digit_tenIntToChar2 p hn, if_neg hij, if_pos rfl, if_pos rfl]
  omega

theorem byte_tenIntToChar2_of_ne (p : PTZCMDType) {n : Nat} (hn : n < 256) {i j k l : Fin 20}
    (hk : j ≠ k ∧ i ≠ k) (hl : j ≠ l ∧ i ≠ l) : (p.tenIntToChar2 n i j).byte k l = p.byte k l := by
  rw [byte, digit_tenIntToChar2 p hn, digit_tenIntToChar2 p hn, if_neg hk.1, if_neg hk.2,
    if_neg hl.1, if_neg hl.2, byte]

theorem byte_put_of_ne (p : PTZCMDType) (c : Char) {i k l : Fin 20} (hk : i ≠ k) (hl : i ≠ l) :
    (p.put i c).byte k l = p.byte k l := by
  rw [byte, digit_put, digit_put, if_neg hk, if_neg hl, byte]

/-- The three places of an argument: for pan, for tilt, and for zoom. -/
def argHigh : Fin 3 → Fin 20
  | 0 => 8
  | 1 => 10
  | 2 => 12

def argLow : Fin 3 → Fin 20
  | 0 => 9
  | 1 => 11
  | 2 => 13

theorem argLow_ne_argHigh : ∀ a, argLow a ≠ argHigh a := by decide

theorem places_apart : ∀ a b, b ≠ a → (argLow a ≠ argHigh b ∧ argHigh a ≠ argHigh b) ∧
    argLow a ≠ argLow b ∧ argHigh a ≠ argLow b := by decide

def arg (p : PTZCMDType) (a : Fin 3) : Nat := p.byte (argHigh a) (argLow a)

/-- What a command leaves in the first fourteen digits. -/
structure Written (p p' : PTZCMDType) (class_ bits : Nat) (args : Fin 3 → Nat) : Prop where
  byte0 : p'.byte 0 1 = p.byte 0 1
  byte1 : p'.byte 2 3 = p.byte 2 3
  byte2 : p'.byte 4 5 = p.byte 4 5
  digit6 : p'.digit 6 = class_
  digit7 : p'.digit 7 = bits
  args : ∀ a, p'.arg a = args a

theorem Written.refl (p : PTZCMDType) : p.Written p (p.digit 6) (p.digit 7) p.arg :=
  ⟨rfl, rfl, rfl, rfl, rfl, fun _ => rfl⟩

section Digits

variable {p p' : PTZCMDType} {class_ bits n : Nat} {args : Fin 3 → Nat}
  (h : p.Written p' class_ bits args)

include h

theorem Written.putClass (hn : n < 16) :
    p.Written (p'.put 6 (tenIntToChar n)) n bits args where
  byte0 := (byte_put_of_ne p' _ (by decide) (by decide)).trans h.byte0
  byte1 := (byte_put_of_ne p' _ (by decide) (by decide)).trans h.byte1
  byte2 := (byte_put_of_ne p' _ (by decide) (by decide)).trans h.byte2
  digit6 := (digit_put p' 6 6 _).trans (hexStrToTen_tenIntToChar hn)
  digit7 := (digit_put p' 6 7 _).trans h.digit7
  args := fun a =>
    (byte_put_of_ne p' _ (by decide +revert) (by decide +revert)).trans (h.args a)

theorem Written.putBits (hn : n < 16) :
    p.Written (p'.put 7 (tenIntToChar n)) class_ n args where
  byte0 := (byte_put_of_ne p' _ (by decide) (by decide)).trans h.byte0
  byte1 := (byte_put_of_ne p' _ (by decide) (by decide)).trans h.byte1
  byte2 := (byte_put_of_ne p' _ (by decide) (by decide)).trans h.byte2
  digit6 := (digit_put p' 7 6 _).trans h.digit6
  digit7 := (digit_put p' 7 7 _).trans (hexStrToTen_tenIntToChar hn)
  args := fun a =>
    (byte_put_of_ne p' _ (by decide +revert) (by decide +revert)).trans (h.args a)

theorem Written.putArg (a : Fin 3) (hn : n < 256) :
    p.Written (p'.tenIntToChar2 n (argHigh a) (argLow a)) class_ bits
      (Function.update args a (written n)) := by
  have hplace : ∀ k : Fin 20, k < 8 → argLow a ≠ k ∧ argHigh a ≠ k := by decide +revert
  have hhead : ∀ k l : Fin 20, k < 8 → l < 8 →
      (p'.tenIntToChar2 n (argHigh a) (argLow a)).byte k l = p'.byte k l :=
    fun k l hk hl => byte_tenIntToChar2_of_ne p' hn (hplace k hk) (hplace l hl)
  have hdigit : ∀ k : Fin 20, k < 8 →
      (p'.tenIntToChar2 n (argHigh a) (argLow a)).digit k = p'.digit k := by
    intro k hk
    rw [digit_tenIntToChar2 p' hn, if_neg (hplace k hk).1, if_neg (hplace k hk).2]
  refine ⟨(hhead 0 1 (by decide) (by decide)).trans h.byte0,
    (hhead 2 3 (by decide) (by decide)).trans h.byte1,
    (hhead 4 5 (by decide) (by decide)).trans h.byte2,
    (hdigit 6 (by decide)).trans h.digit6, (hdigit 7 (by decide)).trans h.digit7, fun b => ?_⟩
  by_cases heq : b = a
  · rw [heq, Function.update_self]
    exact byte_tenIntToChar2_self p' hn (argLow_ne_argHigh a)
  · have hother := places_apart a b heq
    rw [Function.update_of_ne heq]
    exact (byte_tenIntToChar2_of_ne p' hn hother.1 hother.2).trans (h.args b)

theorem Written.getCmdParityBit : p.Written p'.getCmdParityBit class_ bits args := by
  have hsum : p'.sumBytes % 256 < 256 := Nat.mod_lt _ (by decide)
  exact
    { byte0 := (byte_tenIntToChar2_of_ne p' hsum (by decide) (by decide)).trans h.byte0
      byte1 := (byte_tenIntToChar2_of_ne p' hsum (by decide) (by decide)).trans h.byte1
      byte2 := (byte_tenIntToChar2_of_ne p' hsum (by decide) (by decide)).trans h.byte2
      digit6 := (digit_tenIntToChar2 p' hsum 14 15 6).trans h.digit6
      digit7 := (digit_tenIntToChar2 p' hsum 14 15 7).trans h.digit7
      args := fun a => (byte_tenIntToChar2_of_ne p' hsum (by decide +revert)
        (by decide +revert)).trans (h.args a) }

end Digits

/-- The checksum is right, unless it is sixteen. -/
theorem byte_getCmdParityBit (p : PTZCMDType) :
    p.getCmdParityBit.byte 14 15 = written (p.sumBytes % 256) :=
  byte_tenIntToChar2_self p (Nat.mod_lt _ (by decide)) (by decide)

end PTZCMDType

/-! ### What a command writes -/

namespace GB28181PtzCmd

/-- One of the readers can return the command: a movement, a zoom, focus or iris command,
or a preset command other than the one that deletes. -/
def HasReader (cmd : GB28181PtzCmd) : Prop := cmd ≠ .no ∧ cmd ≠ .stop ∧ cmd ≠ .delPreset

instance (cmd : GB28181PtzCmd) : Decidable cmd.HasReader := inferInstanceAs (Decidable (_ ∧ _ ∧ _))

end GB28181PtzCmd

namespace PTZCMDType

/-- Digit 6 after a command. -/
def classDigit (p : PTZCMDType) : GB28181PtzCmd → Nat
  | .zoomIn => 1
  | .zoomOut => 2
  | .focusIn | .focusOut | .irisIn | .irisOut => 4
  | .setPreset | .gtoPreset => 8
  | .movPreset => p.digit 6
  | _ => 0

/-- Digit 7 after a command. -/
def bitsDigit (p : PTZCMDType) : GB28181PtzCmd → Nat
  | .up | .irisIn => 8
  | .down => p.digit 7 ||| 4
  | .left => p.digit 7 ||| 2
  | .right => p.digit 7 ||| 1
  | .upLeft => 10
  | .upRight => 9
  | .downLeft => 6
  | .downRight => 5
  | .irisOut => 4
  | .focusIn | .gtoPreset => 2
  | .focusOut | .setPreset => 1
  | .movPreset => p.digit 7 &&& 3
  | _ => p.digit 7

/-- The arguments after a command with argument `n`. -/
def newArgs (p : PTZCMDType) (n : Nat) : GB28181PtzCmd → Fin 3 → Nat
  | .left | .right | .focusIn | .focusOut => Function.update p.arg 0 n
  | .up | .down | .irisIn | .irisOut | .setPreset | .gtoPreset | .movPreset =>
      Function.update p.arg 1 n
  | .upLeft | .upRight | .downLeft | .downRight =>
      Function.update (Function.update p.arg 0 n) 1 n
  | .zoomIn | .zoomOut => Function.update p.arg 2 n
  | _ => p.arg

theorem or_lt_sixteen {a b : Nat} (ha : a < 16) (hb : b < 16) : a ||| b < 16 :=
  Nat.or_lt_two_pow (n := 4) ha hb

theorem written_addPtzCmd (p : PTZCMDType) {cmd : GB28181PtzCmd} (hcmd : cmd.HasReader) {n : Nat}
    (hn : n < 256) :
    p.Written (p.addPtzCmd cmd n) (p.classDigit cmd) (p.bitsDigit cmd)
      (p.newArgs (written n) cmd) := by
  have hself := Written.refl p
  have hbits : ∀ {c b : Nat}, c < 16 → b < 16 → p.Written (p.putBits c b) c b p.arg :=
    fun hc hb => (hself.putClass hc).putBits hb
  have hor : ∀ {b : Nat}, b < 16 → p.digit 7 ||| b < 16 := or_lt_sixteen (p.digit_lt 7)
  have hand : p.digit 7 &&& 3 < 16 := Nat.lt_of_le_of_lt Nat.and_le_right (by decide)
  cases cmd with
  | no => exact absurd rfl hcmd.1
  | stop => exact absurd rfl hcmd.2.1
  | delPreset => exact absurd rfl hcmd.2.2
  | up => exact ((hbits (by decide) (by decide)).putArg 1 hn).getCmdParityBit
  | down => exact ((hbits (by decide) (hor (by decide))).putArg 1 hn).getCmdParityBit
  | left | right => exact ((hbits (by decide) (hor (by decide))).putArg 0 hn).getCmdParityBit
  | upLeft | upRight | downLeft | downRight =>
      exact (((hbits (by decide) (by decide)).putArg 0 hn).putArg 1 hn).getCmdParityBit
  | zoomIn | zoomOut => exact ((hself.putClass (by decide)).putArg 2 hn).getCmdParityBit
  | focusIn | focusOut => exact ((hbits (by decide) (by decide)).putArg 0 hn).getCmdParityBit
  | irisIn | irisOut | setPreset | gtoPreset =>
      exact ((hbits (by decide) (by decide)).putArg 1 hn).getCmdParityBit
  | movPreset => exact (hself.putBits hand).putArg 1 hn

/-! ### Reading a command back -/

theorem written_eq_iff (n : Nat) : written n = n ↔ n ≠ 16 := by
  unfold written
  split
  · omega
  · exact iff_of_true rfl ‹_›

/-- The reader for the kind of the command gives the command with the argument. -/
def Decodes (p : PTZCMDType) (cmd : GB28181PtzCmd) (n : Nat) : Prop :=
  match cmd with
  | .up | .down => p.getPTZUDLREx = (cmd, 0, n)
  | .left | .right => p.getPTZUDLREx = (cmd, n, 0)
  | .upLeft | .upRight | .downLeft | .downRight => p.getPTZUDLREx = (cmd, n, n)
  | .zoomIn | .zoomOut => p.getPTZZoomCmd = (cmd, n)
  | .focusIn | .focusOut => p.getFIIrseCmd = (cmd, n)
  | .irisIn | .irisOut => p.getFIFocusCmd = (cmd, n)
  | .setPreset | .gtoPreset | .movPreset => p.getPresetCmd = (cmd, n)
  | .no | .stop | .delPreset => False

/-- Digit 7 has no bit that the reader takes for another movement; and the command is none
of those that are written with the bits of another one. -/
def BitsFree (p : PTZCMDType) : GB28181PtzCmd → Prop
  | .down => ¬ (p.digit 7).testBit 0 ∧ ¬ (p.digit 7).testBit 1
  | .left => ¬ (p.digit 7).testBit 0 ∧ ¬ (p.digit 7).testBit 2 ∧ ¬ (p.digit 7).testBit 3
  | .right => ¬ (p.digit 7).testBit 2 ∧ ¬ (p.digit 7).testBit 3
  | .focusIn | .focusOut | .movPreset => False
  | _ => True

/-- A preset class comes with the bits of the first two preset commands only. -/
def PresetBits (p : PTZCMDType) : Prop :=
  (p.digit 6).testBit 3 → ¬ ((p.digit 7).testBit 0 ∧ (p.digit 7).testBit 1)

section Readers

variable {p p' : PTZCMDType} {class_ bits : Nat} {args : Fin 3 → Nat}
  (h : p.Written p' class_ bits args)

include h

theorem Written.leftRight : p'.leftRight =
    if bits.testBit 0 then (.right, args 0) else if bits.testBit 1 then (.left, args 0)
    else (.no, 0) := by
  have harg : p'.byte 8 9 = args 0 := h.args 0
  rw [PTZCMDType.leftRight, h.digit7, harg]

theorem Written.upDown : p'.upDown =
    if bits.testBit 2 then (.down, args 1) else if bits.testBit 3 then (.up, args 1)
    else (.no, 0) := by
  have harg : p'.byte 10 11 = args 1 := h.args 1
  rw [PTZCMDType.upDown, h.digit7, harg]

theorem Written.getPTZZoomCmd : p'.getPTZZoomCmd =
    if class_.testBit 0 then (.zoomIn, args 2) else if class_.testBit 1 then (.zoomOut, args 2)
    else (.no, 0) := by
  have harg : p'.byte 12 13 = args 2 := h.args 2
  rw [PTZCMDType.getPTZZoomCmd, h.digit6, harg]

theorem Written.getFIIrseCmd : p'.getFIIrseCmd =
    if bits.testBit 0 then (.focusIn, args 0) else if bits.testBit 1 then (.focusOut, args 0)
    else (.no, args 0) := by
  have harg : p'.byte 8 9 = args 0 := h.args 0
  rw [PTZCMDType.getFIIrseCmd, h.digit7, harg]

theorem Written.getFIFocusCmd : p'.getFIFocusCmd =
    if bits.testBit 2 then (.irisOut, args 1) else if bits.testBit 3 then (.irisIn, args 1)
    else (.no, args 1) := by
  have harg : p'.byte 10 11 = args 1 := h.args 1
  rw [PTZCMDType.getFIFocusCmd, h.digit7, harg]

theorem Written.getPresetCmd : p'.getPresetCmd =
    if class_.testBit 3 then
      if bits.testBit 0 ∧ bits.testBit 1 then (.movPreset, args 1)
      else if bits.testBit 0 then (.setPreset, args 1)
      else if bits.testBit 1 then (.gtoPreset, args 1)
      else (.no, args 1)
    else (.no, args 1) := by
  have harg : p'.byte 10 11 = args 1 := h.args 1
  rw [PTZCMDType.getPresetCmd, h.digit6, h.digit7, harg]

end Readers

/-- `PTZ_MOVPRESET` writes no class of its own, and with the class that is there the bits
are read as another command. -/
theorem not_decodes_movPreset {p : PTZCMDType} (hp : p.PresetBits) {n : Nat} (hn : n < 256) :
    ¬ (p.addPtzCmd .movPreset n).Decodes .movPreset n := by
  intro hread
  have hreader : GB28181PtzCmd.movPreset.HasReader := ⟨nofun, nofun, nofun⟩
  have hw := p.written_addPtzCmd hreader hn
  have hclass : p.classDigit .movPreset = p.digit 6 := rfl
  have hdigit : p.bitsDigit .movPreset = p.digit 7 &&& 3 := rfl
  have hcmd : (p.addPtzCmd .movPreset n).getPresetCmd.1 = .movPreset := congrArg Prod.fst hread
  rw [hclass, hdigit] at hw
  rw [hw.getPresetCmd] at hcmd
  by_cases h3 : (p.digit 6).testBit 3
  · have hbits := hp h3
    have hboth : ¬ ((p.digit 7 &&& 3).testBit 0 ∧ (p.digit 7 &&& 3).testBit 1) := by
      simpa only [Nat.testBit_and, Bool.and_eq_true] using
        fun hand => hbits ⟨hand.1.1, hand.2.1⟩
    rw [if_pos h3, if_neg hboth] at hcmd
    split at hcmd
    · cases hcmd
    · split at hcmd <;> cases hcmd
  · rw [if_neg h3] at hcmd
    cases hcmd

theorem decodes_addPtzCmd_iff {p : PTZCMDType} (hp : p.PresetBits) {cmd : GB28181PtzCmd}
    (hcmd : cmd.HasReader) {n : Nat} (hn : n < 256) :
    (p.addPtzCmd cmd n).Decodes cmd n ↔ n ≠ 16 ∧ p.BitsFree cmd := by
  have hw := p.written_addPtzCmd hcmd hn
  rw [← written_eq_iff]
  cases cmd with
  | no => exact absurd rfl hcmd.1
  | stop => exact absurd rfl hcmd.2.1
  | delPreset => exact absurd rfl hcmd.2.2
  | up | upLeft | upRight | downLeft | downRight =>
      simp +decide [Decodes, getPTZUDLREx, hw.leftRight, hw.upDown, bitsDigit, newArgs, BitsFree]
  | down =>
      by_cases h0 : (p.digit 7).testBit 0 <;> by_cases h1 : (p.digit 7).testBit 1 <;>
        simp +decide [Decodes, getPTZUDLREx, hw.leftRight, hw.upDown, bitsDigit, newArgs, BitsFree,
          h0, h1, -Nat.testBit_zero]
  | left =>
      by_cases h0 : (p.digit 7).testBit 0 <;> by_cases h2 : (p.digit 7).testBit 2 <;>
        by_cases h3 : (p.digit 7).testBit 3 <;>
        simp +decide [Decodes, getPTZUDLREx, hw.leftRight, hw.upDown, bitsDigit, newArgs, BitsFree,
          h0, h2, h3, -Nat.testBit_zero]
  | right =>
      by_cases h2 : (p.digit 7).testBit 2 <;> by_cases h3 : (p.digit 7).testBit 3 <;>
        simp +decide [Decodes, getPTZUDLREx, hw.leftRight, hw.upDown, bitsDigit, newArgs, BitsFree,
          h2, h3, -Nat.testBit_zero]
  | zoomIn | zoomOut =>
      simp +decide [Decodes, hw.getPTZZoomCmd, classDigit, newArgs, BitsFree]
  | focusIn | focusOut =>
      -- each is written with the bit of the other
      simp +decide [Decodes, hw.getFIIrseCmd, bitsDigit, newArgs, BitsFree]
  | irisIn | irisOut =>
      simp +decide [Decodes, hw.getFIFocusCmd, bitsDigit, newArgs, BitsFree]
  | setPreset | gtoPreset =>
      simp +decide [Decodes, hw.getPresetCmd, classDigit, bitsDigit, newArgs, BitsFree]
  | movPreset => exact iff_of_false (not_decodes_movPreset hp hn) fun hfree => hfree.2

/-! ### The checksum -/

/-- The sum of the first seven bytes after a command. -/
def newSum (p : PTZCMDType) (n : Nat) (cmd : GB28181PtzCmd) : Nat :=
  p.byte 0 1 + p.byte 2 3 + p.byte 4 5 + (p.classDigit cmd * 16 + p.bitsDigit cmd) +
    p.newArgs n cmd 0 + p.newArgs n cmd 1 + p.newArgs n cmd 2

theorem Written.sumBytes {p p' : PTZCMDType} {class_ bits : Nat} {args : Fin 3 → Nat}
    (h : p.Written p' class_ bits args) :
    p'.sumBytes = p.byte 0 1 + p.byte 2 3 + p.byte 4 5 + (class_ * 16 + bits) + args 0 + args 1 +
      args 2 := by
  have hpan : p'.byte 8 9 = args 0 := h.args 0
  have htilt : p'.byte 10 11 = args 1 := h.args 1
  have hzoom : p'.byte 12 13 = args 2 := h.args 2
  have hbits : p'.byte 6 7 = class_ * 16 + bits := by rw [byte, h.digit6, h.digit7]
  rw [PTZCMDType.sumBytes, h.byte0, h.byte1, h.byte2, hbits, hpan, htilt, hzoom]

/-- Every command but the one that moves to a preset ends with its checksum. -/
theorem addPtzCmd_eq_getCmdParityBit (p : PTZCMDType) {cmd : GB28181PtzCmd} (hcmd : cmd.HasReader)
    (hmov : cmd ≠ .movPreset) (n : Nat) :
    ∃ p' : PTZCMDType, p.addPtzCmd cmd n = p'.getCmdParityBit := by
  cases cmd with
  | no => exact absurd rfl hcmd.1
  | movPreset => exact absurd rfl hmov
  | _ => exact ⟨_, rfl⟩

theorem sumBytes_getCmdParityBit (p : PTZCMDType) : p.getCmdParityBit.sumBytes = p.sumBytes := by
  have hw := (Written.refl p).getCmdParityBit
  rw [hw.sumBytes, (Written.refl p).sumBytes]

theorem checksum_addPtzCmd_iff (p : PTZCMDType) {cmd : GB28181PtzCmd} (hcmd : cmd.HasReader)
    (hmov : cmd ≠ .movPreset) {n : Nat} (hn : n < 256) (hne : n ≠ 16) :
    (p.addPtzCmd cmd n).byte 14 15 = (p.addPtzCmd cmd n).sumBytes % 256 ↔
      p.newSum n cmd % 256 ≠ 16 := by
  have hsum : (p.addPtzCmd cmd n).sumBytes = p.newSum n cmd := by
    have hw := p.written_addPtzCmd hcmd hn
    rw [(written_eq_iff n).mpr hne] at hw
    exact hw.sumBytes
  obtain ⟨p', hp'⟩ := p.addPtzCmd_eq_getCmdParityBit hcmd hmov n
  rw [← hsum, hp', byte_getCmdParityBit, sumBytes_getCmdParityBit]
  exact written_eq_iff _

/-! ### Runs of commands -/

theorem tenIntToChar_mem {n : Nat} (hn : n ≤ 16) : tenIntToChar n ∈ hexChars := by
  have hall : ∀ n ≤ 16, tenIntToChar (n : Nat) ∈ hexChars := by decide
  exact hall n hn

theorem IsHex.put {p : PTZCMDType} (hp : p.IsHex) (i : Fin 20) {c : Char} (hc : c ∈ hexChars) :
    (p.put i c).IsHex := by
  intro j hj
  have hget : (p.put i c).mptzcmd[j] = if i.val = j.val then c else p.mptzcmd[j] :=
    Vector.getElem_set i.isLt j.isLt
  rw [hget]
  split
  · exact hc
  · exact hp j hj

theorem IsHex.tenIntToChar2 {p : PTZCMDType} (hp : p.IsHex) {n : Nat} (hn : n < 256)
    (i j : Fin 20) : (p.tenIntToChar2 n i j).IsHex := by
  unfold PTZCMDType.tenIntToChar2
  split
  · have hhigh : ((n : Int).tdiv 16) = (n / 16 : Nat) := rfl
    have hlow : ((n : Int).tmod 16) = (n % 16 : Nat) := rfl
    rw [hhigh, hlow]
    exact (hp.put i (tenIntToChar_mem (by omega))).put j (tenIntToChar_mem (by omega))
  · exact (hp.put i (by decide)).put j (tenIntToChar_mem (by omega))

theorem IsHex.getCmdParityBit {p : PTZCMDType} (hp : p.IsHex) : p.getCmdParityBit.IsHex :=
  hp.tenIntToChar2 (Nat.mod_lt _ (by decide)) 14 15

theorem IsHex.putBits {p : PTZCMDType} (hp : p.IsHex) {class_ bits : Nat} (hclass : class_ < 16)
    (hbits : bits < 16) : (p.putBits class_ bits).IsHex :=
  (hp.put 6 (tenIntToChar_mem (Nat.le_of_lt hclass))).put 7 (tenIntToChar_mem (Nat.le_of_lt hbits))

theorem IsHex.addPtzCmd {p : PTZCMDType} (hp : p.IsHex) {cmd : GB28181PtzCmd}
    (hcmd : cmd.HasReader) {n : Nat} (hn : n < 256) : (p.addPtzCmd cmd n).IsHex := by
  have hor : ∀ {b : Nat}, b < 16 → p.digit 7 ||| b < 16 := or_lt_sixteen (p.digit_lt 7)
  have hand : p.digit 7 &&& 3 ≤ 16 := Nat.le_trans Nat.and_le_right (by decide)
  cases cmd with
  | no => exact absurd rfl hcmd.1
  | stop => exact absurd rfl hcmd.2.1
  | delPreset => exact absurd rfl hcmd.2.2
  | down | left | right =>
      exact ((hp.putBits (by decide) (hor (by decide))).tenIntToChar2 hn _ _).getCmdParityBit
  | upLeft | upRight | downLeft | downRight =>
      exact (((hp.putBits (by decide) (by decide)).tenIntToChar2 hn _ _).tenIntToChar2 hn _
        _).getCmdParityBit
  | zoomIn | zoomOut => exact ((hp.put 6 (by decide)).tenIntToChar2 hn _ _).getCmdParityBit
  | movPreset => exact (hp.put 7 (tenIntToChar_mem hand)).tenIntToChar2 hn _ _
  | _ => exact ((hp.putBits (by decide) (by decide)).tenIntToChar2 hn _ _).getCmdParityBit

/-- A call of `AddPtzCmd` with a command that can be read back. -/
structure PtzCall where
  cmd : GB28181PtzCmd
  arg : Nat
  reader : cmd.HasReader
  small : arg < 256

/-- Calls on a command string that is new. -/
def run (calls : List PtzCall) : PTZCMDType :=
  calls.foldl (fun p c => p.addPtzCmd c.cmd c.arg) new

/-- What holds of every string that is reached. -/
structure Reached (p : PTZCMDType) : Prop where
  hex : p.IsHex
  preset : p.PresetBits
  head : p.byte 0 1 + p.byte 2 3 + p.byte 4 5 = 0xA5 + 0x0F + 0x01

theorem reached_new : Reached new where
  hex := by decide
  preset := by
    unfold PresetBits
    decide
  head := by decide

theorem Reached.addPtzCmd {p : PTZCMDType} (hp : p.Reached) (c : PtzCall) :
    (p.addPtzCmd c.cmd c.arg).Reached := by
  obtain ⟨cmd, n, hcmd, hn⟩ := c
  have hw := p.written_addPtzCmd hcmd hn
  refine ⟨hp.hex.addPtzCmd hcmd hn, ?_, ?_⟩
  · rw [PresetBits, hw.digit6, hw.digit7]
    cases cmd with
    | movPreset =>
        simp only [classDigit, bitsDigit, Nat.testBit_and, Bool.and_eq_true]
        exact fun hclass hboth => hp.preset hclass ⟨hboth.1.1, hboth.2.1⟩
    | _ => simp +decide [classDigit, bitsDigit]
  · rw [hw.byte0, hw.byte1, hw.byte2]
    exact hp.head

theorem reached_run (calls : List PtzCall) : (run calls).Reached := by
  have hfrom : ∀ p : PTZCMDType, p.Reached →
      (calls.foldl (fun p c => p.addPtzCmd c.cmd c.arg) p).Reached := by
    induction calls with
    | nil => exact fun p hp => hp
    | cons c calls ih => exact fun p hp => ih _ (hp.addPtzCmd c)
  exact hfrom new reached_new

/-- The string has sixteen hex digits, is read back as the command, and ends with the sum
of its first seven bytes. -/
structure Survives (p : PTZCMDType) (cmd : GB28181PtzCmd) (n : Nat) : Prop where
  hex : p.IsHex
  decodes : p.Decodes cmd n
  checksum : p.byte 14 15 = p.sumBytes % 256

/-- The sum of the first seven bytes that the command is to have, from the digits before. -/
def checksumFor (p : PTZCMDType) (cmd : GB28181PtzCmd) (n : Nat) : Nat :=
  0xA5 + 0x0F + 0x01 + (p.classDigit cmd * 16 + p.bitsDigit cmd) + p.newArgs n cmd 0 +
    p.newArgs n cmd 1 + p.newArgs n cmd 2

/-- The last command survives exactly if neither its argument nor the checksum is sixteen,
the digits before leave it its bits, and it is none of the three commands that are
written in another way than they are read. -/
theorem survives_run_iff (calls : List PtzCall) (last : PtzCall) :
    (run (calls ++ [last])).Survives last.cmd last.arg ↔
      last.arg ≠ 16 ∧ (run calls).BitsFree last.cmd ∧
        (run calls).checksumFor last.cmd last.arg % 256 ≠ 16 := by
  have hp := reached_run calls
  have hlast : run (calls ++ [last]) = (run calls).addPtzCmd last.cmd last.arg := by
    rw [run, List.foldl_append]
    rfl
  have hsum : (run calls).newSum last.arg last.cmd =
      (run calls).checksumFor last.cmd last.arg := by
    rw [newSum, hp.head, checksumFor]
  have hdecodes := decodes_addPtzCmd_iff hp.preset last.reader last.small
  rw [hlast, ← hsum]
  constructor
  · intro h
    obtain ⟨hne, hfree⟩ := hdecodes.mp h.decodes
    have hmov : last.cmd ≠ .movPreset := by
      intro heq
      rw [heq] at hfree
      exact hfree
    exact ⟨hne, hfree,
      (checksum_addPtzCmd_iff _ last.reader hmov last.small hne).mp h.checksum⟩
  · rintro ⟨hne, hfree, hcheck⟩
    have hmov : last.cmd ≠ .movPreset := by
      intro heq
      rw [heq] at hfree
      exact hfree
    exact ⟨hp.hex.addPtzCmd last.reader last.small, hdecodes.mpr ⟨hne, hfree⟩,
      (checksum_addPtzCmd_iff _ last.reader hmov last.small hne).mpr hcheck⟩

/-- Speed sixteen upwards is written as zero. -/
theorem speed_sixteen_lost :
    (run [⟨.up, 16, by decide, by decide⟩]).getPTZUDLREx = (.up, 0, 0) ∧
      ¬ ∀ (calls : List PtzCall) (last : PtzCall),
        (run (calls ++ [last])).Survives last.cmd last.arg := by
  have hread : (run [⟨.up, 16, by decide, by decide⟩]).getPTZUDLREx = (.up, 0, 0) := by
    decide +kernel
  refine ⟨hread, fun h => ?_⟩
  have hdecodes := (h [] ⟨.up, 16, by decide, by decide⟩).decodes
  rw [List.nil_append] at hdecodes
  have heq : (run [⟨.up, 16, by decide, by decide⟩]).getPTZUDLREx = (.up, 0, 16) := hdecodes
  rw [hread] at heq
  cases heq

end PTZCMDType

end SignalingServer
