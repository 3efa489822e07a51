import SignalingServer.MsgContentAnswers
import SignalingServer.UserAgent.PtzEncoding
import SignalingServer.UserAgent.UaMessageMgr

/-!
A PTZ command on its whole way: written by `AddPtzCmd` into a command string, sent as the text of
`CreatelPTZControCmd`, analysed by the receiver, read from the string again by
`PtzControlResponseTask` and handed to the SDK of the NVR.
-/

namespace SignalingServer

open Tinyxml2 XmlMsgAnalysis MsgContentXml
open scoped Scanning

namespace PTZCMDType

/-- Calls of `AddPtzCmd` with any commands and arguments, on a command string that is new. -/
def addAll (calls : List (GB28181PtzCmd × Int)) : PTZCMDType :=
  calls.foldl (fun p c => p.addPtzCmd c.1 c.2) new

/-- `mptzcmd` where a `const char*` is asked for. -/
def text (p : PTZCMDType) : String := String.ofList (SqlText.cText p.mptzcmd.toList)

/-! ### The characters of a command -/

/-- There is a hex digit at this place. -/
def HexAt (p : PTZCMDType) (i : Fin 20) : Prop := p.mptzcmd.get i ∈ hexChars

theorem get_put (p : PTZCMDType) (i j : Fin 20) (c : Char) :
    (p.put i c).mptzcmd.get j = if i.val = j.val then c else p.mptzcmd.get j :=
  Vector.getElem_set i.isLt j.isLt

theorem HexAt.put {p : PTZCMDType} {j : Fin 20} (h : p.HexAt j) (i : Fin 20) {c : Char}
    (hc : c ∈ hexChars) : (p.put i c).HexAt j := by
  rw [HexAt, get_put]
  split
  · exact hc
  · exact h

theorem hexAt_put (p : PTZCMDType) (i : Fin 20) {c : Char} (hc : c ∈ hexChars) :
    (p.put i c).HexAt i := by
  rw [HexAt, get_put, if_pos rfl]
  exact hc

/-- The two characters of a byte are hex digits. -/
theorem exists_tenIntToChar2 (p : PTZCMDType) {n : Nat} (hn : n < 256) (i j : Fin 20) :
    ∃ high ∈ hexChars, ∃ low ∈ hexChars, p.tenIntToChar2 n i j = (p.put i high).put j low := by
  unfold PTZCMDType.tenIntToChar2
  split
  · have hhigh : ((n : Int).tdiv 16) = (n / 16 : Nat) := rfl
    have hlow : ((n : Int).tmod 16) = (n % 16 : Nat) := rfl
    rw [hhigh, hlow]
    exact ⟨_, tenIntToChar_mem (by omega), _, tenIntToChar_mem (by omega), rfl⟩
  · exact ⟨_, by decide, _, tenIntToChar_mem (by omega), rfl⟩

theorem HexAt.tenIntToChar2 {p : PTZCMDType} {k : Fin 20} {n : Nat} (hn : n < 256)
    {i j : Fin 20} (h : p.HexAt k ∨ k = i ∨ k = j) : (p.tenIntToChar2 n i j).HexAt k := by
  obtain ⟨high, hhigh, low, hlow, heq⟩ := p.exists_tenIntToChar2 hn i j
  rw [heq]
  rcases h with h | rfl | rfl
  · exact (h.put i hhigh).put j hlow
  · exact (p.hexAt_put k hhigh).put j hlow
  · exact hexAt_put _ k hlow

theorem HexAt.getCmdParityBit {p : PTZCMDType} {k : Fin 20} (h : p.HexAt k) :
    p.getCmdParityBit.HexAt k :=
  HexAt.tenIntToChar2 (Nat.mod_lt _ (by decide)) (.inl h)

theorem HexAt.putBits {p : PTZCMDType} {k : Fin 20} (h : p.HexAt k) {class_ bits : Nat}
    (hclass : class_ < 16) (hbits : bits < 16) : (p.putBits class_ bits).HexAt k :=
  (h.put 6 (tenIntToChar_mem (Nat.le_of_lt hclass))).put 7 (tenIntToChar_mem (Nat.le_of_lt hbits))

/-- The sixteen characters are hex digits, but for those that an argument which does not fit into
a byte has made zero; behind them there are only zeros. -/
structure Digits (p : PTZCMDType) : Prop where
  digits : ∀ i : Fin 20, i.val < 16 → p.HexAt i ∨ (i = 8 ∨ i = 10 ∨ i = 12) ∧
    p.mptzcmd.get i = SqlText.nul
  terminated : ∀ i : Fin 20, 16 ≤ i.val → p.mptzcmd.get i = SqlText.nul

/-- In the first twelve places only the first digits of pan and tilt can be zero. -/
theorem Digits.hexAt {p : PTZCMDType} (hp : p.Digits) {i : Fin 20} (hi : i.val < 12)
    (hpan : i = 8 → p.mptzcmd.get 8 ≠ SqlText.nul) (htilt : i ≠ 10) : p.HexAt i := by
  refine (hp.digits i (by omega)).resolve_right ?_
  rintro ⟨rfl | heq | rfl, hnul⟩
  · exact hpan rfl hnul
  · exact htilt heq
  · exact absurd hi (by decide)

theorem Digits.put {p : PTZCMDType} (hp : p.Digits) {i : Fin 20} (hi : i.val < 16) {c : Char}
    (hc : c ∈ hexChars ∨ (i = 8 ∨ i = 10 ∨ i = 12) ∧ c = SqlText.nul) : (p.put i c).Digits := by
  constructor
  · intro j hj
    unfold HexAt
    rw [get_put]
    split
    · rename_i heq
      obtain rfl := Fin.ext heq
      exact hc
    · exact hp.digits j hj
  · intro j hj
    rw [get_put, if_neg (by omega)]
    exact hp.terminated j hj

theorem tenIntToChar_of_le {ii : Int} (h : ii ≤ 16) : tenIntToChar ii ∈ hexChars := by
  unfold tenIntToChar
  rw [if_neg (Int.not_lt.mpr h)]
  split <;> decide

/-- Any argument leaves hex digits, or a zero in front. -/
theorem Digits.tenIntToChar2 {p : PTZCMDType} (hp : p.Digits) (ii : Int) {i j : Fin 20}
    (hi : i = 8 ∨ i = 10 ∨ i = 12) (hj : j.val < 16) : (p.tenIntToChar2 ii i j).Digits := by
  have hlt : i.val < 16 := by rcases hi with rfl | rfl | rfl <;> decide
  unfold PTZCMDType.tenIntToChar2
  split
  · have hhigh : tenIntToChar (ii.tdiv 16) ∈ hexChars ∨
        (i = 8 ∨ i = 10 ∨ i = 12) ∧ tenIntToChar (ii.tdiv 16) = SqlText.nul := by
      rcases Int.lt_or_le 16 (ii.tdiv 16) with hover | hle
      · refine .inr ⟨hi, ?_⟩
        unfold tenIntToChar
        exact if_pos hover
      · exact .inl (tenIntToChar_of_le hle)
    have hlow : tenIntToChar (ii.tmod 16) ∈ hexChars :=
      tenIntToChar_of_le (Int.le_of_lt (Int.tmod_lt_of_pos ii (by decide)))
    exact (hp.put hlt hhigh).put hj (.inl hlow)
  · rename_i hle
    exact (hp.put hlt (.inl (by decide))).put hj (.inl (tenIntToChar_of_le (Int.not_lt.mp hle)))

theorem Digits.getCmdParityBit {p : PTZCMDType} (hp : p.Digits) : p.getCmdParityBit.Digits := by
  obtain ⟨high, hhigh, low, hlow, heq⟩ :=
    p.exists_tenIntToChar2 (Nat.mod_lt p.sumBytes (by decide : 0 < 256)) 14 15
  rw [PTZCMDType.getCmdParityBit, heq]
  exact (hp.put (by decide) (.inl hhigh)).put (by decide) (.inl hlow)

theorem Digits.putBits {p : PTZCMDType} (hp : p.Digits) {class_ bits : Nat}
    (hclass : class_ < 16) (hbits : bits < 16) : (p.putBits class_ bits).Digits :=
  (hp.put (by decide) (.inl (tenIntToChar_mem (Nat.le_of_lt hclass)))).put (by decide)
    (.inl (tenIntToChar_mem (Nat.le_of_lt hbits)))

theorem Digits.addPtzCmd {p : PTZCMDType} (hp : p.Digits) (cmd : GB28181PtzCmd) (n : Int) :
    (p.addPtzCmd cmd n).Digits := by
  have hor : ∀ {b : Nat}, b < 16 → p.digit 7 ||| b < 16 := or_lt_sixteen (p.digit_lt 7)
  have hand : p.digit 7 &&& 3 ≤ 16 := Nat.le_trans Nat.and_le_right (by decide)
  cases cmd with
  | no => exact hp
  | stop =>
      have hfold : ∀ (l : List (Fin 20)), (∀ i ∈ l, i.val < 16) → ∀ q : PTZCMDType, q.Digits →
          (l.foldl (fun q i => q.put i '0') q).Digits := by
        intro l
        induction l with
        | nil => exact fun _ q hq => hq
        | cons i l ih =>
            intro hl q hq
            rw [List.forall_mem_cons] at hl
            exact ih hl.2 _ (hq.put hl.1 (.inl (by decide)))
      exact (hfold _ (by decide) p hp).getCmdParityBit
  | down | left | right =>
      exact ((hp.putBits (by decide) (hor (by decide))).tenIntToChar2 n (by decide)
        (by decide)).getCmdParityBit
  | upLeft | upRight | downLeft | downRight =>
      exact (((hp.putBits (by decide) (by decide)).tenIntToChar2 n (by decide)
        (by decide)).tenIntToChar2 n (by decide) (by decide)).getCmdParityBit
  | zoomIn | zoomOut =>
      exact ((hp.put (by decide) (.inl (by decide))).tenIntToChar2 n (by decide)
        (by decide)).getCmdParityBit
  | movPreset =>
      exact (hp.put (by decide) (.inl (tenIntToChar_mem hand))).tenIntToChar2 n (by decide)
        (by decide)
  | _ =>
      exact ((hp.putBits (by decide) (by decide)).tenIntToChar2 n (by decide)
        (by decide)).getCmdParityBit

theorem digits_addAll (calls : List (GB28181PtzCmd × Int)) : (addAll calls).Digits := by
  have hfrom : ∀ p : PTZCMDType, p.Digits →
      (calls.foldl (fun p c => p.addPtzCmd c.1 c.2) p).Digits := by
    induction calls with
    | nil => exact fun p hp => hp
    | cons c calls ih => exact fun p hp => ih _ (hp.addPtzCmd c.1 c.2)
  refine hfrom new ⟨fun i hi => .inl ?_, fun i hi => ?_⟩
  · exact reached_new.hex i hi
  · show new.mptzcmd[i] = SqlText.nul
    rw [new, ofString, Fin.getElem_fin, Vector.getElem_ofFn, if_neg (Nat.not_lt.mpr hi)]
    rfl

theorem hexChars_plain : ∀ c ∈ hexChars, c ≠ SqlText.nul ∧ c ≠ cr ∧ isWhiteSpace c = false := by
  decide

/-! ### The command as a text -/

theorem toList_text (p : PTZCMDType) : p.text.toList = SqlText.cText p.mptzcmd.toList :=
  String.toList_ofList

/-- The text of a command has no other characters than hex digits, and is not empty. -/
theorem receivedText_text {p : PTZCMDType} (hp : p.Digits) : receivedText p.text = some p.text := by
  have hmem : ∀ c ∈ p.text.toList, c ∈ hexChars := by
    rw [toList_text]
    intro c hc
    have hne : c ≠ SqlText.nul :=
      of_decide_eq_true (List.mem_takeWhile_imp (p := fun c => decide (c ≠ SqlText.nul)) hc)
    obtain ⟨i, hi, rfl⟩ := List.getElem_of_mem ((List.takeWhile_sublist _).subset hc)
    rw [Vector.length_toList] at hi
    rw [Vector.getElem_toList] at hne ⊢
    rcases Nat.lt_or_ge i 16 with hlt | hge
    · exact (hp.digits ⟨i, hi⟩ hlt).resolve_right fun hnul => hne hnul.2
    · exact absurd (hp.terminated ⟨i, hi⟩ hge) hne
  have hfirst : p.mptzcmd.toList = p.mptzcmd[0] :: p.mptzcmd.toList.tail := by
    have hcons := List.cons_getElem_drop_succ (l := p.mptzcmd.toList) (n := 0) (h := by simp)
    rw [Vector.getElem_toList, List.drop_zero] at hcons
    rw [← hcons]
    rfl
  have hhead : p.HexAt 0 := hp.hexAt (by decide) (fun h => absurd h (by decide)) (by decide)
  refine receivedText_eq_self (fun h => ?_) (fun h => ?_) fun hblank => ?_
  · exact (hexChars_plain _ (hmem _ h)).1 rfl
  · exact (hexChars_plain _ (hmem _ h)).2.1 rfl
  · have hin : p.mptzcmd[0] ∈ p.text.toList := by
      have hcons : SqlText.cText p.mptzcmd.toList =
          p.mptzcmd[0] :: SqlText.cText p.mptzcmd.toList.tail := by
        conv => lhs; rw [hfirst]
        exact List.takeWhile_cons_of_pos (p := fun c => decide (c ≠ SqlText.nul))
          (decide_eq_true (hexChars_plain _ hhead).1)
      rw [toList_text, hcons]
      exact List.mem_cons_self
    exact absurd ((hexChars_plain _ hhead).2.2.symm.trans (hblank _ hin)) (by decide)

/-- In front of the first zero the string that is made of the text is the one that was written. -/
theorem digit_ofString_text {p : PTZCMDType} {k : Fin 20} (hk : k.val < 16)
    (h : ∀ i ≤ k, p.HexAt i) : (ofString p.text).digit k = p.digit k := by
  have htwice : (p.text.toList.takeWhile (· ≠ Char.ofNat 0)) = SqlText.cText p.mptzcmd.toList := by
    rw [toList_text, List.takeWhile_eq_self_iff]
    exact fun c hc => List.mem_takeWhile_imp (p := fun c => decide (c ≠ SqlText.nul)) hc
  have hprefix : (SqlText.cText p.mptzcmd.toList)[k.val]? = p.mptzcmd.toList[k.val]? := by
    have hsplit := List.take_append_drop (k.val + 1) p.mptzcmd.toList
    have hplain : ∀ c ∈ p.mptzcmd.toList.take (k.val + 1), decide (c ≠ SqlText.nul) = true := by
      intro c hc
      obtain ⟨i, hi, rfl⟩ := List.getElem_of_mem hc
      rw [List.length_take, Vector.length_toList] at hi
      rw [List.getElem_take, Vector.getElem_toList]
      exact decide_eq_true
        (hexChars_plain _ (h ⟨i, by omega⟩ (Fin.le_def.mpr (by show i ≤ k.val; omega)))).1
    have hlt : k.val < (p.mptzcmd.toList.take (k.val + 1)).length := by
      rw [List.length_take, Vector.length_toList]
      omega
    rw [← hsplit, SqlText.cText, List.takeWhile_append_of_pos hplain,
      List.getElem?_append_left hlt, List.getElem?_append_left hlt]
  have hget : (ofString p.text).mptzcmd[k] = p.mptzcmd[k] := by
    rw [ofString, Fin.getElem_fin, Vector.getElem_ofFn, if_pos hk, htwice, hprefix,
      List.getElem?_eq_getElem (by simp), Option.getD_some, Vector.getElem_toList]
    rfl
  rw [digit, digit, hget]

/-! ### A movement is read back -/

/-- The eight movements. -/
def IsMove (cmd : GB28181PtzCmd) : Prop :=
  cmd ∈ [GB28181PtzCmd.up, .down, .left, .right, .upLeft, .upRight, .downLeft, .downRight]

instance (cmd : GB28181PtzCmd) : Decidable (IsMove cmd) := inferInstanceAs (Decidable (_ ∈ _))

/-- The last of the digits that the reader of movements needs. -/
def lastDigit : GB28181PtzCmd → Fin 20
  | .left | .right => 9
  | _ => 11

/-- An upwards or downwards movement leaves the digits for pan as they are: the text must not end
there. -/
def Whole (p : PTZCMDType) : GB28181PtzCmd → Prop
  | .up | .down => p.mptzcmd[8] ≠ SqlText.nul
  | _ => True

theorem lastDigit_lt (cmd : GB28181PtzCmd) : (lastDigit cmd).val < 12 := by
  cases cmd <;> decide

/-- Up to the last digit that is needed, a movement leaves hex digits. -/
theorem hexAt_move {p : PTZCMDType} (hp : p.Digits) {cmd : GB28181PtzCmd} (hmove : IsMove cmd)
    {n : Nat} (hn : n < 256) (hwhole : p.Whole cmd) {i : Fin 20} (hi : i ≤ lastDigit cmd) :
    (p.addPtzCmd cmd n).HexAt i := by
  have hlt : i.val < 12 := Nat.lt_of_le_of_lt hi (lastDigit_lt cmd)
  have hor : ∀ {b : Nat}, b < 16 → p.digit 7 ||| b < 16 := or_lt_sixteen (p.digit_lt 7)
  cases cmd with
  | up | down =>
      refine (HexAt.tenIntToChar2 hn ?_).getCmdParityBit
      rcases eq_or_ne i 10 with htilt | htilt
      · exact .inr (.inl htilt)
      · exact .inl ((hp.hexAt hlt (fun _ => hwhole) htilt).putBits (by decide)
          (by first | decide | exact hor (by decide)))
  | left | right =>
      have htilt : i ≠ 10 := fun heq => absurd hi (heq ▸ (by decide : ¬ (10 : Fin 20) ≤ 9))
      refine (HexAt.tenIntToChar2 hn ?_).getCmdParityBit
      rcases eq_or_ne i 8 with hpan | hpan
      · exact .inr (.inl hpan)
      · exact .inl ((hp.hexAt hlt (fun heq => absurd heq hpan) htilt).putBits (by decide)
          (hor (by decide)))
  | upLeft | upRight | downLeft | downRight =>
      refine (HexAt.tenIntToChar2 hn ?_).getCmdParityBit
      rcases eq_or_ne i 10 with htilt | htilt
      · exact .inr (.inl htilt)
      · refine .inl (HexAt.tenIntToChar2 hn ?_)
        rcases eq_or_ne i 8 with hpan | hpan
        · exact .inr (.inl hpan)
        · exact .inl ((hp.hexAt hlt (fun heq => absurd heq hpan) htilt).putBits (by decide)
            (by decide))
  | _ => exact absurd hmove (by decide)

/-- The receiver's string has the digits that the movement was written with, as far as they are
needed. -/
theorem written_ofString_text {p : PTZCMDType} (hp : p.Digits) {cmd : GB28181PtzCmd}
    (hmove : IsMove cmd) {n : Nat} (hn : n < 256) (hwhole : p.Whole cmd) :
    let q := ofString (p.addPtzCmd cmd n).text
    p.Written q (p.classDigit cmd) (p.bitsDigit cmd) q.arg ∧
      q.arg 0 = p.newArgs (written n) cmd 0 ∧
      (lastDigit cmd = 11 → q.arg 1 = p.newArgs (written n) cmd 1) := by
  intro q
  have hreader : cmd.HasReader := by cases cmd <;> first | decide | exact absurd hmove (by decide)
  have hw := p.written_addPtzCmd hreader hn
  have hdigit : ∀ i ≤ lastDigit cmd, q.digit i = (p.addPtzCmd cmd n).digit i := fun i hi =>
    digit_ofString_text (by have := lastDigit_lt cmd; have : i.val ≤ _ := hi; omega)
      fun j hj => hexAt_move hp hmove hn hwhole (Fin.le_trans hj hi)
  have hbyte : ∀ {i j : Fin 20}, i ≤ lastDigit cmd → j ≤ lastDigit cmd →
      q.byte i j = (p.addPtzCmd cmd n).byte i j := by
    intro i j hi hj
    rw [byte, byte, hdigit i hi, hdigit j hj]
  have hnine : (9 : Fin 20) ≤ lastDigit cmd := by cases cmd <;> decide
  have hle : ∀ {i : Fin 20}, i ≤ 9 → i ≤ lastDigit cmd := fun hi => Fin.le_trans hi hnine
  refine ⟨⟨?_, ?_, ?_, ?_, ?_, fun _ => rfl⟩, ?_, fun hlast => ?_⟩
  · exact (hbyte (hle (by decide)) (hle (by decide))).trans hw.byte0
  · exact (hbyte (hle (by decide)) (hle (by decide))).trans hw.byte1
  · exact (hbyte (hle (by decide)) (hle (by decide))).trans hw.byte2
  · exact (hdigit 6 (hle (by decide))).trans hw.digit6
  · exact (hdigit 7 (hle (by decide))).trans hw.digit7
  · exact (hbyte (hle (by decide)) (hle (by decide))).trans (hw.args 0)
  · exact (hbyte (hlast ▸ by decide) (hlast ▸ by decide)).trans (hw.args 1)

/-- A movement is read back from the text. -/
theorem decodes_ofString_text {p : PTZCMDType} (hp : p.Digits) {cmd : GB28181PtzCmd}
    (hmove : IsMove cmd) {n : Nat} (hn : n < 256) (hsixteen : n ≠ 16) (hfree : p.BitsFree cmd)
    (hwhole : p.Whole cmd) : (ofString (p.addPtzCmd cmd n).text).Decodes cmd n := by
  obtain ⟨hw, hpan, htilt⟩ := written_ofString_text hp hmove hn hwhole
  rw [(written_eq_iff n).mpr hsixteen] at hpan htilt
  cases cmd with
  | up =>
      have htilt := htilt rfl
      simp +decide [Decodes, getPTZUDLREx, hw.leftRight, hw.upDown, bitsDigit, newArgs, htilt]
  | down =>
      have htilt := htilt rfl
      obtain ⟨h0, h1⟩ := hfree
      simp +decide [Decodes, getPTZUDLREx, hw.leftRight, hw.upDown, bitsDigit, newArgs, htilt, h0,
        h1, -Nat.testBit_zero]
  | left =>
      obtain ⟨h0, h2, h3⟩ := hfree
      simp +decide [Decodes, getPTZUDLREx, hw.leftRight, hw.upDown, bitsDigit, newArgs, hpan, h0,
        h2, h3, -Nat.testBit_zero]
  | right =>
      obtain ⟨h2, h3⟩ := hfree
      simp +decide [Decodes, getPTZUDLREx, hw.leftRight, hw.upDown, bitsDigit, newArgs, hpan, h2,
        h3, -Nat.testBit_zero]
  | upLeft | upRight | downLeft | downRight =>
      have htilt := htilt rfl
      simp +decide [Decodes, getPTZUDLREx, hw.leftRight, hw.upDown, bitsDigit, newArgs, hpan, htilt]
  | _ => exact absurd hmove (by decide)

theorem movement_of_decodes {p : PTZCMDType} {cmd : GB28181PtzCmd} {n : Nat} (hmove : IsMove cmd)
    (h : p.Decodes cmd n) :
    p.movement = PTZControlCommand.switchFromGB28181 cmd ∧ p.movement ≠ .unknown ∧
      p.speed = n * (100 / 8) := by
  cases cmd with
  | up | down =>
      have hread : p.getPTZUDLREx = (_, 0, n) := h
      rw [movement, speed, hread]
      exact ⟨rfl, PTZControlCommand.noConfusion, rfl⟩
  | left | right =>
      have hread : p.getPTZUDLREx = (_, n, 0) := h
      have hzero : (if n > 0 then n else 0) = n := by
        split
        · rfl
        · omega
      rw [movement, speed, hread]
      exact ⟨rfl, PTZControlCommand.noConfusion, congrArg (· * (100 / 8)) hzero⟩
  | upLeft | upRight | downLeft | downRight =>
      have hread : p.getPTZUDLREx = (_, n, n) := h
      rw [movement, speed, hread]
      exact ⟨rfl, PTZControlCommand.noConfusion, by rw [ite_self]⟩
  | _ => exact absurd hmove (by decide)

end PTZCMDType

/-- A PTZ command is accepted, and handed to the task that sends it on. -/
theorem MsgContentXml.onMessageArrived_ptz {scanHex : String → Option UInt32}
    {deviceId ptzCmd id value : String} (hid : receivedText deviceId = some id)
    (hvalue : receivedText ptzCmd = some value) (controlPriority : Int32) (sn : UInt32) :
    onMessageArrived (reader scanHex)
        (some (content (createlPTZControCmd deviceId ptzCmd controlPriority sn))) =
      some (200, .submit (.ptzControlResponseTask id value controlPriority.toInt)) := by
  rw [createlPTZControCmd, onMessageArrived_content (by decide)
    (fits_ptzControl deviceId ptzCmd controlPriority sn), ← createlPTZControCmd,
    analyze_createlPTZControCmd, hid, hvalue]
  rfl

/-! ### The call of the SDK -/

/-- A call of `PTZCtrl`. -/
def SdkCall.IsPtz : SdkCall → Bool
  | .ptzCtrl _ _ _ _ => true
  | _ => false

namespace NvrSession

/-- An operation in a session that is open, or is opened for it, makes its one PTZ call. -/
theorem devPTZCtrl_calls {s : NvrSession} {env : Sdk}
    (hlogin : (s.opened env).1.nvr.mLoginId > 0) (channelId : Int) (ptzCommand argument : UInt32) :
    ∃ made, (s.devPTZCtrl env channelId ptzCommand argument).session.sdk.log = s.sdk.log ++ made ∧
      (made.map Prod.fst).filter SdkCall.IsPtz =
        [.ptzCtrl (s.opened env).1.nvr.mLoginId (UInt32.ofInt channelId) ptzCommand argument] := by
  have hframe : Frame fun c => c.IsPtz = false := ⟨rfl, fun _ _ _ _ => rfl, fun _ => rfl⟩
  obtain ⟨made, hopened, hquiet⟩ := callsOnly_opened hframe s env
  have hnone : (made.map Prod.fst).filter SdkCall.IsPtz = [] := by
    rw [List.filter_eq_nil_iff, List.forall_mem_map]
    exact fun e he => Bool.eq_false_iff.mp (hquiet e he)
  rw [devPTZCtrl, logInOp, operate, if_pos hlogin]
  dsimp only
  split
  -- the log-out behind a session that has expired
  all_goals
    simp only [setLoginId, call, JsonSdkInterface.call_log, hopened, List.append_assoc]
    refine ⟨_, rfl, ?_⟩
    rw [List.map_append, List.filter_append, hnone]
    rfl

end NvrSession

namespace ServerState

open PTZCMDType

/-- A movement that is the last command of a string, with a speed other than sixteen, is accepted
from its message, and the NVR gets one PTZ call: for the same movement, with the speed scaled, on
the channel of the camera that was named. The commands before it must leave it its bits, and
their arguments must not have ended the string in front of its digits. -/
theorem movement_reaches_sdk (scanHex : String → Option UInt32) (w : ServerState) (env : Env)
    (calls : List (GB28181PtzCmd × Int)) {cmd : GB28181PtzCmd} {speed : Nat} (hmove : IsMove cmd)
    (hspeed : speed < 256) (hsixteen : speed ≠ 16) (hfree : (addAll calls).BitsFree cmd)
    (hwhole : (addAll calls).Whole cmd) {deviceId : String} {child : JsonChildDevic}
    (hid : receivedText deviceId = some deviceId) (honline : w.OnlineChild deviceId child)
    {ref : Nat} {nvr : JsonNvrDevic} (hnvr : w.parentNvr child = some (ref, nvr))
    (hlogin : ((w.session nvr).opened env.sdk).1.nvr.mLoginId > 0)
    (controlPriority : Int32) (sn : UInt32) :
    ∃ value w' sent made,
      onMessageArrived (reader scanHex) (some (content (createlPTZControCmd deviceId
        (addAll (calls ++ [(cmd, (speed : Int))])).text controlPriority sn))) =
          some (200, .submit (.ptzControlResponseTask deviceId value controlPriority.toInt)) ∧
        w.ptzControlResponseTask env deviceId (.ofString value) = some (w', sent) ∧
        w'.sdk.log = w.sdk.log ++ made ∧
        (made.map Prod.fst).filter SdkCall.IsPtz =
          [.ptzCtrl ((w.session nvr).opened env.sdk).1.nvr.mLoginId (UInt32.ofInt child.channel)
            (UInt32.ofInt (PTZControlCommand.switchFromGB28181 cmd).code)
            (UInt32.ofNat (speed * (100 / 8)))] := by
  have hdigits := digits_addAll (calls ++ [(cmd, (speed : Int))])
  have hlast : addAll (calls ++ [(cmd, (speed : Int))]) = (addAll calls).addPtzCmd cmd speed := by
    rw [addAll, List.foldl_append]
    rfl
  have hdecodes :=
    decodes_ofString_text (digits_addAll calls) hmove hspeed hsixteen hfree hwhole
  rw [← hlast] at hdecodes
  obtain ⟨hsame, hknown, hscaled⟩ := movement_of_decodes hmove hdecodes
  obtain ⟨made, hlog, hptz⟩ := NvrSession.devPTZCtrl_calls hlogin child.channel
    (UInt32.ofInt (PTZControlCommand.switchFromGB28181 cmd).code)
    (UInt32.ofNat (speed * (100 / 8)))
  have hcamera := @onMessageArrived_ptz scanHex deviceId _ _ _ hid (receivedText_text hdigits)
    controlPriority sn
  rcases w.ptzPlan_cases deviceId (ofString (addAll (calls ++ [(cmd, (speed : Int))])).text) with
    ⟨child', ref', nvr', honline', hparent, hplan⟩ | ⟨hoff, -⟩
  · obtain rfl := Option.some.inj (honline'.1.symm.trans honline.1)
    cases hparent.symm.trans hnvr
    rw [JsonChildDevic.store, if_pos hknown, hsame, hscaled] at hplan
    refine ⟨(addAll (calls ++ [(cmd, (speed : Int))])).text, ?_⟩
    rw [ptzControlResponseTask, hplan]
    exact ⟨_, _, made, hcamera, rfl, hlog, hptz⟩
  · exact absurd honline (hoff child)

/-- The camera of the sample is moved down, after an argument that did not fit and a stop. -/
theorem movement_reaches_sdk_sample :
    ∃ value w' sent made,
      onMessageArrived (reader fun _ => none) (some (content (createlPTZControCmd "7"
        (addAll ([(.delPreset, 3), (.left, 300), (.stop, 0)] ++ [(.down, 40)])).text 5 1))) =
          some (200, .submit (.ptzControlResponseTask "7" value 5)) ∧
        PtzHistory.sample.w.ptzControlResponseTask (sampleEnv workingSdk) "7" (.ofString value) =
          some (w', sent) ∧
        w'.sdk.log = PtzHistory.sample.w.sdk.log ++ made ∧
        (made.map Prod.fst).filter SdkCall.IsPtz = [.ptzCtrl 5 1 2 480] :=
  @movement_reaches_sdk (fun _ => none) PtzHistory.sample.w (sampleEnv workingSdk)
    [(.delPreset, 3), (.left, 300), (.stop, 0)] .down 40 (by decide)
    (by decide) (by decide) ⟨by decide +kernel, by decide +kernel⟩
    (show (addAll _).mptzcmd.get 8 ≠ SqlText.nul by decide +kernel)
    "7" (sampleChild "7" "34020000001320000001" 1) (by decide)
    ⟨by decide, by decide, by decide, by decide⟩ _ _ rfl (by decide) 5 1

end ServerState

end SignalingServer
