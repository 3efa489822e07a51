import SignalingServer.Lib.Collect
import SignalingServer.Lib.Pattern
import SignalingServer.Lib.SqlText
import SignalingServer.Tools.TypeConversion
import SignalingServer.UserAgent.GbAddressing

/-!
The MANSRTSP requests in the INFO messages of a playback (`UaClientCall::onInfo`). The body is
read line by line with regular expressions, of which the first looks for a request line in every
line. What stands in a line is passed to `Dev_PlayBackCtrl` before the next line is read.
-/

namespace SignalingServer

open Pattern
open scoped Scanning

namespace Mansrtsp

/-! ### The regular expressions -/

/-- What `.` stands for. -/
def dot (c : Char) : Bool := c ≠ '\n' ∧ c ≠ '\r'

/-- `(.*) (.*)/(.*)`. -/
def eRtspPlay : List (Piece Char) := [.group, .lit [' '], .group, .lit ['/'], .group]

/-- `Range: npt=(.*)-(.*)`. -/
def eRtspRange : List (Piece Char) := [.lit "Range: npt=".toList, .group, .lit ['-'], .group]

/-- `Scale:(.*)`. -/
def eRtspScale : List (Piece Char) := [.lit "Scale:".toList, .group]

/-- `(.*):(.*)`. -/
def eRtspPause : List (Piece Char) := [.group, .lit [':'], .group]

/-- The lines of the loop, which ends at the first empty one. -/
def bodyLines (bodyData : List Char) : List (List Char) :=
  ((SqlText.cText bodyData).splitOn '\n').takeWhile (· ≠ [])

end Mansrtsp

/-- The command, `param1` and `param2` of `Dev_PlayBackCtrl`. -/
abbrev PlayBackCtrl := Int × Int × Int

namespace ServerState

/-- The calls of `Dev_PlayBackCtrl` for the stream of a call. -/
def infoCalls (w : ServerState) (env : Env) (streamId : String) (calls : List PlayBackCtrl) :
    ServerState :=
  match w.infoTarget streamId with
  | none => w
  | some (stream, child) =>
      match w.parentNvr child with
      | none => w
      | some (ref, nvr) =>
          calls.foldl (fun w c =>
            w.putSession ref ((w.session (w.currentNvr ref nvr)).devPlayBackCtrl env.sdk
              stream.streamHandle c.1 c.2.1 c.2.2).session) w

/-- The stream of a call, and the place of the NVR that its child belongs to. -/
def infoNvr (w : ServerState) (streamId : String) : Option (MediaStream × Nat) :=
  (w.infoTarget streamId).bind fun p => (w.parentNvr p.2).map fun q => (p.1, q.1)

end ServerState

namespace Mansrtsp

/-- What `onInfo` reads of a call. -/
structure InfoCall where
  streamId : String
  startTime : Nat

/-- What the lines change: the devices, `fScale * 1024` as an `int`, and `strCmdType`. -/
structure InfoState where
  world : ServerState
  fScale : Int
  strCmdType : List Char

section OnInfo

-- `speedOf` is the speed that `std::atof` and the multiplication by 1024 make of a text
variable (speedOf : List Char → Int) (env : Env) (call : InfoCall)

/-- The calls for the first group of a `Range` line: `pointTime` is a `uint32_t` that becomes an
`int`. -/
def rangeCalls (fScale : Int) (strSubCmdValue : List Char) : List PlayBackCtrl :=
  if strSubCmdValue = "now".toList then [(0, 0, 0), (2, fScale, 0)]
  else
    let nptValue := atoi (String.ofList strSubCmdValue) % 2 ^ 32
    [(4, ((call.startTime : Int) + nptValue).bmod (2 ^ 32), 0)]

/-- The first regular expression. -/
def InfoState.readCmdType (s : InfoState) (line : List Char) : InfoState :=
  match search dot eRtspPlay line with
  | some (cmdType :: _) => { s with strCmdType := cmdType }
  | _ => s

def InfoState.readRange (s : InfoState) (line : List Char) : InfoState :=
  match search dot eRtspRange line with
  | some (value :: _) =>
      { s with world := s.world.infoCalls env call.streamId (rangeCalls call s.fScale value) }
  | _ => s

/-- `fScale` is only set where the stream, its child and the NVR are there. -/
def InfoState.readScale (s : InfoState) (line : List Char) : InfoState :=
  match search dot eRtspScale line with
  | some [value] =>
      if (s.world.infoNvr call.streamId).isSome then
        { s with
          fScale := speedOf value
          world := s.world.infoCalls env call.streamId [(2, speedOf value, 0)] }
      else s
  | _ => s

def InfoState.readPause (s : InfoState) (line : List Char) : InfoState :=
  match search dot eRtspPause line with
  | some [name, value] =>
      if name = "PauseTime".toList ∧ value = "now".toList then
        { s with world := s.world.infoCalls env call.streamId [(1, 0, 0)] }
      else s
  | _ => s

/-- One round of the loop. -/
def InfoState.readLine (s : InfoState) (line : List Char) : InfoState :=
  let s := s.readCmdType line
  if s.strCmdType = "PLAY".toList then (s.readRange env call line).readScale speedOf env call line
  else s.readPause env call line

/-- `UaClientCall::onInfo`, where a message without a body is `none`. -/
def onInfo (w : ServerState) (fScale : Int) (body : Option (List Char)) : InfoState :=
  ((body.map bodyLines).getD []).foldl (fun s line => s.readLine speedOf env call line)
    ⟨w, fScale, []⟩

/-- The INFO messages of a playback one after another; `fScale` is kept by the call. -/
def onInfos (w : ServerState) (fScale : Int) (bodies : List (Option (List Char))) :
    ServerState × Int :=
  bodies.foldl (fun s body =>
    ((onInfo speedOf env call s.1 s.2 body).world, (onInfo speedOf env call s.1 s.2 body).fScale))
    (w, fScale)

end OnInfo

/-! ### What a request asks for -/

/-- A header of a request. -/
inductive InfoHeader where
  | rangeNow
  | range (seconds : Nat)
  | scale (value : List Char)
  | pauseNow
  | slash (front rest : List Char)
  | other (line : List Char)

/-- A character that neither ends a line nor the body. -/
def InLine (c : Char) : Prop := dot c = true ∧ c ≠ SqlText.nul

instance (c : Char) : Decidable (InLine c) := inferInstanceAs (Decidable (_ ∧ _))

namespace InfoHeader

def text : InfoHeader → List Char
  | .rangeNow => "Range: npt=now-".toList
  | .range seconds => "Range: npt=".toList ++ (Nat.toDigits 10 seconds ++ ['-'])
  | .scale value => "Scale:".toList ++ value
  | .pauseNow => "PauseTime:now".toList
  | .slash front rest => front ++ ' ' :: rest
  | .other line => line

theorem text_range (seconds : Nat) : (InfoHeader.range seconds).text =
    "Range: npt=".toList ++ (Nat.toDigits 10 seconds ++ ['-']) := rfl

theorem text_scale (value : List Char) : (InfoHeader.scale value).text =
    "Scale:".toList ++ value := rfl

theorem text_slash (front rest : List Char) : (InfoHeader.slash front rest).text =
    front ++ ' ' :: rest := rfl

theorem text_other (line : List Char) : (InfoHeader.other line).text = line := rfl

/-- A line that is no `Range` and no `Scale`. -/
def Unplayed (line : List Char) : Prop :=
  (∀ c ∈ line, InLine c) ∧ ¬ "Range: npt=".toList <:+: line ∧ ¬ "Scale:".toList <:+: line

instance (line : List Char) : Decidable (Unplayed line) :=
  inferInstanceAs (Decidable (_ ∧ _ ∧ _))

/-- In the headers of a kind of their own the last blank is in front of a slash; in the others no
slash is behind a blank, and they are none of the four. -/
def Plain : InfoHeader → Prop
  | .rangeNow | .pauseNow => True
  | .range seconds => seconds < 2 ^ 63
  | .scale value => (∀ c ∈ value, InLine c) ∧ '/' ∉ value ∧ 'R' ∉ value
  | .slash front rest => Unplayed (front ++ ' ' :: rest) ∧ ' ' ∉ rest ∧ '/' ∈ rest
  | .other line => Unplayed line ∧ '/' ∉ line.dropWhile (· ≠ ' ') ∧ line ≠ "PauseTime:now".toList

instance : (h : InfoHeader) → Decidable h.Plain
  | .rangeNow | .pauseNow => isTrue trivial
  | .range seconds => inferInstanceAs (Decidable (seconds < 2 ^ 63))
  | .scale _ => inferInstanceAs (Decidable (_ ∧ _ ∧ _))
  | .slash _ _ => inferInstanceAs (Decidable (_ ∧ _ ∧ _))
  | .other _ => inferInstanceAs (Decidable (_ ∧ _ ∧ _))

/-- The command behind a header: a header with a blank and a slash is taken for a request line. -/
def command (cmdType : List Char) : InfoHeader → List Char
  | .slash front _ => front
  | _ => cmdType

/-- The speed after a header and the calls that it asks for, in a request that plays and in one
that does not. -/
def asks (speedOf : List Char → Int) (startTime : Nat) (play : Prop) [Decidable play]
    (speed : Int) : InfoHeader → Int × List PlayBackCtrl
  | .rangeNow => (speed, if play then [(0, 0, 0), (2, speed, 0)] else [])
  | .range seconds =>
      (speed, if play then [(4, ((startTime : Int) + seconds).bmod (2 ^ 32), 0)] else [])
  | .scale value => if play then (speedOf value, [(2, speedOf value, 0)]) else (speed, [])
  | .pauseNow => (speed, if play then [] else [(1, 0, 0)])
  | .slash _ _ | .other _ => (speed, [])

theorem asks_congr {speedOf : List Char → Int} {startTime : Nat} {p q : Prop} [Decidable p]
    [Decidable q] (hpq : p ↔ q) {speed : Int} {h : InfoHeader} :
    h.asks speedOf startTime p speed = h.asks speedOf startTime q speed := by
  cases h with
  | slash front rest | other line => rfl
  | _ => simp only [asks, hpq]

/-- The speed and the command after a header, and the calls that it asks for. -/
def step (speedOf : List Char → Int) (startTime : Nat) (s : Int × List Char) (h : InfoHeader) :
    (Int × List Char) × List PlayBackCtrl :=
  let asked := h.asks speedOf startTime (h.command s.2 = "PLAY".toList) s.1
  ((asked.1, h.command s.2), asked.2)

theorem step_eq (speedOf : List Char → Int) (startTime : Nat) (speed : Int) (cmdType : List Char)
    (h : InfoHeader) : h.step speedOf startTime (speed, cmdType) =
      (((h.asks speedOf startTime (h.command cmdType = "PLAY".toList) speed).1,
          h.command cmdType),
        (h.asks speedOf startTime (h.command cmdType = "PLAY".toList) speed).2) :=
  rfl

end InfoHeader

/-- A request: what stands in front of `MANSRTSP/1.0`, and the headers. -/
structure PlaybackInfo where
  method : List Char
  headers : List InfoHeader
  method_plain : ∀ c ∈ method, InLine c
  headers_plain : ∀ h ∈ headers, h.Plain

namespace PlaybackInfo

def lines (r : PlaybackInfo) : List (List Char) :=
  (r.method ++ " MANSRTSP/1.0".toList) :: r.headers.map InfoHeader.text ++ [[]]

/-- The body of the INFO message. -/
def text (r : PlaybackInfo) : List Char := r.lines.flatMap fun line => line ++ ['\r', '\n']

/-- The speed after a request and the calls that its headers ask for. -/
def asks (speedOf : List Char → Int) (startTime : Nat) (speed : Int) (r : PlaybackInfo) :
    Int × List PlayBackCtrl :=
  let asked := Collect.run (InfoHeader.step speedOf startTime) (speed, r.method) r.headers
  (asked.1.1, asked.2)

end PlaybackInfo

/-! ### Reading the lines -/

theorem bodyLines_flatMap {lines : List (List Char)} (h : ∀ line ∈ lines, ∀ c ∈ line, InLine c) :
    bodyLines (lines.flatMap fun line => line ++ ['\r', '\n']) =
      lines.map fun line => line ++ ['\r'] := by
  have hnul : SqlText.nul ∉ lines.flatMap fun line => line ++ ['\r', '\n'] := by
    intro hmem
    obtain ⟨line, hline, hmem⟩ := List.mem_flatMap.mp hmem
    rcases List.mem_append.mp hmem with hmem | hmem
    · exact (h line hline _ hmem).2 rfl
    · exact absurd hmem (by decide)
  have hsplit : (lines.flatMap fun line => line ++ ['\r', '\n']).splitOn '\n' =
      (lines.map fun line => line ++ ['\r']) ++ [[]] := by
    clear hnul
    induction lines with
    | nil => rfl
    | cons line lines ih =>
        rw [List.forall_mem_cons] at h
        have hbreak : '\n' ∉ line ++ ['\r'] := by
          intro hmem
          rcases List.mem_append.mp hmem with hmem | hmem
          · exact absurd (h.1 _ hmem).1 (by decide)
          · exact absurd hmem (by decide)
        have hline : line ++ ['\r', '\n'] = (line ++ ['\r']) ++ ['\n'] := by
          rw [List.append_assoc]
          rfl
        rw [List.flatMap_cons, hline, List.append_assoc, List.singleton_append,
          List.splitOn_append_cons_self_of_not_mem hbreak, ih h.2, List.map_cons,
          List.cons_append]
  have htext := SqlText.cText_of_notMem hnul
  rw [bodyLines, htext, hsplit]
  refine Scanning.takeWhile_append_stop (fun line hline => ?_) fun line hline => ?_
  · obtain ⟨line, -, rfl⟩ := List.mem_map.mp hline
    exact decide_eq_true (by simp)
  · obtain rfl := Option.some.inj hline
    rfl

/-- A group that is the last one ends where the line does. -/
theorem not_dot_return : ∀ c ∈ ['\r'].head?, dot c = false := by
  rintro c ⟨⟩
  rfl

/-- A word without a carriage return does not reach the end of a line. -/
theorem infix_of_concat {w line : List Char} (hne : w ≠ []) (hcr : '\r' ∉ w)
    (h : w <:+: line ++ ['\r']) : w <:+: line := by
  rcases List.infix_concat_iff.mp h with hsuffix | hpresent
  · rcases List.suffix_concat_iff.mp hsuffix with rfl | ⟨t, rfl, -⟩
    · exact absurd rfl hne
    · exact absurd (List.mem_append_right t (List.mem_singleton_self _)) hcr
  · exact hpresent

/-- The first group ends at the last blank, if a slash is behind it. -/
theorem search_eRtspPlay {front rest : List Char} (h : ∀ c ∈ front ++ ' ' :: rest, dot c = true)
    (hblank : ' ' ∉ rest) (hslash : '/' ∈ rest) :
    ∃ groups, search dot eRtspPlay ((front ++ ' ' :: rest) ++ ['\r']) = some (front :: groups) := by
  obtain ⟨protocol, version, rfl, hlast⟩ := exists_last hslash
  rw [List.forall_mem_append, List.forall_mem_cons, List.forall_mem_append,
    List.forall_mem_cons] at h
  obtain ⟨hfront, -, hprotocol, -, hversion⟩ := h
  have hrest : matchHere dot [.group, .lit ['/'], .group]
      ((protocol ++ '/' :: version) ++ ['\r']) = some [protocol, version] := by
    rw [List.append_assoc, List.cons_append]
    have hend := matchHere_group hversion not_dot_return
    refine matchHere_group_char hprotocol hend fun a b heq => ?_
    have hmem : '/' ∈ version ++ ['\r'] := heq ▸ List.mem_append_right a List.mem_cons_self
    rcases List.mem_append.mp hmem with hmem | hmem
    · exact absurd hmem hlast
    · exact absurd hmem (by decide)
  refine ⟨[protocol, version], search_of_matchHere ?_⟩
  rw [List.append_assoc, List.cons_append]
  refine matchHere_group_char hfront hrest fun a b heq => ?_
  have hmem : ' ' ∈ (protocol ++ '/' :: version) ++ ['\r'] :=
    heq ▸ List.mem_append_right a List.mem_cons_self
  rcases List.mem_append.mp hmem with hmem | hmem
  · exact absurd hmem hblank
  · exact absurd hmem (by decide)

theorem mem_dropWhile_blank {a r : List Char} {c : Char} (hc : c ∈ r) :
    c ∈ (a ++ ' ' :: r).dropWhile (· ≠ ' ') := by
  induction a with
  | nil => exact List.mem_cons_of_mem ' ' hc
  | cons d a ih =>
      rw [List.cons_append, List.dropWhile_cons]
      split
      · exact ih
      · exact List.mem_cons_of_mem d (List.mem_append_right a (List.mem_cons_of_mem ' ' hc))

/-- A line without a slash behind a blank is no request line. -/
theorem search_eRtspPlay_eq_none {line : List Char} (h : '/' ∉ line.dropWhile (· ≠ ' ')) :
    search dot eRtspPlay (line ++ ['\r']) = none := by
  refine search_eq_none_iff.mpr fun t ht gs hmatch => h ?_
  obtain ⟨front, hline⟩ := ht
  cases hmatch with
  | @group g₁ t _ gs _ hmatch =>
      cases hmatch with
      | lit hmatch =>
          cases hmatch with
          | @group g₂ t _ gs _ hmatch =>
              cases hmatch with
              | @lit _ t _ _ hmatch =>
                  have hslash : '/' ∈ g₂ ++ (['/'] ++ t) :=
                    List.mem_append_right g₂ List.mem_cons_self
                  have hdivided : line ++ ['\r'] =
                      (front ++ g₁) ++ ' ' :: (g₂ ++ (['/'] ++ t)) := by
                    rw [← hline, List.append_assoc]
                    rfl
                  have hmem := mem_dropWhile_blank (a := front ++ g₁) hslash
                  rw [← hdivided, List.dropWhile_append] at hmem
                  split at hmem
                  · exact absurd hmem (by decide)
                  · rcases List.mem_append.mp hmem with hmem | hmem
                    · exact hmem
                    · exact absurd hmem (by decide)

theorem search_eRtspRange {value : List Char} (h : ∀ c ∈ value, dot c = true) :
    search dot eRtspRange (("Range: npt=".toList ++ (value ++ ['-'])) ++ ['\r']) =
      some [value, []] := by
  rw [List.append_assoc, List.append_assoc]
  apply search_of_matchHere
  rw [eRtspRange, matchHere_lit_append]
  refine matchHere_group_char h (by decide) fun a b heq => ?_
  have hmem : '-' ∈ ['\r'] :=
    (show ['\r'] = a ++ '-' :: b from heq) ▸ List.mem_append_right a List.mem_cons_self
  exact absurd hmem (by decide)

theorem search_eRtspRange_eq_none {line : List Char} (h : ¬ "Range: npt=".toList <:+: line) :
    search dot eRtspRange (line ++ ['\r']) = none :=
  search_eq_none_of_absent List.mem_cons_self
    fun hpresent => h (infix_of_concat (by decide) (by decide) hpresent)

theorem search_eRtspScale {value : List Char} (h : ∀ c ∈ value, dot c = true) :
    search dot eRtspScale (("Scale:".toList ++ value) ++ ['\r']) = some [value] := by
  rw [List.append_assoc]
  apply search_of_matchHere
  rw [eRtspScale, matchHere_lit_append]
  exact matchHere_group h not_dot_return

theorem search_eRtspScale_eq_none {line : List Char} (h : ¬ "Scale:".toList <:+: line) :
    search dot eRtspScale (line ++ ['\r']) = none :=
  search_eq_none_of_absent List.mem_cons_self
    fun hpresent => h (infix_of_concat (by decide) (by decide) hpresent)

/-- The two groups are what is in front of the last colon and what is behind it. -/
theorem search_eRtspPause {line : List Char} (h : ∀ c ∈ line, dot c = true) :
    search dot eRtspPause (line ++ ['\r']) = none ∨
      ∃ name value, line = name ++ ':' :: value ∧
        search dot eRtspPause (line ++ ['\r']) = some [name, value] := by
  by_cases hcolon : ':' ∈ line
  · right
    obtain ⟨name, value, rfl, hlast⟩ := exists_last hcolon
    rw [List.forall_mem_append, List.forall_mem_cons] at h
    refine ⟨name, value, rfl, search_of_matchHere ?_⟩
    rw [List.append_assoc, List.cons_append]
    refine matchHere_group_char h.1 (matchHere_group h.2.2 not_dot_return) fun a b heq => ?_
    have hmem : ':' ∈ value ++ ['\r'] := heq ▸ List.mem_append_right a List.mem_cons_self
    rcases List.mem_append.mp hmem with hmem | hmem
    · exact absurd hmem hlast
    · exact absurd hmem (by decide)
  · left
    refine search_eq_none_of_absent (w := [':']) (by simp [eRtspPause]) fun hpresent => ?_
    rw [List.singleton_infix_iff, List.mem_append] at hpresent
    exact hpresent.elim hcolon (by decide)

end Mansrtsp

/-! ### The calls for a stream -/

namespace ServerState

/-- One call of `Dev_PlayBackCtrl` on the NVR at a place. -/
def ctrl (env : Env) (stream : MediaStream) (ref : Nat) (w : ServerState) (c : PlayBackCtrl) :
    ServerState :=
  match w.nvrs ref with
  | none => w
  | some nvr =>
      w.putSession ref ((w.session nvr).devPlayBackCtrl env.sdk stream.streamHandle c.1 c.2.1
        c.2.2).session

variable {w : ServerState} {env : Env} {streamId : String} {stream : MediaStream} {ref : Nat}

theorem infoNvr_eq_some_iff : w.infoNvr streamId = some (stream, ref) ↔
    ∃ child nvr, w.infoTarget streamId = some (stream, child) ∧ child.mParentDev = some ref ∧
      w.nvrs ref = some nvr := by
  constructor
  · intro h
    obtain ⟨⟨stream', child⟩, htarget, hmap⟩ := Option.bind_eq_some_iff.mp h
    obtain ⟨⟨ref', nvr⟩, hparent, hmk⟩ := Option.map_eq_some_iff.mp hmap
    obtain ⟨rfl, rfl⟩ := Prod.mk.inj hmk
    refine ⟨child, nvr, htarget, ?_⟩
    simp only [parentNvr] at hparent
    cases hat : child.mParentDev with
    | none =>
        rw [hat] at hparent
        exact nomatch hparent
    | some place =>
        rw [hat] at hparent
        obtain ⟨nvr', hnvr, hmk⟩ := Option.map_eq_some_iff.mp hparent
        obtain ⟨rfl, rfl⟩ := Prod.mk.inj hmk
        exact ⟨rfl, hnvr⟩
  · rintro ⟨child, nvr, htarget, hat, hnvr⟩
    simp [infoNvr, parentNvr, htarget, hat, hnvr]

theorem ctrl_eq {nvr : JsonNvrDevic} (h : w.nvrs ref = some nvr) (c : PlayBackCtrl) :
    ctrl env stream ref w c = w.putSession ref ((w.session nvr).devPlayBackCtrl env.sdk
      stream.streamHandle c.1 c.2.1 c.2.2).session := by
  rw [ctrl, h]

/-- The calls change nothing by which the stream is found. -/
theorem infoNvr_ctrl (h : w.infoNvr streamId = some (stream, ref)) (c : PlayBackCtrl) :
    (ctrl env stream ref w c).infoNvr streamId = some (stream, ref) := by
  obtain ⟨child, nvr, htarget, hat, hnvr⟩ := infoNvr_eq_some_iff.mp h
  rw [ctrl_eq hnvr]
  exact infoNvr_eq_some_iff.mpr ⟨child, _, htarget, hat, if_pos rfl⟩

theorem infoNvr_foldl_ctrl (h : w.infoNvr streamId = some (stream, ref))
    (calls : List PlayBackCtrl) :
    (calls.foldl (ctrl env stream ref) w).infoNvr streamId = some (stream, ref) := by
  induction calls generalizing w with
  | nil => exact h
  | cons c calls ih => exact ih (infoNvr_ctrl h c)

/-- Where the NVR is there, the calls are made one after another. -/
theorem infoCalls_eq_foldl (h : w.infoNvr streamId = some (stream, ref))
    (calls : List PlayBackCtrl) :
    w.infoCalls env streamId calls = calls.foldl (ctrl env stream ref) w := by
  obtain ⟨child, nvr, htarget, hat, hnvr⟩ := infoNvr_eq_some_iff.mp h
  have hparent : w.parentNvr child = some (ref, nvr) := by
    simp [parentNvr, hat, hnvr]
  have hstep : ∀ w : ServerState, w.infoNvr streamId = some (stream, ref) → ∀ c : PlayBackCtrl,
      w.putSession ref ((w.session (w.currentNvr ref nvr)).devPlayBackCtrl env.sdk
        stream.streamHandle c.1 c.2.1 c.2.2).session = ctrl env stream ref w c := by
    intro w hw c
    obtain ⟨-, nvr', -, -, hnvr'⟩ := infoNvr_eq_some_iff.mp hw
    rw [ctrl_eq hnvr', currentNvr, hnvr', Option.getD_some]
  simp only [infoCalls, htarget, hparent]
  clear htarget hparent hnvr
  induction calls generalizing w with
  | nil => rfl
  | cons c calls ih =>
      rw [List.foldl_cons, List.foldl_cons, hstep w h c]
      exact ih (infoNvr_ctrl h c)

/-- A session that is open, and stays open whatever the playback controls answer. -/
structure PlaysOn (w : ServerState) (env : Env) (ref : Nat) : Prop where
  isInit : w.sdk.isInit = true
  loggedIn : ∃ nvr, w.nvrs ref = some nvr ∧ 0 < nvr.mLoginId
  answers : ∀ log handle cmd param1 param2,
    ¬ NvrSession.Expired (env.sdk log (.playBackCtrl handle cmd param1 param2)).err

theorem devPlayBackCtrl_open (session : NvrSession) (handle : Nat) (c : PlayBackCtrl)
    (hinit : session.sdk.isInit = true) (hlogged : 0 < session.nvr.mLoginId)
    (hanswer : ¬ NvrSession.Expired
      (session.ask env.sdk (.playBackCtrl handle c.1 c.2.1 c.2.2)).err) :
    (session.devPlayBackCtrl env.sdk handle c.1 c.2.1 c.2.2).session =
      session.call env.sdk (.playBackCtrl handle c.1 c.2.1 c.2.2) := by
  have hsdk : session.initSdk env.sdk = (session, 0) := if_pos hinit
  simp only [NvrSession.devPlayBackCtrl, NvrSession.openOp, hsdk, NvrSession.operate]
  rw [if_pos hlogged, if_neg hanswer]

/-- Every call reaches the SDK. -/
theorem PlaysOn.ctrl (h : w.PlaysOn env ref) (stream : MediaStream) (c : PlayBackCtrl) :
    (w.ctrl env stream ref c).PlaysOn env ref ∧ ∃ answer, (w.ctrl env stream ref c).sdk.log =
      w.sdk.log ++ [(.playBackCtrl stream.streamHandle c.1 c.2.1 c.2.2, answer)] := by
  obtain ⟨nvr, hnvr, hlogged⟩ := h.loggedIn
  have hsession := devPlayBackCtrl_open (w.session nvr) stream.streamHandle c h.isInit hlogged
    (h.answers _ _ _ _ _)
  rw [ctrl_eq hnvr, hsession]
  refine ⟨⟨?_, ⟨nvr, if_pos rfl, hlogged⟩, h.answers⟩, _, rfl⟩
  show (w.sdk.isInit || _) = true
  rw [h.isInit, Bool.true_or]

theorem PlaysOn.foldl_ctrl (h : w.PlaysOn env ref) (calls : List PlayBackCtrl) :
    ∃ made, (calls.foldl (ServerState.ctrl env stream ref) w).sdk.log = w.sdk.log ++ made ∧
      made.map (·.1) = calls.map fun c => .playBackCtrl stream.streamHandle c.1 c.2.1 c.2.2 := by
  induction calls generalizing w with
  | nil => exact ⟨[], (List.append_nil _).symm, rfl⟩
  | cons c calls ih =>
      obtain ⟨hstays, answer, hlog⟩ := h.ctrl stream c
      obtain ⟨made, hmade, hcalls⟩ := ih hstays
      refine ⟨(.playBackCtrl stream.streamHandle c.1 c.2.1 c.2.2, answer) :: made, ?_, ?_⟩
      · rw [List.foldl_cons, hmade, hlog, List.append_assoc]
        rfl
      · rw [List.map_cons, hcalls]
        rfl

end ServerState

namespace Mansrtsp

variable {speedOf : List Char → Int} {env : Env} {call : InfoCall} {s : InfoState}
  {stream : MediaStream} {ref : Nat}

/-! ### Reading a request -/

theorem atoi_digits {n : Nat} (hn : n < 2 ^ 63) :
    atoi (String.ofList (Nat.toDigits 10 n)) = (n : Int).bmod (2 ^ 32) := by
  rw [atoi, String.toList_ofList, Decimal.parse_toDigits]
  have hrange : max (-2 ^ 63) (min (n : Int) (2 ^ 63 - 1)) = n := by omega
  exact congrArg (Int.bmod · (2 ^ 32)) hrange

/-- The characters of the digits are in the line, and no digit is a letter. -/
theorem inLine_of_digit {n : Nat} {c : Char} (hc : c ∈ Nat.toDigits 10 n) :
    InLine c ∧ c ≠ '/' ∧ c ≠ 'S' ∧ c ≠ 'n' := by
  have hdigit := Decimal.digit_bounds (Nat.isDigit_of_mem_toDigits (by decide) (by decide) hc)
  have hne : ∀ d : Char, d.toNat < 48 ∨ 57 < d.toNat → c ≠ d := by
    rintro d hd rfl
    omega
  refine ⟨⟨?_, hne _ (by decide)⟩, hne _ (by decide), hne _ (by decide), hne _ (by decide)⟩
  rw [dot, decide_eq_true_iff]
  exact ⟨hne _ (by decide), hne _ (by decide)⟩

/-- What holds of the marks and of the digits holds of every character of the header. -/
theorem forall_mem_text_range {P : Char → Prop} {seconds : Nat}
    (hmarks : ∀ c ∈ "Range: npt=".toList ++ ['-'], P c)
    (hdigits : ∀ c ∈ Nat.toDigits 10 seconds, P c) :
    ∀ c ∈ (InfoHeader.range seconds).text, P c := by
  obtain ⟨hname, hdash⟩ := List.forall_mem_append.mp hmarks
  exact List.forall_mem_append.mpr ⟨hname, List.forall_mem_append.mpr ⟨hdigits, hdash⟩⟩

theorem forall_mem_text_scale {P : Char → Prop} {value : List Char}
    (hname : ∀ c ∈ "Scale:".toList, P c) (hvalue : ∀ c ∈ value, P c) :
    ∀ c ∈ (InfoHeader.scale value).text, P c :=
  List.forall_mem_append.mpr ⟨hname, hvalue⟩

theorem InfoHeader.Plain.inLine {h : InfoHeader} (hplain : h.Plain) : ∀ c ∈ h.text, InLine c := by
  cases h with
  | rangeNow | pauseNow => exact (by decide)
  | range seconds =>
      exact forall_mem_text_range (by decide) fun c hc => (inLine_of_digit hc).1
  | scale value => exact forall_mem_text_scale (by decide) hplain.1
  | slash front rest | other line => exact hplain.1.1

/-- Only a header with a blank and a slash changes the command. -/
theorem readCmdType_header {h : InfoHeader} (hplain : h.Plain) :
    s.readCmdType (h.text ++ ['\r']) = { s with strCmdType := h.command s.strCmdType } := by
  have hnone : ∀ line : List Char, '/' ∉ line.dropWhile (· ≠ ' ') →
      s.readCmdType (line ++ ['\r']) = s := fun line hline => by
    rw [InfoState.readCmdType, search_eRtspPlay_eq_none hline]
  cases h with
  | rangeNow | pauseNow => exact hnone _ (by decide)
  | range seconds =>
      have hslash : ∀ c ∈ (InfoHeader.range seconds).text, c ≠ '/' :=
        forall_mem_text_range (by decide) fun c hc => (inLine_of_digit hc).2.1
      exact hnone _ fun hmem => hslash _ ((List.dropWhile_suffix _).subset hmem) rfl
  | scale value =>
      have hslash : ∀ c ∈ (InfoHeader.scale value).text, c ≠ '/' :=
        forall_mem_text_scale (by decide) fun c hc => ne_of_mem_of_not_mem hc hplain.2.1
      exact hnone _ fun hmem => hslash _ ((List.dropWhile_suffix _).subset hmem) rfl
  | slash front rest =>
      obtain ⟨⟨hline, -⟩, hblank, hslash⟩ := hplain
      obtain ⟨groups, hfound⟩ := search_eRtspPlay (fun c hc => (hline c hc).1) hblank hslash
      rw [InfoState.readCmdType, InfoHeader.text_slash, hfound]
      rfl
  | other line => exact hnone line hplain.2.1

theorem absent_of_notMem {w line : List Char} {c : Char} (hc : c ∈ w) (hline : c ∉ line) :
    ¬ w <:+: line :=
  fun hpresent => hline (hpresent.subset hc)

theorem readRange_of_absent {line : List Char} (h : ¬ "Range: npt=".toList <:+: line) :
    s.readRange env call (line ++ ['\r']) = s := by
  rw [InfoState.readRange, search_eRtspRange_eq_none h]

theorem readScale_of_absent {line : List Char} (h : ¬ "Scale:".toList <:+: line) :
    s.readScale speedOf env call (line ++ ['\r']) = s := by
  rw [InfoState.readScale, search_eRtspScale_eq_none h]

theorem readPause_of_ne {line : List Char} (h : ∀ c ∈ line, InLine c)
    (hne : line ≠ "PauseTime:now".toList) : s.readPause env call (line ++ ['\r']) = s := by
  rw [InfoState.readPause]
  rcases search_eRtspPause fun c hc => (h c hc).1 with hnone | ⟨name, value, hline, hfound⟩
  · rw [hnone]
  · rw [hfound]
    refine if_neg ?_
    rintro ⟨rfl, rfl⟩
    exact hne hline

/-- The variables after the calls of a line. -/
def InfoState.after (s : InfoState) (env : Env) (stream : MediaStream) (ref : Nat)
    (asked : (Int × List Char) × List PlayBackCtrl) : InfoState :=
  ⟨asked.2.foldl (ServerState.ctrl env stream ref) s.world, asked.1.1, asked.1.2⟩

theorem InfoState.after_strCmdType (s : InfoState) (cmdType : List Char)
    (asked : (Int × List Char) × List PlayBackCtrl) :
    { s with strCmdType := cmdType }.after env stream ref asked = s.after env stream ref asked :=
  rfl

theorem InfoState.after_after (s : InfoState)
    (asked asked' : (Int × List Char) × List PlayBackCtrl) :
    (s.after env stream ref asked).after env stream ref asked' =
      s.after env stream ref (asked'.1, asked.2 ++ asked'.2) := by
  rw [InfoState.after, InfoState.after, InfoState.after, List.foldl_append]

theorem rangeCalls_digits {n : Nat} (hn : n < 2 ^ 63) (fScale : Int) :
    rangeCalls call fScale (Nat.toDigits 10 n) =
      [(4, ((call.startTime : Int) + n).bmod (2 ^ 32), 0)] := by
  have hnow : Nat.toDigits 10 n ≠ "now".toList := by
    intro heq
    have hmem : 'n' ∈ Nat.toDigits 10 n := by
      rw [heq]
      decide
    exact (inLine_of_digit hmem).2.2.2 rfl
  have htime : ((call.startTime : Int) + (n : Int).bmod (2 ^ 32) % 2 ^ 32).bmod (2 ^ 32) =
      ((call.startTime : Int) + n).bmod (2 ^ 32) :=
    (Int.add_emod_bmod _ (2 ^ 32)).trans Int.add_bmod_bmod
  rw [rangeCalls, if_neg hnow, atoi_digits hn]
  exact congrArg (fun time => [((4 : Int), time, (0 : Int))]) htime

/-- A header of a request that plays. -/
theorem readPlay_header {w : ServerState} (hnvr : w.infoNvr call.streamId = some (stream, ref))
    (fScale : Int) (cmdType : List Char) {h : InfoHeader} (hplain : h.Plain) :
    (InfoState.readRange env call ⟨w, fScale, cmdType⟩ (h.text ++ ['\r'])).readScale speedOf env
        call (h.text ++ ['\r']) =
      InfoState.after ⟨w, fScale, cmdType⟩ env stream ref
        (((h.asks speedOf call.startTime True fScale).1, cmdType),
          (h.asks speedOf call.startTime True fScale).2) := by
  cases h with
  | rangeNow =>
      have hrange : search dot eRtspRange (InfoHeader.rangeNow.text ++ ['\r']) =
          some ["now".toList, []] := by decide
      rw [readScale_of_absent (absent_of_notMem (c := 'S') (by decide) (by decide)),
        InfoState.readRange, hrange]
      simp only [ServerState.infoCalls_eq_foldl hnvr]
      rfl
  | range seconds =>
      have hscale : ∀ c ∈ (InfoHeader.range seconds).text, c ≠ 'S' :=
        forall_mem_text_range (by decide) fun c hc => (inLine_of_digit hc).2.2.1
      rw [readScale_of_absent (absent_of_notMem (by decide) fun hmem => hscale 'S' hmem rfl),
        InfoState.readRange, InfoHeader.text_range,
        search_eRtspRange fun c hc => (inLine_of_digit hc).1.1]
      simp only [ServerState.infoCalls_eq_foldl hnvr, rangeCalls_digits hplain]
      rfl
  | scale value =>
      have hrange : ∀ c ∈ (InfoHeader.scale value).text, c ≠ 'R' :=
        forall_mem_text_scale (by decide) fun c hc => ne_of_mem_of_not_mem hc hplain.2.2
      rw [readRange_of_absent (absent_of_notMem (by decide) fun hmem => hrange 'R' hmem rfl),
        InfoState.readScale, InfoHeader.text_scale, search_eRtspScale fun c hc => (hplain.1 c hc).1]
      simp only [ServerState.infoCalls_eq_foldl hnvr, hnvr, Option.isSome_some, if_true]
      rfl
  | pauseNow =>
      rw [readRange_of_absent (by decide), readScale_of_absent (by decide)]
      rfl
  | slash front rest =>
      obtain ⟨⟨-, hrange, hscale⟩, -⟩ := hplain
      rw [InfoHeader.text_slash, readRange_of_absent hrange, readScale_of_absent hscale]
      rfl
  | other line =>
      obtain ⟨⟨-, hrange, hscale⟩, -⟩ := hplain
      rw [InfoHeader.text_other, readRange_of_absent hrange, readScale_of_absent hscale]
      rfl

/-- A header of another request. -/
theorem readPause_header (speedOf : List Char → Int) {w : ServerState}
    (hnvr : w.infoNvr call.streamId = some (stream, ref)) (fScale : Int) (cmdType : List Char)
    {h : InfoHeader} (hplain : h.Plain) :
    InfoState.readPause env call ⟨w, fScale, cmdType⟩ (h.text ++ ['\r']) =
      InfoState.after ⟨w, fScale, cmdType⟩ env stream ref
        (((h.asks speedOf call.startTime False fScale).1, cmdType),
          (h.asks speedOf call.startTime False fScale).2) := by
  by_cases hpause : h = .pauseNow
  · subst hpause
    have hfound : search dot eRtspPause (InfoHeader.pauseNow.text ++ ['\r']) =
        some ["PauseTime".toList, "now".toList] := by decide
    rw [InfoState.readPause, hfound]
    simp only [ServerState.infoCalls_eq_foldl hnvr, and_self, if_true]
    rfl
  · have hne : h.text ≠ "PauseTime:now".toList := by
      cases h with
      | rangeNow => exact (by decide)
      | pauseNow => exact absurd rfl hpause
      | range seconds =>
          intro heq
          have hhead : some 'R' = some 'P' := congrArg List.head? heq
          exact absurd hhead (by decide)
      | scale value =>
          intro heq
          have hhead : some 'S' = some 'P' := congrArg List.head? heq
          exact absurd hhead (by decide)
      | slash front rest =>
          intro heq
          have hmem : '/' ∈ "PauseTime:now".toList :=
            heq ▸ List.mem_append_right front (List.mem_cons_of_mem ' ' hplain.2.2)
          exact absurd hmem (by decide)
      | other line => exact hplain.2.2
    rw [readPause_of_ne hplain.inLine hne]
    cases h with
    | pauseNow => exact absurd rfl hpause
    | _ => rfl

/-- One line with a header. -/
theorem readLine_header (hnvr : s.world.infoNvr call.streamId = some (stream, ref))
    {h : InfoHeader} (hplain : h.Plain) :
    s.readLine speedOf env call (h.text ++ ['\r']) =
      s.after env stream ref (h.step speedOf call.startTime (s.fScale, s.strCmdType)) := by
  simp only [InfoState.readLine, readCmdType_header hplain]
  split
  next hplay =>
    have hcmd : h.command s.strCmdType = "PLAY".toList := hplay
    rw [InfoHeader.step_eq, InfoHeader.asks_congr (iff_true_intro hcmd)]
    rw [← s.after_strCmdType (h.command s.strCmdType)]
    exact readPlay_header hnvr s.fScale (h.command s.strCmdType) hplain
  next hplay =>
    have hcmd : ¬ h.command s.strCmdType = "PLAY".toList := hplay
    rw [InfoHeader.step_eq, InfoHeader.asks_congr (iff_false_intro hcmd)]
    rw [← s.after_strCmdType (h.command s.strCmdType)]
    exact readPause_header speedOf hnvr s.fScale (h.command s.strCmdType) hplain

/-- The request line sets the command, and nothing else is found in it. -/
theorem readLine_request {m : List Char} (hm : ∀ c ∈ m, InLine c) :
    s.readLine speedOf env call ((m ++ " MANSRTSP/1.0".toList) ++ ['\r']) =
      { s with strCmdType := m } := by
  have hline : ∀ c ∈ m ++ " MANSRTSP/1.0".toList, InLine c := by
    intro c hc
    rcases List.mem_append.mp hc with hc | hc
    · exact hm c hc
    · exact (by decide : ∀ c ∈ " MANSRTSP/1.0".toList, InLine c) c hc
  obtain ⟨groups, hfound⟩ : ∃ groups,
      search dot eRtspPlay ((m ++ " MANSRTSP/1.0".toList) ++ ['\r']) = some (m :: groups) :=
    search_eRtspPlay (fun c hc => (hline c hc).1) (by decide) (by decide)
  have hcmd : s.readCmdType ((m ++ " MANSRTSP/1.0".toList) ++ ['\r']) =
      { s with strCmdType := m } := by
    rw [InfoState.readCmdType, hfound]
  simp only [InfoState.readLine, hcmd]
  split
  next hplay =>
    subst hplay
    rw [readRange_of_absent (by decide), readScale_of_absent (by decide)]
  next =>
    refine readPause_of_ne hline fun heq => ?_
    have hlast := congrArg List.getLast? heq
    rw [List.getLast?_append] at hlast
    exact absurd (show some '0' = some 'w' from hlast) (by decide)

/-- The line that ends the headers changes nothing. -/
theorem readLine_empty : s.readLine speedOf env call ['\r'] = s := by
  have hcmd : s.readCmdType ([] ++ ['\r']) = s :=
    readCmdType_header (h := .other []) (by decide)
  have hrange : s.readRange env call ([] ++ ['\r']) = s := readRange_of_absent (by decide)
  have hscale : s.readScale speedOf env call ([] ++ ['\r']) = s :=
    readScale_of_absent (by decide)
  have hpause : s.readPause env call ([] ++ ['\r']) = s :=
    readPause_of_ne (by decide) (by decide)
  rw [List.nil_append] at hcmd hrange hscale hpause
  simp only [InfoState.readLine, hcmd, hrange, hscale, hpause, ite_self]

/-- The headers one after another. -/
theorem foldl_readLine_headers (hnvr : s.world.infoNvr call.streamId = some (stream, ref))
    {headers : List InfoHeader} (hplain : ∀ h ∈ headers, h.Plain) :
    headers.foldl (fun s h => s.readLine speedOf env call (h.text ++ ['\r'])) s =
      s.after env stream ref (Collect.run (InfoHeader.step speedOf call.startTime)
        (s.fScale, s.strCmdType) headers) := by
  induction headers generalizing s with
  | nil => rfl
  | cons h headers ih =>
      rw [List.forall_mem_cons] at hplain
      rw [List.foldl_cons, readLine_header hnvr hplain.1]
      exact (ih (ServerState.infoNvr_foldl_ctrl hnvr _) hplain.2).trans (s.after_after _ _)

/-- One request: what its headers ask for, and nothing else. -/
theorem onInfo_text {w : ServerState} {fScale : Int}
    (hnvr : w.infoNvr call.streamId = some (stream, ref)) (r : PlaybackInfo) :
    onInfo speedOf env call w fScale (some r.text) =
      InfoState.after ⟨w, fScale, r.method⟩ env stream ref
        (Collect.run (InfoHeader.step speedOf call.startTime) (fScale, r.method) r.headers) := by
  have hlines : bodyLines r.text = r.lines.map fun line => line ++ ['\r'] := by
    refine bodyLines_flatMap fun line hline => ?_
    rcases List.mem_append.mp hline with hline | hline
    · rcases List.mem_cons.mp hline with rfl | hline
      · intro c hc
        rcases List.mem_append.mp hc with hc | hc
        · exact r.method_plain c hc
        · exact (by decide : ∀ c ∈ " MANSRTSP/1.0".toList, InLine c) c hc
      · obtain ⟨h, hmem, rfl⟩ := List.mem_map.mp hline
        exact (r.headers_plain h hmem).inLine
    · rw [List.mem_singleton.mp hline]
      exact fun c hc => absurd hc List.not_mem_nil
  have hheaders : ∀ s : InfoState,
      ((r.headers.map InfoHeader.text).map fun line => line ++ ['\r']).foldl
        (fun s line => s.readLine speedOf env call line) s =
      r.headers.foldl (fun s h => s.readLine speedOf env call (h.text ++ ['\r'])) s := by
    intro s
    rw [List.foldl_map, List.foldl_map]
  have hstart : InfoState.world ⟨w, fScale, r.method⟩ = w := rfl
  rw [onInfo, Option.map_some, Option.getD_some, hlines, PlaybackInfo.lines, List.map_append,
    List.map_cons, List.foldl_append, List.foldl_cons, readLine_request r.method_plain, hheaders,
    foldl_readLine_headers hnvr r.headers_plain]
  exact readLine_empty

/-- The requests one after another, and their headers one after another, make the calls. -/
theorem onInfos_text {w : ServerState} {fScale : Int}
    (hnvr : w.infoNvr call.streamId = some (stream, ref)) (requests : List PlaybackInfo) :
    onInfos speedOf env call w fScale (requests.map fun r => some r.text) =
      ((Collect.run (PlaybackInfo.asks speedOf call.startTime) fScale requests).2.foldl
          (ServerState.ctrl env stream ref) w,
        (Collect.run (PlaybackInfo.asks speedOf call.startTime) fScale requests).1) := by
  induction requests generalizing w fScale with
  | nil => rfl
  | cons r requests ih =>
      rw [onInfos, List.map_cons, List.foldl_cons, onInfo_text hnvr]
      refine (ih (ServerState.infoNvr_foldl_ctrl hnvr _)).trans ?_
      rw [Collect.run, List.foldl_append]
      rfl

/-- Whatever requests a playback receives, the SDK is asked, in their order, for exactly the
calls that their headers ask for, on the handle of the stream. A resumed playback goes on at the
speed of the last `Scale` that was received before, or at the one it began with. -/
theorem requests_reach_sdk (speedOf : List Char → Int) (env : Env) (call : InfoCall)
    (w : ServerState) (fScale : Int) (hnvr : w.infoNvr call.streamId = some (stream, ref))
    (hplays : w.PlaysOn env ref) (requests : List PlaybackInfo) :
    ∃ made, (onInfos speedOf env call w fScale (requests.map fun r => some r.text)).1.sdk.log =
        w.sdk.log ++ made ∧
      made.map (·.1) =
        (Collect.run (PlaybackInfo.asks speedOf call.startTime) fScale requests).2.map
          fun c => .playBackCtrl stream.streamHandle c.1 c.2.1 c.2.2 := by
  rw [onInfos_text hnvr]
  exact hplays.foldl_ctrl _

/-- A playback at handle 9 on the NVR of the sample. -/
def playingState : ServerState :=
  (ServerState.sampleState
    (ChildMap.empty.addChildDevice (ServerState.sampleChild "7" "7" 1))).addStream
      ⟨0, "7", "7_1000_2000", 9, 1⟩

/-- It is sped up, paused and resumed; a header with a blank and a slash makes the last request one
that does not play. -/
def speedUpPauseResume : List PlaybackInfo :=
  [⟨"PLAY".toList, [.other "CSeq: 1".toList, .scale "2.0".toList], by decide, by decide⟩,
    ⟨"PAUSE".toList, [.other "CSeq: 2".toList, .pauseNow], by decide, by decide⟩,
    ⟨"PLAY".toList, [.other "CSeq: 3".toList, .rangeNow], by decide, by decide⟩,
    ⟨"PLAY".toList, [.slash "User-Agent:".toList "NVR/1.0".toList, .rangeNow], by decide,
      by decide⟩]

theorem requests_reach_sdk_sample :
    ∃ made, (onInfos (fun value => if value = "2.0".toList then 2048 else 1024)
        (ServerState.sampleEnv ServerState.workingSdk) ⟨"7_1000_2000", 1000⟩ playingState 1024
        (speedUpPauseResume.map fun r => some r.text)).1.sdk.log = [] ++ made ∧
      made.map (·.1) = [.playBackCtrl 9 2 2048 0, .playBackCtrl 9 1 0 0, .playBackCtrl 9 0 0 0,
        .playBackCtrl 9 2 2048 0] :=
  requests_reach_sdk _ _ ⟨"7_1000_2000", 1000⟩ playingState 1024
    (by decide : playingState.infoNvr "7_1000_2000" =
      some (⟨0, "7", "7_1000_2000", 9, 1⟩, 0))
    ⟨rfl, ⟨ServerState.sampleNvr, rfl, by decide⟩,
      fun _ _ _ _ _ => (by decide : ¬ NvrSession.Expired 0)⟩ speedUpPauseResume

end Mansrtsp

end SignalingServer
