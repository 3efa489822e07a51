import SignalingServer.Lib.OrdMap
import Mathlib.Data.List.Basic

/-!
The INI files of `tools/InitFile.h`. The reader takes the white space out of every
line and keeps a section when the next one begins, or the file ends; the writer
puts out all sections in the order of their names.
-/

namespace SignalingServer.IniFile

/-- `std::string`. -/
abbrev Text := List UInt8

/-- `mSectionMap`. -/
abbrev SectionMap := Std.TreeMap Text (Std.TreeMap Text Text)

/-- An entry of `mSectionMap`. -/
abbrev IniSection := Text × Std.TreeMap Text Text

/-- `std::isspace`: the blank, and the characters from tab to carriage return. -/
def isspace (c : UInt8) : Bool := c = 32 ∨ (9 ≤ c ∧ c ≤ 13)

/-- The lines that `std::getline` gives: what is behind the last line break is a line if it is
not empty. -/
def getlines (file : List UInt8) : List Text :=
  let parts := file.splitOn 10
  if parts.getLast? = some [] then parts.dropLast else parts

/-- What `readIniFile` takes a line for. -/
inductive IniLine where
  | skipped
  | header (name : Text)
  | keyValue (key value : Text)
  deriving DecidableEq, Repr

/-- The tests of `readIniFile`, on a line without white space: `;` and `#` begin comments,
`[` and `]` are around the name of a section, and the first `=` ends a key. -/
def scanLine (line : Text) : IniLine :=
  if line = [] ∨ line.head? = some 59 ∨ line.head? = some 35 then .skipped
  else if line.head? = some 91 ∧ line.getLast? = some 93 then
    .header ((line.drop 1).take (line.length - 2))
  else if 61 ∈ line then
    .keyValue (line.take (line.idxOf 61)) (line.drop (line.idxOf 61 + 1))
  else .skipped

/-- The variables of the loop, and the map that it fills in. -/
structure ReadState where
  sec : Text
  oneSecMap : Std.TreeMap Text Text
  mSectionMap : SectionMap

/-- One round of the loop over the lines. -/
def readLine (s : ReadState) (line : Text) : ReadState :=
  match scanLine (line.filter fun c => !isspace c) with
  | .skipped => s
  | .header name =>
      { mSectionMap := if s.sec ≠ [] then s.mSectionMap.insert s.sec s.oneSecMap else s.mSectionMap
        sec := name
        oneSecMap := ∅ }
  | .keyValue key value => { s with oneSecMap := s.oneSecMap.insert key value }

/-- The last section is kept when the file ends. -/
def ReadState.close (s : ReadState) : SectionMap := s.mSectionMap.insert s.sec s.oneSecMap

/-- `IniFile::readIniFile`, where a file that cannot be opened is `none`. -/
def readIniFile (m : SectionMap) : Option (List UInt8) → SectionMap
  | none => m
  | some file =>
      ((getlines file).foldl readLine { sec := [], oneSecMap := ∅, mSectionMap := m }).close

/-- The map of a new `IniFile`. -/
def new (file : Option (List UInt8)) : SectionMap := readIniFile ∅ file

/-- `IniFile::readIniFileKeyValue`; `value` stays as it is where this is `none`. -/
def readIniFileKeyValue (m : SectionMap) (sec key : Text) : Option Text :=
  m[sec]?.bind fun secMap => secMap[key]?

/-- The lines of a section. -/
def sectionLines (sec : IniSection) : List Text :=
  (91 :: sec.1 ++ [93]) :: sec.2.toList.map fun it => it.1 ++ 61 :: it.2

/-- `IniFile::writeIniFile`: what is in the file after it. -/
def writeIniFile (m : SectionMap) : List UInt8 :=
  (m.toList.flatMap sectionLines).flatMap fun line => line ++ [10]

/-- `IniFile::writeIniFileKeyValue`: the map, which is then written. -/
def writeIniFileKeyValue (m : SectionMap) (sec key value : Text) : SectionMap :=
  match m[sec]? with
  | some secMap => m.insert sec (secMap.insert key value)
  | none => m.insert sec ((∅ : Std.TreeMap Text Text).insert key value)

/-- No character is white space, and so none a line break. -/
def Plain (t : Text) : Prop := ∀ c ∈ t, isspace c = false

instance (t : Text) : Decidable (Plain t) := List.decidableBAll _ t

/-- A key that `writeIniFileKeyValue` is used with: no `=` in it, and no `;`, `#` or `[` at its
beginning. -/
structure IsKey (key : Text) : Prop where
  plain : Plain key
  equals : 61 ∉ key
  first : ∀ c ∈ key.head?, c ≠ 59 ∧ c ≠ 35 ∧ c ≠ 91

/-- After the write a new `IniFile` has the value, and for everything else what a new `IniFile`
had before. -/
def ReadsBack (file : Option (List UInt8)) (sec key value : Text) : Prop :=
  let written := new (some (writeIniFile (writeIniFileKeyValue (new file) sec key value)))
  readIniFileKeyValue written sec key = some value ∧
    ∀ sec' key', (sec', key') ≠ (sec, key) →
      readIniFileKeyValue written sec' key' = readIniFileKeyValue (new file) sec' key'

/-- The section without a name is written alone, or has no keys. -/
def Suits (m : SectionMap) (sec : Text) : Prop :=
  if sec = [] then ∀ sec' ∈ m, sec' = [] else ∀ key, readIniFileKeyValue m [] key = none

/-! ### Lines -/

/-- Lines that are put out are read again. -/
theorem getlines_flatMap {lines : List Text} (h : ∀ line ∈ lines, 10 ∉ line) :
    getlines (lines.flatMap fun line => line ++ [10]) = lines := by
  have hsplit : (lines.flatMap fun line => line ++ [10]).splitOn 10 = lines ++ [[]] := by
    induction lines with
    | nil => rfl
    | cons line lines ih =>
        have hline : 10 ∉ line := h line List.mem_cons_self
        rw [List.flatMap_cons, List.append_assoc, List.singleton_append,
          List.splitOn_append_cons_self_of_not_mem hline,
          ih fun line' hline' => h line' (List.mem_cons_of_mem _ hline'), List.cons_append]
  unfold getlines
  rw [hsplit]
  simp

theorem Plain.filter {t : Text} (h : Plain t) : (t.filter fun c => !isspace c) = t :=
  List.filter_eq_self.mpr fun c hc => by rw [h c hc]; rfl

theorem plain_filter (t : Text) : Plain (t.filter fun c => !isspace c) := by
  intro c hc
  simpa using (List.mem_filter.mp hc).2

theorem Plain.newline_notMem {t : Text} (h : Plain t) : (10 : UInt8) ∉ t := by
  intro hmem
  have hspace := h 10 hmem
  cases hspace

theorem Plain.sublist {t t' : Text} (h : Plain t) (hsub : t' ⊆ t) : Plain t' :=
  fun c hc => h c (hsub hc)

theorem Plain.append {t t' : Text} (h : Plain t) (h' : Plain t') : Plain (t ++ t') := by
  intro c hc
  rcases List.mem_append.mp hc with hc | hc
  · exact h c hc
  · exact h' c hc

theorem Plain.cons {t : Text} {c : UInt8} (hc : isspace c = false) (h : Plain t) :
    Plain (c :: t) :=
  List.forall_mem_cons.mpr ⟨hc, h⟩

/-- A key and a value that the reader finds in the line that the writer puts out for them. -/
structure ReadsAs (key value : Text) : Prop where
  plain : Plain (key ++ 61 :: value)
  scan : scanLine (key ++ 61 :: value) = .keyValue key value

/-- What the reader takes for a key and a value it would find again. -/
theorem readsAs_of_scanLine {line key value : Text} (hplain : Plain line)
    (h : scanLine line = .keyValue key value) : ReadsAs key value := by
  have hline : key ++ 61 :: value = line := by
    unfold scanLine at h
    split at h
    · cases h
    · split at h
      · cases h
      · split at h
        · rename_i hmem
          obtain ⟨rfl, rfl⟩ := IniLine.keyValue.inj h
          have hlt := List.idxOf_lt_length_of_mem hmem
          have hget : (line)[line.idxOf 61] = 61 := List.getElem_idxOf hlt
          conv => rhs; rw [← List.take_append_drop (line.idxOf 61) line,
            List.drop_eq_getElem_cons hlt, hget]
        · cases h
  rw [← hline] at hplain h
  exact ⟨hplain, h⟩

theorem plain_of_scanLine {line name : Text} (hplain : Plain line)
    (h : scanLine line = .header name) : Plain name := by
  unfold scanLine at h
  split at h
  · cases h
  · split at h
    · obtain rfl := IniLine.header.inj h
      exact hplain.sublist fun c hc => List.mem_of_mem_drop (List.mem_of_mem_take hc)
    · split at h
      · cases h
      · cases h

theorem IsKey.readsAs {key value : Text} (hkey : IsKey key) (hvalue : Plain value) :
    ReadsAs key value := by
  refine ⟨hkey.plain.append (.cons (by decide) hvalue), ?_⟩
  have hfirst : ∀ c ∈ (key ++ 61 :: value).head?, c ≠ 59 ∧ c ≠ 35 ∧ c ≠ 91 := by
    cases key with
    | nil =>
        rintro c hc
        obtain rfl : (61 : UInt8) = c := Option.some.inj hc
        decide
    | cons c key => exact hkey.first
  have hidx : (key ++ 61 :: value).idxOf 61 = key.length := by
    rw [List.idxOf_append_of_notMem hkey.equals, List.idxOf_cons_self, Nat.add_zero]
  unfold scanLine
  rw [if_neg, if_neg, if_pos (List.mem_append_right _ List.mem_cons_self), hidx,
    List.take_left, List.drop_append]
  · simp
  · exact fun h => (hfirst 91 h.1).2.2 rfl
  · rintro (h | h | h)
    · exact List.append_ne_nil_of_right_ne_nil _ (List.cons_ne_nil _ _) h
    · exact (hfirst 59 h).1 rfl
    · exact (hfirst 35 h).2.1 rfl

theorem scanLine_header {name : Text} : scanLine (91 :: name ++ [93]) = .header name := by
  have hlast : (91 :: name ++ [93]).getLast? = some 93 := List.getLast?_concat
  unfold scanLine
  rw [if_neg, if_pos ⟨rfl, hlast⟩]
  · simp
  · simp

/-! ### Reading -/

namespace ReadState

/-- What would be read for a section and a key if the file ended here. -/
def value (s : ReadState) (sec key : Text) : Option Text := readIniFileKeyValue s.close sec key

theorem value_eq (s : ReadState) (sec key : Text) :
    s.value sec key =
      if sec = s.sec then s.oneSecMap[key]? else readIniFileKeyValue s.mSectionMap sec key := by
  unfold value close readIniFileKeyValue
  rw [OrdMap.getElem?_insert]
  split
  · rfl
  · rfl

/-- The round for the head of a section. -/
def beginSection (s : ReadState) (name : Text) : ReadState :=
  { mSectionMap := if s.sec ≠ [] then s.mSectionMap.insert s.sec s.oneSecMap else s.mSectionMap
    sec := name
    oneSecMap := ∅ }

/-- The round for a key and a value. -/
def setKey (s : ReadState) (it : Text × Text) : ReadState :=
  { s with oneSecMap := s.oneSecMap.insert it.1 it.2 }

/-- The head of a section keeps the values of all others that have names. -/
theorem value_beginSection (s : ReadState) (name : Text) {sec : Text} (hsec : sec ≠ [])
    (key : Text) :
    (s.beginSection name).value sec key = if sec = name then none else s.value sec key := by
  rw [value_eq, value_eq]
  show (if sec = name then (∅ : Std.TreeMap Text Text)[key]? else
    readIniFileKeyValue (if s.sec ≠ [] then s.mSectionMap.insert s.sec s.oneSecMap
      else s.mSectionMap) sec key) = _
  split
  · exact Std.TreeMap.getElem?_emptyc
  · split
    · rw [readIniFileKeyValue, OrdMap.getElem?_insert]
      split
      · rfl
      · rfl
    · rename_i hempty
      rw [if_neg fun heq => hsec (heq.trans (not_not.mp hempty))]

/-- No section without a name is kept while the file is read. -/
theorem beginSection_nil (s : ReadState) (name : Text) :
    (s.beginSection name).mSectionMap[([] : Text)]? = s.mSectionMap[([] : Text)]? := by
  show (if s.sec ≠ [] then s.mSectionMap.insert s.sec s.oneSecMap else s.mSectionMap)[
    ([] : Text)]? = _
  split
  · rename_i hsec
    rw [OrdMap.getElem?_insert, if_neg (Ne.symm hsec)]
  · rfl

theorem foldl_setKey (entries : List (Text × Text)) (s : ReadState) :
    entries.foldl setKey s =
      { s with oneSecMap := entries.foldl (fun m it => m.insert it.1 it.2) s.oneSecMap } := by
  induction entries generalizing s with
  | nil => rfl
  | cons it entries ih => exact ih _

/-- The rounds for the lines of a section. -/
def readSection (s : ReadState) (sec : IniSection) : ReadState :=
  sec.2.toList.foldl setKey (s.beginSection sec.1)

theorem readSection_eq (s : ReadState) (sec : IniSection) :
    s.readSection sec =
      { s.beginSection sec.1 with
        oneSecMap := sec.2.toList.foldl (fun m it => m.insert it.1 it.2) ∅ } :=
  foldl_setKey _ _

theorem value_readSection (s : ReadState) (sec : IniSection) {sec' : Text}
    (hsec : sec' ≠ []) (key : Text) :
    (s.readSection sec).value sec' key =
      if sec' = sec.1 then sec.2[key]? else s.value sec' key := by
  have hbegin := s.value_beginSection sec.1 hsec key
  rw [readSection_eq, value_eq]
  rw [value_eq] at hbegin
  show (if sec' = sec.1 then _ else _) = _
  split
  · exact OrdMap.getElem?_foldl_insert_toList sec.2 key
  · rename_i hne
    have hother : ¬ sec' = (s.beginSection sec.1).sec := hne
    rw [if_neg hother, if_neg hne] at hbegin
    exact hbegin

/-- The sections of a map that is read again, as they stand in the file. -/
theorem value_foldl_readSection {secs : List IniSection}
    (hnodup : (secs.map (·.1)).Nodup) (s : ReadState) {sec : Text} (hsec : sec ≠ []) (key : Text) :
    (∀ secMap, (sec, secMap) ∈ secs → (secs.foldl readSection s).value sec key = secMap[key]?) ∧
      ((∀ e ∈ secs, e.1 ≠ sec) → (secs.foldl readSection s).value sec key = s.value sec key) := by
  induction secs generalizing s with
  | nil => exact ⟨fun secMap h => (List.not_mem_nil h).elim, fun _ => rfl⟩
  | cons e secs ih =>
      rw [List.map_cons, List.nodup_cons] at hnodup
      obtain ⟨hmem, hother⟩ := ih hnodup.2 (s.readSection e)
      have hhead := s.value_readSection e hsec key
      constructor
      · intro secMap h
        rcases List.mem_cons.mp h with rfl | h
        · have hrest : ∀ e ∈ secs, e.1 ≠ sec := by
            intro e he heq
            have hkey : e.1 ∈ secs.map (·.1) := List.mem_map_of_mem he
            exact hnodup.1 (heq ▸ hkey)
          rw [List.foldl_cons, hother hrest, hhead, if_pos rfl]
        · exact hmem secMap h
      · intro h
        rw [List.foldl_cons, hother fun e he => h e (List.mem_cons_of_mem _ he), hhead,
          if_neg (h e List.mem_cons_self).symm]

theorem foldl_readSection_nil (secs : List IniSection) (s : ReadState) :
    (secs.foldl readSection s).mSectionMap[([] : Text)]? = s.mSectionMap[([] : Text)]? := by
  induction secs generalizing s with
  | nil => rfl
  | cons sec secs ih =>
      rw [List.foldl_cons, ih, readSection_eq]
      exact s.beginSection_nil sec.1

/-- The section without a name is there if it is the last one. -/
theorem value_foldl_readSection_nil (secs : List IniSection)
    (last : IniSection) (s : ReadState)
    (hs : s.mSectionMap[([] : Text)]? = none) (key : Text) :
    ((secs ++ [last]).foldl readSection s).value [] key =
      if last.1 = [] then last.2[key]? else none := by
  have hnil := foldl_readSection_nil (secs ++ [last]) s
  rw [List.foldl_append, List.foldl_cons, List.foldl_nil] at hnil ⊢
  rw [value_eq, readIniFileKeyValue, hnil, hs, readSection_eq]
  show (if [] = last.1 then _ else _) = _
  by_cases hlast : last.1 = []
  · rw [if_pos hlast.symm, if_pos hlast]
    exact OrdMap.getElem?_foldl_insert_toList last.2 key
  · rw [if_neg (Ne.symm hlast), if_neg hlast]
    rfl

end ReadState

/-! ### Maps that are read again -/

/-- Every section and every key is found in the lines that the writer puts out for them. -/
def Readable (m : SectionMap) : Prop :=
  ∀ (sec : Text) (secMap : Std.TreeMap Text Text), m[sec]? = some secMap →
    Plain sec ∧ ∀ key value : Text, secMap[key]? = some value → ReadsAs key value

theorem readable_empty : Readable ∅ := by
  intro sec secMap h
  simp at h

theorem Readable.insert {m : SectionMap} (hm : Readable m) {sec : Text}
    {secMap : Std.TreeMap Text Text} (hsec : Plain sec)
    (hkeys : ∀ key value : Text, secMap[key]? = some value → ReadsAs key value) :
    Readable (m.insert sec secMap) := by
  intro sec' secMap' h
  rcases OrdMap.insert_cases h with ⟨rfl, rfl⟩ | ⟨-, h⟩
  · exact ⟨hsec, hkeys⟩
  · exact hm sec' secMap' h

theorem readsAs_insert {secMap : Std.TreeMap Text Text} {key value : Text}
    (hkeys : ∀ key value : Text, secMap[key]? = some value → ReadsAs key value)
    (hnew : ReadsAs key value) :
    ∀ key' value' : Text, (secMap.insert key value)[key']? = some value' →
      ReadsAs key' value' := by
  intro key' value' h
  rcases OrdMap.insert_cases h with ⟨rfl, rfl⟩ | ⟨-, h⟩
  · exact hnew
  · exact hkeys key' value' h

theorem readsAs_empty :
    ∀ key value : Text, (∅ : Std.TreeMap Text Text)[key]? = some value → ReadsAs key value := by
  intro key value h
  simp at h

/-- What the loop has read is found again. -/
structure ReadState.Readable (s : ReadState) : Prop where
  sections : IniFile.Readable s.mSectionMap
  sec : Plain s.sec
  keys : ∀ key value : Text, s.oneSecMap[key]? = some value → ReadsAs key value

theorem ReadState.Readable.readLine {s : ReadState} (h : s.Readable) (line : Text) :
    (IniFile.readLine s line).Readable := by
  have hplain := plain_filter line
  unfold IniFile.readLine
  split
  · exact h
  · rename_i name hscan
    refine { sections := ?_, sec := plain_of_scanLine hplain hscan, keys := readsAs_empty }
    show IniFile.Readable (if s.sec ≠ [] then _ else _)
    split
    · exact h.sections.insert h.sec h.keys
    · exact h.sections
  · rename_i key value hscan
    exact { h with keys := readsAs_insert h.keys (readsAs_of_scanLine hplain hscan) }

theorem ReadState.Readable.foldl {s : ReadState} (h : s.Readable) (lines : List Text) :
    (lines.foldl IniFile.readLine s).Readable := by
  induction lines generalizing s with
  | nil => exact h
  | cons line lines ih => exact ih (h.readLine line)

/-- A file gives a map that is read again. -/
theorem readable_new (file : Option (List UInt8)) : Readable (new file) := by
  cases file with
  | none => exact readable_empty
  | some file =>
      have hstart : ReadState.Readable { sec := [], oneSecMap := ∅, mSectionMap := ∅ } :=
        { sections := readable_empty, sec := fun c hc => (List.not_mem_nil hc).elim
          keys := readsAs_empty }
      have hend := hstart.foldl (getlines file)
      exact hend.sections.insert hend.sec hend.keys

theorem Readable.write {m : SectionMap} (hm : Readable m) {sec key value : Text}
    (hsec : Plain sec) (hnew : ReadsAs key value) :
    Readable (writeIniFileKeyValue m sec key value) := by
  unfold writeIniFileKeyValue
  split
  · rename_i secMap h
    exact hm.insert hsec (readsAs_insert (hm sec secMap h).2 hnew)
  · exact hm.insert hsec (readsAs_insert readsAs_empty hnew)

theorem readLine_header (s : ReadState) {name : Text} (h : Plain name) :
    readLine s (91 :: name ++ [93]) = s.beginSection name := by
  have hplain : Plain (91 :: name ++ [93]) :=
    (Plain.cons (by decide) h).append (.cons (by decide) fun c hc => (List.not_mem_nil hc).elim)
  rw [readLine, hplain.filter, scanLine_header]
  rfl

theorem readLine_key (s : ReadState) {it : Text × Text} (h : ReadsAs it.1 it.2) :
    readLine s (it.1 ++ 61 :: it.2) = s.setKey it := by
  rw [readLine, h.plain.filter, h.scan]
  rfl

theorem foldl_readLine_keys {entries : List (Text × Text)}
    (hkeys : ∀ it ∈ entries, ReadsAs it.1 it.2) (s : ReadState) :
    (entries.map fun it => it.1 ++ 61 :: it.2).foldl readLine s =
      entries.foldl ReadState.setKey s := by
  induction entries generalizing s with
  | nil => rfl
  | cons it entries ih =>
      rw [List.map_cons, List.foldl_cons, readLine_key s (hkeys it List.mem_cons_self)]
      exact ih (fun it' hit' => hkeys it' (List.mem_cons_of_mem _ hit')) _

/-- A map is read section by section. -/
theorem foldl_readLine {m : SectionMap} (hm : Readable m) {secs : List IniSection}
    (hsecs : ∀ e ∈ secs, e ∈ m.toList) (s : ReadState) :
    (secs.flatMap sectionLines).foldl readLine s = secs.foldl ReadState.readSection s := by
  induction secs generalizing s with
  | nil => rfl
  | cons sec secs ih =>
      have hsec := hm sec.1 sec.2
        (Std.TreeMap.mem_toList_iff_getElem?_eq_some.mp (hsecs sec List.mem_cons_self))
      have hkeys : ∀ it ∈ sec.2.toList, ReadsAs it.1 it.2 := fun it hit =>
        hsec.2 it.1 it.2 (Std.TreeMap.mem_toList_iff_getElem?_eq_some.mp hit)
      have hhead : (sectionLines sec).foldl readLine s = s.readSection sec := by
        rw [sectionLines, List.foldl_cons, readLine_header s hsec.1]
        exact foldl_readLine_keys hkeys _
      rw [List.flatMap_cons, List.foldl_append, hhead]
      exact ih (fun e he => hsecs e (List.mem_cons_of_mem _ he)) _

/-- Before the first line. -/
def ReadState.start : ReadState := { sec := [], oneSecMap := ∅, mSectionMap := ∅ }

theorem new_writeIniFile {m : SectionMap} (hm : Readable m) :
    new (some (writeIniFile m)) = (m.toList.foldl ReadState.readSection .start).close := by
  have hlines : ∀ line ∈ m.toList.flatMap sectionLines, 10 ∉ line := by
    intro line hline
    obtain ⟨sec, hmem, hline⟩ := List.mem_flatMap.mp hline
    obtain ⟨hsec, hkeys⟩ := hm sec.1 sec.2 (Std.TreeMap.mem_toList_iff_getElem?_eq_some.mp hmem)
    rcases List.mem_cons.mp hline with rfl | hline
    · simpa using hsec.newline_notMem
    · obtain ⟨it, hit, rfl⟩ := List.mem_map.mp hline
      have hread := hkeys it.1 it.2 (Std.TreeMap.mem_toList_iff_getElem?_eq_some.mp hit)
      exact hread.plain.newline_notMem
  rw [new, readIniFile, writeIniFile, getlines_flatMap hlines, foldl_readLine hm fun e he => he]
  rfl

/-- A map that was written and read has the values of all sections with names. -/
theorem read_new_writeIniFile {m : SectionMap} (hm : Readable m) {sec : Text} (hsec : sec ≠ [])
    (key : Text) :
    readIniFileKeyValue (new (some (writeIniFile m))) sec key = readIniFileKeyValue m sec key := by
  rw [new_writeIniFile hm]
  show (m.toList.foldl ReadState.readSection .start).value sec key = _
  obtain ⟨hmem, hother⟩ :=
    ReadState.value_foldl_readSection (OrdMap.nodup_keys_toList m) .start hsec key
  unfold readIniFileKeyValue
  cases hfind : m[sec]? with
  | some secMap => exact hmem secMap (Std.TreeMap.mem_toList_iff_getElem?_eq_some.mpr hfind)
  | none =>
      have hne : ∀ e ∈ m.toList, e.1 ≠ sec := by
        rintro ⟨sec', secMap⟩ he rfl
        rw [Std.TreeMap.mem_toList_iff_getElem?_eq_some.mp he] at hfind
        cases hfind
      rw [hother hne, ReadState.value_eq]
      exact if_neg hsec

/-- The name of no section is before the empty one. -/
theorem eq_nil_of_last {secs : List IniSection} {last : IniSection}
    (hordered : (secs ++ [last]).Pairwise fun a b => compare a.1 b.1 = .lt)
    (hlast : last.1 = []) : secs = [] := by
  rcases secs with - | ⟨⟨name, secMap⟩, secs⟩
  · rfl
  · rw [List.cons_append, List.pairwise_cons] at hordered
    have hlt := hordered.1 last (List.mem_append_right _ List.mem_cons_self)
    rw [hlast] at hlt
    cases name with
    | nil => cases hlt
    | cons c name => cases hlt

theorem mem_toList_of_mem {m : SectionMap} {sec : Text} (h : sec ∈ m) :
    ∃ secMap, m[sec]? = some secMap ∧ (sec, secMap) ∈ m.toList := by
  rw [Std.TreeMap.mem_iff_isSome_getElem?, Option.isSome_iff_exists] at h
  obtain ⟨secMap, hfind⟩ := h
  exact ⟨secMap, hfind, Std.TreeMap.mem_toList_iff_getElem?_eq_some.mpr hfind⟩

/-- The section without a name is read again if it is the only one. -/
theorem read_new_writeIniFile_only {m : SectionMap} (hm : Readable m) (hmem : [] ∈ m)
    (hall : ∀ sec ∈ m, sec = []) (key : Text) :
    readIniFileKeyValue (new (some (writeIniFile m))) [] key = readIniFileKeyValue m [] key := by
  obtain ⟨secMap, hfind, hin⟩ := mem_toList_of_mem hmem
  rw [new_writeIniFile hm]
  show (m.toList.foldl ReadState.readSection .start).value [] key = _
  have hlast : m.toList = [] ++ [(([] : Text), secMap)] := by
    have hone : ∀ e ∈ m.toList, e = (([] : Text), secMap) := by
      rintro ⟨sec, secMap'⟩ he
      have hfind' := Std.TreeMap.mem_toList_iff_getElem?_eq_some.mp he
      have hsec : sec = [] := hall sec (by rw [Std.TreeMap.mem_iff_isSome_getElem?, hfind']; rfl)
      subst hsec
      rw [hfind] at hfind'
      rw [Option.some.inj hfind']
    have hnodup := OrdMap.nodup_keys_toList m
    generalize m.toList = secs at *
    rcases secs with - | ⟨e, - | ⟨e', secs⟩⟩
    · cases hin
    · rw [hone e List.mem_cons_self]
      rfl
    · rw [hone e List.mem_cons_self, hone e' (List.mem_cons_of_mem _ List.mem_cons_self)] at hnodup
      exact absurd List.mem_cons_self (List.nodup_cons.mp hnodup).1
  rw [hlast, ReadState.value_foldl_readSection_nil _ _ _ Std.TreeMap.getElem?_emptyc, if_pos rfl,
    readIniFileKeyValue, hfind]
  rfl

/-- The section without a name is lost if there is another one. -/
theorem read_new_writeIniFile_nil {m : SectionMap} (hm : Readable m) {sec : Text} (hmem : sec ∈ m)
    (hsec : sec ≠ []) (key : Text) :
    readIniFileKeyValue (new (some (writeIniFile m))) [] key = none := by
  obtain ⟨secMap, -, hin⟩ := mem_toList_of_mem hmem
  rw [new_writeIniFile hm]
  show (m.toList.foldl ReadState.readSection .start).value [] key = _
  have hordered := Std.TreeMap.ordered_keys_toList (t := m)
  generalize m.toList = secs at *
  rcases List.eq_nil_or_concat secs with rfl | ⟨secs, last, rfl⟩
  · cases hin
  · rw [List.concat_eq_append] at *
    have hlast : last.1 ≠ [] := by
      intro hlast
      rw [eq_nil_of_last hordered hlast, List.nil_append, List.mem_singleton] at hin
      rw [← hin] at hlast
      exact hsec hlast
    rw [ReadState.value_foldl_readSection_nil _ _ _ Std.TreeMap.getElem?_emptyc, if_neg hlast]

/-! ### Writing -/

theorem read_writeIniFileKeyValue (m : SectionMap) (sec key value sec' key' : Text) :
    readIniFileKeyValue (writeIniFileKeyValue m sec key value) sec' key' =
      if sec' = sec ∧ key' = key then some value else readIniFileKeyValue m sec' key' := by
  unfold writeIniFileKeyValue readIniFileKeyValue
  by_cases hsec : sec' = sec
  · subst hsec
    cases hfind : m[sec']? with
    | some secMap =>
        simp only [OrdMap.getElem?_insert, if_true, Option.bind_some, true_and]
    | none =>
        simp only [OrdMap.getElem?_insert, if_true, Option.bind_some, Option.bind_none, true_and,
          Std.TreeMap.getElem?_emptyc]
  · rw [if_neg fun h => hsec h.1]
    split
    · rw [OrdMap.getElem?_insert, if_neg hsec]
    · rw [OrdMap.getElem?_insert, if_neg hsec]

theorem mem_writeIniFileKeyValue {m : SectionMap} {sec key value sec' : Text} :
    sec' ∈ writeIniFileKeyValue m sec key value ↔ sec' = sec ∨ sec' ∈ m := by
  unfold writeIniFileKeyValue
  split
  · rw [Std.TreeMap.mem_insert, Std.compare_eq_iff_eq, eq_comm]
  · rw [Std.TreeMap.mem_insert, Std.compare_eq_iff_eq, eq_comm]

/-- The two sides of a pair that is not the one written. -/
theorem pair_ne_iff {sec key sec' key' : Text} :
    (sec', key') ≠ (sec, key) ↔ ¬ (sec' = sec ∧ key' = key) := by
  rw [ne_eq, Prod.mk.injEq]

/-- What was written is read back, and everything else as before, unless there are keys in the
section without a name beside another section. -/
theorem readsBack_iff (file : Option (List UInt8)) (sec key value : Text) (hsec : Plain sec)
    (hkey : IsKey key) (hvalue : Plain value) :
    ReadsBack file sec key value ↔ Suits (new file) sec := by
  have hm := (readable_new file).write hsec (hkey.readsAs hvalue)
  have hread := read_writeIniFileKeyValue (new file) sec key value
  have hmem : sec ∈ writeIniFileKeyValue (new file) sec key value :=
    mem_writeIniFileKeyValue.mpr (.inl rfl)
  unfold ReadsBack Suits
  split
  · rename_i hempty
    subst hempty
    constructor
    · rintro ⟨hvalue', -⟩ sec' hsec'
      by_contra hne
      have hother : sec' ∈ writeIniFileKeyValue (new file) [] key value :=
        mem_writeIniFileKeyValue.mpr (.inr hsec')
      rw [read_new_writeIniFile_nil hm hother hne] at hvalue'
      cases hvalue'
    · intro hall
      have honly : ∀ sec' ∈ writeIniFileKeyValue (new file) [] key value, sec' = [] := by
        intro sec' hsec'
        exact (mem_writeIniFileKeyValue.mp hsec').elim id (hall sec')
      have hback : ∀ sec' key', readIniFileKeyValue
          (new (some (writeIniFile (writeIniFileKeyValue (new file) [] key value)))) sec' key' =
          if sec' = [] ∧ key' = key then some value
          else readIniFileKeyValue (new file) sec' key' := by
        intro sec' key'
        rw [← hread]
        by_cases hsec' : sec' = []
        · subst hsec'
          exact read_new_writeIniFile_only hm hmem honly key'
        · exact read_new_writeIniFile hm hsec' key'
      refine ⟨by rw [hback, if_pos ⟨rfl, rfl⟩], fun sec' key' hne => ?_⟩
      rw [hback, if_neg (pair_ne_iff.mp hne)]
  · rename_i hnamed
    constructor
    · rintro ⟨-, hother⟩ key'
      rw [← hother [] key' (pair_ne_iff.mpr fun h => hnamed h.1.symm)]
      exact read_new_writeIniFile_nil hm hmem hnamed key'
    · intro hnone
      refine ⟨by rw [read_new_writeIniFile hm hnamed, hread, if_pos ⟨rfl, rfl⟩], ?_⟩
      intro sec' key' hne
      by_cases hsec' : sec' = []
      · subst hsec'
        rw [read_new_writeIniFile_nil hm hmem hnamed, hnone]
      · rw [read_new_writeIniFile hm hsec', hread, if_neg (pair_ne_iff.mp hne)]

theorem isKey_k : IsKey [107] where
  plain := by decide
  equals := by decide
  first := by
    intro c hc
    obtain rfl : (107 : UInt8) = c := Option.some.inj hc
    decide

/-- Two sections with keys, and a comment. -/
def sampleFile : List UInt8 :=
  "# ports\n[s]\na=1\nk=2\n\n[t]\nb = 3\n".toList.map fun c => UInt8.ofNat c.toNat

/-- `k=v` in the section `s`, where there was another value before. -/
theorem readsBack_iff_sample :
    ReadsBack (some sampleFile) [115] [107] [118] ↔ Suits (new (some sampleFile)) [115] :=
  readsBack_iff (some sampleFile) [115] [107] [118] (by decide) isKey_k (by decide)

/-- The file `a=1` loses its key when `k=v` is written into the section `s`. -/
theorem not_readsBack : ¬ ReadsBack (some [97, 61, 49, 10]) [115] [107] [118] := by
  rintro ⟨-, hother⟩
  have hbefore : readIniFileKeyValue (new (some [97, 61, 49, 10])) [] [97] = some [49] := by decide
  have hm := (readable_new (some [97, 61, 49, 10])).write (by decide : Plain [115])
    (isKey_k.readsAs (by decide : Plain [118]))
  have hmem : [115] ∈ writeIniFileKeyValue (new (some [97, 61, 49, 10])) [115] [107] [118] :=
    mem_writeIniFileKeyValue.mpr (.inl rfl)
  have hlost := hother [] [97] (by decide)
  rw [read_new_writeIniFile_nil hm hmem (by decide), hbefore] at hlost
  cases hlost

end SignalingServer.IniFile
