import SignalingServer.Lib.SqlText
import SignalingServer.DeviceDb.DbManager

/-!
The texts of the statements that write `device_info` and `sub_device_info`
(dbManager.cpp). Every value stands between quotes as it came, so a statement is
read as the one that was meant exactly if its values need no escape.
-/

namespace SignalingServer

open SqlText

/-- A statement as it is meant; a value of `INSERT` is a text or NULL, and `SET` has one
assignment at least. -/
inductive SqlStatement where
  | insert (table : String) (columns : List String) (values : List (Option String))
  | update (database table : String) (first : String × String) (more : List (String × String))
      (key id : String)
  deriving DecidableEq, Repr

namespace SqlStatement

def commaSeparated : List (List Token) → List Token
  | [] => []
  | [ts] => ts
  | ts :: rest => ts ++ .sym ',' :: commaSeparated rest

def valueTokens : Option String → List Token
  | none => [.word "NULL".toList]
  | some v => [.str v.toList]

def assignTokens (a : String × String) : List Token :=
  [.ident a.1.toList, .sym '=', .str a.2.toList]

/-- The tokens of a statement. -/
def tokens : SqlStatement → List Token
  | .insert table columns values =>
      [.word "insert".toList, .word "into".toList, .word table.toList, .sym '('] ++
        commaSeparated (columns.map fun c => [.word c.toList]) ++
        [.sym ')', .word "values".toList, .sym '('] ++
        commaSeparated (values.map valueTokens) ++ [.sym ')', .sym ';']
  | .update database table first more key id =>
      [.word "UPDATE".toList, .ident database.toList, .sym '.', .ident table.toList,
        .word "SET".toList] ++
        commaSeparated ((first :: more).map assignTokens) ++
        [.word "WHERE".toList, .sym '(', .ident key.toList, .sym '=', .str id.toList, .sym ')',
          .sym ';']

end SqlStatement

def insertDeviceHead : String :=
  "insert into device_info (id, GBID, devType, protocol, deviceIp, devicePort, deviceUser," ++
    "devicePswd, deviceName) values (NULL,"

def insertSubDeviceHead : String :=
  "insert into sub_device_info (id, parentId, GBID, channelNo, channelName ) values (NULL,"

/-- The statement of `CDbManager::AddDeviceInfo`. -/
def insertDeviceInfo (nvr : StoredNvr) : String :=
  insertDeviceHead ++ "'" ++ nvr.mGBID ++ "', '" ++ nvr.mDevType ++ "', '" ++ nvr.mProtocol ++
    "', '" ++ nvr.mIP ++ "', '" ++ toString nvr.mPort ++ "', '" ++ nvr.mUser ++ "', '" ++
    nvr.mPswd ++ "', '" ++ nvr.mName ++ "'" ++ ");"

/-- The statement of both `CDbManager::AddSubDeviceInfo`. -/
def insertSubDeviceInfo (parentId gbid : String) (chlNo : Int) (name : String) : String :=
  insertSubDeviceHead ++ "'" ++ parentId ++ "', '" ++ gbid ++ "', '" ++ toString chlNo ++
    "', '" ++ name ++ "'" ++ ");"

/-- The statement of `CDbManager::updateChannelInfo`. -/
def updateChannelStatement (name deviceId : String) : String :=
  "UPDATE `yixin`.`sub_device_info` SET " ++ " `channelName` = '" ++ name ++ "'" ++
    " WHERE (`id` = '" ++ deviceId ++ "');"

/-- A call that builds a statement. The updates build one only for a field that is
there and differs. -/
inductive SqlCall where
  | addDeviceInfo (nvr : StoredNvr)
  | updateDeviceInfo (nvr newNvr : StoredNvr) (changed : nvr.changes newNvr ≠ [])
  | addSubDeviceInfo (parentId gbid : String) (chlNo : Int) (name : String)
  | updateChannelInfo (deviceId oldName newName : String)
      (changed : newName ≠ "" ∧ oldName ≠ newName)

namespace SqlCall

def text : SqlCall → String
  | .addDeviceInfo nvr => insertDeviceInfo nvr
  | .updateDeviceInfo nvr newNvr _ => updateStatement (nvr.changes newNvr) nvr.deviceId
  | .addSubDeviceInfo parentId gbid chlNo name => insertSubDeviceInfo parentId gbid chlNo name
  | .updateChannelInfo deviceId _ newName _ => updateChannelStatement newName deviceId

/-- The column of an assignment and what it gets. -/
def assignment (c : ColumnChange) : String × String := (c.column, c.literal)

/-- The statement that is meant. -/
def statement : SqlCall → SqlStatement
  | .addDeviceInfo nvr =>
      .insert "device_info"
        ["id", "GBID", "devType", "protocol", "deviceIp", "devicePort", "deviceUser",
          "devicePswd", "deviceName"]
        [none, some nvr.mGBID, some nvr.mDevType, some nvr.mProtocol, some nvr.mIP,
          some (toString nvr.mPort), some nvr.mUser, some nvr.mPswd, some nvr.mName]
  | .updateDeviceInfo nvr newNvr changed =>
      .update "yixin" "device_info" (assignment ((nvr.changes newNvr).head changed))
        ((nvr.changes newNvr).tail.map assignment) "id" nvr.deviceId
  | .addSubDeviceInfo parentId gbid chlNo name =>
      .insert "sub_device_info" ["id", "parentId", "GBID", "channelNo", "channelName"]
        [none, some parentId, some gbid, some (toString chlNo), some name]
  | .updateChannelInfo deviceId _ newName _ =>
      .update "yixin" "sub_device_info" ("channelName", newName) [] "id" deviceId

/-- The text that an assignment writes; a port is a number. -/
def changedText : ColumnChange → Option String
  | .text _ value => some value
  | .port _ => none

/-- The texts among the values; the others are numbers. -/
def fields : SqlCall → List String
  | .addDeviceInfo nvr =>
      [nvr.mGBID, nvr.mDevType, nvr.mProtocol, nvr.mIP, nvr.mUser, nvr.mPswd, nvr.mName]
  | .updateDeviceInfo nvr newNvr _ =>
      nvr.deviceId :: (nvr.changes newNvr).filterMap changedText
  | .addSubDeviceInfo parentId gbid _ name => [parentId, gbid, name]
  | .updateChannelInfo deviceId _ newName _ => [deviceId, newName]

/-- No text needs an escape. -/
def Plain (call : SqlCall) : Prop := ∀ f ∈ call.fields, Verbatim f.toList

instance (call : SqlCall) : Decidable call.Plain :=
  List.decidableBAll (fun f : String => Verbatim f.toList = true) call.fields

/-- The text is read as the statement that is meant, with each value as one literal. -/
def ParsesAsMeant (call : SqlCall) : Prop := lex call.text.toList = some call.statement.tokens

instance (call : SqlCall) : Decidable call.ParsesAsMeant :=
  inferInstanceAs (Decidable (_ = _))

end SqlCall

/-! ### Numbers -/

theorem verbatim_of_digits {cs : List Char} (h : ∀ c ∈ cs, c.isDigit = true) : Verbatim cs := by
  induction cs with
  | nil => rfl
  | cons c cs ih =>
      have hdigit := h c List.mem_cons_self
      have hne : ∀ d : Char, d.isDigit = false → c ≠ d := by
        rintro d hd rfl
        rw [hd] at hdigit
        cases hdigit
      rw [verbatim_cons (hne '\\' (by decide)), ih fun d hd => h d (List.mem_cons_of_mem _ hd)]
      simp [hne '\'' (by decide), hne nul (by decide)]

theorem verbatim_nat (n : Nat) : Verbatim (toString n).toList := by
  apply verbatim_of_digits
  intro c hc
  rw [Nat.toString_eq_repr, Nat.toList_repr] at hc
  exact Nat.isDigit_of_mem_toDigits (by decide) (by decide) hc

theorem verbatim_int (n : Int) : Verbatim (toString n).toList := by
  cases n with
  | ofNat n => exact verbatim_nat n
  | negSucc n =>
      have htext : (toString (Int.negSucc n)).toList = '-' :: (toString (n + 1)).toList := by
        change ("-" ++ (n + 1).repr).toList = _
        rw [String.toList_append]
        rfl
      rw [htext, verbatim_cons (by decide), verbatim_nat]
      decide

/-! ### The parts of the statements -/

theorem scan_insertDeviceHead :
    Fixed insertDeviceHead.toList ∧ (scan .start insertDeviceHead.toList).1 =
      [.word "insert".toList, .word "into".toList, .word "device_info".toList, .sym '('] ++
        SqlStatement.commaSeparated
          (["id", "GBID", "devType", "protocol", "deviceIp", "devicePort", "deviceUser",
            "devicePswd", "deviceName"].map fun c => [.word c.toList]) ++
        [.sym ')', .word "values".toList, .sym '(', .word "NULL".toList, .sym ','] := by
  decide +kernel

theorem scan_insertSubDeviceHead :
    Fixed insertSubDeviceHead.toList ∧ (scan .start insertSubDeviceHead.toList).1 =
      [.word "insert".toList, .word "into".toList, .word "sub_device_info".toList, .sym '('] ++
        SqlStatement.commaSeparated
          (["id", "parentId", "GBID", "channelNo", "channelName"].map fun c =>
            [.word c.toList]) ++
        [.sym ')', .word "values".toList, .sym '(', .word "NULL".toList, .sym ','] := by
  decide +kernel

theorem fixed_comma : Fixed ", ".toList := by decide

theorem fixed_end : Fixed ");".toList := by decide

/-- The values of an `INSERT` after its head. -/
def insertItems (head : String) : List String → List (List Char × List Char)
  | [] => []
  | v :: vs => (head.toList, v.toList) :: insertItems ", " vs

/-- The text that `insertItems` cuts up. -/
def insertText (head : String) : List String → String
  | [] => ");"
  | v :: vs => head ++ "'" ++ v ++ "'" ++ insertText ", " vs

theorem toList_insertText (head : String) (vs : List String) :
    (insertText head vs).toList = render (insertItems head vs) ");".toList := by
  have hquote : "'".toList = ['\''] := rfl
  induction vs generalizing head with
  | nil => rfl
  | cons v vs ih =>
      simp only [insertText, insertItems, render, String.toList_append, hquote, ih,
        List.append_assoc, List.cons_append, List.nil_append]

theorem expected_insertItems (head : String) (v : String) (vs : List String) :
    expected (insertItems head (v :: vs)) ");".toList =
      (scan .start head.toList).1 ++
        SqlStatement.commaSeparated ((v :: vs).map fun v => SqlStatement.valueTokens (some v)) ++
        [.sym ')', .sym ';'] := by
  induction vs generalizing head v with
  | nil =>
      have hend : (scan .start ");".toList).1 = [.sym ')', .sym ';'] := by decide
      rw [insertItems, insertItems, expected, expected, hend]
      simp only [List.map, SqlStatement.commaSeparated, SqlStatement.valueTokens,
        List.append_assoc, List.cons_append, List.nil_append]
  | cons u us ih =>
      have hcomma : (scan .start ", ".toList).1 = [.sym ','] := by decide
      rw [insertItems, expected, ih, hcomma]
      simp only [List.map, SqlStatement.commaSeparated, SqlStatement.valueTokens,
        List.append_assoc, List.cons_append, List.nil_append]

theorem fixed_insertItems {head : String} (hhead : Fixed head.toList) (vs : List String) :
    ∀ it ∈ insertItems head vs, Fixed it.1 := by
  induction vs generalizing head with
  | nil => exact fun it hit => absurd hit List.not_mem_nil
  | cons v vs ih =>
      intro it hit
      rcases List.mem_cons.mp hit with rfl | hit
      · exact hhead
      · exact ih fixed_comma it hit

theorem mem_insertItems {head : String} {vs : List String} :
    (∀ it ∈ insertItems head vs, Verbatim it.2) ↔ ∀ v ∈ vs, Verbatim v.toList := by
  induction vs generalizing head with
  | nil => simp [insertItems]
  | cons v vs ih => simp only [insertItems, List.forall_mem_cons, ih]

/-- An `INSERT` of texts after a head is read as it is meant exactly if no text needs
an escape. -/
theorem lex_insertText {head : String} (hhead : Fixed head.toList) (v : String)
    (vs : List String) :
    lex (insertText head (v :: vs)).toList = some ((scan .start head.toList).1 ++
        SqlStatement.commaSeparated ((v :: vs).map fun v => SqlStatement.valueTokens (some v)) ++
        [.sym ')', .sym ';']) ↔ ∀ v' ∈ v :: vs, Verbatim v'.toList := by
  rw [toList_insertText, ← expected_insertItems,
    lex_render_iff (fixed_insertItems hhead _) fixed_end, mem_insertItems]

theorem insertDeviceInfo_eq (nvr : StoredNvr) :
    insertDeviceInfo nvr = insertText insertDeviceHead
      [nvr.mGBID, nvr.mDevType, nvr.mProtocol, nvr.mIP, toString nvr.mPort, nvr.mUser, nvr.mPswd,
        nvr.mName] := by
  have hsep : "', '" = "'" ++ ", " ++ "'" := rfl
  unfold insertDeviceInfo
  rw [hsep]
  simp only [insertText, String.append_assoc, -String.reduceAppend]

theorem insertSubDeviceInfo_eq (parentId gbid : String) (chlNo : Int) (name : String) :
    insertSubDeviceInfo parentId gbid chlNo name =
      insertText insertSubDeviceHead [parentId, gbid, toString chlNo, name] := by
  have hsep : "', '" = "'" ++ ", " ++ "'" := rfl
  unfold insertSubDeviceInfo
  rw [hsep]
  simp only [insertText, String.append_assoc, -String.reduceAppend]

/-- The assignments of an `UPDATE` after the first one, and the id. -/
def setItems (id : String) : List (String × String) → List (List Char × List Char)
  | [] => [(" WHERE (`id` = ".toList, id.toList)]
  | a :: as => ((setLead true a.1).toList, a.2.toList) :: setItems id as

/-- An `UPDATE` from its first column on. -/
def updateItems (head id : String) (first : String × String) (more : List (String × String)) :
    List (List Char × List Char) :=
  ((head ++ setLead false first.1).toList, first.2.toList) :: setItems id more

theorem toList_setItems (id : String) (cs : List ColumnChange) :
    (setClauses true cs ++ (" WHERE (`id` = '" ++ id ++ "');")).toList =
      render (setItems id (cs.map SqlCall.assignment)) ");".toList := by
  induction cs with
  | nil =>
      have hlead : " WHERE (`id` = '".toList = " WHERE (`id` = ".toList ++ ['\''] := rfl
      have hend : "');".toList = '\'' :: ");".toList := rfl
      simp only [setClauses, List.map_nil, setItems, render, String.toList_append, hlead, hend,
        List.append_assoc, List.cons_append, List.nil_append]
      rfl
  | cons c cs ih =>
      have hquote : "` = '".toList = "` = ".toList ++ ['\''] := rfl
      have hend : "'".toList = ['\''] := rfl
      rw [List.map_cons, setItems, render, ← ih]
      simp only [SqlCall.assignment, setClauses, setLead, String.toList_append, hquote, hend,
        List.append_assoc, List.cons_append, List.nil_append]

/-- The text in front of the first column. -/
def updateHead (table : String) : String := "UPDATE `yixin`.`" ++ table ++ "` SET "

theorem toList_updateStatement (c : ColumnChange) (cs : List ColumnChange) (id : String) :
    (updateStatement (c :: cs) id).toList =
      render (updateItems (updateHead "device_info") id (SqlCall.assignment c)
        (cs.map SqlCall.assignment)) ");".toList := by
  have hhead : "UPDATE `yixin`.`device_info` SET " = updateHead "device_info" := rfl
  have hquote : "` = '".toList = "` = ".toList ++ ['\''] := rfl
  have hend : "'".toList = ['\''] := rfl
  unfold updateStatement
  rw [hhead, updateItems, render, ← toList_setItems, setClauses]
  simp only [SqlCall.assignment, setLead, String.toList_append]
  rw [hquote, hend]
  simp only [List.append_assoc, List.cons_append, List.nil_append]

theorem toList_updateChannelStatement (name deviceId : String) :
    (updateChannelStatement name deviceId).toList =
      render (updateItems (updateHead "sub_device_info") deviceId ("channelName", name) [])
        ");".toList := by
  have hhead : "UPDATE `yixin`.`sub_device_info` SET " = updateHead "sub_device_info" := rfl
  have hcolumn : " `channelName` = '".toList = (setLead false "channelName").toList ++ ['\''] := rfl
  have hquote : "'".toList = ['\''] := rfl
  have hwhere : " WHERE (`id` = '".toList = " WHERE (`id` = ".toList ++ ['\''] := rfl
  have hend : "');".toList = '\'' :: ");".toList := rfl
  unfold updateChannelStatement
  rw [hhead, updateItems, render, setItems, render, render]
  simp only [String.toList_append]
  rw [hcolumn, hquote, hwhere, hend]
  simp only [List.append_assoc, List.cons_append, List.nil_append]

theorem commaSeparated_cons (ts : List Token) (rest : List (List Token)) :
    SqlStatement.commaSeparated (ts :: rest) = ts ++ rest.flatMap (.sym ',' :: ·) := by
  induction rest generalizing ts with
  | nil => simp [SqlStatement.commaSeparated]
  | cons us rest ih => simp [SqlStatement.commaSeparated, ih]

/-- The lead `lead` of the column is a fixed part with the tokens `tokens` before it. -/
def Leads (tokens : List Token) (lead column : String) : Prop :=
  Fixed lead.toList ∧ (scan .start lead.toList).1 = tokens ++ [.ident column.toList, .sym '=']

instance (tokens : List Token) (lead column : String) : Decidable (Leads tokens lead column) :=
  inferInstanceAs (Decidable (_ ∧ _))

/-- The tokens in front of the first column. -/
def updateTokens (table : String) : List Token :=
  [.word "UPDATE".toList, .ident "yixin".toList, .sym '.', .ident table.toList,
    .word "SET".toList]

/-- The columns that `updateDeviceInfo` writes. -/
def updateColumns : List String :=
  ["devType", "protocol", "deviceIp", "devicePort", "deviceUser", "devicePswd", "deviceName"]

theorem column_mem (c : ColumnChange) : c.column ∈ updateColumns := by
  cases c with
  | text column value =>
      cases column <;> simp [ColumnChange.column, TextColumn.name, updateColumns]
  | port value => simp [ColumnChange.column, updateColumns]

theorem leads_next :
    ∀ column ∈ updateColumns, Leads [.sym ','] (setLead true column) column := by
  decide +kernel

theorem leads_own :
    ∀ column ∈ "channelName" :: updateColumns, Leads [] (setLead false column) column := by
  decide +kernel

theorem scan_updateHead :
    ∀ table ∈ ["device_info", "sub_device_info"], Fixed (updateHead table).toList ∧
      (scan .start (updateHead table).toList).1 = updateTokens table := by
  decide +kernel

/-- The first column of an `UPDATE`. -/
theorem leads_first {table column : String} (htable : table ∈ ["device_info", "sub_device_info"])
    (hcolumn : column ∈ "channelName" :: updateColumns) :
    Leads (updateTokens table) (updateHead table ++ setLead false column) column := by
  obtain ⟨hhead, htokens⟩ := scan_updateHead table htable
  obtain ⟨hlead, hcolumn⟩ := leads_own column hcolumn
  constructor
  · rw [String.toList_append]
    exact hhead.append hlead
  · rw [String.toList_append, hhead.scan_append, htokens, hcolumn, List.nil_append]

theorem fixed_where : Fixed " WHERE (`id` = ".toList := by decide +kernel

theorem fixed_setItems (id : String) {as : List (String × String)}
    (has : ∀ a ∈ as, Leads [.sym ','] (setLead true a.1) a.1) :
    ∀ it ∈ setItems id as, Fixed it.1 := by
  induction as with
  | nil =>
      intro it hit
      rw [List.mem_singleton.mp hit]
      exact fixed_where
  | cons a as ih =>
      intro it hit
      rcases List.mem_cons.mp hit with rfl | hit
      · exact (has a List.mem_cons_self).1
      · exact ih (fun a ha => has a (List.mem_cons_of_mem _ ha)) it hit

theorem expected_setItems (id : String) {as : List (String × String)}
    (has : ∀ a ∈ as, Leads [.sym ','] (setLead true a.1) a.1) :
    expected (setItems id as) ");".toList =
      (as.map SqlStatement.assignTokens).flatMap (.sym ',' :: ·) ++
        [.word "WHERE".toList, .sym '(', .ident "id".toList, .sym '=', .str id.toList, .sym ')',
          .sym ';'] := by
  induction as with
  | nil =>
      have hwhere : (scan .start " WHERE (`id` = ".toList).1 =
          [.word "WHERE".toList, .sym '(', .ident "id".toList, .sym '='] := by decide +kernel
      have hend : (scan .start ");".toList).1 = [.sym ')', .sym ';'] := by decide
      rw [setItems, expected, expected, hwhere, hend]
      rfl
  | cons a as ih =>
      rw [setItems, expected, ih fun a ha => has a (List.mem_cons_of_mem _ ha),
        (has a List.mem_cons_self).2]
      simp only [List.map_cons, List.flatMap_cons, SqlStatement.assignTokens, List.cons_append,
        List.nil_append]

/-- An `UPDATE` of texts is read as it is meant exactly if no text needs an escape. -/
theorem lex_updateItems {head table : String} (id : String) (first : String × String)
    (more : List (String × String))
    (hfirst : Leads (updateTokens table) (head ++ setLead false first.1) first.1)
    (hmore : ∀ a ∈ more, Leads [.sym ','] (setLead true a.1) a.1) :
    lex (render (updateItems head id first more) ");".toList) =
        some (SqlStatement.update "yixin" table first more "id" id).tokens ↔
      Verbatim first.2.toList ∧ ∀ it ∈ setItems id more, Verbatim it.2 := by
  have hfixed : ∀ it ∈ updateItems head id first more, Fixed it.1 := by
    intro it hit
    rcases List.mem_cons.mp hit with rfl | hit
    · exact hfirst.1
    · exact fixed_setItems id hmore it hit
  have htokens : expected (updateItems head id first more) ");".toList =
      (SqlStatement.update "yixin" table first more "id" id).tokens := by
    rw [updateItems, expected, expected_setItems id hmore, hfirst.2, SqlStatement.tokens,
      List.map_cons, commaSeparated_cons]
    simp only [updateTokens, SqlStatement.assignTokens, List.cons_append, List.nil_append]
  rw [← htokens, lex_render_iff hfixed fixed_end]
  exact List.forall_mem_cons

theorem mem_setItems {id : String} {as : List (String × String)} :
    (∀ it ∈ setItems id as, Verbatim it.2) ↔
      (∀ a ∈ as, Verbatim a.2.toList) ∧ Verbatim id.toList := by
  induction as with
  | nil => simp [setItems]
  | cons a as ih => simp only [setItems, List.forall_mem_cons, ih, and_assoc]

theorem lex_updateChannelStatement (name deviceId : String) :
    lex (updateChannelStatement name deviceId).toList =
        some (SqlStatement.update "yixin" "sub_device_info" ("channelName", name) [] "id"
          deviceId).tokens ↔ Verbatim name.toList ∧ Verbatim deviceId.toList := by
  have hlex := lex_updateItems deviceId ("channelName", name) []
    (leads_first (List.mem_cons_of_mem _ List.mem_cons_self) List.mem_cons_self) nofun
  rw [← toList_updateChannelStatement, mem_setItems] at hlex
  simpa using hlex

/-! ### The statements -/

theorem SqlStatement.insert_tokens {head table : String} {columns vs : List String}
    (hscan : (scan .start head.toList).1 =
      [.word "insert".toList, .word "into".toList, .word table.toList, .sym '('] ++
        commaSeparated (columns.map fun c => [.word c.toList]) ++
        [.sym ')', .word "values".toList, .sym '(', .word "NULL".toList, .sym ',']) (v : String) :
    (SqlStatement.insert table columns (none :: (v :: vs).map some)).tokens =
      (scan .start head.toList).1 ++
        commaSeparated ((v :: vs).map fun v => valueTokens (some v)) ++
        [.sym ')', .sym ';'] := by
  rw [hscan, tokens]
  simp only [List.map_cons, List.map_map, commaSeparated, valueTokens, List.append_assoc,
    List.cons_append, List.nil_append]
  rfl

theorem forall_literal (cs : List ColumnChange) :
    (∀ c ∈ cs, Verbatim c.literal.toList) ↔
      ∀ f ∈ cs.filterMap SqlCall.changedText, Verbatim f.toList := by
  induction cs with
  | nil => simp
  | cons c cs ih =>
      cases c with
      | text column value =>
          simp only [List.forall_mem_cons, List.filterMap_cons, SqlCall.changedText, ih]
          rfl
      | port value =>
          simp only [List.forall_mem_cons, List.filterMap_cons, SqlCall.changedText, ih]
          exact and_iff_right (verbatim_nat value)

/-- A statement is read as the one that was meant, with each value as one literal of
that value, exactly if no text has a NUL, a quote or a backslash that stands before
anything but a percent sign or an underscore. -/
theorem SqlCall.parsesAsMeant_iff (call : SqlCall) :
    call.ParsesAsMeant ↔ ∀ f ∈ call.fields, Verbatim f.toList := by
  cases call with
  | addDeviceInfo nvr =>
      obtain ⟨hfixed, hscan⟩ := scan_insertDeviceHead
      have hlex := lex_insertText hfixed nvr.mGBID
        [nvr.mDevType, nvr.mProtocol, nvr.mIP, toString nvr.mPort, nvr.mUser, nvr.mPswd, nvr.mName]
      rw [← SqlStatement.insert_tokens hscan, ← insertDeviceInfo_eq] at hlex
      refine hlex.trans ?_
      simp only [fields, List.forall_mem_cons, verbatim_int, true_and]
  | updateDeviceInfo nvr newNvr changed =>
      obtain ⟨c, cs, hchanges⟩ := List.exists_cons_of_ne_nil changed
      have hmore : ∀ a ∈ cs.map assignment, Leads [.sym ','] (setLead true a.1) a.1 := by
        intro a ha
        obtain ⟨c', -, rfl⟩ := List.mem_map.mp ha
        exact leads_next _ (column_mem c')
      have hlex := lex_updateItems nvr.deviceId (assignment c) (cs.map assignment)
        (leads_first List.mem_cons_self (List.mem_cons_of_mem _ (column_mem c))) hmore
      rw [← toList_updateStatement, mem_setItems, List.forall_mem_map] at hlex
      simp only [ParsesAsMeant, text, statement, hchanges, List.head_cons, List.tail_cons]
      rw [hlex, fields, hchanges, List.forall_mem_cons, ← forall_literal, List.forall_mem_cons]
      constructor
      · rintro ⟨hc, hcs, hid⟩
        exact ⟨hid, hc, hcs⟩
      · rintro ⟨hid, hc, hcs⟩
        exact ⟨hc, hcs, hid⟩
  | addSubDeviceInfo parentId gbid chlNo name =>
      obtain ⟨hfixed, hscan⟩ := scan_insertSubDeviceHead
      have hlex := lex_insertText hfixed parentId [gbid, toString chlNo, name]
      rw [← SqlStatement.insert_tokens hscan, ← insertSubDeviceInfo_eq] at hlex
      refine hlex.trans ?_
      simp only [fields, List.forall_mem_cons, verbatim_int, true_and]
  | updateChannelInfo deviceId oldName newName changed =>
      refine (lex_updateChannelStatement newName deviceId).trans ?_
      simp [fields, and_comm]

/-- A channel that is called O'Brien. -/
theorem SqlCall.apostrophe_ends_literal :
    ¬ ∀ call : SqlCall, call.ParsesAsMeant := by
  intro h
  have hname := h (.updateChannelInfo "9" "gate" "O'Brien" (by decide))
  revert hname
  decide +kernel

end SignalingServer
