import Parley.Conversation.Row
import Parley.Proofs.Calendar.Written
import Parley.Proofs.Dictionary
import Parley.Proofs.Flow.Labels

/-!
# Conversations in rows

What a row says of a conversation (`Conversation.Says`) is what is read of it, column by column:
where a column is missing, or its value does not count as true, a default stands in its place. So a
conversation is read back from its row as it was, and so is an entry of a history. A row may say the
same in several ways; those that say it as it is written (`Conversation.IsWritten`) are the rows
that are written again just as they were read.
-/

namespace Parley

open Schema Reading

/-- Every action has a name of its own. -/
theorem Action.read_name (a : Action) : Action.read (.str a.name) = .ok a := by
  cases a <;> rfl

theorem readNullableText_ofText? (text : Option String) :
    readNullableText (.ofText? text) = .ok text := by
  cases text <;> rfl

theorem Moment.truthy_text (m : Moment) : (Json.str m.text).truthy = true := by
  simpa [Json.truthy] using m.text_ne_empty

/-- What stands under the one name that is looked for is read. -/
theorem required_of_find? {α : Type} {fields : Fields} {name : String} {v : Json} {a : α}
    {f : Json → Reading α} (h : Dictionary.find? fields name = some v) (hread : f v = .ok a) :
    required fields [name] f = .ok a := by
  simp [Schema.required, pick?, h, hread, Reading.under]

theorem optional_of_find? {α : Type} {fields : Fields} {name : String} {v : Json} {a : α}
    {f : Json → Reading α} (h : Dictionary.find? fields name = some v) (default : α)
    (hread : f v = .ok a) : optional fields [name] default f = .ok a := by
  simp [Schema.optional, pick?, h, hread, Reading.under]

theorem under_eq_ok_iff {α : Type} {step : PathStep} {x : Reading α} {a : α} :
    x.under step = .ok a ↔ x = .ok a :=
  ⟨ok_of_under, fun h => by rw [h]; rfl⟩

theorem optional_eq_ok_iff {α : Type} {fields : Fields} {name : String} {default a : α}
    {f : Json → Reading α} : optional fields [name] default f = .ok a ↔
      ((Dictionary.find? fields name).map f).getD (.ok default) = .ok a := by
  unfold Schema.optional pick?
  cases hfind : Dictionary.find? fields name with
  | none => simp [hfind]
  | some v => simp [hfind, under_eq_ok_iff]

theorem exists_of_bind {α β ε : Type} {x : Except ε α} {f : α → Except ε β} {b : β}
    (h : x >>= f = .ok b) : ∃ a, x = .ok a ∧ f a = .ok b := by
  cases x with
  | error e => cases h
  | ok a => exact ⟨a, rfl, h⟩

namespace Conversation

theorem unpackVariables_obj (vars : Fields) : unpackVariables (.obj vars) = .ok (.obj vars) := by
  cases vars <;> rfl

/-! ## What a row says -/

/-- What is read in a column that counts as the default where the row does not have it. -/
def readKept {α : Type} (row : Row) (column : String) (default : α) (f : Json → Reading α) :
    Reading α :=
  ((Dictionary.find? row column).map f).getD (.ok default)

/-- What is read in a column that counts as the default where its value does not count as true. -/
def readTold {α : Type} (row : Row) (column : String) (default : α) (f : Json → Reading α) :
    Reading α :=
  if (row.cell column).truthy then f (row.cell column) else .ok default

/-- What a row says of a conversation. -/
structure Says (now : Moment) (row : Row) (c : Conversation) : Prop where
  id : row.require "id" = .ok (.str c.id)
  tenant : row.require "company_id" = .ok (.str c.contact.tenant)
  session : row.require "messaging_session_id" = .ok (.str c.contact.session)
  person : row.require "contact_id" = .ok (.str c.contact.person)
  flowId : row.require "chat_flow_id" = .ok (.str c.flowId)
  node : row.require "current_node_id" = .ok (.str c.node)
  vars : unpackVariables (row.cell "variables") = .ok (.obj c.vars)
  isActive : readKept row "is_active" true readTruth = .ok c.isActive
  awaitsInput : readKept row "awaiting_input" false readTruth = .ok c.awaitsInput
  entersOnResume : readTold row "enter_on_resume" false readTruth = .ok c.entersOnResume
  version : readTold row "version" 0 readWhole = .ok c.version
  createdAt : readTold row "created_at" now Moment.read = .ok c.createdAt
  updatedAt : readTold row "updated_at" now Moment.read = .ok c.updatedAt

/-- A column that is read where the row has it. -/
def kept (row : Row) (column : String) : Fields :=
  ((Dictionary.find? row column).map fun v => [(column, v)]).getD []

/-- A column that is read where its value counts as true. -/
def told (row : Row) (column : String) : Fields :=
  if (row.cell column).truthy then [(column, row.cell column)] else []

/-- The parts that a row has to have, as they are read. -/
def partFields (id tenant session person flowId node vars : Json) : Fields :=
  [("id", id), ("tenant_id", tenant), ("channel_session_id", session), ("contact_id", person),
    ("flow_id", flowId), ("current_node_id", node), ("variables", vars)]

/-- What is read of a row: its parts, and what it says beside them. -/
def rowFields (parts : Fields) (row : Row) : Fields :=
  parts ++ kept row "is_active" ++ kept row "awaiting_input" ++ told row "enter_on_resume"
    ++ told row "version" ++ told row "created_at" ++ told row "updated_at"

variable {now : Moment} {row : Row} {c : Conversation} {parts : Fields}

theorem find?_kept (row : Row) (column name : String) : Dictionary.find? (kept row column) name =
    if column = name then Dictionary.find? row column else none := by
  unfold kept
  cases Dictionary.find? row column with
  | none => simp
  | some v => simp [Dictionary.find?]

theorem find?_told (row : Row) (column name : String) : Dictionary.find? (told row column) name =
    if column = name then (if (row.cell column).truthy then some (row.cell column) else none)
    else none := by
  unfold told
  split <;> simp [Dictionary.find?]

theorem find?_rowFields_kept {name : String} (h : Dictionary.find? parts name = none)
    (hname : name = "is_active" ∨ name = "awaiting_input") :
    Dictionary.find? (rowFields parts row) name = Dictionary.find? row name := by
  unfold rowFields
  simp only [Dictionary.find?_append, find?_kept, find?_told, h, Option.none_or]
  obtain rfl | rfl := hname <;> simp

theorem find?_rowFields_told {name : String} (h : Dictionary.find? parts name = none)
    (hname : name ∈ ["enter_on_resume", "version", "created_at", "updated_at"]) :
    Dictionary.find? (rowFields parts row) name =
      if (row.cell name).truthy then some (row.cell name) else none := by
  unfold rowFields
  simp only [Dictionary.find?_append, find?_kept, find?_told, h, Option.none_or]
  simp only [List.mem_cons, List.not_mem_nil, or_false] at hname
  obtain rfl | rfl | rfl | rfl := hname <;> simp

theorem optional_text_iff {fields : Fields} {name default text : String} {v : Json}
    (h : Dictionary.find? fields name = some v) :
    optional fields [name] default readText = .ok text ↔ v = .str text := by
  rw [optional_eq_ok_iff, h]
  cases v <;> simp [readText, Reading.issue]

theorem required_text_iff {fields : Fields} {name text : String} {v : Json}
    (h : Dictionary.find? fields name = some v) :
    required fields [name] readText = .ok text ↔ v = .str text := by
  unfold Schema.required pick?
  cases v <;> simp [h, under_eq_ok_iff, readText, Reading.issue]

theorem optional_object_iff {fields members : Fields} {name : String} {v : Json}
    (h : Dictionary.find? fields name = some v) :
    optional fields [name] [] readObject = .ok members ↔ v = .obj members := by
  rw [optional_eq_ok_iff, h]
  cases v <;> simp [readObject, Reading.issue]

theorem optional_kept_iff {name : String} {default a : Bool}
    (h : Dictionary.find? parts name = none)
    (hname : name = "is_active" ∨ name = "awaiting_input") :
    optional (rowFields parts row) [name] default readTruth = .ok a ↔
      readKept row name default readTruth = .ok a := by
  rw [optional_eq_ok_iff, find?_rowFields_kept h hname]
  rfl

theorem optional_told_iff {α : Type} {name : String} {default a : α} {f : Json → Reading α}
    (h : Dictionary.find? parts name = none)
    (hname : name ∈ ["enter_on_resume", "version", "created_at", "updated_at"]) :
    optional (rowFields parts row) [name] default f = .ok a ↔
      readTold row name default f = .ok a := by
  rw [optional_eq_ok_iff, find?_rowFields_told h hname]
  unfold readTold
  split <;> rfl

/-- A conversation is read where each of its parts is. -/
theorem readFields_eq_ok_iff {newId : String} {fields : Fields} :
    readFields newId now fields = .ok c ↔
      (optional fields ["id"] newId readText = .ok c.id ∧
        required fields ["tenant_id"] readText = .ok c.contact.tenant ∧
        required fields ["channel_session_id"] readText = .ok c.contact.session ∧
        required fields ["contact_id"] readText = .ok c.contact.person ∧
        required fields ["flow_id"] readText = .ok c.flowId ∧
        required fields ["current_node_id"] readText = .ok c.node) ∧
      (optional fields ["is_active"] true readTruth = .ok c.isActive ∧
        optional fields ["awaiting_input"] false readTruth = .ok c.awaitsInput ∧
        optional fields ["enter_on_resume"] false readTruth = .ok c.entersOnResume) ∧
      optional fields ["variables"] [] readObject = .ok c.vars ∧
      optional fields ["version"] 0 readWhole = .ok c.version ∧
      optional fields ["created_at"] now Moment.read = .ok c.createdAt ∧
      optional fields ["updated_at"] now Moment.read = .ok c.updatedAt := by
  constructor
  · intro h
    obtain ⟨_, updatedAt, htoCreatedAt, hupdatedAt, rfl⟩ := ok_of_seq h
    obtain ⟨_, createdAt, htoVersion, hcreatedAt, rfl⟩ := ok_of_seq htoCreatedAt
    obtain ⟨_, version, htoVars, hversion, rfl⟩ := ok_of_seq htoVersion
    obtain ⟨_, vars, htoResume, hvars, rfl⟩ := ok_of_seq htoVars
    obtain ⟨_, entersOnResume, htoInput, hentersOnResume, rfl⟩ := ok_of_seq htoResume
    obtain ⟨_, awaitsInput, htoActive, hawaitsInput, rfl⟩ := ok_of_seq htoInput
    obtain ⟨_, isActive, htoNode, hisActive, rfl⟩ := ok_of_seq htoActive
    obtain ⟨_, node, htoFlow, hnode, rfl⟩ := ok_of_seq htoNode
    obtain ⟨_, flowId, htoPerson, hflowId, rfl⟩ := ok_of_seq htoFlow
    obtain ⟨_, person, htoSession, hperson, rfl⟩ := ok_of_seq htoPerson
    obtain ⟨_, session, htoTenant, hsession, rfl⟩ := ok_of_seq htoSession
    obtain ⟨_, tenant, htoId, htenant, rfl⟩ := ok_of_seq htoTenant
    obtain ⟨id, hid, rfl⟩ := ok_of_functor htoId
    exact ⟨⟨hid, htenant, hsession, hperson, hflowId, hnode⟩,
      ⟨hisActive, hawaitsInput, hentersOnResume⟩, hvars, hversion, hcreatedAt, hupdatedAt⟩
  · rintro ⟨⟨hid, htenant, hsession, hperson, hflowId, hnode⟩,
      ⟨hisActive, hawaitsInput, hentersOnResume⟩, hvars, hversion, hcreatedAt, hupdatedAt⟩
    unfold readFields
    rw [hid, htenant, hsession, hperson, hflowId, hnode, hisActive, hawaitsInput, hentersOnResume,
      hvars, hversion, hcreatedAt, hupdatedAt]
    rfl

theorem ofRow_eq {id tenant session person flowId node vars : Json}
    (hid : row.require "id" = .ok id) (htenant : row.require "company_id" = .ok tenant)
    (hsession : row.require "messaging_session_id" = .ok session)
    (hperson : row.require "contact_id" = .ok person)
    (hflowId : row.require "chat_flow_id" = .ok flowId)
    (hnode : row.require "current_node_id" = .ok node)
    (hvars : unpackVariables (row.cell "variables") = .ok vars) :
    ofRow now row = (readFields "" now
      (rowFields (partFields id tenant session person flowId node vars) row)).toExcept := by
  unfold ofRow
  simp only [hvars, hid, htenant, hsession, hperson, hflowId, hnode, bind, Except.bind]
  rfl

theorem toExcept_eq_ok_iff {α : Type} {x : Reading α} {a : α} : x.toExcept = .ok a ↔ x = .ok a := by
  cases x <;> simp [Reading.toExcept]

/-- What the fields that are read of a row say. -/
theorem readFields_rowFields {id tenant session person flowId node vars : Json} :
    readFields "" now (rowFields (partFields id tenant session person flowId node vars) row) =
      .ok c ↔
      (id = .str c.id ∧ tenant = .str c.contact.tenant ∧ session = .str c.contact.session ∧
        person = .str c.contact.person ∧ flowId = .str c.flowId ∧ node = .str c.node) ∧
      (readKept row "is_active" true readTruth = .ok c.isActive ∧
        readKept row "awaiting_input" false readTruth = .ok c.awaitsInput ∧
        readTold row "enter_on_resume" false readTruth = .ok c.entersOnResume) ∧
      vars = .obj c.vars ∧ readTold row "version" 0 readWhole = .ok c.version ∧
      readTold row "created_at" now Moment.read = .ok c.createdAt ∧
      readTold row "updated_at" now Moment.read = .ok c.updatedAt := by
  rw [readFields_eq_ok_iff, optional_text_iff (v := id) rfl, required_text_iff (v := tenant) rfl,
    required_text_iff (v := session) rfl, required_text_iff (v := person) rfl,
    required_text_iff (v := flowId) rfl, required_text_iff (v := node) rfl,
    optional_object_iff (v := vars) rfl, optional_kept_iff rfl (.inl rfl),
    optional_kept_iff rfl (.inr rfl), optional_told_iff rfl (by simp),
    optional_told_iff rfl (by simp), optional_told_iff rfl (by simp),
    optional_told_iff rfl (by simp)]

/-- A conversation is read from a row just where the row says it. -/
theorem ofRow_eq_ok_iff : ofRow now row = .ok c ↔ Says now row c := by
  constructor
  · intro hread
    obtain ⟨vars, hvars, hrest⟩ := exists_of_bind hread
    obtain ⟨id, hid, hrest⟩ := exists_of_bind hrest
    obtain ⟨tenant, htenant, hrest⟩ := exists_of_bind hrest
    obtain ⟨session, hsession, hrest⟩ := exists_of_bind hrest
    obtain ⟨person, hperson, hrest⟩ := exists_of_bind hrest
    obtain ⟨flowId, hflowId, hrest⟩ := exists_of_bind hrest
    obtain ⟨node, hnode, -⟩ := exists_of_bind hrest
    rw [ofRow_eq hid htenant hsession hperson hflowId hnode hvars, toExcept_eq_ok_iff,
      readFields_rowFields] at hread
    obtain ⟨⟨rfl, rfl, rfl, rfl, rfl, rfl⟩, ⟨hisActive, hawaitsInput, hentersOnResume⟩, rfl,
      hversion, hcreatedAt, hupdatedAt⟩ := hread
    exact ⟨hid, htenant, hsession, hperson, hflowId, hnode, hvars, hisActive, hawaitsInput,
      hentersOnResume, hversion, hcreatedAt, hupdatedAt⟩
  · intro h
    rw [ofRow_eq h.id h.tenant h.session h.person h.flowId h.node h.vars, toExcept_eq_ok_iff]
    exact readFields_rowFields.2 ⟨⟨rfl, rfl, rfl, rfl, rfl, rfl⟩,
      ⟨h.isActive, h.awaitsInput, h.entersOnResume⟩, rfl, h.version, h.createdAt, h.updatedAt⟩

/-! ## Rows that were written -/

theorem readTold_bool {column : String} {b : Bool} (h : row.cell column = .bool b) :
    readTold row column false readTruth = .ok b := by
  unfold readTold
  rw [h]
  cases b <;> rfl

theorem readTold_int {column : String} {n : Int} (h : row.cell column = .int n) :
    readTold row column 0 readWhole = .ok n := by
  unfold readTold
  rw [h]
  by_cases hzero : n = 0
  · rw [hzero]
    rfl
  · rw [if_pos (by simpa [Json.truthy] using hzero)]
    rfl

theorem readTold_moment {column : String} {m : Moment} (h : row.cell column = .str m.text) :
    readTold row column now Moment.read = .ok m := by
  unfold readTold
  rw [h, if_pos m.truthy_text, Moment.read_text]

theorem cell_of_find? {column : String} {v : Json} (h : Dictionary.find? row column = some v) :
    row.cell column = v := by
  rw [Row.cell, h, Option.getD_some]

theorem require_of_find? {column : String} {v : Json} (h : Dictionary.find? row column = some v) :
    row.require column = .ok v := by
  rw [Row.require, h]

theorem keys_toRow (c : Conversation) : Dictionary.keys c.toRow = ["id", "created_at", "company_id",
    "messaging_session_id", "contact_id", "chat_flow_id", "current_node_id", "is_active",
    "awaiting_input", "enter_on_resume", "variables", "version", "updated_at"] := rfl

/-- The columns of a row are named once each. -/
theorem nodup_toRow (c : Conversation) : (Dictionary.keys c.toRow).Nodup := by
  rw [keys_toRow]
  decide

theorem nodup_changes (c : Conversation) : (Dictionary.keys c.changes).Nodup :=
  (List.nodup_cons.1 (List.nodup_cons.1 c.nodup_toRow).2).2

/-- What a write says in the columns that it may change is what is read of them. -/
theorem says_of_changes (hid : row.require "id" = .ok (.str c.id))
    (hchanges : ∀ column v, Dictionary.find? c.changes column = some v →
      Dictionary.find? row column = some v)
    (hcreatedAt : readTold row "created_at" now Moment.read = .ok c.createdAt) :
    Says now row c where
  id := hid
  tenant := require_of_find? (hchanges _ _ rfl)
  session := require_of_find? (hchanges _ _ rfl)
  person := require_of_find? (hchanges _ _ rfl)
  flowId := require_of_find? (hchanges _ _ rfl)
  node := require_of_find? (hchanges _ _ rfl)
  vars := by rw [cell_of_find? (hchanges _ _ rfl), unpackVariables_obj]
  isActive := by
    rw [readKept, hchanges "is_active" _ rfl]
    rfl
  awaitsInput := by
    rw [readKept, hchanges "awaiting_input" _ rfl]
    rfl
  entersOnResume := readTold_bool (cell_of_find? (hchanges _ _ rfl))
  version := readTold_int (cell_of_find? (hchanges _ _ rfl))
  createdAt := hcreatedAt
  updatedAt := readTold_moment (cell_of_find? (hchanges _ _ rfl))

theorem find?_toRow_of_changes {column : String} {v : Json}
    (h : Dictionary.find? c.changes column = some v) :
    Dictionary.find? c.toRow column = some v :=
  Dictionary.find?_of_mem c.nodup_toRow (.tail _ (.tail _ (Dictionary.mem_of_find? h)))

/-- What is read of a row hangs on its columns, and not on the order in which it has them. -/
theorem ofRow_of_same (now : Moment)
    (hsame : ∀ column, Dictionary.find? c.toRow column = Dictionary.find? row column) :
    ofRow now row = .ok c := by
  have hcreatedAt : Dictionary.find? row "created_at" = some (.str c.createdAt.text) :=
    (hsame "created_at").symm
  refine ofRow_eq_ok_iff.2 (says_of_changes (require_of_find? (hsame "id").symm) ?_ ?_)
  · intro column v hv
    rw [← hsame, find?_toRow_of_changes hv]
  · exact readTold_moment (cell_of_find? hcreatedAt)

/-- A conversation is read back from its row. -/
theorem ofRow_toRow (now : Moment) (c : Conversation) : ofRow now c.toRow = .ok c :=
  ofRow_of_same now fun _ => rfl

/-! ## The written form -/

/-- The columns in which a conversation has a text. -/
def textColumns : List String := ["id", "company_id", "messaging_session_id", "contact_id",
  "chat_flow_id", "current_node_id"]

/-- The columns in which it has a truth value. -/
def truthColumns : List String := ["is_active", "awaiting_input", "enter_on_resume"]

/-- The columns in which it has a moment. -/
def momentColumns : List String := ["created_at", "updated_at"]

/-- The columns of a conversation. -/
def columns : List String :=
  textColumns ++ truthColumns ++ momentColumns ++ ["variables", "version"]

/-- A row in the form in which conversations are written: it has the columns of a conversation and
no others, and none of them has its value in another form that can be read as well. -/
structure IsWritten (row : Row) : Prop where
  text : ∀ column ∈ textColumns, ∃ s, Dictionary.find? row column = some (.str s)
  truth : ∀ column ∈ truthColumns, ∃ b, Dictionary.find? row column = some (.bool b)
  moment : ∀ column ∈ momentColumns, ∃ m : Moment,
    Dictionary.find? row column = some (.str m.text)
  vars : ∃ vars, Dictionary.find? row "variables" = some (.obj vars)
  version : ∃ n, Dictionary.find? row "version" = some (.int n)
  others : ∀ column, column ∉ columns → Dictionary.find? row column = none

theorem mem_keys_toRow {column : String} : column ∈ Dictionary.keys c.toRow ↔ column ∈ columns := by
  have hperm : (Dictionary.keys c.toRow).Perm columns := by
    rw [keys_toRow]
    decide
  exact hperm.mem_iff

/-- The row of a conversation is in the written form. -/
theorem isWritten_toRow (c : Conversation) : IsWritten c.toRow where
  text column h := by
    simp only [textColumns, List.mem_cons, List.not_mem_nil, or_false] at h
    obtain rfl | rfl | rfl | rfl | rfl | rfl := h <;> exact ⟨_, rfl⟩
  truth column h := by
    simp only [truthColumns, List.mem_cons, List.not_mem_nil, or_false] at h
    obtain rfl | rfl | rfl := h <;> exact ⟨_, rfl⟩
  moment column h := by
    simp only [momentColumns, List.mem_cons, List.not_mem_nil, or_false] at h
    obtain rfl | rfl := h <;> exact ⟨_, rfl⟩
  vars := ⟨_, rfl⟩
  version := ⟨_, rfl⟩
  others column h := Dictionary.find?_eq_none.2 (mt mem_keys_toRow.1 h)

/-- Whether a row is in the written form does not hang on the order of its columns. -/
theorem IsWritten.of_same {other : Row} (h : IsWritten other)
    (hsame : ∀ column, Dictionary.find? other column = Dictionary.find? row column) :
    IsWritten row := by
  have hcolumns : Dictionary.find? row = Dictionary.find? other := funext fun n => (hsame n).symm
  obtain ⟨htext, htruth, hmoment, hvars, hversion, hothers⟩ := h
  constructor <;> rwa [hcolumns]

/-- Every row in the written form is the row of a conversation, but for the order of its columns. -/
theorem IsWritten.exists_same (h : IsWritten row) :
    ∃ c : Conversation, ∀ column,
      Dictionary.find? c.toRow column = Dictionary.find? row column := by
  obtain ⟨id, hid⟩ := h.text "id" (by simp [textColumns])
  obtain ⟨tenant, htenant⟩ := h.text "company_id" (by simp [textColumns])
  obtain ⟨session, hsession⟩ := h.text "messaging_session_id" (by simp [textColumns])
  obtain ⟨person, hperson⟩ := h.text "contact_id" (by simp [textColumns])
  obtain ⟨flowId, hflowId⟩ := h.text "chat_flow_id" (by simp [textColumns])
  obtain ⟨node, hnode⟩ := h.text "current_node_id" (by simp [textColumns])
  obtain ⟨isActive, hisActive⟩ := h.truth "is_active" (by simp [truthColumns])
  obtain ⟨awaitsInput, hawaitsInput⟩ := h.truth "awaiting_input" (by simp [truthColumns])
  obtain ⟨entersOnResume, hentersOnResume⟩ := h.truth "enter_on_resume" (by simp [truthColumns])
  obtain ⟨createdAt, hcreatedAt⟩ := h.moment "created_at" (by simp [momentColumns])
  obtain ⟨updatedAt, hupdatedAt⟩ := h.moment "updated_at" (by simp [momentColumns])
  obtain ⟨vars, hvars⟩ := h.vars
  obtain ⟨version, hversion⟩ := h.version
  let c : Conversation :=
    { id, contact := { tenant, session, person }, flowId, node, isActive, awaitsInput,
      entersOnResume, vars, version, createdAt, updatedAt }
  have htold : ∀ p ∈ c.toRow, Dictionary.find? row p.1 = some p.2 := by
    simp [c, toRow, changes, *]
  refine ⟨c, fun column => ?_⟩
  cases hfind : Dictionary.find? c.toRow column with
  | some v => exact (htold _ (Dictionary.mem_of_find? hfind)).symm
  | none =>
    have hother : column ∉ columns := mt mem_keys_toRow.2 (Dictionary.find?_eq_none.1 hfind)
    exact (h.others column hother).symm

/-- A conversation is read back from its row as it was, at whatever moment, and the row of what is
read is the one that was written. A row is in the written form just where it can be read, and what
is read of it has the same row. -/
theorem ofRow_inverse (now : Moment) :
    (∀ c : Conversation, ofRow now c.toRow = .ok c) ∧
      (∀ c : Conversation, (ofRow now c.toRow).map toRow = .ok c.toRow) ∧
      ∀ row, IsWritten row ↔ ∃ c, ofRow now row = .ok c ∧
        ∀ column, Dictionary.find? c.toRow column = Dictionary.find? row column := by
  refine ⟨ofRow_toRow now, fun c => ?_, fun row => ⟨fun h => ?_, ?_⟩⟩
  · rw [ofRow_toRow]
    rfl
  · obtain ⟨c, hsame⟩ := h.exists_same
    exact ⟨c, ofRow_of_same now hsame, hsame⟩
  · rintro ⟨c, -, hsame⟩
    exact c.isWritten_toRow.of_same hsame

end Conversation

/-- An entry of a history is read back from its row. -/
theorem Entry.ofRow_toRow (now : Moment) (e : Entry) : ofRow now e.toRow = .ok e := by
  have hcells : Row.cell e.toRow "created_at" = .str e.at_.text ∧
      Row.cell e.toRow "input" = .ofText? e.input ∧ Row.cell e.toRow "output" = .ofText? e.output ∧
      Row.cell e.toRow "condition_result" = .ofText? e.label := ⟨rfl, rfl, rfl, rfl⟩
  have hparts : Row.require e.toRow "contact_flow_state_id" = .ok (.str e.conversation) ∧
      Row.require e.toRow "node_id" = .ok (.str e.node) ∧
      Row.require e.toRow "node_type" = .ok (.str e.nodeKind) ∧
      Row.require e.toRow "action" = .ok (.str e.action.name) := ⟨rfl, rfl, rfl, rfl⟩
  have hfields : readFields now [("instance_id", .str e.conversation), ("node_id", .str e.node),
      ("node_type", .str e.nodeKind), ("action", .str e.action.name), ("input", .ofText? e.input),
      ("output", .ofText? e.output), ("condition_label", .ofText? e.label),
      ("timestamp", .str e.at_.text)] = .ok e := by
    unfold readFields
    rw [required_of_find? rfl (Action.read_name e.action),
      optional_of_find? rfl none (readNullableText_ofText? e.input),
      optional_of_find? rfl none (readNullableText_ofText? e.output),
      optional_of_find? rfl none (readNullableText_ofText? e.label),
      optional_of_find? rfl now (Moment.read_text e.at_)]
    rfl
  unfold ofRow
  simp only [hcells, hparts, bind, Except.bind, Action.read_name, Moment.truthy_text, if_true,
    List.cons_append, List.nil_append, hfields, Reading.toExcept_ok]

end Parley
