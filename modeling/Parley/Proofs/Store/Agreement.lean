import Mathlib.Tactic.Tauto
import Parley.Proofs.Conversation.Row
import Parley.Proofs.Store.Clients
import Parley.Proofs.Store.Ledger
import Parley.Store.Backing

/-!
# Memory and tables agree

A ledger keeps conversations under their ids, and histories as they grow. Tables keep rows: columns
under other names, moments as texts, and changes to the rows that pass a filter. `Mirrors` ties the
rows to the ledger, and every question keeps it (`Mirrors.answer`): what is read of the rows is what
the ledger has, and a write changes the same conversations in both. So a ledger and tables that
begin with nothing answer alike whatever is asked of them in turn (`answers_agree`), refusals and
the versions that they tell included.

It takes what `Proper` asks for: contacts without colons, new conversations under new ids and for
contacts without an active one, saves that leave alone when a conversation began, and histories in
the order of their moments by one clock. With two clocks it is not enough that the moments never go
back: the tables order a history by the texts of the moments (`answers_differ_acrossClocks`).
-/

namespace Parley

/-- No company and no session of a contact has a colon. -/
def Contact.IsPlain (contact : Contact) : Prop :=
  ':' ∉ contact.tenant.toList ∧ ':' ∉ contact.session.toList

/-- One moment is not after another: by universal time where it is known of both, and by their
clocks where it is known of neither. -/
def Moment.NotAfter (a b : Moment) : Prop :=
  match a.offset, b.offset with
  | some x, some y => (a.micros : Int) - x * 60000000 ≤ b.micros - y * 60000000
  | none, none => a.micros ≤ b.micros
  | _, _ => False

/-- By clocks that agree, one moment is not after another. -/
def Moment.IsBy (a b : Moment) : Prop := a.offset = b.offset ∧ a.micros ≤ b.micros

namespace Store

open Tabular Shared Rehearsal.Clock

/-! ## Rows -/

theorem passes_id (c : Conversation) (id : String) :
    Database.passes [.equal "id" (.str id)] c.toRow = (c.id == id) := by
  show ((Json.str c.id).same (.str id) && true) = _
  rw [Bool.and_true]
  rfl

theorem passes_version (c : Conversation) (id : String) (n : Int) :
    Database.passes [.equal "id" (.str id), .equal "version" (.int n)] c.toRow =
      (c.id == id && c.version == n) := by
  show ((Json.str c.id).same (.str id) && ((Json.int c.version).same (.int n) && true)) = _
  rw [Bool.and_true]
  rfl

/-- The active conversations of a contact are those of its key, where no part of it has a colon. -/
theorem passes_activeOf {c : Conversation} {contact : Contact} (hc : c.contact.IsPlain)
    (hcontact : contact.IsPlain) :
    Database.passes (activeOf contact) c.toRow = Ledger.holds contact.key c := by
  have hkey : c.key = contact.key ↔ c.contact = contact :=
    ⟨Contact.eq_of_key_eq hc.1 hc.2 hcontact.1 hcontact.2, fun h => congrArg Contact.key h⟩
  have hactive : (Json.bool c.isActive).same (.bool true) = c.isActive := by
    cases c.isActive <;> rfl
  show ((Json.str c.contact.tenant).same (.str contact.tenant) &&
    ((Json.str c.contact.session).same (.str contact.session) &&
    ((Json.str c.contact.person).same (.str contact.person) &&
    ((Json.bool c.isActive).same (.bool true) && true)))) = (c.isActive && c.key == contact.key)
  rw [hactive, Bool.and_true, Bool.eq_iff_iff]
  simp only [Bool.and_eq_true, Json.same, beq_iff_eq, hkey, Contact.ext_iff]
  tauto

theorem passes_history (e : Entry) (id : String) :
    Database.passes [.equal "contact_flow_state_id" (.str id)] e.toRow =
      (e.conversation == id) := by
  show ((Json.str e.conversation).same (.str id) && true) = _
  rw [Bool.and_true]
  rfl

theorem changed_toRow {b c : Conversation} (hid : b.id = c.id)
    (hcreated : c.createdAt = b.createdAt) : Database.changed c.changes b.toRow = c.toRow := by
  unfold Conversation.toRow
  rw [hid, hcreated]
  rfl

/-- A conversation that is ended, as the changes to its row say. -/
theorem changed_finished (now : Moment) (c : Conversation) :
    Database.changed [("is_active", .bool false), ("awaiting_input", .bool false),
        ("version", .int (c.version + 1)), ("updated_at", .str now.text)] c.toRow =
      Conversation.toRow { c.finished with version := c.version + 1, updatedAt := now } := rfl

theorem nextVersion_toRow (c : Conversation) :
    nextVersion c.toRow = .ok (.int (c.version + 1)) := by
  show (if (Json.int c.version).truthy then Except.ok (Json.int (c.version + 1)) else
    .ok (.int 1)) = _
  by_cases hzero : c.version = 0
  · rw [hzero]
    rfl
  · rw [if_pos (by simpa [Json.truthy] using hzero)]

theorem run_put {α : Type} (r : Request) (f : List Row → Requests α) (db : Database) :
    Database.run (Database.put r >>= f) db = Database.run (f (db.answer r).1) (db.answer r).2 := rfl

theorem run_ofExcept {α : Type} (x : Except Failure α) (db : Database) :
    Database.run (Program.ofExcept x) db = (x, db) := by
  cases x <;> rfl

theorem run_andThen {α β : Type} {p : Requests α} {f : α → Requests β} {db : Database} {a : α}
    (h : (Database.run p db).1 = .ok a) :
    Database.run (p >>= f) db = Database.run (f a) (Database.run p db).2 := by
  induction p generalizing db with
  | done b =>
    cases h
    rfl
  | fail e => cases h
  | ask q next ih => exact ih _ h

theorem answer_ordered (db : Database) (table column : String) (filters : List Filter) :
    (db.answer (.select table filters (some column))).1 =
      ((db.rows table).filter (Database.passes filters)).mergeSort fun a b =>
        (a.cell column).precedes (b.cell column) := rfl

theorem first?_map (now : Moment) (cs : List Conversation) :
    first? (Conversation.ofRow now) (cs.map Conversation.toRow) = .ok cs.head? := by
  cases cs with
  | nil => rfl
  | cons c cs =>
    show (Conversation.ofRow now c.toRow).map some = _
    rw [Conversation.ofRow_toRow]
    rfl

theorem mapM_ofRow (now : Moment) (es : List Entry) :
    (es.map Entry.toRow).mapM (Entry.ofRow now) = .ok es := by
  induction es with
  | nil => rfl
  | cons e es ih =>
    rw [List.map_cons, List.mapM_cons, Entry.ofRow_toRow, ih]
    rfl

/-! ## What tables mirror -/

/-- The tables hold what the ledger holds. -/
structure Mirrors (db : Database) (l : Ledger) : Prop where
  tidy : l.IsTidy
  conversations : db.rows conversationTable = l.all.map Conversation.toRow
  plain : ∀ c ∈ l.all, c.contact.IsPlain
  histories : ∀ id, (db.rows historyTable).filter
    (Database.passes [.equal "contact_flow_state_id" (.str id)]) = (l.historyOf id).map Entry.toRow
  ordered : ∀ id, (l.historyOf id).Pairwise fun a b => a.at_.IsBy b.at_

variable {db db' : Database} {l : Ledger}

theorem Mirrors.of_rows (h : Mirrors db l) (hrows : ∀ table, db'.rows table = db.rows table) :
    Mirrors db' l where
  tidy := h.tidy
  conversations := (hrows _).trans h.conversations
  plain := h.plain
  histories id := by
    rw [hrows]
    exact h.histories id
  ordered := h.ordered

theorem Mirrors.selected (h : Mirrors db l) (filters : List Filter) (p : Conversation → Bool)
    (hp : ∀ c ∈ l.all, Database.passes filters c.toRow = p c) :
    (db.rows conversationTable).filter (Database.passes filters) =
      (l.all.filter p).map Conversation.toRow := by
  rw [h.conversations, List.filter_map]
  refine congrArg (List.map Conversation.toRow) (List.filter_congr fun c hc => hp c hc)

/-- What is read from rows that were selected is an answer, and the tables stay. -/
theorem Mirrors.read {α : Type} (h : Mirrors db l) {table : String} {filters : List Filter}
    {order : Option String} {read : List Row → Except Failure α} {a : α}
    (hread : read (db.answer (.select table filters order)).1 = .ok a) :
    (Database.run (Database.put (.select table filters order) >>= fun rows =>
      Program.ofExcept (read rows)) db).1 = .ok a ∧
    Mirrors (Database.run (Database.put (.select table filters order) >>= fun rows =>
      Program.ofExcept (read rows)) db).2 l := by
  rw [run_put, run_ofExcept]
  exact ⟨hread, h.of_rows fun other => rows_select db table other filters order⟩

/-- A conversation of an id is found in both. -/
theorem Mirrors.find? (h : Mirrors db l) (now : Moment) (id : String) :
    (Database.run (conversation now id) db).1 = .ok (l.find? id) ∧
      Mirrors (Database.run (conversation now id) db).2 l := by
  refine h.read ?_
  show first? _ ((db.rows conversationTable).filter _) = _
  rw [h.selected _ (fun c => c.id == id) fun c _ => passes_id c id, first?_map, List.head?_filter,
    h.tidy.find?_all]

theorem Mirrors.active? (h : Mirrors db l) (now : Moment) {contact : Contact}
    (hcontact : contact.IsPlain) :
    (Database.run (active now contact) db).1 = .ok (l.active? contact.key) ∧
      Mirrors (Database.run (active now contact) db).2 l := by
  refine h.read ?_
  show first? _ ((db.rows conversationTable).filter _) = _
  rw [h.selected _ _ fun c hc => passes_activeOf (h.plain c hc) hcontact, first?_map,
    List.head?_filter]
  rfl

theorem Mirrors.historyOf (h : Mirrors db l) (now : Moment) (id : String) :
    (Database.run (history now id) db).1 = .ok (l.historyOf id) ∧
      Mirrors (Database.run (history now id) db).2 l := by
  have hcell : ∀ e : Entry, Row.cell e.toRow "created_at" = .str e.at_.text := fun _ => rfl
  have hsorted : ((l.historyOf id).map Entry.toRow).Pairwise fun a b =>
      (a.cell "created_at").precedes (b.cell "created_at") = true := by
    refine List.pairwise_map.2 ((h.ordered id).imp ?_)
    intro a b hab
    rw [hcell, hcell, Json.precedes, decide_eq_true_eq]
    exact Moment.text_le_text hab.1 hab.2
  refine h.read ?_
  rw [answer_ordered, h.histories, List.mergeSort_of_pairwise hsorted, mapM_ofRow]

/-! ## Writes -/

/-- What is kept in the ledger is kept in the tables, and the histories stay. -/
theorem Mirrors.keeping (h : Mirrors db l) {c : Conversation} (hplain : c.contact.IsPlain)
    (hrows : db'.rows conversationTable = (l.keep c).all.map Conversation.toRow)
    (hhistory : db'.rows historyTable = db.rows historyTable) : Mirrors db' (l.keep c) where
  tidy := h.tidy.keep c
  conversations := hrows
  plain := by
    intro b hb
    have hfound := (h.tidy.keep c).mem_all_iff.1 hb
    rw [Ledger.find?_keep] at hfound
    split at hfound
    · cases hfound
      exact hplain
    · exact h.plain b (h.tidy.mem_all_iff.2 hfound)
  histories id := by
    rw [hhistory]
    exact h.histories id
  ordered := h.ordered

/-- A new conversation is always kept, whether the database tells the row that it keeps or not. -/
theorem run_create (now : Moment) (c : Conversation) (db : Database) :
    Database.run (Tabular.create now c) db = (.ok { c with version := 1 },
      (db.answer (.insert conversationTable (Conversation.toRow { c with version := 1 }))).2) := by
  have htold : (db.answer (.insert conversationTable
      (Conversation.toRow { c with version := 1 }))).1 =
      if db.silent then [] else [Conversation.toRow { c with version := 1 }] := rfl
  unfold Tabular.create
  rw [run_put, htold]
  cases db.silent with
  | true => rfl
  | false =>
    show Database.run (Program.ofExcept (Conversation.ofRow now _)) _ = _
    rw [Conversation.ofRow_toRow, run_ofExcept]

theorem Mirrors.create (h : Mirrors db l) (now : Moment) {c : Conversation}
    (hplain : c.contact.IsPlain) (hfresh : l.find? c.id = none) (hactive : l.active? c.key = none) :
    (Database.run (create now c) db).1 = (l.create c).1 ∧
      Mirrors (Database.run (create now c) db).2 (l.create c).2 := by
  have hall : (l.keep { c with version := 1 }).all = l.all ++ [{ c with version := 1 }] :=
    Ledger.all_keep_of_none hfresh
  rw [run_create, Ledger.create_of_active? hactive]
  refine ⟨rfl, h.keeping hplain ?_ ?_⟩
  · rw [rows_insert, if_pos rfl, h.conversations, hall, List.map_append]
    rfl
  · rw [rows_insert, if_neg (by decide)]

theorem Mirrors.append (h : Mirrors db l) {e : Entry}
    (hlast : ∀ earlier ∈ l.historyOf e.conversation, earlier.at_.IsBy e.at_) :
    Mirrors (Database.run (append e) db).2 (l.append e) := by
  have hrun : (Database.run (Tabular.append e) db).2 =
      (db.answer (.insert historyTable e.toRow)).2 := rfl
  rw [hrun]
  refine ⟨⟨h.tidy.nodup, h.tidy.ids⟩, ?_, h.plain, fun id => ?_, fun id => ?_⟩
  · rw [rows_insert, if_neg (by decide)]
    exact h.conversations
  · rw [rows_insert, if_pos rfl, List.filter_append, h.histories, Ledger.historyOf_append,
      List.filter_cons, passes_history]
    by_cases hid : e.conversation = id
    · simp [hid]
    · simp [hid]
  · rw [Ledger.historyOf_append]
    split
    · rename_i hid
      subst hid
      refine List.pairwise_append.2 ⟨h.ordered _, List.pairwise_singleton _ _, ?_⟩
      intro earlier hearlier last hlast'
      rw [List.mem_singleton.1 hlast']
      exact hlast earlier hearlier
    · exact h.ordered id

theorem rows_update_of_ne (db : Database) {table other : String} (changes : Fields)
    (filters : List Filter) (h : table ≠ other) :
    (db.answer (.update table changes filters)).2.rows other = db.rows other := by
  unfold Database.answer
  rw [rows_setRows, if_neg h]

/-- The request by which a conversation is written over the expected version. -/
def saveRequest (now : Moment) (c : Conversation) (expected : Int) : Request :=
  .update conversationTable
    (Conversation.changes { c with version := expected + 1, updatedAt := now })
    [.equal "id" (.str c.id), .equal "version" (.int expected)]

variable {now : Moment} {c : Conversation} {expected : Int}

theorem run_save_told {row : Row} {rest : List Row}
    (h : (db.answer (saveRequest now c expected)).1 = row :: rest) :
    Database.run (Tabular.save now c expected) db =
      (Conversation.ofRow now row, (db.answer (saveRequest now c expected)).2) := by
  unfold saveRequest at h ⊢
  simp only [Tabular.save, run_put, h, run_ofExcept]

theorem run_save_untold (h : (db.answer (saveRequest now c expected)).1 = []) :
    Database.run (Tabular.save now c expected) db =
      Database.run (Tabular.conversation now c.id >>= fun found =>
        Program.fail (.conflict c.id expected (found.map (·.version))))
        (db.answer (saveRequest now c expected)).2 := by
  unfold saveRequest at h ⊢
  simp only [Tabular.save, run_put, h]

/-- Conversations are changed row by row. -/
theorem answer_update {bs : List Conversation} (hrows : db.rows conversationTable =
    bs.map Conversation.toRow) (changes : Fields) (filters : List Filter)
    (p : Conversation → Bool) (f : Conversation → Conversation)
    (hp : ∀ b ∈ bs, Database.passes filters b.toRow = p b)
    (hf : ∀ b ∈ bs, p b = true → Database.changed changes b.toRow = (f b).toRow) :
    (db.answer (.update conversationTable changes filters)).1 =
        ((bs.filter p).map f).map Conversation.toRow ∧
      (db.answer (.update conversationTable changes filters)).2.rows conversationTable =
        (bs.map fun b => if p b then f b else b).map Conversation.toRow := by
  constructor
  · show ((db.rows conversationTable).filter _).map _ = _
    have hpassed : bs.filter (Database.passes filters ∘ Conversation.toRow) = bs.filter p :=
      List.filter_congr hp
    rw [hrows, List.filter_map, List.map_map, List.map_map, hpassed]
    refine List.map_congr_left fun b hb => ?_
    obtain ⟨hb, hpb⟩ := List.mem_filter.1 hb
    exact hf b hb hpb
  · rw [rows_update, hrows, List.map_map, List.map_map]
    refine List.map_congr_left fun b hb => ?_
    show (if Database.passes filters b.toRow then Database.changed changes b.toRow else b.toRow) =
      Conversation.toRow (if p b then f b else b)
    rw [hp b hb]
    split
    · exact hf b hb ‹_›
    · rfl

/-- A save over the version that is kept writes the same conversation in both. -/
theorem Mirrors.saved (h : Mirrors db l) {b : Conversation}
    (hplain : c.contact.IsPlain) (hb : l.find? c.id = some b)
    (hcreated : c.createdAt = b.createdAt) :
    (Database.run (Tabular.save now c b.version) db).1 =
        .ok { c with version := b.version + 1, updatedAt := now } ∧
      Mirrors (Database.run (Tabular.save now c b.version) db).2
        (l.keep { c with version := b.version + 1, updatedAt := now }) := by
  obtain ⟨stored, hstored⟩ : ∃ stored : Conversation,
      stored = { c with version := b.version + 1, updatedAt := now } := ⟨_, rfl⟩
  have hid : stored.id = c.id := by rw [hstored]
  have hmem := h.tidy.mem_all_iff.2 (h.tidy.find?_id hb)
  have hsame : ∀ d ∈ l.all, d.id = c.id → d = b := fun d hd hdc =>
    h.tidy.eq_of_id hd hmem (hdc.trans (h.tidy.id_of_find? hb).symm)
  have hpasses : ∀ d ∈ l.all, Database.passes
      [.equal "id" (.str c.id), .equal "version" (.int b.version)] d.toRow = (d.id == c.id) := by
    intro d hd
    rw [passes_version]
    by_cases hdc : d.id = c.id
    · rw [hsame d hd hdc, beq_self_eq_true, Bool.and_true]
    · rw [beq_eq_false_iff_ne.2 hdc, Bool.false_and]
  have hchanged : ∀ d ∈ l.all, (d.id == c.id) = true →
      Database.changed stored.changes d.toRow = stored.toRow := by
    intro d hd hdc
    have hdc : d.id = c.id := by simpa using hdc
    refine changed_toRow (hdc.trans hid.symm) ?_
    rw [hstored, hsame d hd hdc]
    exact hcreated
  obtain ⟨htold, hrows⟩ := answer_update h.conversations _ _ _ (fun _ => stored) hpasses
    hchanged
  obtain ⟨rest, hfirst⟩ : ∃ rest, (l.all.filter fun d => d.id == c.id).map (fun _ => stored) =
      stored :: rest := by
    have hbc : b ∈ l.all.filter fun d => d.id == c.id :=
      List.mem_filter.2 ⟨hmem, by simpa using h.tidy.id_of_find? hb⟩
    cases hlist : l.all.filter fun d => d.id == c.id with
    | nil => rw [hlist] at hbc; cases hbc
    | cons d ds => exact ⟨_, rfl⟩
  have hrun : Database.run (Tabular.save now c b.version) db = (.ok stored,
      (db.answer (saveRequest now c b.version)).2) := by
    have htold' : (db.answer (saveRequest now c b.version)).1 =
        stored.toRow :: rest.map Conversation.toRow := by
      unfold saveRequest
      rw [← hstored, htold, hfirst]
      rfl
    rw [run_save_told htold', Conversation.ofRow_toRow]
  rw [hrun, ← hstored]
  refine ⟨rfl, h.keeping (by rw [hstored]; exact hplain) ?_ ?_⟩
  · unfold saveRequest
    rw [← hstored, hrows, h.tidy.all_keep (hid ▸ hb), hid]
    simp only [beq_iff_eq]
  · exact rows_update_of_ne _ _ _ (by decide)

/-- A save over another version is refused by both, and tells the version that is kept. -/
theorem Mirrors.refused (h : Mirrors db l)
    (hother : (l.find? c.id).map (·.version) ≠ some expected) :
    (Database.run (Tabular.save now c expected) db).1 =
        .error (.conflict c.id expected ((l.find? c.id).map (·.version))) ∧
      Mirrors (Database.run (Tabular.save now c expected) db).2 l := by
  have hpasses : ∀ d ∈ l.all, Database.passes
      [.equal "id" (.str c.id), .equal "version" (.int expected)] d.toRow = false := by
    intro d hd
    rw [passes_version]
    by_cases hdc : d.id = c.id
    · have hne : d.version ≠ expected := by
        intro hversion
        refine hother ?_
        rw [← hdc, h.tidy.mem_all_iff.1 hd]
        exact congrArg some hversion
      rw [beq_eq_false_iff_ne.2 hne, Bool.and_false]
    · rw [beq_eq_false_iff_ne.2 hdc, Bool.false_and]
  obtain ⟨htold, hrows⟩ := answer_update h.conversations
    (Conversation.changes { c with version := expected + 1, updatedAt := now }) _
    (fun _ => false) id hpasses (fun d _ hd => by cases hd)
  have hafter : Mirrors (db.answer (saveRequest now c expected)).2 l := by
    refine ⟨h.tidy, ?_, h.plain, fun id => ?_, h.ordered⟩
    · refine hrows.trans ?_
      simp
    · unfold saveRequest
      rw [rows_update_of_ne _ _ _ (by decide)]
      exact h.histories id
  have huntold : (db.answer (saveRequest now c expected)).1 = [] := by
    refine htold.trans ?_
    simp
  obtain ⟨hfound, hleft⟩ := hafter.find? now c.id
  rw [run_save_untold huntold, run_andThen hfound]
  exact ⟨rfl, hleft⟩

/-- A conversation that is ended. -/
def ended (now : Moment) (c : Conversation) : Conversation :=
  { c.finished with version := c.version + 1, updatedAt := now }

/-- Conversations are ended one after the other, each by its id. -/
theorem run_deactivateRows (now : Moment) {bs cs : List Conversation} {db : Database}
    (hrows : db.rows conversationTable = bs.map Conversation.toRow)
    (hids : (cs.map (·.id)).Nodup) (hsame : ∀ c ∈ cs, ∀ b ∈ bs, b.id = c.id → b = c) :
    (Database.run (deactivateRows now (cs.map Conversation.toRow)) db).1 = .ok (cs.map (·.id)) ∧
      (Database.run (deactivateRows now (cs.map Conversation.toRow)) db).2.rows conversationTable =
        (bs.map fun b => if b.id ∈ cs.map (·.id) then ended now b else b).map
          Conversation.toRow ∧
      (Database.run (deactivateRows now (cs.map Conversation.toRow)) db).2.rows historyTable =
        db.rows historyTable := by
  induction cs generalizing bs db with
  | nil =>
    refine ⟨rfl, hrows.trans ?_, rfl⟩
    simp
  | cons c cs ih =>
    obtain ⟨hfirst, hrest⟩ := List.nodup_cons.1 hids
    obtain ⟨update, hupdate⟩ : ∃ update : Request, update = .update conversationTable
      [("is_active", .bool false), ("awaiting_input", .bool false),
        ("version", .int (c.version + 1)), ("updated_at", .str now.text)]
      [.equal "id" (.str c.id)] := ⟨_, rfl⟩
    have hrun : Database.run (deactivateRows now ((c :: cs).map Conversation.toRow)) db =
        Database.run (deactivateRows now (cs.map Conversation.toRow) >>= fun ids =>
          pure (c.id :: ids)) (db.answer update).2 := by
      rw [hupdate]
      show Database.run (Program.ofExcept (nextVersion c.toRow) >>= _) db = _
      rw [nextVersion_toRow]
      rfl
    have hrows' := (answer_update hrows _ [.equal "id" (.str c.id)] (fun b => b.id == c.id)
      (ended now) (fun b _ => passes_id b c.id) fun b hb hbc => by
        have hbc := hsame c List.mem_cons_self b hb (by simpa using hbc)
        rw [hbc]
        exact changed_finished now c).2
    rw [← hupdate] at hrows'
    have hsame' : ∀ d ∈ cs, ∀ b' ∈ bs.map (fun b => if b.id == c.id then ended now b else b),
        b'.id = d.id → b' = d := by
      intro d hd b' hb' hid
      obtain ⟨b, hb, rfl⟩ := List.mem_map.1 hb'
      have hne : d.id ≠ c.id := fun e => hfirst (List.mem_map.2 ⟨d, hd, e⟩)
      by_cases hbc : b.id = c.id
      · rw [if_pos (by simpa using hbc)] at hid
        exact absurd (hid.symm.trans hbc) hne
      · rw [if_neg (by simpa using hbc)] at hid ⊢
        exact hsame d (List.mem_cons_of_mem _ hd) b hb hid
    obtain ⟨htold, hleft, hhistory⟩ := ih hrows' hrest hsame'
    rw [hrun, run_andThen htold]
    refine ⟨rfl, hleft.trans ?_, hhistory.trans ?_⟩
    · refine congrArg (List.map Conversation.toRow) ?_
      rw [List.map_map]
      refine List.map_congr_left fun b hb => ?_
      show (if Conversation.id (if b.id == c.id then ended now b else b) ∈ cs.map (·.id) then
        ended now (if b.id == c.id then ended now b else b) else
          if b.id == c.id then ended now b else b) = if b.id ∈ c.id :: cs.map (·.id) then _ else _
      by_cases hbc : b.id = c.id
      · have hended : (if b.id == c.id then ended now b else b) = ended now b :=
          if_pos (by simpa using hbc)
        have hnot : (ended now b).id ∉ cs.map (·.id) := by
          show b.id ∉ _
          rw [hbc]
          exact hfirst
        have hmem : b.id ∈ c.id :: cs.map (·.id) := hbc ▸ List.mem_cons_self
        rw [hended, if_neg hnot, if_pos hmem]
      · have hkept : (if b.id == c.id then ended now b else b) = b :=
          if_neg (by simpa using hbc)
        rw [hkept]
        simp only [List.mem_cons, hbc, false_or]
    · rw [hupdate]
      exact rows_update_of_ne _ _ _ (by decide)

theorem Mirrors.deactivate (h : Mirrors db l) (now : Moment) {contact : Contact}
    (hcontact : contact.IsPlain) :
    (Database.run (Tabular.deactivate now contact) db).1 = .ok (l.deactivate now contact.key).1 ∧
      Mirrors (Database.run (Tabular.deactivate now contact) db).2
        (l.deactivate now contact.key).2 := by
  obtain ⟨select, hselect⟩ : ∃ select : Request,
      select = .select conversationTable (activeOf contact) := ⟨_, rfl⟩
  obtain ⟨cs, hcs⟩ : ∃ cs, cs = l.all.filter (Ledger.holds contact.key) := ⟨_, rfl⟩
  have hselected : (db.answer select).1 = cs.map Conversation.toRow := by
    rw [hselect, hcs]
    exact h.selected _ _ fun c hc => passes_activeOf (h.plain c hc) hcontact
  have hids : (cs.map (·.id)).Nodup := by
    rw [hcs]
    exact h.tidy.nodup_ids.sublist (List.filter_sublist.map _)
  have hsame : ∀ c ∈ cs, ∀ b ∈ l.all, b.id = c.id → b = c := by
    intro c hc b hb hid
    rw [hcs] at hc
    exact h.tidy.eq_of_id hb (List.mem_filter.1 hc).1 hid
  have hrows : (db.answer select).2.rows conversationTable = l.all.map Conversation.toRow := by
    rw [hselect, rows_select, h.conversations]
  obtain ⟨htold, hleft, hhistory⟩ := run_deactivateRows now hrows hids hsame
  have hrun : Database.run (Tabular.deactivate now contact) db =
      Database.run (deactivateRows now (cs.map Conversation.toRow)) (db.answer select).2 := by
    rw [← hselected, hselect]
    rfl
  rw [hrun, htold]
  refine ⟨by rw [hcs]; rfl, h.tidy.deactivate now contact.key, hleft.trans ?_, ?_, fun id => ?_,
    h.ordered⟩
  · rw [Ledger.all_deactivate]
    refine congrArg (List.map Conversation.toRow) (List.map_congr_left fun b hb => ?_)
    rw [hcs]
    simp only [h.tidy.mem_ids_filter_iff _ hb]
    rfl
  · intro c hc
    rw [Ledger.all_deactivate] at hc
    obtain ⟨b, hb, rfl⟩ := List.mem_map.1 hc
    rw [Ledger.deactivated_contact]
    exact h.plain b hb
  · rw [hhistory, hselect, rows_select]
    exact h.histories id

/-! ## Runs -/

/-- What may be asked of a store that holds what the ledger holds; the moments of a history follow
one another by `follows`. -/
def Proper (follows : Moment → Moment → Prop) (l : Ledger) : Ask → Prop
  | .flow _ _ | .enabledFlows _ => False
  | .active contact | .deactivate contact => contact.IsPlain
  | .conversation _ | .history _ => True
  | .create c => c.contact.IsPlain ∧ l.find? c.id = none ∧ l.active? c.key = none
  | .save c _ => c.contact.IsPlain ∧
      ∀ stored, l.find? c.id = some stored → c.createdAt = stored.createdAt
  | .append e => ∀ earlier ∈ l.historyOf e.conversation, follows earlier.at_ e.at_

/-- Questions are put one after the other, and each is proper when it is put. -/
def IsProperRun (follows : Moment → Moment → Prop) (l : Ledger) : List (Moment × Ask) → Prop
  | [] => True
  | (now, q) :: asks => Proper follows l q ∧ IsProperRun follows (l.answer now q).2 asks

/-- What a store answers to questions that are put one after the other. -/
def Backing.answers (b : Backing) :
    List (Moment × Ask) → List ((q : Ask) × Except Failure q.Answer)
  | [] => []
  | (now, q) :: asks => ⟨q, (b.answer now q).1⟩ :: (b.answer now q).2.answers asks

/-- Each question is answered alike, and the tables go on holding what the ledger holds. -/
theorem Mirrors.answer (h : Mirrors db l) (now : Moment) {q : Ask}
    (hq : Proper Moment.IsBy l q) : (Tabular.answer now q db).1 = (l.answer now q).1 ∧
      Mirrors (Tabular.answer now q db).2 (l.answer now q).2 := by
  cases q with
  | flow tenant id => cases hq
  | enabledFlows tenant => cases hq
  | active contact => exact h.active? now hq
  | conversation id => exact h.find? now id
  | create c => exact h.create now hq.1 hq.2.1 hq.2.2
  | save c expected =>
    show (Database.run (Tabular.save now c expected) db).1 = (l.save now c expected).1 ∧
      Mirrors (Database.run (Tabular.save now c expected) db).2 (l.save now c expected).2
    by_cases hversion : (l.find? c.id).map (·.version) = some expected
    · obtain ⟨b, hb, rfl⟩ := Option.map_eq_some_iff.1 hversion
      rw [Ledger.save_of_find? now hb]
      exact h.saved hq.1 hb (hq.2 b hb)
    · have hrefused : l.save now c expected =
          (.error (.conflict c.id expected ((l.find? c.id).map (·.version))), l) := by
        simp [Ledger.save, hversion]
      rw [hrefused]
      exact h.refused hversion
  | deactivate contact => exact h.deactivate now hq
  | append e => exact ⟨rfl, h.append hq⟩
  | history id => exact h.historyOf now id

theorem Mirrors.answers (h : Mirrors db l) {asks : List (Moment × Ask)}
    (hasks : IsProperRun Moment.IsBy l asks) :
    (Backing.database db).answers asks = (Backing.memory l).answers asks := by
  induction asks generalizing db l with
  | nil => rfl
  | cons ask asks ih =>
    obtain ⟨now, q⟩ := ask
    obtain ⟨hanswer, hmirrors⟩ := h.answer now hasks.1
    have hrest := ih hmirrors hasks.2
    exact congrArg₂ (fun x xs => (⟨q, x⟩ : (q : Ask) × Except Failure q.Answer) :: xs) hanswer hrest

theorem mirrors_empty (silent : Bool) : Mirrors { silent } {} where
  tidy := Ledger.isTidy_empty []
  conversations := rfl
  plain c hc := by cases hc
  histories id := rfl
  ordered id := List.Pairwise.nil

/-- From nothing, memory and tables answer every question alike: conversations, histories in their
order, the ids of those that are ended, and the conflicts with the versions that they tell. -/
theorem answers_agree (silent : Bool) (asks : List (Moment × Ask))
    (hasks : IsProperRun Moment.IsBy {} asks) :
    (Backing.database { silent }).answers asks = (Backing.memory {}).answers asks :=
  (mirrors_empty silent).answers hasks

def entryAt (action : Action) (at_ : Moment) : Entry where
  conversation := "talk"
  node := "word"
  nodeKind := "message"
  action
  at_

/-- A conversation is saved, refused to be saved over the same version again, and ended. -/
def shortTalk : List (Moment × Ask) := [
  (usualStart, .create talk), (usualStart, .append (entryAt .entered usualStart)),
  (usualStart, .save talk 1), (usualStart, .save talk 1),
  (usualStart, .append (entryAt .executed usualStart)), (usualStart, .deactivate customer),
  (usualStart, .history "talk")]

theorem answers_agree_shortTalk : IsProperRun Moment.IsBy {} shortTalk ∧
    (Backing.database {}).answers shortTalk = (Backing.memory {}).answers shortTalk := by
  have hplain : customer.IsPlain := by
    constructor <;> decide
  have hproper : IsProperRun Moment.IsBy {} shortTalk := by
    refine ⟨⟨hplain, rfl, rfl⟩, ?_, ⟨hplain, ?_⟩, ⟨hplain, ?_⟩, ?_, hplain, trivial, trivial⟩
    · rintro earlier ⟨⟩
    · rintro stored ⟨⟩
      rfl
    · rintro stored ⟨⟩
      rfl
    · intro earlier hearlier
      obtain rfl : earlier = entryAt .entered usualStart := List.mem_singleton.1 hearlier
      exact ⟨rfl, Nat.le_refl _⟩
  exact ⟨hproper, answers_agree false shortTalk hproper⟩

/-- Half past eleven by a clock that is an hour behind: half an hour after noon. -/
def laterElsewhere : Moment where
  date := usualStart.date
  time := ⟨11, 30, 0, 0, by decide⟩
  offset := some (-60)

/-- Noon by the clock of universal time. -/
def noon : Moment := { usualStart with offset := some 0, near := Moment.epoch.near }

def acrossClocks : List (Moment × Ask) := [
  (usualStart, .append (entryAt .entered noon)),
  (usualStart, .append (entryAt .executed laterElsewhere)), (usualStart, .history "talk")]

/-- The entries among answers. -/
def entriesTold : List ((q : Ask) × Except Failure q.Answer) → List Entry
  | [] => []
  | ⟨.history _, .ok es⟩ :: rest => es ++ entriesTold rest
  | _ :: rest => entriesTold rest

/-- Moments that never go back, told by two clocks: memory tells the entries as they came, and the
tables by the text of their moments. -/
theorem answers_differ_acrossClocks : IsProperRun Moment.NotAfter {} acrossClocks ∧
    (Backing.database {}).answers acrossClocks ≠ (Backing.memory {}).answers acrossClocks := by
  constructor
  · refine ⟨?_, ?_, trivial, trivial⟩
    · rintro earlier ⟨⟩
    · intro earlier hearlier
      obtain rfl : earlier = entryAt .entered noon := List.mem_singleton.1 hearlier
      show (noon.micros : Int) - 0 * 60000000 ≤ laterElsewhere.micros - (-60) * 60000000
      decide
  · have hbehind : (Row.cell (entryAt .entered noon).toRow "created_at").precedes
        (Row.cell (entryAt .executed laterElsewhere).toRow "created_at") = false := by
      decide
    have hsorted : [(entryAt .entered noon).toRow,
        (entryAt .executed laterElsewhere).toRow].mergeSort (fun a b =>
          (a.cell "created_at").precedes (b.cell "created_at")) =
        [entryAt .executed laterElsewhere, entryAt .entered noon].map Entry.toRow := by
      simp [List.mergeSort, List.MergeSort.Internal.splitInTwo, hbehind]
    obtain ⟨db, hdb⟩ : ∃ db, db =
        (Tabular.answer usualStart (.append (entryAt .executed laterElsewhere))
          (Tabular.answer usualStart (.append (entryAt .entered noon)) {}).2).2 := ⟨_, rfl⟩
    have hhistory : (Database.run (history usualStart "talk") db).1 =
        .ok [entryAt .executed laterElsewhere, entryAt .entered noon] := by
      have hrows : (db.rows historyTable).filter
          (Database.passes [.equal "contact_flow_state_id" (.str "talk")]) =
          [(entryAt .entered noon).toRow, (entryAt .executed laterElsewhere).toRow] := by
        rw [hdb]
        rfl
      unfold history
      rw [run_put, run_ofExcept, answer_ordered, hrows, hsorted, mapM_ofRow]
    have htables : entriesTold ((Backing.database {}).answers acrossClocks) =
        entriesTold [⟨.history "talk", (Database.run (history usualStart "talk") db).1⟩] := by
      rw [hdb]
      rfl
    intro h
    have htold := (congrArg entriesTold h).symm.trans htables
    rw [hhistory] at htold
    revert htold
    decide

end Store

end Parley
