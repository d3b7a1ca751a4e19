import Mathlib.Logic.Function.Basic
import Parley.Proofs.Store.Requests
import Parley.Rehearsal.Clock

/-!
# Clients that share tables

Any number of clients put their questions to one database. Each question becomes a few requests, and
`Shared.act` lets one client put its next request: the requests of different clients come in any
order. `Shared.Sound` ties the clients to `Tabular.conduct`, and says of the rows that a client has
yet to end that it was shown them.

A row that is changed goes up in its version, but for one case (`Shared.Outdated`): a contact's
conversations are ended, and the row was written since it was selected. The change goes by the id
alone, so it writes a version that is behind by then. As long as this does not happen, a save over a
version that was read before another write is refused: `Shared.guarded_of_run`. When it does happen
the version is that of the other write, or a lower one, and such a save goes through
(`Shared.unguarded_savedMeanwhile`).
-/

namespace Parley.Store

open Tabular

/-- A client with the question that it puts, and what is left of its requests. -/
structure Client where
  ask : Ask
  work : Requests ask.Answer
  /-- The rows of conversations when it last selected some of them. -/
  shown : List Row := []

/-- Clients that share tables. -/
structure Shared where
  db : Database
  clients : Nat → Option Client := fun _ => none

/-- What can happen among clients. -/
inductive Shared.Step where
  /-- A client puts a question. -/
  | begin (i : Nat) (now : Moment) (q : Ask)
  /-- A client puts its next request. -/
  | go (i : Nat)
  /-- A client leaves, be it at its end or before. -/
  | leave (i : Nat)

namespace Shared

/-- The rows of conversations. -/
def rows (s : Shared) : List Row := s.db.rows conversationTable

/-- What a client was shown last, after a request. -/
def shownAfter (shown : List Row) (s : Shared) : Request → List Row
  | .select table _ _ => if table = conversationTable then s.rows else shown
  | _ => shown

/-- A client puts its next request. -/
def go (s : Shared) (i : Nat) : Shared :=
  match s.clients i with
  | none => s
  | some c => match c.work with
    | .ask r next => {
        db := (s.db.answer r).2
        clients := Function.update s.clients i
          (some { c with work := next (s.db.answer r).1, shown := shownAfter c.shown s r }) }
    | _ => s

/-- What happens among clients; what cannot happen changes nothing. -/
def act (s : Shared) : Step → Shared
  | .begin i now q =>
    if (s.clients i).isNone then
      { s with clients := Function.update s.clients i (some { ask := q, work := requests now q }) }
    else s
  | .go i => s.go i
  | .leave i => { s with clients := Function.update s.clients i none }

def run (s : Shared) (es : List Step) : Shared := es.foldl act s

def opening (db : Database) : Shared := { db }

/-- The version in a row of conversations. -/
def version? (s : Shared) (k : Nat) : Option Int := s.rows[k]?.map versionOf

/-- No other row of conversations has the id of this one. -/
def IsAlone (s : Shared) (k : Nat) : Prop :=
  ∀ row j other, s.rows[k]? = some row → s.rows[j]? = some other →
    (row.cell "id").same (other.cell "id") = true → j = k

/-- A step changes a row of conversations. -/
def Writes (s : Shared) (k : Nat) : Step → Prop
  | .go i => ∃ c changes filters next row, s.clients i = some c ∧
      c.work = .ask (.update conversationTable changes filters) next ∧
      s.rows[k]? = some row ∧ Database.passes filters row = true
  | _ => False

/-- A step is that of a client that ends a contact's conversations, and the row is no longer as it
was when the client selected them. -/
def Outdated (s : Shared) (k : Nat) : Step → Prop
  | .go i => ∃ c contact, s.clients i = some c ∧ c.ask = .deactivate contact ∧
      c.shown[k]? ≠ s.rows[k]?
  | _ => False

/-- Some step changes a row. -/
def WritesIn (s : Shared) (k : Nat) : List Step → Prop
  | [] => False
  | e :: es => s.Writes k e ∨ (s.act e).WritesIn k es

/-- No outdated step changes a row. -/
def Orderly (s : Shared) (k : Nat) : List Step → Prop
  | [] => True
  | e :: es => (s.Writes k e → ¬ s.Outdated k e) ∧ (s.act e).Orderly k es

/-- The next request of a client changes no row of conversations, and then it fails. -/
def Refuses (s : Shared) (i : Nat) : Prop :=
  (s.go i).rows = s.rows ∧ ∃ c, (s.go i).clients i = some c ∧
    c.work.Yields fun r => ∃ e, r = .error e

/-! ## Rows -/

/-- The later rows begin with the earlier ones, as far as the ids go. -/
def SameIds (earlier later : List Row) : Prop :=
  ∀ (k : Nat) row, earlier[k]? = some row →
    ∃ row', later[k]? = some row' ∧ row'.cell "id" = row.cell "id"

theorem SameIds.refl (rows : List Row) : SameIds rows rows := fun _ row h => ⟨row, h, rfl⟩

theorem SameIds.trans {a b c : List Row} (h : SameIds a b) (h' : SameIds b c) : SameIds a c := by
  intro k row hrow
  obtain ⟨row', hrow', hid⟩ := h k row hrow
  obtain ⟨row'', hrow'', hid'⟩ := h' k row' hrow'
  exact ⟨row'', hrow'', hid'.trans hid⟩

theorem rows_setRows (db : Database) (table other : String) (rows : List Row) :
    (db.setRows table rows).rows other = if table = other then rows else db.rows other := by
  unfold Database.setRows Database.rows
  rw [Dictionary.find?_put]
  split <;> rfl

/-- A column that is not changed stays, and one that is changed has the new value. -/
theorem cell_changed {changes : Fields} (h : (Dictionary.keys changes).Nodup) (row : Row)
    (column : String) : (Database.changed changes row).cell column =
      ((Dictionary.find? changes column).or (Dictionary.find? row column)).getD .null := by
  unfold Database.changed Row.cell
  rw [Dictionary.find?_update row h]

theorem versionOf_changed {q : Ask} {left : List Row} {changes : Fields} {filters : List Filter}
    {written : Int} (h : Changes q left changes filters written) (row : Row) :
    versionOf (Database.changed changes row) = written := by
  unfold versionOf
  rw [cell_changed h.nodup, h.version]
  rfl

theorem rows_select (db : Database) (table other : String) (filters : List Filter)
    (order : Option String) :
    (db.answer (.select table filters order)).2.rows other = db.rows other := by
  unfold Database.answer
  rw [rows_setRows]
  split
  · rename_i h
    rw [h]
  · rfl

theorem rows_insert (db : Database) (table other : String) (row : Row) :
    (db.answer (.insert table row)).2.rows other =
      if table = other then db.rows other ++ [row] else db.rows other := by
  unfold Database.answer
  rw [rows_setRows]
  split
  · rename_i h
    rw [h]
  · rfl

theorem rows_update (db : Database) (table : String) (changes : Fields) (filters : List Filter) :
    (db.answer (.update table changes filters)).2.rows table = (db.rows table).map fun row =>
      if Database.passes filters row then Database.changed changes row else row := by
  unfold Database.answer
  rw [rows_setRows, if_pos rfl]

theorem mem_of_select {db : Database} {table : String} {filters : List Filter}
    {order : Option String} {row : Row}
    (h : row ∈ (db.answer (.select table filters order)).1) : row ∈ db.rows table := by
  unfold Database.answer at h
  simp only at h
  split at h
  · exact (List.mem_filter.1 h).1
  · exact (List.mem_filter.1 (List.mem_mergeSort.1 h)).1

/-- Rows keep their places and ids in every request. -/
theorem sameIds_answer {q : Ask} {left : List Row} {r : Request} (db : Database)
    (hmay : May q left r) :
    SameIds (db.rows conversationTable) ((db.answer r).2.rows conversationTable) := by
  cases r with
  | select table filters order =>
    rw [rows_select]
    exact .refl _
  | insert table row =>
    rw [rows_insert]
    split
    · intro k old hold
      have hk : k < (db.rows conversationTable).length := (List.getElem?_eq_some_iff.1 hold).1
      exact ⟨old, by rw [List.getElem?_append_left hk, hold], rfl⟩
    · exact .refl _
  | update table changes filters =>
    obtain ⟨rfl, written, hchanges⟩ := hmay
    rw [rows_update]
    intro k row hrow
    refine ⟨_, by rw [List.getElem?_map, hrow]; rfl, ?_⟩
    show Row.cell (if _ then _ else _) "id" = _
    split
    · rw [cell_changed hchanges.nodup, hchanges.id]
      rfl
    · rfl

/-- Rows stay numbered in every request. -/
theorem numbered_answer {q : Ask} {left : List Row} {r : Request} {db : Database}
    (hmay : May q left r) (h : ∀ row ∈ db.rows conversationTable, IsNumbered row) :
    ∀ row ∈ (db.answer r).2.rows conversationTable, IsNumbered row := by
  cases r with
  | select table filters order =>
    rw [rows_select]
    exact h
  | insert table new =>
    rw [rows_insert]
    split
    · rename_i htable
      intro row hrow
      rcases List.mem_append.1 hrow with hrow | hrow
      · exact h row hrow
      · rw [List.mem_singleton.1 hrow]
        exact hmay htable
    · exact h
  | update table changes filters =>
    obtain ⟨rfl, written, hchanges⟩ := hmay
    rw [rows_update]
    intro row hrow
    obtain ⟨old, hold, rfl⟩ := List.mem_map.1 hrow
    split
    · refine Or.inr ⟨written, ?_⟩
      rw [cell_changed hchanges.nodup, hchanges.version]
      rfl
    · exact h old hold

/-- What is told of numbered rows can be relied on. -/
theorem hears_answer {db : Database} (h : ∀ row ∈ db.rows conversationTable, IsNumbered row)
    (r : Request) : Hears r (db.answer r).1 := by
  cases r with
  | select table filters order =>
    rintro rfl row hrow
    exact h row (mem_of_select hrow)
  | insert table row => trivial
  | update table changes filters => trivial

/-! ## What clients know -/

/-- The clients keep to their conduct, and were shown the rows that they have yet to end. -/
structure Sound (s : Shared) : Prop where
  numbered : ∀ row ∈ s.rows, IsNumbered row
  clients : ∀ i c, s.clients i = some c → ∃ left, Conducted c.ask left c.work ∧
    (∀ row ∈ left, row ∈ c.shown) ∧ SameIds c.shown s.rows

theorem sound_opening {db : Database} (h : ∀ row ∈ db.rows conversationTable, IsNumbered row) :
    (opening db).Sound where
  numbered := h
  clients i c hc := by cases hc

variable {s : Shared}

/-- A client either has no request to put, or its request is answered. -/
theorem go_cases (s : Shared) (i : Nat) : s.go i = s ∨
    ∃ (c : Client) (r : Request) (next : List Row → Requests c.ask.Answer),
      s.clients i = some c ∧ c.work = .ask r next ∧ s.go i = {
      db := (s.db.answer r).2
      clients := Function.update s.clients i
        (some { c with work := next (s.db.answer r).1, shown := shownAfter c.shown s r }) } := by
  unfold go
  cases hc : s.clients i with
  | none => exact Or.inl rfl
  | some c =>
    cases hw : c.work with
    | done a => simp [hw]
    | fail e => simp [hw]
    | ask r next => exact Or.inr ⟨c, r, next, rfl, hw, by simp only [hw]⟩

theorem Sound.may (h : s.Sound) {i : Nat} {c : Client} {r : Request}
    {next : List Row → Requests c.ask.Answer} (hc : s.clients i = some c)
    (hw : c.work = .ask r next) :
    ∃ left, May c.ask left r ∧
      Conducted c.ask (leftAfter left r (s.db.answer r).1) (next (s.db.answer r).1) ∧
      (∀ row ∈ left, row ∈ c.shown) ∧ SameIds c.shown s.rows := by
  obtain ⟨left, hconducted, hshown, hids⟩ := h.clients i c hc
  rw [hw] at hconducted
  exact ⟨left, hconducted.1, hconducted.2 _ (hears_answer h.numbered r), hshown, hids⟩

/-- One client goes on or leaves; what the others were shown is still there. -/
theorem Sound.assign (h : s.Sound) {db : Database} (i : Nat) (client : Option Client)
    (hnumbered : ∀ row ∈ db.rows conversationTable, IsNumbered row)
    (hsame : SameIds s.rows (db.rows conversationTable))
    (hclient : ∀ c, client = some c → ∃ left, Conducted c.ask left c.work ∧
      (∀ row ∈ left, row ∈ c.shown) ∧ SameIds c.shown (db.rows conversationTable)) :
    Sound { db, clients := Function.update s.clients i client } := by
  refine ⟨hnumbered, fun j c hc => ?_⟩
  change Function.update s.clients i client j = some c at hc
  by_cases hj : j = i
  · subst hj
    rw [Function.update_self] at hc
    exact hclient c hc
  · rw [Function.update_of_ne hj] at hc
    obtain ⟨left, hconducted, hshown, hids⟩ := h.clients j c hc
    exact ⟨left, hconducted, hshown, hids.trans hsame⟩

/-- What a client has yet to end after a request are rows that it was shown. -/
theorem mem_shownAfter {left shown : List Row} {r : Request} (hshown : ∀ row ∈ left, row ∈ shown) :
    ∀ row ∈ leftAfter left r (s.db.answer r).1, row ∈ shownAfter shown s r := by
  cases r with
  | select table filters order =>
    show ∀ row ∈ (if table = conversationTable then _ else left),
      row ∈ if table = conversationTable then s.rows else shown
    by_cases htable : table = conversationTable
    · subst htable
      rw [if_pos rfl, if_pos rfl]
      exact fun row hrow => mem_of_select hrow
    · rw [if_neg htable, if_neg htable]
      exact hshown
  | insert table row => exact hshown
  | update table changes filters => exact fun row hrow => hshown row (List.mem_of_mem_tail hrow)

theorem sameIds_shownAfter {shown : List Row} {db : Database} {r : Request}
    (hids : SameIds shown s.rows) (hsame : SameIds s.rows (db.rows conversationTable)) :
    SameIds (shownAfter shown s r) (db.rows conversationTable) := by
  unfold shownAfter
  split
  · split
    · exact hsame
    · exact hids.trans hsame
  · exact hids.trans hsame

theorem Sound.go (h : s.Sound) (i : Nat) : (s.go i).Sound := by
  rcases go_cases s i with hgo | ⟨c, r, next, hc, hw, hgo⟩
  · rw [hgo]
    exact h
  · obtain ⟨left, hmay, hnext, hshown, hids⟩ := h.may hc hw
    have hsame := sameIds_answer s.db hmay
    rw [hgo]
    refine h.assign i _ (numbered_answer hmay h.numbered) hsame ?_
    rintro c' ⟨⟩
    exact ⟨_, hnext, mem_shownAfter hshown, sameIds_shownAfter hids hsame⟩

theorem Sound.act (h : s.Sound) (e : Step) : (s.act e).Sound := by
  cases e with
  | go i => exact h.go i
  | begin i now q =>
    show Sound (if (s.clients i).isNone then _ else s)
    split
    · refine h.assign i _ h.numbered (.refl _) ?_
      rintro c ⟨⟩
      exact ⟨[], requests_conducted now q, by simp, fun k row hrow => by simp at hrow⟩
    · exact h
  | leave i => exact h.assign i none h.numbered (.refl _) (by rintro c ⟨⟩)

theorem Sound.run (h : s.Sound) (es : List Step) : (s.run es).Sound := by
  induction es generalizing s with
  | nil => exact h
  | cons e es ih => exact ih (h.act e)

theorem Sound.sameIds_act (h : s.Sound) (e : Step) : SameIds s.rows (s.act e).rows := by
  cases e with
  | go i =>
    show SameIds s.rows (s.go i).rows
    rcases go_cases s i with hgo | ⟨c, r, next, hc, hw, hgo⟩
    · rw [hgo]
      exact .refl _
    · obtain ⟨left, hmay, -⟩ := h.may hc hw
      rw [hgo]
      exact sameIds_answer s.db hmay
  | begin i now q =>
    show SameIds s.rows (if (s.clients i).isNone then _ else s).rows
    split <;> exact .refl _
  | leave i => exact .refl _

theorem Sound.sameIds_run (h : s.Sound) (es : List Step) : SameIds s.rows (s.run es).rows := by
  induction es generalizing s with
  | nil => exact .refl _
  | cons e es ih => exact (h.sameIds_act e).trans (ih (h.act e))

/-! ## Versions -/

/-- Whoever is alone with its id has always been. -/
theorem IsAlone.before {k : Nat} {s' : Shared} (h : s'.IsAlone k) (hids : SameIds s.rows s'.rows) :
    s.IsAlone k := by
  intro row j other hrow hother hsame
  obtain ⟨row', hrow', hid⟩ := hids k row hrow
  obtain ⟨other', hother', hid'⟩ := hids j other hother
  exact h row' j other' hrow' hother' (by rw [hid, hid']; exact hsame)

theorem versionOf_of_same {row : Row} (h : IsNumbered row) {v : Int}
    (hv : (row.cell "version").same (.int v) = true) : versionOf row = v := by
  unfold versionOf
  rcases h with hnull | ⟨n, hn⟩
  · rw [hnull] at hv
    cases hv
  · rw [hn] at hv ⊢
    simpa [Json.same, Json.number?, Json.sameNumber] using hv

theorem eq_str_of_same {v : Json} {t : String} (h : v.same (.str t) = true) : v = .str t := by
  cases v with
  | str a => simpa [Json.same] using h
  | _ => simp [Json.same, Json.number?] at h

theorem version?_eq_some {k : Nat} {v : Int} :
    s.version? k = some v ↔ ∃ row, s.rows[k]? = some row ∧ versionOf row = v :=
  Option.map_eq_some_iff

theorem rows_go {i : Nat} {c : Client} {r : Request} {next : List Row → Requests c.ask.Answer}
    (hc : s.clients i = some c) (hw : c.work = .ask r next) :
    (s.go i).rows = (s.db.answer r).2.rows conversationTable := by
  unfold go
  rw [hc]
  simp only [hw]
  rfl

theorem clients_go {i : Nat} {c : Client} {r : Request} {next : List Row → Requests c.ask.Answer}
    (hc : s.clients i = some c) (hw : c.work = .ask r next) :
    (s.go i).clients i =
      some { c with work := next (s.db.answer r).1, shown := shownAfter c.shown s r } := by
  unfold go
  rw [hc]
  simp only [hw]
  exact Function.update_self ..

theorem clients_go_of_ne {i j : Nat} (h : j ≠ i) (s : Shared) :
    (s.go i).clients j = s.clients j := by
  rcases go_cases s i with hgo | ⟨c, r, next, -, -, hgo⟩
  · rw [hgo]
  · rw [hgo]
    exact Function.update_of_ne h ..

/-- A row that was selected and is alone with its id is the one that passes for that id. -/
theorem Sound.eq_of_selected {k : Nat} {row selected : Row} {shown : List Row}
    (ha : s.IsAlone k) (hrow : s.rows[k]? = some row) (hmem : selected ∈ shown)
    (hids : SameIds shown s.rows) (hid : (row.cell "id").same (selected.cell "id") = true) :
    shown[k]? = some selected := by
  obtain ⟨j, hj⟩ := List.mem_iff_getElem?.1 hmem
  obtain ⟨other, hother, hsame⟩ := hids j selected hj
  obtain rfl : j = k := ha row j other hrow hother (by rw [hsame]; exact hid)
  exact hj

/-- What is written into a row follows its version, unless the change is outdated. -/
theorem Sound.lt_written (h : s.Sound) {k i : Nat} {c : Client} {left : List Row} {row : Row}
    {changes : Fields} {filters : List Filter} {written : Int}
    (hchanges : Changes c.ask left changes filters written) (hc : s.clients i = some c)
    (hrow : s.rows[k]? = some row) (hpass : Database.passes filters row = true)
    (hshown : ∀ row ∈ left, row ∈ c.shown) (hids : SameIds c.shown s.rows) (ha : s.IsAlone k)
    (ho : ¬ s.Outdated k (.go i)) : versionOf row < written := by
  rcases hchanges.cause with
    ⟨_, expected, -, rfl, rfl⟩ | ⟨contact, selected, rest, hq, rfl, rfl, rfl⟩
  · have hversion : (row.cell "version").same (.int expected) = true := by
      simp only [Database.passes, List.all_cons, Filter.holds, Bool.and_eq_true] at hpass
      exact hpass.2.1
    have := versionOf_of_same (h.numbered row (List.mem_of_getElem? hrow)) hversion
    omega
  · -- The filter goes by the id alone; that the row has it alone makes it the selected one.
    have hid : (row.cell "id").same (selected.cell "id") = true := by
      simpa [Database.passes, Filter.holds] using hpass
    have hselected : c.shown[k]? = some selected :=
      eq_of_selected ha hrow (hshown selected List.mem_cons_self) hids hid
    -- The row is as it was selected, so its version is the one that the client counts on.
    have hcurrent : c.shown[k]? = s.rows[k]? := by
      by_contra hne
      exact ho ⟨c, contact, hc, hq, hne⟩
    obtain rfl : selected = row := Option.some.inj (hselected.symm.trans (hcurrent.trans hrow))
    omega

/-- A row that is changed goes up in its version, unless the change is outdated. -/
theorem Sound.increases (h : s.Sound) {k : Nat} {e : Step} (hw : s.Writes k e) (ha : s.IsAlone k)
    (ho : ¬ s.Outdated k e) :
    ∃ v v', s.version? k = some v ∧ (s.act e).version? k = some v' ∧ v < v' := by
  cases e with
  | begin i now q => exact hw.elim
  | leave i => exact hw.elim
  | go i =>
    obtain ⟨c, changes, filters, next, row, hc, hwork, hrow, hpass⟩ := hw
    obtain ⟨left, hmay, -, hshown, hids⟩ := h.may hc hwork
    obtain ⟨-, written, hchanges⟩ := hmay
    have hafter : (s.go i).rows[k]? = some (Database.changed changes row) := by
      rw [rows_go hc hwork, rows_update, List.getElem?_map, show (s.db.rows _)[k]? = _ from hrow]
      simp [hpass]
    refine ⟨versionOf row, written, version?_eq_some.2 ⟨row, hrow, rfl⟩,
      version?_eq_some.2 ⟨_, hafter, versionOf_changed hchanges row⟩, ?_⟩
    exact h.lt_written hchanges hc hrow hpass hshown hids ha ho

theorem Sound.stays (h : s.Sound) {k : Nat} {e : Step} {row : Row} (hrow : s.rows[k]? = some row)
    (hw : ¬ s.Writes k e) : (s.act e).rows[k]? = some row := by
  cases e with
  | begin i now q =>
    show (if (s.clients i).isNone then _ else s : Shared).rows[k]? = _
    split <;> exact hrow
  | leave i => exact hrow
  | go i =>
    show (s.go i).rows[k]? = some row
    rcases go_cases s i with hgo | ⟨c, r, next, hc, hwork, -⟩
    · rw [hgo, hrow]
    · obtain ⟨left, hmay, -⟩ := h.may hc hwork
      rw [rows_go hc hwork]
      have hrow : (s.db.rows conversationTable)[k]? = some row := hrow
      cases r with
      | select table filters order => rw [rows_select, hrow]
      | insert table new =>
        rw [rows_insert]
        split
        · rw [List.getElem?_append_left (List.getElem?_eq_some_iff.1 hrow).1, hrow]
        · exact hrow
      | update table changes filters =>
        obtain ⟨rfl, -⟩ := hmay
        have hpass : Database.passes filters row = false := by
          by_contra hne
          exact hw ⟨c, changes, filters, next, row, hc, hwork, hrow, by simpa using hne⟩
        rw [rows_update, List.getElem?_map, hrow]
        simp [hpass]

/-- What is not as it was has been changed. -/
theorem Sound.writes_of_ne (h : s.Sound) {k : Nat} {e : Step} {v : Int}
    (hv : s.version? k = some v) (hne : (s.act e).rows[k]? ≠ s.rows[k]?) : s.Writes k e := by
  obtain ⟨row, hrow, -⟩ := version?_eq_some.1 hv
  by_contra hw
  exact hne ((h.stays hrow hw).trans hrow.symm)

/-- Versions never fall in an orderly course, and rise where the row is changed. -/
theorem Sound.rises (h : s.Sound) {k : Nat} {es : List Step} {v : Int} (hv : s.version? k = some v)
    (ho : s.Orderly k es) (ha : (s.run es).IsAlone k) :
    ∃ v', (s.run es).version? k = some v' ∧ v ≤ v' ∧ (s.WritesIn k es → v < v') := by
  -- Rows keep their ids, so the row is alone all the time if it is so at the end.
  induction es generalizing s v with
  | nil => exact ⟨v, hv, Int.le_refl v, fun hw => hw.elim⟩
  | cons e es ih =>
    obtain ⟨he, hes⟩ := ho
    have hnow : s.IsAlone k := ha.before (h.sameIds_run (e :: es))
    by_cases hw : s.Writes k e
    · obtain ⟨v₀, v₁, hv₀, hv₁, hlt⟩ := h.increases hw hnow (he hw)
      obtain rfl : v = v₀ := Option.some.inj (hv.symm.trans hv₀)
      obtain ⟨v₂, hv₂, hle, -⟩ := ih (h.act e) hv₁ hes ha
      exact ⟨v₂, hv₂, by omega, fun _ => by omega⟩
    · obtain ⟨row, hrow, hversion⟩ := version?_eq_some.1 hv
      obtain ⟨v₁, hv₁, hle, hlt⟩ :=
        ih (h.act e) (version?_eq_some.2 ⟨row, h.stays hrow hw, hversion⟩) hes ha
      exact ⟨v₁, hv₁, hle, fun hwrites => hlt (hwrites.resolve_left hw)⟩

/-- A save over a version that is not in the row is refused. -/
theorem Sound.refuses (h : s.Sound) {k i : Nat} {row : Row} {c : Conversation} {v : Int}
    {now : Moment} {shown : List Row} (hrow : s.rows[k]? = some row)
    (hid : row.cell "id" = .str c.id) (ha : s.IsAlone k) (hv : versionOf row ≠ v)
    (hc : s.clients i = some { ask := .save c v, work := save now c v, shown }) :
    s.Refuses i := by
  -- Only the row itself could pass for the id, and it does not for the version.
  have hnone : ∀ other ∈ s.rows, Database.passes
      [.equal "id" (.str c.id), .equal "version" (.int v)] other = false := by
    intro other hother
    by_contra hpass
    simp only [Database.passes, List.all_cons, List.all_nil, Filter.holds, Bool.and_true,
      Bool.not_eq_false, Bool.and_eq_true] at hpass
    obtain ⟨hsame, hversion⟩ := hpass
    obtain ⟨j, hj⟩ := List.mem_iff_getElem?.1 hother
    have hother : other.cell "id" = .str c.id := eq_str_of_same hsame
    obtain rfl : j = k := ha row j other hrow hj (by rw [hid, hother]; simp [Json.same])
    obtain rfl : other = row := Option.some.inj (hj.symm.trans hrow)
    exact hv (versionOf_of_same (h.numbered other (List.mem_of_getElem? hrow)) hversion)
  have hfilter : s.rows.filter (Database.passes
      [.equal "id" (.str c.id), .equal "version" (.int v)]) = [] :=
    List.filter_eq_nil_iff.2 fun other hother => Bool.eq_false_iff.1 (hnone other hother)
  obtain ⟨next, hwork, hfails⟩ := save_fails now c v
  refine ⟨?_, _, clients_go hc hwork, ?_⟩
  · rw [rows_go hc hwork, rows_update]
    refine (List.map_congr_left fun other hother => ?_).trans (List.map_id _)
    simp [hnone other hother]
  · show (next (List.map _ (s.rows.filter _))).Yields _
    rw [hfilter]
    exact hfails

/-- Clients share tables in which versions are whole numbers, and put their requests in any order. A
row that is alone with its id goes up in its version whenever it is changed, unless the change is
outdated; and where no change of it was outdated, a save over a version that the row had before
another change is refused. -/
theorem guarded_of_run {db : Database} (hdb : ∀ row ∈ db.rows conversationTable, IsNumbered row)
    (es : List Step) (k : Nat) :
    (∀ e, ((opening db).run es).Writes k e → ((opening db).run es).IsAlone k →
      ¬ ((opening db).run es).Outdated k e →
      ∃ v v', ((opening db).run es).version? k = some v ∧
        (((opening db).run es).act e).version? k = some v' ∧ v < v') ∧
    (∀ later v row i c now shown, ((opening db).run es).version? k = some v →
      ((opening db).run es).Orderly k later → ((opening db).run es).WritesIn k later →
      (((opening db).run es).run later).IsAlone k →
      (((opening db).run es).run later).rows[k]? = some row → row.cell "id" = .str c.id →
      (((opening db).run es).run later).clients i =
        some { ask := .save c v, work := save now c v, shown } →
      (((opening db).run es).run later).Refuses i) := by
  have h : ((opening db).run es).Sound := (sound_opening hdb).run es
  generalize (opening db).run es = s at h
  refine ⟨fun e hw ha ho => h.increases hw ha ho, ?_⟩
  intro later v row i c now shown hv ho hw ha hrow hid hc
  obtain ⟨v', hv', -, hlt⟩ := h.rises hv ho ha
  obtain ⟨row', hrow', hversion⟩ := version?_eq_some.1 hv'
  obtain rfl : row' = row := Option.some.inj (hrow'.symm.trans hrow)
  have hlt := hlt hw
  exact (h.run later).refuses hrow hid ha (by omega) hc

/-! ## One row -/

def customer : Contact where
  tenant := "company"
  session := "session"
  person := "person"

def talk : Conversation where
  id := "talk"
  contact := customer
  flowId := "flow"
  node := "word"
  awaitsInput := true
  createdAt := Rehearsal.Clock.usualStart
  updatedAt := Rehearsal.Clock.usualStart

/-- A table with the row of the conversation, at version one. -/
def oneRow : Database where
  tables := [(conversationTable, [{ talk with version := 1 }.toRow])]

theorem numbered_oneRow : ∀ row ∈ oneRow.rows conversationTable, IsNumbered row := by
  have hrows : oneRow.rows conversationTable = [{ talk with version := 1 }.toRow] := by
    simp [Database.rows, oneRow, Dictionary.find?]
  rw [hrows]
  intro row hrow
  rw [List.mem_singleton.1 hrow]
  exact isNumbered_of_find? rfl

/-- One client is about to save over version one, another one has selected the row to end it. -/
def selected : List Step := [
  .begin 1 Rehearsal.Clock.usualStart (.save talk 1),
  .begin 0 Rehearsal.Clock.usualStart (.deactivate customer), .go 0]

/-- Two clients are about to save, over version one and over version two, and a third one has
selected the row to end it. The first save is made. -/
def savedMeanwhile : List Step := [
  .begin 0 Rehearsal.Clock.usualStart (.deactivate customer), .go 0,
  .begin 1 Rehearsal.Clock.usualStart (.save talk 1), .go 1,
  .begin 2 Rehearsal.Clock.usualStart (.save talk 2)]

theorem isAlone_of_length {s : Shared} (h : s.rows.length = 1) : s.IsAlone 0 := by
  intro row j other _ hother _
  have hj : j < s.rows.length := (List.getElem?_eq_some_iff.1 hother).1
  omega

/-- The row is ended as it was selected: its version goes up, and the save is refused. -/
theorem guarded_selected :
    (∃ v v', ((opening oneRow).run selected).version? 0 = some v ∧
      (((opening oneRow).run selected).act (.go 0)).version? 0 = some v' ∧ v < v') ∧
    (((opening oneRow).run selected).act (.go 0)).Refuses 1 := by
  have hsound : ((opening oneRow).run selected).Sound := (sound_opening numbered_oneRow).run _
  have hversion : ((opening oneRow).run selected).version? 0 = some 1 := by decide
  have hwrites : ((opening oneRow).run selected).Writes 0 (.go 0) :=
    hsound.writes_of_ne hversion (by decide)
  have hcurrent : (((opening oneRow).run selected).clients 0).map (·.shown[0]?) =
      some (((opening oneRow).run selected).rows[0]?) := by decide
  have horderly : ¬ ((opening oneRow).run selected).Outdated 0 (.go 0) := by
    rintro ⟨c, contact, hc, -, hne⟩
    rw [hc] at hcurrent
    exact hne (Option.some.inj hcurrent)
  have halone : (((opening oneRow).run selected).run [.go 0]).IsAlone 0 :=
    isAlone_of_length (by decide)
  have hid : ((((opening oneRow).run selected).run [.go 0]).rows[0]?).map (·.cell "id") =
      some (.str "talk") := by decide
  obtain ⟨row, hrow, hid⟩ := Option.map_eq_some_iff.1 hid
  obtain ⟨hincreases, hrefuses⟩ := guarded_of_run numbered_oneRow selected 0
  constructor
  · exact hincreases (.go 0) hwrites (isAlone_of_length (by decide)) horderly
  · refine hrefuses [.go 0] 1 row 1 talk Rehearsal.Clock.usualStart [] hversion
      ⟨fun _ => horderly, trivial⟩ (Or.inl hwrites) halone hrow hid ?_
    have hbegun : (((opening oneRow).act (.begin 1 Rehearsal.Clock.usualStart (.save talk 1))).act
        (.begin 0 Rehearsal.Clock.usualStart (.deactivate customer))).clients 1 =
        some { ask := .save talk 1, work := save Rehearsal.Clock.usualStart talk 1 } := rfl
    have hne : (1 : Nat) ≠ 0 := by decide
    exact (clients_go_of_ne hne _).trans ((clients_go_of_ne hne _).trans hbegun)

/-- The row is ended after it was saved: its version stays, and the save over the version that it had
before goes through. -/
theorem unguarded_savedMeanwhile :
    ((opening oneRow).run savedMeanwhile).Writes 0 (.go 0) ∧
    ((opening oneRow).run savedMeanwhile).version? 0 = some 2 ∧
    (((opening oneRow).run savedMeanwhile).act (.go 0)).version? 0 = some 2 ∧
    ¬ (((opening oneRow).run savedMeanwhile).act (.go 0)).Refuses 2 := by
  have hsound : ((opening oneRow).run savedMeanwhile).Sound :=
    (sound_opening numbered_oneRow).run _
  have hbefore : ((opening oneRow).run savedMeanwhile).version? 0 = some 2 := by decide
  have hafter : (((opening oneRow).run savedMeanwhile).act (.go 0)).version? 0 = some 2 := by
    decide
  have hsaved : ((((opening oneRow).run savedMeanwhile).act (.go 0)).go 2).version? 0 = some 3 := by
    decide
  refine ⟨hsound.writes_of_ne hbefore (by decide), hbefore, hafter, ?_⟩
  rintro ⟨hrows, -⟩
  unfold version? at hafter hsaved
  rw [hrows, hafter] at hsaved
  cases hsaved

end Shared

end Parley.Store
