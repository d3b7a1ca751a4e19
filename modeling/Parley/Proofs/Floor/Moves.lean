import Parley.Proofs.Desk.Conduct
import Parley.Proofs.Floor.Basic
import Parley.Proofs.Store.Ledger

/-!
# What can happen to the books

`Moves` lists what can happen to the books of a floor and to the notes of its jobs, each with what
the conduct of the desks guarantees of it. A job without work has no notes.

`Conducted` ties the notes to the jobs: what is left of every job keeps to the conduct. One event is
one of the moves and leaves the jobs conducted (`act_moves`), so that whatever is true of the books
need only be shown of the moves.
-/

namespace Parley

open Desk (Ask Errand Notes Outcome)

namespace Desk.Errand

/-- What a desk knows when it takes on an errand. -/
def notes (e : Errand) : Notes := { due := e.awakened? }

theorem work_behaves (s : Settings) (e : Errand) : Behaves e.notes (e.work s) := by
  cases e with
  | start contact flowId text name phone =>
    exact (start_behaves s contact flowId text name phone rfl).andThen fun _ _ hk => hk
  | resume contact text => exact (resume_behaves s contact text rfl).andThen fun _ _ hk => hk
  | receive contact text name phone =>
    exact (receive_behaves s contact text name phone rfl).andThen fun _ _ hk => hk
  | cancel contact => exact (cancel_behaves contact rfl).andThen fun _ _ hk => hk
  | active contact => exact (active_behaves contact rfl).andThen fun _ _ hk => hk
  | flowFor tenant text => exact (flowFor_behaves tenant text rfl).andThen fun _ _ hk => hk
  | wake w => exact (wake_behaves s w rfl rfl).andThen fun _ _ hk => hk

end Desk.Errand

/-- The conversation that a piece of work has missed. -/
def Finished.missed (r : Finished) : Option String := Parley.missed r.errand r.kept

theorem missed_append (e : Errand) (kept : List String) (id : String) :
    missed e (kept ++ [id]) = if missed e kept = some id then none else missed e kept := by
  unfold missed
  cases e.awakened? with
  | none => rfl
  | some a =>
    simp only [Option.filter_some, List.mem_append, List.mem_singleton, not_or,
      decide_eq_true_eq]
    by_cases ha : a ∈ kept
    · simp [ha]
    · by_cases hid : a = id
      · simp [hid]
      · simp [ha, hid]

section
variable {δ : Type}

/-- What can happen to the books and to the notes of the jobs. -/
inductive Moves [DecidableEq δ] : Books δ → (Nat → Notes) → Books δ → (Nat → Notes) → Prop where
  /-- Nothing happens to them. -/
  | rests (b : Books δ) (k : Nat → Notes) : Moves b k b k
  /-- An entry is written. -/
  | tells (b : Books δ) (k : Nat → Notes) (e : Entry) :
    Moves b k { b with ledger := b.ledger.append e } k
  /-- A job is given a flow. -/
  | learns (b : Books δ) (k : Nat → Notes) (i : Nat) (id : String) (g : Flow)
    (hg : Dictionary.find? b.ledger.flows id = some g) :
    Moves b k b (Function.update k i { k i with flows := (id, g) :: (k i).flows })
  /-- A job is shown a conversation. -/
  | sees (b : Books δ) (k : Nat → Notes) (i : Nat) (c : Conversation)
    (hc : b.ledger.find? c.id = some c) :
    Moves b k b (Function.update k i { k i with seen := c :: (k i).seen })
  /-- An id is made up for a job. -/
  | mints (b : Books δ) (k : Nat → Notes) (i : Nat) (id : String) (hid : id ∉ b.issued) :
    Moves b k { b with issued := id :: b.issued }
      (Function.update k i { k i with ids := id :: (k i).ids })
  /-- A job keeps a new conversation. -/
  | begins (b : Books δ) (k : Nat → Notes) (i : Nat) (c : Conversation)
    (hc : (k i).Begins c) (ho : (k i).owes = none) (ha : b.ledger.active? c.key = none) :
    Moves b k { b with ledger := b.ledger.keep { c with version := 1 } }
      (Function.update k i
        { (k i).keeping { c with version := 1 } with ids := (k i).ids.filter (· ≠ c.id) })
  /-- A job writes a conversation over the version at which it was shown it. -/
  | continues (b : Books δ) (k : Nat → Notes) (i : Nat) (c p : Conversation) (now : Moment)
    (hc : (k i).Continues c p.version) (ho : (k i).owes = none)
    (hp : b.ledger.find? c.id = some p) :
    Moves b k
      { b with ledger := b.ledger.keep { c with version := p.version + 1, updatedAt := now } }
      (Function.update k i ((k i).keeping { c with version := p.version + 1, updatedAt := now }))
  /-- A job ends the active conversations of a key. -/
  | ends (b : Books δ) (k : Nat → Notes) (i : Nat) (key : String) (now : Moment) :
    Moves b k { b with ledger := (b.ledger.deactivate now key).2 }
      (Function.update k i
        { k i with ended := (b.ledger.deactivate now key).1 ++ (k i).ended })
  /-- A job sets the timer that it owes. -/
  | sets (b : Books δ) (k : Nat → Notes) (i : Nat) (d : δ) (c : Conversation)
    (seconds : Number.Binary64) (ho : (k i).owes = some c) :
    Moves b k
      { b with timers := Function.update b.timers d ((b.timers d).schedule c.id seconds c.wake) }
      (Function.update k i { k i with owes := none })
  /-- A job cancels the timer of a conversation that is over. -/
  | clears (b : Books δ) (k : Nat → Notes) (i : Nat) (d : δ) (id : String)
    (hid : id ∈ (k i).ended) :
    Moves b k { b with timers := Function.update b.timers d ((b.timers d).remove id) } k
  /-- A timer goes off, and a job is begun for it. -/
  | fires (b : Books δ) (k : Nat → Notes) (i : Nat) (d : δ) (id : String) (w : Wake)
    (hi : k i = {}) (hw : Dictionary.find? (b.timers d).actions id = some w) :
    Moves b k { b with timers := Function.update b.timers d ((b.timers d).remove id) }
      (Function.update k i { due := some w.conversation })
  /-- A job comes to its end. -/
  | closes (b : Books δ) (k : Nat → Notes) (i : Nat) (r : Finished)
    (ho : (k i).owes = none) (hr : (k i).due = r.missed) :
    Moves b k { b with finished := r :: b.finished } (Function.update k i {})
  /-- Somebody else writes an active conversation again as it is. -/
  | rewrites (b : Books δ) (k : Nat → Notes) (c : Conversation) (now : Moment)
    (hc : b.ledger.find? c.id = some c) (ha : c.isActive = true) :
    Moves b k
      { b with ledger := b.ledger.keep { c with version := c.version + 1, updatedAt := now } } k
  /-- Somebody else ends the active conversations of a key. -/
  | silences (b : Books δ) (k : Nat → Notes) (key : String) (now : Moment) :
    Moves b k { b with ledger := (b.ledger.deactivate now key).2 } k
  /-- A flow is added. -/
  | publishes (b : Books δ) (k : Nat → Notes) (g : Flow) :
    Moves b k { b with ledger := b.ledger.addFlow g } k

/-- What is left of every job keeps to the conduct. -/
structure Conducted (f : Floor δ) (k : Nat → Notes) : Prop where
  idle : ∀ i, f.jobs i = none → k i = {}
  behaves : ∀ i job, f.jobs i = some job → Desk.Behaves (k i) job.work
  due : ∀ i job, f.jobs i = some job → (k i).due = missed job.errand job.kept

theorem conducted_opening (settings : δ → Desk.Settings) (flows : Dictionary Flow) :
    Conducted (Floor.opening settings flows) fun _ => {} where
  idle _ _ := rfl
  behaves i job h := by cases h
  due i job h := by cases h

variable {f : Floor δ} {k : Nat → Notes}

/-- The conversation that is due after an answer. -/
theorem due_after {n : Notes} {e : Errand} {kept : List String} {q : Ask} {r : q.Answer}
    (h : n.due = missed e kept) :
    (n.after q r).due = missed e (kept ++ Floor.keptBy q r) := by
  have same : ∀ m : Notes, m.due = n.due → m.due = missed e (kept ++ []) := by
    intro m hm
    rw [hm, h, List.append_nil]
  cases q with
  | store q =>
    cases q with
    | flow tenant id => rcases r with e | _ | g <;> exact same _ rfl
    | active contact => rcases r with e | _ | c <;> exact same _ rfl
    | conversation id => rcases r with e | _ | c <;> exact same _ rfl
    | create c =>
      cases r with
      | error e => exact same _ rfl
      | ok c =>
        show (if n.due = some c.id then none else n.due) = missed e (kept ++ [c.id])
        rw [missed_append, h]
    | save c version =>
      cases r with
      | error e => exact same _ rfl
      | ok c =>
        show (if n.due = some c.id then none else n.due) = missed e (kept ++ [c.id])
        rw [missed_append, h]
    | deactivate contact => cases r <;> exact same _ rfl
    | _ => exact same _ rfl
  | _ => exact same _ rfl

/-- The job of one place goes on, and those of all others stay as they are. -/
theorem Conducted.assign {g : Floor δ} {i : Nat} {job : Option (Job δ)} {n : Notes}
    (h : Conducted f k) (hg : g.jobs = f.jobs) (hnone : job = none → n = {})
    (hbehaves : ∀ j ∈ job, Desk.Behaves n j.work)
    (hdue : ∀ j ∈ job, n.due = missed j.errand j.kept) :
    Conducted (g.assign i job) (Function.update k i n) := by
  have jobs : (g.assign i job).jobs = Function.update f.jobs i job := by
    unfold Floor.assign
    rw [hg]
  refine ⟨fun j hj => ?_, fun j job' hj => ?_, fun j job' hj => ?_⟩ <;> rw [jobs] at hj <;>
    by_cases hji : j = i
  · subst hji
    rw [Function.update_self] at hj ⊢
    exact hnone hj
  · rw [Function.update_of_ne hji] at hj ⊢
    exact h.idle j hj
  · subst hji
    rw [Function.update_self] at hj ⊢
    exact hbehaves _ hj
  · rw [Function.update_of_ne hji] at hj ⊢
    exact h.behaves j job' hj
  · subst hji
    rw [Function.update_self] at hj ⊢
    exact hdue _ hj
  · rw [Function.update_of_ne hji] at hj ⊢
    exact h.due j job' hj

/-- A desk that takes on a job knows what its errand says. -/
theorem Conducted.take {g : Floor δ} {i : Nat} {d : δ} {e : Errand} (h : Conducted f k)
    (hg : g.jobs = f.jobs) : Conducted (g.take i d e) (Function.update k i e.notes) := by
  refine h.assign hg (fun hj => by cases hj) ?_ ?_
  · intro j hj
    cases hj
    exact e.work_behaves _
  · intro j hj
    cases hj
    show e.awakened? = e.awakened?.filter fun id => id ∉ []
    cases e.awakened? <;> rfl

variable [DecidableEq δ]

theorem Moves.rests_of_eq {b : Books δ} {i : Nat} {n : Notes} (h : n = k i) :
    Moves b k b (Function.update k i n) := by
  rw [h, Function.update_eq_self]
  exact .rests b k

/-- An answer of the ledger can be relied on, and is a move. -/
theorem ledger_moves {now : Moment} {q : Store.Ask} {r : Except Failure q.Answer} {l : Ledger}
    (i : Nat) (ht : f.books.ledger.IsTidy) (hmay : (k i).May (.store q))
    (hl : f.books.ledger.answer now q = (r, l)) :
    (Ask.store q).Hears r ∧
    Moves f.books k { f.books with ledger := l }
      (Function.update k i ((k i).after (.store q) r)) := by
  cases q with
  | flow tenant id =>
    obtain ⟨rfl, rfl⟩ := Prod.mk.inj hl
    cases hg : (Dictionary.find? f.books.ledger.flows id).filter (Ledger.isFor tenant) with
    | none => exact ⟨trivial, .rests_of_eq rfl⟩
    | some g => exact ⟨trivial, .learns _ _ _ _ _ (Option.filter_eq_some_iff.1 hg).1⟩
  | active contact =>
    obtain ⟨rfl, rfl⟩ := Prod.mk.inj hl
    cases hc : f.books.ledger.active? contact.key with
    | none => exact ⟨trivial, .rests_of_eq rfl⟩
    | some c =>
      obtain ⟨hfind, hholds⟩ := ht.find?_of_active? hc
      exact ⟨(Ledger.holds_iff.1 hholds).1, .sees _ _ _ _ hfind⟩
  | conversation id =>
    obtain ⟨rfl, rfl⟩ := Prod.mk.inj hl
    cases hc : f.books.ledger.find? id with
    | none => exact ⟨trivial, .rests_of_eq rfl⟩
    | some c => exact ⟨ht.id_of_find? hc, .sees _ _ _ _ (ht.find?_id hc)⟩
  | create c =>
    obtain ⟨ho, hc⟩ := hmay
    rcases Ledger.create_cases f.books.ledger c with ⟨e, h⟩ | ⟨ha, h⟩
    · obtain ⟨rfl, rfl⟩ := Prod.mk.inj (h.symm.trans hl)
      exact ⟨trivial, .rests_of_eq rfl⟩
    · obtain ⟨rfl, rfl⟩ := Prod.mk.inj (h.symm.trans hl)
      exact ⟨rfl, .begins _ _ _ _ hc ho ha⟩
  | save c expected =>
    obtain ⟨ho, hc⟩ := hmay
    rcases Ledger.save_cases f.books.ledger now c expected with ⟨e, h⟩ | ⟨p, hp, rfl, h⟩
    · obtain ⟨rfl, rfl⟩ := Prod.mk.inj (h.symm.trans hl)
      exact ⟨trivial, .rests_of_eq rfl⟩
    · obtain ⟨rfl, rfl⟩ := Prod.mk.inj (h.symm.trans hl)
      exact ⟨⟨now, rfl⟩, .continues _ _ _ _ p now hc ho hp⟩
  | deactivate contact =>
    obtain ⟨rfl, rfl⟩ := Prod.mk.inj hl
    exact ⟨trivial, .ends _ _ _ _ _⟩
  | append e =>
    obtain ⟨rfl, rfl⟩ := Prod.mk.inj hl
    refine ⟨trivial, ?_⟩
    show Moves _ _ _ (Function.update k i (k i))
    rw [Function.update_eq_self]
    exact .tells _ _ _
  | enabledFlows tenant =>
    obtain ⟨rfl, rfl⟩ := Prod.mk.inj hl
    exact ⟨trivial, .rests_of_eq rfl⟩
  | history id =>
    obtain ⟨rfl, rfl⟩ := Prod.mk.inj hl
    exact ⟨trivial, .rests_of_eq rfl⟩

/-- An answer leaves the jobs alone. -/
theorem Floor.answer_jobs (f : Floor δ) (i : Nat) (d : δ) (around : Around) (q : Ask) :
    (f.answer i d around q).2.jobs = f.jobs := by
  cases q with
  | freshId => unfold answer; split <;> rfl
  | _ => rfl

/-- A question without an answer is for a key, or leaves the floor as it is. -/
theorem Floor.answer_of_none {i : Nat} {d : δ}
    {around : Around} {q : Ask} (h : (f.answer i d around q).1 = none) :
    (f.answer i d around q).2 = f ∨ ∃ key, q = .acquire key := by
  cases q with
  | freshId =>
    unfold answer at h ⊢
    split
    · exact Or.inl rfl
    · rename_i hid
      simp [hid] at h
  | acquire key => exact Or.inr ⟨key, rfl⟩
  | _ => cases h

/-- The job that goes on in some surroundings, and the question that it is answered. -/
def Floor.answered? (f : Floor δ) (i : Nat) (around : Around) :
    Option (Job δ × (q : Ask) × q.Answer) :=
  match f.jobs i with
  | none => none
  | some job => match job.work with
    | .ask q _ => (f.answer i job.desk around q).1.map fun r => (job, ⟨q, r⟩)
    | _ => none

/-- A question of a job is put off, which only a question for a key shows, or it is answered. -/
theorem Floor.go_split (f : Floor δ) (i : Nat) (around : Around) :
    (f.answered? i around = none ∧
      (f.go i around = f ∨ ∃ (job : Job δ) (key : String) (next : Unit → Desk.Work Outcome),
        f.jobs i = some job ∧ job.work = .ask (.acquire key) next ∧
        f.go i around = (f.answer i job.desk around (.acquire key)).2)) ∨
    ∃ (job : Job δ) (q : Ask) (next : q.Answer → Desk.Work Outcome) (r : q.Answer),
      f.answered? i around = some (job, ⟨q, r⟩) ∧ f.jobs i = some job ∧ job.work = .ask q next ∧
      (f.answer i job.desk around q).1 = some r ∧
      f.go i around = (f.answer i job.desk around q).2.assign i
        (some { job with work := next r, kept := job.kept ++ keptBy q r }) := by
  unfold go answered?
  cases hj : f.jobs i with
  | none => exact Or.inl ⟨rfl, Or.inl rfl⟩
  | some job =>
    cases hw : job.work with
    | done a => simp [hw]
    | fail e => simp [hw]
    | ask q next =>
      simp only [hw]
      have hnone : (f.answer i job.desk around q).1 = none → _ := answer_of_none
      cases ha : f.answer i job.desk around q with
      | mk answered g =>
        rw [ha] at hnone
        cases answered with
        | some r => exact Or.inr ⟨job, q, next, r, rfl, rfl, hw, by rw [ha], by rw [ha]⟩
        | none =>
          refine Or.inl ⟨rfl, ?_⟩
          rcases hnone rfl with hsame | ⟨key, rfl⟩
          · exact Or.inl hsame
          · exact Or.inr ⟨job, key, next, rfl, hw, by rw [ha]⟩

/-- A job either stays where it is, and so do the books, or its question is answered. -/
theorem Floor.go_cases (f : Floor δ) (i : Nat) (around : Around) :
    ((f.go i around).jobs = f.jobs ∧ (f.go i around).books = f.books) ∨
    ∃ (job : Job δ) (q : Ask) (next : q.Answer → Desk.Work Outcome) (r : q.Answer),
      f.jobs i = some job ∧ job.work = .ask q next ∧
      (f.answer i job.desk around q).1 = some r ∧
      f.go i around = (f.answer i job.desk around q).2.assign i
        (some { job with work := next r, kept := job.kept ++ keptBy q r }) := by
  rcases f.go_split i around with ⟨-, hgo | ⟨job, key, next, -, -, hgo⟩⟩ |
    ⟨job, q, next, r, -, hjob, hwork, hr, hgo⟩
  · exact Or.inl (by rw [hgo]; exact ⟨rfl, rfl⟩)
  · exact Or.inl (by rw [hgo]; exact ⟨rfl, rfl⟩)
  · exact Or.inr ⟨job, q, next, r, hjob, hwork, hr, hgo⟩

/-- An answer can be relied on, and is a move. -/
theorem answer_moves {i : Nat} {d : δ} {around : Around} {q : Ask} {r : q.Answer}
    (ht : f.books.ledger.IsTidy) (hmay : (k i).May q)
    (hr : (f.answer i d around q).1 = some r) :
    q.Hears r ∧
    Moves f.books k (f.answer i d around q).2.books (Function.update k i ((k i).after q r)) := by
  cases q with
  | store q =>
    cases hr
    exact ledger_moves i ht hmay rfl
  | freshId =>
    unfold Floor.answer at hr ⊢
    split
    · rename_i hid
      simp [hid] at hr
    · rename_i hid
      simp only [hid, if_false, Option.some.injEq] at hr
      obtain rfl := hr
      exact ⟨trivial, .mints _ _ _ _ hid⟩
  | schedule id seconds w =>
    obtain ⟨c, hc, rfl, rfl⟩ := hmay
    exact ⟨trivial, .sets _ _ _ _ _ _ hc⟩
  | cancelTimer id =>
    refine ⟨trivial, ?_⟩
    show Moves _ _ _ (Function.update k i (k i))
    rw [Function.update_eq_self]
    exact .clears _ _ i _ _ hmay
  | outside q => exact ⟨trivial, .rests_of_eq rfl⟩
  | now => exact ⟨trivial, .rests_of_eq rfl⟩
  | acquire key => exact ⟨trivial, .rests_of_eq rfl⟩
  | release key => exact ⟨trivial, .rests_of_eq rfl⟩
  | deliver c t => exact ⟨trivial, .rests_of_eq rfl⟩

theorem go_moves (h : Conducted f k) (ht : f.books.ledger.IsTidy) (i : Nat) (around : Around) :
    ∃ k', Moves f.books k (f.go i around).books k' ∧ Conducted (f.go i around) k' := by
  rcases f.go_cases i around with ⟨hjobs, hbooks⟩ | ⟨job, q, next, r, hj, hw, hr, hgo⟩
  · refine ⟨k, hbooks ▸ .rests _ _, ⟨?_, ?_, ?_⟩⟩ <;> rw [hjobs]
    · exact h.idle
    · exact h.behaves
    · exact h.due
  · have hbehaves := h.behaves i job hj
    rw [hw] at hbehaves
    obtain ⟨hmay, hnext⟩ := hbehaves
    obtain ⟨hears, hmoves⟩ := answer_moves ht hmay hr
    rw [hgo]
    refine ⟨_, hmoves, h.assign (f.answer_jobs i job.desk around q) (fun hn => by cases hn) ?_ ?_⟩
    · rintro j ⟨⟩
      exact hnext r hears
    · rintro j ⟨⟩
      exact due_after (h.due i job hj)

theorem accept_moves (h : Conducted f k) (i : Nat) (d : δ) (e : Errand) :
    ∃ k', Moves f.books k (f.accept i d e).books k' ∧ Conducted (f.accept i d e) k' := by
  unfold Floor.accept
  split
  · rename_i hbegin
    simp only [Bool.and_eq_true, Option.isNone_iff_eq_none] at hbegin
    obtain ⟨hfree, hasked⟩ := hbegin
    refine ⟨_, .rests_of_eq ?_, h.take rfl⟩
    rw [h.idle i hfree]
    unfold Desk.Errand.notes
    rw [hasked]
  · exact ⟨k, .rests _ _, h⟩

theorem fire_moves (h : Conducted f k) (i : Nat) (d : δ) (id : String) :
    ∃ k', Moves f.books k (f.fire i d id).books k' ∧ Conducted (f.fire i d id) k' := by
  unfold Floor.fire
  cases hw : Dictionary.find? (f.books.timers d).actions id with
  | none => exact ⟨k, .rests _ _, h⟩
  | some w =>
    show ∃ k', Moves f.books k (if (f.jobs i).isNone then _ else f).books k' ∧
      Conducted (if (f.jobs i).isNone then _ else f) k'
    split
    · rename_i hfree
      have hi := h.idle i (by simpa using hfree)
      exact ⟨_, .fires _ _ i d id w hi hw, h.take (e := .wake w) rfl⟩
    · exact ⟨k, .rests _ _, h⟩

theorem finish_moves (h : Conducted f k) (i : Nat) :
    ∃ k', Moves f.books k (f.finish i).books k' ∧ Conducted (f.finish i) k' := by
  unfold Floor.finish
  cases hj : f.jobs i with
  | none => exact ⟨k, .rests _ _, h⟩
  | some job =>
    cases hr : Floor.result? job.work with
    | none => simp only [hr]; exact ⟨k, .rests _ _, h⟩
    | some result =>
      simp only [hr]
      have howes : (k i).owes = none := by
        have hbehaves := h.behaves i job hj
        cases hw : job.work with
        | ask q next => rw [hw] at hr; cases hr
        | done a => rw [hw] at hbehaves; exact hbehaves
        | fail e => rw [hw] at hbehaves; exact hbehaves
      refine ⟨_, .closes _ _ i _ howes (h.due i job hj), h.assign rfl (fun _ => rfl) ?_ ?_⟩
      · intro j hj
        cases hj
      · intro j hj
        cases hj

theorem rewrite_moves (h : Conducted f k) (ht : f.books.ledger.IsTidy) (id : String)
    (now : Moment) :
    ∃ k', Moves f.books k (f.rewrite id now).books k' ∧ Conducted (f.rewrite id now) k' := by
  unfold Floor.rewrite
  cases hc : f.books.ledger.find? id with
  | none => exact ⟨k, .rests _ _, h⟩
  | some c =>
    show ∃ k', Moves f.books k (if c.isActive then _ else f).books k' ∧
      Conducted (if c.isActive then _ else f) k'
    split
    · rename_i hact
      have hfind := ht.find?_id hc
      have hsave : (f.books.ledger.save now c c.version).2 =
          f.books.ledger.keep { c with version := c.version + 1, updatedAt := now } := by
        simp [Ledger.save, hfind]
      refine ⟨k, ?_, ⟨h.idle, h.behaves, h.due⟩⟩
      simp only [hsave]
      exact .rewrites _ _ c now hfind hact
    · exact ⟨k, .rests _ _, h⟩

/-- Whatever happens is one of the moves. -/
theorem act_moves (h : Conducted f k) (ht : f.books.ledger.IsTidy) (e : Event δ) :
    ∃ k', Moves f.books k (f.act e).books k' ∧ Conducted (f.act e) k' := by
  cases e with
  | begin i d e => exact accept_moves h i d e
  | fire i d id => exact fire_moves h i d id
  | go i around => exact go_moves h ht i around
  | finish i => exact finish_moves h i
  | rewrite id now => exact rewrite_moves h ht id now
  | silence contact now =>
    exact ⟨k, .silences _ _ contact.key now, ⟨h.idle, h.behaves, h.due⟩⟩
  | publish g => exact ⟨k, .publishes _ _ g, ⟨h.idle, h.behaves, h.due⟩⟩

end

end Parley
