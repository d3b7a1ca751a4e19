import Mathlib.Data.Stream.Init
import Parley.Proofs.Desk.Attended
import Parley.Proofs.Floor.Failing
import Parley.Proofs.Program.Exchanges
import Parley.Proofs.Turn.Breaking
import Parley.Proofs.Turn.Ending

/-!
# Turns that break off

A turn breaks off where something outside fails, and a note of the failure is all that is left of
it. The note tells which message the turn went on with. That is the value of a variable, and a call
may have put anything there: where it is no text the note cannot be made, and the operation fails
instead (`Taken.IsMute`).

`Composed` splits what an operation asks and hears into its turns and the questions between them. Of
each turn one note is written exactly where it broke off and the note can be made
(`Taken.IsReal.comes`), and the operation has a result unless one of its turns could not be noted
(`turns_comeOut`). This is so whatever is answered outside and whatever others do to the ledger
before each question. A start takes no turn that goes on with a message, and so always has a result.
-/

namespace Parley

open Program

namespace Desk

variable {α β : Type} {s : Settings} {t u : Turn} {n : Node} {told : List Entry}

/-! ## A store in memory -/

/-- The answer is one that a store in memory gives, whatever it holds; to other questions anything
may be answered. -/
def OverLedger : (q : Ask) → q.Answer → Prop
  | .store q, r => ∃ now l, r = (Ledger.answer now q l).1
  | _, _ => True

/-- The entry that a question writes. -/
def entryOf : Ask → Option Entry
  | .store (.append e) => some e
  | _ => none

/-- The note of a failure that a question writes. -/
def noteOf (q : Ask) : Option Entry := (entryOf q).filter (·.action = .error)

/-- The notes of failures that are written. -/
def notes (log : List (Exchange Access)) : List Entry := log.filterMap fun x => noteOf x.ask

theorem notes_append (log log' : List (Exchange Access)) :
    notes (log ++ log') = notes log ++ notes log' := List.filterMap_append

/-- No rules for work over a store in memory; its standing is what was noted so far. -/
def noting : Protocol Access (List Entry) where
  may _ _ := True
  hears := OverLedger
  after told q _ := told ++ (noteOf q).toList

theorem foldl_after (log : List (Exchange Access)) (told : List Entry) :
    log.foldl (fun told x => noting.after told x.ask x.reply) told = told ++ notes log := by
  induction log generalizing told with
  | nil => exact (List.append_nil told).symm
  | cons x log ih =>
    rw [List.foldl_cons, ih]
    show (told ++ (noteOf x.ask).toList) ++ _ = _
    cases hx : noteOf x.ask <;> simp [notes, hx]

/-- What work does to the notes by the rules, it does to those of its log. -/
theorem notes_of_keeps {work : Work α} {Q : Except Failure α → List Entry → Prop}
    {log : List (Exchange Access)} {r : Except Failure α} (h : work.Keeps noting [] Q)
    (hlog : work.Hears log r) (hheard : ∀ x ∈ log, OverLedger x.ask x.reply) : Q r (notes log) := by
  have hend := h.hears hlog hheard
  rwa [foldl_after] at hend

theorem passes_noting {q : Ask} (h : noteOf q = none) : Passes noting told q :=
  ⟨trivial, fun _ => by simp [noting, h]⟩

theorem keeps_granted {q : Store.Ask} {f : q.Answer → Work α}
    {Q : Except Failure α → List Entry → Prop} (hq : noteOf (.store q) = none)
    (hgrants : ∀ now l, ∃ a, (Ledger.answer now q l).1 = .ok a)
    (hf : ∀ a, (f a).Keeps noting told Q) : (store q >>= f).Keeps noting told Q := by
  refine keeps_bind.2 (keeps_store.2 ⟨trivial, ?_⟩)
  rintro r ⟨now, l, rfl⟩
  obtain ⟨a, ha⟩ := hgrants now l
  rw [ha, (passes_noting hq).after]
  exact hf a

/-- Work has a value, or has met with somebody else who wrote the conversation. -/
def OkOrConflict : Except Failure α → Prop :=
  Either (fun _ => True) fun e => ∃ id expected found, e = .conflict id expected found

theorem keep_noting (t : Turn) :
    (keep t).Keeps noting told fun r told' => told' = told ∧ OkOrConflict r := by
  have hcreate : ∀ (now : Moment) (l : Ledger) c,
      OkOrConflict (Ledger.answer now (.create c) l).1 := by
    intro now l c
    show OkOrConflict (l.create c).1
    unfold Ledger.create
    split
    · exact ⟨_, _, _, rfl⟩
    · exact trivial
  have hsave : ∀ (now : Moment) (l : Ledger) c v,
      OkOrConflict (Ledger.answer now (.save c v) l).1 := by
    intro now l c v
    show OkOrConflict (l.save now c v).1
    unfold Ledger.save
    dsimp only
    split
    · exact trivial
    · exact ⟨_, _, _, rfl⟩
  unfold keep
  split
  · unfold replaceActive
    refine keeps_granted rfl (fun _ _ => ⟨_, rfl⟩) fun ended => ?_
    refine keeps_bind_of_same (cancelTimers_keeps fun _ _ => passes_noting rfl) fun _ => ?_
    refine keeps_store.2 ⟨trivial, ?_⟩
    rintro r ⟨now, l, rfl⟩
    exact ⟨(passes_noting rfl).after _, hcreate now l _⟩
  · refine keeps_store.2 ⟨trivial, ?_⟩
    rintro r ⟨now, l, rfl⟩
    exact ⟨(passes_noting rfl).after _, hsave now l _ _⟩

/-- A turn that tells of no failure is committed without a note, and has a result. -/
theorem commit_noting (hu : u.IsQuiet) :
    (commit s u).Keeps noting told fun r told' => told' = told ∧ ∃ a, r = .ok a := by
  unfold commit
  refine keeps_bind.2 (keeps_attempt.2 ((keep_noting u).mono ?_))
  rintro (e | kept) told' ⟨rfl, hr⟩
  · obtain ⟨id, expected, found, rfl⟩ := hr
    exact ⟨rfl, _, rfl⟩
  · have hquiet : ∀ e ∈ u.history, Passes noting told' (.store (.append e)) := fun e he =>
      passes_noting (by simp [noteOf, entryOf, hu e he])
    refine keeps_bind_of_same (writeHistory_keeps hquiet) fun _ => ?_
    refine keeps_bind_of_same (settleTimer_keeps (fun _ _ => passes_noting rfl)
      (passes_noting rfl)) fun _ => ?_
    exact ⟨rfl, _, rfl⟩

/-- The message that a failure is noted with, in a turn that went on with one. -/
def messageOf (t : Turn) (resuming : Bool) : Except Failure (Option String) :=
  if resuming then lastMessage t else .ok none

/-- The note of a failure. -/
def noteFor (u : Turn) (n : Node) (f : Failure) (input : Option String) : Entry :=
  u.entry ((u.flow.node? u.conversation.node).getD n) .error input (some f.message)

/-- The result of a turn that broke off. -/
def brokenResult (u : Turn) : TurnResult :=
  .failed ("Internal error at node " ++ u.conversation.node) (some u.conversation.id)
    (some u.conversation.node)

/-- A failure is noted once, where its message can be told. -/
theorem noteFailure_noting (u : Turn) (n : Node) (resuming : Bool) (f : Failure) :
    (noteFailure u n resuming f).Keeps noting told fun r told' =>
      match messageOf u resuming with
      | .ok input => told' = told ++ [noteFor u n f input] ∧ r = .ok (brokenResult u)
      | .error e => told' = told ∧ r = .error e := by
  unfold noteFailure
  refine keeps_bind.2 (keeps_ofExcept.2 ?_)
  unfold messageOf
  cases (if resuming then lastMessage u else .ok none : Except Failure (Option String)) with
  | error e => exact ⟨rfl, rfl⟩
  | ok input => exact ⟨trivial, fun r _ => ⟨rfl, rfl⟩⟩

/-! ## Turns -/

/-- How a turn comes to begin: what is asked and heard for it, and the turn from its first node on.
The clock is read once for every turn. -/
inductive Prologue : List (Exchange Access) → Turn → Node → Bool → Prop
  /-- A flow is started, for a conversation whose id is made up. -/
  | start {contact : Contact} {flowId id : String} {f : Flow} {n : Node} {now : Moment}
    {text name phone : Option String} (first : f.start? = some n) :
    Prologue [⟨.store (.flow contact.tenant flowId), .ok (some f)⟩, ⟨.now, now⟩, ⟨.freshId, id⟩]
      (newTurn now id contact flowId f n text name phone) n false
  /-- The active conversation gets the message that it waits for. -/
  | message {contact : Contact} {c : Conversation} {f : Flow} {n : Node} {now : Moment}
    {text : Option String} (waits : c.awaitsInput = true) (found : f.node? c.node = some n) :
    Prologue [⟨.store (.active contact), .ok (some c)⟩,
      ⟨.store (.flow contact.tenant c.flowId), .ok (some f)⟩, ⟨.now, now⟩]
      (answeredTurn now c f n text) n (!c.entersOnResume)

/-- A conversation begins without a last message. -/
theorem firstVariables_lastMessage (now : Moment) (text name phone : Option String) :
    Dictionary.find? (firstVariables now text name phone) "lastUserMessage" = none := by
  unfold firstVariables
  cases Turn.given name <;> cases Turn.given phone <;> rfl

theorem newTurn_isBegun (now : Moment) (id : String) (contact : Contact) (flowId : String)
    {f : Flow} (hn : f.start? = some n) (text name phone : Option String) :
    (newTurn now id contact flowId f n text name phone).IsBegun n where
  quiet := (Turn.isQuiet_of_history rfl).record _ (a := .entered) (by simp) _
  text v hv := by cases (firstVariables_lastMessage now text name phone).symm.trans hv
  mem := List.mem_of_find?_eq_some hn

theorem answeredTurn_isBegun (now : Moment) (c : Conversation) {f : Flow} {n : Node}
    (hn : n ∈ f.nodes) (text : Option String) : (answeredTurn now c f n text).IsBegun n := by
  have hvalue : ∀ u : Turn, u.conversation.vars =
      ((c.assign "lastUserMessage" (.ofText? text)).assign "lastMessageAt"
        (.str now.text)).vars → u.HoldsText := by
    intro u hu v hv
    have hv : ((c.assign "lastUserMessage" (.ofText? text)).assign "lastMessageAt"
        (.str now.text)).valueOf? "lastUserMessage" = some v :=
      (congrArg (Dictionary.find? · "lastUserMessage") hu).symm.trans hv
    rw [Turn.valueOf?_assign, if_neg (by decide), Turn.valueOf?_assign, if_pos rfl] at hv
    obtain rfl := Option.some.inj hv
    cases text with
    | none => exact .inl rfl
    | some said => exact .inr ⟨said, rfl⟩
  unfold answeredTurn
  dsimp only
  split
  · exact ⟨((Turn.isQuiet_of_history rfl).record _ (a := .userInput) (by simp) _).record _
      (a := .entered) (by simp), hvalue _ rfl, hn⟩
  · exact ⟨(Turn.isQuiet_of_history rfl).record _ (a := .userInput) (by simp) _, hvalue _ rfl, hn⟩

theorem Prologue.isBegun {opening : List (Exchange Access)} {resuming : Bool}
    (h : Prologue opening t n resuming) : t.IsBegun n := by
  cases h with
  | start first => exact newTurn_isBegun _ _ _ _ first _ _ _
  | message _ found => exact answeredTurn_isBegun _ _ (Flow.node?_mem found) _

theorem Prologue.notes_eq {opening : List (Exchange Access)} {resuming : Bool}
    (h : Prologue opening t n resuming) : notes opening = [] := by
  cases h <;> rfl

/-- A turn that a desk took: how it began, how its visits ended, and what it came to. -/
structure Taken where
  /-- What was asked and heard for it to begin. -/
  opening : List (Exchange Access)
  turn : Turn
  first : Node
  /-- Whether it goes on from the first node, instead of entering it. -/
  resuming : Bool
  course : Turn.Course
  /-- What its visits asked and heard. -/
  visits : List (Exchange Access)
  /-- What it asked and heard afterwards. -/
  closing : List (Exchange Access)
  result : Except Failure TurnResult

namespace Taken

/-- All that a turn asked and heard. -/
def log (k : Taken) : List (Exchange Access) := k.opening ++ (k.visits ++ k.closing)

/-- What is left to be done after the visits of a turn. -/
def close (s : Settings) (k : Taken) : Work TurnResult :=
  match k.course with
  | .settled u => commit s u
  | .broken u f => noteFailure u k.first k.resuming f

/-- A turn that was taken as the desk takes turns. -/
structure IsReal (s : Settings) (k : Taken) : Prop where
  opened : Prologue k.opening k.turn k.first k.resuming
  visited : (outside (k.turn.advance s.further k.first k.resuming)).Hears k.visits (.ok k.course)
  closed : (k.close s).Hears k.closing k.result

/-- The failure of a turn cannot be noted: something that is no text stands where the message should
that the turn went on with. -/
def IsMute (k : Taken) : Prop :=
  k.resuming = true ∧ ∃ u f v, k.course = .broken u f ∧
    u.conversation.valueOf? "lastUserMessage" = some v ∧ v ≠ .null ∧ ∀ text, v ≠ .str text

/-- What an operation fails with whose turn could not be noted. -/
def muteness : Failure := .rejected [⟨[.key "input"], .notText⟩]

/-- What comes of a turn. One that settled has a result and leaves no note. One that broke off
leaves a single note of its failure, for its conversation, and has a result that tells of it; or it
cannot be noted. -/
def Comes (k : Taken) : Prop :=
  match k.course with
  | .settled _ => notes k.log = [] ∧ ∃ r, k.result = .ok r
  | .broken u f =>
    (k.IsMute → notes k.log = [] ∧ k.result = .error muteness) ∧
      (¬ k.IsMute → ∃ e, notes k.log = [e] ∧ e.conversation = k.turn.conversation.id ∧
        e.output = some f.message ∧ k.result = .ok (brokenResult u))

variable {k : Taken} {f : Failure}

/-- Only what is neither missing, null nor a text cannot be told as a message. -/
theorem lastMessage_eq_error {e : Failure} (h : lastMessage u = .error e) :
    e = muteness ∧ ∃ v, u.conversation.valueOf? "lastUserMessage" = some v ∧ v ≠ .null ∧
      ∀ text, v ≠ .str text := by
  unfold lastMessage at h
  split at h
  · cases h
  · cases h
  · cases h
  · rename_i v hnull htext hv
    cases h
    exact ⟨rfl, v, hv, hnull, htext⟩

theorem isMute_iff (h : k.course = .broken u f) :
    k.IsMute ↔ messageOf u k.resuming = .error muteness := by
  unfold messageOf
  constructor
  · rintro ⟨hresuming, u', f', v, hcourse, hv, hnull, htext⟩
    obtain ⟨rfl, rfl⟩ := Turn.Course.broken.inj (h.symm.trans hcourse)
    rw [if_pos hresuming, lastMessage, hv]
    cases v with
    | null => exact absurd rfl hnull
    | str text => exact absurd rfl (htext text)
    | _ => rfl
  · intro hmessage
    split at hmessage
    · obtain ⟨-, v, hv⟩ := lastMessage_eq_error hmessage
      exact ⟨‹_›, u, f, v, h, hv⟩
    · cases hmessage

theorem messageOf_eq_error {resuming : Bool} {e : Failure} (h : messageOf u resuming = .error e) :
    e = muteness := by
  unfold messageOf at h
  split at h
  · exact (lastMessage_eq_error h).1
  · cases h

/-- What is asked outside writes nothing. -/
theorem notes_outside {p : Program Outside.Access α} {log : List (Exchange Access)}
    {r : Except Failure α} (h : (outside p).Hears log r) : notes log = [] := by
  have hasks : ∀ x ∈ log, ∃ q, x.ask = .outside q := by
    refine hears_via (R := fun a => ∃ q, a = Ask.outside q) (fun q log r hlog x hx => ?_) h
    obtain ⟨reply, rfl, -⟩ := hears_call hlog
    exact ⟨q, by rw [List.mem_singleton.1 hx]⟩
  refine List.filterMap_eq_nil_iff.2 fun x hx => ?_
  obtain ⟨q, hq⟩ := hasks x hx
  rw [hq]
  rfl

/-- What is asked outside comes to what it comes to, whatever is answered. -/
theorem hears_outside {p : Program Outside.Access α} {Q : Except Failure α → Prop}
    (h : p.Yields Q) {log : List (Exchange Access)} {r : Except Failure α}
    (hlog : (outside p).Hears log r) : Q r :=
  (Keeps.hears (keeps_outside (P := noRules Access) (s := ()) (fun _ => ⟨trivial, fun _ => rfl⟩) h)
    hlog fun _ _ => trivial).1

/-- Where the failure of a turn cannot be noted, a call of the flow keeps its answer in the place of
the last message. -/
theorem IsReal.keepsAnswer (h : k.IsReal s) (hmute : k.IsMute) :
    ∃ m ∈ k.turn.flow.nodes, m.KeepsAnswerAs "lastUserMessage" := by
  by_contra hnone
  have hcalls : ∀ m ∈ k.turn.flow.nodes, ¬ m.KeepsAnswerAs "lastUserMessage" :=
    fun m hm hkeeps => hnone ⟨m, hm, hkeeps⟩
  obtain ⟨-, u, f, v, hcourse, hv, hnull, htext⟩ := hmute
  have hbegun := h.opened.isBegun
  have hbreaks := hears_outside
    (Turn.advance_holdsText s.further hbegun.text hbegun.mem hcalls k.resuming) h.visited
  rw [hcourse] at hbreaks
  have hholds : u.HoldsText := hbreaks
  obtain rfl | ⟨text, rfl⟩ := hholds v hv
  · exact hnull rfl
  · exact htext text rfl

theorem IsReal.comes (h : k.IsReal s) (hlog : ∀ x ∈ k.log, OverLedger x.ask x.reply) :
    k.Comes := by
  have hnotes : notes k.log = notes k.closing := by
    rw [log, notes_append, notes_append, h.opened.notes_eq, notes_outside h.visited]
    rfl
  have hclosing : ∀ x ∈ k.closing, OverLedger x.ask x.reply := fun x hx =>
    hlog x (List.mem_append_right _ (List.mem_append_right _ hx))
  have hquietly : k.turn.Quietly k.course := hears_outside
    (Turn.advance_quietly s.further h.opened.isBegun.quiet k.first k.resuming) h.visited
  have hclosed := h.closed
  unfold Comes
  unfold close at hclosed
  rw [hnotes]
  cases hcourse : k.course with
  | settled u =>
    rw [hcourse] at hquietly hclosed
    exact notes_of_keeps (commit_noting hquietly) hclosed hclosing
  | broken u f =>
    rw [hcourse] at hquietly hclosed
    have hend := notes_of_keeps (noteFailure_noting u k.first k.resuming f) hclosed hclosing
    cases hmessage : messageOf u k.resuming with
    | error e =>
      rw [hmessage] at hend
      obtain rfl := messageOf_eq_error hmessage
      exact ⟨fun _ => hend, fun hnot => absurd ((isMute_iff hcourse).2 hmessage) hnot⟩
    | ok input =>
      rw [hmessage] at hend
      have hnot : ¬ k.IsMute := fun hmute => by
        cases hmessage.symm.trans ((isMute_iff hcourse).1 hmute)
      exact ⟨fun hmute => absurd hmute hnot, fun _ => ⟨_, hend.1, hquietly, rfl, hend.2⟩⟩

end Taken

/-! ## Operations -/

/-- A question that is asked between turns: for a key, or a look at the store. -/
def IsBetween : Ask → Prop
  | .acquire _ | .release _ => True
  | .store (.active _) | .store (.flow _ _) | .store (.enabledFlows _) => True
  | _ => False

theorem IsBetween.noteOf_eq {q : Ask} (h : IsBetween q) : noteOf q = none := by
  cases q with
  | store q =>
    cases q with
    | append e => exact h.elim
    | _ => rfl
  | _ => rfl

/-- What an operation asks and hears: turns, one after the other, and what is asked between them.
Nothing between turns reads the clock, so there is a turn wherever the clock is read. -/
inductive Composed (s : Settings) : List (Exchange Access) → List Taken → Prop
  | nil : Composed s [] []
  | ask {x : Exchange Access} {log : List (Exchange Access)} {turns : List Taken}
    (between : IsBetween x.ask) (rest : Composed s log turns) : Composed s (x :: log) turns
  | turn {k : Taken} {log : List (Exchange Access)} {turns : List Taken} (isReal : k.IsReal s)
    (rest : Composed s log turns) : Composed s (k.log ++ log) (k :: turns)

theorem Composed.append {log log' : List (Exchange Access)} {turns turns' : List Taken}
    (h : Composed s log turns) (h' : Composed s log' turns') :
    Composed s (log ++ log') (turns ++ turns') := by
  induction h with
  | nil => exact h'
  | ask between _ ih => exact .ask between ih
  | turn isReal _ ih =>
    rw [List.append_assoc]
    exact .turn isReal ih

theorem Composed.isReal {log : List (Exchange Access)} {turns : List Taken} {k : Taken}
    (h : Composed s log turns) (hk : k ∈ turns) : k.IsReal s ∧ k.log ⊆ log := by
  induction h with
  | nil => cases hk
  | ask _ _ ih =>
    obtain ⟨hreal, hlog⟩ := ih hk
    exact ⟨hreal, List.Subset.trans hlog (List.subset_cons_self _ _)⟩
  | turn isReal _ ih =>
    rcases List.mem_cons.1 hk with rfl | hk
    · exact ⟨isReal, List.subset_append_left _ _⟩
    · obtain ⟨hreal, hlog⟩ := ih hk
      exact ⟨hreal, List.Subset.trans hlog (List.subset_append_right _ _)⟩

/-- The notes of an operation are those of its turns. -/
theorem Composed.notes_eq {log : List (Exchange Access)} {turns : List Taken}
    (h : Composed s log turns) : notes log = turns.flatMap fun k => notes k.log := by
  induction h with
  | nil => rfl
  | ask between _ ih =>
    rw [← ih]
    exact List.filterMap_cons_none between.noteOf_eq
  | turn _ _ ih => rw [List.flatMap_cons, ← ih, notes_append]

/-- Work has a value unless one of its turns could not be noted. -/
def ComesOut (turns : List Taken) (r : Except Failure α) : Prop :=
  (∃ a, r = .ok a) ∧ (∀ k ∈ turns, ¬ k.IsMute) ∨ (∃ k ∈ turns, k.IsMute) ∧ r = .error Taken.muteness

/-- The log is that of turns, which are all as `R` says, and the result is as they come out. -/
def MadeOfTurns (s : Settings) (R : Taken → Prop) (log : List (Exchange Access))
    (r : Except Failure α) : Prop :=
  ∃ turns, Composed s log turns ∧ (∀ k ∈ turns, R k) ∧ ComesOut turns r

/-- Over a store in memory the work concludes in turns. -/
def TakesTurns (s : Settings) (R : Taken → Prop) (work : Work α) : Prop :=
  ∀ log r, work.Hears log r → (∀ x ∈ log, OverLedger x.ask x.reply) → MadeOfTurns s R log r

section
variable {R : Taken → Prop} {log : List (Exchange Access)} {r : Except Failure α}

theorem MadeOfTurns.ask (h : MadeOfTurns s R log r) {x : Exchange Access} (hx : IsBetween x.ask) :
    MadeOfTurns s R (x :: log) r := by
  obtain ⟨turns, hcomposed, hrest⟩ := h
  exact ⟨turns, .ask hx hcomposed, hrest⟩

theorem TakesTurns.bind {work : Work α} {f : α → Work β} (h : TakesTurns s R work)
    (hf : ∀ a, TakesTurns s R (f a)) : TakesTurns s R (work >>= f) := by
  intro log r hlog hheard
  rcases hears_bind hlog with ⟨e, he, rfl⟩ | ⟨a, before, behind, rfl, hbefore, hbehind⟩
  · obtain ⟨turns, hcomposed, hR, hout⟩ := h log _ he hheard
    refine ⟨turns, hcomposed, hR, .inr ?_⟩
    rcases hout with ⟨⟨a, ha⟩, -⟩ | ⟨hmute, herror⟩
    · cases ha
    · cases herror
      exact ⟨hmute, rfl⟩
  · obtain ⟨hheard, hheard'⟩ := List.forall_mem_append.1 hheard
    obtain ⟨turns, hcomposed, hR, hout⟩ := h before _ hbefore hheard
    obtain ⟨turns', hcomposed', hR', hout'⟩ := hf a behind _ hbehind hheard'
    refine ⟨turns ++ turns', hcomposed.append hcomposed', List.forall_mem_append.2 ⟨hR, hR'⟩, ?_⟩
    rcases hout with ⟨-, hclear⟩ | ⟨-, herror⟩
    · rcases hout' with ⟨hok, hclear'⟩ | ⟨⟨k, hk, hmute⟩, herror⟩
      · exact .inl ⟨hok, List.forall_mem_append.2 ⟨hclear, hclear'⟩⟩
      · exact .inr ⟨⟨k, List.mem_append_right _ hk, hmute⟩, herror⟩
    · cases herror

/-- Work under a key comes out as it does without. -/
theorem TakesTurns.holding {work : Work α} (h : TakesTurns s R work) (key : String) :
    TakesTurns s R (holding key work) := by
  intro log r hlog hheard
  unfold Desk.holding at hlog
  obtain ⟨_, rest, rfl, hkeyed⟩ := hears_ask hlog
  refine MadeOfTurns.ask ?_ trivial
  obtain ⟨-, hheard⟩ := List.forall_mem_cons.1 hheard
  rcases hears_bind hkeyed with ⟨e, he, -⟩ | ⟨result, before, behind, rfl, hbefore, hbehind⟩
  · obtain ⟨_, hresult, -⟩ := hears_attempt he
    cases hresult
  · obtain ⟨_, hresult, hwork⟩ := hears_attempt hbefore
    cases hresult
    obtain ⟨hheard, -⟩ := List.forall_mem_append.1 hheard
    obtain ⟨turns, hcomposed, hR, hout⟩ := h before result hwork hheard
    obtain ⟨released, rest, rfl, hrest⟩ := hears_ask hbehind
    obtain ⟨rfl, rfl⟩ := hears_ofExcept hrest
    have hrelease : Composed s [⟨Ask.release key, released⟩] [] := .ask trivial .nil
    have hall := hcomposed.append hrelease
    rw [List.append_nil] at hall
    exact ⟨turns, hall, hR, hout⟩

/-- An errand that comes to the result of a turn takes the turns of that. -/
theorem TakesTurns.errand {work : Work TurnResult} (h : TakesTurns s R work)
    {log : List (Exchange Access)} {r : Except Failure Outcome}
    (hlog : (work >>= fun a => pure (.turn a)).Hears log r)
    (hheard : ∀ x ∈ log, OverLedger x.ask x.reply) :
    ∃ turns, Composed s log turns ∧ (∀ k ∈ turns, R k) ∧
      ((∃ a, r = .ok (.turn a)) ∧ (∀ k ∈ turns, ¬ k.IsMute) ∨
        (∃ k ∈ turns, k.IsMute) ∧ r = .error Taken.muteness) := by
  obtain ⟨x, hwork, rfl⟩ := hears_map hlog
  obtain ⟨turns, hcomposed, hR, hout⟩ := h log x hwork hheard
  refine ⟨turns, hcomposed, hR, ?_⟩
  rcases hout with ⟨⟨a, rfl⟩, hclear⟩ | ⟨hmute, rfl⟩
  · exact .inl ⟨⟨a, rfl⟩, hclear⟩
  · exact .inr ⟨hmute, rfl⟩

end

/-! ## Runs -/

/-- Surroundings in which calls are answered with one body, the end of a flow is out of order, and
nobody else writes. -/
def withoutEnd (body : Json) : Stream' (Around × (Ledger → Ledger)) :=
  Stream'.const ({
    outside
      | .enter .ending => .error (.raised "out of order")
      | .enter _ => .ok ()
      | .call _ => .ok { success := true, body }
      | _ => .error (.raised "nobody answers")
    now := Rehearsal.Clock.usualStart
    freshId := "talk" }, id)

/-- The visitor answers. -/
def reply : Errand := .resume visitor (some "yes")

end Desk

end Parley
