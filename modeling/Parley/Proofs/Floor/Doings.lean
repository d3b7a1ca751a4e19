import Parley.Proofs.Floor.Custody

/-!
# What one event does

On a floor of one desk, where nobody else writes, an event moves one job on and does one thing at
most to the ledger and the timers. `Doing` lists what that can be, with what the law of custody says
of it: which conversation is kept over which, what is told of timers that went off, which timers are
set and which are cancelled. `Kept.act` says that every event is one of these.

A turn is committed when its conversation is kept. `Floor.commits` notes the commits of a run, and
whether a timer had begun the turn.
-/

namespace Parley

open Desk (Ask Errand Outcome Stand Hold)

namespace Desk

/-- The conversations that are over and whose timers are not cancelled yet. -/
def Stand.left : Stand → List String
  | inside h => h.left
  | _ => []

/-- A conversation of which it may be told that its timer went off. -/
def Stand.late : Stand → Option String
  | inside h => h.late
  | _ => none

/-- The conversation that a question has kept. -/
def Ask.kept? : (q : Ask) → q.Answer → Option Conversation
  | .store (.create _), .ok c => some c
  | .store (.save _ _), .ok c => some c
  | _, _ => none

end Desk

/-- A conversation was kept by a turn. -/
structure Commit where
  conversation : Conversation
  /-- Whether a timer had begun the turn. -/
  byTimer : Bool

/-- What an event commits. -/
def Floor.commit? (f : Floor Unit) : Event Unit → Option Commit
  | .go i around => match f.answered? i around with
    | some (job, ⟨q, r⟩) => (q.kept? r).map fun c => ⟨c, job.errand.awakened?.isSome⟩
    | none => none
  | _ => none

/-- The commits of a run. -/
def Floor.commits (f : Floor Unit) : List (Event Unit) → List Commit
  | [] => []
  | e :: es => (f.commit? e).toList ++ (f.act e).commits es

/-- What one event does to the ledger and the timers, for a job that goes from one standing to
another. -/
inductive Doing (flows : Dictionary Flow) (b b' : Books Unit) (s s' : Stand) :
    Option Commit → Prop where
  /-- Nothing. -/
  | rests (hledger : b'.ledger = b.ledger) (htimers : b'.timers = b.timers)
    (hleft : s'.left = s.left) (hlate : s'.late = s.late ∨ s'.late = none) :
    Doing flows b b' s s' none
  /-- An entry is written, which tells of a timer only if the job may. -/
  | tells (e : Entry) (hledger : b'.ledger = b.ledger.append e) (htimers : b'.timers = b.timers)
    (hleft : s'.left = s.left)
    (htold : e.action = .timeout → s.late = some e.conversation ∧ s'.late = none)
    (hlate : s'.late = s.late ∨ s'.late = none) : Doing flows b b' s s' none
  /-- A conversation is kept: a new one, or one over an active one, which waits for a timer where a
  timer had begun the turn. It has no pending timer. -/
  | keeps (c : Conversation) (timed : Bool) (hledger : b'.ledger = b.ledger.keep c)
    (htimers : b'.timers = b.timers) (hbefore : s.left = [])
    (hlate : s'.late = if timed then some c.id else none) (hpaused : Desk.Paused flows c)
    (hprior : timed = true → ∃ p, b.ledger.find? c.id = some p ∧ p.isActive = true ∧
      p.isParked = true)
    (hpending : c.id ∉ (b.timers ()).ids) : Doing flows b b' s s' (some ⟨c, timed⟩)
  /-- The active conversations of a key are ended. -/
  | ends (key : String) (now : Moment) (hledger : b'.ledger = (b.ledger.deactivate now key).2)
    (htimers : b'.timers = b.timers) (hbefore : s.left = [])
    (hleft : s'.left = (b.ledger.deactivate now key).1) (hlate : s'.late = s.late) :
    Doing flows b b' s s' none
  /-- The timer of a conversation is set that waits for one. -/
  | sets (c : Conversation) (seconds : Number.Binary64) (hledger : b'.ledger = b.ledger)
    (htimers : b'.timers () = (b.timers ()).schedule c.id seconds c.wake)
    (hleft : s'.left = s.left) (hlate : s'.late = s.late)
    (hstored : b.ledger.find? c.id = some c) (hparked : c.isParked = true)
    (hpaused : Desk.Paused flows c) : Doing flows b b' s s' none
  /-- A timer is cancelled, or goes off. -/
  | removes (id : String) (hledger : b'.ledger = b.ledger)
    (htimers : b'.timers () = (b.timers ()).remove id)
    (hleft : s.left = s'.left ∨ s.left = id :: s'.left) (hlate : s'.late = s.late) :
    Doing flows b b' s s' none

variable {flows : Dictionary Flow} {f : Floor Unit} {p : List (Nat × String)} {st : Nat → Stand}
  {i : Nat} {job : Job Unit} {around : Around} {key : String} {h : Hold}

/-- A conversation that a job may keep has no pending timer: a new one is not in the ledger yet, and
one that is written over waits for an answer, or its timer has begun this job. -/
theorem Floor.IsRegular.not_pending (hr : f.IsRegular) {q : Ask}
    {next : q.Answer → Desk.Work Outcome} (hjob : f.jobs i = some job)
    (hwork : job.work = .ask q next) {c : Conversation} (hq : q = .store (.create c) ∨
      ∃ b, f.books.ledger.find? c.id = some b ∧ q = .store (.save c b.version)) : c.id ∉ (f.books.timers ()).ids := by
  obtain ⟨k, owner, hconducted, hsound, haccounted, -⟩ := hr
  have hbehaves := hconducted.behaves i job hjob
  rw [hwork] at hbehaves
  intro hpending
  have hat : At f.books k c.id (.pending ()) := hpending
  rcases hq with rfl | ⟨b, hb, rfl⟩
  · obtain ⟨-, hbegins⟩ := hbehaves.1
    obtain ⟨d, hd⟩ := haccounted.known c.id _ hat
    rw [(hsound.fresh i c.id hbegins.1).2] at hd
    cases hd
  · obtain ⟨-, hcontinues⟩ := hbehaves.1
    obtain ⟨hact, hdue, hid, -⟩ := hsound.prior hcontinues hb
    have hwoken := haccounted.eq_woken hb hact (hid ▸ hdue) _ hat
    cases hwoken

/-- What the holder of a key has done when it was answered. -/
theorem Fits.does (hfits : Fits flows f.books.ledger key h) (hr : f.IsRegular)
    (hjob : f.jobs i = some job) {q : Ask} {next : q.Answer → Desk.Work Outcome} {r : q.Answer}
    (hwork : job.work = .ask q next) {timed : Bool} (hmay : h.May flows (some key) timed q)
    (hans : (f.answer i () around q).1 = some r) :
    Doing flows f.books (f.answer i () around q).2.books (.inside h)
      ((Stand.inside h).after timed q r) ((q.kept? r).map fun c => ⟨c, timed⟩) := by
  have hreads : ∀ h' : Hold, h'.left = h.left → h'.late = h.late →
      Doing flows f.books f.books (.inside h) (.inside h') none := fun h' hleft hlate =>
    .rests rfl rfl hleft (Or.inl hlate)
  cases q with
  | store q =>
    cases q with
    | flow tenant id => cases hans; exact hreads h rfl rfl
    | enabledFlows tenant => cases hans; exact hreads h rfl rfl
    | history id => cases hans; exact hreads h rfl rfl
    | active contact => cases hans; exact hreads _ rfl rfl
    | conversation id => cases hans; exact hreads _ rfl rfl
    | create c =>
      obtain ⟨hclear, hcleared, rfl, hkey, hpaused⟩ := hmay
      obtain rfl : key = c.key := Option.some.inj hkey
      have hcreate := Ledger.create_of_active? (hfits.cleared hcleared)
      have hfree := hr.not_pending hjob hwork (c := c) (Or.inl rfl)
      have hreply : some (f.books.ledger.create c).1 = some r := hans
      rw [hcreate] at hreply
      cases hreply
      exact .keeps { c with version := 1 } false (congrArg Prod.snd hcreate) rfl hclear.2 rfl
        hpaused nofun hfree
    | save c version =>
      obtain ⟨hclear, hpaused, b, hb, hid, rfl, -, hact, htimed⟩ := hmay
      obtain ⟨hstored, -⟩ := hfits.shown b hb
      rw [hid] at hstored
      have hsave := Ledger.save_of_find? around.now hstored
      have hfree := hr.not_pending hjob hwork (c := c) (Or.inr ⟨b, hstored, rfl⟩)
      have hreply : some (f.books.ledger.save around.now c b.version).1 = some r := hans
      rw [hsave] at hreply
      cases hreply
      exact .keeps { c with version := b.version + 1, updatedAt := around.now } timed
        (congrArg Prod.snd hsave) rfl hclear.2 rfl hpaused
        (fun ht => ⟨b, hstored, hact, htimed ht⟩) hfree
    | deactivate contact =>
      obtain ⟨hclear, hkey⟩ := hmay
      cases hans
      exact .ends contact.key around.now rfl rfl hclear.2 rfl rfl
    | append e =>
      cases hans
      by_cases he : e.action = .timeout
      · have hafter : (Stand.inside h).after timed (.store (.append e)) (.ok ()) =
            .inside { h with late := none } := if_pos he
        rw [hafter]
        exact .tells e rfl rfl rfl (fun _ => ⟨hmay he, rfl⟩) (Or.inr rfl)
      · have hafter : (Stand.inside h).after timed (.store (.append e)) (.ok ()) = .inside h :=
          if_neg he
        rw [hafter]
        exact .tells e rfl rfl rfl (fun ht => absurd ht he) (Or.inl rfl)
  | outside q => exact hreads h rfl rfl
  | now => exact hreads h rfl rfl
  | freshId =>
    have hsame : (f.answer i () around .freshId).2.books.ledger = f.books.ledger ∧
        (f.answer i () around .freshId).2.books.timers = f.books.timers := by
      unfold Floor.answer
      split <;> exact ⟨rfl, rfl⟩
    exact .rests hsame.1 hsame.2 rfl (Or.inl rfl)
  | schedule id seconds w =>
    obtain ⟨c, hc, rfl, rfl⟩ := hmay
    obtain ⟨hstored, -, hparked, hpaused⟩ := hfits.owed c hc
    exact .sets c seconds rfl rfl rfl rfl hstored hparked hpaused
  | cancelTimer id =>
    have hhead : h.left.head? = some id := hmay
    refine .removes id rfl rfl (Or.inr ?_) rfl
    exact (List.cons_head?_tail hhead).symm
  | release k =>
    have hclear : h.IsClear := hmay
    exact .rests rfl rfl hclear.2.symm (Or.inr rfl)
  | acquire k => exact hmay.elim
  | deliver c t => exact hmay.elim

/-- What a job has done when it was answered. -/
theorem Kept.does (hk : Kept flows f p st) (hr : f.IsRegular) (hjob : f.jobs i = some job) {q : Ask}
    {next : q.Answer → Desk.Work Outcome} {r : q.Answer} (hwork : job.work = .ask q next)
    {timed : Bool} (hmay : (st i).May flows job.errand.key? timed q)
    (hans : (f.answer i () around q).1 = some r) :
    Doing flows f.books (f.answer i () around q).2.books (st i) ((st i).after timed q r)
      ((q.kept? r).map fun c => ⟨c, timed⟩) := by
  rcases Stand.may_cases hmay (hk.calm i) with ⟨h, hst, hmay⟩ |
    ⟨hst, ⟨tenant, rfl⟩ | ⟨contact, rfl⟩⟩ | ⟨hst, k, rfl, -⟩ | ⟨hst, c, t, rfl⟩ <;> rw [hst]
  · obtain ⟨a, key, ha, hkey, -, hfits⟩ := hk.holds i h hst
    obtain rfl : job = a := Option.some.inj (hjob.symm.trans ha)
    rw [hkey] at hmay
    exact hfits.does hr hjob hwork hmay hans
  · exact .rests rfl rfl rfl (Or.inl rfl)
  · exact .rests rfl rfl rfl (Or.inl rfl)
  · exact .rests rfl rfl rfl (Or.inl rfl)
  · exact .rests rfl rfl rfl (Or.inl rfl)

/-- The event is one of the desk: nobody else writes, and the flows stay as they are. -/
def Event.IsOwn {δ : Type} : Event δ → Prop
  | .begin _ _ _ | .fire _ _ _ | .go _ _ | .finish _ => True
  | .rewrite _ _ | .silence _ _ | .publish _ => False

/-- What a floor of one desk comes to by an event of the desk: a job moves on and does one thing. -/
def Does (flows : Dictionary Flow) (f g : Floor Unit) (st : Nat → Stand) (i : Nat)
    (commit : Option Commit) : Prop :=
  ∃ q s, Kept flows g q (Function.update st i s) ∧
    Doing flows f.books g.books (st i) s commit

/-- Nothing happens. -/
theorem Kept.does_nothing (hk : Kept flows f p st) (i : Nat) : Does flows f f st i none := by
  refine ⟨p, st i, ?_, .rests rfl rfl rfl (Or.inl rfl)⟩
  rwa [Function.update_eq_self]

/-- A job puts its next question. -/
theorem Kept.does_go (hk : Kept flows f p st) (hr : f.IsRegular) (i : Nat) (around : Around) :
    Does flows f (f.go i around) st i (f.commit? (.go i around)) := by
  rcases f.go_split i around with ⟨hnone, hgo⟩ | ⟨job, q, next, r, hsome, hj, hw, hans, hgo⟩
  · have hcommit : f.commit? (.go i around) = none := by simp only [Floor.commit?, hnone]
    rw [hcommit]
    rcases hgo with hgo | ⟨job, k, next, hj, hw, hgo⟩ <;> rw [hgo]
    · exact hk.does_nothing i
    · refine ⟨joined p i k, st i, ?_, .rests rfl rfl rfl (Or.inl rfl)⟩
      rw [Function.update_eq_self]
      exact hk.put_off i around hj hw
  · have hcommit : f.commit? (.go i around) =
        (q.kept? r).map fun c => ⟨c, job.errand.awakened?.isSome⟩ := by
      simp only [Floor.commit?, hsome]
    obtain ⟨hmay, hkept⟩ := hk.answered hr hj hw hans (job.kept ++ Floor.keptBy q r)
    rw [hcommit, hgo]
    exact ⟨_, _, hkept, hk.does hr hj hw hmay hans⟩

/-- How a job stands at its beginning has nothing to do with timers. -/
theorem Desk.Errand.stand_left (e : Errand) : e.stand.left = [] ∧ e.stand.late = none := by
  cases e <;> exact ⟨rfl, rfl⟩

/-- Every event of the desk moves one job on, which does one thing at most. -/
theorem Kept.act (hk : Kept flows f p st) (hr : f.IsRegular) {e : Event Unit} (he : e.IsOwn) :
    ∃ i, Does flows f (f.act e) st i (f.commit? e) := by
  cases e with
  | go i around => exact ⟨i, hk.does_go hr i around⟩
  | begin i d e =>
    refine ⟨i, ?_⟩
    show Does flows f (f.accept i d e) st i none
    unfold Floor.accept
    split
    · rename_i hbegin
      have hfree : f.jobs i = none := by simp_all
      obtain ⟨hleft, hlate⟩ := e.stand_left
      refine ⟨p, e.stand, hk.take rfl rfl rfl hfree e, .rests rfl rfl ?_ (Or.inr hlate)⟩
      rw [hleft, hk.idle i hfree]
      rfl
    · exact hk.does_nothing i
  | fire i d id =>
    refine ⟨i, ?_⟩
    show Does flows f (f.fire i d id) st i none
    unfold Floor.fire
    cases hw : Dictionary.find? (f.books.timers d).actions id with
    | none => exact hk.does_nothing i
    | some w =>
      show Does flows f (if (f.jobs i).isNone then _ else f) st i none
      split
      · rename_i hfree
        have hfree : f.jobs i = none := by simpa using hfree
        cases d
        let g := f.setTimers () ((f.books.timers ()).remove id)
        have hidle := hk.idle i hfree
        refine ⟨p, .waiting, hk.take (g := g) rfl rfl rfl hfree (.wake w),
          .removes id rfl rfl (Or.inl ?_) ?_⟩ <;> rw [hidle] <;> rfl
      · exact hk.does_nothing i
  | finish i =>
    refine ⟨i, ?_⟩
    show Does flows f (f.finish i) st i none
    rcases f.finish_split i with ⟨-, hfinish⟩ | ⟨job, result, hj, hresult, hfinish⟩ <;> rw [hfinish]
    · exact hk.does_nothing i
    · have hlast := ((hk.heeds i job hj).concludes hresult).last
      refine ⟨p, .gone, hk.finish rfl rfl rfl hlast, .rests rfl rfl ?_ (Or.inr rfl)⟩
      cases hst : st i with
      | inside h =>
        rw [hst] at hlast
        exact hlast.elim
      | _ => rfl
  | _ => exact he.elim

/-- What the beginnings, the questions and the ends of jobs uphold, every run of the desk upholds. -/
theorem Floor.upheld_of_own {X : Floor Unit → Prop}
    (htake : ∀ {f g : Floor Unit} {i}, X f → g.jobs = f.jobs → g.locks = f.locks →
      g.books.ledger = f.books.ledger → f.jobs i = none → ∀ e, X (g.take i () e))
    (hgo : ∀ {f : Floor Unit}, X f → f.IsRegular → ∀ i around, X (f.go i around))
    (hfinish : ∀ {f : Floor Unit}, X f → ∀ i, X (f.finish i))
    {f : Floor Unit} (h : X f) (hr : f.IsRegular) {es : List (Event Unit)}
    (hes : ∀ e ∈ es, e.IsOwn) : X (f.run es) := by
  induction es generalizing f with
  | nil => exact h
  | cons e es ih =>
    refine ih ?_ (hr.act e) fun e' he' => hes e' (List.mem_cons_of_mem _ he')
    have he : e.IsOwn := hes e List.mem_cons_self
    cases e with
    | go i around => exact hgo h hr i around
    | finish i => exact hfinish h i
    | begin i d e =>
      show X (f.accept i d e)
      unfold accept
      split
      · exact htake h rfl rfl rfl (by simp_all) e
      · exact h
    | fire i d id =>
      show X (f.fire i d id)
      unfold fire
      cases hw : Dictionary.find? (f.books.timers d).actions id with
      | none => exact h
      | some w =>
        show X (if (f.jobs i).isNone then _ else f)
        split
        · rename_i hfree
          exact htake (g := f.setTimers d ((f.books.timers d).remove id)) h rfl rfl rfl
            (by simpa using hfree) (.wake w)
        · exact h
    | _ => exact he.elim

end Parley
