import Parley.Proofs.Desk.Reports
import Parley.Proofs.Floor.Doings
import Parley.Proofs.Floor.Failing
import Parley.Proofs.Floor.Serial
import Parley.Proofs.Floor.Trails

/-!
# A successful result describes the ledger

On a floor of one desk, where nobody else writes to the ledger, a job that comes to a successful turn
leaves the conversation of its result in the ledger as the result tells: at its node, waiting or not,
over or not, and as the only active one of its key where it is not over
(`Floor.describes_of_turn`). It may have run two turns for one message, and other jobs, of this key
or of others, may be under way.

`Reported` ties `Desk.reporting` to the floor. What a job has kept last is in the ledger for as long
as it holds its key: what it asks meanwhile changes that only by keeping something else
(`Fits.lastKept`), and the other holders have other keys (`Fits.answer`). The job comes to its result
when it gives the key back, which changes nothing in the ledger.
-/

namespace Parley

open Desk (Ask Errand Outcome Stand Hold lastKept)

namespace Desk

open Program

/-- An operation for a contact that comes to a turn. -/
theorem turn_reports {key : String} {work : Work TurnResult}
    (h : work.Keeps reporting none fun r last => ∀ t, r = .ok t → Describes t last) :
    (holding key work >>= fun r => pure (Outcome.turn r)).Keeps reporting none
      fun r last => ∀ t, r = .ok (.turn t) → Describes t last := by
  refine keeps_bind.2 (Keeps.mono (keeps_holding ⟨trivial, fun _ => rfl⟩ h
    fun r last _ => ⟨trivial, fun _ => rfl⟩) fun r last hr => ?_)
  cases r with
  | error e => exact fun t ht => by cases ht
  | ok t =>
    rintro t' ⟨⟩
    exact hr t rfl

theorem Errand.work_reports (s : Settings) {e : Errand} (he : e.isTurn = true) :
    (e.work s).Keeps reporting none fun r last => ∀ t, r = .ok (.turn t) → Describes t last := by
  cases e with
  | start contact flowId text name phone =>
    exact turn_reports ((startHeld_reports s contact flowId text name phone).mono
      fun r last hr => hr.describes)
  | resume contact text =>
    exact turn_reports ((resumeHeld_reports s contact text).mono fun r last hr => hr.describes)
  | receive contact text name phone =>
    exact turn_reports (receiveHeld_reports s contact text name phone)
  | _ => cases he

end Desk

variable {flows : Dictionary Flow} {l : Ledger} {f g : Floor Unit} {p : List (Nat × String)} {st : Nat → Stand}
  {last : Nat → Option Conversation} {i : Nat} {job : Job Unit} {around : Around}

section
variable {key : String} {h : Hold} {timed : Bool} {q : Ask}

/-- The holder of a key is refused nothing, and what it has kept last is in the ledger after every
answer. -/
theorem Fits.lastKept {c : Option Conversation} (around : Around) (hfits : Fits flows l key h)
    (hmay : h.May flows (some key) timed q) (hlast : Fits flows l key { shown := c }) :
    q.IsAccepted (alone around q l).1 ∧
    Fits flows (alone around q l).2 key { shown := lastKept c q (alone around q l).1 } := by
  have hkept : ∀ d : Conversation, d.key = key → Fits flows (l.keep d) key { shown := some d } := by
    intro d hd
    refine { fits_nothing flows (l.keep d) key with shown := ?_ }
    rintro b ⟨⟩
    exact ⟨by rw [Ledger.find?_keep, if_pos rfl], hd⟩
  cases q with
  | store q =>
    cases q with
    | create c =>
      obtain ⟨-, hcleared, -, hkey, -⟩ := hmay
      obtain rfl : key = c.key := Option.some.inj hkey
      have hcreate : alone around (.store (.create c)) l = _ :=
        Ledger.create_of_active? (hfits.cleared hcleared)
      rw [hcreate]
      exact ⟨trivial, hkept { c with version := 1 } rfl⟩
    | save c version =>
      obtain ⟨-, -, b, hb, hid, rfl, hcontact, -⟩ := hmay
      obtain ⟨hstored, hkey⟩ := hfits.shown b hb
      rw [hid] at hstored
      have hsave : alone around (.store (.save c b.version)) l = _ :=
        Ledger.save_of_find? around.now hstored
      rw [hsave]
      exact ⟨trivial, hkept { c with version := b.version + 1, updatedAt := around.now }
        ((congrArg Contact.key hcontact).symm.trans hkey)⟩
    | deactivate contact => exact ⟨trivial, fits_nothing ..⟩
    | append e => exact ⟨trivial, { fits_nothing flows _ key with shown := hlast.shown }⟩
    | _ => exact ⟨trivial, hlast⟩
  | acquire k => exact ⟨trivial, fits_nothing ..⟩
  | _ => exact ⟨trivial, hlast⟩

end

/-- What is left of a job reports what it has kept last. -/
def Job.Reports {δ : Type} (job : Job δ) (last : Option Conversation) : Prop :=
  job.work.Keeps Desk.reporting last fun r c => ∀ t, r = .ok (.turn t) → Desk.Describes t c

/-- The jobs report what they have kept last, and the holder of a key has that in the ledger. -/
structure Reported (flows : Dictionary Flow) (f : Floor Unit) (st : Nat → Stand)
    (last : Nat → Option Conversation) : Prop where
  reports : ∀ i job, f.jobs i = some job → job.errand.isTurn = true → job.Reports (last i)
  held : ∀ i c, last i = some c → st i = .gone ∨ ∃ h, st i = .inside h
  stored : ∀ i h job key, st i = .inside h → f.jobs i = some job → job.errand.key? = some key →
    Fits flows f.books.ledger key { shown := last i }

theorem reported_opening (settings : Unit → Desk.Settings) (flows : Dictionary Flow) :
    Reported flows (Floor.opening settings flows) (fun _ => .gone) fun _ => none where
  reports i job hj := by cases hj
  held i c hc := by cases hc
  stored i h job key hi := by cases hi

/-- One job has moved on, and nothing that the holders of other keys know has changed. -/
theorem Reported.moved (h : Reported flows f st last) (job : Option (Job Unit)) {s : Stand}
    {c : Option Conversation} (hjobs : g.jobs = Function.update f.jobs i job)
    (hothers : ∀ j hold job' key h', j ≠ i → st j = .inside hold → f.jobs j = some job' →
      job'.errand.key? = some key → Fits flows f.books.ledger key h' →
      Fits flows g.books.ledger key h')
    (hreports : ∀ j, job = some j → j.errand.isTurn = true → j.Reports c)
    (hheld : ∀ d, c = some d → s = .gone ∨ ∃ hold, s = .inside hold)
    (hstored : ∀ hold j key, s = .inside hold → job = some j → j.errand.key? = some key →
      Fits flows g.books.ledger key { shown := c }) :
    Reported flows g (Function.update st i s) (Function.update last i c) := by
  refine ⟨fun j a hj => ?_, fun j d => ?_, fun j hold a key hj ha hkey => ?_⟩ <;>
    by_cases hji : j = i
  · subst hji
    rw [hjobs, Function.update_self] at hj
    rw [Function.update_self]
    exact hreports a hj
  · rw [hjobs, Function.update_of_ne hji] at hj
    rw [Function.update_of_ne hji]
    exact h.reports j a hj
  · subst hji
    simpa only [Function.update_self] using hheld d
  · simpa only [Function.update_of_ne hji] using h.held j d
  · subst hji
    rw [Function.update_self] at hj
    rw [hjobs, Function.update_self] at ha
    rw [Function.update_self]
    exact hstored hold a key hj ha hkey
  · rw [Function.update_of_ne hji] at hj
    rw [hjobs, Function.update_of_ne hji] at ha
    rw [Function.update_of_ne hji]
    exact hothers j hold a key _ hji hj ha hkey (h.stored j hold a key hj ha hkey)

/-- A job goes on with an answer, and nothing that the holders of other keys know has changed. -/
theorem Reported.goes (h : Reported flows f st last) (hjob : f.jobs i = some job) {q : Ask}
    {next : q.Answer → Desk.Work Outcome} {r : q.Answer} (hwork : job.work = .ask q next)
    (hjobs : g.jobs = f.jobs) (haccepted : q.IsAccepted r) (kept : List String) {s : Stand}
    (hothers : ∀ j hold job' key h', j ≠ i → st j = .inside hold → f.jobs j = some job' →
      job'.errand.key? = some key → Fits flows f.books.ledger key h' →
      Fits flows g.books.ledger key h')
    (hheld : ∀ c, lastKept (last i) q r = some c → s = .gone ∨ ∃ hold, s = .inside hold)
    (hstored : ∀ hold key, s = .inside hold → job.errand.key? = some key →
      Fits flows g.books.ledger key { shown := lastKept (last i) q r }) :
    Reported flows (g.assign i (some { job with work := next r, kept })) (Function.update st i s)
      (Function.update last i (lastKept (last i) q r)) := by
  refine h.moved (some { job with work := next r, kept }) (by rw [← hjobs]; rfl) hothers ?_ hheld ?_
  · rintro j ⟨⟩ hturn
    have hreports := h.reports i job hjob hturn
    unfold Job.Reports at hreports
    rw [hwork] at hreports
    exact hreports.2 r haccepted
  · rintro hold j key hs ⟨⟩ hkey
    exact hstored hold key hs hkey

/-- A question that does nothing to the ledger, from a job that has kept nothing or holds no key any
more. -/
theorem Reported.goes_alone (h : Reported flows f st last) (hjob : f.jobs i = some job) {q : Ask}
    {next : q.Answer → Desk.Work Outcome} {r : q.Answer} (hwork : job.work = .ask q next)
    (hjobs : g.jobs = f.jobs) (hledger : g.books.ledger = f.books.ledger)
    (haccepted : q.IsAccepted r) (kept : List String) {s : Stand}
    (hs : lastKept (last i) q r = none ∨ s = .gone) :
    Reported flows (g.assign i (some { job with work := next r, kept })) (Function.update st i s)
      (Function.update last i (lastKept (last i) q r)) := by
  refine h.goes hjob hwork hjobs haccepted kept (fun j hold job' key h' _ _ _ _ hfits => ?_)
    (fun c hc => ?_) fun hold key hinside _ => ?_
  · rwa [hledger]
  · rcases hs with hnone | rfl
    · rw [hnone] at hc
      cases hc
    · exact Or.inl rfl
  · rcases hs with hnone | rfl
    · rw [hnone]
      exact fits_nothing ..
    · cases hinside

/-- The holder of a key is answered, and the ledger has what it has kept last. -/
theorem Reported.holder_answered (h : Reported flows f st last) (hk : Kept flows f p st)
    (hr : f.IsRegular) (hjob : f.jobs i = some job) {q : Ask} {next : q.Answer → Desk.Work Outcome}
    {r : q.Answer} {hold : Hold} (hwork : job.work = .ask q next) (hi : st i = .inside hold)
    (hmay : hold.May flows job.errand.key? job.errand.awakened?.isSome q)
    (hans : (f.answer i () around q).1 = some r) (kept : List String) :
    Reported flows ((f.answer i () around q).2.assign i (some { job with work := next r, kept }))
      (Function.update st i ((Stand.inside hold).after job.errand.awakened?.isSome q r))
      (Function.update last i (lastKept (last i) q r)) := by
  obtain ⟨a, key, ha, hkey, -, hfits⟩ := hk.holds i hold hi
  obtain rfl : job = a := Option.some.inj (hjob.symm.trans ha)
  have hmay' : hold.May flows (some key) job.errand.awakened?.isSome q := hkey ▸ hmay
  obtain ⟨-, -, hstands, hothers⟩ := hfits.answer hk.flows hr hjob hwork hkey hmay' hans
  obtain ⟨haccepted, hstored⟩ :=
    hfits.lastKept around hmay' (h.stored i hold job key hi hjob hkey)
  rw [Floor.alone_eq hans] at haccepted hstored
  refine h.goes hjob hwork (f.answer_jobs i () around q) haccepted kept
    (fun j hold' job' key' h' hj hj' hjob' hkey' => hothers h' key' ?_) (fun c _ => ?_)
    fun hold' key' _ hkey' => ?_
  · rintro rfl
    exact hj (hk.eq_of_inside hj' hi hjob' hjob (hkey'.trans hkey.symm))
  · rcases hstands with ⟨h', hafter, -⟩ | ⟨hafter, -⟩
    · exact Or.inr ⟨h', hafter⟩
    · exact Or.inl hafter
  · obtain rfl : key = key' := Option.some.inj (hkey.symm.trans hkey')
    exact hstored

/-- Work that needs no key keeps nothing. -/
theorem Reported.eq_none (h : Reported flows f st last) (hi : st i = .aloof) : last i = none := by
  refine Option.eq_none_iff_forall_ne_some.2 fun c hc => ?_
  rcases h.held i c hc with hgone | ⟨hold, hinside⟩
  · cases hi.symm.trans hgone
  · cases hi.symm.trans hinside

/-- A job that is answered reports on what it has kept last. -/
theorem Reported.answered (h : Reported flows f st last) (hk : Kept flows f p st) (hr : f.IsRegular)
    (hjob : f.jobs i = some job) {q : Ask} {next : q.Answer → Desk.Work Outcome} {r : q.Answer}
    (hwork : job.work = .ask q next) (hans : (f.answer i () around q).1 = some r)
    (hmay : (st i).May flows job.errand.key? job.errand.awakened?.isSome q) (kept : List String) :
    Reported flows ((f.answer i () around q).2.assign i (some { job with work := next r, kept }))
      (Function.update st i ((st i).after job.errand.awakened?.isSome q r))
      (Function.update last i (lastKept (last i) q r)) := by
  rcases Stand.may_cases hmay (hk.calm i) with ⟨hold, hst, hmay⟩ |
    ⟨hst, ⟨tenant, rfl⟩ | ⟨contact, rfl⟩⟩ | ⟨hst, key, rfl, -⟩ | ⟨hst, c, t, rfl⟩
  · rw [hst]
    exact h.holder_answered hk hr hjob hwork hst hmay hans kept
  · exact h.goes_alone hjob hwork rfl rfl trivial kept (Or.inl (h.eq_none hst))
  · exact h.goes_alone hjob hwork rfl rfl trivial kept (Or.inl (h.eq_none hst))
  · exact h.goes_alone (g := (f.answer i () around (.acquire key)).2) hjob hwork rfl rfl trivial
      kept (Or.inl rfl)
  · exact h.goes_alone hjob hwork rfl rfl trivial kept (Or.inr (by rw [hst]; rfl))

/-- What the floor is known to be: nobody holds a key twice, and the jobs report what they have kept
last. -/
def Vouches (flows : Dictionary Flow) (f : Floor Unit) : Prop :=
  ∃ p st last, Kept flows f p st ∧ Reported flows f st last

theorem Vouches.go (h : Vouches flows f) (hr : f.IsRegular) (i : Nat) (around : Around) :
    Vouches flows (f.go i around) := by
  obtain ⟨p, st, last, hk, h⟩ := h
  rcases f.go_split i around with ⟨-, hgo | ⟨job, key, next, hjob, hwork, hgo⟩⟩ |
    ⟨job, q, next, r, -, hjob, hwork, hans, hgo⟩ <;> rw [hgo]
  · exact ⟨p, st, last, hk, h⟩
  · exact ⟨_, st, last, hk.put_off i around hjob hwork, ⟨h.reports, h.held, h.stored⟩⟩
  · obtain ⟨hmay, hkept⟩ := hk.answered hr hjob hwork hans (job.kept ++ Floor.keptBy q r)
    exact ⟨_, _, _, hkept, h.answered hk hr hjob hwork hans hmay _⟩

theorem Vouches.take (h : Vouches flows f) (hjobs : g.jobs = f.jobs) (hlocks : g.locks = f.locks)
    (hledger : g.books.ledger = f.books.ledger) (hfree : f.jobs i = none) (e : Errand) :
    Vouches flows (g.take i () e) := by
  obtain ⟨p, st, last, hk, h⟩ := h
  refine ⟨p, _, _, hk.take hjobs hlocks hledger hfree e,
    h.moved (some { desk := (), errand := e, work := e.work (g.settings ()) }) (c := none)
      (by rw [← hjobs]; rfl) (fun j hold job' key h' _ _ _ _ hfits => ?_) ?_
      (fun c hc => by cases hc) fun hold j key _ _ _ => fits_nothing ..⟩
  · show Fits flows g.books.ledger key h'
    rwa [hledger]
  · rintro j ⟨⟩ hturn
    exact e.work_reports _ hturn

theorem Vouches.finish (h : Vouches flows f) (i : Nat) : Vouches flows (f.finish i) := by
  rcases f.finish_split i with ⟨-, hfinish⟩ | ⟨job, result, hjob, hresult, hfinish⟩ <;> rw [hfinish]
  · exact h
  · obtain ⟨p, st, last, hk, h⟩ := h
    have hlast := ((hk.heeds i job hjob).concludes hresult).last
    exact ⟨p, _, _, hk.finish rfl rfl rfl hlast,
      h.moved none (c := none) rfl (fun _ _ _ _ _ _ _ _ _ hfits => hfits)
        (fun j hj => by cases hj) (fun c hc => by cases hc) fun hold j key hs => by cases hs⟩

/-! ## Turns -/

theorem Ledger.filter_holds_eq (h : l.IsTidy) (hs : l.IsSingle) {c : Conversation}
    (hc : l.find? c.id = some c) (hact : c.isActive = true) :
    l.all.filter (holds c.key) = [c] := by
  have hmem : c ∈ l.all.filter (holds c.key) :=
    List.mem_filter.2 ⟨h.mem_all_iff.2 hc, holds_iff.2 ⟨hact, rfl⟩⟩
  have hone := Nat.le_antisymm (h.length_filter_holds hs c.key) (List.length_pos_of_mem hmem)
  obtain ⟨d, hd⟩ := List.length_eq_one_iff.1 hone
  rw [hd] at hmem ⊢
  rw [List.mem_singleton.1 hmem]

/-- The turn that a job has come to. -/
def Floor.turn? (f : Floor Unit) (i : Nat) : Option TurnResult :=
  (f.jobs i).bind fun job => match job.work with
    | .done (.turn t) => some t
    | _ => none

theorem Floor.work_of_turn? {t : TurnResult} (hjob : f.jobs i = some job) (h : f.turn? i = some t) :
    job.work = .done (.turn t) := by
  unfold turn? at h
  rw [hjob, Option.bind_some] at h
  split at h
  · rename_i hwork
    rw [hwork, Option.some.inj h]
  · cases h

/-- A job that comes to a successful turn gives its key back, and the ledger has the conversation that
the turn describes. -/
theorem Reported.describes (h : Reported flows f st last) (hk : Kept flows f p st)
    (hr : f.IsRegular) (hjob : f.jobs i = some job) (hturn : job.errand.isTurn = true) {q : Ask}
    {next : q.Answer → Desk.Work Outcome} {r : q.Answer} (hwork : job.work = .ask q next)
    (hans : (f.answer i () around q).1 = some r) {t : TurnResult} (hnext : next r = .done (.turn t))
    (hsuccess : t.success = true) :
    (f.answer i () around q).2.books.ledger = f.books.ledger ∧ ∃ c, t.Describes c ∧
      f.books.ledger.find? c.id = some c ∧ job.errand.key? = some c.key := by
  obtain ⟨hmay, hkept⟩ := hk.answered hr hjob hwork hans []
  have hdone := h.answered hk hr hjob hwork hans hmay []
  -- The job is at its end: it stands where work may end, and describes what it has kept last.
  have hlast : ((st i).after job.errand.awakened?.isSome q r).IsLast := by
    have hheeds := hkept.heeds i _ (Floor.assign_jobs_self ..)
    rw [Function.update_self] at hheeds
    exact (hheeds.concludes (congrArg Floor.result? hnext)).last
  obtain ⟨c, hc, hdescribes⟩ : ∃ c, lastKept (last i) q r = some c ∧ t.Describes c := by
    have hreports := hdone.reports i _ (Floor.assign_jobs_self ..) hturn
    rw [Function.update_self] at hreports
    unfold Job.Reports at hreports
    rw [hnext] at hreports
    exact hreports t rfl hsuccess
  have hsilent : q.IsSilent := by
    have hreports := h.reports i job hjob hturn
    unfold Job.Reports at hreports
    rw [hwork] at hreports
    exact hreports.1
  rcases Stand.may_cases hmay (hk.calm i) with ⟨hold, hst, hmay⟩ |
    ⟨hst, ⟨tenant, rfl⟩ | ⟨contact, rfl⟩⟩ | ⟨hst, key, rfl, -⟩ | ⟨hst, c, t, rfl⟩
  · obtain ⟨a, key, ha, hkey, -, hfits⟩ := hk.holds i hold hst
    obtain rfl : job = a := Option.some.inj (hjob.symm.trans ha)
    rw [hkey] at hmay
    obtain ⟨-, -, ⟨h', hafter, -⟩ | ⟨-, k, rfl⟩, -⟩ :=
      hfits.answer hk.flows hr hjob hwork hkey hmay hans
    · rw [hst, hafter] at hlast
      exact hlast.elim
    · obtain ⟨hstored, hckey⟩ := (h.stored i hold job key hst hjob hkey).shown c hc
      exact ⟨rfl, c, hdescribes, hstored, by rw [hckey, hkey]⟩
  · exact nomatch (h.eq_none hst).symm.trans hc
  · exact nomatch (h.eq_none hst).symm.trans hc
  · cases hc
  · exact hsilent.elim

/-- However the operations of one desk and its timers take turns: when a job for a start, a resumed
conversation or a message comes to a successful turn, the conversation of its result is in the ledger
as the result tells, under the key of the job, and unless it is over it is the only active one of
that key. -/
theorem Floor.describes_of_turn (settings : Unit → Desk.Settings) (flows : Dictionary Flow)
    (es : List (Event Unit)) (hes : ∀ e ∈ es, e.IsOwn) {i : Nat} {around : Around} {job : Job Unit}
    (hjob : ((opening settings flows).run es).jobs i = some job)
    (hturn : job.errand.isTurn = true) (hbefore : ((opening settings flows).run es).turn? i = none)
    {t : TurnResult} (hafter : (((opening settings flows).run es).go i around).turn? i = some t)
    (hsuccess : t.success = true) :
    let l := (((opening settings flows).run es).go i around).books.ledger
    ∃ c, l.find? c.id = some c ∧ job.errand.key? = some c.key ∧ t.Describes c ∧
      (t.finished = false → l.all.filter (Ledger.holds c.key) = [c]) := by
  have hopening : (opening settings flows).IsRegular := isRegular_opening settings flows
  have hr := hopening.run es
  obtain ⟨p, st, last, hk, h⟩ : Vouches flows ((opening settings flows).run es) :=
    upheld_of_own (fun h hjobs hlocks hledger hfree e => h.take hjobs hlocks hledger hfree e)
      (fun h hr i around => h.go hr i around) (fun h i => h.finish i)
      ⟨[], _, _, kept_opening settings flows, reported_opening settings flows⟩ hopening hes
  generalize (opening settings flows).run es = f at *
  rcases f.go_split i around with ⟨-, hgo⟩ | ⟨job', q, next, r, -, hjob', hwork, hans, hgo⟩
  · -- A job that is put off comes to nothing.
    have hsame : (f.go i around).turn? i = f.turn? i := by
      rcases hgo with hgo | ⟨job, key, next, -, -, hgo⟩ <;> rw [hgo]
      unfold turn?
      rw [answer_jobs]
    rw [hsame, hbefore] at hafter
    cases hafter
  · obtain rfl : job = job' := Option.some.inj (hjob.symm.trans hjob')
    rw [hgo] at hafter ⊢
    have hnext : next r = .done (.turn t) := work_of_turn? (assign_jobs_self ..) hafter
    obtain ⟨hledger, c, hdescribes, hstored, hkey⟩ :=
      h.describes hk hr hjob hturn hwork hans hnext hsuccess
    rw [← hledger] at hstored
    refine ⟨c, hstored, hkey, hdescribes, fun hopen => ?_⟩
    obtain ⟨k, owner, -, hsound, -⟩ := hr
    have hact : c.isActive = true := by simpa [hopen] using hdescribes.finished
    show (f.answer i () around q).2.books.ledger.all.filter _ = _
    rw [hledger] at hstored ⊢
    exact Ledger.filter_holds_eq hsound.tidy hsound.single hstored hact

/-- The first turn is cut short behind the start. A message comes, and what is left to be answered is
the last question of it. -/
def messageBehindStart : List (Event Unit) :=
  startPausing ++ .begin 1 () (.receive visitor (some "hello") none none) ::
    List.replicate 12 (.go 1 (quietly none))

/-- The message brings the conversation to the pause, without a word and without another flow. -/
theorem Floor.describes_messageBehindStart :
    ∃ t c, ((stepwiseFloor.run messageBehindStart).go 1 (quietly none)).turn? 1 = some t ∧
      t.success = true ∧ t.hasResponse = false ∧ t.node = some "pause" ∧ t.Describes c ∧
      ((stepwiseFloor.run messageBehindStart).go 1 (quietly none)).books.ledger.all.filter
        (Ledger.holds c.key) = [c] := by
  obtain ⟨hjob, hbefore, hafter⟩ :
      ((stepwiseFloor.run messageBehindStart).jobs 1).map (·.errand.isTurn) = some true ∧
      (stepwiseFloor.run messageBehindStart).turn? 1 = none ∧
      (((stepwiseFloor.run messageBehindStart).go 1 (quietly none)).turn? 1).map
        (fun t => (t.success, t.hasResponse, t.node, t.finished)) =
        some (true, false, some "pause", false) := by
    unfold messageBehindStart
    rw [run_append, stepwiseFloor_run]
    decide +kernel
  obtain ⟨job, hjob, hturn⟩ := Option.map_eq_some_iff.1 hjob
  obtain ⟨t, ht, hfields⟩ := Option.map_eq_some_iff.1 hafter
  simp only [Prod.mk.injEq] at hfields
  obtain ⟨hsuccess, hresponse, hnode, hfinished⟩ := hfields
  have own : ∀ e ∈ messageBehindStart, e.IsOwn := by
    simp [messageBehindStart, startPausing, Event.IsOwn]
  obtain ⟨c, -, -, hdescribes, honly⟩ := describes_of_turn _ _ _ own hjob hturn hbefore ht hsuccess
  exact ⟨t, c, ht, hsuccess, hresponse, hnode, hdescribes, honly hfinished⟩

end Parley
