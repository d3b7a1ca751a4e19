import Parley.Proofs.Floor.Custody

/-!
# One after the other

The operations for one key take turns question by question, and yet come to what they would have come
to one at a time, in the order in which they got the key (`Floor.serial_of_run`).

`serve` is work that goes on by itself: no locks and no timers, only a ledger, with the surroundings
answering one question each. A `Stint` notes what an operation was answered from the moment at which
it got the key; `Floor.stints` notes the stints of a run, in the order in which the key was got. The
invariant `Serial` says that the stints, served one after the other, come to the ledger of the floor
and to the work that is left of each job: whoever holds the key has the last stint, and whoever has
given it back does nothing to the ledger any more.
-/

namespace Parley

open Desk (Ask Errand Outcome Stand Hold)

/-! ## Work by itself -/

/-- What a question is answered with where nobody else is about, and the ledger afterwards. -/
def alone (around : Around) : (q : Ask) → Ledger → q.Answer × Ledger
  | .outside q, l => (around.outside q, l)
  | .store q, l => l.answer around.now q
  | .now, l => (around.now, l)
  | .freshId, l => (around.freshId, l)
  | .acquire _, l | .release _, l | .schedule _ _ _, l | .cancelTimer _, l => ((), l)
  | .deliver _ _, l => (around.delivery, l)

/-- Work goes on by itself, one question in each of some surroundings: what is left of it, and the
ledger afterwards. -/
def serve (work : Desk.Work Outcome) : List Around → Ledger → Desk.Work Outcome × Ledger
  | [], l => (work, l)
  | around :: rest, l => match work with
    | .ask q next => serve (next (alone around q l).1) rest (alone around q l).2
    | _ => (work, l)
termination_by structural answers => answers

theorem serve_append (work : Desk.Work Outcome) (answers rest : List Around) (l : Ledger) :
    serve work (answers ++ rest) l =
      serve (serve work answers l).1 rest (serve work answers l).2 := by
  induction answers generalizing work l with
  | nil => rfl
  | cons around answers ih =>
    cases work with
    | done a => cases rest <;> rfl
    | fail e => cases rest <;> rfl
    | ask q next => exact ih _ _

/-- A floor answers as if nobody else were about. -/
theorem Floor.alone_eq {f : Floor Unit} {i : Nat} {around : Around} {q : Ask} {r : q.Answer}
    (h : (f.answer i () around q).1 = some r) :
    alone around q f.books.ledger = (r, (f.answer i () around q).2.books.ledger) := by
  cases q with
  | freshId =>
    unfold answer at h ⊢
    split
    · rename_i hid
      simp [hid] at h
    · rename_i hid
      simp only [hid, if_false, Option.some.injEq] at h
      rw [← h]
      rfl
  | acquire key => rfl
  | _ =>
    cases h
    rfl

/-! ## Stints -/

/-- What an operation was answered from the moment at which it got its key. -/
structure Stint where
  number : Nat
  errand : Errand
  answers : List Around
  /-- Whether the operation has come to its end. -/
  ended : Bool := false

/-- The stint of a job that is under way. -/
def Stint.IsOpenOf (i : Nat) (t : Stint) : Prop := t.number = i ∧ t.ended = false

instance (i : Nat) (t : Stint) : Decidable (t.IsOpenOf i) :=
  inferInstanceAs (Decidable (_ ∧ _))

/-- The stints with the open one of a job changed. -/
def amend (log : List Stint) (i : Nat) (g : Stint → Stint) : List Stint :=
  log.map fun t => if t.IsOpenOf i then g t else t

/-- The stints after an answer: one begins when the key is got, and all else is noted in it. -/
def notedAnswer (log : List Stint) (i : Nat) (e : Errand) (around : Around) : Ask → List Stint
  | .acquire _ => log ++ [{ number := i, errand := e, answers := [around] }]
  | _ => amend log i fun t => { t with answers := t.answers ++ [around] }

/-- The stints after an event. -/
def Floor.noted (f : Floor Unit) (log : List Stint) : Event Unit → List Stint
  | .go i around => match f.answered? i around with
    | some (job, ⟨q, _⟩) => notedAnswer log i job.errand around q
    | none => log
  | .finish i => match (f.jobs i).bind fun job => result? job.work with
    | some _ => amend log i fun t => { t with ended := true }
    | none => log
  | _ => log

/-- The stints of a run, behind earlier ones, in the order in which the key was got. -/
def Floor.stintsFrom (f : Floor Unit) (log : List Stint) : List (Event Unit) → List Stint
  | [] => log
  | e :: es => (f.act e).stintsFrom (f.noted log e) es

/-- The stints of a run. -/
def Floor.stints (f : Floor Unit) (es : List (Event Unit)) : List Stint := f.stintsFrom [] es

/-- The ledger after the stints, one served after the other. -/
def ledgerAfter (s : Desk.Settings) (log : List Stint) (l : Ledger) : Ledger :=
  log.foldl (fun l t => (serve (t.errand.work s) t.answers l).2) l

/-- The stints with what is left of the work of each, one served after the other. -/
def leftovers (s : Desk.Settings) : List Stint → Ledger → List (Stint × Desk.Work Outcome)
  | [], _ => []
  | t :: log, l => (t, (serve (t.errand.work s) t.answers l).1) ::
    leftovers s log (serve (t.errand.work s) t.answers l).2

/-- What the operations at their end come to, one served after the other. -/
def results (s : Desk.Settings) (log : List Stint) (l : Ledger) :
    List (Errand × Option (Except Failure Outcome)) :=
  ((leftovers s log l).filter (·.1.ended)).map fun (t, work) => (t.errand, Floor.result? work)

variable {s : Desk.Settings} {l : Ledger} {t u : Stint} {log pre post : List Stint} {i : Nat}

theorem ledgerAfter_append (s : Desk.Settings) (log log' : List Stint) (l : Ledger) :
    ledgerAfter s (log ++ log') l = ledgerAfter s log' (ledgerAfter s log l) := List.foldl_append

theorem leftovers_append (s : Desk.Settings) (log log' : List Stint) (l : Ledger) :
    leftovers s (log ++ log') l =
      leftovers s log l ++ leftovers s log' (ledgerAfter s log l) := by
  induction log generalizing l with
  | nil => rfl
  | cons t log ih => exact congrArg _ (ih _)

/-- The open stint of a job is changed, and no other one. -/
theorem amend_split (g : Stint → Stint) (ht : t.IsOpenOf i) (hpre : ∀ u ∈ pre, ¬ u.IsOpenOf i)
    (hpost : ∀ u ∈ post, ¬ u.IsOpenOf i) : amend (pre ++ t :: post) i g = pre ++ g t :: post := by
  have same : ∀ log : List Stint, (∀ u ∈ log, ¬ u.IsOpenOf i) →
      log.map (fun t => if t.IsOpenOf i then g t else t) = log := by
    intro log hlog
    refine (List.map_congr_left ?_).trans (List.map_id _)
    exact fun u hu => if_neg (hlog u hu)
  unfold amend
  rw [List.map_append, List.map_cons, same pre hpre, same post hpost, if_pos ht]

/-! ## What the stints come to -/

/-- An operation for a contact of a key that comes to a turn, or ends the conversations of it. -/
def Desk.Errand.IsFor (key : String) : Errand → Prop
  | start contact _ _ _ _ | resume contact _ | receive contact _ _ _ | cancel contact =>
    contact.key = key
  | active _ | flowFor _ _ | wake _ => False

/-- Nothing is asked of the desk but operations for one key, and nobody else writes. -/
def Event.IsFor (key : String) : Event Unit → Prop
  | .begin _ _ e => e.IsFor key
  | .fire _ _ _ | .go _ _ | .finish _ => True
  | .rewrite _ _ | .silence _ _ | .publish _ => False

/-- All that is done at the desk is done for one key, and whoever waits for the key has done
nothing. -/
structure OneKey (s : Desk.Settings) (key : String) (f : Floor Unit) (st : Nat → Stand) : Prop where
  settings : f.settings () = s
  keyed : ∀ i job, f.jobs i = some job → job.errand.key? = some key ∧ st i ≠ .aloof
  timers : ∀ p ∈ (f.books.timers ()).actions, p.2.contact.key = key
  waiting : ∀ i job, f.jobs i = some job → st i = .waiting → job.work = job.errand.work s

/-- The stints, served one after the other, come to what the jobs have come to. -/
structure Serial (s : Desk.Settings) (flows : Dictionary Flow) (f : Floor Unit)
    (st : Nat → Stand) (log : List Stint) : Prop where
  opened : ∀ i job, f.jobs i = some job → st i ≠ .waiting → ∃ t ∈ log, t.IsOpenOf i
  once : ((log.filter fun t => !t.ended).map (·.number)).Nodup
  /-- Whoever holds the key has the last stint. -/
  last : ∀ i h, st i = .inside h → ∃ pre t, log = pre ++ [t] ∧ t.IsOpenOf i
  left : ∀ p ∈ leftovers s log { flows }, p.1.ended = false → ∃ job,
    f.jobs p.1.number = some job ∧ job.errand = p.1.errand ∧ job.work = p.2 ∧
    st p.1.number ≠ .waiting
  ledger : f.books.ledger = ledgerAfter s log { flows }
  finished : (f.books.finished.map fun r => (r.errand, some r.result)).Perm
    (results s log { flows })

theorem oneKey_opening (s : Desk.Settings) (flows : Dictionary Flow) (key : String) :
    OneKey s key (Floor.opening (fun _ => s) flows) fun _ => .gone where
  settings := rfl
  keyed i job h := by cases h
  timers p hp := by cases hp
  waiting i job h := by cases h

theorem serial_opening (s : Desk.Settings) (flows : Dictionary Flow) :
    Serial s flows (Floor.opening (fun _ => s) flows) (fun _ => .gone) [] where
  opened i job h := by cases h
  once := List.nodup_nil
  last i h hi := by cases hi
  left p hp := by cases hp
  ledger := rfl
  finished := List.Perm.nil

variable {flows : Dictionary Flow} {key : String} {f g : Floor Unit} {p : List (Nat × String)}
  {st : Nat → Stand} {stand : Stand} {job : Job Unit}

/-- One job has moved on, or a new one has begun, or one is gone. -/
theorem OneKey.moved (h : OneKey s key f st) (job : Option (Job Unit))
    (hsettings : g.settings = f.settings) (hjobs : g.jobs = Function.update f.jobs i job)
    (htimers : ∀ p ∈ (g.books.timers ()).actions, p.2.contact.key = key)
    (hkeyed : ∀ j, job = some j → j.errand.key? = some key ∧ stand ≠ .aloof)
    (hwaiting : ∀ j, job = some j → stand = .waiting → j.work = j.errand.work s) :
    OneKey s key g (Function.update st i stand) := by
  refine ⟨(congrFun hsettings ()).trans h.settings, fun j a hj => ?_, htimers, fun j a hj => ?_⟩ <;>
    rw [hjobs] at hj <;> by_cases hji : j = i
  · subst hji
    rw [Function.update_self] at hj ⊢
    exact hkeyed a hj
  · rw [Function.update_of_ne hji] at hj ⊢
    exact h.keyed j a hj
  · subst hji
    rw [Function.update_self] at hj ⊢
    exact hwaiting a hj
  · rw [Function.update_of_ne hji] at hj ⊢
    exact h.waiting j a hj

theorem mem_leftovers {w : Desk.Work Outcome} (h : (t, w) ∈ leftovers s log l) : t ∈ log := by
  induction log generalizing l with
  | nil => cases h
  | cons u log ih =>
    rcases List.mem_cons.1 h with h | h
    · exact (Prod.mk.inj h).1 ▸ List.mem_cons_self
    · exact List.mem_cons_of_mem _ (ih h)

/-- The open stint of a job, with what was noted before and behind it, and the ledger after it. -/
structure Splits (s : Desk.Settings) (flows : Dictionary Flow) (log : List Stint) (i : Nat)
    (job : Job Unit) (pre post : List Stint) (t : Stint) (l : Ledger) : Prop where
  eq : log = pre ++ t :: post
  isOpen : t.IsOpenOf i
  before : ∀ u ∈ pre, ¬ u.IsOpenOf i
  behind : ∀ u ∈ post, ¬ u.IsOpenOf i
  errand : t.errand = job.errand
  serves : serve (t.errand.work s) t.answers (ledgerAfter s pre { flows }) = (job.work, l)

theorem Serial.split (h : Serial s flows f st log) (hjob : f.jobs i = some job)
    (hi : st i ≠ .waiting) : ∃ pre post t l, Splits s flows log i job pre post t l := by
  obtain ⟨t, ht, hopen⟩ := h.opened i job hjob hi
  obtain ⟨pre, post, rfl⟩ := List.append_of_mem ht
  have honce := h.once
  have hkept : (!t.ended) = true := by simp [hopen.2]
  rw [List.filter_append, List.filter_cons_of_pos (p := fun t : Stint => !t.ended) hkept,
    List.map_append, List.map_cons,
    hopen.1] at honce
  obtain ⟨-, hbehind, hbefore⟩ := List.nodup_append.1 honce
  have hmem : ∀ {log : List Stint} {u : Stint}, u ∈ log → u.IsOpenOf i →
      i ∈ (log.filter fun t => !t.ended).map (·.number) := by
    intro log u hu hopen'
    exact List.mem_map.2 ⟨u, List.mem_filter.2 ⟨hu, by simp [hopen'.2]⟩, hopen'.1⟩
  have hleft := h.left
  rw [leftovers_append] at hleft
  obtain ⟨job', hjob', herrand, hwork, -⟩ :=
    hleft _ (List.mem_append_right _ List.mem_cons_self) hopen.2
  dsimp only at hjob' herrand hwork
  rw [hopen.1] at hjob'
  obtain rfl : job = job' := Option.some.inj (hjob.symm.trans hjob')
  refine ⟨pre, post, t, _, rfl, hopen, fun u hu hopen' => ?_, fun u hu hopen' => ?_, herrand.symm,
    Prod.ext hwork.symm rfl⟩
  · exact hbefore i (hmem hu hopen') i List.mem_cons_self rfl
  · exact (List.nodup_cons.1 hbehind).1 (hmem hu hopen')

/-- A job that waits for the key has no stint. -/
theorem Serial.not_isOpenOf (h : Serial s flows f st log) (hi : f.jobs i = none ∨ st i = .waiting)
    (ht : t ∈ log) : ¬ t.IsOpenOf i := by
  intro hopen
  obtain ⟨pre, post, rfl⟩ := List.append_of_mem ht
  have hleft := h.left
  rw [leftovers_append] at hleft
  obtain ⟨job, hjob, -, -, hst⟩ := hleft _ (List.mem_append_right _ List.mem_cons_self) hopen.2
  dsimp only at hjob hst
  rw [hopen.1] at hjob hst
  rcases hi with hi | hi
  · rw [hi] at hjob
    cases hjob
  · exact hst hi

/-- What is noted of the other jobs is still so. -/
theorem Serial.left_of_ne (h : Serial s flows f st log) {job : Option (Job Unit)}
    (hjobs : g.jobs = Function.update f.jobs i job) {p : Stint × Desk.Work Outcome}
    (hp : p ∈ leftovers s log { flows }) (hopen : p.1.ended = false) (hne : p.1.number ≠ i) :
    ∃ job, g.jobs p.1.number = some job ∧ job.errand = p.1.errand ∧ job.work = p.2 ∧
      Function.update st i stand p.1.number ≠ .waiting := by
  rw [hjobs, Function.update_of_ne hne, Function.update_of_ne hne]
  exact h.left p hp hopen

/-- Somebody comes: nothing is noted before the key was got. -/
theorem Serial.take (h : Serial s flows f st log) (hjobs : g.jobs = f.jobs)
    (hledger : g.books.ledger = f.books.ledger)
    (hfinished : g.books.finished = f.books.finished) (hfree : f.jobs i = none) (e : Errand) :
    Serial s flows (g.take i () e) (Function.update st i .waiting) log where
  opened j job hj hst := by
    change Function.update g.jobs i _ j = some job at hj
    by_cases hji : j = i
    · subst hji
      exact absurd (Function.update_self ..) hst
    · rw [Function.update_of_ne hji, hjobs] at hj
      rw [Function.update_of_ne hji] at hst
      exact h.opened j job hj hst
  once := h.once
  last j hold hj := by
    by_cases hji : j = i
    · subst hji
      rw [Function.update_self] at hj
      cases hj
    · rw [Function.update_of_ne hji] at hj
      exact h.last j hold hj
  left p hp hopen := by
    refine h.left_of_ne (g := g.take i () e) (by rw [← hjobs]; rfl) hp hopen fun he => ?_
    exact h.not_isOpenOf (Or.inl hfree) (mem_leftovers hp) ⟨he, hopen⟩
  ledger := hledger.trans h.ledger
  finished := by
    show (g.books.finished.map _).Perm _
    rw [hfinished]
    exact h.finished

/-- Somebody gets the key: a new stint begins behind all others. -/
theorem Serial.enter (h : Serial s flows f st log) (hi : st i = .waiting) {around : Around}
    {next : Unit → Desk.Work Outcome} {k : String}
    (hwork : job.errand.work s = .ask (.acquire k) next) {job' : Job Unit}
    (hjobs : g.jobs = Function.update f.jobs i (some job')) (herrand : job'.errand = job.errand)
    (hnext : job'.work = next ()) (hledger : g.books.ledger = f.books.ledger)
    (hfinished : g.books.finished = f.books.finished)
    (hothers : ∀ j hold, st j ≠ .inside hold) :
    Serial s flows g (Function.update st i (.inside {}))
      (log ++ [{ number := i, errand := job.errand, answers := [around] }]) := by
  have hserve : serve (job.errand.work s) [around] f.books.ledger = (next (), f.books.ledger) := by
    rw [hwork]
    rfl
  have hlog : ∀ u ∈ log, ¬ u.IsOpenOf i := fun u hu => h.not_isOpenOf (Or.inr hi) hu
  refine ⟨fun j a hj hst => ?_, ?_, fun j hold hj => ?_, fun p hp hopen => ?_, ?_, ?_⟩
  · by_cases hji : j = i
    · exact ⟨_, List.mem_append_right _ List.mem_cons_self, hji.symm, rfl⟩
    · rw [hjobs, Function.update_of_ne hji] at hj
      rw [Function.update_of_ne hji] at hst
      obtain ⟨t, ht, hopen⟩ := h.opened j a hj hst
      exact ⟨t, List.mem_append_left _ ht, hopen⟩
  · rw [List.filter_append, List.map_append]
    refine h.once.append (List.nodup_singleton i) (List.disjoint_singleton.2 fun hmem => ?_)
    obtain ⟨u, hu, hnumber⟩ := List.mem_map.1 hmem
    obtain ⟨hu, hover⟩ := List.mem_filter.1 hu
    exact hlog u hu ⟨hnumber, by simpa using hover⟩
  · by_cases hji : j = i
    · exact ⟨log, _, rfl, hji.symm, rfl⟩
    · rw [Function.update_of_ne hji] at hj
      exact absurd hj (hothers j hold)
  · rw [leftovers_append, ← h.ledger] at hp
    rcases List.mem_append.1 hp with hp | hp
    · exact h.left_of_ne hjobs hp hopen fun he => hlog _ (mem_leftovers hp) ⟨he, hopen⟩
    · obtain rfl := List.mem_singleton.1 hp
      dsimp only
      rw [hjobs, Function.update_self, Function.update_self, hserve]
      exact ⟨job', rfl, herrand, hnext, nofun⟩
  · rw [ledgerAfter_append, ← h.ledger, hledger]
    show _ = (serve (job.errand.work s) [around] f.books.ledger).2
    rw [hserve]
  · rw [hfinished]
    unfold results
    rw [leftovers_append, List.filter_append, List.map_append]
    simpa [leftovers, results] using h.finished

/-- Whoever else has an open stint still has it when that of a job is changed. -/
theorem mem_amend {g : Stint → Stint} {j : Nat} (hj : j ≠ i) (ht : t ∈ log) (hopen : t.IsOpenOf j) :
    t ∈ amend log i g := by
  refine List.mem_map.2 ⟨t, ht, if_neg fun hopen' => hj ?_⟩
  exact hopen.1.symm.trans hopen'.1

/-- Whoever else holds the key has the last stint when that of a job is changed. -/
theorem Serial.last_amend (h : Serial s flows f st log) (g : Stint → Stint) {j : Nat} {hold : Hold}
    (hj : j ≠ i) (hst : st j = .inside hold) :
    ∃ pre t, amend log i g = pre ++ [t] ∧ t.IsOpenOf j := by
  obtain ⟨pre, t, rfl, hopen⟩ := h.last j hold hst
  refine ⟨amend pre i g, t, ?_, hopen⟩
  have hsame : (if t.IsOpenOf i then g t else t) = t :=
    if_neg fun hopen' => hj (hopen.1.symm.trans hopen'.1)
  unfold amend
  rw [List.map_append, List.map_singleton, hsame]

theorem Splits.amend_eq (hs : Splits s flows log i job pre post t l) (change : Stint → Stint) :
    amend log i change = pre ++ change t :: post := by
  rw [hs.eq]
  exact amend_split _ hs.isOpen hs.before hs.behind

theorem Splits.leftovers_eq (hs : Splits s flows log i job pre post t l) :
    leftovers s log { flows } =
      leftovers s pre { flows } ++ (t, job.work) :: leftovers s post l := by
  rw [hs.eq, leftovers_append]
  simp only [leftovers, hs.serves]

/-- The ledger is what comes of the stints behind that of a job, after it. -/
theorem Serial.ledger_eq (h : Serial s flows f st log) (hs : Splits s flows log i job pre post t l) :
    f.books.ledger = ledgerAfter s post l := by
  rw [h.ledger, hs.eq, ledgerAfter_append]
  show ledgerAfter s post (serve _ _ _).2 = _
  rw [hs.serves]

/-- What is noted before and behind the open stint of a job is noted of others. -/
theorem Splits.others (hs : Splits s flows log i job pre post t l) {p : Stint × Desk.Work Outcome}
    (hp : p ∈ leftovers s pre { flows } ∨ p ∈ leftovers s post l) (hopen : p.1.ended = false) :
    p ∈ leftovers s log { flows } ∧ p.1.number ≠ i := by
  rw [hs.leftovers_eq]
  rcases hp with hp | hp
  · exact ⟨List.mem_append_left _ hp, fun he => hs.before _ (mem_leftovers hp) ⟨he, hopen⟩⟩
  · exact ⟨List.mem_append_right _ (List.mem_cons_of_mem _ hp),
      fun he => hs.behind _ (mem_leftovers hp) ⟨he, hopen⟩⟩

/-- What is left of the stints when the open one of a job is changed. -/
theorem Splits.leftovers_amend (hs : Splits s flows log i job pre post t l) (change : Stint → Stint)
    {work : Desk.Work Outcome} {l' : Ledger}
    (hserve : serve ((change t).errand.work s) (change t).answers (ledgerAfter s pre { flows }) =
      (work, l')) (hpost : leftovers s post l' = leftovers s post l) :
    leftovers s (amend log i change) { flows } =
      leftovers s pre { flows } ++ (change t, work) :: leftovers s post l := by
  rw [hs.amend_eq, leftovers_append, ← hpost]
  simp only [leftovers, hserve]

/-- The open stint of a job is changed, and its job with it. -/
theorem Serial.amended (h : Serial s flows f st log) (hs : Splits s flows log i job pre post t l)
    {change : Stint → Stint} {work : Desk.Work Outcome} {l' : Ledger} {job' : Option (Job Unit)}
    (hnumber : (change t).number = t.number)
    (hserve : serve ((change t).errand.work s) (change t).answers (ledgerAfter s pre { flows }) =
      (work, l'))
    (hpost : leftovers s post l' = leftovers s post l)
    (hledger : g.books.ledger = ledgerAfter s post l')
    (hjobs : g.jobs = Function.update f.jobs i job')
    (hjob : ∀ a, job' = some a → (change t).ended = false)
    (hopen : (change t).ended = false → ∃ a, job' = some a ∧ a.errand = (change t).errand ∧
      a.work = work ∧ stand ≠ .waiting)
    (hinside : ∀ hold, stand = .inside hold → post = [] ∧ (change t).ended = false)
    (hfinished : (g.books.finished.map fun r => (r.errand, some r.result)).Perm
      (results s (amend log i change) { flows })) :
    Serial s flows g (Function.update st i stand) (amend log i change) := by
  have hlog := hs.amend_eq change
  have hi : (change t).number = i := hnumber.trans hs.isOpen.1
  refine ⟨fun j a hj hst => ?_, ?_, fun j hold hj => ?_, fun p hp hp' => ?_, ?_, hfinished⟩
  · by_cases hji : j = i
    · subst hji
      rw [hjobs, Function.update_self] at hj
      rw [hlog]
      exact ⟨change t, List.mem_append_right _ List.mem_cons_self, hi, hjob a hj⟩
    · rw [hjobs, Function.update_of_ne hji] at hj
      rw [Function.update_of_ne hji] at hst
      obtain ⟨u, hu, hopen⟩ := h.opened j a hj hst
      exact ⟨u, mem_amend hji hu hopen, hopen⟩
  · have honce := h.once
    rw [hs.eq] at honce
    rw [hlog]
    -- A stint that is at its end is not counted any more.
    refine honce.sublist ?_
    simp only [List.filter_append, List.map_append, List.filter_cons, hs.isOpen.2]
    refine List.Sublist.append_left ?_ _
    cases (change t).ended with
    | false => simp [hnumber]
    | true => exact List.sublist_cons_self _ _
  · by_cases hji : j = i
    · subst hji
      rw [Function.update_self] at hj
      obtain ⟨rfl, hopen⟩ := hinside hold hj
      exact ⟨pre, change t, hlog, hi, hopen⟩
    · rw [Function.update_of_ne hji] at hj
      exact h.last_amend _ hji hj
  · rw [hs.leftovers_amend _ hserve hpost] at hp
    have hothers : p ∈ leftovers s pre { flows } ∨ p ∈ leftovers s post l →
        ∃ job, g.jobs p.1.number = some job ∧ job.errand = p.1.errand ∧ job.work = p.2 ∧
          Function.update st i stand p.1.number ≠ .waiting := fun hp =>
      h.left_of_ne hjobs (hs.others hp hp').1 hp' (hs.others hp hp').2
    rcases List.mem_append.1 hp with hp | hp
    · exact hothers (Or.inl hp)
    · rcases List.mem_cons.1 hp with rfl | hp
      · dsimp only at hp' ⊢
        rw [hi, hjobs, Function.update_self, Function.update_self]
        exact hopen hp'
      · exact hothers (Or.inr hp)
  · rw [hlog, ledgerAfter_append, hledger]
    show _ = ledgerAfter s post
      (serve ((change t).errand.work s) (change t).answers (ledgerAfter s pre { flows })).2
    rw [hserve]

/-- A job with a stint is answered: it is noted there, and the ledger afterwards is what comes of the
stints behind it. -/
theorem Serial.answered (h : Serial s flows f st log) (hs : Splits s flows log i job pre post t l)
    {around : Around} {q : Ask} {next : q.Answer → Desk.Work Outcome} {r : q.Answer} {l' : Ledger}
    (hwork : job.work = .ask q next) (hq : alone around q l = (r, l'))
    (hpost : leftovers s post l' = leftovers s post l)
    (hledger : g.books.ledger = ledgerAfter s post l') {job' : Job Unit}
    (hjobs : g.jobs = Function.update f.jobs i (some job')) (herrand : job'.errand = job.errand)
    (hnext : job'.work = next r) (hfinished : g.books.finished = f.books.finished)
    (hwaiting : stand ≠ .waiting) (hinside : ∀ hold, stand = .inside hold → post = []) :
    Serial s flows g (Function.update st i stand)
      (amend log i fun t => { t with answers := t.answers ++ [around] }) := by
  have hopen := hs.isOpen.2
  have hserve : serve (t.errand.work s) (t.answers ++ [around]) (ledgerAfter s pre { flows }) =
      (next r, l') := by
    rw [serve_append, hs.serves, hwork]
    show ((next (alone around q l).1, (alone around q l).2) : Desk.Work Outcome × Ledger) = _
    rw [hq]
  refine h.amended hs rfl hserve hpost hledger hjobs (fun _ _ => hopen)
    (fun _ => ⟨job', rfl, herrand.trans hs.errand.symm, hnext, hwaiting⟩)
    (fun hold hst => ⟨hinside hold hst, hopen⟩) ?_
  have hresults := h.finished
  unfold results at hresults ⊢
  rw [hs.leftovers_eq] at hresults
  rw [hfinished, hs.leftovers_amend _ hserve hpost]
  simpa [List.filter_append, List.filter_cons, hopen] using hresults

/-- A job comes to its end: so does its stint, and comes to the same. -/
theorem Serial.closed (h : Serial s flows f st log) (hs : Splits s flows log i job pre post t l)
    {r : Finished} (hresult : Floor.result? job.work = some r.result)
    (herrand : r.errand = job.errand) (hjobs : g.jobs = Function.update f.jobs i none)
    (hledger : g.books.ledger = f.books.ledger)
    (hfinished : g.books.finished = r :: f.books.finished) :
    Serial s flows g (Function.update st i .gone)
      (amend log i fun t => { t with ended := true }) := by
  refine h.amended hs rfl hs.serves rfl (hledger.trans (h.ledger_eq hs)) hjobs
    (fun a ha => by cases ha) (fun hended => by cases hended) (fun hold hgone => by cases hgone) ?_
  have hresults := h.finished
  unfold results at hresults ⊢
  rw [hs.leftovers_eq] at hresults
  rw [hfinished, hs.leftovers_amend (fun t => { t with ended := true }) hs.serves rfl]
  simp only [List.filter_append, List.filter_cons, List.map_append, List.map_cons, hs.isOpen.2,
    Bool.false_eq_true, if_true, if_false, hresult, herrand, hs.errand] at hresults ⊢
  exact (hresults.cons _).trans List.perm_middle.symm

/-! ## Events -/

/-- A job for a key sets timers for that key only. -/
theorem OneKey.timers_answer (h : OneKey s key f st) (hr : f.IsRegular) {around : Around} {q : Ask}
    {next : q.Answer → Desk.Work Outcome} (hj : f.jobs i = some job) (hw : job.work = .ask q next) :
    ∀ p ∈ ((f.answer i () around q).2.books.timers ()).actions, p.2.contact.key = key := by
  intro p hp
  cases q with
  | schedule id seconds w =>
    obtain ⟨-, owner, -, -, -, hseparate⟩ := hr
    obtain ⟨own, hconfined, -⟩ := hseparate.jobs i job hj
    rw [hw, (h.keyed i job hj).1] at hconfined
    obtain ⟨-, -, hkey⟩ := hconfined.1
    rcases Timers.mem_actions_schedule.1 hp with hp | rfl
    · exact h.timers p (Timers.mem_actions_remove.1 hp).1
    · exact (Option.some.inj hkey).symm
  | cancelTimer id => exact h.timers p (Timers.mem_actions_remove.1 hp).1
  | freshId =>
    have hsame : (f.answer i () around .freshId).2.books.timers = f.books.timers := by
      unfold Floor.answer
      split <;> rfl
    rw [hsame] at hp
    exact h.timers p hp
  | _ => exact h.timers p hp

/-- Where all is done for one key, one job at a time holds it. -/
theorem Kept.eq_of_inside_oneKey (hk : Kept flows f p st) (ho : OneKey s key f st)
    {hold hold' : Hold} {j : Nat} (hi : st i = .inside hold) (hj : st j = .inside hold') :
    i = j := by
  obtain ⟨job, -, hjob, -⟩ := hk.holds i hold hi
  obtain ⟨job', -, hjob', -⟩ := hk.holds j hold' hj
  refine hk.eq_of_inside hi hj hjob hjob' ?_
  rw [(ho.keyed i job hjob).1, (ho.keyed j job' hjob').1]

/-- Nobody who has got the key waits for it again. -/
theorem Desk.Stand.after_ne {s₀ : Stand} {k : Option String} {timed : Bool} {q : Ask}
    (hmay : s₀.May flows k timed q) (haloof : s₀ ≠ .aloof) (r : q.Answer) :
    s₀.after timed q r ≠ .aloof ∧ s₀.after timed q r ≠ .waiting := by
  cases s₀ with
  | aloof => exact absurd rfl haloof
  | waiting =>
    cases q with
    | acquire k => exact ⟨Stand.noConfusion, Stand.noConfusion⟩
    | _ => exact hmay.elim
  | inside hold =>
    cases q with
    | store q =>
      cases q with
      | append e =>
        show (if e.action = .timeout then _ else _ : Stand) ≠ _ ∧
          (if e.action = .timeout then _ else _ : Stand) ≠ _
        split <;> exact ⟨Stand.noConfusion, Stand.noConfusion⟩
      | _ => cases r <;> exact ⟨Stand.noConfusion, Stand.noConfusion⟩
    | _ => exact ⟨Stand.noConfusion, Stand.noConfusion⟩
  | gone => exact ⟨Stand.noConfusion, Stand.noConfusion⟩
  | refused => exact ⟨Stand.noConfusion, Stand.noConfusion⟩

/-- No result tells of a concurrent update. -/
def Books.IsCalm {δ : Type} (b : Books δ) : Prop :=
  ∀ r ∈ b.finished, ∀ o t, r.result = .ok o → o.turn? = some t →
    t.error ≠ some Desk.concurrentUpdate

/-- All that is said here of a floor. -/
def Runs (s : Desk.Settings) (flows : Dictionary Flow) (key : String) (f : Floor Unit)
    (log : List Stint) : Prop :=
  f.books.IsCalm ∧ ∃ p st, Kept flows f p st ∧ OneKey s key f st ∧ Serial s flows f st log

/-- Somebody comes. -/
theorem runs_take (hcalm : f.books.IsCalm) (hk : Kept flows f p st) (ho : OneKey s key f st)
    (h : Serial s flows f st log) (hsettings : g.settings = f.settings) (hjobs : g.jobs = f.jobs)
    (hlocks : g.locks = f.locks) (hledger : g.books.ledger = f.books.ledger)
    (hfinished : g.books.finished = f.books.finished)
    (htimers : ∀ p ∈ (g.books.timers ()).actions, p ∈ (f.books.timers ()).actions)
    (hfree : f.jobs i = none) {e : Errand} (hkey : e.key? = some key)
    (hstand : e.stand = .waiting) : Runs s flows key (g.take i () e) log := by
  refine ⟨fun r hr => hcalm r (hfinished ▸ hr), p, Function.update st i .waiting, ?_, ?_, ?_⟩
  · exact hstand ▸ hk.take hjobs hlocks hledger hfree e
  · refine ho.moved (some { desk := (), errand := e, work := e.work (g.settings ()) })
      hsettings (by rw [← hjobs]; rfl) (fun p hp => ho.timers p (htimers p hp)) ?_ ?_
    · rintro j ⟨⟩
      exact ⟨hkey, nofun⟩
    · rintro j ⟨⟩ -
      show e.work (g.settings ()) = e.work s
      rw [hsettings, ho.settings]
  · exact h.take hjobs hledger hfinished hfree e

/-- What a question does not finish: the record of finished work is left alone. -/
theorem Floor.answer_finished {δ : Type} [DecidableEq δ] (f : Floor δ) (i : Nat) (d : δ)
    (around : Around) (q : Ask) : (f.answer i d around q).2.books.finished = f.books.finished := by
  cases q with
  | freshId => unfold answer; split <;> rfl
  | _ => rfl

theorem Floor.answer_settings {δ : Type} [DecidableEq δ] (f : Floor δ) (i : Nat) (d : δ)
    (around : Around) (q : Ask) : (f.answer i d around q).2.settings = f.settings := by
  cases q with
  | freshId => unfold answer; split <;> rfl
  | _ => rfl

/-- The holder of the key has the last stint, and the ledger is what has come of it. -/
theorem Splits.last (hs : Splits s flows log i job pre post t l) (h : Serial s flows f st log)
    {hold : Hold} (hi : st i = .inside hold) : post = [] ∧ f.books.ledger = l := by
  have hpost : post = [] := by
    obtain ⟨before, u, hlog, hopen⟩ := h.last i hold hi
    rcases List.eq_nil_or_concat post with hnil | ⟨front, v, rfl⟩
    · exact hnil
    · have heq := hs.eq.symm.trans hlog
      rw [List.concat_eq_append, ← List.cons_append, ← List.append_assoc] at heq
      obtain ⟨-, hlast⟩ := List.append_inj' heq rfl
      obtain rfl : v = u := by simpa using hlast
      exact absurd hopen (hs.behind v (by simp))
  refine ⟨hpost, ?_⟩
  rw [h.ledger_eq hs, hpost]
  rfl

/-- A job with a stint is answered. -/
theorem Serial.goes (h : Serial s flows f st log) (hk : Kept flows f p st) (hj : f.jobs i = some job)
    {around : Around} {q : Ask} {next : q.Answer → Desk.Work Outcome} {r : q.Answer}
    (hw : job.work = .ask q next) (hr : (f.answer i () around q).1 = some r) {timed : Bool}
    (hmay : (st i).May flows job.errand.key? timed q) (haloof : st i ≠ .aloof)
    (hwaiting : st i ≠ .waiting) (kept : List String) :
    Serial s flows ((f.answer i () around q).2.assign i (some { job with work := next r, kept }))
      (Function.update st i ((st i).after timed q r)) (notedAnswer log i job.errand around q) := by
  obtain ⟨pre, post, t, l, hs⟩ := h.split hj hwaiting
  have hjobs : ((f.answer i () around q).2.assign i
      (some { job with work := next r, kept })).jobs =
      Function.update f.jobs i (some { job with work := next r, kept }) := by
    unfold Floor.assign
    rw [f.answer_jobs]
  have hfinished := f.answer_finished i () around q
  cases hst : st i with
  | aloof => exact absurd hst haloof
  | waiting => exact absurd hst hwaiting
  | refused => exact absurd hst (hk.calm i)
  | inside hold =>
    rw [hst] at hmay
    obtain ⟨rfl, rfl⟩ := hs.last h hst
    have hq : ∀ k, q ≠ .acquire k := by
      rintro k rfl
      exact hmay
    have hnoted : notedAnswer log i job.errand around q =
        amend log i fun t => { t with answers := t.answers ++ [around] } := by
      cases q with
      | acquire k => exact absurd rfl (hq k)
      | _ => rfl
    rw [hnoted]
    exact h.answered hs hw (Floor.alone_eq hr) rfl rfl hjobs rfl rfl hfinished
      (Stand.after_ne hmay Stand.noConfusion r).2 fun _ _ => rfl
  | gone =>
    rw [hst] at hmay
    cases q with
    | deliver c result =>
      obtain rfl : around.delivery = r := Option.some.inj hr
      refine h.answered hs hw rfl rfl (h.ledger_eq hs) hjobs rfl rfl hfinished
        Stand.noConfusion fun hold hgone => ?_
      cases hgone
    | _ => exact hmay.elim

/-- A job puts its next question. -/
theorem Runs.go (h : Runs s flows key f log) (hr : f.IsRegular) (i : Nat) (around : Around) :
    Runs s flows key (f.go i around) (f.noted log (.go i around)) := by
  obtain ⟨hcalm, p, st, hk, ho, h⟩ := h
  rcases f.go_split i around with ⟨hnone, hgo⟩ |
    ⟨job, q, next, r, hsome, hj, hw, hans, hgo⟩
  · have hlog : f.noted log (.go i around) = log := by simp only [Floor.noted, hnone]
    rw [hlog]
    rcases hgo with hgo | ⟨job, k, next, hj, hw, hgo⟩ <;> rw [hgo]
    · exact ⟨hcalm, p, st, hk, ho, h⟩
    · exact ⟨hcalm, _, st, hk.put_off i around hj hw, ⟨ho.settings, ho.keyed, ho.timers, ho.waiting⟩,
        ⟨h.opened, h.once, h.last, h.left, h.ledger, h.finished⟩⟩
  · have hlog : f.noted log (.go i around) = notedAnswer log i job.errand around q := by
      simp only [Floor.noted, hsome]
    have hjobs : (f.go i around).jobs = Function.update f.jobs i
        (some { job with work := next r, kept := job.kept ++ Floor.keptBy q r }) := by
      rw [hgo]
      unfold Floor.assign
      rw [f.answer_jobs]
    have hfinished : (f.go i around).books.finished = f.books.finished := by
      rw [hgo]
      exact f.answer_finished ..
    obtain ⟨hkey, haloof⟩ := ho.keyed i job hj
    obtain ⟨hmay, hkept⟩ := hk.answered hr hj hw hans (job.kept ++ Floor.keptBy q r)
    obtain ⟨haloof', hwaiting'⟩ := Stand.after_ne hmay haloof r
    change Kept _ ((f.answer i job.desk around q).2.assign i _) _ _ at hkept
    rw [← hgo] at hkept
    have hone : OneKey s key (f.go i around)
        (Function.update st i ((st i).after job.errand.awakened?.isSome q r)) := by
      refine ho.moved _ ?_ hjobs ?_ ?_ ?_
      · rw [hgo]
        exact f.answer_settings ..
      · rw [hgo]
        exact ho.timers_answer hr hj hw
      · rintro j ⟨⟩
        exact ⟨hkey, haloof'⟩
      · rintro j ⟨⟩ hwaiting
        exact absurd hwaiting hwaiting'
    refine ⟨fun r hr => hcalm r (hfinished ▸ hr), _, _, hkept, hone, ?_⟩
    rw [hlog]
    by_cases hst : st i = .waiting
    · rw [hst] at hmay
      cases q with
      | acquire k =>
        have hall : job.errand.work s = .ask (.acquire k) next := by
          rw [← ho.waiting i job hj hst, hw]
        rw [hst]
        refine h.enter hst hall hjobs rfl rfl ?_ hfinished fun j hold hinside => ?_
        · rw [hgo]
          rfl
        · -- The job that got the key is alone with it.
          have hji : j ≠ i := by
            rintro rfl
            rw [hst] at hinside
            cases hinside
          have hgot : Function.update st i
              ((st i).after job.errand.awakened?.isSome (.acquire k) r) i = .inside {} := by
            rw [Function.update_self, hst]
            rfl
          have hother : Function.update st i
              ((st i).after job.errand.awakened?.isSome (.acquire k) r) j = .inside hold := by
            rw [Function.update_of_ne hji, hinside]
          exact hji (hkept.eq_of_inside_oneKey hone hgot hother).symm
      | _ => exact hmay.elim
    · rw [hgo]
      exact h.goes hk hj hw hans hmay haloof hst _

/-- A job comes to its end. -/
theorem Runs.finish (h : Runs s flows key f log) (i : Nat) :
    Runs s flows key (f.finish i) (f.noted log (.finish i)) := by
  obtain ⟨hcalm, p, st, hk, ho, h⟩ := h
  rcases f.finish_split i with ⟨hnone, hfinish⟩ | ⟨job, result, hj, hresult, hfinish⟩
  · have hlog : f.noted log (.finish i) = log := by simp only [Floor.noted, hnone]
    rw [hlog, hfinish]
    exact ⟨hcalm, p, st, hk, ho, h⟩
  · have hlog : f.noted log (.finish i) = amend log i fun t => { t with ended := true } := by
      simp only [Floor.noted, hj, Option.bind_some, hresult]
    have hconcludes := (hk.heeds i job hj).concludes hresult
    have hwaiting : st i ≠ .waiting := by
      intro hst
      have hlast := hconcludes.last
      rw [hst] at hlast
      exact hlast
    obtain ⟨pre, post, t, l, hs⟩ := h.split hj hwaiting
    rw [hlog, hfinish]
    refine ⟨fun r hr => ?_, p, _, hk.finish rfl rfl rfl hconcludes.last,
      ho.moved none rfl rfl ho.timers nofun nofun,
      h.closed hs (r := { errand := job.errand, result, kept := job.kept }) hresult rfl rfl rfl rfl⟩
    rcases List.mem_cons.1 hr with rfl | hr
    · exact fun o t ho ht herror => hk.calm i (hconcludes.calm o t ho ht herror)
    · exact hcalm r hr

/-- Whatever happens, as long as it is for the key, the stints come to what the jobs come to. -/
theorem Runs.act (h : Runs s flows key f log) (hr : f.IsRegular) {e : Event Unit}
    (he : e.IsFor key) : Runs s flows key (f.act e) (f.noted log e) := by
  cases e with
  | go i around => exact h.go hr i around
  | finish i => exact h.finish i
  | begin i d e =>
    show Runs s flows key (f.accept i d e) log
    unfold Floor.accept
    split
    · rename_i hbegin
      obtain ⟨hcalm, p, st, hk, ho, h⟩ := h
      have hfree : f.jobs i = none := by simp_all
      have hkey : e.key? = some key ∧ e.stand = .waiting := by
        cases e with
        | start | resume | receive | cancel => exact ⟨congrArg some he, rfl⟩
        | _ => exact he.elim
      exact runs_take hcalm hk ho h rfl rfl rfl rfl rfl (fun _ hp => hp) hfree hkey.1 hkey.2
    · exact h
  | fire i d id =>
    show Runs s flows key (f.fire i d id) log
    unfold Floor.fire
    cases hw : Dictionary.find? (f.books.timers d).actions id with
    | none => exact h
    | some w =>
      show Runs s flows key (if (f.jobs i).isNone then _ else f) log
      split
      · rename_i hfree
        obtain ⟨hcalm, p, st, hk, ho, h⟩ := h
        have hkey : w.contact.key = key := ho.timers (id, w) (Dictionary.mem_of_find? hw)
        refine runs_take (g := f.setTimers d ((f.books.timers d).remove id)) hcalm hk ho h rfl rfl
          rfl rfl rfl (fun p hp => ?_) (by simpa using hfree) (e := .wake w) (congrArg some hkey) rfl
        cases d
        exact (Timers.mem_actions_remove.1 hp).1
      · exact h
  | _ => exact he.elim

theorem runs_stintsFrom (h : Runs s flows key f log) (hr : f.IsRegular) (es : List (Event Unit))
    (hes : ∀ e ∈ es, e.IsFor key) : Runs s flows key (f.run es) (f.stintsFrom log es) := by
  induction es generalizing f log with
  | nil => exact h
  | cons e es ih =>
    exact ih (h.act hr (hes e List.mem_cons_self)) (hr.act e) fun e' he' =>
      hes e' (List.mem_cons_of_mem _ he')

/-- However operations for one key and the timers that they have set take turns at one desk, the
ledger and the results are those of the same operations served one after the other, in the order in
which they got the key; and no result tells of a concurrent update. -/
theorem Floor.serial_of_run (s : Desk.Settings) (flows : Dictionary Flow) (key : String)
    (es : List (Event Unit)) (hes : ∀ e ∈ es, e.IsFor key) :
    let f : Floor Unit := opening (fun _ => s) flows
    (f.run es).books.ledger = ledgerAfter s (f.stints es) { flows } ∧
    ((f.run es).books.finished.map fun r => (r.errand, some r.result)).Perm
      (results s (f.stints es) { flows }) ∧
    ∀ r ∈ (f.run es).books.finished, ∀ o t, r.result = .ok o → o.turn? = some t →
      t.error ≠ some "Concurrent update" := by
  have hopening : Runs s flows key (opening (fun _ => s) flows) [] :=
    ⟨(fun r hr => by cases hr), [], _, kept_opening _ flows, oneKey_opening s flows key,
      serial_opening s flows⟩
  obtain ⟨hcalm, p, st, -, -, h⟩ :=
    runs_stintsFrom hopening (isRegular_opening _ flows) es hes
  exact ⟨h.ledger, h.finished, hcalm⟩

/-- The visitor starts the flow with a pause, and cancels while the first turn is under way: the
cancellation waits for the key. -/
def overlapping : List (Event Unit) :=
  [.begin 0 () (.start visitor "pausing" none none none), .go 0 (quietly none),
    .go 0 (quietly none)] ++
  ([.begin 1 () (.cancel visitor), .go 1 (quietly none)] ++
    List.replicate 12 (.go 0 (quietly none)) ++ [.finish 0] ++
    List.replicate 4 (.go 1 (quietly none)) ++ [.finish 1])

/-- Both come to their end, and to what they come to one after the other. -/
theorem Floor.serial_overlapping :
    (∀ e ∈ overlapping, e.IsFor visitor.key) ∧
    ((pausingFloor Unit (.ofInt 5)).run overlapping).books.finished.length = 2 ∧
    ((pausingFloor Unit (.ofInt 5)).run overlapping).books.ledger =
      ledgerAfter {} ((pausingFloor Unit (.ofInt 5)).stints overlapping)
        { flows := [("pausing", pausing (.ofInt 5))] } ∧
    (((pausingFloor Unit (.ofInt 5)).run overlapping).books.finished.map
      fun r => (r.errand, some r.result)).Perm
      (results {} ((pausingFloor Unit (.ofInt 5)).stints overlapping)
        { flows := [("pausing", pausing (.ofInt 5))] }) := by
  have hes : ∀ e ∈ overlapping, e.IsFor visitor.key := by
    simp [overlapping, Event.IsFor, Errand.IsFor]
  obtain ⟨hledger, hresults, -⟩ := serial_of_run {} [("pausing", pausing (.ofInt 5))] visitor.key
    overlapping hes
  refine ⟨hes, ?_, hledger, hresults⟩
  unfold overlapping
  rw [run_append, pausingFloor_run]
  decide +kernel

end Parley
