import Parley.Proofs.Desk.Custody
import Parley.Proofs.Floor.Separation
import Parley.Proofs.Floor.Standing
import Parley.Proofs.Floor.Waking
import Parley.Proofs.Lock.Line

/-!
# One desk, and who holds its keys

On a floor of one desk, where nobody else writes to the ledger, a key is held by one job at a time,
and what that job was told of the conversations of its key stays so for as long as it holds the key.
`Kept` says this of a floor, the line before the locks and the standings of the jobs: what a job does
while it holds a key (`Desk.custody`) fits the ledger (`Fits`), and no write is ever refused.

`Kept.take`, `Kept.answered`, `Kept.put_off` and `Kept.finish` are the steps: a job that is answered
keeps its own standing right, and shows nothing to the holder of another key. `Floor.IsRegular`
collects what the laws of records, wakings and owners say of the same floor.
-/

namespace Parley

open Desk (Ask Errand Outcome Stand Hold)

namespace Desk

/-- The turn that came of an errand. -/
def Outcome.turn? : Outcome → Option TurnResult
  | .turn r => some r
  | .woken r => r
  | .cancelled _ | .active _ | .flow _ => none

/-- Work has come to its end: a result that tells of a concurrent update was refused. -/
structure Concludes (r : Except Failure Outcome) (s : Stand) : Prop where
  last : s.IsLast
  calm : ∀ o t, r = .ok o → o.turn? = some t → t.error = some concurrentUpdate → s = .refused

theorem concludes_refused (r : Except Failure Outcome) : Concludes r .refused :=
  ⟨trivial, fun _ _ _ _ _ => rfl⟩

namespace Errand

open Program

/-- How work for an errand stands at its beginning. -/
def stand : Errand → Stand
  | active _ | flowFor _ _ => .aloof
  | start _ _ _ _ _ | resume _ _ | receive _ _ _ _ | cancel _ | wake _ => .waiting

theorem isLast_of_released {s : Stand} (h : s = .gone ∨ s = .refused) : s.IsLast := by
  rcases h with rfl | rfl <;> exact trivial

variable {flows : Dictionary Flow}

/-- An operation for a contact that comes to a turn. -/
theorem turn_custodial {contact : Contact} {work : Work TurnResult}
    (hw : Serves flows (some contact.key) false (.inside {}) work) :
    (holding contact.key work >>= fun r => pure (.turn r)).Keeps
      (custody flows (some contact.key) false) .waiting Concludes := by
  refine keeps_bind.2 ((holding_custodial rfl
    (fun r => ∃ t, r = .ok t ∧ t.error = some concurrentUpdate)
    (Keeps.mono hw fun r s hr => ⟨hr.clear, ?_⟩)).mono fun r s hr => ?_)
  · rintro ⟨t, ht, herror⟩
    exact hr.calm t ht herror
  · obtain ⟨hreleased, hcalm⟩ := hr
    cases r with
    | error e => exact ⟨isLast_of_released hreleased, fun o t ho => by cases ho⟩
    | ok t =>
      refine ⟨isLast_of_released hreleased, ?_⟩
      rintro o t' ⟨⟩ ⟨⟩ herror
      exact hcalm ⟨t, rfl, herror⟩

theorem wake_custodial (s : Settings) (w : Wake) :
    ((wake w).work s).Keeps (custody flows (some w.contact.key) true) .waiting Concludes := by
  have hcontinued : (continueHeld s w).Keeps (custody flows (some w.contact.key) true) (.inside {})
      ServedLate := continueHeld_custodial s w ⟨rfl, rfl⟩
  have hheld := holding_custodial (k := w.contact.key) rfl
    (fun r => ∃ c t, r = .ok (some (c, t)) ∧ t.error = some concurrentUpdate)
    (hcontinued.mono fun r s hr => ⟨hr.1, fun ⟨c, t, ht, herror⟩ => hr.2 c t ht herror⟩)
  show (Desk.wake s w >>= _).Keeps _ _ _
  refine keeps_bind.2 (keeps_bind.2 (hheld.mono fun r st hr => ?_))
  obtain ⟨hreleased, hcalm⟩ := hr
  have hlast := isLast_of_released hreleased
  cases r with
  | error e => exact ⟨hlast, fun o t ho => by cases ho⟩
  | ok done =>
    refine either_ok.2 ?_
    split
    · refine ⟨hlast, ?_⟩
      rintro o t ⟨⟩ ht
      cases ht
    · rename_i c result
      have hdone : Concludes (.ok (.woken (some result))) st := by
        refine ⟨hlast, ?_⟩
        rintro o t ⟨⟩ ⟨⟩ herror
        exact hcalm ⟨c, _, rfl, herror⟩
      split
      · rcases hreleased with rfl | rfl
        · refine keeps_bind.2 (keeps_ask.2 ⟨trivial, fun answer _ => ?_⟩)
          refine keeps_bind.2 (keeps_ofExcept.2 ?_)
          cases answer with
          | error e => exact ⟨hlast, fun o t ho => by cases ho⟩
          | ok u => exact hdone
        · refine (keeps_of_refused _).mono fun r st hst => ?_
          subst hst
          cases r with
          | error e => exact concludes_refused _
          | ok t => exact concludes_refused _
      · exact hdone

/-- The work of every errand is in keeping with custody. -/
theorem work_custodial (flows : Dictionary Flow) (s : Settings) (e : Errand) :
    (e.work s).Keeps (custody flows e.key? e.awakened?.isSome) e.stand Concludes := by
  have clear : ({} : Hold).IsClear := ⟨rfl, rfl⟩
  cases e with
  | start contact flowId text name phone =>
    exact turn_custodial (startHeld_custodial s flowId text name phone rfl clear)
  | resume contact text => exact turn_custodial (resumeHeld_custodial s text clear)
  | receive contact text name phone =>
    exact turn_custodial (receiveHeld_custodial s text name phone rfl clear)
  | cancel contact =>
    refine keeps_bind.2 ((holding_custodial rfl (fun _ => False)
      ((cancelHeld_custodial rfl clear).mono fun r s hr => ⟨hr, False.elim⟩)).mono fun r s hr => ?_)
    have hlast := isLast_of_released hr.1
    cases r with
    | error e => exact ⟨hlast, fun o t ho => by cases ho⟩
    | ok any =>
      refine ⟨hlast, ?_⟩
      rintro o t ⟨⟩ ht
      cases ht
  | active contact =>
    refine keeps_bind.2 (keeps_store.2 ⟨trivial, fun r _ => ?_⟩)
    cases r with
    | error e => exact ⟨trivial, fun o t ho => by cases ho⟩
    | ok c =>
      refine ⟨trivial, ?_⟩
      rintro o t ⟨⟩ ht
      cases ht
  | flowFor tenant text =>
    have hpass : Passes (custody flows none false) .aloof (.store (.enabledFlows tenant)) :=
      ⟨trivial, fun _ => rfl⟩
    refine keeps_bind.2 ((Desk.flowFor_keeps hpass).mono fun r s hs => ?_)
    obtain rfl : s = .aloof := hs
    cases r with
    | error e => exact ⟨trivial, fun o t ho => by cases ho⟩
    | ok id =>
      refine ⟨trivial, ?_⟩
      rintro o t ⟨⟩ ht
      cases ht
  | wake w => exact wake_custodial s w

end Errand

end Desk

/-! ## What a holder knows -/

/-- What is done and not done by the holder of a key fits the ledger. -/
structure Fits (flows : Dictionary Flow) (l : Ledger) (key : String) (h : Hold) : Prop where
  shown : ∀ c, h.shown = some c → l.find? c.id = some c ∧ c.key = key
  cleared : h.cleared = true → l.active? key = none
  owed : ∀ c, h.owed = some c → l.find? c.id = some c ∧ c.key = key ∧ c.isParked = true ∧
    Desk.Paused flows c
  left : ∀ id ∈ h.left, ∃ c, l.find? id = some c ∧ c.key = key ∧ c.isActive = false
  late : ∀ id, h.late = some id → ∃ c, l.find? id = some c ∧ c.key = key

variable {flows : Dictionary Flow} {l l' : Ledger} {key : String} {h : Hold} {timed : Bool}
  {own : List String} {now : Moment}

theorem fits_nothing (flows : Dictionary Flow) (l : Ledger) (key : String) :
    Fits flows l key {} where
  shown c hc := by cases hc
  cleared hc := by cases hc
  owed c hc := by cases hc
  left id hid := by cases hid
  late id hid := by cases hid

/-- What fits a ledger fits another one that has the same conversations of the key. -/
theorem Fits.of_same (hfits : Fits flows l key h) (hl : l.IsTidy) (hl' : l'.IsTidy)
    (hsame : l'.all.filter (fun c => c.key = key) = l.all.filter fun c => c.key = key) :
    Fits flows l' key h := by
  have hfind : ∀ id c, l.find? id = some c → c.key = key → l'.find? id = some c :=
    fun id c hc hkey => Ledger.find?_of_filter_key hsame hl hl' hkey hc
  have hactive : l'.active? key = l.active? key := Ledger.active?_of_filter_key hsame
  refine ⟨fun c hc => ?_, fun hc => hactive ▸ hfits.cleared hc, fun c hc => ?_, fun id hid => ?_,
    fun id hid => ?_⟩
  · obtain ⟨hstored, hkey⟩ := hfits.shown c hc
    exact ⟨hfind _ c hstored hkey, hkey⟩
  · obtain ⟨hstored, hkey, hrest⟩ := hfits.owed c hc
    exact ⟨hfind _ c hstored hkey, hkey, hrest⟩
  · obtain ⟨c, hstored, hkey, hover⟩ := hfits.left id hid
    exact ⟨c, hfind _ c hstored hkey, hkey, hover⟩
  · obtain ⟨c, hstored, hkey⟩ := hfits.late id hid
    exact ⟨c, hfind _ c hstored hkey, hkey⟩

/-- What was kept just now is all that the holder knows. -/
theorem fits_keeping {c : Conversation} (hc : c.key = key) (hpaused : Desk.Paused flows c)
    (timed : Bool) : Fits flows (l.keep c) key (.keeping timed c) := by
  have hstored : (l.keep c).find? c.id = some c := by rw [Ledger.find?_keep, if_pos rfl]
  refine ⟨(fun b hb => by cases hb), (fun hb => by cases hb), fun b hb => ?_, fun id hid => ?_,
    fun id hid => ?_⟩
  · unfold Hold.keeping at hb
    dsimp only at hb
    split at hb
    · rename_i hparked
      cases hb
      exact ⟨hstored, hc, hparked, hpaused⟩
    · cases hb
  · unfold Hold.keeping at hid
    dsimp only at hid
    split at hid
    · cases hid
    · rename_i hover
      rw [List.mem_singleton.1 hid]
      exact ⟨c, hstored, hc, by simpa using hover⟩
  · unfold Hold.keeping at hid
    dsimp only at hid
    split at hid
    · cases hid
      exact ⟨c, hstored, hc⟩
    · cases hid

/-- The holder of a key ends the conversations of it, and is to cancel their timers. -/
theorem Fits.deactivate (hfits : Fits flows l key h) (hl : l.IsTidy) (hclear : h.IsClear)
    (now : Moment) : Fits flows (l.deactivate now key).2 key
      { h with shown := none, cleared := true, left := (l.deactivate now key).1 } := by
  have hfind : ∀ id c, l.find? id = some c → (l.deactivate now key).2.find? id =
      some (Ledger.deactivated now key c) := by
    intro id c hc
    rw [Ledger.find?_deactivate, hc]
    rfl
  have hkey : ∀ c : Conversation, c.key = key → (Ledger.deactivated now key c).key = key :=
    fun c hc => (congrArg Contact.key (Ledger.deactivated_contact now key c)).trans hc
  refine ⟨(fun c hc => by cases hc), fun _ => Ledger.active?_deactivate .., fun c hc => ?_,
    fun id hid => ?_, fun id hid => ?_⟩
  · have howed : h.owed = none := hclear.1
    rw [howed] at hc
    cases hc
  · have hended : id ∈ (l.deactivate now key).1 := hid
    obtain ⟨c, hc, hholds⟩ := hl.mem_deactivate.1 hended
    refine ⟨_, hfind id c hc, hkey c (Ledger.holds_iff.1 hholds).2, ?_⟩
    simp [Ledger.deactivated, hholds, Conversation.finished]
  · obtain ⟨c, hc, hckey⟩ := hfits.late id hid
    exact ⟨_, hfind id c hc, hkey c hckey⟩

/-- What the ledger answers to the holder of a key is not a refusal, and the holder knows what is
so. -/
theorem Fits.ledger_answer (hfits : Fits flows l key h) (hl : l.IsTidy) (hflows : l.flows = flows)
    {q : Store.Ask} (hmay : h.May flows (some key) timed (.store q))
    (hwithin : (Ask.store q).Within (some key) own) {r : Except Failure q.Answer}
    (hears : (Ask.store q).HearsOf (some key) r) (hr : l.answer now q = (r, l')) :
    (Ask.store q).HearsIn flows r ∧ ∃ h', (Stand.inside h).after timed (.store q) r = .inside h' ∧
      Fits flows l' key h' := by
  cases q with
  | flow tenant id =>
    obtain ⟨rfl, rfl⟩ := Prod.mk.inj hr
    refine ⟨?_, h, rfl, hfits⟩
    cases hg : (Dictionary.find? l.flows id).filter (Ledger.isFor tenant) with
    | none => exact trivial
    | some g =>
      show Dictionary.find? flows id = some g
      rw [← hflows]
      exact (Option.filter_eq_some_iff.1 hg).1
  | enabledFlows tenant =>
    obtain ⟨rfl, rfl⟩ := Prod.mk.inj hr
    exact ⟨trivial, h, rfl, hfits⟩
  | history id =>
    obtain ⟨rfl, rfl⟩ := Prod.mk.inj hr
    exact ⟨trivial, h, rfl, hfits⟩
  | active contact =>
    obtain ⟨rfl, rfl⟩ := Prod.mk.inj hr
    refine ⟨?_, _, rfl, { hfits with shown := fun c hc => ?_ }⟩
    · cases hc : l.active? contact.key with
      | none => exact trivial
      | some c => exact (Ledger.holds_iff.1 (hl.find?_of_active? hc).2).1
    · obtain rfl : key = contact.key := Option.some.inj hwithin
      obtain ⟨hstored, hholds⟩ := hl.find?_of_active? hc
      exact ⟨hstored, (Ledger.holds_iff.1 hholds).2⟩
  | conversation id =>
    obtain ⟨rfl, rfl⟩ := Prod.mk.inj hr
    refine ⟨?_, _, rfl, { hfits with shown := fun c hc => ?_ }⟩
    · cases hc : l.find? id with
      | none => exact trivial
      | some c => exact hl.id_of_find? hc
    · have hc : l.find? id = some c := hc
      rw [hc] at hears
      obtain ⟨-, hkey⟩ := hears
      exact ⟨hl.find?_id hc, (Option.some.inj hkey).symm⟩
  | create c =>
    obtain ⟨-, hcleared, rfl, hkey, hpaused⟩ := hmay
    obtain rfl : key = c.key := Option.some.inj hkey
    have hcreate := Ledger.create_of_active? (hfits.cleared hcleared)
    obtain ⟨rfl, rfl⟩ := Prod.mk.inj (hcreate.symm.trans hr)
    exact ⟨rfl, _, rfl, fits_keeping (c := { c with version := 1 }) rfl hpaused false⟩
  | save c version =>
    obtain ⟨-, hpaused, b, hb, hid, rfl, hcontact, -⟩ := hmay
    obtain ⟨hstored, hkey⟩ := hfits.shown b hb
    rw [hid] at hstored
    obtain ⟨rfl, rfl⟩ := Prod.mk.inj ((Ledger.save_of_find? now hstored).symm.trans hr)
    have hckey : c.key = key := (congrArg Contact.key hcontact).symm.trans hkey
    exact ⟨⟨now, rfl⟩, _, rfl, fits_keeping
      (c := { c with version := b.version + 1, updatedAt := now }) hckey hpaused timed⟩
  | deactivate contact =>
    obtain ⟨rfl, rfl⟩ := Prod.mk.inj hr
    obtain rfl : key = contact.key := Option.some.inj hwithin
    exact ⟨trivial, _, rfl, hfits.deactivate hl hmay.1 now⟩
  | append e =>
    obtain ⟨rfl, rfl⟩ := Prod.mk.inj hr
    have hsame : Fits flows (l.append e) key h :=
      ⟨hfits.shown, hfits.cleared, hfits.owed, hfits.left, hfits.late⟩
    refine ⟨trivial, ?_⟩
    by_cases he : e.action = .timeout
    · refine ⟨{ h with late := none }, if_pos he, { hsame with late := ?_ }⟩
      intro id hid
      cases hid
    · exact ⟨h, if_neg he, hsame⟩

/-! ## Lines before the keys -/

/-- Who came for the keys, once somebody came or stays. -/
def joined (p : List (Nat × String)) (i : Nat) (key : String) : List (Nat × String) :=
  if i ∈ p.map (·.1) then p else p ++ [(i, key)]

section
variable {p : List (Nat × String)} {i j : Nat} {other : String}

theorem mem_joined (h : (j, other) ∈ joined p i key) :
    (j, other) ∈ p ∨ (j = i ∧ other = key) := by
  unfold joined at h
  split at h
  · exact Or.inl h
  · rcases List.mem_append.1 h with h | h
    · exact Or.inl h
    · obtain ⟨rfl, rfl⟩ := Prod.mk.inj (List.mem_singleton.1 h)
      exact Or.inr ⟨rfl, rfl⟩

/-- Whoever is first stays first when somebody comes. -/
theorem head?_joined (h : (KeyedLock.line p other).head? = some j) :
    (KeyedLock.line (joined p i key) other).head? = some j := by
  unfold joined
  split
  · exact h
  · rw [KeyedLock.line_append]
    split
    · rw [List.head?_append, h]
      rfl
    · exact h

/-- Whoever is first stays first when somebody else goes. -/
theorem head?_filter (hj : j ≠ i) (h : (KeyedLock.line p other).head? = some j) :
    (KeyedLock.line (p.filter (·.1 ≠ i)) other).head? = some j := by
  rw [KeyedLock.line_filter]
  cases hl : KeyedLock.line p other with
  | nil =>
    rw [hl] at h
    cases h
  | cons k rest =>
    rw [hl] at h
    obtain rfl : k = j := Option.some.inj h
    rw [List.filter_cons_of_pos (by simpa using hj)]
    rfl

theorem orderly_joined {l : KeyedLock Nat} (h : l.Orderly p) (i : Nat) (key : String) :
    (if (l.used? i).isSome then l else l.enter i key).Orderly (joined p i key) := by
  unfold joined
  by_cases hi : i ∈ p.map (·.1)
  · rw [if_pos ((h.isSome_used?_iff i).2 hi), if_pos hi]
    exact h
  · rw [if_neg (fun hu => hi ((h.isSome_used?_iff i).1 hu)), if_neg hi]
    exact KeyedLock.orderly_enter h hi key

end

/-! ## The floor -/

section
variable {δ : Type} {f : Floor δ}

/-- What the laws of records, wakings and owners say of a floor. -/
def Floor.IsRegular (f : Floor δ) : Prop :=
  ∃ k owner, Conducted f k ∧ Sound f.books k ∧ Accounted f.books k ∧ Separate f owner

theorem Floor.isRegular_opening (settings : δ → Desk.Settings) (flows : Dictionary Flow) :
    (Floor.opening settings flows).IsRegular :=
  ⟨_, _, conducted_opening settings flows, sound_opening settings flows,
    accounted_opening settings flows, separate_opening settings flows⟩

theorem Floor.IsRegular.tidy (h : f.IsRegular) : f.books.ledger.IsTidy := by
  obtain ⟨k, owner, -, hsound, -⟩ := h
  exact hsound.tidy

variable [DecidableEq δ]

theorem Floor.IsRegular.act (h : f.IsRegular) (e : Event δ) : (f.act e).IsRegular := by
  obtain ⟨k, owner, hconducted, hsound, haccounted, hseparate⟩ := h
  obtain ⟨k', hmoves, hconducted'⟩ := act_moves hconducted hsound.tidy e
  obtain ⟨owner', hseparate', -⟩ := hseparate.act e
  exact ⟨k', owner', hconducted', hsound.move hmoves, haccounted.move hsound hmoves, hseparate'⟩

theorem Floor.IsRegular.run (h : f.IsRegular) (es : List (Event δ)) : (f.run es).IsRegular := by
  induction es generalizing f with
  | nil => exact h
  | cons e es ih => exact ih (h.act e)

theorem Floor.IsRegular.grows (h : f.IsRegular) (e : Event δ) :
    f.books.ledger.Grows (f.act e).books.ledger := by
  obtain ⟨k, owner, hconducted, hsound, -⟩ := h
  obtain ⟨k', hmoves, -⟩ := act_moves hconducted hsound.tidy e
  exact hmoves.grows hsound

end

/-- What is left of a job is in keeping with custody. -/
def Job.Heeds {δ : Type} (flows : Dictionary Flow) (job : Job δ) (s : Stand) : Prop :=
  job.work.Keeps (Desk.custody flows job.errand.key? job.errand.awakened?.isSome) s Desk.Concludes

/-- The jobs of the only desk stand as they may, and whoever holds a key knows what is so. -/
structure Kept (fs : Dictionary Flow) (f : Floor Unit) (p : List (Nat × String))
    (st : Nat → Stand) : Prop where
  flows : f.books.ledger.flows = fs
  orderly : (f.locks ()).Orderly p
  idle : ∀ i, f.jobs i = none → st i = .gone
  heeds : ∀ i job, f.jobs i = some job → job.Heeds fs (st i)
  calm : ∀ i, st i ≠ .refused
  queued : ∀ i key, (i, key) ∈ p →
    ∃ job, f.jobs i = some job ∧ job.errand.key? = some key ∧ (st i).IsLined
  holds : ∀ i h, st i = .inside h → ∃ job key, f.jobs i = some job ∧
    job.errand.key? = some key ∧ (KeyedLock.line p key).head? = some i ∧
    Fits fs f.books.ledger key h

variable {f g : Floor Unit} {p q : List (Nat × String)} {st : Nat → Stand} {i : Nat}

theorem kept_opening (settings : Unit → Desk.Settings) (flows : Dictionary Flow) :
    Kept flows (Floor.opening settings flows) [] fun _ => .gone where
  flows := rfl
  orderly := KeyedLock.orderly_empty
  idle _ _ := rfl
  heeds i job hj := by cases hj
  calm i h := by cases h
  queued i key h := by cases h
  holds i h hi := by cases hi

/-- A key is held by one job at a time. -/
theorem Kept.eq_of_inside (hk : Kept flows f p st) {j : Nat} {h h' : Hold} {job job' : Job Unit}
    (hi : st i = .inside h) (hj : st j = .inside h') (hjob : f.jobs i = some job)
    (hjob' : f.jobs j = some job') (hkey : job.errand.key? = job'.errand.key?) : i = j := by
  obtain ⟨a, key, ha, hakey, hfirst, -⟩ := hk.holds i h hi
  obtain ⟨b, key', hb, hbkey, hfirst', -⟩ := hk.holds j h' hj
  obtain rfl : job = a := Option.some.inj (hjob.symm.trans ha)
  obtain rfl : job' = b := Option.some.inj (hjob'.symm.trans hb)
  obtain rfl : key = key' := Option.some.inj (hakey.symm.trans (hkey.trans hbkey))
  exact Option.some.inj (hfirst.symm.trans hfirst')

/-- One job has moved on, and nothing that the holders of other keys know has changed. -/
theorem Kept.moved (hk : Kept flows f p st) (job : Option (Job Unit)) {s : Stand}
    (hjobs : g.jobs = Function.update f.jobs i job) (hflows : g.books.ledger.flows = flows)
    (horderly : (g.locks ()).Orderly q)
    (hmem : ∀ j key, j ≠ i → (j, key) ∈ q → (j, key) ∈ p)
    (hfirst : ∀ j key, j ≠ i → (KeyedLock.line p key).head? = some j →
      (KeyedLock.line q key).head? = some j)
    (hothers : ∀ j h key, j ≠ i → (KeyedLock.line p key).head? = some j →
      Fits flows f.books.ledger key h → Fits flows g.books.ledger key h)
    (hidle : job = none → s = .gone) (hheeds : ∀ j, job = some j → j.Heeds flows s)
    (hcalm : s ≠ .refused)
    (hqueued : ∀ key, (i, key) ∈ q → ∃ j, job = some j ∧ j.errand.key? = some key ∧ s.IsLined)
    (hholds : ∀ h, s = .inside h → ∃ j key, job = some j ∧ j.errand.key? = some key ∧
      (KeyedLock.line q key).head? = some i ∧ Fits flows g.books.ledger key h) :
    Kept flows g q (Function.update st i s) := by
  refine ⟨hflows, horderly, fun j hj => ?_, fun j a hj => ?_, fun j => ?_, fun j key hj => ?_,
    fun j h hj => ?_⟩ <;> by_cases hji : j = i
  · subst hji
    rw [hjobs, Function.update_self] at hj
    rw [Function.update_self]
    exact hidle hj
  · rw [hjobs, Function.update_of_ne hji] at hj
    rw [Function.update_of_ne hji]
    exact hk.idle j hj
  · subst hji
    rw [hjobs, Function.update_self] at hj
    rw [Function.update_self]
    exact hheeds a hj
  · rw [hjobs, Function.update_of_ne hji] at hj
    rw [Function.update_of_ne hji]
    exact hk.heeds j a hj
  · subst hji
    rwa [Function.update_self]
  · rw [Function.update_of_ne hji]
    exact hk.calm j
  · subst hji
    rw [hjobs, Function.update_self, Function.update_self]
    exact hqueued key hj
  · rw [hjobs, Function.update_of_ne hji, Function.update_of_ne hji]
    exact hk.queued j key (hmem j key hji hj)
  · subst hji
    rw [Function.update_self] at hj
    rw [hjobs, Function.update_self]
    exact hholds h hj
  · rw [Function.update_of_ne hji] at hj
    rw [hjobs, Function.update_of_ne hji]
    obtain ⟨a, key, ha, hkey, hhead, hfits⟩ := hk.holds j h hj
    exact ⟨a, key, ha, hkey, hfirst j key hji hhead, hothers j h key hji hhead hfits⟩

/-- Whoever is in no line holds no key. -/
theorem Kept.notMem (hk : Kept flows f p st) (hi : ¬ (st i).IsLined) (key : String) :
    (i, key) ∉ p := by
  intro hmem
  obtain ⟨job, -, -, hlined⟩ := hk.queued i key hmem
  exact hi hlined

/-- A desk takes on an errand under a free number. -/
theorem Kept.take (hk : Kept flows f p st) (hjobs : g.jobs = f.jobs) (hlocks : g.locks = f.locks)
    (hledger : g.books.ledger = f.books.ledger) (hfree : f.jobs i = none) (e : Errand) :
    Kept flows (g.take i () e) p (Function.update st i e.stand) := by
  have hnot : ∀ key, (i, key) ∉ p := hk.notMem (by rw [hk.idle i hfree]; exact id)
  refine hk.moved (some { desk := (), errand := e, work := e.work (g.settings ()) }) ?_ ?_ ?_
    (fun _ _ _ h => h) (fun _ _ _ h => h) (fun _ _ _ _ _ h => ?_) nofun ?_ ?_
    (fun key h => absurd h (hnot key)) ?_
  · show Function.update g.jobs i _ = _
    rw [hjobs]
  · show g.books.ledger.flows = flows
    rw [hledger, hk.flows]
  · show (g.locks ()).Orderly p
    rw [hlocks]
    exact hk.orderly
  · show Fits flows g.books.ledger _ _
    rw [hledger]
    exact h
  · rintro j ⟨⟩
    exact e.work_custodial flows _
  · cases e <;> exact nofun
  · intro h hstand
    cases e <;> cases hstand

/-- A job that is not at its end is left alone. -/
theorem Floor.finish_split {δ : Type} (f : Floor δ) (i : Nat) :
    ((f.jobs i).bind (fun job => result? job.work) = none ∧ f.finish i = f) ∨
    ∃ (job : Job δ) (result : Except Failure Outcome), f.jobs i = some job ∧
      result? job.work = some result ∧ f.finish i = { f with books := { f.books with
        finished := { errand := job.errand, result, kept := job.kept } :: f.books.finished } }.assign
          i none := by
  unfold finish
  cases hj : f.jobs i with
  | none => exact Or.inl ⟨rfl, rfl⟩
  | some job =>
    cases hresult : result? job.work with
    | none =>
      refine Or.inl ⟨hresult, ?_⟩
      simp only [hresult]
    | some result =>
      refine Or.inr ⟨job, result, rfl, hresult, ?_⟩
      simp only [hresult]

theorem Job.Heeds.concludes {δ : Type} {job : Job δ} {s : Stand} {result : Except Failure Outcome}
    (h : job.Heeds flows s) (hresult : Floor.result? job.work = some result) :
    Desk.Concludes result s := by
  unfold Job.Heeds at h
  cases hw : job.work with
  | ask q next =>
    rw [hw] at hresult
    cases hresult
  | done a =>
    rw [hw] at hresult h
    cases hresult
    exact h
  | fail e =>
    rw [hw] at hresult h
    cases hresult
    exact h

theorem Desk.Stand.IsLast.not_isLined {s : Stand} (h : s.IsLast) : ¬ s.IsLined := by
  intro hlined
  cases s with
  | waiting | inside => exact h
  | aloof | gone | refused => exact hlined

/-- A job that has come to its end holds no key and waits for none. -/
theorem Kept.finish (hk : Kept flows f p st) (hjobs : g.jobs = f.jobs) (hlocks : g.locks = f.locks)
    (hledger : g.books.ledger = f.books.ledger) (hlast : (st i).IsLast) :
    Kept flows (g.assign i none) p (Function.update st i .gone) := by
  have hnot : ∀ key, (i, key) ∉ p := hk.notMem hlast.not_isLined
  refine hk.moved none ?_ ?_ ?_ (fun _ _ _ h => h) (fun _ _ _ h => h)
    (fun _ _ _ _ _ h => ?_) (fun _ => rfl) ?_ ?_ (fun key h => absurd h (hnot key)) ?_
  · show Function.update g.jobs i none = _
    rw [hjobs]
  · show g.books.ledger.flows = flows
    rw [hledger, hk.flows]
  · show (g.locks ()).Orderly p
    rw [hlocks]
    exact hk.orderly
  · show Fits flows g.books.ledger _ _
    rw [hledger]
    exact h
  · intro j hj
    cases hj
  · intro hs
    cases hs
  · intro h hs
    cases hs

/-- The job that asks goes on as it may, and nothing that the holders of other keys know has
changed. -/
theorem Kept.goes (hk : Kept flows f p st) {job : Job Unit} {work : Desk.Work Outcome}
    {kept : List String} {s : Stand} (hjob : f.jobs i = some job) (hjobs : g.jobs = f.jobs)
    (hflows : g.books.ledger.flows = flows) (horderly : (g.locks ()).Orderly q)
    (hmem : ∀ j key, (j, key) ∈ q → (j, key) ∈ p ∨ j = i ∧ job.errand.key? = some key)
    (hfirst : ∀ j key, j ≠ i → (KeyedLock.line p key).head? = some j →
      (KeyedLock.line q key).head? = some j)
    (hothers : ∀ j h key, j ≠ i → (KeyedLock.line p key).head? = some j →
      Fits flows f.books.ledger key h → Fits flows g.books.ledger key h)
    (hwork : work.Keeps (Desk.custody flows job.errand.key? job.errand.awakened?.isSome) s
      Desk.Concludes)
    (hcalm : s ≠ .refused) (hlined : (∃ key, (i, key) ∈ q) → s.IsLined)
    (hholds : ∀ h, s = .inside h → ∃ key, job.errand.key? = some key ∧
      (KeyedLock.line q key).head? = some i ∧ Fits flows g.books.ledger key h) :
    Kept flows (g.assign i (some { job with work, kept })) q (Function.update st i s) := by
  refine hk.moved (some { job with work, kept }) (by rw [← hjobs]; rfl) hflows horderly
    (fun j key hj h => ?_) hfirst hothers nofun ?_ hcalm (fun key h => ?_) fun h hs => ?_
  · exact (hmem j key h).resolve_right fun hi => hj hi.1
  · rintro j ⟨⟩
    exact hwork
  · refine ⟨_, rfl, ?_, hlined ⟨key, h⟩⟩
    rcases hmem i key h with h | ⟨-, hkey⟩
    · obtain ⟨a, ha, hkey, -⟩ := hk.queued i key h
      obtain rfl : job = a := Option.some.inj (hjob.symm.trans ha)
      exact hkey
    · exact hkey
  · obtain ⟨key, hkey, hhead, hfits⟩ := hholds h hs
    exact ⟨_, key, rfl, hkey, hhead, hfits⟩

/-- The lines after a question was answered. -/
def linesAfter (p : List (Nat × String)) (i : Nat) : Ask → List (Nat × String)
  | .acquire key => joined p i key
  | .release _ => p.filter (·.1 ≠ i)
  | _ => p

/-- The locks agree with the lines, whether a question was answered or put off. -/
theorem orderly_answer (h : (f.locks ()).Orderly p) (i : Nat) (around : Around) (q : Ask) :
    ((f.answer i () around q).2.locks ()).Orderly (linesAfter p i q) := by
  cases q with
  | acquire key => exact orderly_joined h i key
  | release key => exact KeyedLock.orderly_leave h i
  | freshId =>
    unfold Floor.answer
    split <;> exact h
  | _ => exact h

/-- A job that waits for its key comes to the end of the line. -/
theorem Kept.put_off (hk : Kept flows f p st) (i : Nat) (around : Around) {job : Job Unit}
    {key : String} {next : Unit → Desk.Work Outcome} (hjob : f.jobs i = some job)
    (hwork : job.work = .ask (.acquire key) next) :
    Kept flows (f.answer i () around (.acquire key)).2 (joined p i key) st := by
  have hheeds := hk.heeds i job hjob
  have hmay := hheeds
  unfold Job.Heeds at hmay
  rw [hwork] at hmay
  -- Only a job that waits for a key, or one that was refused, asks for a key.
  have hkey : job.errand.key? = some key ∧ (st i).IsLined := by
    have hmay := hmay.1
    cases hst : st i with
    | waiting =>
      rw [hst] at hmay
      exact ⟨hmay, trivial⟩
    | refused => exact absurd hst (hk.calm i)
    | _ =>
      rw [hst] at hmay
      exact hmay.elim
  refine ⟨hk.flows, orderly_answer hk.orderly i around (.acquire key), hk.idle, hk.heeds, hk.calm,
    fun j other hj => ?_, fun j h hj => ?_⟩
  · rcases mem_joined hj with hj | ⟨rfl, rfl⟩
    · exact hk.queued j other hj
    · exact ⟨job, hjob, hkey⟩
  · obtain ⟨a, other, ha, hother, hhead, hfits⟩ := hk.holds j h hj
    exact ⟨a, other, ha, hother, head?_joined hhead, hfits⟩

/-- What comes of an answer for the standing of the job that asked, which holds a key. -/
structure Informed (fs : Dictionary Flow) (f g : Floor Unit) (key : String) (timed : Bool)
    (h : Hold) (q : Ask) (r : q.Answer) : Prop where
  hears : q.HearsIn fs r
  flows : g.books.ledger.flows = fs
  /-- The job still holds its key, or it has given it back. -/
  stands : (∃ h', (Stand.inside h).after timed q r = .inside h' ∧
    Fits fs g.books.ledger key h') ∨
    ((Stand.inside h).after timed q r = .gone ∧ ∃ k, q = .release k)
  others : ∀ h' other, other ≠ key → Fits fs f.books.ledger other h' →
    Fits fs g.books.ledger other h'

/-- Nothing happens to the ledger. -/
theorem informed_of_ledger {q : Ask} {r : q.Answer} {h' : Hold} (hears : q.HearsIn flows r)
    (hf : f.books.ledger.flows = flows) (hg : g.books.ledger = f.books.ledger)
    (hafter : (Stand.inside h).after timed q r = .inside h')
    (hfits : Fits flows f.books.ledger key h') : Informed flows f g key timed h q r where
  hears
  flows := by rw [hg, hf]
  stands := Or.inl ⟨h', hafter, by rw [hg]; exact hfits⟩
  others _ _ _ hother := by
    rw [hg]
    exact hother

/-- The holder of a key is told what is so. -/
theorem Fits.answer (hfits : Fits flows f.books.ledger key h) (hf : f.books.ledger.flows = flows)
    (hr : f.IsRegular) {job : Job Unit} {around : Around} {q : Ask}
    {next : q.Answer → Desk.Work Outcome} {r : q.Answer} (hjob : f.jobs i = some job)
    (hwork : job.work = .ask q next) (hkey : job.errand.key? = some key)
    (hmay : h.May flows (some key) timed q) (hans : (f.answer i () around q).1 = some r) :
    Informed flows f (f.answer i () around q).2 key timed h q r := by
  cases q with
  | store q =>
    obtain ⟨-, owner, -, -, -, hseparate⟩ := hr
    obtain ⟨own, hconfined, hown⟩ := hseparate.jobs i job hjob
    rw [hwork, hkey] at hconfined
    rw [hkey] at hown
    obtain ⟨owner', hserved⟩ := hseparate.books.answer hown hconfined.1 hans
    have hreply : f.books.ledger.answer around.now q =
        (r, (f.books.ledger.answer around.now q).2) := by
      cases hans
      rfl
    obtain ⟨hears, h', hafter, hfits'⟩ := hfits.ledger_answer hseparate.books.tidy hf hmay
      hconfined.1 hserved.hears hreply
    refine ⟨hears, ?_, Or.inl ⟨h', hafter, hfits'⟩, fun g other hne hother => ?_⟩
    · exact (Ledger.answer_flows around.now q f.books.ledger).trans hf
    · have hsame := hserved.apart other fun he => hne (Option.some.inj he).symm
      exact hother.of_same hseparate.books.tidy hserved.separated.tidy hsame.conversations
  | outside q => exact informed_of_ledger trivial hf rfl rfl hfits
  | now => exact informed_of_ledger trivial hf rfl rfl hfits
  | freshId =>
    refine informed_of_ledger trivial hf ?_ rfl hfits
    unfold Floor.answer
    split <;> rfl
  | schedule id seconds w =>
    refine informed_of_ledger trivial hf rfl rfl { hfits with owed := fun c hc => ?_ }
    cases hc
  | cancelTimer id =>
    refine informed_of_ledger trivial hf rfl rfl { hfits with left := fun id' hid => ?_ }
    exact hfits.left id' (List.mem_of_mem_tail hid)
  | release k => exact ⟨trivial, hf, Or.inr ⟨rfl, k, rfl⟩, fun _ _ _ hother => hother⟩
  | acquire k => exact hmay.elim
  | deliver c t => exact hmay.elim

/-- A question that does nothing to ledger and locks leaves all others as they stand. -/
theorem Kept.goes_alone (hk : Kept flows f p st) {job : Job Unit} {work : Desk.Work Outcome}
    {kept : List String} {s : Stand} (hjob : f.jobs i = some job) (hnot : ¬ (st i).IsLined)
    (hwork : work.Keeps (Desk.custody flows job.errand.key? job.errand.awakened?.isSome) s
      Desk.Concludes)
    (hs : s = .aloof ∨ s = .gone) :
    Kept flows (f.assign i (some { job with work, kept })) p (Function.update st i s) := by
  refine hk.goes hjob rfl hk.flows hk.orderly (fun j key h => Or.inl h) (fun j key _ h => h)
    (fun j h key _ _ hfits => hfits) hwork ?_ (fun h => ?_) fun h hs' => ?_
  · rcases hs with rfl | rfl <;> exact nofun
  · obtain ⟨key, hmem⟩ := h
    exact absurd hmem (hk.notMem hnot key)
  · rcases hs with rfl | rfl <;> cases hs'

/-- A job gets the key that it has waited for. -/
theorem Kept.enters (hk : Kept flows f p st) {job : Job Unit} {around : Around} {key : String}
    {work : Desk.Work Outcome} (hjob : f.jobs i = some job) (hkey : job.errand.key? = some key)
    (hans : (f.answer i () around (.acquire key)).1 = some ())
    (hwork : work.Keeps (Desk.custody flows job.errand.key? job.errand.awakened?.isSome)
      (.inside {}) Desk.Concludes) (kept : List String) :
    Kept flows ((f.answer i () around (.acquire key)).2.assign i (some { job with work, kept }))
      (joined p i key) (Function.update st i (.inside {})) := by
  have horderly := orderly_answer hk.orderly i around (.acquire key)
  refine hk.goes hjob rfl hk.flows horderly (fun j other h => ?_)
    (fun j other _ h => head?_joined h) (fun _ _ _ _ _ h => h) hwork nofun
    (fun _ => trivial) fun h hs => ?_
  · rcases mem_joined h with h | ⟨rfl, rfl⟩
    · exact Or.inl h
    · exact Or.inr ⟨rfl, hkey⟩
  · cases hs
    refine ⟨key, hkey, ?_, fits_nothing ..⟩
    have hholder : (if ((f.answer i () around (.acquire key)).2.locks ()).holder? key = some i then
        some () else none) = some () := hans
    rw [horderly.holder?_eq key] at hholder
    exact (Option.ite_none_right_eq_some.1 hholder).1

/-- The holder of a key is answered, and keeps the key or has given it back. -/
theorem Kept.holder_answered (hk : Kept flows f p st) (hr : f.IsRegular) {job : Job Unit}
    {around : Around} {q : Ask} {next : q.Answer → Desk.Work Outcome} {r : q.Answer}
    (hjob : f.jobs i = some job) (hwork : job.work = .ask q next) (hi : st i = .inside h)
    (hmay : h.May flows job.errand.key? job.errand.awakened?.isSome q)
    (hnext : ∀ r, q.HearsIn flows r →
      (next r).Keeps (Desk.custody flows job.errand.key? job.errand.awakened?.isSome)
        ((Stand.inside h).after job.errand.awakened?.isSome q r) Desk.Concludes)
    (hans : (f.answer i () around q).1 = some r) (kept : List String) :
    Kept flows ((f.answer i () around q).2.assign i (some { job with work := next r, kept }))
      (linesAfter p i q)
      (Function.update st i ((Stand.inside h).after job.errand.awakened?.isSome q r)) := by
  obtain ⟨a, key, ha, hkey, hhead, hfits⟩ := hk.holds i h hi
  obtain rfl : job = a := Option.some.inj (hjob.symm.trans ha)
  have hmay' : h.May flows (some key) job.errand.awakened?.isSome q := hkey ▸ hmay
  obtain ⟨hears, hflows, hstands, hothers⟩ := hfits.answer hk.flows hr hjob hwork hkey hmay' hans
  have hrest := hnext r hears
  have hjobs := f.answer_jobs i () around q
  have horderly := orderly_answer hk.orderly i around q
  -- Nobody else is first in line for the key of the job.
  have hother : ∀ j other, j ≠ i → (KeyedLock.line p other).head? = some j → other ≠ key := by
    rintro j other hj hfirst rfl
    exact hj (Option.some.inj (hfirst.symm.trans hhead))
  rcases hstands with ⟨h', hafter, hfits'⟩ | ⟨hafter, k, rfl⟩
  · have hlines : linesAfter p i q = p := by
      cases q with
      | acquire k => exact hmay'.elim
      | release k => cases hafter
      | _ => rfl
    rw [hlines] at horderly ⊢
    rw [hafter] at hrest ⊢
    refine hk.goes hjob hjobs hflows horderly (fun j key h => Or.inl h) (fun j key _ h => h)
      (fun j g other hj hfirst hg => hothers g other (hother j other hj hfirst) hg) hrest nofun
      (fun _ => trivial) fun g hg => ?_
    cases hg
    exact ⟨key, hkey, hhead, hfits'⟩
  · refine hk.goes hjob hjobs hflows horderly (fun j key h => ?_)
      (fun j key hj hfirst => head?_filter hj hfirst)
      (fun j g other hj hfirst hg => hothers g other (hother j other hj hfirst) hg) hrest nofun
      (fun hmem => ?_) fun g hg => ?_
    · exact Or.inl (List.mem_filter.1 h).1
    · obtain ⟨other, hmem⟩ := hmem
      simp [linesAfter] at hmem
    · cases hg

/-- A job asks only what it may, and all stand as they may once it was answered. -/
theorem Kept.answered (hk : Kept flows f p st) (hr : f.IsRegular) {job : Job Unit}
    {around : Around} {q : Ask} {next : q.Answer → Desk.Work Outcome} {r : q.Answer}
    (hjob : f.jobs i = some job) (hwork : job.work = .ask q next)
    (hans : (f.answer i () around q).1 = some r) (kept : List String) :
    (st i).May flows job.errand.key? job.errand.awakened?.isSome q ∧
    Kept flows ((f.answer i () around q).2.assign i (some { job with work := next r, kept }))
      (linesAfter p i q) (Function.update st i ((st i).after job.errand.awakened?.isSome q r)) := by
  have hheeds := hk.heeds i job hjob
  unfold Job.Heeds at hheeds
  rw [hwork] at hheeds
  obtain ⟨hmay, hnext⟩ := hheeds
  refine ⟨hmay, ?_⟩
  rcases Stand.may_cases hmay (hk.calm i) with ⟨h, hst, hmay⟩ |
    ⟨hst, ⟨tenant, rfl⟩ | ⟨contact, rfl⟩⟩ | ⟨hst, key, rfl, hkey⟩ | ⟨hst, c, t, rfl⟩ <;>
    rw [hst] at hnext ⊢
  · exact hk.holder_answered hr hjob hwork hst hmay hnext hans kept
  · exact hk.goes_alone hjob (by rw [hst]; exact id) (hnext r trivial) (Or.inl rfl)
  · cases hans
    refine hk.goes_alone hjob (by rw [hst]; exact id) (hnext _ ?_) (Or.inl rfl)
    cases hc : f.books.ledger.active? contact.key with
    | none => exact trivial
    | some c => exact (Ledger.holds_iff.1 (hr.tidy.find?_of_active? hc).2).1
  · exact hk.enters hjob hkey hans (hnext r trivial) kept
  · exact hk.goes_alone hjob (by rw [hst]; exact id) (hnext r trivial) (Or.inr rfl)

end Parley
