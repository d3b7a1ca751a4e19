import Mathlib.Data.List.Induction
import Parley.Proofs.Floor.Doings

/-!
# One turn for each pause

On a floor of one desk, where nobody else writes to the ledger, whatever turns overlap and whatever
timers go off:

* a turn that a timer has begun is kept only right behind a turn that has left its conversation at a
  pause (`Continued`), so no pause is passed twice; and what a history tells of timers is told by
  turns that were kept;
* a timer that goes off for a conversation that is over does nothing, however far the work that has
  ended it has got by then (`Idles`);
* once no job is left, every pending timer is the timer of an active conversation that waits for one,
  where it stands.

`Timely` is the invariant, and `Doing` what one event does. What ties a timer to its conversation is
that a conversation is kept only while it has no timer; what makes a history tell of a timer once is
that a job may tell of the conversation that it has just kept, and only while it holds the key, so
that two jobs never may at a time.
-/

namespace Parley

open Desk (Ask Errand Outcome Stand Hold)

/-! ## The turns of a conversation -/

/-- The turns of a conversation among all that were kept. -/
def turnsOf (log : List Commit) (id : String) : List Commit :=
  log.filter fun t => t.conversation.id = id

/-- How many turns a timer had begun. -/
def timerTurns (turns : List Commit) : Nat := turns.countP (·.byTimer)

/-- How many turns have left their conversation to wait for a timer. -/
def pauses (turns : List Commit) : Nat := turns.countP (·.conversation.isParked)

/-- How often the history of a conversation tells that its timer went off. -/
def Ledger.timeouts (l : Ledger) (id : String) : Nat :=
  (l.historyOf id).countP fun e => e.action = .timeout

/-- Every turn that a timer had begun comes right behind one that has left the conversation to wait
for a timer. -/
def Continued (turns : List Commit) : Prop :=
  ∀ before t behind, turns = before ++ t :: behind → t.byTimer = true →
    ∃ u, before.getLast? = some u ∧ u.conversation.isParked = true

variable {turns log : List Commit} {t : Commit} {id : String}

theorem continued_nil : Continued [] := by
  intro before t behind h
  simp at h

theorem Continued.concat (h : Continued turns)
    (ht : t.byTimer = true → ∃ u, turns.getLast? = some u ∧ u.conversation.isParked = true) :
    Continued (turns ++ [t]) := by
  intro before v behind heq htimer
  rcases List.eq_nil_or_concat behind with rfl | ⟨front, w, rfl⟩
  · obtain ⟨rfl, hlast⟩ := List.append_inj' heq rfl
    obtain rfl : t = v := List.singleton_inj.1 hlast
    exact ht htimer
  · rw [List.concat_eq_append, ← List.cons_append, ← List.append_assoc] at heq
    obtain ⟨rfl, -⟩ := List.append_inj' heq rfl
    exact h before v front rfl htimer

theorem Continued.of_concat (h : Continued (turns ++ [t])) :
    Continued turns ∧
      (t.byTimer = true → ∃ u, turns.getLast? = some u ∧ u.conversation.isParked = true) := by
  refine ⟨fun before v behind heq => h before v (behind ++ [t]) ?_, h turns t [] rfl⟩
  rw [heq, List.append_assoc, List.cons_append]

theorem timerTurns_append (turns : List Commit) (t : Commit) :
    timerTurns (turns ++ [t]) = timerTurns turns + if t.byTimer then 1 else 0 := by
  unfold timerTurns
  rw [List.countP_append, List.countP_singleton]

/-- No pause is passed twice, and the last one is not passed yet. -/
theorem Continued.timerTurns_le (h : Continued turns) : timerTurns turns ≤ pauses turns ∧
    ∀ u, turns.getLast? = some u → u.conversation.isParked = true →
      timerTurns turns + 1 ≤ pauses turns := by
  induction turns using List.reverseRecOn with
  | nil => exact ⟨Nat.le_refl _, fun u hu => by cases hu⟩
  | append_singleton turns t ih =>
    obtain ⟨hturns, ht⟩ := h.of_concat
    obtain ⟨hle, hlast⟩ := ih hturns
    have hpassed : timerTurns (turns ++ [t]) ≤ pauses turns := by
      rw [timerTurns_append]
      split
      · rename_i htimer
        obtain ⟨u, hu, hparked⟩ := ht htimer
        exact hlast u hu hparked
      · exact hle
    have hpauses : pauses (turns ++ [t]) =
        pauses turns + if t.conversation.isParked then 1 else 0 := by
      unfold pauses
      rw [List.countP_append, List.countP_singleton]
    refine ⟨by omega, fun u hu hparked => ?_⟩
    rw [List.getLast?_concat] at hu
    obtain rfl : t = u := Option.some.inj hu
    rw [hpauses, if_pos hparked]
    omega

/-- The commits with one more, if there is one. -/
def logged (log : List Commit) : Option Commit → List Commit
  | none => log
  | some t => log ++ [t]

theorem logged_append (log : List Commit) (commit : Option Commit) (rest : List Commit) :
    logged log commit ++ rest = log ++ (commit.toList ++ rest) := by
  cases commit with
  | none => rfl
  | some t => exact List.append_assoc ..

theorem turnsOf_append (log : List Commit) (t : Commit) (id : String) : turnsOf (log ++ [t]) id =
    if t.conversation.id = id then turnsOf log id ++ [t] else turnsOf log id := by
  unfold turnsOf
  rw [List.filter_append, List.filter_singleton]
  split <;> simp_all

theorem timeouts_append (l : Ledger) (e : Entry) (id : String) : (l.append e).timeouts id =
    l.timeouts id + if e.conversation = id ∧ e.action = .timeout then 1 else 0 := by
  unfold Ledger.timeouts
  rw [Ledger.historyOf_append]
  by_cases hid : e.conversation = id
  · simp [hid, List.countP_append, List.countP_singleton]
  · simp [hid]

/-! ## Timers, turns and what is told of them -/

/-- What a history tells of timers was told by turns that timers had begun, and there is one more of
them where a job may still tell of a timer. -/
def Told (l : Ledger) (st : Nat → Stand) (turns : List Commit) (id : String) : Prop :=
  l.timeouts id ≤ timerTurns turns ∧
    ∀ i, (st i).late = some id → l.timeouts id + 1 ≤ timerTurns turns

/-- The turns that were kept, the histories and the pending timers agree. -/
structure Timely (flows : Dictionary Flow) (b : Books Unit) (st : Nat → Stand)
    (log : List Commit) : Prop where
  paused : ∀ t ∈ log, Desk.Paused flows t.conversation
  /-- An active conversation is as its last turn has left it. -/
  current : ∀ id c, b.ledger.find? id = some c → c.isActive = true →
    (turnsOf log id).getLast?.map (·.conversation) = some c
  continued : ∀ id, Continued (turnsOf log id)
  told : ∀ id, Told b.ledger st (turnsOf log id) id
  /-- A pending timer is that of a conversation that waits for it, or it is about to be cancelled. -/
  pending : ∀ p ∈ (b.timers ()).actions, ∃ c, b.ledger.find? p.1 = some c ∧
    (c.isActive = true → c.isParked = true ∧ p.2 = c.wake ∧ Desk.Paused flows c) ∧
    (c.isActive = false → ∃ i, p.1 ∈ (st i).left)

variable {flows : Dictionary Flow} {b b' : Books Unit} {f : Floor Unit}
  {p : List (Nat × String)} {st : Nat → Stand} {i : Nat} {s : Stand} {commit : Option Commit}

theorem timely_opening (settings : Unit → Desk.Settings) (flows : Dictionary Flow) :
    Timely flows (Floor.opening settings flows).books (fun _ => .gone) [] where
  paused t ht := by cases ht
  current id c hc := by cases hc
  continued id := continued_nil
  told id := ⟨Nat.le_refl 0, fun i hi => by cases hi⟩
  pending p hp := by cases hp

/-- Of one conversation only one job may tell that its timer went off. -/
theorem Kept.eq_of_late (hk : Kept flows f p st) {j : Nat} (hi : (st i).late = some id)
    (hj : (st j).late = some id) : i = j := by
  have holder : ∀ i, (st i).late = some id → ∃ h job key c, st i = .inside h ∧
      f.jobs i = some job ∧ job.errand.key? = some key ∧ f.books.ledger.find? id = some c ∧
      c.key = key := by
    intro i hi
    cases hst : st i with
    | inside h =>
      rw [hst] at hi
      obtain ⟨job, key, hjob, hkey, -, hfits⟩ := hk.holds i h hst
      obtain ⟨c, hc, hckey⟩ := hfits.late id hi
      exact ⟨h, job, key, c, rfl, hjob, hkey, hc, hckey⟩
    | _ =>
      rw [hst] at hi
      cases hi
  obtain ⟨h, job, key, c, hst, hjob, hkey, hc, rfl⟩ := holder i hi
  obtain ⟨h', job', key', c', hst', hjob', hkey', hc', rfl⟩ := holder j hj
  obtain rfl : c = c' := Option.some.inj (hc.symm.trans hc')
  exact hk.eq_of_inside hst hst' hjob hjob' (hkey.trans hkey'.symm)

/-- An active conversation is as its last turn has left it. -/
theorem Timely.current_of (h : Timely flows b st log) (hd : Doing flows b b' (st i) s commit)
    (id : String) (c : Conversation) (hc : b'.ledger.find? id = some c) (hact : c.isActive = true) :
    (turnsOf (logged log commit) id).getLast?.map (·.conversation) = some c := by
  cases hd with
  | keeps d timed hledger =>
    rw [hledger, Ledger.find?_keep] at hc
    unfold logged
    rw [turnsOf_append]
    split at hc
    · rename_i hid
      cases hc
      rw [if_pos hid, List.getLast?_concat]
      rfl
    · rename_i hid
      rw [if_neg hid]
      exact h.current id c hc hact
  | ends key now hledger =>
    rw [hledger] at hc
    rcases Ledger.find?_of_deactivate hc with hc | ⟨d, -, hover, -⟩
    · exact h.current id c hc hact
    · rw [hact] at hover
      cases hover
  | tells e hledger =>
    rw [hledger] at hc
    exact h.current id c hc hact
  | rests hledger | sets _ _ hledger | removes _ hledger =>
    rw [hledger] at hc
    exact h.current id c hc hact

/-- A turn that a timer has begun writes over a conversation that waits for one. -/
theorem Timely.continued_of (h : Timely flows b st log) (hd : Doing flows b b' (st i) s commit)
    (id : String) : Continued (turnsOf (logged log commit) id) := by
  cases hd with
  | keeps d timed hledger htimers hbefore hlate hpaused hprior =>
    unfold logged
    rw [turnsOf_append]
    split
    · rename_i hid
      refine (h.continued id).concat fun htimed => ?_
      obtain ⟨prior, hstored, hact, hparked⟩ := hprior htimed
      have hcurrent := h.current d.id prior hstored hact
      obtain ⟨u, hu, rfl⟩ := Option.map_eq_some_iff.1 hcurrent
      exact ⟨u, hid ▸ hu, hparked⟩
    · exact h.continued id
  | _ => exact h.continued id

section
variable {l l' : Ledger} {turns' : List Commit}

/-- Nothing is told of a timer. -/
theorem Told.rests (h : Told l st turns id) (hl : l'.timeouts id = l.timeouts id)
    (hlate : s.late = (st i).late ∨ s.late = none) :
    Told l' (Function.update st i s) turns id := by
  unfold Told
  rw [hl]
  refine ⟨h.1, fun j hj => ?_⟩
  by_cases hji : j = i
  · subst hji
    rw [Function.update_self] at hj
    rcases hlate with hlate | hlate <;> rw [hlate] at hj
    · exact h.2 j hj
    · cases hj
  · rw [Function.update_of_ne hji] at hj
    exact h.2 j hj

/-- The only job that may tell of a timer tells of it. -/
theorem Told.tells (h : Told l st turns id) (hl : l'.timeouts id = l.timeouts id + 1)
    (hlate : (st i).late = some id) (honly : ∀ j, (st j).late = some id → j = i)
    (hs : s.late = none) : Told l' (Function.update st i s) turns id := by
  unfold Told
  rw [hl]
  refine ⟨h.2 i hlate, fun j hj => ?_⟩
  by_cases hji : j = i
  · subst hji
    rw [Function.update_self, hs] at hj
    cases hj
  · rw [Function.update_of_ne hji] at hj
    exact absurd (honly j hj) hji

/-- A conversation is kept. -/
theorem Told.keeps (h : Told l st turns id) (hl : l'.timeouts id = l.timeouts id)
    (hmore : timerTurns turns ≤ timerTurns turns')
    (hs : s.late = some id → timerTurns turns + 1 ≤ timerTurns turns') :
    Told l' (Function.update st i s) turns' id := by
  unfold Told
  rw [hl]
  refine ⟨Nat.le_trans h.1 hmore, fun j hj => ?_⟩
  by_cases hji : j = i
  · subst hji
    rw [Function.update_self] at hj
    exact Nat.le_trans (Nat.succ_le_succ h.1) (hs hj)
  · rw [Function.update_of_ne hji] at hj
    exact Nat.le_trans (h.2 j hj) hmore

end

theorem Timely.told_of (h : Timely flows f.books st log) (hk : Kept flows f p st)
    (hd : Doing flows f.books b' (st i) s commit) (id : String) :
    Told b'.ledger (Function.update st i s) (turnsOf (logged log commit) id) id := by
  cases hd with
  | rests hledger htimers hleft hlate => exact (h.told id).rests (by rw [hledger]) hlate
  | ends key now hledger htimers hbefore hleft hlate =>
    exact (h.told id).rests (by rw [hledger]; rfl) (Or.inl hlate)
  | sets c seconds hledger htimers hleft hlate =>
    exact (h.told id).rests (by rw [hledger]) (Or.inl hlate)
  | removes other hledger htimers hleft hlate =>
    exact (h.told id).rests (by rw [hledger]) (Or.inl hlate)
  | tells e hledger htimers hleft htold hlate =>
    have htimeouts := timeouts_append f.books.ledger e id
    rw [← hledger] at htimeouts
    by_cases he : e.conversation = id ∧ e.action = .timeout
    · rw [if_pos he] at htimeouts
      obtain ⟨rfl, htimeout⟩ := he
      obtain ⟨hmay, hnone⟩ := htold htimeout
      exact (h.told _).tells htimeouts hmay (fun j hj => hk.eq_of_late hj hmay) hnone
    · rw [if_neg he] at htimeouts
      exact (h.told id).rests htimeouts hlate
  | keeps c timed hledger htimers hbefore hlate =>
    have hturns := turnsOf_append log ⟨c, timed⟩ id
    unfold logged
    rw [hturns]
    refine (h.told id).keeps (by rw [hledger]; rfl) ?_ fun hs => ?_
    · split
      · rw [timerTurns_append]
        exact Nat.le_add_right ..
      · exact Nat.le_refl _
    · rw [hlate] at hs
      cases timed with
      | false => cases hs
      | true =>
        rw [if_pos (Option.some.inj hs), timerTurns_append]
        exact Nat.le_refl _

/-- What stays left to be cancelled is left to the same job. -/
theorem mem_left_update {id : String} {before : List String} (hbefore : (st i).left = before)
    (hs : id ∈ before → id ∈ s.left) (h : ∃ j, id ∈ (st j).left) :
    ∃ j, id ∈ (Function.update st i s j).left := by
  obtain ⟨j, hj⟩ := h
  refine ⟨j, ?_⟩
  by_cases hji : j = i
  · subst hji
    rw [Function.update_self]
    exact hs (hbefore ▸ hj)
  · rw [Function.update_of_ne hji]
    exact hj

/-- A pending timer is that of a conversation that waits for it, or it is about to be cancelled. -/
theorem Timely.pending_of (h : Timely flows b st log) (ht : b.ledger.IsTidy)
    (hd : Doing flows b b' (st i) s commit) (p : String × Wake)
    (hp : p ∈ (b'.timers ()).actions) : ∃ c, b'.ledger.find? p.1 = some c ∧
      (c.isActive = true → c.isParked = true ∧ p.2 = c.wake ∧ Desk.Paused flows c) ∧
      (c.isActive = false → ∃ j, p.1 ∈ (Function.update st i s j).left) := by
  cases hd with
  | rests hledger htimers hleft =>
    rw [htimers] at hp
    obtain ⟨c, hc, hactive, hover⟩ := h.pending p hp
    refine ⟨c, by rw [hledger, hc], hactive, fun ho => ?_⟩
    exact mem_left_update hleft.symm id (hover ho)
  | tells e hledger htimers hleft =>
    rw [htimers] at hp
    obtain ⟨c, hc, hactive, hover⟩ := h.pending p hp
    refine ⟨c, ?_, hactive, fun ho => mem_left_update hleft.symm id (hover ho)⟩
    rw [hledger]
    exact hc
  | keeps d timed hledger htimers hbefore hlate hpaused hprior hpending =>
    rw [htimers] at hp
    obtain ⟨c, hc, hactive, hover⟩ := h.pending p hp
    have hne : d.id ≠ p.1 := by
      intro he
      rw [he, Timers.ids_eq] at hpending
      exact hpending (List.mem_map_of_mem (f := (·.1)) hp)
    refine ⟨c, ?_, hactive, fun ho => mem_left_update hbefore nofun (hover ho)⟩
    rw [hledger, Ledger.find?_keep, if_neg hne, hc]
  | ends key now hledger htimers hbefore hleft =>
    rw [htimers] at hp
    obtain ⟨c, hc, hactive, hover⟩ := h.pending p hp
    refine ⟨Ledger.deactivated now key c, ?_, ?_⟩
    · rw [hledger, Ledger.find?_deactivate, hc]
      rfl
    rcases Ledger.deactivated_cases now key c with ⟨hholds, he⟩ | ⟨-, he⟩ <;> rw [he]
    · refine ⟨nofun, fun _ => ⟨i, ?_⟩⟩
      rw [Function.update_self, hleft]
      exact ht.mem_deactivate.2 ⟨c, hc, hholds⟩
    · exact ⟨hactive, fun ho => mem_left_update hbefore nofun (hover ho)⟩
  | sets c seconds hledger htimers hleft hlate hstored hparked hpaused =>
    rw [htimers, Timers.mem_actions_schedule, Timers.mem_actions_remove] at hp
    rw [hledger]
    rcases hp with ⟨hp, -⟩ | rfl
    · obtain ⟨d, hd, hactive, hover⟩ := h.pending p hp
      exact ⟨d, hd, hactive, fun ho => mem_left_update hleft.symm id (hover ho)⟩
    · refine ⟨c, hstored, fun _ => ⟨hparked, rfl, hpaused⟩, fun hover => ?_⟩
      simp [Conversation.isParked, hover] at hparked
  | removes id' hledger htimers hleft =>
    rw [htimers, Timers.mem_actions_remove] at hp
    obtain ⟨hp, hne⟩ := hp
    obtain ⟨c, hc, hactive, hover⟩ := h.pending p hp
    refine ⟨c, by rw [hledger, hc], hactive, fun ho => ?_⟩
    rcases hleft with hleft | hleft
    · exact mem_left_update hleft id (hover ho)
    · exact mem_left_update hleft (fun hmem => (List.mem_cons.1 hmem).resolve_left hne) (hover ho)

theorem Timely.doing (h : Timely flows f.books st log) (hk : Kept flows f p st)
    (htidy : f.books.ledger.IsTidy) (hd : Doing flows f.books b' (st i) s commit) :
    Timely flows b' (Function.update st i s) (logged log commit) where
  paused t ht := by
    cases hd with
    | keeps c timed hledger htimers hbefore hlate hpaused =>
      rcases List.mem_append.1 ht with ht | ht
      · exact h.paused t ht
      · rw [List.mem_singleton.1 ht]
        exact hpaused
    | _ => exact h.paused t ht
  current := h.current_of hd
  continued := h.continued_of hd
  told := h.told_of hk hd
  pending := h.pending_of htidy hd

/-- A run of events of the desk keeps to custody, and the timers are in time. -/
theorem timely_of_commits (hr : f.IsRegular) (hk : Kept flows f p st)
    (h : Timely flows f.books st log) (es : List (Event Unit)) (hes : ∀ e ∈ es, e.IsOwn) :
    ∃ q st', Kept flows (f.run es) q st' ∧
      Timely flows (f.run es).books st' (log ++ f.commits es) := by
  induction es generalizing f p st log with
  | nil => exact ⟨p, st, hk, by rwa [Floor.commits, List.append_nil]⟩
  | cons e es ih =>
    obtain ⟨i, q, s, hk', hd⟩ := hk.act hr (hes e List.mem_cons_self)
    have hstep := h.doing hk hr.tidy hd
    obtain ⟨q', st', hk'', h''⟩ := ih (hr.act e) hk' hstep fun e' he' =>
      hes e' (List.mem_cons_of_mem _ he')
    refine ⟨q', st', hk'', ?_⟩
    rwa [Floor.commits, ← logged_append]

/-! ## Timers that go off too late -/

namespace Desk

open Program

/-- What is asked by work that has nothing to do for a conversation. -/
def Ask.IsIdle (id : String) : Ask → Prop
  | .acquire _ | .release _ => True
  | .store (.conversation other) => other = id
  | _ => False

/-- What is shown of a conversation that is over. -/
def Ask.ShowsOver : (q : Ask) → q.Answer → Prop
  | .store (.conversation _), .ok (some c) => c.isActive = false
  | .store (.conversation _), .error _ => False
  | _, _ => True

/-- The protocol of work that looks at a conversation which is over, and does nothing. -/
def idling (id : String) : Protocol Access Unit where
  may _ q := q.IsIdle id
  hears := Ask.ShowsOver
  after _ _ _ := ()

/-- Work that has nothing to do, and comes to nothing. -/
def Idle (id : String) (work : Work Outcome) : Prop :=
  work.Keeps (idling id) () fun r _ => r = .ok (.woken none)

theorem continueHeld_idles (s : Settings) (w : Wake) :
    (continueHeld s w).Keeps (idling w.conversation) () fun r _ => r = .ok none := by
  unfold continueHeld
  refine keeps_bind.2 (keeps_store.2 ⟨rfl, fun r hr => ?_⟩)
  cases r with
  | error e => exact hr.elim
  | ok found =>
    have hnone : found.filter (isAwaited w) = none := by
      cases found with
      | none => rfl
      | some c =>
        have hover : c.isActive = false := hr
        simp [isAwaited, hover]
    refine either_ok.2 ?_
    rw [hnone]
    exact rfl

/-- Work that a timer begins has nothing to do where the conversation is over. -/
theorem Errand.wake_idles (s : Settings) (w : Wake) :
    Idle w.conversation ((Errand.wake w).work s) := by
  show (Desk.wake s w >>= _).Keeps _ _ _
  have hheld : (holding w.contact.key (continueHeld s w)).Keeps (idling w.conversation) ()
      fun r _ => r = .ok none :=
    keeps_holding ⟨trivial, fun _ => rfl⟩ (continueHeld_idles s w) fun _ _ _ =>
      ⟨trivial, fun _ => rfl⟩
  refine keeps_bind.2 (keeps_bind.2 (hheld.mono fun r _ hr => ?_))
  subst hr
  exact rfl

end Desk

section
variable {δ : Type} {f : Floor δ} {i : Nat} {id : String}

/-- A timer went off, and its job was not answered anything so far. -/
def Floor.JustWoken (f : Floor δ) (i : Nat) (w : Wake) : Prop :=
  ∃ job s, f.jobs i = some job ∧ job.work = (Errand.wake w).work s

/-- A job has nothing to do for a conversation that is over. -/
structure Idles (f : Floor δ) (i : Nat) (id : String) : Prop where
  idle : ∃ job, f.jobs i = some job ∧ Desk.Idle id job.work
  ended : ∃ c, f.books.ledger.find? id = some c ∧ c.isActive = false

variable [DecidableEq δ]

/-- The questions of work that has nothing to do change nothing on record. -/
theorem answer_idle {d : δ} {around : Around} {q : Ask} {r : q.Answer} (hq : q.IsIdle id)
    (hover : ∃ c, f.books.ledger.find? id = some c ∧ c.isActive = false)
    (hr : (f.answer i d around q).1 = some r) :
    (f.answer i d around q).2.books = f.books ∧ q.ShowsOver r := by
  cases q with
  | store q =>
    cases q with
    | conversation other =>
      obtain rfl : other = id := hq
      obtain ⟨c, hc, hover⟩ := hover
      have hr : some (Except.ok (f.books.ledger.find? other)) = some r := hr
      rw [hc] at hr
      cases hr
      exact ⟨rfl, hover⟩
    | _ => exact hq.elim
  | acquire key => exact ⟨rfl, trivial⟩
  | release key => exact ⟨rfl, trivial⟩
  | _ => exact hq.elim

/-- A job that has nothing to do changes nothing on record. -/
theorem Idles.go (h : Idles f i id) (around : Around) :
    (f.go i around).books = f.books ∧ Idles (f.go i around) i id := by
  obtain ⟨⟨job, hjob, hidle⟩, hover⟩ := h
  rcases f.go_cases i around with ⟨hjobs, hbooks⟩ | ⟨job', q, next, r, hjob', hwork, hr, hgo⟩
  · exact ⟨hbooks, ⟨job, by rw [hjobs, hjob], hidle⟩, by rw [hbooks]; exact hover⟩
  · obtain rfl : job = job' := Option.some.inj (hjob.symm.trans hjob')
    unfold Desk.Idle at hidle
    rw [hwork] at hidle
    obtain ⟨hq, hnext⟩ := hidle
    obtain ⟨hbooks, hshows⟩ := answer_idle hq hover hr
    have hbooks : (f.go i around).books = f.books := by
      rw [hgo]
      exact hbooks
    refine ⟨hbooks, ⟨{ job with work := next r, kept := job.kept ++ Floor.keptBy q r }, ?_,
      hnext r hshows⟩, by rw [hbooks]; exact hover⟩
    rw [hgo]
    exact Function.update_self ..

/-- A number that is taken is not taken again. -/
theorem Floor.jobs_of_taken {job : Job δ} (hjob : f.jobs i = some job) :
    (∀ d e, f.accept i d e = f) ∧ ∀ d id, f.fire i d id = f := by
  have htaken : (f.jobs i).isNone = false := by rw [hjob]; rfl
  refine ⟨fun d e => ?_, fun d id => ?_⟩
  · unfold accept
    rw [htaken]
    rfl
  · unfold fire
    split
    · rw [htaken]
      rfl
    · rfl

/-- Whatever happens, a job that has nothing to do has nothing to do until it is at its end. -/
theorem Idles.act (h : Idles f i id) (hr : f.IsRegular) {e : Event δ} (he : e ≠ .finish i) :
    Idles (f.act e) i id := by
  obtain ⟨c, hc, hover⟩ := h.ended
  have hstays : ∃ c, (f.act e).books.ledger.find? id = some c ∧ c.isActive = false := by
    obtain ⟨c', hc', rfl | ⟨hact, -⟩⟩ := hr.grows e id c hc
    · exact ⟨c', hc', hover⟩
    · rw [hover] at hact
      cases hact
  obtain ⟨job, hjob, hidle⟩ := h.idle
  by_cases hnumber : e.number? = some i
  · obtain ⟨haccept, hfire⟩ := Floor.jobs_of_taken hjob
    cases e with
    | begin j d e =>
      obtain rfl : j = i := Option.some.inj hnumber
      show Idles (f.accept j d e) j id
      rw [haccept]
      exact h
    | fire j d id' =>
      obtain rfl : j = i := Option.some.inj hnumber
      show Idles (f.fire j d id') j id
      rw [hfire]
      exact h
    | go j around =>
      obtain rfl : j = i := Option.some.inj hnumber
      exact (h.go around).2
    | finish j =>
      obtain rfl : j = i := Option.some.inj hnumber
      exact absurd rfl he
    | _ => cases hnumber
  · exact ⟨⟨job, (f.act_jobs hnumber).trans hjob, hidle⟩, hstays⟩

theorem Idles.run (h : Idles f i id) (hr : f.IsRegular) (es : List (Event δ))
    (hes : ∀ e ∈ es, e ≠ .finish i) : Idles (f.run es) i id := by
  induction es generalizing f with
  | nil => exact h
  | cons e es ih =>
    exact ih (h.act hr (hes e List.mem_cons_self)) (hr.act e) fun e' he' =>
      hes e' (List.mem_cons_of_mem _ he')

/-- The result of a job that has nothing to do is that nothing was done. -/
theorem Desk.Idle.result {work : Desk.Work Outcome} {r : Except Failure Outcome}
    (h : Desk.Idle id work) (hr : Floor.result? work = some r) : r = .ok (.woken none) := by
  cases work with
  | ask q next => cases hr
  | done a =>
    cases hr
    exact h
  | fail e =>
    cases hr
    exact h

/-- A job stays as it is while it is not asked to go on. -/
theorem Floor.JustWoken.run {w : Wake} (h : f.JustWoken i w) {es : List (Event δ)}
    (hes : ∀ e ∈ es, e.number? ≠ some i) : (f.run es).JustWoken i w := by
  obtain ⟨job, s, hjob, hwork⟩ := h
  exact ⟨job, s, (f.run_jobs es hes).trans hjob, hwork⟩

/-- A timer that goes off has just woken its job. -/
theorem Floor.justWoken_fire {d : δ} {w : Wake}
    (hw : Dictionary.find? (f.books.timers d).actions id = some w) (hfree : f.jobs i = none) :
    (f.fire i d id).JustWoken i w := by
  unfold fire
  rw [hw]
  show JustWoken (if (f.jobs i).isNone then _ else _) i w
  rw [hfree]
  exact ⟨_, _, Function.update_self .., rfl⟩

end

/-- However the operations of one desk and its timers take turns: a conversation is kept to wait for
a timer only at a pause; every turn that a timer has begun comes right behind a turn that has left
its conversation so, and the history tells of no more timers than there are such turns; a timer that
goes off for a conversation that is over changes nothing, whatever happens before its job is at its
end; and when no job is left, every pending timer is that of an active conversation which waits for
it at a pause. -/
theorem Floor.timely_of_run (settings : Unit → Desk.Settings) (flows : Dictionary Flow)
    (es : List (Event Unit)) (hes : ∀ e ∈ es, e.IsOwn) :
    let f := (opening settings flows).run es
    let log := (opening settings flows).commits es
    (∀ t ∈ log, Desk.Paused flows t.conversation) ∧
    (∀ id, Continued (turnsOf log id) ∧
      f.books.ledger.timeouts id ≤ timerTurns (turnsOf log id) ∧
      timerTurns (turnsOf log id) ≤ pauses (turnsOf log id)) ∧
    (∀ i w c later, f.JustWoken i w → f.books.ledger.find? w.conversation = some c →
      c.isActive = false → (∀ e ∈ later, e ≠ .finish i) →
      (∀ around, ((f.run later).go i around).books = (f.run later).books) ∧
      ∃ job, (f.run later).jobs i = some job ∧
        ∀ r, result? job.work = some r → r = .ok (.woken none)) ∧
    ((∀ i, f.jobs i = none) → ∀ p ∈ (f.books.timers ()).actions, ∃ c g,
      f.books.ledger.find? p.1 = some c ∧ c.isActive = true ∧ c.awaitsInput = false ∧
      p.2 = c.wake ∧ Dictionary.find? flows c.flowId = some g ∧ g.PausesAt c.node) := by
  have hopening : (opening settings flows).IsRegular := isRegular_opening settings flows
  obtain ⟨q, st, hk, h⟩ := timely_of_commits hopening (kept_opening settings flows)
    (timely_opening settings flows) es hes
  refine ⟨h.paused, fun id => ?_, fun i w c later hwoken hc hover hlater => ?_,
    fun hquiet p hp => ?_⟩
  · exact ⟨h.continued id, (h.told id).1, (h.continued id).timerTurns_le.1⟩
  · obtain ⟨job, s, hjob, hwork⟩ := hwoken
    have hidle : Desk.Idle w.conversation job.work := by
      rw [hwork]
      exact Errand.wake_idles s w
    have hidles : Idles ((opening settings flows).run es) i w.conversation :=
      ⟨⟨job, hjob, hidle⟩, c, hc, hover⟩
    have hlast := hidles.run (hopening.run es) later hlater
    obtain ⟨job', hjob', hidle'⟩ := hlast.idle
    exact ⟨fun around => (hlast.go around).1, job', hjob', fun r hr => hidle'.result hr⟩
  · obtain ⟨c, hc, hactive, hover⟩ := h.pending p hp
    -- Nobody is left who would have to cancel a timer.
    have hact : c.isActive = true := by
      by_contra hno
      obtain ⟨i, hi⟩ := hover (by simpa using hno)
      rw [hk.idle i (hquiet i)] at hi
      cases hi
    obtain ⟨hparked, hwake, hpaused⟩ := hactive hact
    obtain ⟨g, hg, hpauses⟩ := hpaused hparked
    have hwait : c.awaitsInput = false := by simpa [Conversation.isParked, hact] using hparked
    exact ⟨c, g, hc, hact, hwait, hwake, hg, hpauses⟩

/-- The timer of the visitor's conversation goes off, and its turn comes to its end. -/
def pausePassed : List (Event Unit) :=
  startPausing ++ ([.fire 1 () "talk"] ++ List.replicate 20 (.go 1 (quietly none)) ++ [.finish 1])

/-- The visitor cancels the conversation. -/
def cancelling : List (Event Unit) :=
  [.begin 2 () (.cancel visitor)] ++ List.replicate 6 (.go 2 (quietly none)) ++ [.finish 2]

/-- The timer goes off, and the conversation is cancelled before its turn has begun. -/
def cancelledInTime : List (Event Unit) := startPausing ++ .fire 1 () "talk" :: cancelling

/-- What the timer of the visitor's conversation stands for. -/
def talkWake : Wake where
  contact := visitor
  conversation := "talk"
  flow := "pausing"
  node := "pause"

theorem actions_startPausing :
    (((pausingFloor Unit (.ofInt 5)).run startPausing).books.timers ()).actions =
      [("talk", talkWake)] := by
  unfold startPausing
  rw [Floor.run_append, pausingFloor_run]
  decide +kernel

theorem quiet_startPausing (i : Nat) :
    ((pausingFloor Unit (.ofInt 5)).run startPausing).jobs i = none := by
  by_cases hi : i = 0
  · have h : (((pausingFloor Unit (.ofInt 5)).run startPausing).jobs 0).isNone = true := by
      unfold startPausing
      rw [Floor.run_append, pausingFloor_run]
      decide +kernel
    simpa [hi] using h
  · refine Floor.run_jobs _ startPausing fun e he hnumber => ?_
    have h : ∀ e ∈ startPausing, ∀ j ∈ e.number?, j = 0 := by decide
    exact hi (h e he i hnumber)

/-- The timer has just woken its job when the visitor has cancelled. -/
theorem justWoken_cancelling {f : Floor Unit}
    (hactions : (f.books.timers ()).actions = [("talk", talkWake)]) (hfree : f.jobs 1 = none) :
    (f.run (.fire 1 () "talk" :: cancelling)).JustWoken 1 talkWake := by
  have hfired : (f.fire 1 () "talk").JustWoken 1 talkWake :=
    Floor.justWoken_fire (by rw [hactions]; rfl) hfree
  rw [Floor.run_cons]
  exact hfired.run (by decide)

/-- The pause is passed once, a timer that goes off too late changes nothing, and the timer that is
pending in between is that of the conversation. -/
theorem Floor.timely_pausing :
    ((pausingFloor Unit (.ofInt 5)).run pausePassed).books.ledger.timeouts "talk" = 1 ∧
    1 ≤ pauses (turnsOf ((pausingFloor Unit (.ofInt 5)).commits pausePassed) "talk") ∧
    (∀ around, (((pausingFloor Unit (.ofInt 5)).run cancelledInTime).go 1 around).books =
      ((pausingFloor Unit (.ofInt 5)).run cancelledInTime).books) ∧
    ∃ c g, ((pausingFloor Unit (.ofInt 5)).run startPausing).books.ledger.find? "talk" = some c ∧
      c.isActive = true ∧ c.awaitsInput = false ∧ talkWake = c.wake ∧
      Dictionary.find? [("pausing", pausing (.ofInt 5))] c.flowId = some g ∧ g.PausesAt c.node := by
  have own : ∀ es : List (Event Unit), (∀ e ∈ es, e.number?.isSome = true) → ∀ e ∈ es, e.IsOwn := by
    intro es h e he
    have hnumber := h e he
    cases e with
    | begin | fire | go | finish => trivial
    | _ => cases hnumber
  have hpassed : ((pausingFloor Unit (.ofInt 5)).run pausePassed).books.ledger.timeouts "talk" =
      1 := by
    unfold pausePassed startPausing
    rw [List.append_assoc, run_append, pausingFloor_run]
    decide +kernel
  have hcancelled : (((pausingFloor Unit (.ofInt 5)).run cancelledInTime).books.ledger.find?
      talkWake.conversation).map (·.isActive) = some false := by
    unfold cancelledInTime cancelling startPausing
    rw [List.append_assoc, run_append, pausingFloor_run]
    decide +kernel
  obtain ⟨c, hc, hover⟩ := Option.map_eq_some_iff.1 hcancelled
  have hwoken : ((pausingFloor Unit (.ofInt 5)).run cancelledInTime).JustWoken 1 talkWake := by
    unfold cancelledInTime
    rw [run_append]
    exact justWoken_cancelling actions_startPausing (quiet_startPausing 1)
  have htimers := actions_startPausing
  have hquiet := quiet_startPausing
  unfold pausingFloor at *
  obtain ⟨-, hturns, -⟩ := timely_of_run (fun _ => {}) _ pausePassed (own _ (by decide))
  obtain ⟨-, -, hlate, -⟩ := timely_of_run (fun _ => {}) _ cancelledInTime (own _ (by decide))
  obtain ⟨-, -, -, hpending⟩ := timely_of_run (fun _ => {}) _ startPausing (own _ (by decide))
  obtain ⟨-, htold, hle⟩ := hturns "talk"
  rw [hpassed] at htold
  refine ⟨hpassed, Nat.le_trans htold hle, ?_, ?_⟩
  · exact (hlate 1 talkWake c [] hwoken hc hover fun e he => by cases he).1
  · refine hpending hquiet ("talk", talkWake) ?_
    rw [htimers]
    exact List.mem_singleton_self _

end Parley
