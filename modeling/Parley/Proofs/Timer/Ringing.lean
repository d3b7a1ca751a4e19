import Parley.Proofs.Timer.Settings

/-!
# When timers go off

Around the timers anybody may set them, cancel them, ask for them and stop them, timers whose time
has come are woken, the next one that can go off does, and when nothing is left to do time passes,
by as much as it likes (`Chimes.Move`). Every move keeps the timers in step with the log
(`truthful_act`), whatever the programs ask that run when timers go off, and whether they fail.

A timer that is due gets nearer to going off with every wake or turn (`progress`): it stands behind
fewer others in the queue, or behind fewer sleepers that are due.

`rings_of_run`: a timer goes off at most once, and only while its setting stands and not before its
time; when nothing is left to do no timer is left that is due, and wakes and turns get there. A
cancellation tells whether there was one to cancel. No two timers of one id are pending. What a
failing program did before it failed is all it does.
-/

namespace Parley

open Number Rehearsal

variable {α : Type}

namespace Chimes

variable (script : α → Program (Chimes α) Unit)

/-- What is asked is done, and noted. -/
def answer : (q : Ask α) → Ringing α → (Chimes α).Reply q × Ringing α
  | .schedule id seconds action, w =>
    ((), { w with
      timers := w.timers.schedule id seconds (w.world.length, action)
      world := w.world ++ [.set id seconds action w.elapsed] })
  | .cancel id, w =>
    ((w.timers.cancel id).1, { w with
      timers := (w.timers.cancel id).2
      world := w.world ++ [.cancelled id (w.timers.cancel id).1] })
  | .pending id, w => (w.timers.isPending id, w)
  | .shutdown, w => ((), { w with timers := {}, world := w.world ++ [.stopped] })

/-- A timer goes off: its program runs, to its end or until it fails. -/
def ring (action : Nat × α) (w : Ringing α) : Ringing α :=
  ((script action.2).run answer
    { w with world := w.world ++ [.rang action.1 action.2 w.elapsed] }).2

/-- Whether nothing is left to do before some time passes. -/
def isSettled (w : Ringing α) : Bool :=
  w.timers.queue.isEmpty && (w.timers.firstDue w.elapsed).isNone

/-- What happens around timers. -/
inductive Move (α : Type) where
  /-- Somebody asks something of them. -/
  | ask (q : Ask α)
  /-- The sleeper that is due first is woken, if one is due. -/
  | wake
  /-- The next timer goes off, if one can. -/
  | turn
  /-- Time passes, once nothing is left to do. -/
  | pass (time : Binary64)

/-- The timers after a move. -/
def Move.act (w : Ringing α) : Move α → Ringing α
  | .ask q => (answer q w).2
  | .wake => match w.timers.firstDue w.elapsed with
    | some sleeper => { w with timers := w.timers.wake sleeper }
    | none => w
  | .turn => Timed.settleWith (ring script) 1 w
  | .pass time => if isSettled w && w.elapsed.le time then { w with elapsed := time } else w

/-- The timers after moves, at first none. -/
def run (moves : List (Move α)) : Ringing α := moves.foldl (Move.act script) { world := [] }

/-- The state is in order: the log is, and the timers are those of the settings that stand. -/
structure Truthful (w : Ringing α) : Prop where
  proper : Proper w.world
  faithful : Faithful w.timers w.elapsed w.world

variable {script} {w : Ringing α}

theorem truthful_answer (h : Truthful w) (q : Ask α) : Truthful (answer q w).2 := by
  obtain ⟨hproper, hfaithful⟩ := h
  cases q with
  | schedule id seconds action =>
    exact ⟨hproper.append trivial, hfaithful.schedule id seconds action⟩
  | cancel id =>
    have hfound : (w.timers.cancel id).1 = true ↔ ∃ t, Stands w.world t ∧ t.id = id := by
      rw [← hfaithful.mem_ids_iff id]
      exact List.contains_iff_mem
    refine ⟨hproper.append hfound, hfaithful.remove ?_ (by intros; simp)⟩
    intro t _
    constructor
    · rintro (hw | hn)
      · exact hw.symm
      · cases hn
    · exact fun hid => .inl hid.symm
  | pending id => exact ⟨hproper, hfaithful⟩
  | shutdown =>
    refine ⟨hproper.append trivial, .empty ?_⟩
    intro t ht
    exact (ht.before (by intros; simp)).2 (.inl trivial)

/-- Whatever a program asks, and whether it fails. -/
theorem truthful_program (p : Program (Chimes α) Unit) :
    ∀ w, Truthful w → Truthful (p.run answer w).2 := by
  induction p with
  | done => exact fun _ h => h
  | fail => exact fun _ h => h
  | ask q next ih => exact fun w h => ih _ _ (truthful_answer h q)

theorem truthful_act (h : Truthful w) (move : Move α) : Truthful (move.act script w) := by
  cases move with
  | ask q => exact truthful_answer h q
  | wake =>
    unfold Move.act
    cases hdue : w.timers.firstDue w.elapsed with
    | none => exact h
    | some sleeper =>
      obtain ⟨hmem, hdue⟩ := Faithful.firstDue_mem hdue
      exact ⟨h.proper, h.faithful.wake hmem hdue⟩
  | turn =>
    have hnext := h.faithful.next
    unfold Move.act Timed.settleWith
    cases hrung : w.timers.next w.elapsed with
    | mk rung timers =>
      rw [hrung] at hnext
      cases rung with
      | none => exact ⟨h.proper, hnext.2⟩
      | some q => exact truthful_program _ _ ⟨h.proper.append hnext.1, hnext.2⟩
  | pass time =>
    simp only [Move.act]
    split
    · next hpass =>
      obtain ⟨hsettled, -⟩ := Bool.and_eq_true_iff.1 hpass
      obtain ⟨hqueue, -⟩ := Bool.and_eq_true_iff.1 hsettled
      have hqueue : w.timers.queue = [] := List.isEmpty_iff.1 hqueue
      refine ⟨h.proper, h.faithful.nodup, ?_, h.faithful.asleep, h.faithful.pending⟩
      intro q hq
      rw [hqueue] at hq
      cases hq
    · exact h

theorem truthful_run (script : α → Program (Chimes α) Unit) (moves : List (Move α)) :
    Truthful (run script moves) := by
  unfold run
  suffices ∀ w, Truthful w → Truthful (moves.foldl (Move.act script) w) from
    this _ ⟨proper_nil, .empty fun t ht => Nat.not_lt_zero _ ht.lt_length⟩
  induction moves with
  | nil => exact fun _ h => h
  | cons move moves ih => exact fun w h => ih _ (truthful_act h move)

/-- Where nothing is left to do, what stands is not due yet. -/
theorem Truthful.not_isDue (h : Truthful w) (hw : isSettled w = true) {t : Setting α}
    (ht : Stands w.world t) : ¬ t.IsDue w.elapsed := by
  obtain ⟨hqueue, hdue⟩ := Bool.and_eq_true_iff.1 hw
  have hqueue : w.timers.queue = [] := List.isEmpty_iff.1 hqueue
  have hmem := h.faithful.pending t ht
  rw [Timers.ids, hqueue, List.map_nil, List.nil_append] at hmem
  obtain ⟨s, hs, hid⟩ := List.mem_map.1 hmem
  obtain ⟨u, hu, hus⟩ := h.faithful.asleep s hs
  obtain rfl := hu.eq_of_id ht (hus.id.symm.trans hid)
  intro htime
  have hle : s.due.le w.elapsed = true := by
    simpa [Setting.IsDue, hus.positive, ← hus.due] using htime
  have hnone : w.timers.asleep.filter (·.due.le w.elapsed) = [] := by
    unfold Timers.firstDue at hdue
    split at hdue
    · assumption
    · cases hdue
  exact List.filter_eq_nil_iff.1 hnone s hs hle

/-! ## Nearer to going off -/

/-- Where the timer of a setting is: in the queue behind some others, its time come (0) or not yet
asleep (2), or asleep among some that are due (1). -/
inductive Stage (ts : Timers (Nat × α)) (now : Binary64) (t : Setting α) : Nat → Nat → Prop where
  | come (ahead : List (QueuedTimer (Nat × α))) (q : QueuedTimer (Nat × α)) (behind)
      (queue : ts.queue = ahead ++ q :: behind) (id : q.id = t.id) (number : q.action.1 = t.number)
      (time : q.seconds = none) : Stage ts now t 0 ahead.length
  | asleep (s : SleepingTimer (Nat × α)) (mem : s ∈ ts.asleep) (id : s.id = t.id)
      (number : s.action.1 = t.number) :
      Stage ts now t 1 (ts.asleep.filter (·.due.le now)).length
  | set (ahead : List (QueuedTimer (Nat × α))) (q : QueuedTimer (Nat × α)) (behind)
      (queue : ts.queue = ahead ++ q :: behind) (id : q.id = t.id) (number : q.action.1 = t.number) :
      Stage ts now t 2 ahead.length

/-- A setting that stands is somewhere. -/
theorem exists_stage (h : Truthful w) {t : Setting α} (ht : Stands w.world t) :
    ∃ i k, Stage w.timers w.elapsed t i k := by
  rcases List.mem_append.1 (h.faithful.pending t ht) with hmem | hmem
  · obtain ⟨q, hq, hid⟩ := List.mem_map.1 hmem
    obtain ⟨u, hu, huq⟩ := h.faithful.queued q hq
    obtain rfl := hu.eq_of_id ht (huq.id.symm.trans hid)
    obtain ⟨ahead, behind, hqueue⟩ := List.append_of_mem hq
    exact ⟨2, _, .set ahead q behind hqueue hid (congrArg Prod.fst huq.action)⟩
  · obtain ⟨s, hs, hid⟩ := List.mem_map.1 hmem
    obtain ⟨u, hu, hus⟩ := h.faithful.asleep s hs
    obtain rfl := hu.eq_of_id ht (hus.id.symm.trans hid)
    exact ⟨1, _, .asleep s hs hid (congrArg Prod.fst hus.action)⟩

/-- Nearer to going off. -/
def Nearer (ts : Timers (Nat × α)) (now : Binary64) (t : Setting α) (i k : Nat) : Prop :=
  ∃ j m, Stage ts now t j m ∧ (j < i ∨ j = i ∧ m < k)

theorem Nearer.mono {ts : Timers (Nat × α)} {now : Binary64} {t : Setting α} {i k i' k' : Nat}
    (h : Nearer ts now t i k) (hle : i < i' ∨ i = i' ∧ k ≤ k') : Nearer ts now t i' k' := by
  obtain ⟨j, m, hstage, hlt⟩ := h
  exact ⟨j, m, hstage, by omega⟩

theorem mem_asleep_goThrough {now : Binary64} {s : SleepingTimer (Nat × α)}
    (queue : List (QueuedTimer (Nat × α))) :
    ∀ asleep later, s ∈ asleep → s ∈ (Timers.goThrough now asleep later queue).2.asleep := by
  induction queue with
  | nil =>
    intro asleep later hs
    cases later <;> exact hs
  | cons q queue ih =>
    intro asleep later hs
    unfold Timers.goThrough
    cases q.seconds with
    | none => exact hs
    | some seconds =>
      dsimp only
      split
      · exact ih _ _ hs
      · exact ih _ _ (List.mem_append_left _ hs)

/-- The first of a queue is the timer looked for, or without it one fewer is ahead. -/
theorem Stage.head {q : QueuedTimer (Nat × α)} {rest : List (QueuedTimer (Nat × α))}
    {asleep : List (SleepingTimer (Nat × α))} {now : Binary64} {t : Setting α} {i k : Nat}
    (h : Stage { queue := q :: rest, asleep } now t i k) (hi : i ≠ 1) :
    (q.action.1 = t.number ∧ q.id = t.id ∧ (q.seconds = none ∨ i = 2)) ∨
      ∃ m, k = m + 1 ∧ ∀ asleep' behind,
        Stage { queue := rest ++ behind, asleep := asleep' } now t i m := by
  cases h with
  | come ahead r behind hqueue hid hnumber htime =>
    cases ahead with
    | nil =>
      cases hqueue
      exact .inl ⟨hnumber, hid, .inl htime⟩
    | cons first ahead =>
      cases hqueue
      exact .inr ⟨_, rfl, fun _ more => .come ahead r (behind ++ more) (by simp) hid hnumber htime⟩
  | asleep => exact absurd rfl hi
  | set ahead r behind hqueue hid hnumber =>
    cases ahead with
    | nil =>
      cases hqueue
      exact .inl ⟨hnumber, hid, .inr rfl⟩
    | cons first ahead =>
      cases hqueue
      exact .inr ⟨_, rfl, fun _ more => .set ahead r (behind ++ more) (by simp) hid hnumber⟩

/-- Going through the queue takes the timer out of it or nearer to its turn. -/
theorem goThrough_nearer {now : Binary64} {t : Setting α} (queue : List (QueuedTimer (Nat × α))) :
    ∀ asleep later i k, i ≠ 1 → Stage { queue := queue ++ later, asleep } now t i k →
      (∀ q ∈ later, q.seconds = none) →
      (∃ q, (Timers.goThrough now asleep later queue).1 = some q ∧ q.action.1 = t.number) ∨
        Nearer (Timers.goThrough now asleep later queue).2 now t i k := by
  induction queue with
  | nil =>
    intro asleep later i k hi hstage _
    cases later with
    | nil =>
      cases hstage with
      | come ahead r behind hqueue => simp at hqueue
      | asleep => exact absurd rfl hi
      | set ahead r behind hqueue => simp at hqueue
    | cons first rest =>
      rcases hstage.head hi with ⟨hnumber, -⟩ | ⟨m, rfl, hrest⟩
      · exact .inl ⟨first, rfl, hnumber⟩
      · have hrest := hrest asleep []
        rw [List.append_nil] at hrest
        exact .inr ⟨i, m, hrest, by omega⟩
  | cons q queue ih =>
    intro asleep later i k hi hstage hlater
    unfold Timers.goThrough
    have hmore : ∀ r ∈ later ++ [{ q with seconds := none }], r.seconds = none := by
      intro r hr
      rcases List.mem_append.1 hr with hr | hr
      · exact hlater r hr
      · rw [List.mem_singleton.1 hr]
    rcases hstage.head hi with ⟨hnumber, hid, htime⟩ | ⟨m, rfl, hrest⟩
    · cases hseconds : q.seconds with
      | none => exact .inl ⟨q, rfl, hnumber⟩
      | some seconds =>
        obtain rfl : i = 2 := htime.resolve_left (by simp [hseconds])
        dsimp only
        split
        · have hcome := ih asleep (later ++ [{ q with seconds := none }]) 0 _ (by omega)
            (.come (queue ++ later) { q with seconds := none } [] (by simp) hid hnumber rfl) hmore
          exact hcome.imp_right fun h => h.mono (.inl (by omega))
        · refine .inr ⟨1, _, .asleep _ (mem_asleep_goThrough queue _ _
            (List.mem_append_right _ (List.mem_singleton.2 rfl))) hid hnumber, .inl (by omega)⟩
    · cases q.seconds with
      | none =>
        have hrest := hrest asleep []
        rw [List.append_nil] at hrest
        exact .inr ⟨i, m, hrest, by omega⟩
      | some seconds =>
        dsimp only
        split
        · have hrest := hrest asleep [{ q with seconds := none }]
          rw [List.append_eq, List.append_assoc] at hrest
          exact (ih asleep _ i m hi hrest hmore).imp_right fun h => h.mono (.inr ⟨rfl, by omega⟩)
        · have hrest := hrest (asleep ++ [⟨q.id, now.add seconds, q.action⟩]) []
          rw [List.append_nil] at hrest
          exact (ih _ later i m hi hrest hlater).imp_right fun h => h.mono (.inr ⟨rfl, by omega⟩)

/-- The timers of some ids are gone and others have come behind, but those of an id are as they
were. -/
def Kept (ts us : Timers (Nat × α)) (id : String) : Prop :=
  ∃ (keep : String → Bool) (more : List (QueuedTimer (Nat × α))), keep id = true ∧
    us.queue = ts.queue.filter (fun q => keep q.id) ++ more ∧
    us.asleep = ts.asleep.filter fun s => keep s.id

theorem Kept.refl (ts : Timers (Nat × α)) (id : String) : Kept ts ts id :=
  ⟨fun _ => true, [], rfl, by simp, by simp⟩

theorem Kept.trans {ts us vs : Timers (Nat × α)} {id : String} (h : Kept ts us id)
    (h' : Kept us vs id) : Kept ts vs id := by
  obtain ⟨keep, more, hid, hqueue, hasleep⟩ := h
  obtain ⟨keep', more', hid', hqueue', hasleep'⟩ := h'
  refine ⟨fun i => keep' i && keep i, more.filter (fun q => keep' q.id) ++ more', by simp [*],
    ?_, ?_⟩
  · rw [hqueue', hqueue, List.filter_append, List.filter_filter, List.append_assoc]
  · rw [hasleep', hasleep, List.filter_filter]

/-- What keeps a timer does not put it further off. -/
theorem Kept.stage {ts us : Timers (Nat × α)} {now : Binary64} {t : Setting α} {i k : Nat}
    (h : Kept ts us t.id) (hstage : Stage ts now t i k) : ∃ m ≤ k, Stage us now t i m := by
  obtain ⟨keep, more, hkeep, hqueue, hasleep⟩ := h
  cases hstage with
  | come ahead q behind hq hid hnumber htime =>
    refine ⟨_, List.length_filter_le _ _, .come (ahead.filter fun q => keep q.id) q
      (behind.filter (fun q => keep q.id) ++ more) ?_ hid hnumber htime⟩
    rw [hqueue, hq, List.filter_append, List.filter_cons_of_pos (by rw [hid]; exact hkeep)]
    simp
  | asleep s hs hid hnumber =>
    refine ⟨_, ?_, .asleep s ?_ hid hnumber⟩
    · rw [hasleep, List.filter_filter]
      simp only [Bool.and_comm]
      rw [← List.filter_filter]
      exact List.length_filter_le _ _
    · rw [hasleep, List.mem_filter]
      exact ⟨hs, by rw [hid]; exact hkeep⟩
  | set ahead q behind hq hid hnumber =>
    refine ⟨_, List.length_filter_le _ _, .set (ahead.filter fun q => keep q.id) q
      (behind.filter (fun q => keep q.id) ++ more) ?_ hid hnumber⟩
    rw [hqueue, hq, List.filter_append, List.filter_cons_of_pos (by rw [hid]; exact hkeep)]
    simp

/-- Whoever still stands after an answer stood before it, and its timer was kept. -/
theorem kept_answer {t : Setting α} (hlt : t.number < w.world.length) (q : Ask α)
    (ht : Stands (answer q w).2.world t) :
    Stands w.world t ∧ Kept w.timers (answer q w).2.timers t.id := by
  have hstood : ∀ {e : Entry α}, Stands (w.world ++ [e]) t → Stands w.world t ∧ ¬ e.Ends t :=
    fun h => (Stands.append_iff.1 h).resolve_right fun hnew => by omega
  have hremove : ∀ {id : String}, ¬ id = t.id →
      ∀ more, Kept w.timers ⟨(w.timers.remove id).queue ++ more, (w.timers.remove id).asleep⟩ t.id :=
    fun hid more => ⟨fun i => i != _, more, bne_iff_ne.2 (Ne.symm hid), rfl, rfl⟩
  cases q with
  | schedule id seconds action =>
    obtain ⟨hbefore, hends⟩ := hstood ht
    exact ⟨hbefore, hremove (fun hid => hends (.inl hid)) _⟩
  | cancel id =>
    obtain ⟨hbefore, hends⟩ := hstood ht
    have hkept := hremove (fun hid => hends (.inl hid)) []
    rw [List.append_nil] at hkept
    exact ⟨hbefore, hkept⟩
  | pending id => exact ⟨ht, .refl _ _⟩
  | shutdown => exact absurd (.inl trivial) (hstood ht).2

theorem answer_grows (q : Ask α) (w : Ringing α) :
    w.world.length ≤ (answer q w).2.world.length ∧ (answer q w).2.elapsed = w.elapsed := by
  cases q <;> simp [answer]

/-- A program keeps the timers of the settings that it leaves standing. -/
theorem kept_program {t : Setting α} (p : Program (Chimes α) Unit) :
    ∀ w : Ringing α, t.number < w.world.length → Stands (p.run answer w).2.world t →
      Stands w.world t ∧ Kept w.timers (p.run answer w).2.timers t.id := by
  induction p with
  | done => exact fun w _ ht => ⟨ht, .refl _ _⟩
  | fail => exact fun w _ ht => ⟨ht, .refl _ _⟩
  | ask q next ih =>
    intro w hlt ht
    have hlt' : t.number < (answer q w).2.world.length := Nat.lt_of_lt_of_le hlt (answer_grows q w).1
    obtain ⟨hmid, hrest⟩ := ih _ _ hlt' ht
    obtain ⟨hbefore, hfirst⟩ := kept_answer hlt q hmid
    exact ⟨hbefore, hfirst.trans hrest⟩

theorem elapsed_program (p : Program (Chimes α) Unit) :
    ∀ w : Ringing α, (p.run answer w).2.elapsed = w.elapsed := by
  induction p with
  | done => exact fun _ => rfl
  | fail => exact fun _ => rfl
  | ask q next ih => exact fun w => (ih _ _).trans (answer_grows q w).2

/-- A wake or a turn: the loop goes on while no time passes. -/
def Move.IsOwn (move : Move α) : Prop := move = .wake ∨ move = .turn

theorem elapsed_own {move : Move α} (h : move.IsOwn) : (move.act script w).elapsed = w.elapsed := by
  rcases h with rfl | rfl
  · simp only [Move.act]
    split <;> rfl
  · simp only [Move.act, Timed.settleWith]
    split
    · rfl
    · exact elapsed_program _ _

/-- A turn brings a timer in the queue nearer to going off. -/
theorem turn_nearer {t : Setting α} {i k : Nat} (hlt : t.number < w.world.length)
    (hstage : Stage w.timers w.elapsed t i k) (hi : i ≠ 1)
    (ht : Stands (Move.turn.act script w).world t) :
    Nearer (Move.turn.act script w).timers w.elapsed t i k := by
  have hnext := goThrough_nearer w.timers.queue w.timers.asleep [] i k hi (by simpa using hstage)
    (by intro q hq; cases hq)
  revert ht
  simp only [Move.act, Timed.settleWith, Timers.next]
  cases hrung : Timers.goThrough w.elapsed w.timers.asleep [] w.timers.queue with
  | mk rung timers =>
    rw [hrung] at hnext
    cases rung with
    | none =>
      intro _
      rcases hnext with ⟨q, hq, -⟩ | hnearer
      · cases hq
      · exact hnearer
    | some q =>
      intro ht
      have hlt' : t.number <
          (w.world ++ [Entry.rang q.action.1 q.action.2 w.elapsed]).length := by
        rw [List.length_append]
        omega
      obtain ⟨hbefore, hkept⟩ := kept_program _ _ hlt' ht
      rcases hnext with ⟨r, hr, hnumber⟩ | ⟨j, m, hstage, hless⟩
      · -- it has gone off
        cases hr
        have hends := (hbefore.before (by intros; simp)).2
        exact absurd (.inr (congrArg some hnumber)) hends
      · obtain ⟨m', hle, hstage⟩ := hkept.stage hstage
        exact ⟨j, m', hstage, by omega⟩

/-- A wake brings a sleeper that is due nearer to going off. -/
theorem wake_nearer {t : Setting α} {k : Nat} (h : Truthful w) (ht : Stands w.world t)
    (hdue : t.IsDue w.elapsed) (hstage : Stage w.timers w.elapsed t 1 k) :
    Nearer (Move.wake.act script w).timers w.elapsed t 1 k := by
  cases hstage with
  | asleep s hs hid hnumber =>
    obtain ⟨u, hu, hus⟩ := h.faithful.asleep s hs
    obtain rfl := hu.eq_of_id ht (hus.id.symm.trans hid)
    have hle : s.due.le w.elapsed = true := by
      simpa [Setting.IsDue, hus.positive, ← hus.due] using hdue
    simp only [Move.act]
    cases hfirst : w.timers.firstDue w.elapsed with
    | none =>
      have hnone : w.timers.asleep.filter (·.due.le w.elapsed) = [] := by
        unfold Timers.firstDue at hfirst
        split at hfirst
        · assumption
        · cases hfirst
      exact absurd hle (List.filter_eq_nil_iff.1 hnone s hs)
    | some first =>
      obtain ⟨hmem, hfirstDue⟩ := Faithful.firstDue_mem hfirst
      by_cases hsame : first.id = u.id
      · obtain ⟨v, hv, hvs⟩ := h.faithful.asleep first hmem
        obtain rfl := hv.eq_of_id hu (hvs.id.symm.trans hsame)
        exact ⟨0, _, .come (w.timers.remove first.id).queue _ [] rfl hsame
          (congrArg Prod.fst hvs.action) rfl, .inl (by omega)⟩
      · refine ⟨1, _, .asleep s ?_ hid hnumber, .inr ⟨rfl, ?_⟩⟩
        · refine List.mem_filter.2 ⟨hs, bne_iff_ne.2 ?_⟩
          rw [hid]
          exact Ne.symm hsame
        · simp only [Timers.wake, Timers.remove]
          rw [List.filter_filter]
          simp only [Bool.and_comm]
          rw [← List.filter_filter]
          refine List.length_filter_lt_length_iff_exists.2 ⟨first, ?_, by simp⟩
          exact List.mem_filter.2 ⟨hmem, hfirstDue⟩

/-- A wake or a turn brings a timer that is due nearer to going off. -/
theorem progress (script : α → Program (Chimes α) Unit) {t : Setting α} {i k : Nat}
    (h : Truthful w) (ht : Stands w.world t) (hdue : t.IsDue w.elapsed)
    (hstage : Stage w.timers w.elapsed t i k) :
    ∃ move : Move α, move.IsOwn ∧ (Stands (move.act script w).world t →
      Nearer (move.act script w).timers (move.act script w).elapsed t i k) := by
  by_cases hi : i = 1
  · subst hi
    refine ⟨.wake, .inl rfl, fun _ => ?_⟩
    rw [elapsed_own (.inl rfl)]
    exact wake_nearer h ht hdue hstage
  · refine ⟨.turn, .inr rfl, fun hstill => ?_⟩
    rw [elapsed_own (.inr rfl)]
    exact turn_nearer ht.lt_length hstage hi hstill

/-- A timer that is due goes off, or is withdrawn, while no time passes. -/
theorem ends_of_isDue (script : α → Program (Chimes α) Unit) {t : Setting α} (i : Nat) :
    ∀ k (w : Ringing α), Truthful w → Stands w.world t → t.IsDue w.elapsed →
    Stage w.timers w.elapsed t i k →
    ∃ moves : List (Move α), (∀ move ∈ moves, move.IsOwn) ∧
      ¬ Stands (moves.foldl (Move.act script) w).world t := by
  induction i using Nat.strongRecOn with
  | ind i ih =>
    intro k
    induction k using Nat.strongRecOn with
    | ind k ihk =>
      intro w h ht hdue hstage
      obtain ⟨move, hown, hnearer⟩ := progress script h ht hdue hstage
      by_cases hstill : Stands (move.act script w).world t
      · obtain ⟨j, m, hstage, hless⟩ := hnearer hstill
        have h' : Truthful (move.act script w) := truthful_act h move
        have hdue' : t.IsDue (move.act script w).elapsed := by rwa [elapsed_own hown]
        have hrest : ∃ moves : List (Move α), (∀ move ∈ moves, move.IsOwn) ∧
            ¬ Stands (moves.foldl (Move.act script) (move.act script w)).world t := by
          rcases hless with hj | ⟨hj, hm⟩
          · exact ih j hj m _ h' hstill hdue' hstage
          · exact ihk m hm _ h' hstill hdue' (hj ▸ hstage)
        obtain ⟨moves, hmoves, hends⟩ := hrest
        exact ⟨move :: moves, List.forall_mem_cons.2 ⟨hown, hmoves⟩, hends⟩
      · exact ⟨[move], by simpa using hown, hstill⟩

/-- A program that does what another one does until it fails, and does not fail. -/
def calm (p : Program (Chimes α) Unit) : Program (Chimes α) Unit := p.attempt.bind fun _ => .done ()

theorem run_calm (p : Program (Chimes α) Unit) :
    ∀ w, ((calm p).run answer w).2 = (p.run answer w).2 := by
  induction p with
  | done => exact fun _ => rfl
  | fail => exact fun _ => rfl
  | ask q next ih => exact fun w => ih _ _

/-- What timers do when they go off, in any order of settings, cancellations, stops and passing
time. Each setting goes off at most once. What goes off stood and was due, and it does what was set;
a cancellation told whether there was one that stood. Once nothing is left to do, what stands is not
due yet; what is due goes off, or is withdrawn by one that went off before it, without any time
passing. The settings that stand are pending, each under an id of its own. A program that fails
comes to the same for all timers as one that stops there. -/
theorem rings_of_run (script : α → Program (Chimes α) Unit) (moves : List (Move α)) :
    ((run script moves).world.filterMap (·.rang?)).Nodup ∧
    Proper (run script moves).world ∧
    (isSettled (run script moves) = true →
      ∀ t, Stands (run script moves).world t → ¬ t.IsDue (run script moves).elapsed) ∧
    (∀ t, Stands (run script moves).world t → t.IsDue (run script moves).elapsed →
      ∃ more : List (Move α), (∀ move ∈ more, move.IsOwn) ∧
        ¬ Stands (run script (moves ++ more)).world t) ∧
    (∀ id, (run script moves).timers.isPending id = true ↔
      ∃ t, Stands (run script moves).world t ∧ t.id = id) ∧
    (run script moves).timers.ids.Nodup ∧
    run (fun action => calm (script action)) moves = run script moves := by
  have h := truthful_run script moves
  refine ⟨h.proper.nodup_rang, h.proper, fun hw t => h.not_isDue hw, ?_, ?_, h.faithful.nodup, ?_⟩
  · intro t ht hdue
    obtain ⟨i, k, hstage⟩ := exists_stage h ht
    obtain ⟨more, hown, hends⟩ := ends_of_isDue script i k _ h ht hdue hstage
    refine ⟨more, hown, ?_⟩
    unfold run at hends ⊢
    rwa [List.foldl_append]
  · intro id
    rw [← h.faithful.mem_ids_iff id]
    exact List.contains_iff_mem
  · have hring : ring (fun action => calm (script action)) = ring script := by
      funext action w
      exact run_calm _ _
    unfold run
    congr 1
    funext w move
    unfold Move.act
    rw [hring]

end Chimes

end Parley
