import Mathlib.Data.List.Induction
import Mathlib.Data.List.Nodup
import Parley.Program
import Parley.Rehearsal.Timed
import Parley.Proofs.Floor.Timers

/-!
# Settings of timers that stand

What a timer does when it goes off is a program that may set timers, cancel them, ask for them, stop
them all, and fail (`Chimes`). A log notes what was done to the timers, with the time at which it
was done. From the log alone it can be told which settings stand: the timer was set, it has not gone
off, it was not cancelled, set again or stopped (`Stands`). `Proper` is a log of which each entry
says what was true when it was made.

`Faithful` says that the timers hold just the settings that stand, each once. It is kept when a timer
is set (`Faithful.schedule`), taken away (`Faithful.remove`), woken (`Faithful.wake`), and when the
next one goes off (`Faithful.next`).
-/

namespace Parley

open Number Rehearsal

/-- What is asked of timers. -/
inductive Chimes.Ask (α : Type) where
  | schedule (id : String) (seconds : Binary64) (action : α)
  | cancel (id : String)
  | pending (id : String)
  | shutdown

/-- Timers as those see them who set them. -/
def Chimes (α : Type) : Interface where
  Ask := Chimes.Ask α
  Reply
    | .schedule .. => Unit
    | .cancel _ => Bool
    | .pending _ => Bool
    | .shutdown => Unit

namespace Chimes

/-- What was done to the timers. A setting is known by its place in the log. -/
inductive Entry (α : Type) where
  | set (id : String) (seconds : Binary64) (action : α) (time : Binary64)
  | cancelled (id : String) (found : Bool)
  | stopped
  | rang (number : Nat) (action : α) (time : Binary64)

/-- A timer that was set. -/
structure Setting (α : Type) where
  number : Nat
  id : String
  seconds : Binary64
  action : α
  /-- When it was set. -/
  time : Binary64

variable {α : Type}

/-- Whether the delay of a timer has elapsed. Without a delay it has elapsed from the start. -/
def Setting.IsDue (t : Setting α) (now : Binary64) : Prop :=
  if t.seconds.le .zero then now = t.time else (t.time.add t.seconds).le now = true

namespace Entry

/-- The timer for an id is cancelled, set again or stopped. -/
def Withdraws : Entry α → String → Prop
  | .set id .., other => id = other
  | .cancelled id _, other => id = other
  | .stopped, _ => True
  | .rang .., _ => False

/-- The setting that goes off. -/
def rang? : Entry α → Option Nat
  | .rang number .. => some number
  | _ => none

/-- A setting stands no longer. -/
def Ends (e : Entry α) (t : Setting α) : Prop := e.Withdraws t.id ∨ e.rang? = some t.number

end Entry

/-! ## Settings that stand -/

/-- A timer was set, and it has neither gone off nor been withdrawn. -/
def Stands (log : List (Entry α)) (t : Setting α) : Prop :=
  log[t.number]? = some (.set t.id t.seconds t.action t.time) ∧
    ∀ e ∈ log.drop (t.number + 1), ¬ e.Ends t

namespace Stands

variable {log : List (Entry α)} {t u : Setting α} {e : Entry α}

theorem lt_length (h : Stands log t) : t.number < log.length :=
  (List.getElem?_eq_some_iff.1 h.1).1

theorem eq_of_number (ht : Stands log t) (hu : Stands log u) (h : t.number = u.number) : t = u := by
  have he := ht.1.symm.trans (h ▸ hu.1)
  obtain ⟨n, id, seconds, action, time⟩ := t
  obtain ⟨n', id', seconds', action', time'⟩ := u
  cases h
  cases he
  rfl

/-- What the next entry does to the settings that stand. -/
theorem append_iff : Stands (log ++ [e]) t ↔ (Stands log t ∧ ¬ e.Ends t) ∨
    (t.number = log.length ∧ e = .set t.id t.seconds t.action t.time) := by
  unfold Stands
  rcases Nat.lt_trichotomy t.number log.length with hlt | heq | hgt
  · rw [List.getElem?_append_left hlt, List.drop_append_of_le_length (by omega)]
    have hne : t.number ≠ log.length := by omega
    simp only [List.mem_append, List.mem_singleton, hne, false_and, or_false, and_assoc]
    refine and_congr_right fun _ => ?_
    constructor
    · exact fun h => ⟨fun a ha => h a (.inl ha), h e (.inr rfl)⟩
    · rintro ⟨hlog, he⟩ a (ha | rfl)
      · exact hlog a ha
      · exact he
  · simp [heq]
  · have hnone : (log ++ [e])[t.number]? = none := by
      rw [List.getElem?_eq_none_iff, List.length_append, List.length_singleton]
      omega
    have hnone' : log[t.number]? = none := List.getElem?_eq_none_iff.2 (by omega)
    have hne : t.number ≠ log.length := by omega
    simp [hnone, hnone', hne]

theorem before (h : Stands (log ++ [e]) t) (he : ∀ id seconds action time,
    e ≠ .set id seconds action time) : Stands log t ∧ ¬ e.Ends t :=
  (append_iff.1 h).resolve_right fun hset => he _ _ _ _ hset.2

theorem append (h : Stands log t) (he : ¬ e.Ends t) : Stands (log ++ [e]) t :=
  append_iff.2 (.inl ⟨h, he⟩)

/-- At most one setting stands for an id. -/
theorem eq_of_id (ht : Stands log t) (hu : Stands log u) (h : t.id = u.id) : t = u := by
  induction log using List.reverseRecOn with
  | nil => exact absurd ht.lt_length (Nat.not_lt_zero _)
  | append_singleton log e ih =>
    rcases append_iff.1 ht with ⟨ht', hte⟩ | ⟨htn, htset⟩ <;>
      rcases append_iff.1 hu with ⟨hu', hue⟩ | ⟨hun, huset⟩
    · exact ih ht' hu'
    · exact absurd (.inl (by rw [huset]; exact h.symm)) hte
    · exact absurd (.inl (by rw [htset]; exact h)) hue
    · exact eq_of_number ht hu (htn.trans hun.symm)

end Stands

/-- An entry says what was true when it was made: what goes off stands and is due, and a
cancellation found a timer if there was one. -/
def Entry.Follows (log : List (Entry α)) : Entry α → Prop
  | .rang number action now =>
    ∃ t, Stands log t ∧ t.number = number ∧ t.action = action ∧ t.IsDue now
  | .cancelled id found => found = true ↔ ∃ t, Stands log t ∧ t.id = id
  | _ => True

/-- A log in which each entry follows from those before it. -/
def Proper (log : List (Entry α)) : Prop :=
  ∀ before e after, log = before ++ e :: after → e.Follows before

theorem proper_nil : Proper ([] : List (Entry α)) := by
  intro before e after h
  simp at h

theorem Proper.append {log : List (Entry α)} {e : Entry α} (h : Proper log) (he : e.Follows log) :
    Proper (log ++ [e]) := by
  intro before e' after heq
  rcases List.eq_nil_or_concat after with rfl | ⟨rest, last, rfl⟩
  · obtain ⟨rfl, hlast⟩ := List.append_inj' heq rfl
    cases hlast
    exact he
  · have hsplit : log ++ [e] = (before ++ e' :: rest) ++ [last] := by simpa using heq
    obtain ⟨hlog, -⟩ := List.append_inj' hsplit rfl
    exact h before e' rest hlog

/-- No setting goes off twice. -/
theorem Proper.nodup_rang {log : List (Entry α)} (h : Proper log) :
    (log.filterMap (·.rang?)).Nodup := by
  induction log using List.reverseRecOn with
  | nil => exact List.nodup_nil
  | append_singleton log e ih =>
    have hlog : Proper log := by
      intro before e' after heq
      exact h before e' (after ++ [e]) (by simp [heq])
    rw [List.filterMap_append]
    cases hrang : e.rang? with
    | none => simpa [hrang] using ih hlog
    | some number =>
      refine (ih hlog).append (by simp [hrang]) ?_
      simp only [List.filterMap_cons, hrang, List.filterMap_nil, List.disjoint_singleton]
      -- it stood when it went off before, so that entry would have ended it
      intro hmem
      obtain ⟨e', he', hrang'⟩ := List.mem_filterMap.1 hmem
      obtain ⟨before, after, rfl⟩ := List.append_of_mem he'
      have hearlier := hlog before e' after rfl
      have hlast := h (before ++ e' :: after) e [] rfl
      cases e with
      | rang n action now =>
        cases e' with
        | rang n' action' now' =>
          cases hrang
          cases hrang'
          obtain ⟨u, hu, hun, -⟩ := hearlier
          obtain ⟨t, ht, htn, -⟩ := hlast
          refine ht.2 (.rang _ action' now') ?_ (.inr (by rw [htn]; rfl))
          have hle : t.number + 1 ≤ before.length := by
            have := hu.lt_length
            omega
          rw [List.drop_append_of_le_length hle]
          exact List.mem_append_right _ List.mem_cons_self
        | set => cases hrang'
        | cancelled => cases hrang'
        | stopped => cases hrang'
      | set => cases hrang
      | cancelled => cases hrang
      | stopped => cases hrang

/-! ## Timers that hold what stands -/

/-- Timers with a log. Each timer carries the number of its setting. -/
abbrev Ringing (α : Type) := Timed (Nat × α) (List (Entry α))

/-- A timer in the queue is that of a setting. -/
structure Setting.IsQueued (t : Setting α) (now : Binary64) (q : QueuedTimer (Nat × α)) : Prop where
  id : q.id = t.id
  action : q.action = (t.number, t.action)
  /-- It was set just now, or its time has come. -/
  time : (q.seconds = some t.seconds ∧ t.time = now) ∨ (q.seconds = none ∧ t.IsDue now)

/-- A sleeping timer is that of a setting. -/
structure Setting.IsAsleep (t : Setting α) (s : SleepingTimer (Nat × α)) : Prop where
  id : s.id = t.id
  action : s.action = (t.number, t.action)
  due : s.due = t.time.add t.seconds
  positive : t.seconds.le .zero = false

/-- The timers are those of the settings that stand, each once. -/
structure Faithful (ts : Timers (Nat × α)) (now : Binary64) (log : List (Entry α)) : Prop where
  nodup : ts.ids.Nodup
  queued : ∀ q ∈ ts.queue, ∃ t, Stands log t ∧ t.IsQueued now q
  asleep : ∀ s ∈ ts.asleep, ∃ t, Stands log t ∧ t.IsAsleep s
  pending : ∀ t, Stands log t → t.id ∈ ts.ids

namespace Faithful

variable {ts us : Timers (Nat × α)} {now : Binary64} {log : List (Entry α)} {t : Setting α}
  {e : Entry α}

theorem empty (h : ∀ t, ¬ Stands log t) : Faithful {} now log where
  nodup := List.nodup_nil
  queued := by intro q hq; cases hq
  asleep := by intro s hs; cases hs
  pending := fun t ht => absurd ht (h t)

theorem mem_ids_iff (h : Faithful ts now log) (id : String) :
    id ∈ ts.ids ↔ ∃ t, Stands log t ∧ t.id = id := by
  constructor
  · intro hid
    rcases List.mem_append.1 hid with hid | hid
    · obtain ⟨q, hq, rfl⟩ := List.mem_map.1 hid
      obtain ⟨t, ht, htq⟩ := h.queued q hq
      exact ⟨t, ht, htq.id.symm⟩
    · obtain ⟨s, hs, rfl⟩ := List.mem_map.1 hid
      obtain ⟨t, ht, hts⟩ := h.asleep s hs
      exact ⟨t, ht, hts.id.symm⟩
  · rintro ⟨t, ht, rfl⟩
    exact h.pending t ht

theorem nodup_remove (h : ts.ids.Nodup) (id : String) : (ts.remove id).ids.Nodup := by
  unfold Timers.ids Timers.remove at *
  exact h.sublist (((List.filter_sublist).map _).append ((List.filter_sublist).map _))

/-- An entry that ends the setting of one id and no other takes its timer away. -/
theorem remove (h : Faithful ts now log) {id : String}
    (hends : ∀ t, Stands log t → (e.Ends t ↔ t.id = id))
    (hset : ∀ id seconds action time, e ≠ .set id seconds action time) :
    Faithful (ts.remove id) now (log ++ [e]) where
  nodup := nodup_remove h.nodup id
  queued := by
    intro q hq
    obtain ⟨hq, hid⟩ := List.mem_filter.1 hq
    obtain ⟨t, ht, htq⟩ := h.queued q hq
    refine ⟨t, ht.append ?_, htq⟩
    rw [hends t ht, ← htq.id]
    simpa using hid
  asleep := by
    intro s hs
    obtain ⟨hs, hid⟩ := List.mem_filter.1 hs
    obtain ⟨t, ht, hts⟩ := h.asleep s hs
    refine ⟨t, ht.append ?_, hts⟩
    rw [hends t ht, ← hts.id]
    simpa using hid
  pending := by
    intro t ht
    obtain ⟨ht, he⟩ := ht.before hset
    rw [Timers.mem_ids_remove]
    exact ⟨h.pending t ht, mt (hends t ht).2 he⟩

/-- A timer stands in another place, for the same setting. -/
theorem moved (h : Faithful ts now log) (hids : us.ids.Perm ts.ids)
    (hqueue : ∀ q ∈ us.queue, q ∈ ts.queue ∨ ∃ t, Stands log t ∧ t.IsQueued now q)
    (hasleep : ∀ s ∈ us.asleep, s ∈ ts.asleep ∨ ∃ t, Stands log t ∧ t.IsAsleep s) :
    Faithful us now log where
  nodup := hids.nodup_iff.2 h.nodup
  queued := fun q hq => (hqueue q hq).elim (h.queued q) id
  asleep := fun s hs => (hasleep s hs).elim (h.asleep s) id
  pending := fun t ht => hids.mem_iff.2 (h.pending t ht)

/-- The action of a setting whose time has come is taken out of the queue and rings. -/
theorem taken (h : Faithful ts now log) {q : QueuedTimer (Nat × α)} (hq : q ∈ ts.queue)
    (hcome : q.seconds = none) :
    (Entry.rang q.action.1 q.action.2 now).Follows log ∧
      Faithful (ts.remove q.id) now (log ++ [.rang q.action.1 q.action.2 now]) := by
  obtain ⟨t, ht, htq⟩ := h.queued q hq
  have hdue : t.IsDue now := by
    rcases htq.time with ⟨hsome, -⟩ | ⟨-, hdue⟩
    · rw [hcome] at hsome
      cases hsome
    · exact hdue
  rw [htq.action, htq.id]
  refine ⟨⟨t, ht, rfl, rfl, hdue⟩, h.remove ?_ (by intros; simp)⟩
  intro u hu
  constructor
  · rintro (hw | hn)
    · exact hw.elim
    · exact congrArg Setting.id (hu.eq_of_number ht (Option.some.inj hn).symm)
  · intro hid
    rw [ht.eq_of_id hu hid.symm]
    exact .inr rfl

theorem remove_head {q : QueuedTimer (Nat × α)} {rest : List (QueuedTimer (Nat × α))}
    {asleep : List (SleepingTimer (Nat × α))}
    (h : ({ queue := q :: rest, asleep } : Timers (Nat × α)).ids.Nodup) :
    ({ queue := q :: rest, asleep } : Timers (Nat × α)).remove q.id = { queue := rest, asleep } := by
  have hq : q.id ∉ rest.map (·.id) ++ asleep.map (·.id) := (List.nodup_cons.1 h).1
  rw [List.mem_append, not_or] at hq
  have hrest : rest.filter (·.id != q.id) = rest := by
    refine List.filter_eq_self.2 fun r hr => bne_iff_ne.2 fun e => hq.1 ?_
    exact e ▸ List.mem_map_of_mem hr
  have hasleep : asleep.filter (·.id != q.id) = asleep := by
    refine List.filter_eq_self.2 fun r hr => bne_iff_ne.2 fun e => hq.2 ?_
    exact e ▸ List.mem_map_of_mem hr
  simp [Timers.remove, hrest, hasleep]

/-- What the timers come to when the next one goes off, if one can. -/
def Rung (now : Binary64) (log : List (Entry α)) :
    Option (QueuedTimer (Nat × α)) × Timers (Nat × α) → Prop
  | (none, ts) => ts.queue = [] ∧ Faithful ts now log
  | (some q, ts) => (Entry.rang q.action.1 q.action.2 now).Follows log ∧
      Faithful ts now (log ++ [.rang q.action.1 q.action.2 now])

theorem goThrough (queue : List (QueuedTimer (Nat × α))) :
    ∀ (asleep : List (SleepingTimer (Nat × α))) (later : List (QueuedTimer (Nat × α))),
      (∀ q ∈ later, q.seconds = none) → Faithful { queue := queue ++ later, asleep } now log →
      Rung now log (Timers.goThrough now asleep later queue) := by
  induction queue with
  | nil =>
    intro asleep later hlater h
    cases later with
    | nil => exact ⟨rfl, h⟩
    | cons first rest =>
      have htaken := h.taken (q := first) List.mem_cons_self (hlater _ List.mem_cons_self)
      rwa [List.nil_append, remove_head h.nodup] at htaken
  | cons q queue ih =>
    intro asleep later hlater h
    unfold Timers.goThrough
    obtain ⟨t, ht, htq⟩ := h.queued q List.mem_cons_self
    cases hseconds : q.seconds with
    | none =>
      have htaken := h.taken (q := q) List.mem_cons_self hseconds
      have hhead : ({ queue := q :: queue ++ later, asleep } : Timers (Nat × α)).remove q.id =
          { queue := queue ++ later, asleep } := remove_head h.nodup
      rwa [hhead] at htaken
    | some seconds =>
      have htime : t.seconds = seconds ∧ t.time = now := by
        rcases htq.time with ⟨hsome, hnow⟩ | ⟨hnone, -⟩
        · rw [hseconds] at hsome
          exact ⟨(Option.some.inj hsome).symm, hnow⟩
        · rw [hseconds] at hnone
          cases hnone
      obtain ⟨rfl, rfl⟩ := htime
      by_cases hpositive : t.seconds.le .zero = true
      · -- set for no time at all: its time has come
        simp only [hpositive, if_true]
        refine ih asleep _ ?_ (h.moved ?_ ?_ fun s hs => .inl hs)
        · intro r hr
          rcases List.mem_append.1 hr with hr | hr
          · exact hlater r hr
          · rw [List.mem_singleton.1 hr]
        · have hmiddle : ((queue ++ later).map (·.id) ++ q.id :: asleep.map (·.id)).Perm
              (q.id :: ((queue ++ later).map (·.id) ++ asleep.map (·.id))) := List.perm_middle
          simpa [Timers.ids] using hmiddle
        · intro r hr
          rw [← List.append_assoc] at hr
          rcases List.mem_append.1 hr with hr | hr
          · exact .inl (List.mem_cons_of_mem _ hr)
          · rw [List.mem_singleton.1 hr]
            refine .inr ⟨t, ht, htq.id, htq.action, .inr ⟨rfl, ?_⟩⟩
            simp [Setting.IsDue, hpositive]
      · simp only [hpositive]
        have hpositive : t.seconds.le .zero = false := by simpa using hpositive
        refine ih _ later hlater (h.moved ?_ (fun r hr => .inl (List.mem_cons_of_mem _ hr)) ?_)
        · have hend : ((queue ++ later).map (·.id) ++ asleep.map (·.id) ++ [q.id]).Perm
              ([q.id] ++ ((queue ++ later).map (·.id) ++ asleep.map (·.id))) :=
            List.perm_append_comm
          simpa [Timers.ids] using hend
        · intro s hs
          rcases List.mem_append.1 hs with hs | hs
          · exact .inl hs
          · rw [List.mem_singleton.1 hs]
            exact .inr ⟨t, ht, htq.id, htq.action, rfl, hpositive⟩

/-- Nobody can tell from the queue alone what goes off next, but it is what stands and is due. -/
theorem next (h : Faithful ts now log) : Rung now log (ts.next now) :=
  goThrough ts.queue ts.asleep [] (by intro q hq; cases hq) (by simpa using h)

theorem firstDue_mem {s : SleepingTimer (Nat × α)} (h : ts.firstDue now = some s) :
    s ∈ ts.asleep ∧ s.due.le now = true := by
  unfold Timers.firstDue at h
  have hfold : ∀ (rest : List (SleepingTimer (Nat × α))) (first : SleepingTimer (Nat × α)),
      rest.foldl Timers.sooner first ∈ first :: rest := by
    intro rest
    induction rest with
    | nil => exact fun first => List.mem_cons_self
    | cons second rest ih =>
      intro first
      rcases List.mem_cons.1 (ih (Timers.sooner first second)) with he | hrest
      · rw [List.foldl_cons, he]
        unfold Timers.sooner
        split <;> simp
      · exact List.mem_cons_of_mem _ (List.mem_cons_of_mem _ hrest)
  cases hdue : ts.asleep.filter (·.due.le now) with
  | nil => simp [hdue] at h
  | cons first rest =>
    rw [hdue] at h
    have hmem : s ∈ ts.asleep.filter (·.due.le now) := by
      rw [hdue, ← Option.some.inj h]
      exact hfold rest first
    exact List.mem_filter.1 hmem

theorem wake (h : Faithful ts now log) {s : SleepingTimer (Nat × α)} (hs : s ∈ ts.asleep)
    (hdue : s.due.le now = true) : Faithful (ts.wake s) now log := by
  obtain ⟨t, ht, hts⟩ := h.asleep s hs
  have hwoken : t.IsQueued now { id := s.id, seconds := none, action := s.action } := by
    refine ⟨hts.id, hts.action, .inr ⟨rfl, ?_⟩⟩
    simpa [Setting.IsDue, hts.positive, ← hts.due] using hdue
  have hids : (ts.wake s).ids.Perm (s.id :: (ts.remove s.id).ids) := by
    simp only [Timers.wake, Timers.ids, List.map_append, List.map_cons, List.map_nil,
      List.append_assoc, List.singleton_append]
    exact List.perm_middle
  refine ⟨?_, ?_, ?_, ?_⟩
  · rw [hids.nodup_iff, List.nodup_cons, Timers.mem_ids_remove]
    exact ⟨fun hmem => hmem.2 rfl, nodup_remove h.nodup _⟩
  · intro q hq
    rcases List.mem_append.1 hq with hq | hq
    · exact h.queued q (List.mem_of_mem_filter hq)
    · rw [List.mem_singleton.1 hq]
      exact ⟨t, ht, hwoken⟩
  · intro r hr
    exact h.asleep r (List.mem_of_mem_filter hr)
  · intro u hu
    rw [hids.mem_iff, List.mem_cons, Timers.mem_ids_remove]
    by_cases hid : u.id = s.id
    · exact .inl hid
    · exact .inr ⟨h.pending u hu, hid⟩

/-- A timer set for an id is the only one of the id. -/
theorem schedule (h : Faithful ts now log) (id : String) (seconds : Binary64) (action : α) :
    Faithful (ts.schedule id seconds (log.length, action)) now
      (log ++ [.set id seconds action now]) := by
  have hnew : Stands (log ++ [.set id seconds action now])
      ⟨log.length, id, seconds, action, now⟩ :=
    Stands.append_iff.2 (.inr ⟨rfl, rfl⟩)
  have hold : ∀ t, Stands log t → t.id ≠ id → Stands (log ++ [.set id seconds action now]) t := by
    intro t ht hid
    refine ht.append ?_
    rintro (hw | hn)
    · exact hid hw.symm
    · cases hn
  have hids : (ts.schedule id seconds (log.length, action)).ids.Perm
      (id :: (ts.remove id).ids) := by
    simp only [Timers.schedule, Timers.ids, List.map_append, List.map_cons, List.map_nil,
      List.append_assoc, List.singleton_append]
    exact List.perm_middle
  refine ⟨?_, ?_, ?_, ?_⟩
  · rw [hids.nodup_iff, List.nodup_cons, Timers.mem_ids_remove]
    exact ⟨fun hmem => hmem.2 rfl, nodup_remove h.nodup _⟩
  · intro q hq
    rcases List.mem_append.1 hq with hq | hq
    · obtain ⟨hq, hid⟩ := List.mem_filter.1 hq
      obtain ⟨t, ht, htq⟩ := h.queued q hq
      refine ⟨t, hold t ht ?_, htq⟩
      rw [← htq.id]
      simpa using hid
    · rw [List.mem_singleton.1 hq]
      exact ⟨_, hnew, rfl, rfl, .inl ⟨rfl, rfl⟩⟩
  · intro s hs
    obtain ⟨hs, hid⟩ := List.mem_filter.1 hs
    obtain ⟨t, ht, hts⟩ := h.asleep s hs
    refine ⟨t, hold t ht ?_, hts⟩
    rw [← hts.id]
    simpa using hid
  · intro t ht
    rw [hids.mem_iff, List.mem_cons, Timers.mem_ids_remove]
    rcases Stands.append_iff.1 ht with ⟨ht, hends⟩ | ⟨-, hset⟩
    · refine .inr ⟨h.pending t ht, fun hid => hends (.inl hid.symm)⟩
    · cases hset
      exact .inl rfl

end Faithful

end Chimes

end Parley
