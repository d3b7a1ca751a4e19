import Parley.Number.Binary64

/-!
Timers, at most one for an id.

A timer that is set first stands in a queue; when its turn comes it begins to sleep, or is due at
once where it was set for no time at all. A timer whose time has come stands in the queue again
until it goes off. Setting a timer for an id takes the place of the one that is pending; a timer
that has gone off is no longer pending, so what it does may set another one for its id.
-/

namespace Parley

open Number

/-- A timer in the queue: it was set for some seconds, or its time has come. -/
structure QueuedTimer (κ : Type) where
  id : String
  /-- The seconds it still has to sleep; none once its time has come. -/
  seconds : Option Binary64
  action : κ
  deriving Repr

/-- A timer that sleeps until it is due. -/
structure SleepingTimer (κ : Type) where
  id : String
  due : Binary64
  action : κ
  deriving Repr

/-- Pending timers. -/
structure Timers (κ : Type) where
  /-- The timers whose turn comes next, in order. -/
  queue : List (QueuedTimer κ) := []
  /-- The timers that sleep, in the order in which they began to. -/
  asleep : List (SleepingTimer κ) := []
  deriving Repr

namespace Timers

variable {κ : Type}

/-- The ids of the pending timers. -/
def ids (ts : Timers κ) : List String := ts.queue.map (·.id) ++ ts.asleep.map (·.id)

/-- Whether a timer for an id is pending. -/
def isPending (ts : Timers κ) (id : String) : Bool := ts.ids.contains id

/-- The timers without the one for an id. -/
def remove (ts : Timers κ) (id : String) : Timers κ where
  queue := ts.queue.filter (·.id != id)
  asleep := ts.asleep.filter (·.id != id)

/-- Cancels the timer for an id; tells whether one was pending. -/
def cancel (ts : Timers κ) (id : String) : Bool × Timers κ := (ts.isPending id, ts.remove id)

/-- Sets a timer for an id. -/
def schedule (ts : Timers κ) (id : String) (seconds : Binary64) (action : κ) : Timers κ :=
  let rest := ts.remove id
  { rest with queue := rest.queue ++ [{ id, seconds := some seconds, action }] }

/-- Goes through the queue until a timer goes off. A timer that was set begins to sleep; one that
was set for no time at all is put behind the others (`later`), its time come. -/
def goThrough (now : Binary64) (asleep : List (SleepingTimer κ)) (later : List (QueuedTimer κ)) :
    (queue : List (QueuedTimer κ)) → Option (QueuedTimer κ) × Timers κ
  | [] => match later with
    | [] => (none, { asleep })
    | first :: rest => (some first, { queue := rest, asleep })
  | timer :: queue =>
    match timer.seconds with
    | none => (some timer, { queue := queue ++ later, asleep })
    | some seconds =>
      if seconds.le .zero then
        goThrough now asleep (later ++ [{ timer with seconds := none }]) queue
      else
        let sleeper := { id := timer.id, due := now.add seconds, action := timer.action }
        goThrough now (asleep ++ [sleeper]) later queue

/-- The next timer that goes off without any time passing, and the timers that are pending then. -/
def next (ts : Timers κ) (now : Binary64) : Option (QueuedTimer κ) × Timers κ :=
  goThrough now ts.asleep [] ts.queue

/-- Of two sleepers the one that is due first; of two that are due together the earlier sleeper. -/
def sooner (a b : SleepingTimer κ) : SleepingTimer κ := if b.due.lt a.due then b else a

/-- The sleeper that is due first, up to a time. -/
def firstDue (ts : Timers κ) (limit : Binary64) : Option (SleepingTimer κ) :=
  match ts.asleep.filter (·.due.le limit) with
  | [] => none
  | first :: rest => some (rest.foldl sooner first)

/-- Wakes a sleeper. -/
def wake (ts : Timers κ) (sleeper : SleepingTimer κ) : Timers κ :=
  let rest := ts.remove sleeper.id
  let woken := { id := sleeper.id, seconds := none, action := sleeper.action }
  { rest with queue := rest.queue ++ [woken] }

theorem mem_ids_remove (ts : Timers κ) (id other : String) :
    other ∈ (ts.remove id).ids ↔ other ∈ ts.ids ∧ other ≠ id := by
  simp only [ids, remove, List.mem_append, List.mem_map, List.mem_filter, bne_iff_ne, ne_eq]
  constructor
  · rintro (⟨t, ⟨ht, hn⟩, rfl⟩ | ⟨t, ⟨ht, hn⟩, rfl⟩)
    · exact ⟨Or.inl ⟨t, ht, rfl⟩, hn⟩
    · exact ⟨Or.inr ⟨t, ht, rfl⟩, hn⟩
  · rintro ⟨⟨t, ht, rfl⟩ | ⟨t, ht, rfl⟩, hn⟩
    · exact Or.inl ⟨t, ⟨ht, hn⟩, rfl⟩
    · exact Or.inr ⟨t, ⟨ht, hn⟩, rfl⟩

end Timers

end Parley
