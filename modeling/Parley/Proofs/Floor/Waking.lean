import Parley.Proofs.Floor.Records
import Parley.Proofs.Floor.Timers

/-!
# Who wakes a conversation

A conversation that waits for a timer has to be woken by somebody. `At` says where its waking is
kept: as a pending timer of a desk, with the job that its timer has begun, with a job that still owes
it a timer, or nowhere any more, since a job that a timer has begun came to its end without keeping
the conversation.

`Accounted` is the invariant: an active conversation that waits for a timer has its waking in exactly
one place, and one that waits for an answer has none. Every move takes a waking from one place to
another, makes one or does away with one (`Accounted.move`).

So an active conversation that nobody can wake, once no job is left, is one that was lost:
`Floor.progresses_iff_not_lost`. It can be lost, for the end of a job is not looked at: where a turn
that a timer has begun breaks off, the conversation still waits for a timer, and has none
(`Floor.lost_of_broken_turn`).
-/

namespace Parley

open Desk (Notes)

/-- Where the waking of a conversation can be kept. -/
inductive Place (δ : Type) where
  /-- A timer of a desk is pending. -/
  | pending (d : δ)
  /-- A job that a timer has begun has not kept the conversation so far. -/
  | woken (i : Nat)
  /-- A job has kept the conversation and is about to set its timer. -/
  | owed (i : Nat)
  /-- A job that a timer had begun is at its end without having kept the conversation. -/
  | lost
  deriving DecidableEq

section
variable {δ : Type}

/-- The waking of a conversation is kept in a place. -/
def At (b : Books δ) (k : Nat → Notes) (id : String) : Place δ → Prop
  | .pending d => id ∈ (b.timers d).ids
  | .woken i => (k i).due = some id
  | .owed i => (k i).owes.map (·.id) = some id
  | .lost => ∃ r ∈ b.finished, r.missed = some id

/-- An active conversation that waits for an answer is woken by nobody; one that waits for a timer
has its waking in exactly one place. -/
def Wakes (A : Place δ → Prop) (c : Conversation) : Prop :=
  c.isActive = true →
    (c.awaitsInput = true → ∀ p, ¬ A p) ∧ (c.awaitsInput = false → ∃ p, ∀ q, A q ↔ q = p)

/-- The wakings are accounted for. -/
structure Accounted (b : Books δ) (k : Nat → Notes) : Prop where
  known : ∀ id p, At b k id p → ∃ c, b.ledger.find? id = some c
  named : ∀ d, ∀ p ∈ (b.timers d).actions, p.2.conversation = p.1
  wakes : ∀ id c, b.ledger.find? id = some c → Wakes (At b k id) c

theorem accounted_opening (settings : δ → Desk.Settings) (flows : Dictionary Flow) :
    Accounted (Floor.opening settings flows).books fun _ => {} where
  known id p h := by
    cases p with
    | pending d => cases h
    | woken i => cases h
    | owed i => cases h
    | lost => obtain ⟨r, hr, -⟩ := h; cases hr
  named d p hp := by cases hp
  wakes id c h := by cases h

/-- Nobody needs to wake a conversation that is over. -/
theorem wakes_of_over {A : Place δ → Prop} {c : Conversation} (h : c.isActive = false) :
    Wakes A c := by
  intro hact
  rw [h] at hact
  cases hact

theorem Wakes.of_iff {A B : Place δ → Prop} {c d : Conversation} (h : Wakes A c)
    (hB : ∀ p, B p ↔ A p) (hact : d.isActive = c.isActive) (hwait : d.awaitsInput = c.awaitsInput) :
    Wakes B d := by
  obtain rfl : A = B := funext fun p => propext (hB p).symm
  unfold Wakes
  rw [hact, hwait]
  exact h

/-- A waking that is taken from its place to another one. -/
theorem Wakes.relocate {A B : Place δ → Prop} {c : Conversation} (h : Wakes A c) (p₀ p₁ : Place δ)
    (hA : A p₀) (hB : ∀ p, B p ↔ (A p ∧ p ≠ p₀) ∨ p = p₁) : Wakes B c := by
  intro hact
  obtain ⟨hnone, hone⟩ := h hact
  refine ⟨fun hwait => absurd hA (hnone hwait p₀), fun hwait => ?_⟩
  obtain ⟨p, hp⟩ := hone hwait
  obtain rfl : p₀ = p := (hp p₀).1 hA
  refine ⟨p₁, fun q => ?_⟩
  rw [hB q, hp q]
  tauto

/-- Where a waking is kept depends on the timers, the finished jobs and two of the notes. -/
theorem at_congr {b b' : Books δ} {k k' : Nat → Notes} (ht : b'.timers = b.timers)
    (hf : b'.finished = b.finished) (hd : ∀ i, (k' i).due = (k i).due)
    (ho : ∀ i, (k' i).owes = (k i).owes) (id : String) (p : Place δ) :
    At b' k' id p ↔ At b k id p := by
  cases p with
  | pending d => simp only [At, ht]
  | woken i => simp only [At, hd]
  | owed i => simp only [At, ho]
  | lost => simp only [At, hf]

theorem update_due {k : Nat → Notes} {i : Nat} {n : Notes} (h : n.due = (k i).due) (j : Nat) :
    (Function.update k i n j).due = (k j).due := by
  by_cases hj : j = i
  · subst hj
    rw [Function.update_self, h]
  · rw [Function.update_of_ne hj]

theorem update_owes {k : Nat → Notes} {i : Nat} {n : Notes} (h : n.owes = (k i).owes) (j : Nat) :
    (Function.update k i n j).owes = (k j).owes := by
  by_cases hj : j = i
  · subst hj
    rw [Function.update_self, h]
  · rw [Function.update_of_ne hj]

variable {b b' : Books δ} {k k' : Nat → Notes}

/-- What is noted besides has no part in it. -/
theorem at_update {i : Nat} {n : Notes} {id : String} {p : Place δ} (ht : b'.timers = b.timers)
    (hf : b'.finished = b.finished) (hd : n.due = (k i).due) (ho : n.owes = (k i).owes) :
    At b' (Function.update k i n) id p ↔ At b k id p :=
  at_congr ht hf (update_due hd) (update_owes ho) id p

/-- What a job that keeps a conversation does to the wakings: it gives up the one that it was begun
for, and owes a new one where the conversation waits for a timer. -/
theorem at_keeping {i : Nat} {c : Conversation} {n : Notes} (ho : (k i).owes = none)
    (hd : n.due = if (k i).due = some c.id then none else (k i).due)
    (hn : n.owes = if c.isActive && !c.awaitsInput then some c else none) (l : Ledger)
    (id : String) (p : Place δ) :
    At { b with ledger := l } (Function.update k i n) id p ↔
      (At b k id p ∧ ¬ (id = c.id ∧ p = .woken i)) ∨
      (id = c.id ∧ p = .owed i ∧ c.isActive = true ∧ c.awaitsInput = false) := by
  cases p with
  | pending d => simp [At]
  | lost => simp [At]
  | woken j =>
    by_cases hj : j = i
    · subst hj
      by_cases hdue : (k j).due = some c.id
      · simp only [At, Function.update_self, hd, hdue, if_true]
        constructor
        · intro h
          cases h
        · rintro (⟨h, hne⟩ | ⟨-, h, -⟩)
          · exact absurd ⟨(Option.some.inj h).symm, trivial⟩ hne
          · cases h
      · have hne : (k j).due = some id → ¬ id = c.id := by
          rintro h rfl
          exact hdue h
        simp only [At, Function.update_self, hd, hdue, if_false]
        simpa using hne
    · simp [At, hj]
  | owed j =>
    by_cases hj : j = i
    · subst hj
      by_cases hpark : c.isActive = true ∧ c.awaitsInput = false
      · simp [At, hn, ho, hpark, eq_comm]
      · have hflags : (c.isActive && !c.awaitsInput) = false := by
          simpa using hpark
        have hnever : id = c.id → c.isActive = true → ¬ c.awaitsInput = false :=
          fun _ hact hwait => hpark ⟨hact, hwait⟩
        simp only [At, Function.update_self, hn, hflags, ho]
        simpa using hnever
    · simp [At, hj]

/-- What a job does to the wakings that comes to its end: the one that it still has is lost. -/
theorem at_closes {i : Nat} {r : Finished} (ho : (k i).owes = none) (hr : (k i).due = r.missed)
    (id : String) (p : Place δ) :
    At { b with finished := r :: b.finished } (Function.update k i {}) id p ↔
      (At b k id p ∧ p ≠ .woken i) ∨ (p = .lost ∧ (k i).due = some id) := by
  cases p with
  | pending e => simp [At]
  | woken j =>
    by_cases hj : j = i
    · subst hj
      simp [At]
    · simp [At, hj]
  | owed j =>
    by_cases hj : j = i
    · subst hj
      simp [At, ho]
    · simp [At, hj]
  | lost => simp [At, hr, or_comm]

/-- A conversation whose waking is kept with the job that keeps it, if at all, is accounted for
afterwards. -/
theorem wakes_keeping {i : Nat} {c : Conversation} {n : Notes} (ho : (k i).owes = none)
    (hd : n.due = if (k i).due = some c.id then none else (k i).due)
    (hn : n.owes = if c.isActive && !c.awaitsInput then some c else none)
    (hleft : ∀ q, At b k c.id q → q = .woken i) (l : Ledger) :
    Wakes (At { b with ledger := l } (Function.update k i n) c.id) c := by
  have hat := at_keeping (b := b) (k := k) ho hd hn l c.id
  intro hact
  refine ⟨fun hwait q hq => ?_, fun hpark => ⟨.owed i, fun q => ?_⟩⟩
  · rcases (hat q).1 hq with ⟨hq, hne⟩ | ⟨-, -, -, hpark⟩
    · exact hne ⟨rfl, hleft q hq⟩
    · rw [hwait] at hpark
      cases hpark
  · rw [hat q]
    constructor
    · rintro (⟨hq, hne⟩ | ⟨-, hq, -⟩)
      · exact absurd ⟨rfl, hleft q hq⟩ hne
      · exact hq
    · intro hq
      exact Or.inr ⟨rfl, hq, hact, hpark⟩

/-- The waking of a conversation that a job may write over is kept with that job, if at all. -/
theorem Accounted.eq_woken {i : Nat} {p : Conversation} {id : String} (hx : Accounted b k)
    (hp : b.ledger.find? id = some p) (hact : p.isActive = true)
    (hdue : p.awaitsInput = true ∨ (k i).due = some id) (q : Place δ) (hq : At b k id q) :
    q = .woken i := by
  obtain ⟨hnone, hone⟩ := hx.wakes id p hp hact
  by_cases hwait : p.awaitsInput = true
  · exact absurd hq (hnone hwait q)
  · obtain ⟨r, hr⟩ := hone (by simpa using hwait)
    have hwoken : At b k id (.woken i) := hdue.resolve_left hwait
    rw [(hr q).1 hq, (hr _).1 hwoken]

variable [DecidableEq δ]

/-- What a job does to the wakings that cancels a timer. -/
theorem at_clears {d : δ} {id₀ : String} (id : String) (p : Place δ) :
    At { b with timers := Function.update b.timers d ((b.timers d).remove id₀) } k id p ↔
      At b k id p ∧ ¬ (id = id₀ ∧ p = .pending d) := by
  cases p with
  | pending e =>
    by_cases he : e = d
    · subst he
      simp [At, Timers.mem_ids_remove]
    · simp [At, he]
  | _ => simp [At]

/-- What a timer does to the wakings that goes off: its job keeps the waking from then on. -/
theorem at_fires {i : Nat} {d : δ} {id₀ : String} (hi : k i = {}) (id : String) (p : Place δ) :
    At { b with timers := Function.update b.timers d ((b.timers d).remove id₀) }
        (Function.update k i { due := some id₀ }) id p ↔
      (At b k id p ∧ ¬ (id = id₀ ∧ p = .pending d)) ∨ (id = id₀ ∧ p = .woken i) := by
  cases p with
  | pending e =>
    by_cases he : e = d
    · subst he
      simp [At, Timers.mem_ids_remove]
    · simp [At, he]
  | woken j =>
    by_cases hj : j = i
    · subst hj
      simp [At, hi, eq_comm]
    · simp [At, hj]
  | owed j =>
    by_cases hj : j = i
    · subst hj
      simp [At, hi]
    · simp [At, hj]
  | lost => simp [At]

/-- What a job does to the wakings that sets the timer that it owes. -/
theorem at_sets {i : Nat} {d : δ} {c : Conversation} {seconds : Number.Binary64}
    (ho : (k i).owes = some c) (id : String) (p : Place δ) :
    At { b with timers := Function.update b.timers d ((b.timers d).schedule c.id seconds c.wake) }
        (Function.update k i { k i with owes := none }) id p ↔
      (At b k id p ∧ ¬ (id = c.id ∧ p = .owed i)) ∨ (id = c.id ∧ p = .pending d) := by
  cases p with
  | pending e =>
    by_cases he : e = d
    · subst he
      simp [At, Timers.mem_ids_schedule]
    · simp [At, he]
  | woken j => simp only [At, update_due]; simp
  | owed j =>
    by_cases hj : j = i
    · subst hj
      simp [At, ho, eq_comm]
    · simp [At, hj]
  | lost => simp [At]

/-- What a job is charged with waking is in the ledger. -/
theorem Moves.known {id : String} {p : Place δ} (h : Moves b k b' k') (hs : Sound b k)
    (hx : Accounted b k) (hp : At b' k' id p) : ∃ c, b'.ledger.find? id = some c := by
  have before : ∀ q, At b k id q → ∃ c, b'.ledger.find? id = some c := by
    intro q hq
    obtain ⟨c, hc⟩ := hx.known id q hq
    obtain ⟨c', hc', -⟩ := h.grows hs id c hc
    exact ⟨c', hc'⟩
  cases h with
  | rests | tells | rewrites | silences | publishes => exact before p hp
  | learns | sees | mints | ends =>
    refine before p ((at_update ?_ ?_ ?_ ?_).1 hp) <;> rfl
  | begins i c hc ho ha =>
    rcases (at_keeping (c := { c with version := 1 }) ho rfl rfl _ id p).1 hp with ⟨hp, -⟩ | ⟨rfl, -⟩
    · exact before p hp
    · exact ⟨_, by rw [Ledger.find?_keep, if_pos rfl]⟩
  | continues i c q now hc ho hq =>
    rcases (at_keeping (c := { c with version := q.version + 1, updatedAt := now }) ho rfl rfl _ id
      p).1 hp with ⟨hp, -⟩ | ⟨rfl, -⟩
    · exact before p hp
    · exact ⟨_, by rw [Ledger.find?_keep, if_pos rfl]⟩
  | sets i d c seconds ho =>
    rcases (at_sets ho id p).1 hp with ⟨hp, -⟩ | ⟨rfl, -⟩
    · exact before p hp
    · exact before (.owed i) (by simp [At, ho])
  | clears i d id' hid =>
    exact before p ((at_clears id p).1 hp).1
  | fires i d id' w hi hw =>
    have hmem := Dictionary.mem_of_find? hw
    have hname : w.conversation = id' := hx.named d _ hmem
    rw [hname] at hp
    rcases (at_fires hi id p).1 hp with ⟨hp, -⟩ | ⟨rfl, -⟩
    · exact before p hp
    · refine before (.pending d) ?_
      show _ ∈ (b.timers d).ids
      rw [Timers.ids_eq]
      exact List.mem_map_of_mem (f := (·.1)) hmem
  | closes i r ho hr =>
    rcases (at_closes ho hr id p).1 hp with ⟨hp, -⟩ | ⟨-, hdue⟩
    · exact before p hp
    · exact before (.woken i) hdue

theorem mem_update_timers {T : δ → Timers Wake} {d e : δ} {ts : Timers Wake} {p : String × Wake}
    (h : p ∈ (Function.update T e ts d).actions) : p ∈ ts.actions ∨ p ∈ (T d).actions := by
  by_cases hd : d = e
  · subst hd
    rw [Function.update_self] at h
    exact Or.inl h
  · rw [Function.update_of_ne hd] at h
    exact Or.inr h

/-- A timer stands for the conversation that it has the id of. -/
theorem Moves.named {d : δ} {p : String × Wake} (h : Moves b k b' k') (hx : Accounted b k)
    (hp : p ∈ (b'.timers d).actions) : p.2.conversation = p.1 := by
  cases h with
  | sets i e c seconds ho =>
    rcases mem_update_timers hp with hp | hp
    · rcases Timers.mem_actions_schedule.1 hp with hp | rfl
      · exact hx.named e p (Timers.mem_actions_remove.1 hp).1
      · rfl
    · exact hx.named d p hp
  | clears i e id hid =>
    rcases mem_update_timers hp with hp | hp
    · exact hx.named e p (Timers.mem_actions_remove.1 hp).1
    · exact hx.named d p hp
  | fires i e id w hi hw =>
    rcases mem_update_timers hp with hp | hp
    · exact hx.named e p (Timers.mem_actions_remove.1 hp).1
    · exact hx.named d p hp
  | _ => exact hx.named d p hp

/-- Every move leaves every conversation of the ledger accounted for. -/
theorem Moves.wakes {id : String} {c : Conversation} (h : Moves b k b' k') (hs : Sound b k)
    (hx : Accounted b k) (hc : b'.ledger.find? id = some c) : Wakes (At b' k' id) c := by
  have keeping : ∀ (i : Nat) (d : Conversation) (n : Notes), (k i).owes = none →
      n.due = (if (k i).due = some d.id then none else (k i).due) →
      n.owes = (if d.isActive && !d.awaitsInput then some d else none) →
      (∀ q, At b k d.id q → q = .woken i) → (b.ledger.keep d).find? id = some c →
      Wakes (At { b with ledger := b.ledger.keep d } (Function.update k i n) id) c := by
    intro i d n ho hd hn hleft hc
    rw [Ledger.find?_keep] at hc
    by_cases hid : d.id = id
    · rw [if_pos hid] at hc
      cases hc
      exact hid ▸ wakes_keeping ho hd hn hleft _
    · rw [if_neg hid] at hc
      refine (hx.wakes id c hc).of_iff (fun p => ?_) rfl rfl
      rw [at_keeping ho hd hn]
      have hid' : ¬ id = d.id := fun e => hid e.symm
      simp [hid']
  cases h with
  | rests => exact hx.wakes id c hc
  | tells | publishes =>
    exact (hx.wakes id c hc).of_iff
      (at_congr rfl rfl (fun _ => rfl) (fun _ => rfl) id) rfl rfl
  | learns | sees | mints =>
    refine (hx.wakes id c hc).of_iff (fun p => at_update ?_ ?_ ?_ ?_) rfl rfl <;> rfl
  | begins i d hd ho ha =>
    refine keeping i { d with version := 1 } _ ho rfl rfl (fun q hq => ?_) hc
    -- A new conversation has no waking so far: its id is in no place before it is in the ledger.
    obtain ⟨e, he⟩ := hx.known d.id q hq
    rw [(hs.fresh i d.id hd.1).2] at he
    cases he
  | continues i d p now hd ho hp =>
    obtain ⟨hact, hdue, hid, -⟩ := hs.prior hd hp
    rw [← hid] at hdue
    exact keeping i { d with version := p.version + 1, updatedAt := now } _ ho rfl rfl
      (hx.eq_woken hp hact hdue) hc
  | ends i key now =>
    rcases Ledger.find?_of_deactivate hc with hc | ⟨d, hd, hover, -⟩
    · refine (hx.wakes id c hc).of_iff (fun p => at_update ?_ ?_ ?_ ?_) rfl rfl <;> rfl
    · exact wakes_of_over hover
  | silences key now =>
    rcases Ledger.find?_of_deactivate hc with hc | ⟨d, hd, hover, -⟩
    · exact (hx.wakes id c hc).of_iff (at_congr rfl rfl (fun _ => rfl) (fun _ => rfl) id) rfl rfl
    · exact wakes_of_over hover
  | sets i d e seconds ho =>
    by_cases hid : id = e.id
    · subst hid
      have hA : At b k e.id (.owed i) := by simp [At, ho]
      refine (hx.wakes _ c hc).relocate (.owed i) (.pending d) hA fun p => ?_
      rw [at_sets ho]
      simp
    · refine (hx.wakes id c hc).of_iff (fun p => ?_) rfl rfl
      rw [at_sets ho]
      simp [hid]
  | clears i d id₀ hover =>
    by_cases hid : id = id₀
    · subst hid
      -- Only timers of conversations that are over are cancelled, so no waking goes with them.
      obtain ⟨e, he, hover⟩ := hs.ended i id hover
      obtain rfl : e = c := Option.some.inj (he.symm.trans hc)
      exact wakes_of_over hover
    · refine (hx.wakes id c hc).of_iff (fun p => ?_) rfl rfl
      rw [at_clears]
      simp [hid]
  | fires i d id₀ w hi hw =>
    have hmem := Dictionary.mem_of_find? hw
    obtain rfl : w.conversation = id₀ := hx.named d _ hmem
    by_cases hid : id = w.conversation
    · subst hid
      have hA : At b k w.conversation (.pending d) := by
        show _ ∈ (b.timers d).ids
        rw [Timers.ids_eq]
        exact List.mem_map_of_mem (f := (·.1)) hmem
      refine (hx.wakes _ c hc).relocate (.pending d) (.woken i) hA fun p => ?_
      rw [at_fires hi]
      simp
    · refine (hx.wakes id c hc).of_iff (fun p => ?_) rfl rfl
      rw [at_fires hi]
      simp [hid]
  | closes i r ho hr =>
    by_cases hdue : (k i).due = some id
    -- This is where a conversation gets lost: its waking ends with the job that it was given to.
    · refine (hx.wakes id c hc).relocate (.woken i) .lost hdue fun p => ?_
      rw [at_closes ho hr]
      simp [hdue]
    · refine (hx.wakes id c hc).of_iff (fun p => ?_) rfl rfl
      have hne : At b k id p → p ≠ .woken i := by
        rintro hp rfl
        exact hdue hp
      rw [at_closes ho hr]
      simp only [hdue, and_false, or_false, and_iff_left_iff_imp]
      exact hne
  | rewrites d now hd ha =>
    have hat : ∀ l p, At { b with ledger := l } k id p ↔ At b k id p :=
      fun _ => at_congr rfl rfl (fun _ => rfl) (fun _ => rfl) id
    rw [Ledger.find?_keep] at hc
    split at hc
    · rename_i hid
      cases hc
      exact (hx.wakes id d (hid ▸ hd)).of_iff (hat _) rfl rfl
    · exact (hx.wakes id c hc).of_iff (hat _) rfl rfl

/-- Every move leaves the wakings accounted for. -/
theorem Accounted.move (hx : Accounted b k) (hs : Sound b k) (h : Moves b k b' k') :
    Accounted b' k' where
  known _ _ hp := h.known hs hx hp
  named _ _ hp := h.named hx hp
  wakes _ _ hc := h.wakes hs hx hc

/-! ## Runs -/

/-- The number of the job that an event is about. -/
def Event.number? : Event δ → Option Nat
  | begin i _ _ | fire i _ _ | go i _ | finish i => some i
  | _ => none

/-- An event leaves all jobs alone but the one that it is about. -/
theorem Floor.act_jobs (f : Floor δ) {e : Event δ} {j : Nat} (hj : e.number? ≠ some j) :
    (f.act e).jobs j = f.jobs j := by
  have other : ∀ (g : Floor δ) (i : Nat) (job : Option (Job δ)), i ≠ j → g.jobs = f.jobs →
      (g.assign i job).jobs j = f.jobs j := by
    intro g i job hi hg
    show Function.update g.jobs i job j = f.jobs j
    rw [Function.update_of_ne hi.symm, hg]
  cases e with
  | begin i d e =>
    have hi : i ≠ j := fun h => hj (congrArg some h)
    show (f.accept i d e).jobs j = _
    unfold accept
    split
    · exact other f i _ hi rfl
    · rfl
  | fire i d id =>
    have hi : i ≠ j := fun h => hj (congrArg some h)
    show (f.fire i d id).jobs j = _
    unfold fire
    split
    · split
      · exact other (f.setTimers d _) i _ hi rfl
      · rfl
    · rfl
  | go i around =>
    have hi : i ≠ j := fun h => hj (congrArg some h)
    show (f.go i around).jobs j = _
    unfold go
    split
    · rfl
    · rename_i job hjob
      split
      · rename_i q next hw
        have hjobs := f.answer_jobs i job.desk around q
        split <;> rename_i hans <;> rw [hans] at hjobs
        · exact congrFun hjobs j
        · exact other _ i _ hi hjobs
      · rfl
  | finish i =>
    have hi : i ≠ j := fun h => hj (congrArg some h)
    show (f.finish i).jobs j = _
    unfold finish
    split
    · rfl
    · split
      · rfl
      · exact other _ i none hi rfl
  | rewrite id now =>
    show (f.rewrite id now).jobs j = _
    unfold rewrite
    split
    · split <;> rfl
    · rfl
  | silence contact now => rfl
  | publish g => rfl

theorem Floor.run_jobs (f : Floor δ) (es : List (Event δ)) {j : Nat}
    (hj : ∀ e ∈ es, e.number? ≠ some j) : (f.run es).jobs j = f.jobs j := by
  induction es generalizing f with
  | nil => rfl
  | cons e es ih =>
    have hrest := ih (f.act e) fun e' he' => hj e' (List.mem_cons_of_mem _ he')
    exact hrest.trans (f.act_jobs (hj e List.mem_cons_self))

end

end Parley
