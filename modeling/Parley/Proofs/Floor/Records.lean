import Parley.Proofs.Floor.Moves
import Parley.Proofs.Floor.Opening

/-!
# The records that desks share

Desks do not share their locks, so what holds of the ledger must come from the ledger alone: a
conversation is written over the version at which it was shown, and a new one is kept only where its
key has no active one. `Sound` says what this comes to while any number of jobs are under way. A
conversation that a job was shown is still the one in the ledger, or has a lower version
(`Sound.current`), so that a job that writes over its version writes over an active conversation
(`Sound.prior`).

Every move leaves the books sound (`Sound.move`), and the ledger only grows (`Moves.grows`).
-/

namespace Parley

open Desk (Notes)

section
variable {δ : Type}

/-- What the notes of the jobs say of the ledger. -/
structure Sound (b : Books δ) (k : Nat → Notes) : Prop where
  tidy : b.ledger.IsTidy
  single : b.ledger.IsSingle
  issued : ∀ id c, b.ledger.find? id = some c → id ∈ b.issued
  /-- An id that was made up and not used yet is nobody else's. -/
  fresh : ∀ i, ∀ id ∈ (k i).ids, id ∈ b.issued ∧ b.ledger.find? id = none
  apart : ∀ i j id, id ∈ (k i).ids → id ∈ (k j).ids → i = j
  /-- A conversation that was shown is the one in the ledger, or of a lower version. -/
  current : ∀ i, ∀ p ∈ (k i).seen,
    ∃ c, b.ledger.find? p.id = some c ∧ (c = p ∨ p.version < c.version)
  ended : ∀ i, ∀ id ∈ (k i).ended, ∃ c, b.ledger.find? id = some c ∧ c.isActive = false

theorem sound_opening (settings : δ → Desk.Settings) (flows : Dictionary Flow) :
    Sound (Floor.opening settings flows).books fun _ => {} where
  tidy := Ledger.isTidy_empty flows
  single := Ledger.isSingle_empty flows
  issued id c h := by cases h
  fresh i id h := by cases h
  apart i j id h := by cases h
  current i p h := by cases h
  ended i id h := by cases h

variable {b b' : Books δ} {k k' : Nat → Notes}

/-- What a job writes over is what it was shown. -/
theorem Sound.shown {i : Nat} {c p : Conversation} (hs : Sound b k)
    (hc : (k i).Continues c p.version) (hp : b.ledger.find? c.id = some p) :
    p.isActive = true ∧ (p.awaitsInput = true ∨ (k i).due = some p.id) ∧ c.id = p.id ∧
      c.contact = p.contact ∧ c.flowId = p.flowId ∧ p.KeepsNames c ∧
      ∃ f, (c.flowId, f) ∈ (k i).flows ∧ (p.StandsIn f → c.StandsIn f) := by
  obtain ⟨q, hq, hact, hv, hdue, hid, hcon, hflow, hkept, hf⟩ := hc
  obtain ⟨c', hc', hcur⟩ := hs.current i q hq
  rw [hid, hc'] at hp
  cases hp
  -- The ledger has the version of the conversation that was shown, so it has that conversation.
  rcases hcur with rfl | hlt
  · exact ⟨hact, hdue, hid, hcon, hflow, hkept, hf⟩
  · omega

theorem Sound.prior {i : Nat} {c p : Conversation} (hs : Sound b k)
    (hc : (k i).Continues c p.version) (hp : b.ledger.find? c.id = some p) :
    p.isActive = true ∧ (p.awaitsInput = true ∨ (k i).due = some p.id) ∧ c.id = p.id ∧
      c.contact = p.contact ∧ c.flowId = p.flowId ∧
      ∃ f, (c.flowId, f) ∈ (k i).flows ∧ (p.StandsIn f → c.StandsIn f) := by
  obtain ⟨hact, hdue, hid, hcon, hflow, -, hf⟩ := hs.shown hc hp
  exact ⟨hact, hdue, hid, hcon, hflow, hf⟩

/-- What is new in one of the notes is what is new in those of the job that was changed. -/
theorem mem_of_update {α : Type} {g : Notes → List α} {i j : Nat} {n : Notes} {x : α}
    (h : x ∈ g (Function.update k i n j)) (hn : x ∈ g n → x ∈ g (k i)) : x ∈ g (k j) := by
  by_cases hj : j = i
  · subst hj
    rw [Function.update_self] at h
    exact hn h
  · rwa [Function.update_of_ne hj] at h

variable [DecidableEq δ]

/-- The ledger only grows. -/
theorem Moves.grows (h : Moves b k b' k') (hs : Sound b k) : b.ledger.Grows b'.ledger := by
  cases h with
  | tells e => exact Ledger.grows_of_find? fun _ => rfl
  | begins i c hc ho ha =>
    refine Ledger.grows_keep fun p hp => ?_
    rw [(hs.fresh i c.id hc.1).2] at hp
    cases hp
  | continues i c p now hc ho hp =>
    refine Ledger.grows_keep fun q hq => ?_
    obtain rfl : p = q := Option.some.inj (hp.symm.trans hq)
    refine ⟨(hs.prior hc hp).1, ?_⟩
    show p.version < p.version + 1
    omega
  | ends | silences => exact Ledger.grows_deactivate _ _ _
  | rewrites c now hc ha =>
    refine Ledger.grows_keep fun q hq => ?_
    obtain rfl : c = q := Option.some.inj (hc.symm.trans hq)
    refine ⟨ha, ?_⟩
    show c.version < c.version + 1
    omega
  | publishes g => exact Ledger.grows_of_find? fun _ => rfl
  | _ => exact Ledger.grows_of_find? fun _ => rfl

/-- What a job is shown is in the ledger. -/
theorem Moves.seen {j : Nat} {p : Conversation} (h : Moves b k b' k') (hp : p ∈ (k' j).seen) :
    p ∈ (k j).seen ∨ b'.ledger.find? p.id = some p := by
  cases h with
  | rests | tells | clears | rewrites | silences | publishes => exact Or.inl hp
  | sees i c hc =>
    by_cases hj : j = i
    · subst hj
      rw [Function.update_self] at hp
      rcases List.mem_cons.1 hp with rfl | hp
      · exact Or.inr hc
      · exact Or.inl hp
    · rw [Function.update_of_ne hj] at hp
      exact Or.inl hp
  | fires => exact Or.inl (mem_of_update (g := Notes.seen) hp fun h => by cases h)
  | closes => exact Or.inl (mem_of_update (g := Notes.seen) hp fun h => by cases h)
  | _ => exact Or.inl (mem_of_update (g := Notes.seen) hp fun h => h)

/-- What a job knows to be over is over in the ledger. -/
theorem Moves.ended {j : Nat} {id : String} (h : Moves b k b' k') (hs : Sound b k)
    (hid : id ∈ (k' j).ended) :
    id ∈ (k j).ended ∨ ∃ c, b'.ledger.find? id = some c ∧ c.isActive = false := by
  have kept : ∀ (i : Nat) (c : Conversation) (n : Notes),
      n.ended = (if c.isActive then (k i).ended else c.id :: (k i).ended) →
      b'.ledger.find? c.id = some c → id ∈ (Function.update k i n j).ended →
      id ∈ (k j).ended ∨ ∃ c, b'.ledger.find? id = some c ∧ c.isActive = false := by
    intro i c n hn hc hid
    by_cases hact : c.isActive = true
    · rw [if_pos hact] at hn
      exact Or.inl (mem_of_update (g := Notes.ended) hid fun h => hn ▸ h)
    · rw [if_neg hact] at hn
      by_cases hid' : id = c.id
      · subst hid'
        exact Or.inr ⟨c, hc, by simpa using hact⟩
      · refine Or.inl (mem_of_update (g := Notes.ended) hid fun h => ?_)
        rw [hn] at h
        exact (List.mem_cons.1 h).resolve_left hid'
  cases h with
  | rests | tells | clears | rewrites | silences | publishes => exact Or.inl hid
  | begins i c hc ho ha => exact kept i { c with version := 1 } _ rfl (by simp [Ledger.find?_keep]) hid
  | continues i c p now hc ho hp =>
    exact kept i { c with version := p.version + 1, updatedAt := now } _ rfl
      (by simp [Ledger.find?_keep]) hid
  | ends i key now =>
    by_cases hj : j = i
    · subst hj
      rw [Function.update_self] at hid
      rcases List.mem_append.1 hid with hid | hid
      · obtain ⟨c, hc, hk⟩ := hs.tidy.mem_deactivate.1 hid
        refine Or.inr ⟨_, by rw [Ledger.find?_deactivate, hc]; rfl, ?_⟩
        simp [Ledger.deactivated, hk, Conversation.finished]
      · exact Or.inl hid
    · rw [Function.update_of_ne hj] at hid
      exact Or.inl hid
  | fires => exact Or.inl (mem_of_update (g := Notes.ended) hid fun h => by cases h)
  | closes => exact Or.inl (mem_of_update (g := Notes.ended) hid fun h => by cases h)
  | _ => exact Or.inl (mem_of_update (g := Notes.ended) hid fun h => h)

/-- An id that a job may use it could use before, or it was made up just now. -/
theorem Moves.ids {j : Nat} {id : String} (h : Moves b k b' k') (hid : id ∈ (k' j).ids) :
    id ∈ (k j).ids ∨ (id ∉ b.issued ∧ b'.issued = id :: b.issued ∧ b'.ledger = b.ledger ∧
      ∀ i, id ∈ (k' i).ids → id ∉ (k i).ids → i = j) := by
  cases h with
  | rests | tells | clears | rewrites | silences | publishes => exact Or.inl hid
  | mints i id' hid' =>
    by_cases hj : j = i
    · subst hj
      rw [Function.update_self] at hid
      rcases List.mem_cons.1 hid with rfl | hid
      · refine Or.inr ⟨hid', rfl, rfl, fun i hi hi' => ?_⟩
        by_contra hij
        rw [Function.update_of_ne hij] at hi
        exact hi' hi
      · exact Or.inl hid
    · rw [Function.update_of_ne hj] at hid
      exact Or.inl hid
  | begins i c hc ho ha =>
    exact Or.inl (mem_of_update (g := Notes.ids) hid fun h => (List.mem_filter.1 h).1)
  | fires => exact Or.inl (mem_of_update (g := Notes.ids) hid fun h => by cases h)
  | closes => exact Or.inl (mem_of_update (g := Notes.ids) hid fun h => by cases h)
  | _ => exact Or.inl (mem_of_update (g := Notes.ids) hid fun h => h)

/-- A conversation is kept under an id that was in the ledger, or under one of its job that no job
may use any more. -/
theorem Moves.stored {id : String} {c : Conversation} (h : Moves b k b' k') (hs : Sound b k)
    (hc : b'.ledger.find? id = some c) :
    (∃ d, b.ledger.find? id = some d) ∨ ((∃ i, id ∈ (k i).ids) ∧ ∀ j, id ∉ (k' j).ids) := by
  cases h with
  | begins i d hd ho ha =>
    rw [Ledger.find?_keep] at hc
    split at hc
    · rename_i hid
      have hmem : id ∈ (k i).ids := hid ▸ hd.1
      refine Or.inr ⟨⟨i, hmem⟩, fun j hj => ?_⟩
      by_cases hji : j = i
      · subst hji
        rw [Function.update_self] at hj
        have hne : id ≠ d.id := by simpa using (List.mem_filter.1 hj).2
        exact hne hid.symm
      · rw [Function.update_of_ne hji] at hj
        exact hji (hs.apart j i id hj hmem)
    · exact Or.inl ⟨c, hc⟩
  | continues i d p now hd ho hp =>
    rw [Ledger.find?_keep] at hc
    split at hc
    · rename_i hid
      exact Or.inl ⟨p, hid ▸ hp⟩
    · exact Or.inl ⟨c, hc⟩
  | ends | silences =>
    rw [Ledger.find?_deactivate] at hc
    obtain ⟨d, hd, -⟩ := Option.map_eq_some_iff.1 hc
    exact Or.inl ⟨d, hd⟩
  | rewrites d now hd ha =>
    rw [Ledger.find?_keep] at hc
    split at hc
    · rename_i hid
      exact Or.inl ⟨d, hid ▸ hd⟩
    · exact Or.inl ⟨c, hc⟩
  | _ => exact Or.inl ⟨c, hc⟩

theorem Moves.issued {id : String} (h : Moves b k b' k') (hid : id ∈ b.issued) :
    id ∈ b'.issued := by
  cases h with
  | mints i id' hid' => exact List.mem_cons_of_mem _ hid
  | _ => exact hid

theorem Moves.tidy (h : Moves b k b' k') (ht : b.ledger.IsTidy) : b'.ledger.IsTidy := by
  cases h with
  | begins | continues | rewrites => exact ht.keep _
  | ends | silences => exact ht.deactivate _ _
  | _ => exact ⟨ht.nodup, ht.ids⟩

theorem Moves.single (h : Moves b k b' k') (hs : Sound b k) : b'.ledger.IsSingle := by
  -- A write over an active conversation takes the place of the active one of its key.
  have above : ∀ c p : Conversation, p.isActive = true → c.id = p.id → c.key = p.key →
      b.ledger.find? p.id = some p → (b.ledger.keep c).IsSingle := by
    intro c p hact hid hkey hp
    refine hs.single.keep fun key hck id d hd hdk => ?_
    have hpk : Ledger.holds key p = true := by
      rw [Ledger.holds_iff] at hck ⊢
      exact ⟨hact, hkey ▸ hck.2⟩
    rw [hid]
    exact hs.single key id d p.id p hd hp hdk hpk
  cases h with
  | begins i c hc ho ha =>
    refine hs.single.keep fun key hck id d hd hdk => ?_
    have hkey : c.key = key := (Ledger.holds_iff.1 hck).2
    rw [hs.tidy.not_holds_of_active? (hkey ▸ ha) hd] at hdk
    cases hdk
  | continues i c p now hc ho hp =>
    obtain ⟨hact, -, hid, hcon, -⟩ := hs.prior hc hp
    have hkey : c.key = p.key := congrArg Contact.key hcon
    exact above _ p hact hid hkey (hid ▸ hp)
  | ends | silences => exact hs.single.deactivate _ _
  | rewrites c now hc ha => exact above _ c ha rfl rfl hc
  | _ => exact hs.single

/-- Every move leaves the books sound. -/
theorem Sound.move (hs : Sound b k) (h : Moves b k b' k') : Sound b' k' where
  tidy := h.tidy hs.tidy
  single := h.single hs
  issued id c hc := by
    rcases h.stored hs hc with ⟨d, hd⟩ | ⟨⟨i, hi⟩, -⟩
    · exact h.issued (hs.issued id d hd)
    · exact h.issued (hs.fresh i id hi).1
  fresh i id hid := by
    constructor
    · rcases h.ids hid with hid | ⟨-, hissued, -⟩
      · exact h.issued (hs.fresh i id hid).1
      · rw [hissued]
        exact List.mem_cons_self
    · cases hc : b'.ledger.find? id with
      | none => rfl
      | some c =>
        rcases h.stored hs hc with ⟨d, hd⟩ | ⟨-, hj⟩
        · rcases h.ids hid with hid | ⟨hnew, -⟩
          · rw [(hs.fresh i id hid).2] at hd
            cases hd
          · exact absurd (hs.issued id d hd) hnew
        · exact absurd hid (hj i)
  apart i j id hi hj := by
    rcases h.ids hi with hi' | ⟨hnew, -, -, honly⟩
    · rcases h.ids hj with hj' | ⟨hnew, -⟩
      · exact hs.apart i j id hi' hj'
      · exact absurd (hs.fresh i id hi').1 hnew
    · refine (honly j hj fun hj' => ?_).symm
      exact hnew (hs.fresh j id hj').1
  current i p hp := by
    rcases h.seen hp with hp | hp
    · obtain ⟨c, hc, hcur⟩ := hs.current i p hp
      obtain ⟨c', hc', hgrows⟩ := h.grows hs p.id c hc
      refine ⟨c', hc', ?_⟩
      rcases hgrows with rfl | ⟨-, hlt⟩
      · exact hcur
      · rcases hcur with rfl | hlt'
        · exact Or.inr hlt
        · exact Or.inr (by omega)
    · exact ⟨p, hp, Or.inl rfl⟩
  ended i id hid := by
    rcases h.ended hs hid with hid | hid
    · obtain ⟨c, hc, hover⟩ := hs.ended i id hid
      obtain ⟨c', hc', rfl | ⟨hact, -⟩⟩ := h.grows hs id c hc
      · exact ⟨c', hc', hover⟩
      · rw [hover] at hact
        cases hact
    · exact hid

/-! ## Runs -/

/-- Whatever the moves uphold is upheld by a run. -/
theorem run_upholds (X : Books δ → (Nat → Notes) → Prop) (allowed : Event δ → Prop)
    (hX : ∀ {f : Floor δ} {k e k'}, allowed e → Sound f.books k → X f.books k →
      Moves f.books k (f.act e).books k' → X (f.act e).books k')
    {f : Floor δ} {k : Nat → Notes} (hc : Conducted f k) (hs : Sound f.books k) (hx : X f.books k)
    (es : List (Event δ)) (hes : ∀ e ∈ es, allowed e) :
    ∃ k', Conducted (f.run es) k' ∧ Sound (f.run es).books k' ∧ X (f.run es).books k' := by
  -- The notes are chosen anew at every step: they are what the jobs have been told up to there.
  induction es generalizing f k with
  | nil => exact ⟨k, hc, hs, hx⟩
  | cons e es ih =>
    obtain ⟨k', hmoves, hc'⟩ := act_moves hc hs.tidy e
    have hx' := hX (hes e List.mem_cons_self) hs hx hmoves
    exact ih hc' (hs.move hmoves) hx' fun e' he' => hes e' (List.mem_cons_of_mem _ he')

/-- The books are sound after every run. -/
theorem run_sound (settings : δ → Desk.Settings) (flows : Dictionary Flow) (es : List (Event δ)) :
    ∃ k, Conducted ((Floor.opening settings flows).run es) k ∧
      Sound ((Floor.opening settings flows).run es).books k := by
  obtain ⟨k, hc, hs, -⟩ := run_upholds (fun _ _ => True) (fun _ => True)
    (fun _ _ _ _ => trivial) (conducted_opening settings flows) (sound_opening settings flows)
    trivial es fun _ _ => trivial
  exact ⟨k, hc, hs⟩

/-- However many desks share a ledger, and whatever happens: a key has one active conversation at
most. -/
theorem Floor.length_active_le_one (settings : δ → Desk.Settings) (flows : Dictionary Flow)
    (es : List (Event δ)) (key : String) :
    (((opening settings flows).run es).books.ledger.all.filter (Ledger.holds key)).length ≤ 1 := by
  obtain ⟨k, -, hs⟩ := run_sound settings flows es
  exact hs.tidy.length_filter_holds hs.single key

/-- The ledger only grows in a run. -/
theorem run_grows {f : Floor δ} {k : Nat → Notes} (hc : Conducted f k) (hs : Sound f.books k)
    (es : List (Event δ)) : f.books.ledger.Grows (f.run es).books.ledger := by
  obtain ⟨-, -, -, hgrows⟩ := run_upholds (fun b _ => f.books.ledger.Grows b.ledger)
    (fun _ => True) (fun _ hs hx hmoves => hx.trans (hmoves.grows hs)) hc hs
    (Ledger.grows_of_find? fun _ => rfl) es fun _ _ => trivial
  exact hgrows

/-- A conversation that is over stays in the ledger as it is, whatever happens afterwards: the turns
that were under way for it and the timers that go off for it change nothing. -/
theorem Floor.over_stays (settings : δ → Desk.Settings) (flows : Dictionary Flow)
    (es later : List (Event δ)) {id : String} {c : Conversation}
    (hc : ((opening settings flows).run es).books.ledger.find? id = some c)
    (hover : c.isActive = false) :
    ((opening settings flows).run (es ++ later)).books.ledger.find? id = some c := by
  obtain ⟨k, hcond, hs⟩ := run_sound settings flows es
  rw [run_append]
  obtain ⟨c', hc', rfl | ⟨hact, -⟩⟩ := run_grows hcond hs later id c hc
  · exact hc'
  · rw [hover] at hact
    cases hact

end

/-- A conversation waits for its timer at one desk. The timer goes off, and while its turn is under
way the conversation is cancelled at the other desk. -/
def cancelledMeanwhile : List (Event Bool) :=
  [.begin 0 false (.start visitor "pausing" none none none), .go 0 (quietly none),
    .go 0 (quietly none)] ++
  (List.replicate 12 (.go 0 (quietly none)) ++ [.finish 0, .fire 1 false "talk"] ++
    List.replicate 4 (.go 1 (quietly none)) ++ [.begin 2 true (.cancel visitor)] ++
    List.replicate 4 (.go 2 (quietly none)))

/-- The turn that was under way comes to its end. -/
def turnAfterwards : List (Event Bool) := List.replicate 12 (.go 1 (quietly none)) ++ [.finish 1]

theorem Floor.over_stays_cancelledMeanwhile :
    ∃ c, ((pausingFloor Bool (.ofInt 5)).run cancelledMeanwhile).books.ledger.find? "talk" =
        some c ∧ c.isActive = false ∧
      ((pausingFloor Bool (.ofInt 5)).run (cancelledMeanwhile ++ turnAfterwards)
        ).books.ledger.find? "talk" = some c := by
  have h : (((pausingFloor Bool (.ofInt 5)).run cancelledMeanwhile).books.ledger.find? "talk").map
      (·.isActive) = some false := by
    unfold cancelledMeanwhile
    rw [run_append, pausingFloor_run]
    decide +kernel
  obtain ⟨c, hc, hover⟩ := Option.map_eq_some_iff.1 h
  exact ⟨c, hc, hover, over_stays _ _ _ _ hc hover⟩

end Parley
