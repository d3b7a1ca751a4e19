import Parley.Proofs.Desk.Chronicle
import Parley.Proofs.Floor.Doings

/-!
# The trail of a conversation

On a floor of one desk, where nobody else writes to the ledger, the history of every conversation is
a trail through its flow, failures apart: it begins at the start, each node that is entered is one
step away from the one entered before, and whatever is told of a node is told of the node entered
last. Whenever nobody holds the key of its contact, the conversation stands at the node entered
last, or one step away where it is to enter its node first (`Floor.trail_of_run`). Turns may
overlap, fail and be cut short.

`Histories` says this of a ledger while some jobs have a page open, whose conversations are told of
only in part; `Chronicled` says it of a floor. `Chronicled.answered` is the step. A page that is
open is that of the holder of a key, so that nobody else writes what it tells of.
-/

namespace Parley

open Desk (Ask Errand Outcome Stand Hold Page Pen)

namespace Desk

open Program

/-- The work of every errand keeps to the chronicle. -/
theorem Errand.work_chronicles (flows : Dictionary Flow) (s : Settings) (e : Errand) :
    Chronicles flows {} (e.work s) := by
  have hk : ({} : Pen).IsWhole flows := Pen.isWhole_of_none rfl
  cases e with
  | start contact flowId text name phone =>
    exact (holding_chronicles hk (startHeld_chronicles s contact flowId text name phone hk)).andThen
      fun _ _ hk => hk
  | resume contact text =>
    exact (holding_chronicles hk (resumeHeld_chronicles s contact text hk)).andThen fun _ _ hk => hk
  | receive contact text name phone =>
    exact (holding_chronicles hk (receiveHeld_chronicles s contact text name phone hk)).andThen
      fun _ _ hk => hk
  | cancel contact =>
    exact (holding_chronicles hk (cancelHeld_chronicles contact hk)).andThen fun _ _ hk => hk
  | active contact =>
    refine Chronicles.andThen (keeps_store.2 ⟨hk, fun r _ => ?_⟩) fun _ _ hk => hk
    cases r <;> exact Pen.isWhole_of_none rfl
  | flowFor tenant text => exact (flowFor_chronicles tenant text hk).andThen fun _ _ hk => hk
  | wake w =>
    refine Chronicles.andThen ?_ fun _ _ hk => hk
    refine (holding_chronicles hk (continueHeld_chronicles s w hk)).andThen fun done k hk => ?_
    split
    · exact hk
    · split
      · refine plain_bind trivial hk fun answer _ => ?_
        exact Keeps.andThen (keeps_ofExcept.2 (k.isWhole_away flows)) fun _ _ hk => hk
      · exact hk

end Desk

/-! ## What is told in a ledger -/

/-- The histories are trails; those of conversations with an open page are told in part. -/
structure Histories (flows : Dictionary Flow) (l : Ledger) (pens : Nat → Pen) : Prop where
  /-- Of a conversation that was not kept only failures are told. -/
  unknown : ∀ id, l.find? id = none → ∀ e ∈ l.historyOf id, e.action = .error
  trails : ∀ id c, l.find? id = some c → ∃ g, Dictionary.find? flows c.flowId = some g ∧
    g.IsTrail none (l.historyOf id) ∧
    ((∀ i p, (pens i).page = some p → p.kept.id ≠ id) →
      c.ComesAfter g (lastEntered none (l.historyOf id)))
  pages : ∀ i p, (pens i).page = some p → l.find? p.kept.id = some p.kept ∧
    ∀ g, Dictionary.find? flows p.kept.flowId = some g → ∃ last, Desk.Begins p.before g last ∧
      lastEntered none (l.historyOf p.kept.id) = lastEntered last p.told

variable {flows : Dictionary Flow} {l : Ledger} {pens pens' : Nat → Pen} {i : Nat} {k : Pen}
  {c : Conversation} {e : Entry}

theorem histories_opening (settings : Unit → Desk.Settings) (flows : Dictionary Flow) :
    Histories flows (Floor.opening settings flows).books.ledger fun _ => {} where
  unknown id _ e he := by cases he
  trails id c hc := by cases hc
  pages i p hp := by cases hp

/-- A page of one job is put away. -/
theorem page_update {j : Nat} {p : Page} (hk : k.page = none)
    (hp : (Function.update pens i k j).page = some p) : j ≠ i ∧ (pens j).page = some p := by
  by_cases hji : j = i
  · subst hji
    rw [Function.update_self, hk] at hp
    cases hp
  · rw [Function.update_of_ne hji] at hp
    exact ⟨hji, hp⟩

/-- A page that is whole is put away. -/
theorem Histories.away (h : Histories flows l pens) (hwhole : (pens i).IsWhole flows)
    (hk : k.page = none) : Histories flows l (Function.update pens i k) where
  unknown := h.unknown
  trails id c hc := by
    obtain ⟨g, hg, htrail, hafter⟩ := h.trails id c hc
    refine ⟨g, hg, htrail, fun hpages => ?_⟩
    by_cases hopen : ∃ p, (pens i).page = some p ∧ p.kept.id = id
    · obtain ⟨p, hp, rfl⟩ := hopen
      obtain ⟨hstored, hlast⟩ := h.pages i p hp
      obtain rfl : c = p.kept := Option.some.inj (hc.symm.trans hstored)
      obtain ⟨last, hbegins, heq⟩ := hlast g hg
      rw [heq]
      exact hwhole p hp g last hg hbegins
    · refine hafter fun j p hp hid => ?_
      by_cases hji : j = i
      · subst hji
        exact hopen ⟨p, hp, hid⟩
      · refine hpages j p ?_ hid
        rw [Function.update_of_ne hji]
        exact hp
  pages j p hp := h.pages j p (page_update hk hp).2

/-- A failure is told, on a page or not. -/
theorem Histories.append_error (h : Histories flows l pens) (he : e.action = .error)
    (hk : k.page = (pens i).page.map fun p => { p with told := p.told ++ [e] }) :
    Histories flows (l.append e) (Function.update pens i k) := by
  have hlast : ∀ last, lastEntered last [e] = last := fun last => place_of_ne (by simp [he])
  have hhistory : ∀ id, lastEntered none ((l.append e).historyOf id) =
      lastEntered none (l.historyOf id) ∧
      ∀ g : Flow, g.IsTrail none (l.historyOf id) → g.IsTrail none ((l.append e).historyOf id) := by
    intro id
    rw [Ledger.historyOf_append]
    split
    · rw [lastEntered_append, hlast]
      refine ⟨rfl, fun g htrail => isTrail_append.2 ⟨htrail, isTrail_singleton.2 ?_⟩⟩
      simp [Entry.Follows, he]
    · exact ⟨rfl, fun g htrail => htrail⟩
  -- A failure on a page changes nothing of what is read there.
  have hpens : ∀ j, (Function.update pens i k j).page = (pens j).page ∨
      (Function.update pens i k j).page =
        (pens j).page.map fun p => { p with told := p.told ++ [e] } := by
    intro j
    by_cases hji : j = i
    · subst hji
      rw [Function.update_self]
      exact Or.inr hk
    · rw [Function.update_of_ne hji]
      exact Or.inl rfl
  refine ⟨fun id hid e' he' => ?_, fun id c hc => ?_, fun j p' hp' => ?_⟩
  · rw [Ledger.historyOf_append] at he'
    split at he'
    · rcases List.mem_append.1 he' with he' | he'
      · exact h.unknown id hid e' he'
      · rw [List.mem_singleton.1 he']
        exact he
    · exact h.unknown id hid e' he'
  · obtain ⟨g, hg, htrail, hafter⟩ := h.trails id c hc
    refine ⟨g, hg, (hhistory id).2 g htrail, fun hpages => ?_⟩
    rw [(hhistory id).1]
    refine hafter fun j p hp hid => ?_
    rcases hpens j with hj | hj <;> rw [hp] at hj
    · exact hpages j p hj hid
    · exact hpages j _ hj hid
  · have hthis : ∃ p, (pens j).page = some p ∧ p'.before = p.before ∧ p'.kept = p.kept ∧
        ∀ last, lastEntered last p'.told = lastEntered last p.told := by
      rcases hpens j with hj | hj <;> rw [hp'] at hj
      · exact ⟨p', hj.symm, rfl, rfl, fun _ => rfl⟩
      · obtain ⟨p, hp, rfl⟩ := Option.map_eq_some_iff.1 hj.symm
        exact ⟨p, hp, rfl, rfl, fun last => by rw [lastEntered_append, hlast]⟩
    obtain ⟨p, hp, hbefore, hkept, htold⟩ := hthis
    obtain ⟨hstored, hlast⟩ := h.pages j p hp
    rw [hkept, hbefore]
    refine ⟨hstored, fun g hg => ?_⟩
    obtain ⟨last, hbegins, heq⟩ := hlast g hg
    exact ⟨last, hbegins, by rw [(hhistory _).1, heq, htold]⟩

/-- An entry is told on the only open page of its conversation. -/
theorem Histories.append_page (h : Histories flows l pens) {p : Page} (hp : (pens i).page = some p)
    (hallows : p.Allows flows e)
    (hapart : ∀ j p', (pens j).page = some p' → p'.kept.id = p.kept.id → j = i)
    (hk : k.page = some { p with told := p.told ++ [e] }) :
    Histories flows (l.append e) (Function.update pens i k) := by
  obtain ⟨hown, hfollows⟩ := hallows
  obtain ⟨hstored, hlast⟩ := h.pages i p hp
  have hother : ∀ id, id ≠ p.kept.id → (l.append e).historyOf id = l.historyOf id := by
    intro id hid
    rw [Ledger.historyOf_append, if_neg]
    rw [hown]
    exact fun heq => hid heq.symm
  have hthis : (l.append e).historyOf p.kept.id = l.historyOf p.kept.id ++ [e] := by
    rw [Ledger.historyOf_append, if_pos hown]
  -- The page is still open, and the others are as they were.
  have hpage : (Function.update pens i k i).page = some { p with told := p.told ++ [e] } := by
    rw [Function.update_self]
    exact hk
  refine ⟨fun id hid => ?_, fun id c hc => ?_, fun j p' hp' => ?_⟩
  · have hne : id ≠ p.kept.id := by
      rintro rfl
      have hid : l.find? p.kept.id = none := hid
      rw [hstored] at hid
      cases hid
    rw [hother id hne]
    exact h.unknown id hid
  · obtain ⟨g, hg, htrail, hafter⟩ := h.trails id c hc
    refine ⟨g, hg, ?_, fun hpages => ?_⟩
    · by_cases hid : id = p.kept.id
      · subst hid
        obtain rfl : c = p.kept := Option.some.inj (hc.symm.trans hstored)
        obtain ⟨last, hbegins, heq⟩ := hlast g hg
        rw [hthis]
        refine isTrail_append.2 ⟨htrail, isTrail_singleton.2 ?_⟩
        rw [heq]
        exact hfollows g last hg hbegins
      · rw [hother id hid]
        exact htrail
    · have hne : id ≠ p.kept.id := fun heq => hpages i _ hpage heq.symm
      rw [hother id hne]
      refine hafter fun j p' hp' hid => ?_
      have hji : j ≠ i := by
        rintro rfl
        obtain rfl : p = p' := Option.some.inj (hp.symm.trans hp')
        exact hne hid.symm
      refine hpages j p' ?_ hid
      rw [Function.update_of_ne hji]
      exact hp'
  · by_cases hji : j = i
    · subst hji
      obtain rfl := Option.some.inj (hpage.symm.trans hp')
      refine ⟨hstored, fun g hg => ?_⟩
      obtain ⟨last, hbegins, heq⟩ := hlast g hg
      refine ⟨last, hbegins, ?_⟩
      show lastEntered none ((l.append e).historyOf p.kept.id) = lastEntered last (p.told ++ [e])
      rw [hthis, lastEntered_append, lastEntered_append, heq]
    · rw [Function.update_of_ne hji] at hp'
      rw [hother _ fun heq => hji (hapart j p' hp' heq)]
      exact h.pages j p' hp'

/-- A conversation is kept that no page is open for, and a page is opened for it. -/
theorem Histories.keep (h : Histories flows l pens) (before : Option Conversation) {g : Flow}
    (hopen : ∀ j p, (pens j).page = some p → p.kept.id ≠ c.id) (hi : (pens i).page = none)
    (hg : Dictionary.find? flows c.flowId = some g) (htrail : g.IsTrail none (l.historyOf c.id))
    (hbegins : Desk.Begins before g (lastEntered none (l.historyOf c.id)))
    (hk : k.page = some { before, kept := c }) :
    Histories flows (l.keep c) (Function.update pens i k) := by
  have hpage : (Function.update pens i k i).page = some { before, kept := c } := by
    rw [Function.update_self]
    exact hk
  refine ⟨fun id hid => ?_, fun id d hd => ?_, fun j p hp => ?_⟩
  · rw [Ledger.find?_keep] at hid
    split at hid
    · cases hid
    · exact h.unknown id hid
  · rw [Ledger.find?_keep] at hd
    split at hd
    · rename_i hid
      cases hd
      subst hid
      exact ⟨g, hg, htrail, fun hpages => absurd rfl (hpages i _ hpage)⟩
    · obtain ⟨g', hg', htrail', hafter⟩ := h.trails id d hd
      refine ⟨g', hg', htrail', fun hpages => hafter fun j p hp => ?_⟩
      have hji : j ≠ i := by
        rintro rfl
        rw [hi] at hp
        cases hp
      refine hpages j p ?_
      rw [Function.update_of_ne hji]
      exact hp
  · by_cases hji : j = i
    · subst hji
      obtain rfl := Option.some.inj (hpage.symm.trans hp)
      refine ⟨by rw [Ledger.find?_keep, if_pos rfl], fun g' hg' => ?_⟩
      obtain rfl : g = g' := Option.some.inj (hg.symm.trans hg')
      exact ⟨_, hbegins, rfl⟩
    · rw [Function.update_of_ne hji] at hp
      obtain ⟨hstored, hlast⟩ := h.pages j p hp
      refine ⟨?_, hlast⟩
      rw [Ledger.find?_keep, if_neg (hopen j p hp).symm]
      exact hstored

theorem Conversation.ComesAfter.finished {g : Flow} {last : Option String}
    (h : c.ComesAfter g last) (version : Int) (now : Moment) :
    ({ c.finished with version, updatedAt := now } : Conversation).ComesAfter g last :=
  ⟨h.stands, fun hparked => by simp [isParked, Conversation.finished] at hparked⟩

/-- The active conversations of a key are ended, for which no page is open. -/
theorem Histories.deactivate (h : Histories flows l pens) {key : String} (now : Moment)
    (hopen : ∀ j p, (pens j).page = some p → p.kept.key ≠ key) :
    Histories flows (l.deactivate now key).2 pens := by
  refine ⟨fun id hid => ?_, fun id d hd => ?_, fun j p hp => ?_⟩
  · rw [Ledger.find?_deactivate, Option.map_eq_none_iff] at hid
    exact h.unknown id hid
  · rw [Ledger.find?_deactivate] at hd
    obtain ⟨c, hc, rfl⟩ := Option.map_eq_some_iff.1 hd
    obtain ⟨g, hg, htrail, hafter⟩ := h.trails id c hc
    rcases Ledger.deactivated_cases now key c with ⟨-, heq⟩ | ⟨-, heq⟩ <;> rw [heq]
    · exact ⟨g, hg, htrail, fun hpages => (hafter hpages).finished _ _⟩
    · exact ⟨g, hg, htrail, hafter⟩
  · obtain ⟨hstored, hlast⟩ := h.pages j p hp
    refine ⟨?_, hlast⟩
    rw [Ledger.find?_deactivate, hstored]
    rcases Ledger.deactivated_cases now key p.kept with ⟨hholds, -⟩ | ⟨-, heq⟩
    · exact absurd (Ledger.holds_iff.1 hholds).2 (hopen j p hp)
    · rw [Option.map_some, heq]

/-- Of a conversation that was not kept no trail is told so far. -/
theorem Histories.untold (h : Histories flows l pens) {id : String} (hid : l.find? id = none)
    (g : Flow) : g.IsTrail none (l.historyOf id) ∧ lastEntered none (l.historyOf id) = none := by
  have herror := h.unknown id hid
  refine ⟨?_, lastEntered_of_forall fun e he => by simp [herror e he]⟩
  rw [← isTrail_filter, List.filter_eq_nil_iff.2 fun e he => by simp [herror e he]]
  trivial

/-! ## What the jobs tell -/

/-- What the ledger answers can be relied on. -/
theorem Ledger.IsTidy.hears (h : l.IsTidy) (now : Moment) (q : Store.Ask) :
    (Ask.store q).HearsIn l.flows (l.answer now q).1 := by
  cases q with
  | flow tenant id =>
    show Ask.HearsIn l.flows (.store (.flow tenant id))
      (.ok ((Dictionary.find? l.flows id).filter (isFor tenant)))
    cases hg : (Dictionary.find? l.flows id).filter (isFor tenant) with
    | none => exact trivial
    | some g => exact (Option.filter_eq_some_iff.1 hg).1
  | active contact =>
    show Ask.HearsIn l.flows (.store (.active contact)) (.ok (l.active? contact.key))
    cases hc : l.active? contact.key with
    | none => exact trivial
    | some c => exact (holds_iff.1 (h.find?_of_active? hc).2).1
  | conversation id =>
    show Ask.HearsIn l.flows (.store (.conversation id)) (.ok (l.find? id))
    cases hc : l.find? id with
    | none => exact trivial
    | some c => exact h.id_of_find? hc
  | create c =>
    show Ask.HearsIn l.flows (.store (.create c)) (l.create c).1
    rcases create_cases l c with ⟨e, heq⟩ | ⟨-, heq⟩ <;> rw [heq]
    · exact trivial
    · exact rfl
  | save c version =>
    show Ask.HearsIn l.flows (.store (.save c version)) (l.save now c version).1
    rcases save_cases l now c version with ⟨e, heq⟩ | ⟨b, -, -, heq⟩ <;> rw [heq]
    · exact trivial
    · exact ⟨now, rfl⟩
  | _ => exact trivial

theorem Floor.hears {f : Floor Unit} {around : Around} (h : f.books.ledger.IsTidy) {q : Ask}
    {r : q.Answer} (hans : (f.answer i () around q).1 = some r) :
    q.HearsIn f.books.ledger.flows r := by
  cases q with
  | store s =>
    cases hans
    exact h.hears around.now s
  | _ => exact trivial

/-- The jobs keep to the chronicle, and whoever has a page open holds the key of its
conversation. -/
structure Chronicled (flows : Dictionary Flow) (f : Floor Unit) (st : Nat → Stand)
    (pens : Nat → Pen) : Prop where
  telling : ∀ i job, f.jobs i = some job → Desk.Chronicles flows (pens i) job.work
  holders : ∀ i p, (pens i).page = some p → ∃ h job, st i = .inside h ∧ f.jobs i = some job ∧
    job.errand.key? = some p.kept.key
  /-- A conversation that was shown is the one in the ledger, or of a lower version. -/
  shown : ∀ i b, (pens i).shown = some b → ∃ c, f.books.ledger.find? b.id = some c ∧
    (c = b ∨ b.version < c.version)
  histories : Histories flows f.books.ledger pens

variable {f g : Floor Unit} {q : List (Nat × String)} {st : Nat → Stand} {job : Job Unit}
  {around : Around}

theorem chronicled_opening (settings : Unit → Desk.Settings) (flows : Dictionary Flow) :
    Chronicled flows (Floor.opening settings flows) (fun _ => .gone) fun _ => {} where
  telling i job hj := by cases hj
  holders i p hp := by cases hp
  shown i b hb := by cases hb
  histories := histories_opening settings flows

/-- Whoever holds a key is the only one who has a page open for conversations of it. -/
theorem Chronicled.eq_of_page (h : Chronicled flows f st pens) (hk : Kept flows f q st)
    {hold : Hold} (hi : st i = .inside hold) (hjob : f.jobs i = some job) {j : Nat} {p : Page}
    (hp : (pens j).page = some p) (hkey : job.errand.key? = some p.kept.key) : j = i := by
  obtain ⟨hold', job', hj, hjob', hkey'⟩ := h.holders j p hp
  exact hk.eq_of_inside hj hi hjob' hjob (hkey'.trans hkey.symm)

/-- A page that is put away leaves the pages of other jobs. -/
theorem Chronicled.page_of_away (h : Chronicled flows f st pens) (hk : Kept flows f q st)
    {hold : Hold} (hi : st i = .inside hold) (hjob : f.jobs i = some job) {key : String}
    (hkey : job.errand.key? = some key) {j : Nat} {p : Page}
    (hp : (Function.update pens i (pens i).away j).page = some p) : p.kept.key ≠ key := by
  rintro rfl
  obtain ⟨hji, hp⟩ := page_update rfl hp
  exact hji (h.eq_of_page hk hi hjob hp hkey)

/-- A new conversation is kept, of which nothing was told so far. -/
theorem Histories.create (h : Histories flows l pens) (hwhole : (pens i).IsWhole flows) {g : Flow}
    (hg : Dictionary.find? flows c.flowId = some g) (hnew : l.find? c.id = none) :
    Histories flows (l.create c).2
      (Function.update pens i ((pens i).after (.store (.create c)) (l.create c).1)) := by
  have haway : Histories flows l (Function.update pens i (pens i).away) := h.away hwhole rfl
  rcases Ledger.create_cases l c with ⟨e, heq⟩ | ⟨-, heq⟩ <;> rw [heq]
  · exact haway
  · obtain ⟨htrail, hlast⟩ := h.untold hnew g
    have hkeep := haway.keep none (c := { c with version := 1 }) (i := i)
      (k := (pens i).after (.store (.create c)) (.ok { c with version := 1 })) ?_
      (by rw [Function.update_self]; rfl) hg htrail hlast rfl
    · rwa [Function.update_idem] at hkeep
    · intro j p hp hid
      obtain ⟨-, hp⟩ := page_update rfl hp
      have hstored := (h.pages j p hp).1
      have hid : p.kept.id = c.id := hid
      rw [hid, hnew] at hstored
      cases hstored

/-- A conversation is written over the one that was shown, where that is still in the ledger. -/
theorem Histories.save (h : Histories flows l pens) (hwhole : (pens i).IsWhole flows)
    {b : Conversation} (hshown : (pens i).shown = some b) (hflow : b.flowId = c.flowId)
    {version : Int} (hstored : ∀ d, l.find? c.id = some d → d.version = version → d = b)
    (hopen : ∀ j p, (Function.update pens i (pens i).away j).page = some p → p.kept.id ≠ c.id)
    (now : Moment) : Histories flows (l.save now c version).2 (Function.update pens i
      ((pens i).after (.store (.save c version)) (l.save now c version).1)) := by
  have haway : Histories flows l (Function.update pens i (pens i).away) := h.away hwhole rfl
  rcases Ledger.save_cases l now c version with ⟨e, heq⟩ | ⟨d, hd, hversion, heq⟩ <;> rw [heq]
  · exact haway
  · obtain rfl := hstored d hd hversion
    obtain ⟨g, hg, htrail, hafter⟩ := haway.trails c.id d hd
    have hkeep := haway.keep (some d) (c := { c with version := version + 1, updatedAt := now })
      (i := i) (k := (pens i).after (.store (.save c version))
        (.ok { c with version := version + 1, updatedAt := now })) hopen
      (by rw [Function.update_self]; rfl) (hflow ▸ hg) htrail (hafter hopen)
      (by simp [Pen.after, hshown])
    rwa [Function.update_idem] at hkeep

/-- What is told in the ledger after the holder of a key has asked the store. -/
theorem Chronicled.histories_store (h : Chronicled flows f st pens) (hk : Kept flows f q st)
    (hr : f.IsRegular) (hjob : f.jobs i = some job) {s : Store.Ask}
    {next : (Ask.store s).Answer → Desk.Work Outcome} (hwork : job.work = .ask (.store s) next)
    {hold : Hold} (hi : st i = .inside hold) {timed : Bool}
    (hmay : hold.May flows job.errand.key? timed (.store s))
    (htells : (pens i).May flows (.store s)) (now : Moment) :
    Histories flows (f.books.ledger.answer now s).2 (Function.update pens i
      ((pens i).after (.store s) (f.books.ledger.answer now s).1)) := by
  obtain ⟨job', key, hjob', hkey, -, hfits⟩ := hk.holds i hold hi
  obtain rfl : job = job' := Option.some.inj (hjob.symm.trans hjob')
  rw [hkey] at hmay
  cases s with
  | flow | enabledFlows | history | active | conversation => exact h.histories.away htells rfl
  | create c =>
    obtain ⟨hwhole, g, hg⟩ := htells
    refine h.histories.create hwhole hg ?_
    -- The id was made up for the job, and it has not used it yet.
    obtain ⟨n, owner, hconducted, hsound, -⟩ := hr
    have hbehaves := hconducted.behaves i job hjob
    rw [hwork] at hbehaves
    obtain ⟨-, hbegins⟩ := hbehaves.1
    exact (hsound.fresh i c.id hbegins.1).2
  | save c version =>
    obtain ⟨hwhole, b, hb, hid, hversion, hflow⟩ := htells
    obtain ⟨-, -, d, hd, hdid, -⟩ := hmay
    obtain ⟨hstored, hdkey⟩ := hfits.shown d hd
    refine h.histories.save hwhole hb hflow (fun d' hd' hversion' => ?_) (fun j p hp hpid => ?_) now
    · obtain ⟨current, hcurrent, rfl | hlt⟩ := h.shown i b hb
      · rw [hid, hd'] at hcurrent
        exact Option.some.inj hcurrent
      · rw [hid, hd'] at hcurrent
        obtain rfl := Option.some.inj hcurrent
        omega
    · refine h.page_of_away hk hi hjob hkey hp ?_
      have hp' := ((h.histories.pages j p (page_update rfl hp).2)).1
      rw [hpid, ← hdid, hstored] at hp'
      rw [← Option.some.inj hp']
      exact hdkey
  | deactivate contact =>
    obtain rfl : key = contact.key := Option.some.inj hmay.2
    exact (h.histories.away htells rfl).deactivate now fun j p hp =>
      h.page_of_away hk hi hjob hkey hp
  | append e =>
    rcases htells with herror | ⟨p, hp, hallows⟩
    · exact h.histories.append_error herror rfl
    · refine h.histories.append_page hp hallows (fun j p' hp' hid => ?_) ?_
      · obtain ⟨hstored, -⟩ := h.histories.pages i p hp
        obtain ⟨hstored', -⟩ := h.histories.pages j p' hp'
        obtain ⟨hold', job', hi', hjob', hkey'⟩ := h.holders i p hp
        rw [hid, hstored] at hstored'
        rw [Option.some.inj hstored'] at hkey'
        exact h.eq_of_page hk hi' hjob' hp' hkey'
      · show (pens i).page.map _ = _
        rw [hp]
        rfl

/-- Who has a page open behind an answer: whoever had one before, or the holder of a key that has
just kept a conversation of it. -/
theorem Chronicled.holder_after (h : Chronicled flows f st pens) (hk : Kept flows f q st)
    (hjob : f.jobs i = some job) {ask : Ask} {r : ask.Answer} {timed : Bool}
    (hmay : (st i).May flows job.errand.key? timed ask) (hears : ask.HearsIn flows r) {p : Page}
    (hp : ((pens i).after ask r).page = some p) :
    (∃ hold, (st i).after timed ask r = .inside hold) ∧ job.errand.key? = some p.kept.key := by
  by_cases hplain : ask.IsPlain
  · rw [Pen.after_plain hplain] at hp
    cases hp
  cases ask with
  | store s =>
    cases s with
    | active contact => cases r <;> cases hp
    | conversation id => cases r <;> cases hp
    | append e =>
      obtain ⟨p', hp', rfl⟩ := Option.map_eq_some_iff.1 hp
      obtain ⟨hold, job', hi, hjob', hkey⟩ := h.holders i p' hp'
      obtain rfl : job = job' := Option.some.inj (hjob.symm.trans hjob')
      refine ⟨?_, hkey⟩
      rw [hi]
      show ∃ hold', (if e.action = .timeout then _ else _ : Stand) = _
      split <;> exact ⟨_, rfl⟩
    | create c =>
      cases r with
      | error e => cases hp
      | ok kept =>
        obtain rfl : kept = _ := hears
        cases hp
        cases hst : st i with
        | inside hold =>
          rw [hst] at hmay
          obtain ⟨-, -, -, hkey, -⟩ := hmay
          exact ⟨⟨_, rfl⟩, hkey⟩
        | refused => exact absurd hst (hk.calm i)
        | _ =>
          rw [hst] at hmay
          exact hmay.elim
    | save c version =>
      cases r with
      | error e => cases hp
      | ok kept =>
        obtain ⟨now, rfl⟩ := hears
        cases hp
        cases hst : st i with
        | inside hold =>
          rw [hst] at hmay
          obtain ⟨-, -, b, hb, -, -, hcontact, -⟩ := hmay
          obtain ⟨job', key, hjob', hkey, -, hfits⟩ := hk.holds i hold hst
          obtain rfl : job = job' := Option.some.inj (hjob.symm.trans hjob')
          refine ⟨⟨_, rfl⟩, hkey.trans (congrArg some ?_)⟩
          exact (hfits.shown b hb).2.symm.trans (congrArg Contact.key hcontact)
        | refused => exact absurd hst (hk.calm i)
        | _ =>
          rw [hst] at hmay
          exact hmay.elim
    | _ => exact absurd trivial hplain
  | _ => exact absurd trivial hplain

/-- What is told in the ledger after a question of a job. -/
theorem Chronicled.histories_answer (h : Chronicled flows f st pens) (hk : Kept flows f q st)
    (hr : f.IsRegular) (hjob : f.jobs i = some job) {ask : Ask}
    {next : ask.Answer → Desk.Work Outcome} {r : ask.Answer} (hwork : job.work = .ask ask next)
    (hans : (f.answer i () around ask).1 = some r) {timed : Bool}
    (hmay : (st i).May flows job.errand.key? timed ask) (htells : (pens i).May flows ask) :
    Histories flows (f.answer i () around ask).2.books.ledger
      (Function.update pens i ((pens i).after ask r)) := by
  have hplain : ask.IsPlain → (f.answer i () around ask).2.books.ledger = f.books.ledger →
      Histories flows (f.answer i () around ask).2.books.ledger
        (Function.update pens i ((pens i).after ask r)) := by
    intro hplain hledger
    rw [hledger, Pen.after_plain hplain]
    exact h.histories.away ((Pen.may_plain hplain).1 htells) rfl
  cases ask with
  | store s =>
    cases hans
    cases hst : st i with
    | inside hold =>
      rw [hst] at hmay
      exact h.histories_store hk hr hjob hwork hst hmay htells around.now
    | aloof =>
      rw [hst] at hmay
      cases s with
      | enabledFlows | active => exact h.histories.away htells rfl
      | _ => exact hmay.elim
    | refused => exact absurd hst (hk.calm i)
    | _ =>
      rw [hst] at hmay
      exact hmay.elim
  | freshId =>
    refine hplain trivial ?_
    unfold Floor.answer
    split <;> rfl
  | _ => exact hplain trivial rfl

/-- What a job is shown is in the ledger. -/
theorem shown_after (hl : f.books.ledger.IsTidy) {ask : Ask} {r : ask.Answer}
    (hans : (f.answer i () around ask).1 = some r) {b : Conversation}
    (hb : (k.after ask r).shown = some b) :
    k.shown = some b ∨ (f.answer i () around ask).2.books.ledger.find? b.id = some b := by
  cases ask with
  | store s =>
    cases s with
    | active contact =>
      cases hans
      exact Or.inr (hl.find?_of_active? hb).1
    | conversation id =>
      cases hans
      exact Or.inr (hl.find?_id hb)
    | create c => cases r <;> exact Or.inl hb
    | save c version => cases r <;> exact Or.inl hb
    | _ => exact Or.inl hb
  | _ => exact Or.inl hb

/-- A job that is answered tells on as it may. -/
theorem Chronicled.answered (h : Chronicled flows f st pens) (hk : Kept flows f q st)
    (hr : f.IsRegular) (hjob : f.jobs i = some job) {ask : Ask}
    {next : ask.Answer → Desk.Work Outcome} {r : ask.Answer} (hwork : job.work = .ask ask next)
    (hans : (f.answer i () around ask).1 = some r) (kept : List String)
    (hgrows : f.books.ledger.Grows (f.answer i () around ask).2.books.ledger)
    (hmay : (st i).May flows job.errand.key? job.errand.awakened?.isSome ask) :
    Chronicled flows
      ((f.answer i () around ask).2.assign i (some { job with work := next r, kept }))
      (Function.update st i ((st i).after job.errand.awakened?.isSome ask r))
      (Function.update pens i ((pens i).after ask r)) := by
  have htelling := h.telling i job hjob
  unfold Desk.Chronicles at htelling
  rw [hwork] at htelling
  obtain ⟨htells, hnext⟩ := htelling
  have hears : ask.HearsIn flows r := by
    rw [← hk.flows]
    exact Floor.hears hr.tidy hans
  have hjobs : ((f.answer i () around ask).2.assign i
      (some { job with work := next r, kept })).jobs =
      Function.update f.jobs i (some { job with work := next r, kept }) := by
    unfold Floor.assign
    rw [f.answer_jobs]
  refine ⟨fun j a hj => ?_, fun j p hp => ?_, fun j b hb => ?_,
    h.histories_answer hk hr hjob hwork hans hmay htells⟩
  · rw [hjobs] at hj
    by_cases hji : j = i
    · subst hji
      rw [Function.update_self] at hj ⊢
      obtain rfl := Option.some.inj hj
      exact hnext r hears
    · rw [Function.update_of_ne hji] at hj ⊢
      exact h.telling j a hj
  · rw [hjobs]
    by_cases hji : j = i
    · subst hji
      rw [Function.update_self] at hp ⊢
      obtain ⟨⟨hold, hafter⟩, hkey⟩ := h.holder_after hk hjob hmay hears hp
      exact ⟨hold, _, hafter, Function.update_self .., hkey⟩
    · rw [Function.update_of_ne hji] at hp ⊢
      rw [Function.update_of_ne hji]
      exact h.holders j p hp
  · have hstays : ∀ j b, (pens j).shown = some b →
        ∃ c, (f.answer i () around ask).2.books.ledger.find? b.id = some c ∧
          (c = b ∨ b.version < c.version) := by
      intro j b hb
      obtain ⟨c, hc, hcurrent⟩ := h.shown j b hb
      obtain ⟨c', hc', hgrown⟩ := hgrows b.id c hc
      refine ⟨c', hc', ?_⟩
      rcases hgrown with rfl | ⟨-, hlt⟩
      · exact hcurrent
      · rcases hcurrent with rfl | hlt'
        · exact Or.inr hlt
        · exact Or.inr (by omega)
    by_cases hji : j = i
    · subst hji
      rw [Function.update_self] at hb
      rcases shown_after hr.tidy hans hb with hb | hb
      · exact hstays j b hb
      · exact ⟨b, hb, Or.inl rfl⟩
    · rw [Function.update_of_ne hji] at hb
      exact hstays j b hb

/-- A job begins, or is at its end: it has no page. -/
theorem Chronicled.moved (h : Chronicled flows f st pens) (job : Option (Job Unit)) {s : Stand}
    (hwhole : (pens i).IsWhole flows) (hjobs : g.jobs = Function.update f.jobs i job)
    (hledger : g.books.ledger = f.books.ledger)
    (htelling : ∀ a, job = some a → Desk.Chronicles flows {} a.work) :
    Chronicled flows g (Function.update st i s) (Function.update pens i {}) := by
  refine ⟨fun j a hj => ?_, fun j p hp => ?_, fun j b hb => ?_, ?_⟩
  · rw [hjobs] at hj
    by_cases hji : j = i
    · subst hji
      rw [Function.update_self] at hj ⊢
      exact htelling a hj
    · rw [Function.update_of_ne hji] at hj ⊢
      exact h.telling j a hj
  · obtain ⟨hji, hp⟩ := page_update rfl hp
    rw [hjobs, Function.update_of_ne hji, Function.update_of_ne hji]
    exact h.holders j p hp
  · rw [hledger]
    by_cases hji : j = i
    · subst hji
      rw [Function.update_self] at hb
      cases hb
    · rw [Function.update_of_ne hji] at hb
      exact h.shown j b hb
  · rw [hledger]
    exact h.histories.away hwhole rfl

/-- A job that is not under way has no page. -/
theorem Chronicled.isWhole_of_none (h : Chronicled flows f st pens) (hi : f.jobs i = none) :
    (pens i).IsWhole flows := by
  intro p hp
  obtain ⟨-, job, -, hjob, -⟩ := h.holders i p hp
  rw [hi] at hjob
  cases hjob

/-- A job at its end has told all. -/
theorem Chronicled.isWhole_of_result (h : Chronicled flows f st pens) (hjob : f.jobs i = some job)
    {r : Except Failure Outcome} (hr : Floor.result? job.work = some r) :
    (pens i).IsWhole flows := by
  have htelling := h.telling i job hjob
  unfold Desk.Chronicles at htelling
  cases hwork : job.work with
  | ask ask next =>
    rw [hwork] at hr
    cases hr
  | done a =>
    rw [hwork] at htelling
    exact htelling
  | fail e =>
    rw [hwork] at htelling
    exact htelling

/-- What the floor is known to be: nobody holds a key twice, and the jobs tell as they may. -/
def Recounts (flows : Dictionary Flow) (f : Floor Unit) : Prop :=
  ∃ q st pens, Kept flows f q st ∧ Chronicled flows f st pens

theorem Recounts.go (h : Recounts flows f) (hr : f.IsRegular) (i : Nat) (around : Around) :
    Recounts flows (f.go i around) := by
  obtain ⟨q, st, pens, hk, h⟩ := h
  have hgrows := hr.grows (.go i around)
  change f.books.ledger.Grows (f.go i around).books.ledger at hgrows
  rcases f.go_split i around with ⟨-, hgo | ⟨job, key, next, hjob, hwork, hgo⟩⟩ |
    ⟨job, ask, next, r, -, hjob, hwork, hans, hgo⟩ <;> rw [hgo] at hgrows ⊢
  · exact ⟨q, st, pens, hk, h⟩
  · exact ⟨_, st, pens, hk.put_off i around hjob hwork,
      ⟨h.telling, h.holders, h.shown, h.histories⟩⟩
  · obtain ⟨hmay, hkept⟩ := hk.answered hr hjob hwork hans (job.kept ++ Floor.keptBy ask r)
    exact ⟨_, _, _, hkept, h.answered hk hr hjob hwork hans _ hgrows hmay⟩

theorem Recounts.take (h : Recounts flows f) (hjobs : g.jobs = f.jobs) (hlocks : g.locks = f.locks)
    (hledger : g.books.ledger = f.books.ledger) (hfree : f.jobs i = none) (e : Errand) :
    Recounts flows (g.take i () e) := by
  obtain ⟨q, st, pens, hk, h⟩ := h
  refine ⟨q, _, _, hk.take hjobs hlocks hledger hfree e,
    h.moved (some { desk := (), errand := e, work := e.work (g.settings ()) })
      (h.isWhole_of_none hfree) (by rw [← hjobs]; rfl) hledger ?_⟩
  rintro a ⟨⟩
  exact e.work_chronicles flows _

theorem Recounts.finish (h : Recounts flows f) (i : Nat) : Recounts flows (f.finish i) := by
  rcases f.finish_split i with ⟨-, hfinish⟩ | ⟨job, result, hjob, hresult, hfinish⟩ <;> rw [hfinish]
  · exact h
  · obtain ⟨q, st, pens, hk, h⟩ := h
    have hlast := ((hk.heeds i job hjob).concludes hresult).last
    exact ⟨q, _, _, hk.finish rfl rfl rfl hlast,
      h.moved none (h.isWhole_of_result hjob hresult) rfl rfl nofun⟩

/-- Every event of the desk leaves the jobs telling as they may. -/
theorem Recounts.run (h : Recounts flows f) (hr : f.IsRegular) (es : List (Event Unit))
    (hes : ∀ e ∈ es, e.IsOwn) : Recounts flows (f.run es) :=
  Floor.upheld_of_own (fun h hjobs hlocks hledger hfree e => h.take hjobs hlocks hledger hfree e)
    (fun h hr i around => h.go hr i around) (fun h i => h.finish i) h hr hes

/-- However the operations of one desk and its timers take turns, and however they end: the history
of a conversation without its failures enters nodes along the ways of its flow, from the start on;
whatever it tells to have happened at a node it tells of the node entered last; and when nobody
holds the key of its contact, the conversation stands at the node entered last, or, where it is to
enter its node first, one step away from it. -/
theorem Floor.trail_of_run (settings : Unit → Desk.Settings) (flows : Dictionary Flow)
    (es : List (Event Unit)) (hes : ∀ e ∈ es, e.IsOwn) {c : Conversation}
    (hc : c ∈ ((opening settings flows).run es).books.ledger.all) :
    let f := (opening settings flows).run es
    let trail := (f.books.ledger.historyOf c.id).filter (·.action ≠ .error)
    ∃ g, Dictionary.find? flows c.flowId = some g ∧
      (nodesOf .entered trail).IsChain g.Leads ∧
      (∀ id, (nodesOf .entered trail).head? = some id → ∃ n, g.start? = some n ∧ n.id = id) ∧
      (∀ before e behind, trail = before ++ e :: behind →
        e.action ∈ [Action.executed, .conditionMet, .timeout] →
        (nodesOf .entered before).getLast? = some e.node) ∧
      ((f.locks ()).holder? c.key = none →
        ∃ id, (nodesOf .entered trail).getLast? = some id ∧
          if c.entersOnResume then g.Leads id c.node else c.node = id) := by
  have hopening : (opening settings flows).IsRegular := isRegular_opening settings flows
  have hrecounts : Recounts flows (opening settings flows) :=
    ⟨[], _, _, kept_opening settings flows, chronicled_opening settings flows⟩
  obtain ⟨q, st, pens, hk, h⟩ := hrecounts.run hopening es hes
  have hstored := (hopening.run es).tidy.mem_all_iff.1 hc
  obtain ⟨g, hg, htrail, hafter⟩ := h.histories.trails c.id c hstored
  have hfiltered := (isTrail_filter g none _).2 htrail
  refine ⟨g, hg, hfiltered.isChain, fun id => hfiltered.start, fun before e behind heq he => ?_,
    fun hfree => ?_⟩
  · rw [heq] at hfiltered
    exact hfiltered.about he
  · rw [nodesOf_filter (by decide)]
    -- Whoever has a page open for the conversation would hold the key of it.
    obtain ⟨⟨id, hid, hstands⟩, -⟩ := hafter fun i p hp hpid => by
      obtain ⟨hold, job, hi, hjob, hkey⟩ := h.holders i p hp
      obtain ⟨job', key, hjob', hkey', hhead, -⟩ := hk.holds i hold hi
      obtain rfl : job = job' := Option.some.inj (hjob.symm.trans hjob')
      have hkept := (h.histories.pages i p hp).1
      rw [hpid, hstored] at hkept
      obtain rfl : key = c.key := by
        rw [hkey] at hkey'
        rw [Option.some.inj hkept]
        exact (Option.some.inj hkey').symm
      rw [hk.orderly.holder?_eq, hhead] at hfree
      cases hfree
    rw [lastEntered_eq, Option.or_none] at hid
    exact ⟨id, hid, hstands⟩

/-- A desk whose turns visit one node each. -/
def stepwiseFloor : Floor Unit :=
  .opening (fun _ => { further := 0 }) [("pausing", pausing (.ofInt 5))]

theorem stepwiseFloor_run : stepwiseFloor.run startPausing =
    ((stepwiseFloor.setLocks () (({} : KeyedLock Nat).enter 0 visitor.key)).assign 0 (some {
      desk := (), errand := .start visitor "pausing" none none none
      work := Floor.rest visitor.key (Desk.firstTurn { further := 0 } visitor "pausing"
        (pausing (.ofInt 5)) { id := "start", body := .start } none none none) })).run
      (List.replicate 12 (.go 0 (quietly none)) ++ [.finish 0]) := by
  unfold startPausing
  rw [Floor.run_append]
  exact congrArg (fun f => Floor.run f _) (Floor.run_start none none none 0 () (quietly none) rfl rfl
    rfl rfl (isUsable_pausing (.ofInt 5)))

/-- The first turn is cut short behind the start, and the conversation is to enter the pause. -/
theorem Floor.trail_stepwise :
    ∃ c ∈ (stepwiseFloor.run startPausing).books.ledger.all, c.entersOnResume = true ∧
      c.node = "pause" ∧
      nodesOf .entered ((stepwiseFloor.run startPausing).books.ledger.historyOf c.id) = ["start"] ∧
      (pausing (.ofInt 5)).Leads "start" "pause" := by
  have hstored : (stepwiseFloor.run startPausing).books.ledger.all.map
      (fun c => (c.id, c.flowId, c.node, c.entersOnResume, c.key)) =
      [("talk", "pausing", "pause", true, visitor.key)] := by
    rw [stepwiseFloor_run]
    decide +kernel
  have htold : (nodesOf .entered ((stepwiseFloor.run startPausing).books.ledger.historyOf "talk")) =
      ["start"] := by
    rw [stepwiseFloor_run]
    decide +kernel
  have hfree : ((stepwiseFloor.run startPausing).locks ()).holder? visitor.key = none := by
    rw [stepwiseFloor_run]
    decide +kernel
  have hmem := List.mem_singleton_self ("talk", "pausing", "pause", true, visitor.key)
  rw [← hstored] at hmem
  obtain ⟨c, hc, heq⟩ := List.mem_map.1 hmem
  simp only [Prod.mk.injEq] at heq
  obtain ⟨hid, hflow, hnode, henters, hkey⟩ := heq
  have own : ∀ e ∈ startPausing, e.IsOwn := by simp [startPausing, Event.IsOwn]
  unfold stepwiseFloor at hc hfree htold ⊢
  obtain ⟨g, hg, -, -, -, hlast⟩ := trail_of_run _ _ _ own hc
  rw [hflow] at hg
  obtain rfl : pausing (.ofInt 5) = g := Option.some.inj hg
  obtain ⟨id, hentered, hleads⟩ := hlast (by rw [hkey]; exact hfree)
  rw [nodesOf_filter (by decide), hid, htold] at hentered
  rw [henters, hnode] at hleads
  obtain rfl : "start" = id := Option.some.inj hentered
  exact ⟨c, hc, henters, hnode, by rw [hid]; exact htold, hleads⟩

end Parley
