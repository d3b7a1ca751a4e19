import Parley.Proofs.Store.Ledger
import Parley.Rehearsal.Clock

/-!
# How versions are counted

A ledger counts the writes of every conversation: `Ledger.version?` is one when it is kept for the
first time and one more with every write, be it that somebody saves it or that it is ended with the
others of its key. `Ledger.Counts` says what a single deed does to the versions; a save goes through
exactly over the version in the ledger, and a question that is refused changes nothing.

As versions never fall in the course of many deeds (`Ledger.Precedes`), no version is written over
twice, and whoever saves what was read before another write is refused: `Ledger.counts_of_run`.
The ids of new conversations must be new; otherwise a conversation would begin again at version one.
-/

namespace Parley

namespace Ledger

/-- What is done with a ledger: a flow is added, or a question is put at a moment. -/
inductive Deed where
  | publish (f : Flow)
  | ask (now : Moment) (q : Store.Ask)

/-- The ledger after a deed. -/
def after (l : Ledger) : Deed → Ledger
  | .publish f => l.addFlow f
  | .ask now q => (l.answer now q).2

/-- The ledger after one deed after the other. -/
def afterAll (l : Ledger) (ds : List Deed) : Ledger := ds.foldl after l

/-- The version of the conversation of an id. -/
def version? (l : Ledger) (id : String) : Option Int := (l.find? id).map (·.version)

/-- A conversation that a deed would begin is not in the ledger. -/
def IsNew (l : Ledger) : Deed → Prop
  | .ask _ (.create c) => l.find? c.id = none
  | _ => True

/-- Every conversation that is begun is not in the ledger at that time. -/
def BeginsAnew (l : Ledger) : List Deed → Prop
  | [] => True
  | d :: ds => l.IsNew d ∧ (l.after d).BeginsAnew ds

/-- A deed keeps a new conversation under an id. -/
def Begins (l : Ledger) (id : String) : Deed → Prop
  | .ask now (.create c) => c.id = id ∧ ∃ kept, (l.answer now (.create c)).1 = .ok kept
  | _ => False

/-- A deed saves the conversation of an id over a version. -/
def Saves (l : Ledger) (id : String) (expected : Int) : Deed → Prop
  | .ask now (.save c v) =>
    c.id = id ∧ v = expected ∧ ∃ kept, (l.answer now (.save c v)).1 = .ok kept
  | _ => False

/-- A deed ends the conversation of an id. -/
def Ends (l : Ledger) (id : String) : Deed → Prop
  | .ask now (.deactivate contact) =>
    ∃ ids, (l.answer now (.deactivate contact)).1 = .ok ids ∧ id ∈ ids
  | _ => False

/-- A deed writes the conversation of an id: it saves or ends it. -/
def Writes (l : Ledger) (id : String) (d : Deed) : Prop :=
  (∃ expected, l.Saves id expected d) ∨ l.Ends id d

/-- A deed shows a conversation. -/
def Shows (l : Ledger) (c : Conversation) : Deed → Prop
  | .ask now (.active contact) => (l.answer now (.active contact)).1 = .ok (some c)
  | .ask now (.conversation id) => (l.answer now (.conversation id)).1 = .ok (some c)
  | _ => False

/-- What a deed does to the versions. -/
structure Counts (l : Ledger) (d : Deed) : Prop where
  /-- A save goes through exactly over the version in the ledger. -/
  saved_iff : ∀ now c v, d = .ask now (.save c v) →
    ((∃ kept, (l.answer now (.save c v)).1 = .ok kept) ↔ l.version? c.id = some v)
  begun : ∀ id, l.Begins id d → (l.after d).version? id = some 1
  written : ∀ id, l.Writes id d →
    ∃ v, l.version? id = some v ∧ (l.after d).version? id = some (v + 1)
  others : ∀ id, ¬ l.Begins id d → ¬ l.Writes id d → (l.after d).find? id = l.find? id
  refused : ∀ now q e, d = .ask now q → (l.answer now q).1 = .error e → l.after d = l

variable {l : Ledger} {d : Deed} {id : String} {v : Int}

/-! ## One deed -/

/-- A save goes through exactly over the version in the ledger. -/
theorem save_ok_iff (l : Ledger) (now : Moment) (c : Conversation) (v : Int) :
    (∃ kept, (l.save now c v).1 = .ok kept) ↔ l.version? c.id = some v := by
  unfold save version?
  simp only
  split
  · rename_i h
    simp [h]
  · rename_i h
    simp [h]

theorem version?_of_saves (h : l.Saves id v d) : l.version? id = some v := by
  cases d with
  | publish f => exact h.elim
  | ask now q =>
    cases q with
    | save c w =>
      obtain ⟨rfl, rfl, hkept⟩ := h
      exact (save_ok_iff l now c w).1 hkept
    | _ => exact h.elim

/-- A question that is refused changes nothing. -/
theorem answer_of_error {now : Moment} {q : Store.Ask} {e : Failure}
    (h : (l.answer now q).1 = .error e) : (l.answer now q).2 = l := by
  cases q with
  | create c =>
    change (l.create c).1 = .error e at h
    show (l.create c).2 = l
    rcases create_cases l c with ⟨e', hc⟩ | ⟨-, hc⟩ <;> rw [hc] at h ⊢
    cases h
  | save c w =>
    change (l.save now c w).1 = .error e at h
    show (l.save now c w).2 = l
    rcases save_cases l now c w with ⟨e', hs⟩ | ⟨p, -, -, hs⟩ <;> rw [hs] at h ⊢
    cases h
  | _ => cases h

/-- What is done to a conversation is one of three things. -/
theorem after_cases (ht : l.IsTidy) (d : Deed) (id : String) :
    (l.Begins id d ∧ (l.after d).version? id = some 1) ∨
    (l.Writes id d ∧ ∃ v, l.version? id = some v ∧ (l.after d).version? id = some (v + 1)) ∨
    (¬ l.Begins id d ∧ ¬ l.Writes id d ∧ (l.after d).find? id = l.find? id) := by
  have unwritten : (∀ v, ¬ l.Saves id v d) → ¬ l.Ends id d → ¬ l.Writes id d := by
    rintro hs he (⟨v, h⟩ | h)
    · exact hs v h
    · exact he h
  cases d with
  | publish f => exact Or.inr (Or.inr ⟨fun h => h, unwritten (fun _ h => h) fun h => h, rfl⟩)
  | ask now q =>
    cases q with
    | create c =>
      have hw := unwritten (fun _ h => h) fun h => h
      rcases create_cases l c with ⟨e, hc⟩ | ⟨-, hc⟩
      · have hanswer : l.answer now (.create c) = (.error e, l) := hc
        refine Or.inr (Or.inr ⟨?_, hw, by simp only [after, hanswer]⟩)
        rintro ⟨-, kept, hkept⟩
        rw [hanswer] at hkept
        cases hkept
      · have hanswer : l.answer now (.create c) = _ := hc
        by_cases hid : c.id = id
        · refine Or.inl ⟨⟨hid, _, by rw [hanswer]⟩, ?_⟩
          simp only [after, hanswer, version?, find?_keep, hid, if_true, Option.map_some]
        · refine Or.inr (Or.inr ⟨fun h => hid h.1, hw, ?_⟩)
          simp only [after, hanswer, find?_keep, hid, if_false]
    | save c w =>
      rcases save_cases l now c w with ⟨e, hs⟩ | ⟨p, hp, hv, hs⟩
      · have hanswer : l.answer now (.save c w) = (.error e, l) := hs
        refine Or.inr (Or.inr ⟨fun h => h, unwritten ?_ fun h => h, by simp only [after, hanswer]⟩)
        rintro v ⟨-, -, kept, hkept⟩
        rw [hanswer] at hkept
        cases hkept
      · have hanswer : l.answer now (.save c w) = _ := hs
        by_cases hid : c.id = id
        · refine Or.inr (Or.inl ⟨Or.inl ⟨w, hid, rfl, _, by rw [hanswer]⟩, w, ?_, ?_⟩)
          · rw [version?, ← hid, hp, Option.map_some, hv]
          · simp only [after, hanswer, version?, find?_keep, hid, if_true, Option.map_some]
        · refine Or.inr (Or.inr ⟨fun h => h, unwritten (fun _ h => hid h.1) fun h => h, ?_⟩)
          simp only [after, hanswer, find?_keep, hid, if_false]
    | deactivate contact =>
      have hfind : (l.after (.ask now (.deactivate contact))).find? id =
          (l.find? id).map (deactivated now contact.key) := find?_deactivate ..
      by_cases hid : id ∈ (l.deactivate now contact.key).1
      · obtain ⟨c, hc, hk⟩ := ht.mem_deactivate.1 hid
        refine Or.inr (Or.inl ⟨Or.inr ⟨_, rfl, hid⟩, c.version, ?_, ?_⟩)
        · rw [version?, hc, Option.map_some]
        · rw [version?, hfind, hc]
          simp [deactivated, hk]
      · refine Or.inr (Or.inr ⟨fun h => h, unwritten (fun _ h => h) ?_, ?_⟩)
        · rintro ⟨ids, hids, h⟩
          cases hids
          exact hid h
        · rw [hfind]
          cases hc : l.find? id with
          | none => rfl
          | some c =>
            -- The conversation was not ended, so it is not an active one of the key.
            have hk : holds contact.key c = false := by
              rw [← Bool.not_eq_true]
              exact fun hk => hid (ht.mem_deactivate.2 ⟨c, hc, hk⟩)
            simp [deactivated, hk]
    | _ => exact Or.inr (Or.inr ⟨fun h => h, unwritten (fun _ h => h) fun h => h, rfl⟩)

/-- Nothing is both begun and written. -/
theorem not_writes_of_begins (h : l.Begins id d) : ¬ l.Writes id d := by
  cases d with
  | publish f => exact h.elim
  | ask now q =>
    cases q with
    | create c =>
      rintro (⟨v, h⟩ | h)
      · exact h
      · exact h
    | _ => exact h.elim

theorem counts_of_isTidy (ht : l.IsTidy) (d : Deed) : l.Counts d where
  saved_iff now c v _ := save_ok_iff l now c v
  begun id h := by
    rcases after_cases ht d id with ⟨-, h1⟩ | ⟨hw, -⟩ | ⟨hb, -⟩
    · exact h1
    · exact absurd hw (not_writes_of_begins h)
    · exact absurd h hb
  written id h := by
    rcases after_cases ht d id with ⟨hb, -⟩ | ⟨-, hv⟩ | ⟨-, hw, -⟩
    · exact absurd h (not_writes_of_begins hb)
    · exact hv
    · exact absurd h hw
  others id hb hw := by
    rcases after_cases ht d id with ⟨hb', -⟩ | ⟨hw', -⟩ | ⟨-, -, hf⟩
    · exact absurd hb' hb
    · exact absurd hw' hw
    · exact hf
  refused now q e hd he := by
    subst hd
    exact answer_of_error he

theorem IsTidy.after (ht : l.IsTidy) (d : Deed) : (l.after d).IsTidy := by
  cases d with
  | publish f => exact ⟨ht.nodup, ht.ids⟩
  | ask now q =>
    cases q with
    | create c =>
      show (l.create c).2.IsTidy
      rcases create_cases l c with ⟨e, h⟩ | ⟨-, h⟩ <;> rw [h]
      · exact ht
      · exact ht.keep _
    | save c w =>
      show (l.save now c w).2.IsTidy
      rcases save_cases l now c w with ⟨e, h⟩ | ⟨p, -, -, h⟩ <;> rw [h]
      · exact ht
      · exact ht.keep _
    | deactivate contact => exact ht.deactivate now contact.key
    | _ => exact ⟨ht.nodup, ht.ids⟩

/-! ## Many deeds -/

theorem afterAll_append (l : Ledger) (ds es : List Deed) :
    l.afterAll (ds ++ es) = (l.afterAll ds).afterAll es := List.foldl_append

theorem IsTidy.afterAll (ht : l.IsTidy) (ds : List Deed) : (l.afterAll ds).IsTidy := by
  induction ds generalizing l with
  | nil => exact ht
  | cons d ds ih => exact ih (ht.after d)

theorem beginsAnew_append {ds es : List Deed} :
    l.BeginsAnew (ds ++ es) ↔ l.BeginsAnew ds ∧ (l.afterAll ds).BeginsAnew es := by
  induction ds generalizing l with
  | nil => simp [BeginsAnew, afterAll]
  | cons d ds ih =>
    show l.IsNew d ∧ (l.after d).BeginsAnew (ds ++ es) ↔ (l.IsNew d ∧ (l.after d).BeginsAnew ds) ∧ _
    rw [ih, and_assoc]
    exact Iff.rfl

/-- Every version of the earlier ledger is reached or passed in the later one. -/
def Precedes (l l' : Ledger) : Prop :=
  ∀ id v, l.version? id = some v → ∃ v', l'.version? id = some v' ∧ v ≤ v'

theorem Precedes.trans {l' l'' : Ledger} (h : l.Precedes l') (h' : l'.Precedes l'') :
    l.Precedes l'' := by
  intro id v hv
  obtain ⟨v', hv', hle⟩ := h id v hv
  obtain ⟨v'', hv'', hle'⟩ := h' id v' hv'
  exact ⟨v'', hv'', Int.le_trans hle hle'⟩

theorem precedes_after (ht : l.IsTidy) (hnew : l.IsNew d) : l.Precedes (l.after d) := by
  intro id v hv
  rcases after_cases ht d id with ⟨hb, -⟩ | ⟨-, w, hw, hw'⟩ | ⟨-, -, hf⟩
  · -- What is begun anew had no version.
    cases d with
    | publish f => exact hb.elim
    | ask now q =>
      cases q with
      | create c =>
        obtain ⟨rfl, -⟩ := hb
        rw [version?, show l.find? c.id = none from hnew] at hv
        cases hv
      | _ => exact hb.elim
  · obtain rfl : v = w := Option.some.inj (hv.symm.trans hw)
    exact ⟨v + 1, hw', by omega⟩
  · exact ⟨v, by rw [version?, hf]; exact hv, Int.le_refl v⟩

theorem precedes_afterAll {ds : List Deed} (ht : l.IsTidy) (hnew : l.BeginsAnew ds) :
    l.Precedes (l.afterAll ds) := by
  induction ds generalizing l with
  | nil => exact fun id v hv => ⟨v, hv, Int.le_refl v⟩
  | cons d ds ih =>
    obtain ⟨hd, hds⟩ := hnew
    exact (precedes_after ht hd).trans (ih (ht.after d) hds)

/-- What a deed shows is in the ledger. -/
theorem version?_of_shows {c : Conversation} (ht : l.IsTidy) (h : l.Shows c d) :
    l.version? c.id = some c.version := by
  cases d with
  | publish f => exact h.elim
  | ask now q =>
    cases q with
    | active contact =>
      have hc : l.active? contact.key = some c := Except.ok.inj h
      rw [version?, (ht.find?_of_active? hc).1, Option.map_some]
    | conversation id =>
      have hc : l.find? id = some c := Except.ok.inj h
      rw [version?, ht.find?_id hc, Option.map_some]
    | _ => exact h.elim

/-- Once a conversation was written, no save over a version that it had before goes through. -/
theorem not_saves_of_writes {ds : List Deed} {d' : Deed} {w : Int} (ht : l.IsTidy)
    (hd : l.Writes id d) (hnew : (l.after d).BeginsAnew ds) (hv : l.version? id = some w)
    (hle : v ≤ w) : ¬ ((l.after d).afterAll ds).Saves id v d' := by
  intro hs
  obtain ⟨w', hw', hlater⟩ := (counts_of_isTidy ht d).written id hd
  obtain rfl : w = w' := Option.some.inj (hv.symm.trans hw')
  obtain ⟨u, hu, hwu⟩ := precedes_afterAll (ht.after d) hnew id (w + 1) hlater
  obtain rfl : u = v := Option.some.inj (hu.symm.trans (version?_of_saves hs))
  omega

/-- However a ledger is used, if only new conversations have new ids: every deed counts the versions
as it should, no version of a conversation is saved over twice, and a conversation that was shown
before another write is not saved over the version that it was shown at. -/
theorem counts_of_run (flows : Dictionary Flow) (ds : List Deed)
    (hnew : ({ flows } : Ledger).BeginsAnew ds) :
    (∀ earlier d later, ds = earlier ++ d :: later → (afterAll { flows } earlier).Counts d) ∧
    (∀ earlier d between d' later id v, ds = earlier ++ d :: (between ++ d' :: later) →
      (afterAll { flows } earlier).Saves id v d →
      ¬ (afterAll { flows } (earlier ++ d :: between)).Saves id v d') ∧
    (∀ earlier r meanwhile d between d' later c,
      ds = earlier ++ r :: (meanwhile ++ d :: (between ++ d' :: later)) →
      (afterAll { flows } earlier).Shows c r →
      (afterAll { flows } (earlier ++ r :: meanwhile)).Writes c.id d →
      ¬ (afterAll { flows } (earlier ++ r :: (meanwhile ++ d :: between))).Saves c.id c.version
        d') := by
  have tidy : ∀ es, (afterAll { flows } es).IsTidy := fun es => (isTidy_empty flows).afterAll es
  refine ⟨fun earlier d later _ => counts_of_isTidy (tidy earlier) d, ?_, ?_⟩
  · intro earlier d between d' later id v hds hsaves
    subst hds
    obtain ⟨-, -, hnew⟩ := beginsAnew_append.1 hnew
    obtain ⟨hnew, -⟩ := beginsAnew_append.1 hnew
    rw [afterAll_append]
    exact not_saves_of_writes (tidy earlier) (Or.inl ⟨v, hsaves⟩) hnew (version?_of_saves hsaves)
      (Int.le_refl v)
  · intro earlier r meanwhile d between d' later c hds hshows hwrites
    subst hds
    obtain ⟨-, hr, hnew⟩ := beginsAnew_append.1 hnew
    obtain ⟨hmeanwhile, -, hnew⟩ := beginsAnew_append.1 hnew
    obtain ⟨hnew, -⟩ := beginsAnew_append.1 hnew
    have hshown := version?_of_shows (tidy earlier) hshows
    have hprecedes := (precedes_after (tidy earlier) hr).trans
      (precedes_afterAll ((tidy earlier).after r) hmeanwhile)
    obtain ⟨w, hw, hle⟩ := hprecedes c.id c.version hshown
    rw [afterAll_append] at hwrites ⊢
    show ¬ (afterAll (((afterAll { flows } earlier).after r)) (meanwhile ++ d :: between)).Saves _ _ _
    rw [afterAll_append]
    exact not_saves_of_writes (((tidy earlier).after r).afterAll meanwhile) hwrites hnew hw hle

/-- A conversation that waits for an answer. -/
def talk : Conversation where
  id := "talk"
  contact := { tenant := "company", session := "session", person := "person" }
  flowId := "flow"
  node := "question"
  awaitsInput := true
  version := 1
  createdAt := Rehearsal.Clock.usualStart
  updatedAt := Rehearsal.Clock.usualStart

/-- What is done when a conversation is begun, shown to somebody, ended, and saved by whom it was
shown to. -/
def endedMeanwhile : List Deed :=
  [.create talk, .active talk.contact, .deactivate talk.contact, .save talk 1].map
    (.ask Rehearsal.Clock.usualStart)

theorem endedMeanwhile_counted : ({ flows := [] } : Ledger).BeginsAnew endedMeanwhile ∧
    (afterAll { flows := [] } (endedMeanwhile.take 2)).Writes talk.id (endedMeanwhile[2]) ∧
    ¬ (afterAll { flows := [] } (endedMeanwhile.take 3)).Saves talk.id 1 (endedMeanwhile[3]) := by
  have hnew : ({ flows := [] } : Ledger).BeginsAnew endedMeanwhile :=
    ⟨rfl, trivial, trivial, trivial, trivial⟩
  have hwrites : (afterAll { flows := [] } (endedMeanwhile.take 2)).Writes talk.id
      (endedMeanwhile[2]) := Or.inr ⟨["talk"], rfl, List.mem_singleton_self _⟩
  exact ⟨hnew, hwrites, (counts_of_run [] endedMeanwhile hnew).2.2 (endedMeanwhile.take 1) _ [] _ []
    _ [] talk rfl rfl hwrites⟩

end Ledger

end Parley
