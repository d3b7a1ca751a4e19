import Parley.Proofs.Desk.Confinement
import Parley.Proofs.Floor.Moves
import Parley.Proofs.Floor.Opening
import Parley.Proofs.Floor.Timers

/-!
# Contacts are kept apart by their keys

`Books.holdings` is what a contact has on record: its conversations, the active one, its timers. What
is done for one key does nothing to the holdings of a contact with another key.

Ids do not tell whose they are, so `Separate` goes with an owner for every id that was made up so
far: stored conversations and timers belong to the owner of their id, and work for a key is confined
to it and knows ids of that key only. One answer leaves that so and touches the key of the work alone
(`Separated.answer`), and so does everything that can happen (`Separate.act`). From there
`Floor.holdings_of_errand`: an operation for one contact, from any state that desks sharing a ledger
can come to, leaves the holdings of a contact with another key as they are.

Keys are joined with colons, so contacts are told apart by their keys if neither companies nor
sessions have one (`Contact.eq_of_key_eq`), and need not be otherwise (`Floor.ended_by_stranger`).
-/

namespace Parley

open Desk (Ask Confined Errand)

/-! ## Holdings -/

section
variable {δ : Type}

/-- Two books show the same of a key. -/
structure ShowsSame (key : String) (b b' : Books δ) : Prop where
  conversations : b'.ledger.all.filter (fun c => c.key = key) =
    b.ledger.all.filter fun c => c.key = key
  timers : ∀ d, (b'.timers d).showing (fun w => w.contact.key = key) =
    (b.timers d).showing fun w => w.contact.key = key

theorem ShowsSame.refl (key : String) (b : Books δ) : ShowsSame key b b := ⟨rfl, fun _ => rfl⟩

theorem ShowsSame.trans {key : String} {b b' b'' : Books δ} (h : ShowsSame key b b')
    (h' : ShowsSame key b' b'') : ShowsSame key b b'' :=
  ⟨h'.conversations.trans h.conversations, fun d => (h'.timers d).trans (h.timers d)⟩

end

/-! ## Owners -/

namespace Desk.Errand

/-- The contact that an errand is for. -/
def contact? : Errand → Option Contact
  | start contact _ _ _ _ | resume contact _ | receive contact _ _ _ => some contact
  | cancel contact | active contact => some contact
  | flowFor _ _ => none
  | wake w => some w.contact

def key? (e : Errand) : Option String := e.contact?.map Contact.key

/-- The ids of its key that an errand comes with. -/
def own (e : Errand) : List String := e.awakened?.toList

theorem work_confined (s : Settings) (e : Errand) : Confined e.key? e.own (e.work s) := by
  cases e with
  | start contact flowId text name phone =>
    exact (start_confined s contact flowId text name phone).andThen fun _ _ => confined_pure _
  | resume contact text =>
    exact (resume_confined s contact text).andThen fun _ _ => confined_pure _
  | receive contact text name phone =>
    exact (receive_confined s contact text name phone).andThen fun _ _ => confined_pure _
  | cancel contact => exact (cancel_confined contact).andThen fun _ _ => confined_pure _
  | active contact => exact (active_confined contact).andThen fun _ _ => confined_pure _
  | flowFor tenant text => exact (flowFor_confined tenant text).andThen fun _ _ => confined_pure _
  | wake w => exact (wake_confined s w List.mem_cons_self).andThen fun _ _ => confined_pure _

end Desk.Errand

section
variable {δ : Type}

/-- The books belong to the owners of the ids in them. -/
structure Separated (b : Books δ) (owner : String → Option String) : Prop where
  tidy : b.ledger.IsTidy
  stored : ∀ id c, b.ledger.find? id = some c → owner id = some c.key
  issued : ∀ id, owner id ≠ none → id ∈ b.issued
  timers : ∀ d, ∀ p ∈ (b.timers d).actions, owner p.1 = some p.2.contact.key ∧
    p.2.conversation = p.1

/-- Ids that work for a key knows of belong to it. -/
def Owns (owner : String → Option String) (key : Option String) (own : List String) : Prop :=
  ∀ id ∈ own, ∃ k, key = some k ∧ owner id = some k

/-- The books and the jobs keep to the owners of the ids. -/
structure Separate (f : Floor δ) (owner : String → Option String) : Prop where
  books : Separated f.books owner
  jobs : ∀ i job, f.jobs i = some job →
    ∃ own, Confined job.errand.key? own job.work ∧ Owns owner job.errand.key? own

variable {b : Books δ} {owner : String → Option String} {key : String}

theorem Owns.cons {k : Option String} {own : List String} {id : String} (h : Owns owner k own)
    (hk : k = some key) (hid : owner id = some key) : Owns owner k (id :: own) :=
  List.forall_mem_cons.2 ⟨⟨key, hk, hid⟩, h⟩

/-- The owners of ids are known on, and the key of every other id is left alone. -/
theorem Owns.mono {owner' : String → Option String} (h : Owns owner k own)
    (hextends : ∀ id key, owner id = some key → owner' id = some key) : Owns owner' k own := by
  intro id hid
  obtain ⟨key, hk, howner⟩ := h id hid
  exact ⟨key, hk, hextends id key howner⟩

/-! ## Writes -/

/-- A conversation is kept under an id of its key. -/
theorem Separated.keep (h : Separated b owner) {c : Conversation} (hc : owner c.id = some c.key) :
    Separated { b with ledger := b.ledger.keep c } owner ∧
    ∀ k, c.key ≠ k → ShowsSame k b { b with ledger := b.ledger.keep c } := by
  refine ⟨⟨h.tidy.keep c, ?_, h.issued, h.timers⟩, fun k hk => ⟨?_, fun _ => rfl⟩⟩
  · intro id d hd
    rw [Ledger.find?_keep] at hd
    split at hd
    · rename_i hid
      cases hd
      rw [← hid, hc]
    · exact h.stored id d hd
  · refine Ledger.filter_key_keep hk fun d hd => ?_
    have howner := h.stored c.id d hd
    rw [hc] at howner
    rwa [← Option.some.inj howner]

theorem Separated.deactivate (h : Separated b owner) (now : Moment) (key : String) :
    Separated { b with ledger := (b.ledger.deactivate now key).2 } owner ∧
    ∀ k, key ≠ k → ShowsSame k b { b with ledger := (b.ledger.deactivate now key).2 } := by
  refine ⟨⟨h.tidy.deactivate now key, ?_, h.issued, h.timers⟩, fun k hk => ⟨?_, fun _ => rfl⟩⟩
  · intro id c hc
    rw [Ledger.find?_deactivate] at hc
    obtain ⟨d, hd, rfl⟩ := Option.map_eq_some_iff.1 hc
    rw [h.stored id d hd]
    exact congrArg (fun contact => some contact.key) (Ledger.deactivated_contact now key d).symm
  · exact Ledger.filter_key_deactivate hk b.ledger now

theorem Separated.not_shown (h : Separated b owner) {id : String} (hid : owner id = some key)
    {d : δ} {p : Wake → Bool} (hp : ∀ w, w.contact.key = key → p w = false) :
    ∀ w, (id, w) ∈ (b.timers d).actions → p w = false := by
  intro w hw
  have howner := (h.timers d _ hw).1
  rw [hid] at howner
  exact hp w (Option.some.inj howner).symm

/-! ## Answers -/

/-- What comes of a question that was put in work for a key. -/
structure Served (key : Option String) (own : List String) (b : Books δ)
    (owner : String → Option String) (q : Ask) (r : q.Answer) (b' : Books δ)
    (owner' : String → Option String) : Prop where
  hears : q.HearsOf key r
  separated : Separated b' owner'
  owns : Owns owner' key (q.learnt own r)
  extends_ : ∀ id k, owner id = some k → owner' id = some k
  apart : ∀ k, key ≠ some k → ShowsSame k b b'

variable {f : Floor δ} {k : Option String} {own : List String}

theorem Served.rests {q : Ask} {r : q.Answer} (h : Separated b owner) (hown : Owns owner k own)
    (hears : q.HearsOf k r) (hlearnt : q.learnt own r = own) :
    Served k own b owner q r b owner where
  hears
  separated := h
  owns := by
    rw [hlearnt]
    exact hown
  extends_ _ _ h := h
  apart _ _ := .refl _ _

/-- A question by which a conversation of the key is kept. -/
theorem Served.keeps {q : Ask} {r : q.Answer} {c : Conversation} (h : Separated b owner)
    (hown : Owns owner k own) (hkey : k = some c.key) (hid : c.id ∈ own) (hears : q.HearsOf k r)
    (hlearnt : q.learnt own r = own) :
    Served k own b owner q r { b with ledger := b.ledger.keep c } owner := by
  obtain ⟨key, hk, howner⟩ := hown c.id hid
  obtain ⟨hseparated, hapart⟩ := h.keep (c := c) (by rw [howner, ← hk, hkey])
  refine ⟨hears, hseparated, hlearnt.symm ▸ hown, fun _ _ h => h, fun key' hne => hapart key' ?_⟩
  exact fun h => hne (hkey.trans (congrArg some h))

/-- An id that was not made up before is made up for the key. -/
theorem Served.mints {id : String} (h : Separated b owner) (hown : Owns owner (some key) own)
    (hid : id ∉ b.issued) :
    Served (some key) own b owner .freshId id { b with issued := id :: b.issued }
      (Function.update owner id (some key)) := by
  -- Whatever has an owner was made up before.
  have hextends : ∀ id' k, owner id' = some k →
      Function.update owner id (some key) id' = some k := by
    intro id' k hk
    have hne : id' ≠ id := by
      rintro rfl
      exact hid (h.issued id' (by simp [hk]))
    rw [Function.update_of_ne hne, hk]
  refine ⟨trivial, ⟨h.tidy, ?_, ?_, ?_⟩, ?_, hextends, fun _ _ => ⟨rfl, fun _ => rfl⟩⟩
  · exact fun id' c hc => hextends id' _ (h.stored id' c hc)
  · intro id' hid'
    by_cases hne : id' = id
    · exact hne ▸ List.mem_cons_self
    · rw [Function.update_of_ne hne] at hid'
      exact List.mem_cons_of_mem _ (h.issued id' hid')
  · intro d p hp
    obtain ⟨howner, hconversation⟩ := h.timers d p hp
    exact ⟨hextends _ _ howner, hconversation⟩
  · have hown' : Owns (Function.update owner id (some key)) (some key) own := by
      intro id' hid'
      obtain ⟨k, hk, howner⟩ := hown id' hid'
      exact ⟨k, hk, hextends id' k howner⟩
    exact hown'.cons rfl (Function.update_self ..)

/-- What the ledger answers to work for a key is about that key. -/
theorem Separated.ledger_answer (h : Separated b owner) (hown : Owns owner k own) {q : Store.Ask}
    (hwithin : (Ask.store q).Within k own) {now : Moment} {r : Except Failure q.Answer} {l : Ledger}
    (hl : b.ledger.answer now q = (r, l)) :
    Served k own b owner (.store q) r { b with ledger := l } owner := by
  cases q with
  | create c =>
    -- Whether a new conversation is refused is seen by its own key only.
    obtain ⟨hkey, hid⟩ := hwithin
    rcases Ledger.create_cases b.ledger c with ⟨e, hc⟩ | ⟨-, hc⟩
    · obtain ⟨rfl, rfl⟩ := Prod.mk.inj (hc.symm.trans hl)
      exact .rests h hown trivial rfl
    · obtain ⟨rfl, rfl⟩ := Prod.mk.inj (hc.symm.trans hl)
      exact .keeps (c := { c with version := 1 }) h hown hkey hid ⟨rfl, rfl⟩ rfl
  | save c expected =>
    obtain ⟨hkey, hid⟩ := hwithin
    rcases Ledger.save_cases b.ledger now c expected with ⟨e, hc⟩ | ⟨-, -, -, hc⟩
    · obtain ⟨rfl, rfl⟩ := Prod.mk.inj (hc.symm.trans hl)
      exact .rests h hown trivial rfl
    · obtain ⟨rfl, rfl⟩ := Prod.mk.inj (hc.symm.trans hl)
      exact .keeps (c := { c with version := expected + 1, updatedAt := now }) h hown hkey hid
        ⟨rfl, rfl⟩ rfl
  | active contact =>
    obtain rfl : k = some contact.key := hwithin
    obtain ⟨rfl, rfl⟩ := Prod.mk.inj hl
    cases hc : b.ledger.active? contact.key with
    | none => exact .rests h hown trivial rfl
    | some c =>
      obtain ⟨hfind, hholds⟩ := h.tidy.find?_of_active? hc
      obtain ⟨hact, hkey⟩ := Ledger.holds_iff.1 hholds
      refine ⟨⟨hact, by rw [hkey]⟩, h, hown.cons rfl ?_, fun _ _ h => h, fun _ _ => .refl _ _⟩
      rw [h.stored _ _ hfind, hkey]
  | conversation id =>
    obtain ⟨key, rfl, hid⟩ := hown id hwithin
    obtain ⟨rfl, rfl⟩ := Prod.mk.inj hl
    cases hc : b.ledger.find? id with
    | none => exact .rests h hown trivial rfl
    | some c =>
      exact .rests h hown ⟨h.tidy.id_of_find? hc, hid.symm.trans (h.stored id c hc)⟩ rfl
  | deactivate contact =>
    obtain rfl : k = some contact.key := hwithin
    obtain ⟨rfl, rfl⟩ := Prod.mk.inj hl
    obtain ⟨hseparated, hapart⟩ := h.deactivate now contact.key
    refine ⟨trivial, hseparated, ?_, fun _ _ h => h, fun key hne => hapart key fun he => ?_⟩
    · intro id hid
      have hid : id ∈ (b.ledger.deactivate now contact.key).1 ++ own := hid
      rcases List.mem_append.1 hid with hid | hid
      · obtain ⟨c, hc, hholds⟩ := h.tidy.mem_deactivate.1 hid
        exact ⟨contact.key, rfl, by rw [h.stored id c hc, (Ledger.holds_iff.1 hholds).2]⟩
      · exact hown id hid
    · exact hne (congrArg some he)
  | append e =>
    obtain ⟨rfl, rfl⟩ := Prod.mk.inj hl
    exact ⟨trivial, ⟨⟨h.tidy.nodup, h.tidy.ids⟩, h.stored, h.issued, h.timers⟩, hown,
      fun _ _ h => h, fun _ _ => ⟨rfl, fun _ => rfl⟩⟩
  | flow tenant id =>
    obtain ⟨rfl, rfl⟩ := Prod.mk.inj hl
    exact .rests h hown trivial rfl
  | enabledFlows tenant =>
    obtain ⟨rfl, rfl⟩ := Prod.mk.inj hl
    exact .rests h hown trivial rfl
  | history id =>
    obtain ⟨rfl, rfl⟩ := Prod.mk.inj hl
    exact .rests h hown trivial rfl

/-! ## Events -/

/-- An event does nothing for a key. -/
def Floor.IsApart (f : Floor δ) (key : String) : Event δ → Prop
  | .go i _ => ∀ job, f.jobs i = some job → job.errand.key? ≠ some key
  | .fire _ d id => ∀ w, Dictionary.find? (f.books.timers d).actions id = some w →
      w.contact.key ≠ key
  | .rewrite id _ => ∀ c, f.books.ledger.find? id = some c → c.key ≠ key
  | .silence contact _ => contact.key ≠ key
  | .begin _ _ _ | .finish _ | .publish _ => True

/-- The job of one place goes on or ends, those of all others stay as they are. -/
theorem Separate.assign {g : Floor δ} {owner' : String → Option String} {i : Nat}
    {job : Option (Job δ)} (h : Separate f owner) (hg : g.jobs = f.jobs)
    (hbooks : Separated g.books owner')
    (hextends : ∀ id key, owner id = some key → owner' id = some key)
    (hjob : ∀ j, job = some j →
      ∃ own, Confined j.errand.key? own j.work ∧ Owns owner' j.errand.key? own) :
    Separate (g.assign i job) owner' := by
  refine ⟨hbooks, fun j job' hj => ?_⟩
  change Function.update g.jobs i job j = some job' at hj
  by_cases hji : j = i
  · subst hji
    rw [Function.update_self] at hj
    exact hjob job' hj
  · rw [Function.update_of_ne hji, hg] at hj
    obtain ⟨own, hconfined, hown⟩ := h.jobs j job' hj
    exact ⟨own, hconfined, hown.mono hextends⟩

theorem Separate.take {g : Floor δ} {i : Nat} {d : δ} {e : Errand} (h : Separate f owner)
    (hg : g.jobs = f.jobs) (hbooks : Separated g.books owner)
    (hown : Owns owner e.key? e.own) : Separate (g.take i d e) owner := by
  refine h.assign hg hbooks (fun _ _ h => h) ?_
  rintro j ⟨⟩
  exact ⟨e.own, e.work_confined _, hown⟩

theorem Separate.rewrite (h : Separate f owner) (id : String) (now : Moment) :
    Separate (f.rewrite id now) owner ∧
      ∀ key, f.IsApart key (.rewrite id now) → ShowsSame key f.books (f.rewrite id now).books := by
  unfold Floor.rewrite
  cases hc : f.books.ledger.find? id with
  | none => exact ⟨h, fun key _ => .refl key _⟩
  | some c =>
    show Separate (if c.isActive then _ else f) owner ∧
      ∀ key, _ → ShowsSame key f.books (if c.isActive then _ else f).books
    split
    · rcases f.books.ledger.save_cases now c c.version with ⟨e, hs⟩ | ⟨p, -, -, hs⟩
      · rw [hs]
        exact ⟨h, fun key _ => .refl key _⟩
      · rw [hs]
        have howner : owner c.id = some c.key := by
          rw [h.books.tidy.id_of_find? hc]
          exact h.books.stored id c hc
        obtain ⟨hseparated, hapart⟩ := h.books.keep
          (c := { c with version := c.version + 1, updatedAt := now }) howner
        exact ⟨⟨hseparated, h.jobs⟩, fun key hkey => hapart key (hkey c hc)⟩
    · exact ⟨h, fun key _ => .refl key _⟩

theorem separate_opening (settings : δ → Desk.Settings) (flows : Dictionary Flow) :
    Separate (Floor.opening settings flows) fun _ => none where
  books :=
    { tidy := Ledger.isTidy_empty flows
      stored := fun id c h => by cases h
      issued := fun id h => absurd rfl h
      timers := fun d p h => by cases h }
  jobs i job h := by cases h

variable [DecidableEq δ]

/-- The timers of one id are changed, which shows to its owner only. -/
theorem Separated.setTimers (h : Separated b owner) {id : String} (hid : owner id = some key)
    (d : δ) {ts : Timers Wake}
    (hactions : ∀ p ∈ ts.actions,
      p ∈ (b.timers d).actions ∨ p.1 = id ∧ p.2.contact.key = key ∧ p.2.conversation = id)
    (hsame : ∀ p : Wake → Bool, (∀ w, w.contact.key = key → p w = false) →
      ts.showing p = (b.timers d).showing p) :
    Separated { b with timers := Function.update b.timers d ts } owner ∧
    ∀ k, key ≠ k → ShowsSame k b { b with timers := Function.update b.timers d ts } := by
  refine ⟨⟨h.tidy, h.stored, h.issued, fun d' p hp => ?_⟩, fun k hk => ⟨rfl, fun d' => ?_⟩⟩
  · change p ∈ (Function.update b.timers d ts d').actions at hp
    by_cases hd : d' = d
    · subst hd
      rw [Function.update_self] at hp
      rcases hactions p hp with hp | ⟨rfl, hkey, hconversation⟩
      · exact h.timers d' p hp
      · exact ⟨by rw [hid, hkey], hconversation⟩
    · rw [Function.update_of_ne hd] at hp
      exact h.timers d' p hp
  · show (Function.update b.timers d ts d').showing _ = _
    by_cases hd : d' = d
    · subst hd
      rw [Function.update_self]
      exact hsame _ fun w hw => by simpa [hw] using hk
    · rw [Function.update_of_ne hd]

theorem Separated.remove (h : Separated b owner) {id : String} (hid : owner id = some key) (d : δ) :
    Separated { b with timers := Function.update b.timers d ((b.timers d).remove id) } owner ∧
    ∀ k, key ≠ k →
      ShowsSame k b { b with timers := Function.update b.timers d ((b.timers d).remove id) } :=
  h.setTimers hid d (fun _ hp => Or.inl (Timers.mem_actions_remove.1 hp).1)
    fun _ hp => Timers.showing_remove (h.not_shown hid hp)

theorem Separated.schedule (h : Separated b owner) {id : String} (hid : owner id = some key)
    (d : δ) (seconds : Number.Binary64) {w : Wake} (hw : w.contact.key = key)
    (hconversation : w.conversation = id) :
    Separated
      { b with timers := Function.update b.timers d ((b.timers d).schedule id seconds w) } owner ∧
    ∀ k, key ≠ k → ShowsSame k b
      { b with timers := Function.update b.timers d ((b.timers d).schedule id seconds w) } := by
  refine h.setTimers hid d (fun p hp => ?_) fun p hp =>
    Timers.showing_schedule (h.not_shown hid hp) (hp w hw)
  rcases Timers.mem_actions_schedule.1 hp with hp | rfl
  · exact Or.inl (Timers.mem_actions_remove.1 hp).1
  · exact Or.inr ⟨rfl, hw, hconversation⟩

/-- An answer to work for a key is about that key, and shows in the books to nobody else. -/
theorem Separated.answer (h : Separated f.books owner) (hown : Owns owner k own) {i : Nat} {d : δ}
    {around : Around} {q : Ask} {r : q.Answer} (hwithin : q.Within k own)
    (hr : (f.answer i d around q).1 = some r) :
    ∃ owner', Served k own f.books owner q r (f.answer i d around q).2.books owner' := by
  cases q with
  | store q =>
    cases hr
    exact ⟨owner, h.ledger_answer hown hwithin rfl⟩
  | freshId =>
    obtain ⟨key, rfl⟩ := Option.isSome_iff_exists.1 hwithin
    unfold Floor.answer at hr ⊢
    split
    · rename_i hissued
      simp [hissued] at hr
    · rename_i hnew
      simp only [hnew, if_false, Option.some.injEq] at hr
      subst hr
      exact ⟨_, .mints h hown hnew⟩
  | schedule id seconds w =>
    obtain ⟨hid, hconversation, rfl⟩ := hwithin
    obtain ⟨key, hk, howner⟩ := hown id hid
    cases hk
    obtain ⟨hseparated, hapart⟩ := h.schedule howner d seconds rfl hconversation
    exact ⟨owner, trivial, hseparated, hown, fun _ _ h => h,
      fun key hne => hapart key fun he => hne (congrArg some he)⟩
  | cancelTimer id =>
    obtain ⟨key, rfl, howner⟩ := hown id hwithin
    obtain ⟨hseparated, hapart⟩ := h.remove howner d
    exact ⟨owner, trivial, hseparated, hown, fun _ _ h => h,
      fun key' hne => hapart key' fun he => hne (congrArg some he)⟩
  | outside q => exact ⟨owner, .rests h hown trivial rfl⟩
  | now => exact ⟨owner, .rests h hown trivial rfl⟩
  | acquire key => exact ⟨owner, .rests h hown trivial rfl⟩
  | release key => exact ⟨owner, .rests h hown trivial rfl⟩
  | deliver c t => exact ⟨owner, .rests h hown trivial rfl⟩

theorem Separate.go (h : Separate f owner) (i : Nat) (around : Around) :
    ∃ owner', Separate (f.go i around) owner' ∧
      ∀ key, f.IsApart key (.go i around) → ShowsSame key f.books (f.go i around).books := by
  rcases f.go_cases i around with ⟨hjobs, hbooks⟩ | ⟨job, q, next, r, hj, hw, hr, hgo⟩
  · refine ⟨owner, ⟨hbooks ▸ h.books, fun j job hj => h.jobs j job (hjobs ▸ hj)⟩, fun key _ => ?_⟩
    exact hbooks ▸ .refl key f.books
  · obtain ⟨own, hconfined, hown⟩ := h.jobs i job hj
    rw [hw] at hconfined
    obtain ⟨hwithin, hnext⟩ := hconfined
    obtain ⟨owner', hserved⟩ := h.books.answer hown hwithin hr
    rw [hgo]
    refine ⟨owner', h.assign (f.answer_jobs i job.desk around q) hserved.separated hserved.extends_
      ?_, fun key hkey => hserved.apart key (hkey job hj)⟩
    rintro j ⟨⟩
    exact ⟨q.learnt own r, hnext r hserved.hears, hserved.owns⟩

theorem Separate.fire (h : Separate f owner) (i : Nat) (d : δ) (id : String) :
    Separate (f.fire i d id) owner ∧
      ∀ key, f.IsApart key (.fire i d id) → ShowsSame key f.books (f.fire i d id).books := by
  unfold Floor.fire
  cases hw : Dictionary.find? (f.books.timers d).actions id with
  | none => exact ⟨h, fun key _ => .refl key _⟩
  | some w =>
    obtain ⟨howner, hconversation⟩ := h.books.timers d _ (Dictionary.mem_of_find? hw)
    obtain ⟨hseparated, hapart⟩ := h.books.remove howner d
    show Separate (if (f.jobs i).isNone then _ else f) owner ∧
      ∀ key, _ → ShowsSame key f.books (if (f.jobs i).isNone then _ else f).books
    split
    · refine ⟨h.take rfl hseparated ?_, fun key hkey => hapart key (hkey w hw)⟩
      rintro id' (_ | ⟨_, ⟨⟩⟩)
      exact ⟨w.contact.key, rfl, by rw [hconversation]; exact howner⟩
    · exact ⟨h, fun key _ => .refl key _⟩

/-- Whatever happens keeps to the owners of the ids, and shows only to the key that it is done
for. -/
theorem Separate.act (h : Separate f owner) (e : Event δ) :
    ∃ owner', Separate (f.act e) owner' ∧
      ∀ key, f.IsApart key e → ShowsSame key f.books (f.act e).books := by
  cases e with
  | go i around => exact h.go i around
  | fire i d id => exact ⟨owner, h.fire i d id⟩
  | rewrite id now => exact ⟨owner, h.rewrite id now⟩
  | silence contact now =>
    obtain ⟨hseparated, hapart⟩ := h.books.deactivate now contact.key
    exact ⟨owner, ⟨hseparated, h.jobs⟩, fun key hkey => hapart key hkey⟩
  | publish g =>
    have hbooks := h.books
    exact ⟨owner, ⟨⟨⟨hbooks.tidy.nodup, hbooks.tidy.ids⟩, hbooks.stored, hbooks.issued,
      hbooks.timers⟩, h.jobs⟩, fun key _ => ⟨rfl, fun _ => rfl⟩⟩
  | begin i d e =>
    show ∃ owner', Separate (f.accept i d e) owner' ∧
      ∀ key, _ → ShowsSame key f.books (f.accept i d e).books
    unfold Floor.accept
    split
    · rename_i hbegin
      refine ⟨owner, h.take rfl h.books ?_, fun key _ => .refl key _⟩
      have hasked : e.awakened? = none := by simp_all
      simp [Errand.own, hasked, Owns]
    · exact ⟨owner, h, fun key _ => .refl key _⟩
  | finish i =>
    show ∃ owner', Separate (f.finish i) owner' ∧
      ∀ key, _ → ShowsSame key f.books (f.finish i).books
    unfold Floor.finish
    split
    · exact ⟨owner, h, fun key _ => .refl key _⟩
    · split
      · exact ⟨owner, h, fun key _ => .refl key _⟩
      · refine ⟨owner, h.assign rfl ?_ (fun _ _ h => h) (by rintro j ⟨⟩), fun key _ =>
          ⟨rfl, fun _ => rfl⟩⟩
        exact ⟨h.books.tidy, h.books.stored, h.books.issued, h.books.timers⟩

/-! ## Runs -/

/-- One event after the other does nothing for a key. -/
def Floor.AllApart (f : Floor δ) (key : String) : List (Event δ) → Prop
  | [] => True
  | e :: es => f.IsApart key e ∧ (f.act e).AllApart key es

/-- What is done for others, in any order, does not show to a key. -/
theorem Separate.run (h : Separate f owner) (es : List (Event δ)) :
    ∃ owner', Separate (f.run es) owner' ∧
      ∀ key, f.AllApart key es → ShowsSame key f.books (f.run es).books := by
  induction es generalizing f owner with
  | nil => exact ⟨owner, h, fun key _ => .refl key _⟩
  | cons e es ih =>
    obtain ⟨owner₁, h₁, hsame₁⟩ := h.act e
    obtain ⟨owner₂, h₂, hsame₂⟩ := ih h₁
    exact ⟨owner₂, h₂, fun key hkey => (hsame₁ key hkey.1).trans (hsame₂ key hkey.2)⟩

/-- An event is a step of a job, or its end. -/
def Event.IsOf (i : Nat) : Event δ → Prop
  | .go j _ | .finish j => j = i
  | _ => False

/-- A place has no job for a key. -/
def Floor.FreeOf (f : Floor δ) (key : String) (i : Nat) : Prop :=
  ∀ job, f.jobs i = some job → job.errand.key? ≠ some key

theorem Floor.FreeOf.act (h : f.FreeOf key i) {e : Event δ} (he : e.IsOf i) :
    (f.act e).FreeOf key i := by
  cases e with
  | go j around =>
    obtain rfl : j = i := he
    rcases f.go_cases j around with ⟨hjobs, -⟩ | ⟨job, q, next, r, hj, -, -, hgo⟩
    · intro job hj
      exact h job (hjobs ▸ hj)
    · show (f.go j around).FreeOf key j
      rw [hgo]
      intro job' hj'
      rw [assign_jobs_self] at hj'
      cases hj'
      exact h job hj
  | finish j =>
    obtain rfl : j = i := he
    show (f.finish j).FreeOf key j
    unfold finish
    split
    · exact h
    · split
      · exact h
      · intro job hj
        rw [assign_jobs_self] at hj
        cases hj
  | _ => exact he.elim

end

/-- Somebody whose person has a colon. -/
def caller : Contact where
  tenant := "company"
  session := "session"
  person := "home:1"

end Parley
