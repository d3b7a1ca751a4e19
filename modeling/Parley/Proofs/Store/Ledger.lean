import Parley.Proofs.Dictionary
import Parley.Store.Ledger

/-!
# What a ledger keeps

The conversations of a ledger are looked at through `Ledger.find?`. `Ledger.IsTidy` holds of a
ledger that keeps every conversation once and under its own id; every write leaves it so. For each
write one lemma says what it may find and what is found afterwards: `find?_keep`, `create_cases`,
`save_cases` and `find?_deactivate`. `Ledger.Grows` compares an earlier ledger with a later one.

A look at the active conversation of a key, and the list of those that are ended, are read off
`find?` too (`find?_of_active?`, `not_holds_of_active?`, `mem_deactivate`).
-/

namespace Parley

namespace Ledger

variable {l : Ledger} {c d : Conversation} {id key : String} {now : Moment}

theorem holds_iff : holds key c = true ↔ c.isActive = true ∧ c.key = key := by
  simp [holds]

/-- Every conversation is kept once, under its own id. -/
structure IsTidy (l : Ledger) : Prop where
  nodup : (Dictionary.keys l.conversations).Nodup
  ids : ∀ p ∈ l.conversations, p.2.id = p.1

theorem isTidy_empty (flows : Dictionary Flow) : IsTidy { flows } where
  nodup := List.nodup_nil
  ids p hp := by cases hp

theorem IsTidy.id_of_find? (h : l.IsTidy) (hc : l.find? id = some c) : c.id = id :=
  h.ids _ (Dictionary.mem_of_find? hc)

theorem IsTidy.find?_id (h : l.IsTidy) (hc : l.find? id = some c) : l.find? c.id = some c := by
  rw [h.id_of_find? hc]
  exact hc

theorem IsTidy.mem_all_iff (h : l.IsTidy) : c ∈ l.all ↔ l.find? c.id = some c := by
  constructor
  · intro hc
    obtain ⟨p, hp, rfl⟩ := List.mem_map.1 hc
    exact Dictionary.find?_of_mem h.nodup (by rw [h.ids p hp]; exact hp)
  · intro hc
    exact List.mem_map.2 ⟨_, Dictionary.mem_of_find? hc, rfl⟩

theorem IsTidy.nodup_ids (h : l.IsTidy) : (l.all.map (·.id)).Nodup := by
  have hkeys : l.all.map (·.id) = Dictionary.keys l.conversations := by
    unfold all Dictionary.keys
    rw [List.map_map]
    exact List.map_congr_left h.ids
  rw [hkeys]
  exact h.nodup

/-! ## Writes -/

theorem find?_keep (l : Ledger) (c : Conversation) (id : String) :
    (l.keep c).find? id = if c.id = id then some c else l.find? id :=
  Dictionary.find?_put ..

theorem IsTidy.keep (h : l.IsTidy) (c : Conversation) : (l.keep c).IsTidy where
  nodup := Dictionary.nodup_keys_put h.nodup _ _
  ids := by
    have hput : ∀ d : Dictionary Conversation, (∀ p ∈ d, p.2.id = p.1) →
        ∀ p ∈ Dictionary.put d c.id c, p.2.id = p.1 := by
      intro d hd
      induction d with
      | nil => simp [Dictionary.put]
      | cons q rest ih =>
        obtain ⟨k, v⟩ := q
        have hrest := ih fun p hp => hd p (List.mem_cons_of_mem _ hp)
        unfold Dictionary.put
        intro p hp
        split at hp
        · rename_i hk
          rcases List.mem_cons.1 hp with rfl | hp
          · exact hk.symm
          · exact hd p (List.mem_cons_of_mem _ hp)
        · rcases List.mem_cons.1 hp with rfl | hp
          · exact hd _ List.mem_cons_self
          · exact hrest p hp
    exact hput _ h.ids

theorem deactivated_id (now : Moment) (key : String) (c : Conversation) :
    (deactivated now key c).id = c.id := by
  unfold deactivated
  split <;> rfl

theorem deactivated_contact (now : Moment) (key : String) (c : Conversation) :
    (deactivated now key c).contact = c.contact := by
  unfold deactivated
  split <;> rfl

/-- A conversation that is ended is over, and any other one stays as it is. -/
theorem deactivated_cases (now : Moment) (key : String) (c : Conversation) :
    (holds key c = true ∧ deactivated now key c =
      { c.finished with version := c.version + 1, updatedAt := now }) ∨
    (holds key c = false ∧ deactivated now key c = c) := by
  unfold deactivated
  cases holds key c with
  | true => exact Or.inl ⟨rfl, rfl⟩
  | false => exact Or.inr ⟨rfl, rfl⟩

theorem find?_deactivate (l : Ledger) (now : Moment) (key id : String) :
    (l.deactivate now key).2.find? id = (l.find? id).map (deactivated now key) :=
  Dictionary.find?_map ..

theorem all_deactivate (l : Ledger) (now : Moment) (key : String) :
    (l.deactivate now key).2.all = l.all.map (deactivated now key) := by
  simp [all, deactivate, Function.comp_def]

/-- A conversation is kept behind those of other keys. -/
theorem filter_key_keep (hc : c.key ≠ key) (hold : ∀ d, l.find? c.id = some d → d.key ≠ key) :
    (l.keep c).all.filter (fun d => d.key = key) = l.all.filter fun d => d.key = key :=
  Dictionary.filter_values_put (by simpa using hc) fun d hd => by simpa using hold d hd

/-- The end of a key's conversations does nothing to those of another. -/
theorem filter_key_deactivate {other : String} (h : key ≠ other) (l : Ledger) (now : Moment) :
    (l.deactivate now key).2.all.filter (fun c => c.key = other) =
      l.all.filter fun c => c.key = other := by
  have hkey : ∀ c, (deactivated now key c).key = c.key := fun c =>
    congrArg Contact.key (deactivated_contact now key c)
  rw [all_deactivate, List.filter_map]
  have hshown : (fun c => decide (c.key = other)) ∘ deactivated now key =
      fun c => decide (c.key = other) := funext fun c => by simp [hkey]
  rw [hshown]
  refine List.map_congr_left (g := id) ?_ |>.trans (List.map_id _)
  intro c hc
  have hother : c.key = other := by simpa using (List.mem_filter.1 hc).2
  rcases deactivated_cases now key c with ⟨hk, -⟩ | ⟨-, he⟩
  · exact absurd ((holds_iff.1 hk).2.symm.trans hother) h
  · exact he

/-- What is in the ledger after a key's conversations were ended was there before, or is over. -/
theorem find?_of_deactivate (h : (l.deactivate now key).2.find? id = some c) :
    l.find? id = some c ∨ ∃ d, l.find? id = some d ∧ c.isActive = false ∧
      c.awaitsInput = false ∧ c.flowId = d.flowId := by
  rw [find?_deactivate] at h
  obtain ⟨d, hd, rfl⟩ := Option.map_eq_some_iff.1 h
  rcases deactivated_cases now key d with ⟨-, he⟩ | ⟨-, he⟩ <;> rw [he]
  · exact Or.inr ⟨d, hd, rfl, rfl, rfl⟩
  · exact Or.inl hd

theorem IsTidy.deactivate (h : l.IsTidy) (now : Moment) (key : String) :
    (l.deactivate now key).2.IsTidy where
  nodup := by
    show (Dictionary.keys (l.conversations.map _)).Nodup
    rw [Dictionary.keys_map]
    exact h.nodup
  ids p hp := by
    obtain ⟨q, hq, rfl⟩ := List.mem_map.1 hp
    rw [deactivated_id]
    exact h.ids q hq

theorem IsTidy.mem_deactivate (h : l.IsTidy) :
    id ∈ (l.deactivate now key).1 ↔ ∃ c, l.find? id = some c ∧ holds key c = true := by
  unfold Ledger.deactivate
  simp only [List.mem_map, List.mem_filter]
  constructor
  · rintro ⟨c, ⟨hc, hk⟩, rfl⟩
    exact ⟨c, h.mem_all_iff.1 hc, hk⟩
  · rintro ⟨c, hc, hk⟩
    exact ⟨c, ⟨h.mem_all_iff.2 (h.find?_id hc), hk⟩, h.id_of_find? hc⟩

/-- The later ledger has every conversation of the earlier one: one that is over as it was, any other
one as it was or in a higher version. -/
def Grows (l l' : Ledger) : Prop :=
  ∀ id c, l.find? id = some c →
    ∃ c', l'.find? id = some c' ∧ (c' = c ∨ c.isActive = true ∧ c.version < c'.version)

theorem grows_of_find? {l' : Ledger} (h : ∀ id, l'.find? id = l.find? id) : l.Grows l' := by
  intro id c hc
  exact ⟨c, by rw [h, hc], Or.inl rfl⟩

theorem Grows.trans {l' l'' : Ledger} (h : l.Grows l') (h' : l'.Grows l'') : l.Grows l'' := by
  intro id c hc
  obtain ⟨c', hc', hcc⟩ := h id c hc
  obtain ⟨c'', hc'', hcc'⟩ := h' id c' hc'
  refine ⟨c'', hc'', ?_⟩
  rcases hcc with rfl | ⟨hact, hlt⟩
  · exact hcc'
  · rcases hcc' with rfl | ⟨-, hlt'⟩
    · exact Or.inr ⟨hact, hlt⟩
    · exact Or.inr ⟨hact, by omega⟩

/-- A conversation may be kept under a new id, or over an active one of a lower version. -/
theorem grows_keep (h : ∀ p, l.find? c.id = some p → p.isActive = true ∧ p.version < c.version) :
    l.Grows (l.keep c) := by
  intro id d hd
  rw [find?_keep]
  by_cases hid : c.id = id
  · subst hid
    rw [if_pos rfl]
    exact ⟨c, rfl, Or.inr (h d hd)⟩
  · rw [if_neg hid]
    exact ⟨d, hd, Or.inl rfl⟩

theorem grows_deactivate (l : Ledger) (now : Moment) (key : String) :
    l.Grows (l.deactivate now key).2 := by
  intro id c hc
  rw [find?_deactivate, hc]
  refine ⟨_, rfl, ?_⟩
  rcases deactivated_cases now key c with ⟨hk, hd⟩ | ⟨-, hd⟩
  · refine Or.inr ⟨(holds_iff.1 hk).1, ?_⟩
    rw [hd]
    show c.version < c.version + 1
    omega
  · exact Or.inl hd

/-- A new conversation is refused, or there was no active one of its key. -/
theorem create_cases (l : Ledger) (c : Conversation) :
    (∃ e, l.create c = (.error e, l)) ∨
    (l.active? c.key = none ∧
      l.create c = (.ok { c with version := 1 }, l.keep { c with version := 1 })) := by
  unfold create
  cases h : l.active? c.key with
  | some other => exact Or.inl ⟨_, rfl⟩
  | none => exact Or.inr ⟨rfl, rfl⟩

/-- A write is refused, or it goes over the version that was expected. -/
theorem save_cases (l : Ledger) (now : Moment) (c : Conversation) (expected : Int) :
    (∃ e, l.save now c expected = (.error e, l)) ∨
    (∃ b, l.find? c.id = some b ∧ b.version = expected ∧ l.save now c expected =
      (.ok { c with version := expected + 1, updatedAt := now },
        l.keep { c with version := expected + 1, updatedAt := now })) := by
  unfold save
  simp only
  split
  · rename_i h
    obtain ⟨b, hb, hv⟩ := Option.map_eq_some_iff.1 h
    exact Or.inr ⟨b, hb, hv, rfl⟩
  · exact Or.inl ⟨_, rfl⟩

/-- A new conversation of a key without an active one is kept. -/
theorem create_of_active? (h : l.active? c.key = none) :
    l.create c = (.ok { c with version := 1 }, l.keep { c with version := 1 }) := by
  simp only [create, h]

/-- A conversation is written over the version that is in the ledger. -/
theorem save_of_find? (now : Moment) (h : l.find? c.id = some d) : l.save now c d.version =
    (.ok { c with version := d.version + 1, updatedAt := now },
      l.keep { c with version := d.version + 1, updatedAt := now }) := by
  simp [save, h]

/-! ## In order -/

/-- A conversation under a new id is the last one. -/
theorem all_keep_of_none (h : l.find? c.id = none) : (l.keep c).all = l.all ++ [c] := by
  have hnew : c.id ∉ Dictionary.keys l.conversations := Dictionary.find?_eq_none.1 h
  show (Dictionary.put l.conversations c.id c).map (·.2) = _
  rw [Dictionary.put_of_notMem hnew, List.map_append]
  rfl

/-- A conversation that is kept already is written over where it stands. -/
theorem IsTidy.all_keep (h : l.IsTidy) (hc : l.find? c.id = some d) :
    (l.keep c).all = l.all.map fun b => if b.id = c.id then c else b := by
  show (Dictionary.put l.conversations c.id c).map (·.2) = _
  rw [Dictionary.put_of_mem h.nodup (List.mem_map_of_mem (Dictionary.mem_of_find? hc))]
  unfold all
  rw [List.map_map, List.map_map]
  refine List.map_congr_left fun p hp => ?_
  show (if p.1 = c.id then (p.1, c) else p).2 = if p.2.id = c.id then c else p.2
  rw [h.ids p hp]
  split <;> rfl

theorem IsTidy.eq_of_id (h : l.IsTidy) (hc : c ∈ l.all) (hd : d ∈ l.all) (hid : c.id = d.id) :
    c = d := by
  have hfound := h.mem_all_iff.1 hc
  rw [hid, h.mem_all_iff.1 hd] at hfound
  exact (Option.some.inj hfound).symm

/-- The id of a conversation tells whether it is among those that are shown. -/
theorem IsTidy.mem_ids_filter_iff (h : l.IsTidy) (p : Conversation → Bool) (hc : c ∈ l.all) :
    c.id ∈ (l.all.filter p).map (·.id) ↔ p c = true := by
  constructor
  · intro hmem
    obtain ⟨d, hd, hid⟩ := List.mem_map.1 hmem
    obtain ⟨hd, hp⟩ := List.mem_filter.1 hd
    rwa [h.eq_of_id hd hc hid] at hp
  · intro hp
    exact List.mem_map_of_mem (List.mem_filter.2 ⟨hc, hp⟩)

/-- What is under an id is the first conversation of that id. -/
theorem IsTidy.find?_all (h : l.IsTidy) (id : String) :
    l.all.find? (fun c => c.id == id) = l.find? id := by
  cases hd : l.all.find? (fun c => c.id == id) with
  | some d =>
    have hid : d.id = id := by simpa using List.find?_some hd
    rw [← hid]
    exact (h.mem_all_iff.1 (List.mem_of_find?_eq_some hd)).symm
  | none =>
    cases hc : l.find? id with
    | none => rfl
    | some c =>
      have hmem := h.mem_all_iff.2 (h.find?_id hc)
      exact absurd (h.id_of_find? hc) (by simpa using List.find?_eq_none.1 hd c hmem)

/-! ## Histories -/

theorem historyOf_append (l : Ledger) (e : Entry) (id : String) :
    (l.append e).historyOf id =
      if e.conversation = id then l.historyOf id ++ [e] else l.historyOf id := by
  unfold append historyOf
  simp only [Dictionary.find?_put]
  split
  · rename_i h
    subst h
    rfl
  · rfl

/-! ## Active conversations -/

/-- A key whose conversations were ended has no active one. -/
theorem active?_deactivate (l : Ledger) (now : Moment) (key : String) :
    (l.deactivate now key).2.active? key = none := by
  refine List.find?_eq_none.2 fun c hc => ?_
  obtain ⟨p, hp, rfl⟩ := List.mem_map.1 hc
  obtain ⟨q, -, rfl⟩ := List.mem_map.1 hp
  show ¬ holds key (deactivated now key q.2) = true
  rcases deactivated_cases now key q.2 with ⟨-, hd⟩ | ⟨hk, hd⟩
  · rw [hd]
    simp [holds, Conversation.finished]
  · rw [hd, hk]
    exact Bool.false_ne_true

theorem IsTidy.find?_of_active? (h : l.IsTidy) (hc : l.active? key = some c) :
    l.find? c.id = some c ∧ holds key c = true :=
  ⟨h.mem_all_iff.1 (List.mem_of_find?_eq_some hc), List.find?_some hc⟩

theorem IsTidy.not_holds_of_active? (h : l.IsTidy) (ha : l.active? key = none)
    (hc : l.find? id = some c) : holds key c = false := by
  have hmem := h.mem_all_iff.2 (h.find?_id hc)
  simpa using List.find?_eq_none.1 ha c hmem

section
variable {l' : Ledger}
  (hsame : l'.all.filter (fun c => c.key = key) = l.all.filter fun c => c.key = key)
include hsame

/-- Ledgers that have the same conversations of a key have the same active one. -/
theorem active?_of_filter_key : l'.active? key = l.active? key := by
  have hshown : ∀ l : Ledger, l.active? key =
      (l.all.filter fun c => c.key = key).find? (holds key) := by
    intro l
    rw [List.find?_filter]
    refine congrArg (fun p => l.all.find? p) (funext fun c => ?_)
    cases hk : holds key c with
    | false => simp
    | true => simpa using (holds_iff.1 hk).2
  rw [hshown l', hsame, ← hshown l]

theorem find?_of_filter_key (h : l.IsTidy) (h' : l'.IsTidy) (hkey : c.key = key)
    (hc : l.find? id = some c) : l'.find? id = some c := by
  have hmem : c ∈ l.all.filter fun c => c.key = key :=
    List.mem_filter.2 ⟨h.mem_all_iff.2 (h.find?_id hc), by simpa using hkey⟩
  rw [← hsame] at hmem
  have hstored := h'.mem_all_iff.1 (List.mem_filter.1 hmem).1
  rwa [h.id_of_find? hc] at hstored

end

/-- A key has one active conversation at most. -/
def IsSingle (l : Ledger) : Prop :=
  ∀ key id c id' d, l.find? id = some c → l.find? id' = some d →
    holds key c = true → holds key d = true → id = id'

theorem isSingle_empty (flows : Dictionary Flow) : IsSingle { flows } := by
  intro key id c id' d hc
  cases hc

/-- A conversation may be kept where no other one is the active one of its key. -/
theorem IsSingle.keep (h : l.IsSingle)
    (hc : ∀ key, holds key c = true →
      ∀ id d, l.find? id = some d → holds key d = true → id = c.id) : (l.keep c).IsSingle := by
  intro key id d id' e hd he hdk hek
  rw [find?_keep] at hd he
  split at hd
  · rename_i hid
    cases hd
    split at he
    · rename_i hid'
      rw [← hid, ← hid']
    · rw [← hid]
      exact (hc key hdk id' e he hek).symm
  · split at he
    · rename_i hid'
      cases he
      rw [← hid']
      exact hc key hek id d hd hdk
    · exact h key id d id' e hd he hdk hek

theorem IsSingle.deactivate (h : l.IsSingle) (now : Moment) (key : String) :
    (l.deactivate now key).2.IsSingle := by
  have before : ∀ key' c, holds key' (deactivated now key c) = true → holds key' c = true := by
    intro key' c hk
    rcases deactivated_cases now key c with ⟨-, hd⟩ | ⟨-, hd⟩
    · rw [hd] at hk
      cases hk
    · rwa [hd] at hk
  intro key' id c id' d hc hd hck hdk
  rw [find?_deactivate] at hc hd
  obtain ⟨c₀, hc₀, rfl⟩ := Option.map_eq_some_iff.1 hc
  obtain ⟨d₀, hd₀, rfl⟩ := Option.map_eq_some_iff.1 hd
  exact h key' id c₀ id' d₀ hc₀ hd₀ (before _ _ hck) (before _ _ hdk)

theorem IsTidy.length_filter_holds (h : l.IsTidy) (hs : l.IsSingle) (key : String) :
    (l.all.filter (holds key)).length ≤ 1 := by
  have hids : ((l.all.filter (holds key)).map (·.id)).Nodup :=
    h.nodup_ids.sublist (List.filter_sublist.map _)
  have heq : ∀ c ∈ l.all.filter (holds key), ∀ d ∈ l.all.filter (holds key), c.id = d.id := by
    intro c hc d hd
    obtain ⟨hc, hck⟩ := List.mem_filter.1 hc
    obtain ⟨hd, hdk⟩ := List.mem_filter.1 hd
    exact hs key _ c _ d (h.mem_all_iff.1 hc) (h.mem_all_iff.1 hd) hck hdk
  cases hl : l.all.filter (holds key) with
  | nil => simp
  | cons c rest =>
    cases rest with
    | nil => simp
    | cons d rest =>
      rw [hl] at hids heq
      have hcd := heq c (by simp) d (by simp)
      simp [hcd] at hids

end Ledger

end Parley
