import Parley.Proofs.Desk.Tabled
import Parley.Proofs.Flow.Labels
import Parley.Proofs.Text.Words

/-!
# The words that start a flow

An author's words are kept in small letters (`Flow.small_of_read`). A message is taken apart at its
blanks, so a kept word counts exactly if it holds none. One without blanks starts its flow by
itself, whatever blanks are around it, and then a desk finds a flow for that message wherever its
store offers this one. One with a blank inside is never among the words of a message: without it
the flow starts with the same messages (`keyword_starts_or_sleeps`).
-/

namespace Parley

open Schema Text Reading

namespace Flow

variable {f : Flow} {v : Json} {k : String}

theorem mem_addition {found : List String} {word : String}
    (h : k ∈ if word = "" || found.contains word then found else found ++ [word]) :
    k ∈ found ∨ k = word ∧ word ≠ "" := by
  split at h
  · exact .inl h
  · rename_i hnew
    rw [Bool.or_eq_true, not_or, decide_eq_true_eq] at hnew
    obtain h | h := List.mem_append.1 h
    · exact .inl h
    · exact .inr ⟨List.mem_singleton.1 h, hnew.1⟩

theorem mem_triggersOf {items : List Json} (h : k ∈ triggersOf items) :
    ∃ s, k = lower (strip s) ∧ k ≠ "" := by
  have hall : ∀ w ∈ triggersOf items, ∃ s, w = lower (strip s) ∧ w ≠ "" := by
    unfold triggersOf
    apply List.foldlRecOn (motive := fun found => ∀ w ∈ found, ∃ s, w = lower (strip s) ∧ w ≠ "")
    · simp
    · intro found hfound item hitem w hw
      split at hw
      · obtain hw | ⟨hw, hne⟩ := mem_addition hw
        · exact hfound w hw
        · exact ⟨_, hw, hw ▸ hne⟩
      · exact hfound w hw
  exact hall k h

theorem mem_of_readTriggers {triggers : List String} (h : readTriggers v = .ok triggers)
    (hk : k ∈ triggers) : ∃ s, k = lower (strip s) ∧ k ≠ "" := by
  obtain ⟨u, -, hu⟩ := ok_of_andThen h
  split at hu
  · rw [← Reading.ok.inj hu] at hk
    exact mem_triggersOf hk
  · obtain ⟨items, -, hitems⟩ := ok_of_map hu
    rw [← hitems] at hk
    exact mem_triggersOf hk

/-- The words that start a flow that was read are small forms, and none is empty. -/
theorem small_of_read (h : read v = .ok f) (hk : k ∈ f.triggers) :
    ∃ s, k = lower (strip s) ∧ k ≠ "" := by
  unfold read at h
  split at h
  · obtain ⟨_, edges, hnodes, -, rfl⟩ := ok_of_seq h
    obtain ⟨build, nodes, hparts, -, rfl⟩ := ok_of_seq hnodes
    obtain ⟨_, triggers, henabled, htriggers, rfl⟩ := ok_of_seq hparts
    have hbuilt : k ∈ triggers := by
      obtain ⟨_, enabled, hname, -, rfl⟩ := ok_of_seq henabled
      obtain ⟨_, name, htenant, -, rfl⟩ := ok_of_seq hname
      obtain ⟨_, tenant, hid, -, rfl⟩ := ok_of_seq htenant
      obtain ⟨id, -, rfl⟩ := ok_of_functor hid
      exact hk
    obtain rfl | ⟨w, hw⟩ := optional_ok htriggers
    · cases hbuilt
    · exact mem_of_readTriggers hw hbuilt
  · cases h

theorem startsWith_iff {message : String} :
    f.startsWith message = true ↔ ∃ k ∈ f.triggers, k ∈ words (lower message) := by
  simp [startsWith]

/-- The flow without one of the words that start it. -/
def withoutWord (f : Flow) (k : String) : Flow := { f with triggers := f.triggers.filter (· != k) }

/-- A word with a blank inside starts no flow. -/
theorem startsWith_withoutWord (hk : ¬ IsUnbroken k) (message : String) :
    (f.withoutWord k).startsWith message = f.startsWith message := by
  rw [Bool.eq_iff_iff, startsWith_iff, startsWith_iff]
  constructor
  · intro ⟨t, ht, hword⟩
    exact ⟨t, List.mem_of_mem_filter ht, hword⟩
  · intro ⟨t, ht, hword⟩
    have hne : t ≠ k := by
      intro h
      exact hk (isUnbroken_of_mem_words (h ▸ hword))
    exact ⟨t, List.mem_filter.2 ⟨ht, by simpa using hne⟩, hword⟩

/-- A word without blanks starts its flow, whatever blanks are around it. -/
theorem startsWith_padded (hread : read v = .ok f) (hk : k ∈ f.triggers) (hunbroken : IsUnbroken k)
    {before after : String} (hbefore : isAllBlank before = true)
    (hafter : isAllBlank after = true) : f.startsWith (before ++ k ++ after) = true := by
  obtain ⟨s, hsmall, hne⟩ := small_of_read hread hk
  have hlower : lower (before ++ k ++ after) = before ++ k ++ after := by
    rw [hsmall, lower_padded hbefore hafter]
  rw [startsWith_iff]
  refine ⟨k, hk, ?_⟩
  rw [hlower, words_padded hbefore hafter, words_of_isUnbroken hunbroken hne]
  exact List.mem_singleton_self k

end Flow

namespace Desk

open Program

variable {σ : Type} {s : σ} {tenant : String} {f : Flow}

/-- The store offers a flow to a company: it is among those that the company can start. -/
def Offers (answer : (q : Ask) → σ → q.Answer × σ) (s : σ) (tenant : String) (f : Flow) : Prop :=
  ∃ flows, (answer (.store (.enabledFlows tenant)) s).1 = .ok flows ∧ f ∈ flows

/-- A store in memory offers each enabled flow to its company, or to all where it has none. -/
theorem offers_attended {as : Stream' Around} {l : Ledger} :
    Offers attended (as, l) tenant f ↔
      f ∈ l.flows.map (·.2) ∧ f.enabled = true ∧ (f.tenant = none ∨ f.tenant = some tenant) := by
  unfold Offers
  simp [attended, alone, Ledger.answer, Ledger.isFor]

/-- A store in tables offers the flows in the enabled rows of a company, unless one of these rows has
an obstacle. -/
theorem offers_tabled {as : Stream' Around} {db : Database}
    (hid : ∀ row ∈ db.rows Store.flowTable, Dictionary.has row "id" = true) :
    Offers tabled (as, db) tenant f ↔
      (Store.Tabular.offered tenant db).findSome? Flow.rowObstacle? = none ∧
        ∃ row ∈ Store.Tabular.offered tenant db, Flow.ofRow row = .ok f := by
  have hanswer := (Store.Tabular.run_enabledFlows as.head.now tenant hid).1
  show (∃ flows, (Store.Tabular.answer as.head.now (.enabledFlows tenant) db).1 = .ok flows ∧
    f ∈ flows) ↔ _
  rw [hanswer]
  cases (Store.Tabular.offered tenant db).findSome? Flow.rowObstacle? with
  | some e => simp
  | none =>
    have hread : ∀ row, (Flow.ofRow row).toOption = some f ↔ Flow.ofRow row = .ok f := by
      intro row
      cases Flow.ofRow row <;> simp [Except.toOption]
    simp [hread]

/-- A message that an offered flow starts with finds a flow. -/
theorem run_flowFor_of_offers {answer : (q : Ask) → σ → q.Answer × σ}
    (h : Offers answer s tenant f) {message : String} (hne : message ≠ "")
    (hstarts : f.startsWith message = true) :
    ∃ g, Offers answer s tenant g ∧ g.startsWith message = true ∧
      ((flowFor tenant (some message)).run answer s).1 = .ok (some g.id) := by
  obtain ⟨flows, hflows, hf⟩ := h
  have hgiven : Turn.given (some message) = some message := by simp [Turn.given, hne]
  have hasked : (store (.enabledFlows tenant)).run answer s =
      (.ok flows, (answer (.store (.enabledFlows tenant)) s).2) := by
    unfold store ask
    rw [run_bind_of_ok (run_call ..), hflows, run_ofExcept]
  obtain ⟨g, hg⟩ := Option.isSome_iff_exists.1
    (List.find?_isSome (p := fun g : Flow => g.startsWith message) |>.2 ⟨f, hf, hstarts⟩)
  have hfirst := List.find?_some (p := fun g : Flow => g.startsWith message) hg
  refine ⟨g, ⟨flows, hflows, List.mem_of_find?_eq_some hg⟩, hfirst, ?_⟩
  unfold flowFor
  rw [hgiven]
  dsimp only
  rw [run_bind_of_ok hasked, hg]
  rfl

/-- A word that an author wrote counts exactly if there is no blank inside. Then it is enough for its
flow to start, and for a flow to be found wherever this one is offered. With a blank inside it could
as well be missing. -/
theorem keyword_starts_or_sleeps {v : Json} (hread : Flow.read v = .ok f) {k : String}
    (hk : k ∈ f.triggers) :
    (IsUnbroken k → ∀ before after, isAllBlank before = true → isAllBlank after = true →
      f.startsWith (before ++ k ++ after) = true ∧
      ∀ {σ : Type} (answer : (q : Ask) → σ → q.Answer × σ) s tenant, Offers answer s tenant f →
        ∃ g, Offers answer s tenant g ∧ g.startsWith (before ++ k ++ after) = true ∧
          ((flowFor tenant (some (before ++ k ++ after))).run answer s).1 = .ok (some g.id)) ∧
    (¬ IsUnbroken k → ∀ message, (f.withoutWord k).startsWith message = f.startsWith message) := by
  refine ⟨?_, Flow.startsWith_withoutWord⟩
  intro hunbroken before after hbefore hafter
  have hstarts := Flow.startsWith_padded hread hk hunbroken hbefore hafter
  have hne : before ++ k ++ after ≠ "" := by
    obtain ⟨_, -, hempty⟩ := Flow.small_of_read hread hk
    intro h
    rw [String.append_eq_empty_iff, String.append_eq_empty_iff] at h
    exact hempty h.1.2
  exact ⟨hstarts, fun answer s tenant h => run_flowFor_of_offers h hne hstarts⟩

/-- A flow with two words, one of them with a blank inside. -/
def greetingDraft : Json :=
  .obj [("id", .str "greeting"), ("triggers", .arr [.str " ΣΑΣ", .str "Boa noite"])]

/-- The word without a blank starts the flow, which the desk then finds. -/
theorem keyword_starts_greeting : ∃ f, Flow.read greetingDraft = .ok f ∧ "σας" ∈ f.triggers ∧
    f.startsWith " σας\n" = true ∧ ∃ g : Flow,
      ((flowFor visitor.tenant (some " σας\n")).run attended
        (calm, { flows := [("greeting", f)] })).1 = .ok (some g.id) := by
  obtain ⟨f, hread, hk, henabled, htenant⟩ : ∃ f, Flow.read greetingDraft = .ok f ∧
      "σας" ∈ f.triggers ∧ f.enabled = true ∧ f.tenant = none :=
    ⟨_, rfl, by decide +kernel, rfl, rfl⟩
  obtain ⟨hstarts, hfound⟩ := (keyword_starts_or_sleeps hread hk).1 (by decide) " " "\n"
    (by decide) (by decide)
  obtain ⟨g, -, -, hg⟩ := hfound attended (calm, { flows := [("greeting", f)] }) visitor.tenant
    (offers_attended.2 ⟨by simp, henabled, .inl htenant⟩)
  exact ⟨f, hread, hk, hstarts, g, hg⟩

/-- The word with a blank inside does not start the flow, and the desk finds none. -/
theorem night_sleeps : ∃ f, Flow.read greetingDraft = .ok f ∧ "boa noite" ∈ f.triggers ∧
    f.startsWith "boa noite" = false ∧ Offers attended (calm, { flows := [("greeting", f)] })
      visitor.tenant f ∧
    ((flowFor visitor.tenant (some "boa noite")).run attended
      (calm, { flows := [("greeting", f)] })).1 = .ok none := by
  refine ⟨_, rfl, by decide +kernel, by decide +kernel, ?_, by decide +kernel⟩
  exact offers_attended.2 ⟨by simp, rfl, .inl rfl⟩

end Desk

end Parley
