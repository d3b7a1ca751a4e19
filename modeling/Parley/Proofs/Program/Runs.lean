import Parley.Proofs.Program.Protocol

/-!
# Programs that are run, by themselves and in pairs

A program that is run comes to a result and a state. The lemmas here take a run apart that comes to
a value (`run_bind_ok`, `run_attempt_ok`, `run_via`), and say that what holds of the result of a
program whatever is answered holds of each of its runs (`Yields.run`).

`Related S R p q` is about two programs at once. Begun at states that belong together by `S`, they
come to values that belong together by `R`, and to states that belong together again; nothing is
said where one of them fails.
-/

namespace Parley.Program

variable {I J : Interface} {α β γ δ σ τ : Type}

section
variable {answer : (q : I.Ask) → σ → I.Reply q × σ} {s t : σ}

/-- What holds of a result whatever is answered holds of that of a run. -/
theorem Yields.run {p : Program I α} {Q : Except Failure α → Prop} (h : p.Yields Q)
    (answer : (q : I.Ask) → σ → I.Reply q × σ) (s : σ) : Q (p.run answer s).1 := by
  induction p generalizing s with
  | done a => exact h
  | fail e => exact h
  | ask q next ih => exact ih _ (h.2 _ trivial) _

/-- Where the rules are kept and each answer is one that can be relied on, what holds at the end of
a program holds of its run. `Inv` ties the standings to the states. -/
theorem Keeps.run {κ : Type} {P : Protocol I κ} {p : Program I α} {k : κ}
    {Q : Except Failure α → κ → Prop} (h : p.Keeps P k Q) (Inv : κ → σ → Prop)
    (hanswer : ∀ k s q, Inv k s → P.may k q →
      P.hears q (answer q s).1 ∧ Inv (P.after k q (answer q s).1) (answer q s).2)
    (hs : Inv k s) : ∃ k', Q (p.run answer s).1 k' ∧ Inv k' (p.run answer s).2 := by
  induction p generalizing k s with
  | done a => exact ⟨k, h, hs⟩
  | fail e => exact ⟨k, h, hs⟩
  | ask q next ih =>
    obtain ⟨hheard, hinv⟩ := hanswer k s q hs h.1
    exact ih _ (h.2 _ hheard) hinv

/-- A sequence goes on from the value of its first part. -/
theorem run_bind_of_ok {p : Program I α} {f : α → Program I β} {a : α}
    (h : p.run answer s = (.ok a, t)) : (p >>= f).run answer s = (f a).run answer t := by
  show (p.bind f).run answer s = _
  rw [run_bind, h]

/-- A sequence fails where its first part does. -/
theorem run_bind_of_error {p : Program I α} {f : α → Program I β} {e : Failure}
    (h : p.run answer s = (.error e, t)) : (p >>= f).run answer s = (.error e, t) := by
  show (p.bind f).run answer s = _
  rw [run_bind, h]

/-- A sequence comes to a value where its first part does, and the rest goes on from there. -/
theorem run_bind_ok {p : Program I α} {f : α → Program I β} {b : β} :
    (p >>= f).run answer s = (.ok b, t) ↔
      ∃ a u, p.run answer s = (.ok a, u) ∧ (f a).run answer u = (.ok b, t) := by
  show (p.bind f).run answer s = _ ↔ _
  rw [run_bind]
  rcases p.run answer s with ⟨_ | a, u⟩
  · simp
  · constructor
    · intro h
      exact ⟨a, u, rfl, h⟩
    · rintro ⟨_, _, ⟨⟩, h⟩
      exact h

theorem run_attempt_ok {p : Program I α} {r : Except Failure α} :
    p.attempt.run answer s = (.ok r, t) ↔ p.run answer s = (r, t) := by
  rw [run_attempt]
  simp [Prod.ext_iff]

theorem run_ofExcept (e : Except Failure α) :
    (ofExcept e : Program I α).run answer s = (e, s) := by
  cases e <;> rfl

end

/-- Questions put in other terms are answered in those terms, from a part of the state. -/
theorem run_via {f : (q : I.Ask) → Program J (I.Reply q)}
    {answer : (q : I.Ask) → σ → I.Reply q × σ} {other : (q : J.Ask) → τ → J.Reply q × τ}
    (into : σ → τ) (hf : ∀ q s, (f q).run other (into s) =
      (.ok (answer q s).1, into (answer q s).2)) (p : Program I α) (s : σ) :
    (p.via f).run other (into s) = ((p.run answer s).1, into (p.run answer s).2) := by
  induction p generalizing s with
  | done a => rfl
  | fail e => rfl
  | ask q next ih =>
    show ((f q).bind fun r => (next r).via f).run other (into s) = _
    rw [run_bind, hf]
    exact ih _ _

/-! ## Two runs -/

variable {answer : (q : I.Ask) → σ → I.Reply q × σ} {S : σ → σ → Prop}

/-- Run from states that belong together, two programs come to values and states that do. -/
def Related (answer : (q : I.Ask) → σ → I.Reply q × σ) (S : σ → σ → Prop) (R : α → β → Prop)
    (p : Program I α) (q : Program I β) : Prop :=
  ∀ s t, S s t → ∀ a s' b t', p.run answer s = (.ok a, s') → q.run answer t = (.ok b, t') →
    R a b ∧ S s' t'

theorem related_pure {R : α → β → Prop} {a : α} {b : β} (h : R a b) :
    Related answer S R (pure a) (pure b) := by
  rintro s t hst _ _ _ _ ⟨⟩ ⟨⟩
  exact ⟨h, hst⟩

theorem related_ofExcept {R : α → β → Prop} {e : Except Failure α} {e' : Except Failure β}
    (h : ∀ a b, e = .ok a → e' = .ok b → R a b) :
    Related answer S R (ofExcept e) (ofExcept e') := by
  intro s t hst a s' b t' hp hq
  rw [run_ofExcept] at hp hq
  obtain ⟨rfl, rfl⟩ := Prod.mk.inj hp
  obtain ⟨rfl, rfl⟩ := Prod.mk.inj hq
  exact ⟨h a b rfl rfl, hst⟩

theorem Related.mono {R R' : α → β → Prop} {p : Program I α} {q : Program I β}
    (h : Related answer S R p q) (hR : ∀ a b, R a b → R' a b) : Related answer S R' p q := by
  intro s t hst a s' b t' hp hq
  obtain ⟨hab, hst'⟩ := h s t hst a s' b t' hp hq
  exact ⟨hR a b hab, hst'⟩

/-- What holds of the value of the first program whatever is answered holds of it here. -/
theorem Related.and {R : α → β → Prop} {Q : α → Prop} {p : Program I α} {q : Program I β}
    (h : Related answer S R p q) (hp : p.Yields (Either Q fun _ => True)) :
    Related answer S (fun a b => R a b ∧ Q a) p q := by
  intro s t hst a s' b t' hpa hqb
  obtain ⟨hab, hst'⟩ := h s t hst a s' b t' hpa hqb
  have hq := hp.run answer s
  rw [hpa] at hq
  exact ⟨⟨hab, hq⟩, hst'⟩

theorem Related.bind {R : α → β → Prop} {R' : γ → δ → Prop} {p : Program I α} {q : Program I β}
    {f : α → Program I γ} {g : β → Program I δ} (h : Related answer S R p q)
    (hfg : ∀ a b, R a b → Related answer S R' (f a) (g b)) :
    Related answer S R' (p >>= f) (q >>= g) := by
  intro s t hst c s' d t' hp hq
  obtain ⟨a, u, hpa, hfa⟩ := run_bind_ok.1 hp
  obtain ⟨b, v, hqb, hgb⟩ := run_bind_ok.1 hq
  obtain ⟨hab, huv⟩ := h s t hst a u b v hpa hqb
  exact hfg a b hab u v huv c s' d t' hfa hgb

end Parley.Program
