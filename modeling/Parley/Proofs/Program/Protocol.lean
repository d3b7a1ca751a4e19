import Parley.Program

/-!
# What a program asks, whatever it is told

A `Protocol` is a set of rules for whoever asks questions. A standing in `σ` sums up the answers so
far: it decides which question may be asked next (`may`) and moves on with every answer (`after`).
An answer can be relied on as far as `hears` goes.

`Program.Keeps P p s Q` says that the program `p`, begun at the standing `s`, keeps to the rules for
every answer that can be relied on, and that `Q` holds of its result and of the standing at its end.
A program is a tree of questions, so this is one condition for each question in it. The rules below
take a program apart at its binds (`keeps_bind`), its attempts (`keeps_attempt`) and its questions
put in other terms (`keeps_via`).

`Program.Yields Q p` is the special case without rules: `Q` holds of the result, whatever is
answered.
-/

namespace Parley

/-- Rules for whoever asks questions of an interface. -/
structure Protocol (I : Interface) (σ : Type) where
  /-- Whether a question may be asked. -/
  may : σ → I.Ask → Prop
  /-- What an answer can be relied on to be. -/
  hears : (q : I.Ask) → I.Reply q → Prop
  /-- The standing after an answer. -/
  after : σ → (q : I.Ask) → I.Reply q → σ

namespace Program

variable {I J : Interface} {α β σ : Type}

/-- The program keeps to the rules, and `Q` holds at its end. -/
def Keeps (P : Protocol I σ) : Program I α → σ → (Except Failure α → σ → Prop) → Prop
  | done a, s, Q => Q (.ok a) s
  | fail e, s, Q => Q (.error e) s
  | ask q next, s, Q => P.may s q ∧ ∀ r, P.hears q r → (next r).Keeps P (P.after s q r) Q

/-- One condition on the value of a program, another one on its failure. -/
def Either (ok : α → Prop) (error : Failure → Prop) : Except Failure α → Prop
  | .ok a => ok a
  | .error e => error e

theorem either_ok {ok : α → Prop} {error : Failure → Prop} {a : α} :
    Either ok error (.ok a) ↔ ok a := Iff.rfl

section
variable {P : Protocol I σ} {s : σ}

@[simp] theorem keeps_call {q : I.Ask} {Q : Except Failure (I.Reply q) → σ → Prop} :
    (call q).Keeps P s Q ↔ P.may s q ∧ ∀ r, P.hears q r → Q (.ok r) (P.after s q r) := Iff.rfl

@[simp] theorem keeps_ofExcept {e : Except Failure α} {Q : Except Failure α → σ → Prop} :
    (ofExcept e : Program I α).Keeps P s Q ↔ Q e s := by
  cases e <;> exact Iff.rfl

theorem Keeps.mono {p : Program I α} {Q R : Except Failure α → σ → Prop} (h : p.Keeps P s Q)
    (hQR : ∀ r t, Q r t → R r t) : p.Keeps P s R := by
  induction p generalizing s with
  | done a => exact hQR _ _ h
  | fail e => exact hQR _ _ h
  | ask q next ih => exact ⟨h.1, fun r hr => ih r (h.2 r hr)⟩

theorem keeps_bind {p : Program I α} {f : α → Program I β} {Q : Except Failure β → σ → Prop} :
    (p >>= f).Keeps P s Q ↔
      p.Keeps P s fun r t => Either (fun a => (f a).Keeps P t Q) (fun e => Q (.error e) t) r := by
  induction p generalizing s with
  | done a => exact Iff.rfl
  | fail e => exact Iff.rfl
  | ask q next ih => exact and_congr_right fun _ => forall₂_congr fun r _ => ih r

/-- What holds behind the first program, and is left alone by the second one, holds behind both. -/
theorem Keeps.andThen {p : Program I α} {f : α → Program I β} {R : σ → Prop}
    (hp : p.Keeps P s fun _ t => R t) (hf : ∀ a t, R t → (f a).Keeps P t fun _ t => R t) :
    (p >>= f).Keeps P s fun _ t => R t := by
  refine keeps_bind.2 (hp.mono fun r t ht => ?_)
  cases r with
  | error e => exact ht
  | ok a => exact hf a t ht

theorem keeps_attempt {p : Program I α}
    {Q : Except Failure (Except Failure α) → σ → Prop} :
    p.attempt.Keeps P s Q ↔ p.Keeps P s fun r t => Q (.ok r) t := by
  induction p generalizing s with
  | done a => exact Iff.rfl
  | fail e => exact Iff.rfl
  | ask q next ih => exact and_congr_right fun _ => forall₂_congr fun r _ => ih r

end

/-- No rules at all. -/
def noRules (I : Interface) : Protocol I Unit where
  may _ _ := True
  hears _ _ := True
  after _ _ _ := ()

/-- `Q` holds of the result of a program, whatever is answered. -/
def Yields (Q : Except Failure α → Prop) (p : Program I α) : Prop :=
  p.Keeps (noRules I) () fun r _ => Q r

theorem Yields.mono {p : Program I α} {Q R : Except Failure α → Prop} (h : p.Yields Q)
    (hQR : ∀ r, Q r → R r) : p.Yields R :=
  Keeps.mono h fun r _ => hQR r

theorem Yields.and {p : Program I α} {Q R : Except Failure α → Prop} (hQ : p.Yields Q)
    (hR : p.Yields R) : p.Yields fun r => Q r ∧ R r := by
  induction p with
  | done a => exact ⟨hQ, hR⟩
  | fail e => exact ⟨hQ, hR⟩
  | ask q next ih => exact ⟨trivial, fun r hr => ih r (hQ.2 r hr) (hR.2 r hr)⟩

/-- Where nothing is asked of the result there is nothing to show. -/
theorem yields_true (p : Program I α) : p.Yields fun _ => True := by
  induction p with
  | done a => trivial
  | fail e => trivial
  | ask q next ih => exact ⟨trivial, fun r _ => ih r⟩

theorem yields_pure {a : α} {Q : Except Failure α → Prop} :
    (pure a : Program I α).Yields Q ↔ Q (.ok a) := Iff.rfl

theorem yields_bind {p : Program I α} {f : α → Program I β} {Q : Except Failure β → Prop} :
    (p >>= f).Yields Q ↔
      p.Yields fun r => Either (fun a => (f a).Yields Q) (fun e => Q (.error e)) r :=
  keeps_bind

theorem yields_attempt {p : Program I α} {Q : Except Failure (Except Failure α) → Prop} :
    p.attempt.Yields Q ↔ p.Yields fun r => Q (.ok r) :=
  keeps_attempt

theorem yields_call {q : I.Ask} {Q : Except Failure (I.Reply q) → Prop} :
    (call q).Yields Q ↔ ∀ r, Q (.ok r) := by
  simp [Yields, noRules]

theorem yields_ofExcept {e : Except Failure α} {Q : Except Failure α → Prop} :
    (ofExcept e : Program I α).Yields Q ↔ Q e := keeps_ofExcept

/-- Questions that may always be asked, always have an answer and leave the standing as it is can be
put in place of any others. -/
theorem keeps_via {P : Protocol J σ} {g : (q : I.Ask) → Program J (I.Reply q)} {s : σ}
    (hg : ∀ q, (g q).Keeps P s fun r t => Either (fun _ => t = s) (fun _ => False) r)
    {p : Program I α} {Q : Except Failure α → Prop} (h : p.Yields Q) :
    (p.via g).Keeps P s fun r t => Q r ∧ t = s := by
  induction p with
  | done a => exact ⟨h, rfl⟩
  | fail e => exact ⟨h, rfl⟩
  | ask q next ih =>
    show (g q >>= fun r => (next r).via g).Keeps P s _
    rw [keeps_bind]
    refine (hg q).mono fun r t ht => ?_
    cases r with
    | error e => exact ht.elim
    | ok r =>
      obtain rfl : t = s := ht
      exact ih r (h.2 r trivial)

end Program

end Parley
