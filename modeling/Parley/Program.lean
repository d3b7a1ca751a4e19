import Parley.Failure

/-!
Programs that ask their surroundings.

A program is finished, has failed, or asks a question and goes on with the answer. Whoever runs it
decides what the questions mean; `Program.run` answers them one after the other from a state, and
programs that take turns are run question by question.
-/

namespace Parley

/-- The questions that can be asked, and what each is answered with. -/
structure Interface where
  Ask : Type
  Reply : Ask → Type

/-- A computation with a result in `α` that asks questions of an interface. -/
inductive Program (I : Interface) (α : Type) : Type where
  | done (a : α)
  | fail (f : Failure)
  | ask (q : I.Ask) (next : I.Reply q → Program I α)

namespace Program

variable {I J : Interface} {α β σ : Type}

/-- Goes on with the result of a program. -/
def bind : Program I α → (α → Program I β) → Program I β
  | done a, f => f a
  | fail e, _ => fail e
  | ask q next, f => ask q fun r => bind (next r) f

instance : Monad (Program I) where
  pure := done
  bind := bind

/-- Asks a single question. -/
def call (q : I.Ask) : Program I (I.Reply q) := ask q done

/-- A value, or the failure there is instead. -/
def ofExcept : Except Failure α → Program I α
  | .ok a => done a
  | .error e => fail e

/-- The program with its failure as a result. -/
def attempt : Program I α → Program I (Except Failure α)
  | done a => done (.ok a)
  | fail e => done (.error e)
  | ask q next => ask q fun r => attempt (next r)

/-- The program with its questions put in terms of another interface. -/
def via (f : (q : I.Ask) → Program J (I.Reply q)) : Program I α → Program J α
  | done a => done a
  | fail e => fail e
  | ask q next => bind (f q) fun r => via f (next r)

/-- Answers every question from a state, which each answer may change. -/
def run (answer : (q : I.Ask) → σ → I.Reply q × σ) : Program I α → σ → Except Failure α × σ
  | done a, s => (.ok a, s)
  | fail e, s => (.error e, s)
  | ask q next, s =>
    let (r, s) := answer q s
    run answer (next r) s

@[simp] theorem done_bind (a : α) (f : α → Program I β) : (done a).bind f = f a := rfl

@[simp] theorem fail_bind (e : Failure) (f : α → Program I β) :
    (fail e : Program I α).bind f = fail e := rfl

theorem bind_done (p : Program I α) : p.bind done = p := by
  induction p with
  | done a => rfl
  | fail e => rfl
  | ask q next ih => simp only [bind, ih]

theorem bind_assoc {γ : Type} (p : Program I α) (f : α → Program I β) (g : β → Program I γ) :
    (p.bind f).bind g = p.bind fun a => (f a).bind g := by
  induction p with
  | done a => rfl
  | fail e => rfl
  | ask q next ih => simp only [bind, ih]

instance : LawfulMonad (Program I) := LawfulMonad.mk' _
  bind_done (fun _ _ => rfl) bind_assoc

@[simp] theorem run_done (answer : (q : I.Ask) → σ → I.Reply q × σ) (a : α) (s : σ) :
    (done a : Program I α).run answer s = (.ok a, s) := rfl

@[simp] theorem run_fail (answer : (q : I.Ask) → σ → I.Reply q × σ) (e : Failure) (s : σ) :
    (fail e : Program I α).run answer s = (.error e, s) := rfl

@[simp] theorem run_call (answer : (q : I.Ask) → σ → I.Reply q × σ) (q : I.Ask) (s : σ) :
    (call q).run answer s = (.ok (answer q s).1, (answer q s).2) := rfl

/-- A program whose failure is its result does to the state what the program does. -/
theorem run_attempt (answer : (q : I.Ask) → σ → I.Reply q × σ) (p : Program I α) (s : σ) :
    p.attempt.run answer s = (.ok (p.run answer s).1, (p.run answer s).2) := by
  induction p generalizing s with
  | done a => rfl
  | fail e => rfl
  | ask q next ih => simp only [attempt, run, ih]

/-- Running one program behind another is running their sequence. -/
theorem run_bind (answer : (q : I.Ask) → σ → I.Reply q × σ) (p : Program I α)
    (f : α → Program I β) (s : σ) :
    (p.bind f).run answer s = match p.run answer s with
      | (.ok a, t) => (f a).run answer t
      | (.error e, t) => (.error e, t) := by
  induction p generalizing s with
  | done a => rfl
  | fail e => rfl
  | ask q next ih => simp only [bind, run, ih]

end Program

end Parley
