import Parley.Proofs.Flow.Paths
import Parley.Proofs.Program.Protocol

/-!
# What a visit does to a turn

A visit writes variables, takes the message and notes what happened; the conversation stays where it
is and the flow is the same (`Turn.Alike`). The step that a visit takes fits its node
(`Turn.Fits`): it goes on to a node one step away, waits where a turn can wait for an answer, parks
where it can wait for a timer, and sets a delay in that last case only.

`visit_yields` and `enter_yields` say so of every kind of node, whatever is answered outside.
-/

namespace Parley

namespace Condition

-- A rule is tested by long tables of texts, which must not be looked into here.
attribute [local irreducible] evaluate in
theorem selectFrom_cons (message : String) (vars : Fields) (place : Nat) (r : Rule)
    (rest : List Rule) : selectFrom message vars place (r :: rest) =
      match evaluate r message vars with
      | .error failure => .error failure
      | .ok true => .ok (some (place, r))
      | .ok false => selectFrom message vars (place + 1) rest := rfl

/-- A rule that is chosen is one of the rules. -/
theorem mem_of_selectFrom {message : String} {vars : Fields} {rules : List Rule}
    {place i : Nat} {r : Rule} (h : selectFrom message vars place rules = .ok (some (i, r))) :
    r ∈ rules := by
  induction rules generalizing place with
  | nil => cases h
  | cons rule rest ih =>
    rw [selectFrom_cons] at h
    split at h
    · cases h
    · cases h
      exact List.mem_cons_self
    · exact List.mem_cons_of_mem _ (ih h)

end Condition

namespace Turn

open Number Template

/-- The other turn has the same conversation but for its variables, and the same flow. -/
structure Alike (t u : Turn) : Prop where
  conversation : u.conversation = { t.conversation with vars := u.conversation.vars }
  flow : u.flow = t.flow
  version : u.version = t.version
  isNew : u.isNew = t.isNew

/-- Where a turn goes after a visit to a node, seen from the turn before the visit. -/
def Fits (t : Turn) (n : Node) (u : Turn) : Onward → Prop
  | .next id _ => u.delay = t.delay ∧ id ∈ t.flow.successorIds n
  | .wait => u.delay = t.delay ∧ t.flow.CanAwait n
  | .park => u.delay.isSome ∧ t.flow.CanPark n
  | .finish => u.delay = t.delay

/-- What a visit to a node may come to. -/
def Visited (t : Turn) (n : Node) (r : Turn × Step) : Prop :=
  t.Alike r.1 ∧ t.Fits n r.1 r.2.onward

variable {t u v : Turn} {n : Node}

theorem Alike.refl (t : Turn) : t.Alike t := ⟨rfl, rfl, rfl, rfl⟩

theorem Alike.trans (h : t.Alike u) (k : u.Alike v) : t.Alike v where
  conversation := by rw [k.conversation, h.conversation]
  flow := k.flow.trans h.flow
  version := k.version.trans h.version
  isNew := k.isNew.trans h.isNew

theorem alike_assign (t : Turn) (name : String) (value : Json) : t.Alike (t.assign name value) :=
  ⟨rfl, rfl, rfl, rfl⟩

theorem alike_withoutInput (t : Turn) : t.Alike t.withoutInput := ⟨rfl, rfl, rfl, rfl⟩

theorem alike_record (t : Turn) (m : Node) (a : Action) (input output label : Option String) :
    t.Alike (t.record m a input output label) := ⟨rfl, rfl, rfl, rfl⟩

/-! ## Steps -/

theorem fits_nextOrFinish (hf : u.flow = t.flow) (hd : u.delay = t.delay) (text : Option String)
    (media : Option MediaReference) : t.Fits n u (u.nextOrFinish n text media).onward := by
  unfold nextOrFinish
  rw [hf]
  split
  · rename_i m hm
    exact ⟨hd, Flow.successorIds_of_successor? hm⟩
  · exact hd

theorem fits_afterSaying {await : Bool}
    (hw : await = true → (t.flow.successor? n).isSome → t.flow.CanAwait n)
    (text : Option String) (media : Option MediaReference) :
    t.Fits n t (t.afterSaying n await text media).onward := by
  unfold afterSaying
  split
  · rename_i m hm
    cases await with
    | true => exact ⟨rfl, hw rfl (by rw [hm]; rfl)⟩
    | false => exact ⟨rfl, Flow.successorIds_of_successor? hm⟩
  · exact rfl

theorem fits_defaultStep (hd : u.delay = t.delay) :
    t.Fits n u (defaultStep t.flow n).onward := by
  rcases Flow.defaultStep_onward (f := t.flow) (n := n) with h | ⟨m, h, hm⟩ <;> rw [h]
  · exact hd
  · exact ⟨hd, hm⟩

/-! ## Kinds of nodes -/

theorem visitAttachment_yields {kind : AttachmentKind} {a : Attachment}
    (hn : n.body = .attachment kind a) :
    (t.visitAttachment n kind a).Yields (Program.Either (t.Visited n) fun _ => True) := by
  have hw : a.awaitInput = true → (t.flow.successor? n).isSome → t.flow.CanAwait n := by
    intro ha hs
    simp only [Flow.CanAwait, hn]
    exact ⟨ha, hs⟩
  have hm : (t.attachment kind a).Yields fun _ => True := by
    unfold attachment
    split
    · exact Program.yields_bind.2 (Program.yields_call.2 fun r => by
        rcases r with _ | _ | _ <;> exact trivial)
    · exact trivial
  unfold visitAttachment
  refine Program.yields_bind.2 (hm.mono fun r _ => ?_)
  cases r with
  | error e => exact trivial
  | ok media =>
    cases media with
    | some r => exact ⟨.refl t, fits_afterSaying hw _ _⟩
    | none => exact ⟨.refl t, fits_afterSaying hw _ _⟩

theorem visitQuestion_visited {q : Question} (hn : n.body = .question q) :
    t.Visited n (t.visitQuestion n q) := by
  have hw : t.flow.CanAwait n := by simp [Flow.CanAwait, hn]
  have hk : ∀ kept : Turn, t.Alike kept → kept.delay = t.delay →
      t.Visited n (kept, kept.nextOrFinish n) :=
    fun kept ha hd => ⟨ha, fits_nextOrFinish ha.flow hd _ _⟩
  unfold visitQuestion
  cases t.pending with
  | none => exact ⟨alike_withoutInput t, rfl, hw⟩
  | some answer =>
    by_cases hb : Text.isAllBlank answer = true
    · simp only [hb, if_true]
      by_cases hr : q.required = true
      · simp only [hr, if_true]
        exact ⟨alike_withoutInput t, rfl, hw⟩
      · simp only [hr]
        cases given q.variable_ with
        | none => exact hk _ (alike_withoutInput t) rfl
        | some name => exact hk _ ((alike_withoutInput t).trans (alike_assign ..)) rfl
    · simp only [hb]
      cases Answer.judge (.ofName q.format) answer with
      | accepted value =>
        cases given q.variable_ with
        | none => exact hk _ (alike_withoutInput t) rfl
        | some name => exact hk _ ((alike_withoutInput t).trans (alike_assign ..)) rfl
      | refused kind message => exact ⟨alike_withoutInput t, rfl, hw⟩

theorem visitBranch_visited {b : Branch} (hn : n.body = .branch b) :
    Program.Either (t.Visited n) (fun _ => True) (t.visitBranch n b) := by
  have hw : t.flow.CanAwait n := by simp [Flow.CanAwait, hn]
  unfold visitBranch
  cases t.pending with
  | none => exact ⟨alike_withoutInput t, rfl, hw⟩
  | some answer =>
    simp only
    cases hs : Condition.select b.rules answer t.vars with
    | error e => exact trivial
    | ok chosen =>
      cases chosen with
      | none => exact ⟨alike_withoutInput t, fits_defaultStep rfl⟩
      | some place =>
        have hr := Condition.mem_of_selectFrom hs
        have hu := (alike_withoutInput t).trans (alike_record t.withoutInput n .conditionMet
          (some answer) (some ("Condição \"" ++ place.2.caption.getD "None" ++ "\" atendida"))
          place.2.caption)
        simp only [Except.map]
        cases ht : ruleTarget? t.flow n place.2 with
        | none => exact ⟨hu, fits_defaultStep rfl⟩
        | some m => exact ⟨hu, rfl, Flow.ruleTarget?_mem hn hr ht⟩

theorem visitPause_visited {p : Pause} (hn : n.body = .pause p) :
    t.Visited n (t.visitPause n p) := by
  unfold visitPause
  simp only
  split
  · exact ⟨.refl t, fits_nextOrFinish rfl rfl _ _⟩
  · rename_i h
    simp only [Bool.or_eq_true, not_or, Bool.not_eq_true, Option.isNone_eq_false_iff] at h
    exact ⟨⟨rfl, rfl, rfl, rfl⟩, rfl, ⟨p, hn, Flow.pos_or_nan_of_not_le_zero h.1⟩, h.2⟩

theorem visitCall_yields {c : Call} :
    (t.visitCall n c).Yields (Program.Either (t.Visited n) fun _ => True) := by
  unfold visitCall
  refine Program.yields_bind.2 (Program.yields_ofExcept.2 ?_)
  cases t.callRequest c with
  | error e => exact trivial
  | ok request =>
    refine Program.yields_bind.2 (Program.yields_call.2 fun answer => ?_)
    cases answer with
    | error e => exact ⟨.refl t, fits_nextOrFinish rfl rfl _ _⟩
    | ok a =>
      refine Program.yields_pure.2 ?_
      by_cases h : (a.success && c.keepsAnswer) = true
      · simp only [h, if_true]
        exact ⟨alike_assign .., fits_nextOrFinish rfl rfl _ _⟩
      · simp only [h]
        exact ⟨.refl t, fits_nextOrFinish rfl rfl _ _⟩

theorem visitHandover_yields {h : Handover} (hn : n.body = .handover h) :
    (t.visitHandover h).Yields (Program.Either (t.Visited n) fun _ => True) := by
  have handed : t.Visited n (t.withoutInput.finishWith h.text usualHandover) :=
    ⟨alike_withoutInput t, rfl⟩
  unfold visitHandover
  simp only
  split
  · rename_i hc
    have wait : ∀ text, t.Visited n (t.withoutInput, { onward := .wait, text := some text }) :=
      fun text => ⟨alike_withoutInput t, rfl, by simp only [Flow.CanAwait, hn]; exact hc⟩
    refine Program.yields_bind.2 (Program.yields_call.2 fun r => ?_)
    rcases r with _ | _ | _
    · exact wait _
    · exact Program.yields_bind.2 (Program.yields_call.2 fun r => wait _)
    · exact handed
  · exact handed

theorem visit_yields (t : Turn) (n : Node) :
    (t.visit n).Yields (Program.Either (t.Visited n) fun _ => True) := by
  unfold visit
  split
  · exact ⟨.refl t, fits_nextOrFinish rfl rfl _ _⟩
  · exact ⟨.refl t, fits_nextOrFinish rfl rfl _ _⟩
  · rename_i m hn
    refine ⟨.refl t, fits_afterSaying (fun ha hs => ?_) _ _⟩
    simp only [Flow.CanAwait, hn]
    exact ⟨ha, hs⟩
  · exact visitAttachment_yields ‹_›
  · exact visitQuestion_visited ‹_›
  · exact Program.yields_ofExcept.2 (visitBranch_visited ‹_›)
  · exact visitPause_visited ‹_›
  · exact visitCall_yields
  · exact visitHandover_yields ‹_›
  · exact ⟨.refl t, rfl⟩
  · exact ⟨.refl t, rfl⟩

theorem enter_yields (t : Turn) (n : Node) :
    (t.enter n).Yields (Program.Either (t.Visited n) fun _ => True) := by
  unfold enter
  refine Program.yields_bind.2 (Program.yields_bind.2 (Program.yields_call.2 fun r => ?_))
  cases r with
  | error e => exact trivial
  | ok _ => exact visit_yields t n

end Turn

end Parley
