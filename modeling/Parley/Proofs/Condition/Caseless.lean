import Parley.Condition.Evaluate
import Parley.Proofs.Flow.Labels
import Parley.Proofs.Text.Spelling

/-!
# Rules that pass over the case of letters

A rule that asks whether two texts are equal, or whether one holds the other, has the same answer
whatever the case of the 26 letters in its value, in the message and in the variables, with one
exception: where a rule asks for a text that begins with a number, texts are compared as they were
typed. Such a rule passes over the case of letters exactly if its value holds none
(`isCaseless_iff`), whether or not the value as a whole is a number (`two_via_hangs_on_case`).
-/

namespace Parley

open Number Schema Text

/-- Two values are the same, or texts that are the same but for the case of letters. -/
inductive Json.Respelled : Json → Json → Prop
  | same (v : Json) : Json.Respelled v v
  | text {s t : String} (h : Text.Respelled s t) : Json.Respelled (.str s) (.str t)

/-- The same variables, but for the case of letters in those that are texts. -/
def Fields.Respelled (vars vars' : Fields) : Prop :=
  List.Forall₂ (fun p q => q.1 = p.1 ∧ p.2.Respelled q.2) vars vars'

theorem Fields.Respelled.refl (vars : Fields) : Fields.Respelled vars vars := by
  unfold Fields.Respelled
  exact List.forall₂_same.2 fun p _ => ⟨rfl, .same p.2⟩

/-- The answer of a rule does not hang on the case of the 26 letters: it stays the same however its
value, the message and the variables are spelled. -/
def Rule.IsCaseless (r : Rule) : Prop :=
  ∀ value message message' vars vars', Respelled r.value value → Respelled message message' →
    Fields.Respelled vars vars' →
    Condition.evaluate { r with value } message' vars' = Condition.evaluate r message vars

namespace Condition

variable {r : Rule} {op : Operator} {field message message' : String} {vars vars' : Fields}

theorem find?_respelled (h : Fields.Respelled vars vars') (name : String) :
    Option.Rel Json.Respelled (Dictionary.find? vars name) (Dictionary.find? vars' name) := by
  unfold Fields.Respelled at h
  induction h with
  | nil => exact .none
  | @cons p q _ _ hpair _ ih =>
    obtain ⟨hname, hvalue⟩ := hpair
    obtain ⟨name', w⟩ := q
    obtain rfl : name' = p.1 := hname
    unfold Dictionary.find?
    split
    · exact .some hvalue
    · exact ih

theorem asciiLower_plainText {v w : Json} (h : v.Respelled w) :
    asciiLower v.plainText = asciiLower w.plainText := by
  cases h with
  | same => rfl
  | text h => exact h.asciiLower_eq

theorem asciiLower_variableText {v w : Option Json} (h : Option.Rel Json.Respelled v w) :
    asciiLower (variableText v) = asciiLower (variableText w) := by
  cases h with
  | none => rfl
  | some h =>
    cases h with
    | same => rfl
    | text h => exact h.asciiLower_eq

/-- A variable is not there, or nothing is written in it. -/
def IsMissing (v : Option Json) : Prop := v = none ∨ v = some .null ∨ v = some (.str "")

instance (v : Option Json) : Decidable (IsMissing v) :=
  inferInstanceAs (Decidable (v = none ∨ v = some .null ∨ v = some (.str "")))

theorem isMissing_respelled {v w : Option Json} (h : Option.Rel Json.Respelled v w) :
    IsMissing v ↔ IsMissing w := by
  cases h with
  | none => exact Iff.rfl
  | some h =>
    cases h with
    | same => exact Iff.rfl
    | text h => simp [IsMissing, h.eq_empty_iff]

theorem variableText_of_ne_null {v : Json} (h : v ≠ .null) :
    variableText (some v) = v.plainText := by
  unfold variableText
  split
  · rename_i hnone
    cases hnone
  · rename_i hnull
    exact absurd (Option.some.inj hnull) h
  · rename_i hsome
    rw [Option.some.inj hsome]

/-- A field is the message, the name or the telephone number of the contact, or a variable, for
which the message stands where nothing is written in it. -/
theorem fieldText_cases (field : String) : ∃ name : String, (∀ message vars,
    fieldText field message vars = strip message) ∨
    (∀ message vars, fieldText field message vars = variableText (Dictionary.find? vars name)) ∨
    ∀ message vars, fieldText field message vars =
      if IsMissing (Dictionary.find? vars name) then strip message
      else variableText (Dictionary.find? vars name) := by
  unfold fieldText
  dsimp only
  generalize strip (if field = "" then "message" else field) = name
  split
  · exact ⟨name, .inl fun _ _ => rfl⟩
  · split
    · exact ⟨"userName", .inr (.inl fun _ _ => rfl)⟩
    · split
      · exact ⟨"phoneNumber", .inr (.inl fun _ _ => rfl)⟩
      · refine ⟨name, .inr (.inr ?_)⟩
        intro message vars
        split
        · rename_i h
          rw [if_pos (.inl h)]
        · rename_i h
          rw [if_pos (.inr (.inl h))]
        · rename_i h
          rw [if_pos (.inr (.inr h))]
        · rename_i v hnull hempty h
          have hgiven : ¬ IsMissing (some v) := by
            rintro (h | h | h)
            · cases h
            · exact hnull (Option.some.inj h)
            · exact hempty (Option.some.inj h)
          rw [h, if_neg hgiven, variableText_of_ne_null hnull]

/-- The text that a field stands for is the same but for its spelling. -/
theorem asciiLower_fieldText (hmessage : Respelled message message')
    (hvars : Fields.Respelled vars vars') (field : String) :
    asciiLower (fieldText field message vars) = asciiLower (fieldText field message' vars') := by
  have hstrip : asciiLower (strip message) = asciiLower (strip message') :=
    strip_congr hmessage.asciiLower_eq
  obtain ⟨name, hfield | hfield | hfield⟩ := fieldText_cases field
  · rw [hfield, hfield]
    exact hstrip
  · rw [hfield, hfield]
    exact asciiLower_variableText (find?_respelled hvars name)
  · have hfound := find?_respelled hvars name
    rw [hfield, hfield, apply_ite asciiLower, apply_ite asciiLower, hstrip,
      asciiLower_variableText hfound, if_congr (isMissing_respelled hfound) rfl rfl]

/-- A rule whose value begins with a number compares texts as they were typed. -/
theorem evaluate_of_leading (hop : Operator.ofSpelling? r.operator = some .equals)
    (hnumber : (leadingNumber? r.value).isSome = true) (message : String) (vars : Fields) :
    evaluate r message vars =
      .ok (strip (fieldText r.field message vars) == strip r.value) := by
  unfold evaluate
  rw [hop]
  dsimp only [Operator.prepare, Operator.comparesNumbers, Operator.holds]
  rw [if_neg (by decide), hnumber]
  rfl

/-- Any other rule that compares texts compares their small forms. -/
theorem evaluate_of_small (hop : Operator.ofSpelling? r.operator = some op)
    (hkind : op = .equals ∨ op = .contains)
    (hnumber : op = .equals → (leadingNumber? r.value).isSome = false) (message : String)
    (vars : Fields) :
    evaluate r message vars = op.holds (lower (fieldText r.field message vars)) (lower r.value) := by
  have hprepare : (op.comparesNumbers && (leadingNumber? r.value).isSome) = false := by
    obtain rfl | rfl := hkind
    · rw [hnumber rfl, Bool.and_false]
    · rfl
  have hpattern : op ≠ .pattern := by
    obtain rfl | rfl := hkind <;> decide
  unfold evaluate
  rw [hop]
  dsimp only [Operator.prepare]
  rw [if_neg hpattern, hprepare]
  rfl

theorem isCaseless_of_small (hop : Operator.ofSpelling? r.operator = some op)
    (hkind : op = .equals ∨ op = .contains)
    (hnumber : op = .equals → (leadingNumber? r.value).isSome = false) : r.IsCaseless := by
  intro value message message' vars vars' hvalue hmessage hvars
  have hnumber' : op = .equals → (leadingNumber? value).isSome = false := by
    rw [← leadingNumber?_congr hvalue.asciiLower_eq]
    exact hnumber
  rw [evaluate_of_small hop hkind hnumber,
    evaluate_of_small (r := { r with value }) hop hkind hnumber',
    lower_congr (asciiLower_fieldText hmessage hvars r.field), lower_congr hvalue.asciiLower_eq]

theorem isCaseless_of_leading (hop : Operator.ofSpelling? r.operator = some .equals)
    (hnumber : (leadingNumber? r.value).isSome = true) (hletter : ¬ HasLetter r.value) :
    r.IsCaseless := by
  intro value message message' vars vars' hvalue hmessage hvars
  obtain rfl : value = r.value := eq_of_asciiLower_eq hletter hvalue.asciiLower_eq.symm
  have hfield := strip_congr (asciiLower_fieldText hmessage hvars r.field)
  have hstrip : ¬ HasLetter (strip r.value) := fun h => hletter h.of_strip
  rw [evaluate_of_leading hop hnumber, evaluate_of_leading hop hnumber, Except.ok.injEq,
    Bool.eq_iff_iff, beq_iff_eq, beq_iff_eq]
  constructor
  · intro h
    exact eq_of_asciiLower_eq hstrip (hfield.trans (congrArg asciiLower h))
  · intro h
    exact eq_of_asciiLower_eq hstrip (hfield.symm.trans (congrArg asciiLower h))

/-- Every field can stand for a given text, but for the blanks at its ends. -/
theorem exists_fieldText (field value : String) :
    ∃ message vars, strip (fieldText field message vars) = strip value := by
  obtain ⟨name, hfield | hfield | hfield⟩ := fieldText_cases field
  · exact ⟨value, [], by rw [hfield, strip_strip]⟩
  · refine ⟨value, [(name, .str value)], ?_⟩
    rw [hfield, Dictionary.find?, if_pos rfl]
    rfl
  · refine ⟨value, [(name, .str value)], ?_⟩
    rw [hfield, Dictionary.find?, if_pos rfl]
    split
    · exact strip_strip value
    · rfl

theorem not_isCaseless_of_leading (hop : Operator.ofSpelling? r.operator = some .equals)
    (hnumber : (leadingNumber? r.value).isSome = true) (hletter : HasLetter r.value) :
    ¬ r.IsCaseless := by
  intro h
  obtain ⟨message, vars, hfield⟩ := exists_fieldText r.field r.value
  have hvalue := respelled_swapped r.value
  have hnumber' : (leadingNumber? (swapped r.value)).isSome = true := by
    rw [← leadingNumber?_congr hvalue.asciiLower_eq]
    exact hnumber
  have hsame := h (swapped r.value) message message vars vars hvalue (.refl message) (.refl vars)
  rw [evaluate_of_leading hop hnumber,
    evaluate_of_leading (r := { r with value := swapped r.value }) hop hnumber', hfield,
    beq_self_eq_true, Except.ok.injEq, beq_iff_eq] at hsame
  exact hletter.strip_swapped_ne hsame.symm

/-- A rule that compares texts passes over the case of letters, unless it asks for a text that
begins with a number and holds a letter. -/
theorem isCaseless_iff (hop : Operator.ofSpelling? r.operator = some op)
    (hkind : op = .equals ∨ op = .contains) :
    r.IsCaseless ↔
      (op = .equals → (leadingNumber? r.value).isSome = true → ¬ HasLetter r.value) := by
  constructor
  · rintro h rfl hnumber hletter
    exact not_isCaseless_of_leading hop hnumber hletter h
  · intro h
    by_cases hnumber : op = .equals ∧ (leadingNumber? r.value).isSome = true
    · obtain ⟨rfl, hnumber⟩ := hnumber
      exact isCaseless_of_leading hop hnumber (h rfl hnumber)
    · refine isCaseless_of_small hop hkind ?_
      intro hequals
      exact Bool.eq_false_iff.2 fun hsome => hnumber ⟨hequals, hsome⟩

theorem isCaseless_sim : Operator.ofSpelling? " Igual-A " = some .equals ∧
    Rule.IsCaseless { operator := " Igual-A ", value := "Sim" } := by
  have hop : Operator.ofSpelling? " Igual-A " = some .equals := by decide
  have hnumber : (leadingNumber? "Sim").isSome = false := by decide
  have hiff := isCaseless_iff (r := { operator := " Igual-A ", value := "Sim" }) hop (.inl rfl)
  refine ⟨hop, hiff.2 ?_⟩
  intro _ hsome
  exact absurd hsome (Bool.eq_false_iff.1 hnumber)

/-- A value that is no number, but begins with one: the answer of its rule hangs on the case of the
message. -/
theorem two_via_hangs_on_case :
    (decimal? "2 Via".toList).isNone = true ∧ Operator.ofSpelling? "equals" = some .equals ∧
      Respelled "2 Via" "2 via" ∧ evaluate { value := "2 Via" } "2 Via" [] = .ok true ∧
      evaluate { value := "2 Via" } "2 via" [] = .ok false := by
  refine ⟨by decide, by decide, by decide, by decide, ?_⟩
  decide

end Condition

end Parley
