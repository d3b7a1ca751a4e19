import Parley.Proofs.Dictionary
import Parley.Proofs.Json.Digits
import Parley.Turn.Call

/-!
# What a variable cannot change in a payload

The skeleton of a JSON value is what is left of it when its texts are emptied: the names of its
members and their order, the lengths of its arrays, the places of its texts and every other value
in it. Where the variables are texts, a payload keeps the skeleton that its author gave it
(`fill_skeleton`): a template is read before anything is put into it, names have no slots, and a
slot that is a whole text becomes a text again. So two conversations send bodies of one skeleton
(`payload_indifferent`), whatever was answered in them.

A payload that is written as text has one more way to go: a whole number in it may have too many
digits to be read, and then there is no body, whatever the variables are.
-/

namespace Parley

namespace Json

mutual

/-- A value with its texts emptied. -/
def skeleton : Json → Json
  | .str _ => .str ""
  | .arr items => .arr (skeletonItems items)
  | .obj members => .obj (skeletonMembers members)
  | v => v

/-- The items of an array with their texts emptied. -/
def skeletonItems : List Json → List Json
  | [] => []
  | v :: vs => skeleton v :: skeletonItems vs

/-- The members of an object with the texts in their values emptied. -/
def skeletonMembers : List (String × Json) → List (String × Json)
  | [] => []
  | (k, v) :: ms => (k, skeleton v) :: skeletonMembers ms

end

/-- The names of an object's members; no other value has any. -/
def names : Json → List String
  | .obj members => Dictionary.keys members
  | _ => []

/-- An object without a member of this name. -/
def without (name : String) : Json → Json
  | .obj members => .obj (Dictionary.drop members name)
  | v => v

variable {v : Json} {items : List Json} {members : Fields}

@[simp] theorem skeleton_str (s : String) : (Json.str s).skeleton = .str "" := rfl

@[simp] theorem skeleton_arr : (Json.arr items).skeleton = .arr (skeletonItems items) := rfl

@[simp] theorem skeleton_obj : (Json.obj members).skeleton = .obj (skeletonMembers members) := rfl

theorem skeletonItems_eq_map (items : List Json) : skeletonItems items = items.map skeleton := by
  induction items with
  | nil => rfl
  | cons v vs ih => simp [skeletonItems, ih]

theorem skeletonMembers_eq_map (members : Fields) :
    skeletonMembers members = members.map fun (k, v) => (k, v.skeleton) := by
  induction members with
  | nil => rfl
  | cons p ps ih => simp [skeletonMembers, ih]

/-- A text stands where a text stands in the skeleton. -/
theorem skeleton_eq_str_iff {s : String} : v.skeleton = (Json.str s).skeleton ↔ ∃ t, v = .str t := by
  cases v <;> simp [skeleton]

/-- Arrays of one skeleton are of one length, and the skeletons of their items are the same. -/
theorem skeleton_eq_arr_iff :
    v.skeleton = (Json.arr items).skeleton ↔
      ∃ others, v = .arr others ∧ others.map skeleton = items.map skeleton := by
  cases v <;> simp [skeleton, skeletonItems_eq_map]

/-- Objects of one skeleton have the same names in the same order, and the skeletons of their values
are the same. -/
theorem skeleton_eq_obj_iff :
    v.skeleton = (Json.obj members).skeleton ↔
      ∃ others, v = .obj others ∧ Dictionary.keys others = Dictionary.keys members ∧
        others.map (skeleton ·.2) = members.map (skeleton ·.2) := by
  have hpairs (ms ns : Fields) : skeletonMembers ms = skeletonMembers ns ↔
      Dictionary.keys ms = Dictionary.keys ns ∧
        ms.map (skeleton ·.2) = ns.map (skeleton ·.2) := by
    induction ms generalizing ns with
    | nil => cases ns <;> simp [skeletonMembers, Dictionary.keys]
    | cons m ms ih =>
      cases ns with
      | nil => simp [skeletonMembers, Dictionary.keys]
      | cons n ns =>
        have hrest := ih ns
        simp only [Dictionary.keys] at hrest
        simp only [skeletonMembers, List.cons.injEq, Prod.mk.injEq, hrest, Dictionary.keys,
          List.map_cons]
        exact and_and_and_comm
  cases v <;> simp [skeleton, hpairs]

theorem skeleton_without (v : Json) (name : String) :
    (v.without name).skeleton = v.skeleton.without name := by
  cases v with
  | obj members =>
    simp [without, skeletonMembers_eq_map, Dictionary.drop, List.filter_map, Function.comp_def]
  | _ => rfl

end Json

namespace Template

open Json Text

/-- All variables are texts, or null. -/
def HoldsTexts (vars : Fields) : Prop := ∀ p ∈ vars, p.2 = .null ∨ ∃ s, p.2 = .str s

variable {vars vars' : Fields}

theorem HoldsTexts.find? (h : HoldsTexts vars) {name : String} {v : Json}
    (hv : Dictionary.find? vars name = some v) : v = .null ∨ ∃ s, v = .str s :=
  h _ (Dictionary.mem_of_find? hv)

/-- A text stays a text: a slot alone is given a text, and any other text is spliced. -/
theorem fillText_skeleton (h : HoldsTexts vars) (s : String) :
    (fillText vars s).skeleton = .str "" := by
  unfold fillText
  split
  · rfl
  · rfl
  · -- a slot alone takes its variable as it is, and that is a text
    rename_i v hnull hv
    obtain ⟨name, -, hfind⟩ := Option.bind_eq_some_iff.1 hv
    obtain rfl | ⟨t, rfl⟩ := h.find? hfind
    · exact (hnull rfl).elim
    · rfl

mutual

theorem fill_skeleton (h : HoldsTexts vars) : (v : Json) → (fill vars v).skeleton = v.skeleton
  | .str s => fillText_skeleton h s
  | .arr items => congrArg Json.arr (fillItems_skeleton h items)
  | .obj members => congrArg Json.obj (fillMembers_skeleton h members)
  | .null | .bool _ | .int _ | .float _ => rfl

theorem fillItems_skeleton (h : HoldsTexts vars) :
    (items : List Json) → skeletonItems (fillItems vars items) = skeletonItems items
  | [] => rfl
  | v :: vs => congrArg₂ List.cons (fill_skeleton h v) (fillItems_skeleton h vs)

theorem fillMembers_skeleton (h : HoldsTexts vars) :
    (members : List (String × Json)) →
      skeletonMembers (fillMembers vars members) = skeletonMembers members
  | [] => rfl
  | (k, v) :: ms =>
    congrArg₂ (fun v ms => (k, v) :: ms) (fill_skeleton h v) (fillMembers_skeleton h ms)

end

/-- A text that is not empty is read, and what was read is filled. -/
theorem payload_str {s : String} (hs : s ≠ "") (vars : Fields) :
    payload (.str s) vars =
      match Json.read s with
      | .ok v => .ok (fill vars v)
      | .error (.fault _) => .ok .null
      | .error (.tooManyDigits n) => .error (.tooManyDigits n) := by
  unfold payload
  split
  · rename_i h
    cases h
  · rename_i h
    exact absurd (Json.str.inj h) hs
  · rename_i h
    cases h
    rfl
  · rename_i h
    exact (h s rfl).elim

/-- A payload is read first, whatever the variables are, and filled then. -/
theorem payload_cases (written : Json) :
    (∃ v, ∀ vars, payload written vars = .ok (fill vars v)) ∨
      ∃ s n, written = .str s ∧ Json.read s = .error (.tooManyDigits n) ∧
        ∀ vars, payload written vars = .error (.tooManyDigits n) := by
  cases written with
  | str s =>
    by_cases hs : s = ""
    · subst hs
      exact .inl ⟨.null, fun _ => rfl⟩
    · simp only [payload_str hs]
      match hread : Json.read s with
      | .ok v => exact .inl ⟨v, fun _ => rfl⟩
      | .error (.fault _) => exact .inl ⟨.null, fun _ => rfl⟩
      | .error (.tooManyDigits n) => exact .inr ⟨s, n, rfl, hread, fun _ => rfl⟩
  | null => exact .inl ⟨.null, fun _ => rfl⟩
  | bool b => exact .inl ⟨.bool b, fun _ => rfl⟩
  | int n => exact .inl ⟨.int n, fun _ => rfl⟩
  | float x => exact .inl ⟨.float x, fun _ => rfl⟩
  | arr items => exact .inl ⟨.arr items, fun _ => rfl⟩
  | obj members => exact .inl ⟨.obj members, fun _ => rfl⟩

theorem payload_skeleton (h : HoldsTexts vars) (h' : HoldsTexts vars') (written : Json) :
    (payload written vars).map skeleton = (payload written vars').map skeleton := by
  obtain ⟨v, hv⟩ | ⟨s, n, -, -, hfail⟩ := payload_cases written
  · rw [hv, hv]
    exact congrArg Except.ok ((fill_skeleton h v).trans (fill_skeleton h' v).symm)
  · rw [hfail, hfail]

theorem payload_of_tooManyDigits {s : String} {n : Nat}
    (hread : Json.read s = .error (.tooManyDigits n)) :
    payload (.str s) vars = .error (.tooManyDigits n) := by
  have hs : s ≠ "" := by
    intro h
    have hempty : Json.read "" = .error (.fault ⟨.expectingValue, 0, 1, 1⟩) := by decide
    rw [h, hempty] at hread
    cases hread
  rw [payload_str hs, hread]

/-- There is no payload just where a text is refused for the length of a whole number in it. -/
theorem payload_eq_error_iff {written : Json} {e : Failure} :
    payload written vars = .error e ↔
      ∃ s n, written = .str s ∧ Json.read s = .error (.tooManyDigits n) ∧ e = .tooManyDigits n := by
  constructor
  · intro h
    obtain ⟨v, hv⟩ | ⟨s, n, hs, hread, hfail⟩ := payload_cases written
    · rw [hv] at h
      cases h
    · rw [hfail] at h
      exact ⟨s, n, hs, hread, (Except.error.inj h).symm⟩
  · intro h
    obtain ⟨s, n, rfl, hread, rfl⟩ := h
    exact payload_of_tooManyDigits hread

end Template

namespace Turn

open Json Template

variable {t t' : Turn} {c : Call}

/-- What is sent with a call besides the node's own payload. -/
def known (t : Turn) (c : Call) : Fields :=
  (if c.sendsVariables then [("variables", .obj t.vars)] else [])
    ++ if c.sendsMetadata then [("metadata", t.metadata)] else []

/-- The members of an object written over what is sent anyway. -/
def writtenOver (known : Fields) : Json → Json
  | .obj own => .obj (Dictionary.update known own)
  | _ => .obj known

theorem payload_map {α : Type} (t : Turn) (c : Call) (view : Json → α) :
    (t.payload c).map view =
      (Template.payload c.payload t.vars).map fun own => view (writtenOver (t.known c) own) := by
  unfold payload
  dsimp only
  cases Template.payload c.payload t.vars <;> rfl

theorem names_writtenOver {known known' : Fields} {own own' : Json}
    (hknown : Dictionary.keys known = Dictionary.keys known') (hown : own.skeleton = own'.skeleton) :
    (writtenOver known own).names = (writtenOver known' own').names := by
  cases own' with
  | obj members =>
    obtain ⟨others, rfl, hkeys, -⟩ := skeleton_eq_obj_iff.1 hown
    simp [writtenOver, names, Dictionary.keys_update, hknown, hkeys]
  | _ =>
    cases own with
    | obj => cases hown
    | _ => exact hknown

theorem skeleton_writtenOver (known : Fields) (own : Json) :
    (writtenOver known own).skeleton = writtenOver (skeletonMembers known) own.skeleton := by
  cases own with
  | obj members => simp [writtenOver, skeletonMembers_eq_map, Dictionary.map_update]
  | _ => rfl

theorem without_writtenOver (known : Fields) (own : Json) (name : String) :
    (writtenOver known own).without name =
      writtenOver (Dictionary.drop known name) (own.without name) := by
  cases own with
  | obj members => exact congrArg Json.obj (Dictionary.drop_update ..)
  | _ => rfl

theorem keys_known (t : Turn) (c : Call) :
    Dictionary.keys (t.known c) = (if c.sendsVariables then ["variables"] else [])
      ++ if c.sendsMetadata then ["metadata"] else [] := by
  cases hv : c.sendsVariables <;> cases hm : c.sendsMetadata <;>
    simp [known, Dictionary.keys, hv, hm]

/-- Without the variables, the same is sent of every conversation, texts apart. -/
theorem skeletonMembers_known (t : Turn) (c : Call) :
    skeletonMembers (t.known c) =
      (if c.sendsVariables then [("variables", (Json.obj t.vars).skeleton)] else [])
        ++ if c.sendsMetadata then
          [("metadata", Json.skeleton (.obj [("company_id", .str ""), ("contact_id", .str ""),
            ("session_id", .str ""), ("flow_id", .str ""), ("timestamp", .str "")]))] else [] := by
  cases hv : c.sendsVariables <;> cases hm : c.sendsMetadata <;>
    simp [known, skeletonMembers, metadata, hv, hm]

/-- All that a body has besides the variables. -/
theorem drop_skeletonMembers_known (t t' : Turn) (c : Call) :
    Dictionary.drop (skeletonMembers (t.known c)) "variables" =
      Dictionary.drop (skeletonMembers (t'.known c)) "variables" := by
  rw [skeletonMembers_known, skeletonMembers_known]
  cases c.sendsVariables <;> cases c.sendsMetadata <;> simp [Dictionary.drop]

section
variable (h : HoldsTexts t.vars) (h' : HoldsTexts t'.vars)
include h h'

/-- What is made of a node's own payload is the same in two conversations if it is made of the
skeleton. -/
theorem payload_map_eq {α : Type} {view : Json → α}
    (hview : ∀ own own', own.skeleton = own'.skeleton →
      view (writtenOver (t.known c) own) = view (writtenOver (t'.known c) own')) :
    (t.payload c).map view = (t'.payload c).map view := by
  rw [payload_map, payload_map]
  obtain ⟨v, hv⟩ | ⟨s, n, -, -, hfail⟩ := Template.payload_cases c.payload
  · rw [hv, hv]
    have hown := (fill_skeleton h v).trans (fill_skeleton h' v).symm
    exact congrArg Except.ok (hview _ _ hown)
  · rw [hfail, hfail]
    rfl

theorem payload_names : (t.payload c).map names = (t'.payload c).map names := by
  apply payload_map_eq h h'
  intro own own' hown
  apply names_writtenOver _ hown
  rw [keys_known, keys_known]

theorem payload_others :
    (t.payload c).map (fun body => (body.without "variables").skeleton) =
      (t'.payload c).map fun body => (body.without "variables").skeleton := by
  apply payload_map_eq h h'
  intro own own' hown
  rw [skeleton_without, skeleton_without, skeleton_writtenOver, skeleton_writtenOver,
    without_writtenOver, without_writtenOver, hown, drop_skeletonMembers_known t t' c]

theorem payload_whole
    (hvars : c.sendsVariables = true → (Json.obj t.vars).skeleton = (Json.obj t'.vars).skeleton) :
    (t.payload c).map skeleton = (t'.payload c).map skeleton := by
  apply payload_map_eq h h'
  intro own own' hown
  have hknown : skeletonMembers (t.known c) = skeletonMembers (t'.known c) := by
    rw [skeletonMembers_known, skeletonMembers_known]
    cases hsends : c.sendsVariables with
    | false => rfl
    | true => rw [hvars hsends]
  rw [skeleton_writtenOver, skeleton_writtenOver, hknown, hown]

end

end Turn

namespace Template

open Json Text

/-- Whatever texts two sets of variables hold, a payload comes out with the same skeleton: the same
names in the same order, arrays of the same length, texts in the same places, and everything else
the same. It comes out unless it is a text with a whole number that has too many digits, which has no
variable to do with. So the bodies that two conversations send have the same fields, the variables
themselves apart where these are sent. -/
theorem payload_indifferent (written : Json) {vars vars' : Fields} (h : HoldsTexts vars)
    (h' : HoldsTexts vars') :
    (payload written vars).map skeleton = (payload written vars').map skeleton ∧
      (∀ e, payload written vars = .error e ↔
        ∃ s n, written = .str s ∧ Json.read s = .error (.tooManyDigits n) ∧
          HasLongRow s.toList n ∧ e = .tooManyDigits n) ∧
      ∀ (t t' : Turn) (c : Call), t.vars = vars → t'.vars = vars' →
        (t.payload c).map names = (t'.payload c).map names ∧
          (t.payload c).map (fun body => (body.without "variables").skeleton) =
            (t'.payload c).map (fun body => (body.without "variables").skeleton) ∧
          ((c.sendsVariables = true → (Json.obj vars).skeleton = (Json.obj vars').skeleton) →
            (t.payload c).map skeleton = (t'.payload c).map skeleton) := by
  refine ⟨payload_skeleton h h' written, ?_, ?_⟩
  · intro e
    rw [payload_eq_error_iff]
    constructor
    · intro hfail
      obtain ⟨s, n, hs, hread, he⟩ := hfail
      exact ⟨s, n, hs, hread, hasLongRow_of_read hread, he⟩
    · intro hfail
      obtain ⟨s, n, hs, hread, -, he⟩ := hfail
      exact ⟨s, n, hs, hread, he⟩
  · intro t t' c ht ht'
    subst ht ht'
    exact ⟨Turn.payload_names h h', Turn.payload_others h h', Turn.payload_whole h h'⟩

/-- Variables as two contacts may have typed them, the first one with JSON in mind. -/
theorem payload_indifferent_typed :
    HoldsTexts [("name", .str "\"], \"admin\": [\"")] ∧ HoldsTexts [("name", .str "Ana")] ∧
      (payload (.str "\x7b\"lead\": [\"\x7b\x7bname\x7d\x7d\", 1]\x7d")
        [("name", .str "\"], \"admin\": [\"")]).map skeleton =
      (payload (.str "\x7b\"lead\": [\"\x7b\x7bname\x7d\x7d\", 1]\x7d")
        [("name", .str "Ana")]).map skeleton := by
  have hfirst : HoldsTexts [("name", .str "\"], \"admin\": [\"")] := by simp [HoldsTexts]
  have hother : HoldsTexts [("name", .str "Ana")] := by simp [HoldsTexts]
  exact ⟨hfirst, hother, (payload_indifferent _ hfirst hother).1⟩

/-- Digits are JSON, but so many of them are not read, and nothing comes out. -/
theorem payload_of_digits :
    HoldsTexts [] ∧ payload (.str (String.ofList (List.replicate 4301 '1'))) [] =
      .error (.tooManyDigits 4301) := by
  have hlength : (List.replicate 4301 '1').length = 4301 := List.length_replicate
  have hdigits : ∀ c ∈ List.replicate 4301 '1', isAsciiDigit c = true := by
    intro c hc
    rw [(List.mem_replicate.1 hc).2]
    decide
  have hread : Json.read (String.ofList (List.replicate 4301 '1')) = .error (.tooManyDigits 4301) :=
    (read_of_digits (by decide) hdigits (hlength ▸ by decide)).trans (by rw [← hlength]; rfl)
  exact ⟨by simp [HoldsTexts], payload_of_tooManyDigits hread⟩

end Template

end Parley
