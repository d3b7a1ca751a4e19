import Parley.Flow.Row

/-!
# What a stored flow can fail with

A reading of parts fails where one of the parts does, and with the failure of the first of them
(`failure?_both`, `failure?_seq`). Of all that is read of a flow only the words that start it and
its nodes can fail: where they are, or as text stand for, a number or a truth value, there is
nothing to go through (`Flow.obstacle?`). Everything else that is amiss is told as issues.

So a row with an id holds a flow, or is rejected with issues, or has an obstacle
(`ofRow_of_obstacle`, `ofRow_of_clear`).
-/

namespace Parley

open Schema

namespace Reading

variable {α β γ : Type}

/-- What a reading fails with. -/
def failure? : Reading α → Option Failure
  | failed e => some e
  | _ => none

@[simp] theorem failure?_ok (a : α) : (ok a).failure? = none := rfl

@[simp] theorem failure?_issue (kind : IssueKind) : (issue kind : Reading α).failure? = none := rfl

@[simp] theorem failure?_failed (e : Failure) : (failed e : Reading α).failure? = some e := rfl

@[simp] theorem failure?_map (f : α → β) (x : Reading α) : (x.map f).failure? = x.failure? := by
  cases x <;> rfl

@[simp] theorem failure?_under (step : PathStep) (x : Reading α) :
    (x.under step).failure? = x.failure? := by
  cases x <;> rfl

/-- The first part that fails decides. -/
@[simp] theorem failure?_both (x : Reading α) (y : Reading β) :
    (both x y).failure? = x.failure?.or y.failure? := by
  cases x <;> cases y <;> rfl

@[simp] theorem failure?_functor (f : α → β) (x : Reading α) :
    (f <$> x).failure? = x.failure? := failure?_map f x

@[simp] theorem failure?_seq (f : Reading (α → β)) (x : Reading α) :
    (f <*> x).failure? = f.failure?.or x.failure? := by
  show ((both f x).map _).failure? = _
  rw [failure?_map, failure?_both]

theorem failure?_all {xs : List (Reading α)} (h : ∀ x ∈ xs, x.failure? = none) :
    (all xs).failure? = none := by
  induction xs with
  | nil => rfl
  | cons x xs ih =>
    have hrest := ih fun y hy => h y (List.mem_cons_of_mem _ hy)
    show ((both x (all xs)).map _).failure? = none
    rw [failure?_map, failure?_both, h x List.mem_cons_self, hrest]
    rfl

theorem failure?_andThen {x : Reading α} {f : α → Reading β} (hx : x.failure? = none)
    (hf : ∀ a, (f a).failure? = none) : (x.andThen f).failure? = none := by
  cases x with
  | ok a => exact hf a
  | rejected issues => rfl
  | failed e => cases hx

theorem toExcept_of_failure? {x : Reading α} {e : Failure} (h : x.failure? = some e) :
    x.toExcept = .error e := by
  cases x with
  | failed e' => exact congrArg Except.error (Option.some.inj h)
  | _ => cases h

theorem toExcept_of_clear {x : Reading α} (h : x.failure? = none) :
    (∃ a, x.toExcept = .ok a) ∨ ∃ issues, x.toExcept = .error (.rejected issues) := by
  cases x with
  | ok a => exact Or.inl ⟨a, rfl⟩
  | rejected issues => exact Or.inr ⟨issues, rfl⟩
  | failed e => cases h

end Reading

open Reading

/-! ## Parts that do not fail -/

@[simp] theorem failure?_readText (v : Json) : (readText v).failure? = none := by
  cases v <;> rfl

@[simp] theorem failure?_readNullableText (v : Json) : (readNullableText v).failure? = none := by
  cases v <;> rfl

@[simp] theorem failure?_readTruth (v : Json) : (readTruth v).failure? = none := by
  have hint : ∀ n, (truthOfInt n).failure? = none := fun n => by
    unfold truthOfInt
    split
    · rfl
    · split <;> rfl
  unfold readTruth
  split
  · rfl
  · split <;> rfl
  · exact hint _
  · split
    · split
      · exact hint _
      · rfl
    · rfl
  · rfl

/-- A part under one of some names fails with what is read of it. -/
theorem failure?_required {α : Type} (fields : Fields) (names : List String)
    {f : Json → Reading α} (hf : ∀ v, (f v).failure? = none) :
    (required fields names f).failure? = none := by
  unfold required
  split
  · rw [failure?_under, hf]
  · rfl

theorem failure?_optional {α : Type} (fields : Fields) (names : List String) (default : α)
    {f : Json → Reading α} (hf : ∀ v, (f v).failure? = none) :
    (Schema.optional fields names default f).failure? = none := by
  unfold Schema.optional
  split
  · rw [failure?_under, hf]
  · rfl

theorem failure?_readList {α : Type} {f : Json → Reading α} (hf : ∀ v, (f v).failure? = none)
    (v : Json) : (readList f v).failure? = none := by
  unfold readList
  split
  · refine failure?_all fun x hx => ?_
    obtain ⟨⟨v, i⟩, -, rfl⟩ := List.mem_map.1 hx
    rw [failure?_under, hf]
  · rfl

theorem Edge.failure?_read (v : Json) : (Edge.read v).failure? = none := by
  cases v with
  | obj fs =>
    simp only [Edge.read, failure?_seq, failure?_functor, failure?_optional _ _ _ failure?_readText,
      failure?_required _ _ failure?_readText, failure?_optional _ _ _ fun _ => failure?_ok _,
      Option.none_or]
  | _ => rfl

namespace Flow

@[simp] theorem failure?_unpack (v : Json) : (unpack v).failure? = none := by
  unfold unpack
  split
  · split
    · rfl
    · split <;> rfl
  · rfl

theorem failure?_readEdges (v : Json) : (readEdges v).failure? = none :=
  failure?_andThen (failure?_unpack v) fun _ => failure?_readList Edge.failure?_read _

/-- A failure of a node is told as an issue of the nodes. -/
theorem failure?_readNodes (seen : List String) (vs : List Json) :
    (readNodes seen vs).failure? = none := by
  induction vs generalizing seen with
  | nil => rfl
  | cons v vs ih =>
    unfold readNodes
    split
    · rfl
    · rfl
    · split
      · rfl
      · rw [failure?_map, ih]

/-! ## Obstacles -/

/-- What keeps the items of a value from being gone through: it is a number or a truth value, or
text that stands for one, and not nought or false. -/
def obstacle? (v : Json) : Option Failure :=
  match unpack v with
  | .ok (.bool b) => if b then some (.notIterable "bool") else none
  | .ok (.int n) => if n = 0 then none else some (.notIterable "int")
  | .ok (.float x) => if x.isZero then none else some (.notIterable "float")
  | _ => none

/-- What goes through the items of a value that may be packed fails with the obstacle. -/
theorem failure?_unpack_andThen {α : Type} {f : Json → Reading α}
    (hf : ∀ w, (f w).failure? = (itemsOf (w.orElse (.arr []))).failure?) (v : Json) :
    ((unpack v).andThen f).failure? = obstacle? v := by
  have hunpack := failure?_unpack v
  unfold obstacle?
  cases h : unpack v with
  | rejected issues => rfl
  | failed e =>
    rw [h] at hunpack
    cases hunpack
  | ok w =>
    show (f w).failure? = _
    rw [hf]
    cases w with
    | null => rfl
    | bool b => cases b <;> rfl
    | int n =>
      by_cases hn : n = 0
      · simp [Json.orElse, Json.truthy, hn, itemsOf]
      · simp [Json.orElse, Json.truthy, hn, itemsOf, Json.kindName]
    | float x =>
      cases hx : x.isZero <;> simp [Json.orElse, Json.truthy, hx, itemsOf, Json.kindName]
    | str s =>
      by_cases hs : s = "" <;> simp [Json.orElse, Json.truthy, hs, itemsOf]
    | arr items => cases items <;> rfl
    | obj members => cases members <;> rfl

theorem failure?_readTriggers (v : Json) : (readTriggers v).failure? = obstacle? v := by
  unfold readTriggers
  refine failure?_unpack_andThen (fun w => ?_) v
  cases w.orElse (.arr []) with
  | str s => simp only [itemsOf, failure?_ok]
  | _ => exact failure?_map _ _

theorem failure?_readNodeMap (v : Json) : (readNodeMap v).failure? = obstacle? v := by
  unfold readNodeMap
  refine failure?_unpack_andThen (fun w => ?_) v
  -- The items can be read without a failure, whatever they are.
  have hread : ∀ items : Reading (List Json), (items.andThen fun items =>
      (readNodes [] items).andThen fun nodes =>
        if h : (nodes.map (·.id)).Nodup then (.ok ⟨nodes, h⟩ : Reading DistinctNodes)
        else .issue (.unfit none)).failure? = items.failure? := by
    intro items
    cases items with
    | ok items =>
      show ((readNodes [] items).andThen _).failure? = none
      refine failure?_andThen (failure?_readNodes [] items) fun nodes => ?_
      split <;> rfl
    | _ => rfl
  rw [hread]
  cases w.orElse (.arr []) <;> rfl

/-! ## Rows -/

/-- What keeps the flow in a row from being read or rejected: an obstacle in the words that start
it, or in its nodes. -/
def rowObstacle? (row : Row) : Option Failure :=
  (obstacle? (row.cell "triggers")).or (obstacle? (row.cell "nodes"))

theorem obstacle?_orElse (v : Json) : obstacle? (v.orElse (.arr [])) = obstacle? v := by
  by_cases hv : v.truthy = true
  · rw [Json.orElse, if_pos hv]
  · rw [Json.orElse, if_neg hv]
    cases v with
    | null => rfl
    | bool b => cases b <;> simp_all [Json.truthy, obstacle?, unpack]
    | int n => simp_all [Json.truthy, obstacle?, unpack]
    | float x => simp_all [Json.truthy, obstacle?, unpack]
    | str s =>
      obtain rfl : s = "" := by simpa [Json.truthy] using hv
      rfl
    | arr items => rfl
    | obj members => rfl

/-- What is read of the row of a flow. -/
def rowFields (row : Row) (id : Json) : Fields := [
  ("id", id), ("tenant_id", row.cell "company_id"), ("name", row.cell "name"),
  ("enabled", (Dictionary.find? row "is_active").getD (.bool true)),
  ("trigger_keywords", (row.cell "triggers").orElse (.arr [])),
  ("nodes", (row.cell "nodes").orElse (.arr [])), ("edges", (row.cell "edges").orElse (.arr []))]

theorem ofRow_eq {row : Row} {id : Json} (hid : Dictionary.find? row "id" = some id) :
    ofRow row = (read (.obj (rowFields row id))).toExcept := by
  unfold ofRow Row.require
  rw [hid]
  rfl

theorem failure?_read_rowFields (row : Row) (id : Json) :
    (read (.obj (rowFields row id))).failure? = rowObstacle? row := by
  have htriggers : (Schema.optional (rowFields row id)
      ["trigger_keywords", "triggerKeywords", "triggers"] [] readTriggers).failure? =
      obstacle? (row.cell "triggers") := by
    show ((readTriggers ((row.cell "triggers").orElse (.arr []))).under _).failure? = _
    rw [failure?_under, failure?_readTriggers, obstacle?_orElse]
  have hnodes : (Schema.optional (rowFields row id) ["nodes"]
      (⟨[], List.nodup_nil⟩ : DistinctNodes) readNodeMap).failure? =
      obstacle? (row.cell "nodes") := by
    show ((readNodeMap ((row.cell "nodes").orElse (.arr []))).under _).failure? = _
    rw [failure?_under, failure?_readNodeMap, obstacle?_orElse]
  simp only [read, failure?_seq, failure?_functor, htriggers, hnodes,
    failure?_required _ _ failure?_readText, failure?_optional _ _ _ failure?_readNullableText,
    failure?_optional _ _ _ failure?_readTruth, failure?_optional _ _ _ failure?_readEdges,
    Option.none_or, Option.or_none]
  rfl

theorem ofRow_of_obstacle {row : Row} (hid : Dictionary.has row "id" = true) {e : Failure}
    (h : rowObstacle? row = some e) : ofRow row = .error e := by
  obtain ⟨id, hid⟩ := Option.isSome_iff_exists.1 hid
  rw [ofRow_eq hid]
  exact toExcept_of_failure? ((failure?_read_rowFields row id).trans h)

/-- A row without an obstacle holds a flow, or is rejected with all that is wrong. -/
theorem ofRow_of_clear {row : Row} (hid : Dictionary.has row "id" = true)
    (h : rowObstacle? row = none) :
    (∃ f, ofRow row = .ok f) ∨ ∃ issues, ofRow row = .error (.rejected issues) := by
  obtain ⟨id, hid⟩ := Option.isSome_iff_exists.1 hid
  rw [ofRow_eq hid]
  exact toExcept_of_clear ((failure?_read_rowFields row id).trans h)

end Flow

end Parley
