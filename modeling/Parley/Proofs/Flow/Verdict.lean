import Parley.Proofs.Flow.Findings
import Parley.Proofs.Flow.Labels
import Parley.Proofs.Flow.Targets

/-!
# When a flow can be used

`Flow.IsSound` says what a flow must be like to be used: where it starts, what its edges join, what
its questions, calls and rules name. Each of its parts is what one check looks for, so that a flow
that was read is found valid exactly when it is sound (`isValid_iff_isSound`). What is reported as a
warning decides nothing.
-/

namespace Parley

open Text

namespace Text

/-- Only the empty text is empty in small letters. -/
theorem lower_eq_empty_iff {s : String} : lower s = "" ↔ s = "" := by
  refine ⟨fun h => ?_, fun h => by rw [h]; rfl⟩
  have hnil : lowerFrom [] s.toList = [] := by
    simpa [lower] using congrArg String.toList h
  cases hs : s.toList with
  | nil => exact String.toList_eq_nil_iff.1 hs
  | cons c cs =>
    rw [hs, lowerFrom, List.append_eq_nil_iff] at hnil
    have hfirst := hnil.1
    split at hfirst
    · cases hfirst
    · unfold lowerChar at hfirst
      split at hfirst <;> cases hfirst

end Text

namespace Flow

/-- The id is that of a node. -/
def IsNode (f : Flow) (id : String) : Prop := ∃ n ∈ f.nodes, n.id = id

/-- An edge that leaves the node has the label, whatever the case of either and whatever blanks are
around it. -/
def LeavesUnder (f : Flow) (n : Node) (label : Option String) : Prop :=
  ∃ l, label = some l ∧ ∃ e ∈ f.edges, e.source = n.id ∧
    ∃ k, e.label = some k ∧ lower (strip k) = lower (strip l)

/-- A rule of the node leads on: to a node that it names by id or, where it names none, by the
label of an edge. -/
def Resolves (f : Flow) (n : Node) (r : Rule) : Prop :=
  (∃ id, r.target = some id ∧ id ≠ "" ∧ f.IsNode id) ∨
    (r.target = none ∨ r.target = some "") ∧ f.LeavesUnder n r.label

/-- What a flow must be like to be used. -/
structure IsSound (f : Flow) : Prop where
  start : ∃! n, n ∈ f.nodes ∧ n.kind = .start
  joins : ∀ e ∈ f.edges, f.IsNode e.source ∧ f.IsNode e.target
  /-- No two edges share an id, but for those without one. -/
  distinct : f.edges.Pairwise fun d e => e.id ≠ "" → d.id ≠ e.id
  /-- At most one edge that leaves a node has no label. -/
  defaults : ∀ n ∈ f.nodes, f.edges.countP (fun e => e.source = n.id ∧ e.label = none) ≤ 1
  questions : ∀ n ∈ f.nodes, ∀ q, n.body = .question q → ∃ name, q.variable_ = some name ∧ name ≠ ""
  calls : ∀ n ∈ f.nodes, ∀ c, n.body = .call c → ∃ ch ∈ c.url.toList, isBlank ch = false
  rules : ∀ n ∈ f.nodes, ∀ r ∈ n.rules, f.Resolves n r

variable {f : Flow} {n : Node}

theorem hasNode_iff {id : String} : f.hasNode id = true ↔ f.IsNode id := by
  simp [hasNode, IsNode]

/-! ## What each check looks for -/

/-- Without duplicates, a list has a single member exactly when it has one item. -/
theorem existsUnique_mem_iff {l : List Node} (h : l.Nodup) : (∃! n, n ∈ l) ↔ ∃ n, l = [n] := by
  constructor
  · rintro ⟨n, hn, honly⟩
    refine ⟨n, List.perm_singleton.1 ((List.perm_ext_iff_of_nodup h (List.nodup_singleton n)).2 ?_)⟩
    intro m
    rw [List.mem_singleton]
    exact ⟨honly m, fun hm => hm ▸ hn⟩
  · rintro ⟨n, rfl⟩
    exact ⟨n, List.mem_singleton_self n, fun m hm => List.mem_singleton.1 hm⟩

theorem startProblems_eq_nil_iff :
    f.startProblems = [] ↔ ∃! n, n ∈ f.nodes ∧ n.kind = .start := by
  have hstarts : ∀ n, n ∈ f.starts ↔ n ∈ f.nodes ∧ n.kind = .start := by simp [starts]
  have hnodup : f.starts.Nodup := (List.Nodup.of_map _ f.nodup_ids).filter _
  simp only [← hstarts]
  rw [existsUnique_mem_iff hnodup]
  unfold startProblems
  split <;> simp_all

/-- No edge is reported exactly when all join nodes, and have ids that no edge before has. -/
theorem edgeProblems_eq_nil_iff {seen : List String} {es : List Edge} :
    f.edgeProblems seen es = [] ↔
      (∀ e ∈ es, (f.IsNode e.source ∧ f.IsNode e.target) ∧ (e.id ≠ "" → e.id ∉ seen)) ∧
        es.Pairwise fun d e => e.id ≠ "" → d.id ≠ e.id := by
  induction es generalizing seen with
  | nil => simp [edgeProblems]
  | cons e es ih =>
    have hid : (if e.id != "" && seen.contains e.id then [Problem.duplicateEdge e.id]
        else []) = [] ↔ (e.id ≠ "" → e.id ∉ seen) := by simp
    have hsource : (if f.hasNode e.source then [] else [Problem.missingSource e.id e.source]) = [] ↔
        f.IsNode e.source := by simp [hasNode_iff]
    have htarget : (if f.hasNode e.target then []
        else [Problem.missingTarget e.id e.target e.source]) = [] ↔ f.IsNode e.target := by
      simp [hasNode_iff]
    -- A later id is new to `e` and to what came before `e`.
    have hlater : ∀ d : Edge, (d.id ≠ "" → d.id ∉ e.id :: seen) ↔
        (d.id ≠ "" → e.id ≠ d.id) ∧ (d.id ≠ "" → d.id ∉ seen) := by
      intro d
      rw [List.mem_cons, not_or, imp_and, ← ne_eq, ne_comm (a := d.id) (b := e.id)]
    rw [edgeProblems, List.append_eq_nil_iff, List.append_eq_nil_iff, List.append_eq_nil_iff, ih,
      hid, hsource, htarget, List.pairwise_cons, List.forall_mem_cons]
    simp only [hlater]
    grind

theorem defaultProblems_eq_nil_iff : f.defaultProblems = [] ↔
    ∀ n ∈ f.nodes, f.edges.countP (fun e => e.source = n.id ∧ e.label = none) ≤ 1 := by
  unfold defaultProblems
  rw [List.filterMap_eq_nil_iff]
  refine forall₂_congr fun n _ => ?_
  have hcount : ((f.outgoing n.id).filter (·.label == none)).length =
      f.edges.countP fun e => e.source = n.id ∧ e.label = none := by
    rw [outgoing, List.filter_filter, ← List.countP_eq_length_filter]
    refine List.countP_congr fun e _ => ?_
    simp [and_comm]
  dsimp only
  rw [hcount, ite_eq_right_iff]
  simp only [reduceCtorEq, imp_false, not_lt]

/-- Among labels that are not padded, the one looked for is found whatever its case and padding. -/
theorem labelledEdge?_isSome_iff (htidy : ∀ e ∈ f.edges, e.IsTidy) {label : Option String} :
    (f.labelledEdge? n.id label).isSome ↔ f.LeavesUnder n label := by
  constructor
  · intro h
    obtain ⟨e, he⟩ := Option.isSome_iff_exists.1 h
    obtain ⟨l, before, behind, hlabel, -, hsplit, -, k, hk, hmatch⟩ := labelledEdge?_eq_some he
    have hout : e ∈ f.outgoing n.id := by
      rw [hsplit]
      exact List.mem_append_right _ List.mem_cons_self
    obtain ⟨hmem, hsource⟩ := List.mem_filter.1 hout
    refine ⟨l, hlabel, e, hmem, by simpa using hsource, k, hk, ?_⟩
    rwa [(htidy e hmem k hk).1]
  · rintro ⟨l, rfl, e, hmem, hsource, k, hk, hmatch⟩
    obtain ⟨hstrip, hne⟩ := htidy e hmem k hk
    rw [hstrip] at hmatch
    have hl : l ≠ "" := by
      rintro rfl
      exact hne (lower_eq_empty_iff.1 hmatch)
    unfold labelledEdge?
    split
    · cases ‹some l = none›
    · exact absurd (Option.some.inj ‹_›) hl
    · rename_i l' _ heq
      cases heq
      refine List.find?_isSome.2 ⟨e, List.mem_filter.2 ⟨hmem, by simpa using hsource⟩, ?_⟩
      simpa [hk] using hmatch

theorem ruleProblems_eq_nil_iff (htidy : ∀ e ∈ f.edges, e.IsTidy) {r : Rule} :
    f.ruleProblems n r = [] ↔ f.Resolves n r := by
  have hunnamed : (if (f.labelledEdge? n.id r.label).isNone then
      [Problem.unresolvedRule r.caption n.id] else []) = [] ↔ f.LeavesUnder n r.label := by
    rw [← labelledEdge?_isSome_iff htidy]
    cases f.labelledEdge? n.id r.label <;> simp
  unfold ruleProblems Resolves
  split
  · rename_i htarget
    rw [hunnamed]
    simp [htarget]
  · rename_i htarget
    rw [hunnamed]
    simp [htarget]
  · rename_i target hne htarget
    have hne : target ≠ "" := hne
    simp [htarget, hne, hasNode_iff]

/-- The errors that are found at a node by itself. -/
theorem nodeProblems_clear_iff (htidy : ∀ e ∈ f.edges, e.IsTidy) :
    (∀ p ∈ f.nodeProblems n, p.severity ≠ .error) ↔
      (∀ q, n.body = .question q → ∃ name, q.variable_ = some name ∧ name ≠ "") ∧
        (∀ c, n.body = .call c → ∃ ch ∈ c.url.toList, isBlank ch = false) ∧
          ∀ r ∈ n.rules, f.Resolves n r := by
  unfold nodeProblems
  cases hbody : n.body with
  | question q =>
    cases hname : q.variable_ <;> simp [Node.rules, hbody, hname, Problem.severity]
  | call c => simp [Node.rules, hbody, Problem.severity, isAllBlank]
  | branch b =>
    have herror : ∀ r, ∀ p ∈ f.ruleProblems n r, p.severity = .error := fun r p hp => by
      rcases of_mem_ruleProblems hp with ⟨_, rfl⟩ | ⟨_, _, rfl⟩ <;> rfl
    have hclear : (∀ p ∈ b.rules.flatMap (f.ruleProblems n), p.severity ≠ .error) ↔
        ∀ r ∈ b.rules, f.ruleProblems n r = [] := by
      refine ⟨fun h r hr => List.eq_nil_iff_forall_not_mem.2 fun p hp => ?_, fun h p hp => ?_⟩
      · exact h p (List.mem_flatMap.2 ⟨r, hr, hp⟩) (herror r p hp)
      · obtain ⟨r, hr, hp⟩ := List.mem_flatMap.1 hp
        rw [h r hr] at hp
        cases hp
    refine hclear.trans ?_
    simp [Node.rules, hbody, ruleProblems_eq_nil_iff htidy]
  | unknown kind => simp [Node.rules, hbody, Problem.severity]
  | _ => simp [Node.rules, hbody]

/-- A flow with tidy labels can be used exactly when it is sound. -/
theorem isUsable_iff_isSound (htidy : ∀ e ∈ f.edges, e.IsTidy) :
    f.isUsable = true ↔ f.IsSound := by
  rw [isUsable_iff, startProblems_eq_nil_iff, edgeProblems_eq_nil_iff, defaultProblems_eq_nil_iff]
  simp only [nodeProblems_clear_iff htidy, List.not_mem_nil, not_false_eq_true, implies_true,
    and_true]
  constructor
  · rintro ⟨hstart, ⟨hjoins, hdistinct⟩, hdefaults, hnodes⟩
    exact ⟨hstart, hjoins, hdistinct, hdefaults, fun n hn => (hnodes n hn).1,
      fun n hn => (hnodes n hn).2.1, fun n hn => (hnodes n hn).2.2⟩
  · intro h
    exact ⟨h.start, ⟨h.joins, h.distinct⟩, h.defaults,
      fun n hn => ⟨h.questions n hn, h.calls n hn, h.rules n hn⟩⟩

theorem isValid_checked (ps : List Problem) :
    (FlowReport.checked ps).isValid = true ↔ ∀ p ∈ ps, p.severity ≠ .error := by
  simp [FlowReport.isValid]

theorem isUsable_iff_isValid (f : Flow) :
    f.isUsable = true ↔ (FlowReport.checked f.problems).isValid = true := by
  rw [isValid_checked, isUsable, errors, List.isEmpty_iff, List.filter_eq_nil_iff]
  simp

/-- What is reported of a value that holds a flow finds it valid exactly when the flow is sound, and
so does the check before it is used. The errors alone decide, whatever else is reported. -/
theorem isValid_iff_isSound {v : Json} (h : Flow.read v = .ok f) :
    Flow.report v = .ok (.checked f.problems) ∧
      ((FlowReport.checked f.problems).isValid = true ↔ f.IsSound) ∧
      (f.isUsable = true ↔ f.IsSound) ∧
      ∀ ps : List Problem, (∀ p, p.severity = .error → (p ∈ ps ↔ p ∈ f.problems)) →
        ((FlowReport.checked ps).isValid = true ↔ f.IsSound) := by
  have hsound := isUsable_iff_isSound (tidy_of_read h)
  have hvalid := (isUsable_iff_isValid f).symm.trans hsound
  refine ⟨by rw [Flow.report, h], hvalid, hsound, fun ps herrors => ?_⟩
  rw [← hvalid, isValid_checked, isValid_checked]
  exact ⟨fun hps p hp herror => hps p ((herrors p herror).2 hp) herror,
    fun hps p hp herror => hps p ((herrors p herror).1 hp) herror⟩

/-- A menu as an author writes it: the edge has the label of the first rule in other letters. -/
def menuText : Json := .obj [
  ("id", .str "menu"),
  ("nodes", .arr [
    .obj [("id", .str "in"), ("type", .str "start")],
    .obj [("id", .str "menu"), ("type", .str "condition"), ("config", .obj [("conditions", .arr [
      .obj [("label", .str " Sales ")],
      .obj [("label", .str "Bye"), ("target_node_id", .str "out")]])])],
    .obj [("id", .str "call"), ("type", .str "webhook"),
      ("config", .obj [("webhookUrl", .str "https://sales")])],
    .obj [("id", .str "out"), ("type", .str "end")]]),
  ("edges", .arr [
    .obj [("source", .str "in"), ("target", .str "menu")],
    .obj [("source", .str "menu"), ("target", .str "call"), ("label", .str "SALES ")],
    .obj [("source", .str "call"), ("target", .str "out")]])]

/-- The menu as it is read. -/
def menu : Flow where
  id := "menu"
  nodes := [
    { id := "in", body := .start },
    { id := "menu", body := .branch
        { rules := [{ label := some " Sales " }, { label := some "Bye", target := some "out" }] } },
    { id := "call", body := .call { url := "https://sales" } },
    { id := "out", body := .ending none }]
  edges := [
    { source := "in", target := "menu" },
    { source := "menu", target := "call", label := some "SALES" },
    { source := "call", target := "out" }]

theorem read_menuText : Flow.read menuText = .ok menu := by rfl

theorem isSound_menu : Flow.read menuText = .ok menu ∧ menu.IsSound := by
  have husable : menu.isUsable = true := (isUsable_iff menu).2 (by decide)
  exact ⟨read_menuText, (isValid_iff_isSound read_menuText).2.2.1.1 husable⟩

end Flow

end Parley
