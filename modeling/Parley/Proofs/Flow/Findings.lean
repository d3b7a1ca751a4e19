import Mathlib.Data.List.Basic
import Parley.Flow.Report

/-!
# What each check finds

The problems of a flow are those of seven checks, one after the other. Each check has problems of
its own (`of_mem_startProblems` and its like), so that the findings under one code are those of one
check (`orphans_eq`, `loops_eq`), and only the first four checks find errors (`isUsable_iff`).
-/

namespace Parley.Flow

variable {f : Flow} {n : Node} {p : Problem}

/-! ## The problems of each check -/

theorem of_mem_startProblems (h : p ∈ f.startProblems) :
    p = .noStart ∨ ∃ count node, p = .severalStarts count node := by
  unfold startProblems at h
  split at h
  · exact .inl (List.mem_singleton.1 h)
  · cases h
  · obtain ⟨n, -, rfl⟩ := List.mem_map.1 h
    exact .inr ⟨_, _, rfl⟩

theorem of_mem_edgeProblems {seen : List String} {es : List Edge}
    (h : p ∈ f.edgeProblems seen es) :
    ∃ e ∈ es, p = .duplicateEdge e.id ∨ p = .missingSource e.id e.source ∨
      p = .missingTarget e.id e.target e.source := by
  induction es generalizing seen with
  | nil => cases h
  | cons e es ih =>
    rw [edgeProblems, List.mem_append, List.mem_append, List.mem_append] at h
    rcases h with ((h | h) | h) | h
    · split at h
      · exact ⟨e, List.mem_cons_self, .inl (List.mem_singleton.1 h)⟩
      · cases h
    · split at h
      · cases h
      · exact ⟨e, List.mem_cons_self, .inr (.inl (List.mem_singleton.1 h))⟩
    · split at h
      · cases h
      · exact ⟨e, List.mem_cons_self, .inr (.inr (List.mem_singleton.1 h))⟩
    · obtain ⟨d, hd, hp⟩ := ih h
      exact ⟨d, List.mem_cons_of_mem _ hd, hp⟩

theorem of_mem_defaultProblems (h : p ∈ f.defaultProblems) :
    ∃ count node, p = .severalDefaults count node := by
  obtain ⟨n, -, hn⟩ := List.mem_filterMap.1 h
  dsimp only at hn
  split at hn
  · exact ⟨_, _, (Option.some.inj hn).symm⟩
  · cases hn

theorem of_mem_ruleProblems {r : Rule} (h : p ∈ f.ruleProblems n r) :
    (∃ caption, p = .unresolvedRule caption n.id) ∨
      ∃ caption target, p = .missingRuleTarget caption target n.id := by
  unfold ruleProblems at h
  split at h <;> split at h
  all_goals first
    | exact .inl ⟨_, List.mem_singleton.1 h⟩
    | exact .inr ⟨_, _, List.mem_singleton.1 h⟩
    | cases h

theorem of_mem_nodeProblems (h : p ∈ f.nodeProblems n) :
    (∃ kind, p = .unknownKind kind n.id) ∨ p = .noVariable n.id ∨ p = .noAddress n.id ∨
      ∃ r ∈ n.rules, p ∈ f.ruleProblems n r := by
  unfold nodeProblems at h
  split at h
  · exact .inl ⟨_, List.mem_singleton.1 h⟩
  · split at h
    · exact .inr (.inl (List.mem_singleton.1 h))
    · cases h
  · split at h
    · exact .inr (.inr (.inl (List.mem_singleton.1 h)))
    · cases h
  · rename_i b hb
    obtain ⟨r, hr, hp⟩ := List.mem_flatMap.1 h
    exact .inr (.inr (.inr ⟨r, by simpa [Node.rules, hb] using hr, hp⟩))
  · cases h

theorem of_mem_deadEnds (h : p ∈ f.deadEnds) : ∃ node kind, p = .deadEnd node kind := by
  obtain ⟨n, -, hn⟩ := List.mem_filterMap.1 h
  split at hn
  · cases hn
  · exact ⟨_, _, (Option.some.inj hn).symm⟩

/-! ## The findings under one code -/

/-- The codes that the checks report under before it is looked where a flow leads to. -/
def shapeCodes : List String := [
  "MISSING_START_NODE", "MULTIPLE_START_NODES", "DUPLICATE_EDGE_ID", "INVALID_EDGE_SOURCE",
  "INVALID_EDGE_TARGET", "MULTIPLE_DEFAULT_EDGES", "UNKNOWN_NODE_TYPE", "MISSING_VARIABLE_NAME",
  "MISSING_WEBHOOK_URL", "INVALID_CONDITION_TARGET", "UNRESOLVED_CONDITION"]

theorem code_mem_shapeCodes (h : p ∈ f.startProblems ++ f.edgeProblems [] f.edges
    ++ f.defaultProblems ++ f.nodes.flatMap f.nodeProblems) : p.code ∈ shapeCodes := by
  simp only [List.mem_append] at h
  rcases h with ((h | h) | h) | h
  · rcases of_mem_startProblems h with rfl | ⟨_, _, rfl⟩ <;> simp [shapeCodes, Problem.code]
  · obtain ⟨_, -, rfl | rfl | rfl⟩ := of_mem_edgeProblems h <;> simp [shapeCodes, Problem.code]
  · obtain ⟨_, _, rfl⟩ := of_mem_defaultProblems h
    simp [shapeCodes, Problem.code]
  · obtain ⟨n, -, h⟩ := List.mem_flatMap.1 h
    rcases of_mem_nodeProblems h with ⟨_, rfl⟩ | rfl | rfl | ⟨_, -, h⟩
    · simp [shapeCodes, Problem.code]
    · simp [shapeCodes, Problem.code]
    · simp [shapeCodes, Problem.code]
    · rcases of_mem_ruleProblems h with ⟨_, rfl⟩ | ⟨_, _, rfl⟩ <;> simp [shapeCodes, Problem.code]

/-- What the first checks find is under codes of their own. -/
theorem filter_code_shape {code : String} (h : code ∉ shapeCodes) :
    (f.startProblems ++ f.edgeProblems [] f.edges ++ f.defaultProblems
      ++ f.nodes.flatMap f.nodeProblems).filter (·.code == code) = [] :=
  List.filter_eq_nil_iff.2 fun _ hp hcode => h (beq_iff_eq.1 hcode ▸ code_mem_shapeCodes hp)

theorem filter_code_deadEnds {code : String} (h : code ≠ "DEAD_END") :
    f.deadEnds.filter (·.code == code) = [] :=
  List.filter_eq_nil_iff.2 fun p hp hcode => by
    obtain ⟨_, _, rfl⟩ := of_mem_deadEnds hp
    exact h (beq_iff_eq.1 hcode).symm

/-- The nodes out of reach that are reported, in order. -/
theorem orphans_eq (f : Flow) :
    f.problems.filter (·.code == "ORPHAN_NODE") = f.unreachable.map .unreachable := by
  rw [problems, List.filter_append, List.filter_append, List.filter_append,
    filter_code_shape (by decide), filter_code_deadEnds (by decide)]
  simp [List.filter_map, Function.comp_def, Problem.code]

/-- The loops that are reported, in order. -/
theorem loops_eq (f : Flow) :
    f.problems.filter (·.code == "AUTO_ADVANCE_LOOP") = f.idleLoops.map .idleLoop := by
  rw [problems, List.filter_append, List.filter_append, List.filter_append,
    filter_code_shape (by decide), filter_code_deadEnds (by decide)]
  simp [List.filter_map, Function.comp_def, Problem.code]

/-! ## Errors -/

/-- Where every problem is an error, there are none exactly when no error is left. -/
theorem errors_eq_nil_iff {ps : List Problem} (h : ∀ p ∈ ps, p.severity = .error) :
    ps.filter (·.severity == .error) = [] ↔ ps = [] := by
  rw [List.filter_eq_self.2 fun p hp => by simp [h p hp]]

/-- A flow can be used unless something is amiss with its starts, its edges or the ways on without
a label, or an error with one of its nodes. -/
theorem isUsable_iff (f : Flow) : f.isUsable = true ↔
    f.startProblems = [] ∧ f.edgeProblems [] f.edges = [] ∧ f.defaultProblems = [] ∧
      ∀ n ∈ f.nodes, ∀ p ∈ f.nodeProblems n, p.severity ≠ .error := by
  have hstart : ∀ p ∈ f.startProblems, p.severity = .error := fun p hp => by
    rcases of_mem_startProblems hp with rfl | ⟨_, _, rfl⟩ <;> rfl
  have hedges : ∀ p ∈ f.edgeProblems [] f.edges, p.severity = .error := fun p hp => by
    obtain ⟨_, -, rfl | rfl | rfl⟩ := of_mem_edgeProblems hp <;> rfl
  have hdefault : ∀ p ∈ f.defaultProblems, p.severity = .error := fun p hp => by
    obtain ⟨_, _, rfl⟩ := of_mem_defaultProblems hp
    rfl
  have hdead : f.deadEnds.filter (·.severity == .error) = [] :=
    List.filter_eq_nil_iff.2 fun p hp => by
      obtain ⟨_, _, rfl⟩ := of_mem_deadEnds hp
      simp [Problem.severity]
  have hnodes : (f.nodes.flatMap f.nodeProblems).filter (·.severity == .error) = [] ↔
      ∀ n ∈ f.nodes, ∀ p ∈ f.nodeProblems n, p.severity ≠ .error := by
    simp only [List.filter_eq_nil_iff, List.mem_flatMap, beq_iff_eq]
    exact ⟨fun h n hn p hp => h p ⟨n, hn, hp⟩, fun h p ⟨n, hn, hp⟩ => h n hn p hp⟩
  have hmaps : (f.unreachable.map Problem.unreachable).filter (·.severity == .error) = [] ∧
      (f.idleLoops.map Problem.idleLoop).filter (·.severity == .error) = [] := by
    simp [List.filter_map, Function.comp_def, Problem.severity]
  simp only [isUsable, errors, problems, List.isEmpty_iff, List.filter_append,
    List.append_eq_nil_iff, errors_eq_nil_iff hstart, errors_eq_nil_iff hedges,
    errors_eq_nil_iff hdefault, hnodes, hdead, hmaps, and_true, and_assoc]

end Parley.Flow
