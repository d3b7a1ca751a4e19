import Mathlib.Data.List.Nodup
import Parley.Lock.Basic
import Parley.Proofs.Dictionary

/-!
# Who is inside and who waits

Keyed locks make a lock when the first one comes for a key and drop it when the last one goes; in
between they may be left from inside or out of the line, in any order. What they ought to do needs
no locks at all: it is a list of who came for what and has not gone, in order of arrival, and the
`line` of a key is the part of that list that came for it. `Orderly` says that the locks agree with
such a list: one lock for each key that has a line, the first of the line inside, the others waiting
in their order, and the books of the locks (`entries` and `users`) saying no more and no less.

`orderly_enter` and `orderly_leave` carry this through the two things that happen to locks.
-/

namespace Parley

namespace Guard

variable {ω : Type} {g : Guard ω} {line : List ω}

/-- The first of a line is inside, the others wait in their order. -/
structure Serves (g : Guard ω) (line : List ω) : Prop where
  holder : g.holder = line.head?
  waiting : g.waiting = line.tail

theorem Serves.inUse_iff (h : g.Serves line) : g.inUse = true ↔ line ≠ [] := by
  cases line with
  | nil => simp [inUse, h.holder, h.waiting]
  | cons first rest => simp [inUse, h.holder]

theorem Serves.enter (h : g.Serves line) (w : ω) : (g.enter w).Serves (line ++ [w]) := by
  cases line with
  | nil => constructor <;> simp [Guard.enter, h.holder, h.waiting]
  | cons first rest => constructor <;> simp [Guard.enter, h.holder, h.waiting]

@[simp] theorem enter_serial (g : Guard ω) (w : ω) : (g.enter w).serial = g.serial := by
  unfold Guard.enter
  split <;> rfl

@[simp] theorem enter_key (g : Guard ω) (w : ω) : (g.enter w).key = g.key := by
  unfold Guard.enter
  split <;> rfl

variable [DecidableEq ω]

theorem Serves.isUsedBy_iff (h : g.Serves line) (w : ω) : g.isUsedBy w = true ↔ w ∈ line := by
  cases line with
  | nil => simp [isUsedBy, h.holder, h.waiting]
  | cons first rest =>
    have hcomm : first = w ↔ w = first := eq_comm
    simp [isUsedBy, h.holder, h.waiting, hcomm]

/-- Whoever goes, from inside or out of the line, the others stay in their order. -/
theorem Serves.leave (h : g.Serves line) (hline : line.Nodup) (w : ω) :
    (g.leave w).Serves (line.filter (· ≠ w)) := by
  cases line with
  | nil => constructor <;> simp [Guard.leave, h.holder, h.waiting]
  | cons first rest =>
    obtain ⟨hfirst, -⟩ := List.nodup_cons.1 hline
    by_cases hw : first = w
    · subst hw
      have hrest : (first :: rest).filter (· ≠ first) = rest := by
        rw [List.filter_cons_of_neg (by simp), List.filter_eq_self]
        intro v hv
        have : v ≠ first := fun e => hfirst (e ▸ hv)
        simpa using this
      rw [hrest]
      constructor <;> simp [Guard.leave, Guard.pass, h.holder, h.waiting]
    · constructor <;> simp [Guard.leave, h.holder, h.waiting, hw]

@[simp] theorem leave_serial (g : Guard ω) (w : ω) : (g.leave w).serial = g.serial := by
  unfold Guard.leave
  split <;> rfl

@[simp] theorem leave_key (g : Guard ω) (w : ω) : (g.leave w).key = g.key := by
  unfold Guard.leave
  split <;> rfl

end Guard

namespace KeyedLock

variable {ω : Type} {l : KeyedLock ω} {p q : List (ω × String)} {w : ω} {key : String}

/-! ## Lines -/

/-- Who came for a key and has not gone, in order of arrival. -/
def line (p : List (ω × String)) (key : String) : List ω :=
  (p.filter (·.2 = key)).map (·.1)

theorem mem_line : w ∈ line p key ↔ (w, key) ∈ p := by
  simp [line]

theorem line_append (w : ω) (key other : String) :
    line (p ++ [(w, key)]) other = if key = other then line p other ++ [w] else line p other := by
  unfold line
  split <;> simp [*]

theorem line_filter [DecidableEq ω] (w : ω) (key : String) :
    line (p.filter (·.1 ≠ w)) key = (line p key).filter (· ≠ w) := by
  unfold line
  rw [List.filter_filter, List.filter_map, List.filter_filter]
  congr 1
  refine List.filter_congr ?_
  intro a _
  exact Bool.and_comm _ _

theorem nodup_line (h : (p.map (·.1)).Nodup) (key : String) : (line p key).Nodup :=
  h.sublist (List.filter_sublist.map _)

/-- Nobody is in the lines of two keys. -/
theorem key_unique (h : (p.map (·.1)).Nodup) {other : String} (hw : w ∈ line p key)
    (hw' : w ∈ line p other) : key = other :=
  congrArg Prod.snd (List.inj_on_of_nodup_map h (mem_line.1 hw) (mem_line.1 hw') rfl)

/-! ## Locks that agree with the lines -/

/-- Locks that agree with a list of who came for what and has not gone. -/
structure Orderly (l : KeyedLock ω) (p : List (ω × String)) : Prop where
  /-- Nobody uses two locks. -/
  once : (p.map (·.1)).Nodup
  serials : (l.guards.map (·.serial)).Nodup
  keys : (l.guards.map (·.key)).Nodup
  old : ∀ g ∈ l.guards, g.serial < l.next
  /-- Each lock serves the line of its key. -/
  serves : ∀ g ∈ l.guards, g.Serves (line p g.key)
  /-- There are locks for the keys that somebody came for, and for no other. -/
  wanted : ∀ key, key ∈ l.guards.map (·.key) ↔ line p key ≠ []
  entries : l.entries = l.guards.map fun g => (g.key, g.serial)
  counts : ∀ key, (Dictionary.find? l.users key).getD 0 = (line p key).length

theorem orderly_empty : Orderly ({} : KeyedLock ω) [] where
  once := List.nodup_nil
  serials := List.nodup_nil
  keys := List.nodup_nil
  old := by intro g hg; cases hg
  serves := by intro g hg; cases hg
  wanted := by simp [line]
  entries := rfl
  counts := by simp [line]

namespace Orderly

variable {g g' : Guard ω}

theorem line_ne_nil (h : Orderly l p) (hg : g ∈ l.guards) : line p g.key ≠ [] :=
  (h.wanted g.key).1 (List.mem_map_of_mem hg)

theorem eq_of_key (h : Orderly l p) (hg : g ∈ l.guards) (hg' : g' ∈ l.guards)
    (he : g.key = g'.key) : g = g' :=
  List.inj_on_of_nodup_map h.keys hg hg' he

theorem serial_eq_iff (h : Orderly l p) (hg : g ∈ l.guards) (hg' : g' ∈ l.guards) :
    g'.serial = g.serial ↔ g'.key = g.key :=
  ⟨fun e => congrArg Guard.key (List.inj_on_of_nodup_map h.serials hg' hg e),
    fun e => congrArg Guard.serial (h.eq_of_key hg' hg e)⟩

theorem keys_entries (h : Orderly l p) : Dictionary.keys l.entries = l.guards.map (·.key) := by
  simp [Dictionary.keys, h.entries, Function.comp_def]

theorem find?_entries (h : Orderly l p) (hg : g ∈ l.guards) :
    Dictionary.find? l.entries g.key = some g.serial := by
  refine Dictionary.find?_of_mem (by rw [h.keys_entries]; exact h.keys) ?_
  rw [h.entries]
  exact List.mem_map_of_mem (f := fun g : Guard ω => (g.key, g.serial)) hg

/-- A key has an entry exactly if there is a lock for it. -/
theorem find?_entries_cases (h : Orderly l p) (key : String) :
    (∃ g ∈ l.guards, g.key = key ∧ Dictionary.find? l.entries key = some g.serial) ∨
      (line p key = [] ∧ Dictionary.find? l.entries key = none) := by
  by_cases hkey : key ∈ l.guards.map (·.key)
  · obtain ⟨g, hg, rfl⟩ := List.mem_map.1 hkey
    exact .inl ⟨g, hg, rfl, h.find?_entries hg⟩
  · refine .inr ⟨by simpa using mt (h.wanted key).2 hkey, ?_⟩
    cases hfind : Dictionary.find? l.entries key with
    | none => rfl
    | some serial =>
      have hmem : key ∈ Dictionary.keys l.entries :=
        List.mem_map_of_mem (f := (·.1)) (Dictionary.mem_of_find? hfind)
      exact absurd (h.keys_entries ▸ hmem) hkey

theorem guard?_serial (h : Orderly l p) (hg : g ∈ l.guards) : l.guard? g.serial = some g := by
  unfold guard?
  cases hfind : l.guards.find? (·.serial == g.serial) with
  | none => exact absurd (List.find?_eq_none.1 hfind g hg) (by simp)
  | some g' =>
    have hserial : g'.serial = g.serial := by simpa using List.find?_some hfind
    have hmem := List.mem_of_find?_eq_some hfind
    rw [h.eq_of_key hmem hg ((h.serial_eq_iff hg hmem).1 hserial)]

/-- The first of the line of a key is inside. -/
theorem holder?_eq (h : Orderly l p) (key : String) : l.holder? key = (line p key).head? := by
  rcases h.find?_entries_cases key with ⟨g, hg, rfl, hfind⟩ | ⟨hline, hfind⟩
  · simp [holder?, entry?, hfind, h.guard?_serial hg, (h.serves g hg).holder]
  · simp [holder?, entry?, hfind, hline]

theorem guards_change (h : Orderly l p) (hg : g ∈ l.guards) (f : Guard ω → Guard ω) :
    (l.change g.serial f).guards = l.guards.map fun g' => if g'.key = g.key then f g' else g' := by
  refine List.map_congr_left ?_
  intro g' hg'
  simp only [h.serial_eq_iff hg hg']

/-- What a change of the lock of a key leaves alone is the same in all locks. -/
theorem map_guards_change {α : Type} {field : Guard ω → α} {f : Guard ω → Guard ω}
    (hf : ∀ g, field (f g) = field g) (serial : Nat) :
    (l.change serial f).guards.map field = l.guards.map field := by
  unfold change
  rw [List.map_map]
  refine List.map_congr_left ?_
  intro g _
  by_cases hserial : g.serial = serial
  · simp [hserial, hf]
  · simp [hserial]

theorem counts_put (h : Orderly l p) (hother : ∀ other, other ≠ key → line q other = line p other)
    (other : String) :
    (Dictionary.find? (Dictionary.put l.users key (line q key).length) other).getD 0 =
      (line q other).length := by
  rw [Dictionary.find?_put]
  by_cases hk : key = other
  · simp [hk]
  · simp [hk, h.counts other, hother other (Ne.symm hk)]

/-- One line changes, its lock with it, and somebody is still in it. -/
theorem changed (h : Orderly l p) (hg : g ∈ l.guards) {f : Guard ω → Guard ω}
    (hserial : ∀ g, (f g).serial = g.serial) (hkey : ∀ g, (f g).key = g.key)
    (honce : (q.map (·.1)).Nodup) (hother : ∀ other, other ≠ g.key → line q other = line p other)
    (hserves : (f g).Serves (line q g.key)) (hline : line q g.key ≠ []) :
    Orderly { l.change g.serial f with
      users := Dictionary.put l.users g.key (line q g.key).length } q where
  once := honce
  serials := by
    rw [map_guards_change hserial]
    exact h.serials
  keys := by
    rw [map_guards_change hkey]
    exact h.keys
  old := by
    intro g₁ hg₁
    obtain ⟨g₀, hg₀, rfl⟩ := List.mem_map.1 hg₁
    have hold : g₀.serial < l.next := h.old g₀ hg₀
    by_cases hs : g₀.serial = g.serial
    · rw [if_pos hs, hserial]
      exact hold
    · rw [if_neg hs]
      exact hold
  serves := by
    intro g₁ hg₁
    rw [h.guards_change hg] at hg₁
    obtain ⟨g₀, hg₀, rfl⟩ := List.mem_map.1 hg₁
    by_cases hk : g₀.key = g.key
    · rw [if_pos hk, hkey, h.eq_of_key hg₀ hg hk]
      exact hserves
    · rw [if_neg hk, hother _ hk]
      exact h.serves g₀ hg₀
  wanted := by
    intro other
    rw [map_guards_change hkey, h.wanted other]
    by_cases hk : other = g.key
    · subst hk
      exact ⟨fun _ => hline, fun _ => h.line_ne_nil hg⟩
    · rw [hother _ hk]
  entries := by
    rw [map_guards_change (by simp [hserial, hkey])]
    exact h.entries
  counts := h.counts_put hother

/-- A key that nobody came for gets a line, and a lock for it. -/
theorem added (h : Orderly l p) (hline : line p key = []) (honce : (q.map (·.1)).Nodup)
    (hother : ∀ other, other ≠ key → line q other = line p other) (hself : line q key = [w]) :
    Orderly { l with
      guards := l.guards ++ [{ serial := l.next, key, holder := some w }]
      entries := Dictionary.put l.entries key l.next
      users := Dictionary.put l.users key (line q key).length
      next := l.next + 1 } q := by
  have hno : key ∉ l.guards.map (·.key) := fun hkey => (h.wanted key).1 hkey hline
  refine ⟨honce, ?_, ?_, ?_, ?_, ?_, ?_, h.counts_put hother⟩
  · rw [List.map_append]
    refine h.serials.append (List.nodup_singleton _) (List.disjoint_singleton.2 ?_)
    intro hmem
    obtain ⟨g, hg, he⟩ := List.mem_map.1 hmem
    exact Nat.ne_of_lt (h.old g hg) he
  · rw [List.map_append]
    exact h.keys.append (List.nodup_singleton _) (List.disjoint_singleton.2 hno)
  · intro g hg
    rcases List.mem_append.1 hg with hg | hg
    · exact Nat.lt_succ_of_lt (h.old g hg)
    · rw [List.mem_singleton.1 hg]
      exact Nat.lt_succ_self _
  · intro g hg
    rcases List.mem_append.1 hg with hg | hg
    · rw [hother _ fun hk => hno (hk ▸ List.mem_map_of_mem hg)]
      exact h.serves g hg
    · rw [List.mem_singleton.1 hg]
      simp only [hself]
      exact ⟨rfl, rfl⟩
  · intro other
    rw [List.map_append, List.mem_append, h.wanted other]
    by_cases hk : other = key
    · subst hk
      simp [hself]
    · rw [hother _ hk]
      simp [hk]
  · rw [Dictionary.put_of_notMem (by rw [h.keys_entries]; exact hno), h.entries]
    simp

/-- A line comes to its end, and the lock of its key goes. -/
theorem dropped (h : Orderly l p) (honce : (q.map (·.1)).Nodup)
    (hother : ∀ other, other ≠ key → line q other = line p other) (hself : line q key = []) :
    Orderly { l with
      guards := l.guards.filter (·.key ≠ key)
      entries := Dictionary.drop l.entries key
      users := Dictionary.drop l.users key } q where
  once := honce
  serials := h.serials.sublist (List.filter_sublist.map _)
  keys := h.keys.sublist (List.filter_sublist.map _)
  old := by
    intro g hg
    exact h.old g (List.mem_of_mem_filter hg)
  serves := by
    intro g hg
    obtain ⟨hg, hk⟩ := List.mem_filter.1 hg
    rw [hother _ (by simpa using hk)]
    exact h.serves g hg
  wanted := by
    intro other
    by_cases hk : other = key
    · subst hk
      simp [hself]
    · rw [hother _ hk, ← h.wanted other]
      constructor
      · intro hmem
        obtain ⟨g, hg, rfl⟩ := List.mem_map.1 hmem
        exact List.mem_map_of_mem (List.mem_of_mem_filter hg)
      · intro hmem
        obtain ⟨g, hg, rfl⟩ := List.mem_map.1 hmem
        exact List.mem_map_of_mem (List.mem_filter.2 ⟨hg, by simpa using hk⟩)
  entries := by
    change Dictionary.drop l.entries key =
      (l.guards.filter (·.key ≠ key)).map fun g => (g.key, g.serial)
    rw [h.entries, Dictionary.drop, List.filter_map]
    congr 1
    refine List.filter_congr ?_
    intro g _
    exact Bool.eq_iff_iff.2 (by simp)
  counts := by
    intro other
    change (Dictionary.find? (Dictionary.drop l.users key) other).getD 0 = (line q other).length
    rw [Dictionary.find?_drop]
    by_cases hk : key = other
    · subst hk
      simp [hself]
    · simp [hk, h.counts other, hother other (Ne.symm hk)]

/-- Locks for which somebody is there stay. -/
theorem sweep_eq (h : Orderly l p) : l.sweep = l := by
  have hall : l.guards.filter (·.inUse) = l.guards :=
    List.filter_eq_self.2 fun g hg => (h.serves g hg).inUse_iff.2 (h.line_ne_nil hg)
  simp [sweep, hall]

variable [DecidableEq ω]

theorem isUsedBy_iff (h : Orderly l p) (hg : g ∈ l.guards) :
    g.isUsedBy w = true ↔ w ∈ line p g.key :=
  (h.serves g hg).isUsedBy_iff w

/-- Whoever came and has not gone uses the lock that serves its line. -/
theorem used?_cases (h : Orderly l p) (w : ω) :
    (∃ g ∈ l.guards, l.used? w = some g ∧ w ∈ line p g.key) ∨
      (l.used? w = none ∧ w ∉ p.map (·.1)) := by
  cases hused : l.used? w with
  | some g =>
    have hg := List.mem_of_find?_eq_some hused
    have hw : g.isUsedBy w = true := by
      unfold used? at hused
      simpa using List.find?_some hused
    exact .inl ⟨g, hg, rfl, (h.isUsedBy_iff hg).1 hw⟩
  | none =>
    refine .inr ⟨rfl, ?_⟩
    intro hw
    obtain ⟨⟨v, key⟩, hmem, rfl⟩ := List.mem_map.1 hw
    have hmem : v ∈ line p key := mem_line.2 hmem
    obtain ⟨g, hg, rfl⟩ := List.mem_map.1 ((h.wanted key).2 (List.ne_nil_of_mem hmem))
    exact List.find?_eq_none.1 hused g hg ((h.isUsedBy_iff hg).2 hmem)

theorem isSome_used?_iff (h : Orderly l p) (w : ω) :
    (l.used? w).isSome ↔ w ∈ p.map (·.1) := by
  rcases h.used?_cases w with ⟨g, -, hused, hmem⟩ | ⟨hused, hmem⟩
  · simp only [hused, Option.isSome_some, true_iff]
    exact List.mem_map_of_mem (f := (·.1)) (mem_line.1 hmem)
  · simp only [hused, Option.isSome_none, Bool.false_eq_true, false_iff]
    exact hmem

end Orderly

/-! ## Coming and going -/

theorem enter_of_some {serial : Nat} (h : Dictionary.find? l.entries key = some serial) (w : ω) :
    l.enter w key = { l.change serial (·.enter w) with
      users := Dictionary.put l.users key ((Dictionary.find? l.users key).getD 0 + 1) } := by
  simp only [enter, withEntry, h]

theorem enter_of_none (hold : ∀ g ∈ l.guards, g.serial < l.next)
    (h : Dictionary.find? l.entries key = none) (w : ω) :
    l.enter w key = { l with
      guards := l.guards ++ [{ serial := l.next, key, holder := some w }]
      entries := Dictionary.put l.entries key l.next
      users := Dictionary.put l.users key ((Dictionary.find? l.users key).getD 0 + 1)
      next := l.next + 1 } := by
  have hmap : (l.guards.map fun g => if g.serial = l.next then g.enter w else g) = l.guards := by
    refine (List.map_congr_left ?_).trans (List.map_id _)
    intro g hg
    exact if_neg (Nat.ne_of_lt (hold g hg))
  have hnew : ({ serial := l.next, key } : Guard ω).enter w =
      { serial := l.next, key, holder := some w } := rfl
  simp only [enter, withEntry, h, change, List.map_append, hmap, List.map_cons, List.map_nil,
    if_true, hnew]

/-- Somebody comes who is not there: at the end of the line of a key. -/
theorem orderly_enter (h : Orderly l p) (hw : w ∉ p.map (·.1)) (key : String) :
    Orderly (l.enter w key) (p ++ [(w, key)]) := by
  have hother : ∀ other, other ≠ key → line (p ++ [(w, key)]) other = line p other := by
    intro other hne
    rw [line_append, if_neg (Ne.symm hne)]
  have hself : line (p ++ [(w, key)]) key = line p key ++ [w] := by
    rw [line_append, if_pos rfl]
  have honce : ((p ++ [(w, key)]).map (·.1)).Nodup := by
    rw [List.map_append]
    exact h.once.append (List.nodup_singleton w) (List.disjoint_singleton.2 hw)
  have hcount : (Dictionary.find? l.users key).getD 0 + 1 =
      (line (p ++ [(w, key)]) key).length := by
    rw [hself, h.counts key, List.length_append]
    rfl
  rcases h.find?_entries_cases key with ⟨g, hg, rfl, hfind⟩ | ⟨hline, hfind⟩
  · rw [enter_of_some hfind, hcount]
    refine h.changed hg (fun g => g.enter_serial w) (fun g => g.enter_key w) honce hother ?_ ?_
    · rw [hself]
      exact (h.serves g hg).enter w
    · simp [hself]
  · rw [enter_of_none h.old hfind, hcount]
    refine h.added hline honce hother ?_
    rw [hself, hline]
    rfl

variable [DecidableEq ω]

/-- Somebody goes, from inside or out of the line, or was not there. -/
theorem orderly_leave (h : Orderly l p) (w : ω) :
    Orderly (l.leave w) (p.filter (·.1 ≠ w)) := by
  rcases h.used?_cases w with ⟨g, hg, hused, hw⟩ | ⟨hused, hw⟩
  · have hother : ∀ other, other ≠ g.key → line (p.filter (·.1 ≠ w)) other = line p other := by
      intro other hne
      rw [line_filter, List.filter_eq_self]
      intro v hv
      have : v ≠ w := fun e => hne (key_unique h.once (e ▸ hv) hw)
      simpa using this
    have honce : ((p.filter (·.1 ≠ w)).map (·.1)).Nodup :=
      h.once.sublist (List.filter_sublist.map _)
    have hserves : (g.leave w).Serves (line (p.filter (·.1 ≠ w)) g.key) := by
      rw [line_filter]
      exact (h.serves g hg).leave (nodup_line h.once _) w
    have hcount : (Dictionary.find? l.users g.key).getD 0 - 1 =
        (line (p.filter (·.1 ≠ w)) g.key).length := by
      have herase : (line p g.key).erase w = (line p g.key).filter (· ≠ w) := by
        rw [(nodup_line h.once _).erase_eq_filter]
        exact List.filter_congr fun v _ => Bool.eq_iff_iff.2 (by simp)
      rw [h.counts g.key, line_filter, ← herase, List.length_erase_of_mem hw]
    have hleave : l.leave w = ((l.change g.serial (·.leave w)).forget g.key).sweep := by
      simp only [leave, hused]
    by_cases hline : line (p.filter (·.1 ≠ w)) g.key = []
    · -- the last one of the line: nobody uses its lock any more, and all others are used
      have hguards : (l.change g.serial (·.leave w)).guards.filter (·.inUse) =
          l.guards.filter (·.key ≠ g.key) := by
        rw [h.guards_change hg, List.filter_map]
        have hmap : ∀ g' ∈ l.guards, ((·.inUse) ∘ fun g' : Guard ω =>
            if g'.key = g.key then g'.leave w else g') g' = decide (g'.key ≠ g.key) := by
          intro g' hg'
          by_cases hk : g'.key = g.key
          · have hidle : ¬ (g.leave w).inUse = true := fun hin => hserves.inUse_iff.1 hin hline
            simpa [hk, h.eq_of_key hg' hg hk] using hidle
          · simpa [hk] using (h.serves g' hg').inUse_iff.2 (h.line_ne_nil hg')
        rw [List.filter_congr hmap]
        refine (List.map_congr_left ?_).trans (List.map_id _)
        intro g' hg'
        exact if_neg (by simpa using (List.mem_filter.1 hg').2)
      have hl : l.leave w = { l with
          guards := l.guards.filter (·.key ≠ g.key)
          entries := Dictionary.drop l.entries g.key
          users := Dictionary.drop l.users g.key } := by
        have hcount : (Dictionary.find? l.users g.key).getD 0 - 1 = 0 := by
          rw [hcount, hline]
          rfl
        rw [hleave, ← hguards]
        simp only [forget, change, hcount, if_true, sweep]
      rw [hl]
      exact h.dropped honce hother hline
    · have hne : (line (p.filter (·.1 ≠ w)) g.key).length ≠ 0 := by simpa using hline
      have hstill := h.changed hg (fun g => g.leave_serial w) (fun g => g.leave_key w) honce hother
        hserves hline
      have hl : l.leave w = { l.change g.serial (·.leave w) with
          users := Dictionary.put l.users g.key
            (line (p.filter (·.1 ≠ w)) g.key).length } := by
        rw [hleave, ← hstill.sweep_eq]
        simp only [forget, change, hcount, if_neg hne]
      rw [hl]
      exact hstill
  · have hfilter : p.filter (·.1 ≠ w) = p := by
      refine List.filter_eq_self.2 ?_
      intro a ha
      have : a.1 ≠ w := fun e => hw (e ▸ List.mem_map_of_mem (f := (·.1)) ha)
      simpa using this
    simpa only [leave, hused, hfilter] using h

end KeyedLock

end Parley
