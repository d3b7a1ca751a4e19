import Mathlib.Data.List.Dedup
import Parley.Proofs.Lock.Line

/-!
# Tasks that come for keys, and go

A task comes for a key, is let in or waits, and goes: from inside when it has done its work or fails
at it, or from wherever it is when it is sent away. Any number of tasks do so in any order
(`Passage.run`). Who has come and not gone is a list in order of arrival that knows nothing of locks
(`Passage.attendance`).

`served_of_run`: whatever happened, of those who came for a key and have not gone the first one is
inside, and nobody else holds a lock for it; the others wait in order of arrival, and nobody is
lost. There is one lock for a key, the one that the next to come will get. What happens at a key
depends on the passages for that key alone. There are as many entries as there are keys that
somebody came for, and none when all have gone.
-/

namespace Parley

/-- A task comes for a key. It may come again, and for another key while it is inside. -/
structure Visit (τ : Type) where
  task : τ
  key : String
  number : Nat := 0
  deriving DecidableEq

/-- What happens at the door. -/
inductive Passage (τ : Type) where
  | comes (visit : Visit τ)
  /-- Has done its work inside. -/
  | goes (visit : Visit τ)
  /-- Fails inside. -/
  | fails (visit : Visit τ)
  /-- Is sent away, from inside or out of the line. -/
  | isSent (visit : Visit τ)

namespace KeyedLock

variable {ω : Type}

/-- Who holds a lock for a key, any lock. -/
def inside (l : KeyedLock ω) (key : String) : List ω :=
  (l.guards.filter (·.key = key)).filterMap (·.holder)

/-- Who waits for a lock for a key. -/
def waits (l : KeyedLock ω) (key : String) : List ω :=
  (l.guards.filter (·.key = key)).flatMap (·.waiting)

/-- Whether somebody holds a lock. -/
def isInside [DecidableEq ω] (l : KeyedLock ω) (w : ω) : Bool :=
  l.guards.any fun g => g.holder = some w

variable {l : KeyedLock ω} {p : List (ω × String)}

namespace Orderly

/-- There is at most one lock for a key, and it is the one under which the key is entered. -/
theorem filter_guards (h : Orderly l p) (key : String) :
    l.guards.filter (·.key = key) = (l.entry? key).toList := by
  rcases h.find?_entries_cases key with ⟨g, hg, rfl, hfind⟩ | ⟨hline, hfind⟩
  · have hone : l.guards.filter (·.key = g.key) = [g] := by
      refine List.perm_singleton.1 ((List.perm_ext_iff_of_nodup
        (List.Nodup.filter _ h.keys.of_map) (List.nodup_singleton g)).2 ?_)
      intro g'
      rw [List.mem_filter, List.mem_singleton]
      exact ⟨fun hg' => h.eq_of_key hg'.1 hg (by simpa using hg'.2), fun e => by simp [e, hg]⟩
    simp [hone, entry?, hfind, h.guard?_serial hg]
  · have hnone : l.guards.filter (·.key = key) = [] := by
      refine List.filter_eq_nil_iff.2 ?_
      intro g hg hk
      have hk : g.key = key := by simpa using hk
      exact h.line_ne_nil hg (hk ▸ hline)
    simp [hnone, entry?, hfind]

/-- The first of a line is inside, and nobody else; the others wait in order. -/
theorem inside_waits (h : Orderly l p) (key : String) :
    l.inside key = (line p key).take 1 ∧ l.waits key = (line p key).drop 1 := by
  unfold inside waits
  rw [h.filter_guards key]
  rcases h.find?_entries_cases key with ⟨g, hg, rfl, hfind⟩ | ⟨hline, hfind⟩
  · have hg' : l.entry? g.key = some g := by simp [hfind, entry?, h.guard?_serial hg]
    have hserves := h.serves g hg
    obtain ⟨first, rest, hline⟩ := List.exists_cons_of_ne_nil (h.line_ne_nil hg)
    rw [hline] at hserves
    simp [hg', hline, hserves.holder, hserves.waiting]
  · have hnone : l.entry? key = none := by simp [hfind, entry?]
    simp [hnone, hline]

theorem isInside_iff [DecidableEq ω] (h : Orderly l p) {w : ω} {key : String}
    (hw : ∀ other, w ∈ line p other → other = key) :
    l.isInside w = true ↔ (line p key).head? = some w := by
  constructor
  · intro hin
    obtain ⟨g, hg, hholder⟩ := List.any_eq_true.1 hin
    have hhead : (line p g.key).head? = some w := by
      rw [← (h.serves g hg).holder]
      simpa using hholder
    rw [← hw g.key (List.mem_of_head? hhead)]
    exact hhead
  · intro hhead
    have hmem := List.mem_of_head? hhead
    obtain ⟨g, hg, rfl⟩ := List.mem_map.1 ((h.wanted key).2 (List.ne_nil_of_mem hmem))
    exact List.any_eq_true.2 ⟨g, hg, by simpa using (h.serves g hg).holder.trans hhead⟩

/-- As many entries as keys that somebody came for. -/
theorem size_eq (h : Orderly l p) : l.size = (p.map (·.2)).dedup.length := by
  have hperm : (p.map (·.2)).dedup.Perm (l.guards.map (·.key)) := by
    refine (List.perm_ext_iff_of_nodup (List.nodup_dedup _) h.keys).2 ?_
    intro key
    rw [List.mem_dedup, h.wanted key]
    constructor
    · intro hkey
      obtain ⟨⟨w, key⟩, hmem, rfl⟩ := List.mem_map.1 hkey
      exact List.ne_nil_of_mem (mem_line.2 hmem)
    · intro hline
      obtain ⟨w, hw⟩ := List.exists_mem_of_ne_nil _ hline
      exact List.mem_map_of_mem (f := (·.2)) (mem_line.1 hw)
  rw [hperm.length_eq, size, h.entries]
  simp

end Orderly

end KeyedLock

namespace Passage

variable {τ : Type} [DecidableEq τ]

/-- Who passes. -/
def visit : Passage τ → Visit τ
  | .comes v | .goes v | .fails v | .isSent v => v

/-- What a passage does to the locks. Nobody comes who is there, and only who is inside can have
done its work or failed at it. -/
def act (l : KeyedLock (Visit τ)) : Passage τ → KeyedLock (Visit τ)
  | .comes v => if (l.used? v).isSome then l else l.enter v v.key
  | .goes v | .fails v => if l.isInside v then l.leave v else l
  | .isSent v => l.leave v

/-- The locks after passages. -/
def run (passages : List (Passage τ)) : KeyedLock (Visit τ) := passages.foldl act {}

/-- Who has come and not gone after a passage. Whoever came first for a key is served first. -/
def attend (p : List (Visit τ)) : Passage τ → List (Visit τ)
  | .comes v => if v ∈ p then p else p ++ [v]
  | .goes v | .fails v => if (p.filter (·.key = v.key)).head? = some v then p.filter (· ≠ v) else p
  | .isSent v => p.filter (· ≠ v)

/-- Who has come and not gone, in order of arrival. -/
def attendance (passages : List (Passage τ)) : List (Visit τ) := passages.foldl attend []

/-- Visits with their keys. -/
def keyed (p : List (Visit τ)) : List (Visit τ × String) := p.map fun v => (v, v.key)

omit [DecidableEq τ] in
theorem line_keyed (p : List (Visit τ)) (key : String) :
    KeyedLock.line (keyed p) key = p.filter (·.key = key) := by
  simp [KeyedLock.line, keyed, List.filter_map, Function.comp_def]

omit [DecidableEq τ] in
theorem map_fst_keyed (p : List (Visit τ)) : (keyed p).map (·.1) = p := by
  simp [keyed, Function.comp_def]

theorem keyed_filter (p : List (Visit τ)) (v : Visit τ) :
    keyed (p.filter (· ≠ v)) = (keyed p).filter (·.1 ≠ v) := by
  simp [keyed, List.filter_map, Function.comp_def]

theorem isInside_iff {l : KeyedLock (Visit τ)} {p : List (Visit τ)} (h : l.Orderly (keyed p))
    (v : Visit τ) :
    l.isInside v = true ↔ (p.filter (·.key = v.key)).head? = some v := by
  rw [← line_keyed p]
  refine h.isInside_iff ?_
  intro other hmem
  rw [line_keyed] at hmem
  simpa [eq_comm] using (List.mem_filter.1 hmem).2

/-- A passage keeps the locks in step with who is there. -/
theorem orderly_act {l : KeyedLock (Visit τ)} {p : List (Visit τ)} (h : l.Orderly (keyed p))
    (passage : Passage τ) : (passage.act l).Orderly (keyed (passage.attend p)) := by
  have hout : ∀ v, (l.leave v).Orderly (keyed (p.filter (· ≠ v))) := by
    intro v
    rw [keyed_filter]
    exact KeyedLock.orderly_leave h v
  have hdone : ∀ v, (if l.isInside v then l.leave v else l).Orderly
      (keyed (if (p.filter (·.key = v.key)).head? = some v then p.filter (· ≠ v) else p)) := by
    intro v
    by_cases hin : l.isInside v = true
    · rw [if_pos hin, if_pos ((isInside_iff h v).1 hin)]
      exact hout v
    · rw [if_neg hin, if_neg (mt (isInside_iff h v).2 hin)]
      exact h
  cases passage with
  | comes v =>
    have hused : (l.used? v).isSome ↔ v ∈ p := by rw [h.isSome_used?_iff, map_fst_keyed]
    simp only [act, attend]
    by_cases hv : v ∈ p
    · rw [if_pos (hused.2 hv), if_pos hv]
      exact h
    · rw [if_neg (mt hused.1 hv), if_neg hv]
      have hkeyed : keyed (p ++ [v]) = keyed p ++ [(v, v.key)] := by simp [keyed]
      rw [hkeyed]
      exact KeyedLock.orderly_enter h (by rwa [map_fst_keyed]) v.key
  | goes v => exact hdone v
  | fails v => exact hdone v
  | isSent v => exact hout v

theorem orderly_run (passages : List (Passage τ)) :
    (run passages).Orderly (keyed (attendance passages)) := by
  unfold run attendance
  suffices ∀ (l : KeyedLock (Visit τ)) p, l.Orderly (keyed p) →
      (passages.foldl act l).Orderly (keyed (passages.foldl attend p)) from
    this {} [] KeyedLock.orderly_empty
  induction passages with
  | nil => exact fun _ _ h => h
  | cons passage rest ih => exact fun l p h => ih _ _ (orderly_act h passage)

/-! ## Keys are apart -/

/-- A passage for a key changes the line of that key as if there were no other, and a passage for
another key does not change it. -/
theorem filter_attend (p : List (Visit τ)) (passage : Passage τ) (key : String) :
    (passage.attend p).filter (·.key = key) =
      if passage.visit.key = key then passage.attend (p.filter (·.key = key))
      else p.filter (·.key = key) := by
  have hout : ∀ v : Visit τ, (p.filter (· ≠ v)).filter (·.key = key) =
      if v.key = key then (p.filter (·.key = key)).filter (· ≠ v) else p.filter (·.key = key) := by
    intro v
    by_cases hv : v.key = key
    · rw [if_pos hv, List.filter_filter, List.filter_filter]
      exact List.filter_congr fun _ _ => Bool.and_comm _ _
    · rw [if_neg hv, List.filter_filter]
      refine List.filter_congr ?_
      intro u _
      by_cases hu : u.key = key
      · have : u ≠ v := fun e => hv (e ▸ hu)
        simp [hu, this]
      · simp [hu]
  have hdone : ∀ v : Visit τ,
      (if (p.filter (·.key = v.key)).head? = some v then p.filter (· ≠ v) else p).filter
        (·.key = key) =
      if v.key = key then
        if ((p.filter (·.key = key)).filter (·.key = v.key)).head? = some v then
          (p.filter (·.key = key)).filter (· ≠ v)
        else p.filter (·.key = key)
      else p.filter (·.key = key) := by
    intro v
    by_cases hv : v.key = key
    · subst hv
      rw [if_pos rfl, List.filter_filter]
      simp only [Bool.and_self]
      split
      · rw [hout v, if_pos rfl]
      · rfl
    · rw [if_neg hv]
      split
      · rw [hout v, if_neg hv]
      · rfl
  have hin : ∀ v : Visit τ, (if v ∈ p then p else p ++ [v]).filter (·.key = key) =
      if v.key = key then
        if v ∈ p.filter (·.key = key) then p.filter (·.key = key)
        else p.filter (·.key = key) ++ [v]
      else p.filter (·.key = key) := by
    intro v
    by_cases hv : v.key = key
    · have hmem : v ∈ p.filter (·.key = key) ↔ v ∈ p := by simp [hv]
      rw [if_pos hv]
      by_cases hp : v ∈ p
      · rw [if_pos hp, if_pos (hmem.2 hp)]
      · rw [if_neg hp, if_neg (mt hmem.1 hp), List.filter_append]
        simp [hv]
    · rw [if_neg hv]
      split
      · rfl
      · simp [hv]
  cases passage with
  | comes v => exact hin v
  | goes v => exact hdone v
  | fails v => exact hdone v
  | isSent v => exact hout v

theorem filter_attendance (passages : List (Passage τ)) (key : String) :
    (attendance passages).filter (·.key = key) =
      attendance (passages.filter (·.visit.key = key)) := by
  unfold attendance
  suffices ∀ p : List (Visit τ), (passages.foldl attend p).filter (·.key = key) =
      (passages.filter (·.visit.key = key)).foldl attend (p.filter (·.key = key)) from this []
  induction passages with
  | nil => exact fun _ => rfl
  | cons passage rest ih =>
    intro p
    rw [List.foldl_cons, ih, filter_attend]
    by_cases hkey : passage.visit.key = key
    · rw [if_pos hkey, List.filter_cons_of_pos (by simpa using hkey), List.foldl_cons]
    · rw [if_neg hkey, List.filter_cons_of_neg (by simpa using hkey)]

/-- Whatever passages there were: of those who came for a key and have not gone the first one is
inside, alone, and the others wait in order of arrival; there is one lock for a key at most; a key
knows of no passage for another; and there are as many entries as keys that somebody came for. -/
theorem served_of_run (passages : List (Passage τ)) :
    (∀ key,
      (run passages).inside key = ((attendance passages).filter (·.key = key)).take 1 ∧
      (run passages).waits key = ((attendance passages).filter (·.key = key)).drop 1 ∧
      (run passages).guards.filter (·.key = key) = (KeyedLock.entry? (run passages) key).toList ∧
      (run passages).inside key = (run (passages.filter (·.visit.key = key))).inside key ∧
      (run passages).waits key = (run (passages.filter (·.visit.key = key))).waits key) ∧
    (run passages).size = ((attendance passages).map (·.key)).dedup.length ∧
    ((run passages).size = 0 ↔ attendance passages = []) := by
  have h := orderly_run passages
  have hsize : (run passages).size = ((attendance passages).map (·.key)).dedup.length := by
    simpa [keyed, Function.comp_def] using h.size_eq
  refine ⟨?_, hsize, ?_⟩
  · intro key
    obtain ⟨hin, hwait⟩ := h.inside_waits key
    obtain ⟨hin', hwait'⟩ :=
      (orderly_run (passages.filter (·.visit.key = key))).inside_waits key
    rw [line_keyed] at hin hwait hin' hwait'
    have hown : (attendance (passages.filter (·.visit.key = key))).filter (·.key = key) =
        (attendance passages).filter (·.key = key) := by
      rw [← filter_attendance, List.filter_filter]
      simp only [Bool.and_self]
    rw [hown] at hin' hwait'
    exact ⟨hin, hwait, h.filter_guards key, hin.trans hin'.symm, hwait.trans hwait'.symm⟩
  · rw [hsize, List.length_eq_zero_iff, List.dedup_eq_nil, List.map_eq_nil_iff]

end Passage

end Parley
