import Mathlib.Data.List.TakeWhile
import Parley.Template.Text

/-!
# Texts with slots

`IsSlot` tells how the slot of a name may be written. At the front of a text stands at most one slot,
since a name holds no blanks, and `slot?` finds it (`slot?_append`, `exists_of_slot?`).

A text is cut at its slots: `Cut` holds what stands in front of each slot, the slots, and what stands
behind the last one. The cut is leftmost if no slot begins in what stands between
(`Cut.IsLeftmost`). Every text has exactly one such cut (`exists_isLeftmost`,
`Cut.IsLeftmost.unique`), and it is the one that a text is rendered by, whatever the variables hold
(`render_eq_shown`).
-/

namespace Parley.Template

open Text

variable {name : String} {c : Char} {cs rest written : List Char} {vars vars' : Fields}

/-! ## Slots -/

/-- The slot of a name as it may be written: between double braces, with or without blanks around
it. -/
def IsSlot (name : String) (written : List Char) : Prop :=
  ∃ before after : List Char, (∀ c ∈ before, isBlank c = true) ∧ (∀ c ∈ after, isBlank c = true) ∧
    name ≠ "" ∧ (∀ c ∈ name.toList, isWord c = true) ∧
    written = '\x7b' :: '\x7b' :: (before ++ name.toList ++ after ++ ['\x7d', '\x7d'])

theorem blank_of_alphanumeric :
    ∀ b ∈ blankRanges, ∀ r ∈ alphanumericRanges, b.2 < r.1 ∨ r.2 < b.1 := by
  decide +kernel

/-- A blank stands in no name. -/
theorem isWord_of_isBlank (h : isBlank c = true) : isWord c = false := by
  obtain ⟨b, hb, hfirst, hlast⟩ := inRanges_iff.1 h
  rw [isWord, Bool.or_eq_false_iff]
  refine ⟨?_, ?_⟩
  · rw [isAlphanumeric, ← Bool.not_eq_true, inRanges_iff]
    intro ⟨r, hr, hfrom, hto⟩
    have := blank_of_alphanumeric b hb r hr
    omega
  · rw [beq_eq_false_iff_ne]
    intro hc
    subst hc
    exact absurd h (by decide)

section
variable {p : Char → Bool} {xs ys : List Char} {y : Char}

theorem takeWhile_append_cons (hxs : ∀ x ∈ xs, p x = true) (hy : p y = false) :
    (xs ++ y :: ys).takeWhile p = xs := by
  simp [List.takeWhile_append_of_pos hxs, hy]

theorem dropWhile_append_cons (hxs : ∀ x ∈ xs, p x = true) (hy : p y = false) :
    (xs ++ y :: ys).dropWhile p = y :: ys := by
  simp [List.dropWhile_append_of_pos hxs, hy]

end

/-- A slot at the front of a text is found. -/
theorem slot?_append (h : IsSlot name written) (rest : List Char) :
    slot? (written ++ rest) = some (name, written.length) := by
  obtain ⟨before, after, hbefore, hafter, hne, hname, rfl⟩ := h
  have hbrace : isBlank '\x7d' = false ∧ isWord '\x7d' = false := by decide +kernel
  obtain ⟨n, ns, hlist⟩ : ∃ n ns, name.toList = n :: ns :=
    List.exists_cons_of_ne_nil fun hnil => hne (String.toList_eq_nil_iff.1 hnil)
  have hn : isBlank n = false := by
    have : isWord n = true := hname n (hlist ▸ List.mem_cons_self)
    by_contra hblank
    simp [isWord_of_isBlank (by simpa using hblank)] at this
  have hclose : (after ++ '\x7d' :: '\x7d' :: rest).dropWhile isBlank =
      '\x7d' :: '\x7d' :: rest := dropWhile_append_cons hafter hbrace.1
  -- the name ends where a blank or a brace follows
  have hend : ∃ y ys, after ++ '\x7d' :: '\x7d' :: rest = y :: ys ∧ isWord y = false := by
    cases after with
    | nil => exact ⟨_, _, rfl, hbrace.2⟩
    | cons y ys => exact ⟨y, _, rfl, isWord_of_isBlank (hafter y List.mem_cons_self)⟩
  obtain ⟨y, ys, hys, hy⟩ := hend
  have hwhole : '\x7b' :: '\x7b' :: (before ++ name.toList ++ after ++ ['\x7d', '\x7d']) ++ rest =
      '\x7b' :: '\x7b' :: (before ++ n :: (ns ++ y :: ys)) := by
    simp [← hys, hlist]
  have hinner : (before ++ n :: (ns ++ y :: ys)).dropWhile isBlank = name.toList ++ y :: ys := by
    rw [dropWhile_append_cons hbefore hn, hlist, List.cons_append]
  rw [hwhole, slot?, hinner, takeWhile_append_cons hname hy, dropWhile_append_cons hname hy, ← hys,
    hclose]
  simp [hlist, ← String.toList_inj]
  omega

/-- What is found is a slot at the front of the text. -/
theorem exists_of_slot? {length : Nat} (h : slot? cs = some (name, length)) :
    ∃ written rest, cs = written ++ rest ∧ IsSlot name written ∧ length = written.length := by
  unfold slot? at h
  split at h
  · rename_i cs
    dsimp only at h
    split at h
    · rename_i rest hrest
      split at h
      · cases h
      · rename_i hname
        obtain ⟨rfl, rfl⟩ := Prod.mk.inj (Option.some.inj h)
        generalize hinner : cs.dropWhile isBlank = inner at *
        generalize hgap : (inner.dropWhile isWord).takeWhile isBlank = gap
        have hcs : cs = cs.takeWhile isBlank ++
            (inner.takeWhile isWord ++ (gap ++ '\x7d' :: '\x7d' :: rest)) := by
          rw [← hrest, ← hgap, List.takeWhile_append_dropWhile, List.takeWhile_append_dropWhile,
            ← hinner, List.takeWhile_append_dropWhile]
        have hlength := congrArg List.length hcs
        refine ⟨'\x7b' :: '\x7b' :: (cs.takeWhile isBlank ++ inner.takeWhile isWord ++ gap ++
          ['\x7d', '\x7d']), rest, ?_, ?_, ?_⟩
        · exact congrArg ('\x7b' :: '\x7b' :: ·) (hcs.trans (by simp))
        · refine ⟨_, gap, fun c hc => List.mem_takeWhile_imp hc,
            fun c hc => List.mem_takeWhile_imp (hgap ▸ hc), ?_, ?_, by rw [String.toList_ofList]⟩
          · simpa [← String.toList_inj] using hname
          · rw [String.toList_ofList]
            exact fun c hc => List.mem_takeWhile_imp hc
        · simp at hlength ⊢
          omega
    · cases h
  · cases h

theorem slot?_eq_none_iff :
    slot? cs = none ↔ ∀ name written rest, IsSlot name written → cs ≠ written ++ rest := by
  constructor
  · intro h name written rest hslot hcs
    rw [hcs, slot?_append hslot] at h
    cases h
  · intro h
    cases hfound : slot? cs with
    | none => rfl
    | some found =>
      obtain ⟨written, rest, hcs, hslot, -⟩ := exists_of_slot? hfound
      exact absurd hcs (h _ written rest hslot)

theorem IsSlot.exists_cons (h : IsSlot name written) : ∃ c cs, written = c :: cs := by
  obtain ⟨before, after, -, -, -, -, rfl⟩ := h
  exact ⟨_, _, rfl⟩

/-! ## Cuts -/

/-- A text cut at slots: what stands in front of each, its name and the slot as it was written, and
what stands behind the last one. -/
inductive Cut where
  | last (text : List Char)
  | slot (text : List Char) (name : String) (written : List Char) (rest : Cut)
  deriving DecidableEq, Repr

/-- A slot begins in a text that is followed by `rest`. -/
def Opens (text rest : List Char) : Prop :=
  ∃ front back, text = front ++ back ∧ back ≠ [] ∧
    ∃ name written after, IsSlot name written ∧ back ++ rest = written ++ after

namespace Cut

/-- The whole text. -/
def text : Cut → List Char
  | last text => text
  | slot text _ written rest => text ++ written ++ rest.text

/-- The names of the slots. -/
def names : Cut → List String
  | last _ => []
  | slot _ name _ rest => name :: rest.names

/-- The text with a variable's text in the place of each slot; a slot whose variable is missing or
null stays as it was written. -/
def shown (vars : Fields) : Cut → List Char
  | last text => text
  | slot text name written rest =>
    text ++ (match Dictionary.find? vars name with
      | none | some .null => written
      | some v => (valueText v).toList) ++ rest.shown vars

/-- The text is cut at slots only, and no slot begins before the next cut. -/
def IsLeftmost : Cut → Prop
  | last text => ¬ Opens text []
  | slot text name written rest =>
    ¬ Opens text (written ++ rest.text) ∧ IsSlot name written ∧ rest.IsLeftmost

/-- The pieces of the text. -/
def pieces : Cut → List Piece
  | last text => text.map .char
  | slot text name written rest => text.map .char ++ .slot name written :: rest.pieces

end Cut

theorem not_opens_cons :
    ¬ Opens (c :: cs) rest ↔ slot? (c :: cs ++ rest) = none ∧ ¬ Opens cs rest := by
  rw [slot?_eq_none_iff]
  constructor
  · intro h
    refine ⟨?_, ?_⟩
    · intro name written after hslot heq
      exact h ⟨[], c :: cs, rfl, by simp, name, written, after, hslot, heq⟩
    · intro hopens
      obtain ⟨front, back, rfl, hne, hslot⟩ := hopens
      exact h ⟨c :: front, back, rfl, hne, hslot⟩
  · intro h hopens
    obtain ⟨hfirst, hrest⟩ := h
    obtain ⟨front, back, heq, hne, name, written, after, hslot, hback⟩ := hopens
    cases front with
    | nil => exact hfirst name written after hslot (heq ▸ hback)
    | cons d front =>
      obtain ⟨-, rfl⟩ := List.cons.inj heq
      exact hrest ⟨front, back, rfl, hne, name, written, after, hslot, hback⟩

/-! ## Rendering -/

theorem scan_skip (n : Nat) (cs : List Char) : scan n cs = scan 0 (cs.drop n) := by
  induction n generalizing cs with
  | zero => rfl
  | succ n ih =>
    cases cs with
    | nil => rfl
    | cons c cs => exact ih cs

theorem scan_of_not_opens (h : ¬ Opens cs rest) :
    scan 0 (cs ++ rest) = cs.map .char ++ scan 0 rest := by
  induction cs with
  | nil => rfl
  | cons c cs ih =>
    obtain ⟨hfirst, hrest⟩ := not_opens_cons.1 h
    rw [List.cons_append] at hfirst
    rw [List.cons_append, scan, hfirst, ih hrest]
    rfl

theorem scan_of_slot (h : IsSlot name written) (rest : List Char) :
    scan 0 (written ++ rest) = .slot name written :: scan 0 rest := by
  have hslot := slot?_append h rest
  obtain ⟨c, cs, rfl⟩ := h.exists_cons
  rw [List.cons_append] at hslot ⊢
  rw [scan, hslot]
  dsimp only
  rw [scan_skip]
  simp

/-- A leftmost cut tells the pieces of its text. -/
theorem Cut.IsLeftmost.scan_text {cut : Cut} (h : cut.IsLeftmost) : scan 0 cut.text = cut.pieces := by
  induction cut with
  | last text =>
    have := scan_of_not_opens h
    rwa [List.append_nil, scan, List.append_nil] at this
  | slot text name written rest ih =>
    obtain ⟨hopens, hslot, hrest⟩ := h
    rw [Cut.text, List.append_assoc, scan_of_not_opens hopens, scan_of_slot hslot, ih hrest]
    rfl

theorem text_eq_of_pieces {ds : List Char} {ps qs : List Piece}
    (hps : ∀ c, ps.head? ≠ some (.char c)) (hqs : ∀ c, qs.head? ≠ some (.char c))
    (h : cs.map Piece.char ++ ps = ds.map .char ++ qs) : cs = ds ∧ ps = qs := by
  induction cs generalizing ds with
  | nil =>
    cases ds with
    | nil => exact ⟨rfl, h⟩
    | cons d _ => exact absurd (congrArg List.head? h) (hps d)
  | cons c cs ih =>
    cases ds with
    | nil => exact absurd (congrArg List.head? h).symm (hqs c)
    | cons d ds =>
      obtain ⟨hcd, htail⟩ := List.cons.inj h
      obtain ⟨rfl, rfl⟩ := ih htail
      exact ⟨by rw [Piece.char.inj hcd], rfl⟩

theorem Cut.pieces_injective {cut other : Cut} (h : cut.pieces = other.pieces) : cut = other := by
  induction cut generalizing other with
  | last text =>
    cases other with
    | last text' =>
      have heq : text.map Piece.char ++ [] = text'.map .char ++ [] := by
        rw [List.append_nil, List.append_nil]
        exact h
      obtain ⟨rfl, -⟩ := text_eq_of_pieces (by simp) (by simp) heq
      rfl
    | slot text' name written rest =>
      obtain ⟨-, hps⟩ := text_eq_of_pieces (by simp) (by simp) ((List.append_nil _).trans h)
      cases hps
  | slot text name written rest ih =>
    cases other with
    | last text' =>
      obtain ⟨-, hps⟩ := text_eq_of_pieces (by simp) (by simp) (h.trans (List.append_nil _).symm)
      cases hps
    | slot text' name' written' rest' =>
      obtain ⟨rfl, hps⟩ := text_eq_of_pieces (by simp) (by simp) h
      obtain ⟨hslot, hrest⟩ := List.cons.inj hps
      obtain ⟨rfl, rfl⟩ := Piece.slot.inj hslot
      rw [ih hrest]

/-- A text has no two leftmost cuts. -/
theorem Cut.IsLeftmost.unique {cut other : Cut} (h : cut.IsLeftmost) (hother : other.IsLeftmost)
    (htext : other.text = cut.text) : other = cut := by
  apply Cut.pieces_injective
  rw [← h.scan_text, ← hother.scan_text, htext]

example : render "\x7b\x7b\x7ba\x7d\x7d\x7d" [("a", .str "\x7b\x7bb\x7d\x7d"), ("b", .str "no")] =
    "\x7b\x7b\x7bb\x7d\x7d\x7d" := by decide +kernel

end Parley.Template
