import Mathlib.Data.List.Infix
import Mathlib.Data.List.TakeWhile
import Parley.Json.Reader

/-!
# Numbers that are too long to be read

A text that is JSON but for the length of a whole number shows it: more digits stand there in a row
than such a number may have (`hasLongRow_of_read`). Every reader stops within the text that it was
given, and names no other digits than it was given (`Reads`).

The other way round, digits alone are refused where they are too many (`read_of_digits`).
-/

namespace Parley.Json

open Text

variable {α β : Type} {cs rest : List Char} {n : Nat}

/-- So many digits stand in a row, and a whole number may not have as many. -/
def HasLongRow (cs : List Char) (n : Nat) : Prop :=
  maxIntDigits < n ∧ ∃ ds, ds <:+: cs ∧ ds.length = n ∧ ∀ d ∈ ds, isAsciiDigit d = true

theorem HasLongRow.of_suffix (h : HasLongRow rest n) (hrest : rest <:+ cs) : HasLongRow cs n := by
  obtain ⟨hmany, ds, hds, hlength, hdigits⟩ := h
  exact ⟨hmany, ds, hds.trans hrest.isInfix, hlength, hdigits⟩

/-- A reader stops within the text that it was given; if a whole number has too many digits for it,
they stand in that text. -/
def Reads (cs : List Char) : Except ReadError (α × List Char) → Prop
  | .ok a => a.2 <:+ cs
  | .error (.fault _ _) => True
  | .error (.tooManyDigits n) => HasLongRow cs n

section
variable {x : Except ReadError (α × List Char)}

theorem reads_fault {f : Fault} {left : Nat} :
    Reads cs (.error (.fault f left) : Except ReadError (α × List Char)) := trivial

theorem reads_faultAt {f : Fault} : Reads cs (faultAt f rest : Except ReadError (α × List Char)) :=
  trivial

theorem Reads.of_suffix (h : Reads rest x) (hrest : rest <:+ cs) : Reads cs x := by
  rcases x with (⟨f, left⟩ | n) | a
  · exact trivial
  · exact HasLongRow.of_suffix h hrest
  · exact List.IsSuffix.trans h hrest

theorem Reads.bind {next : α × List Char → Except ReadError (β × List Char)} (h : Reads cs x)
    (hnext : ∀ a rest, rest <:+ cs → Reads rest (next (a, rest))) : Reads cs (x >>= next) := by
  rcases x with (⟨f, left⟩ | n) | a
  · exact trivial
  · exact h
  · exact (hnext a.1 a.2 h).of_suffix h

theorem Reads.map (h : Reads cs x) (f : α → β) :
    Reads cs (x.map fun a => (f a.1, a.2)) := by
  rcases x with (⟨f, left⟩ | n) | a
  · exact trivial
  · exact h
  · exact h

end

theorem skip_suffix (cs : List Char) : skip cs <:+ cs := List.dropWhile_suffix _

/-! ## Texts -/

theorem hexCode?_suffix (h : hexCode? cs = some (n, rest)) : rest <:+ cs := by
  unfold hexCode? at h
  split at h
  · simp only [Option.bind_eq_bind, Option.bind_eq_some_iff] at h
    obtain ⟨_, -, _, -, _, -, _, -, h⟩ := h
    obtain ⟨-, rfl⟩ := Prod.mk.inj (Option.some.inj h)
    exact ⟨[_, _, _, _], rfl⟩
  · cases h

theorem lowHalf?_suffix {high : Nat} {c : Char} (h : lowHalf? high cs = some (c, rest)) :
    rest <:+ cs := by
  unfold lowHalf? at h
  split at h
  · split at h
    · split at h
      · obtain ⟨-, rfl⟩ := Prod.mk.inj (Option.some.inj h)
        exact (hexCode?_suffix ‹_›).trans ⟨['\\', 'u'], rfl⟩
      · cases h
    · cases h
  · cases h

theorem readText_reads (opening fuel : Nat) (acc cs : List Char) :
    Reads cs (readText opening fuel acc cs) := by
  induction fuel generalizing acc cs with
  | zero => exact reads_fault
  | succ fuel ih =>
    cases cs with
    | nil => exact reads_fault
    | cons c cs =>
      have hfirst : cs <:+ c :: cs := List.suffix_cons ..
      unfold readText
      split
      · exact hfirst
      · split
        · split
          · exact reads_fault
          · -- a code, and perhaps that of its other half behind it
            rename_i code
            have hcode : code <:+ c :: 'u' :: code := ⟨[c, 'u'], rfl⟩
            split
            · exact reads_fault
            · split
              · exact reads_fault
              · rename_i n rest hhex
                have hrest : rest <:+ c :: 'u' :: code := (hexCode?_suffix hhex).trans hcode
                split
                · split
                  · exact (ih _ _).of_suffix ((lowHalf?_suffix ‹_›).trans hrest)
                  · exact (ih _ _).of_suffix hrest
                · split
                  · exact (ih _ _).of_suffix hrest
                  · exact (ih _ _).of_suffix hrest
          · split
            · exact (ih _ _).of_suffix ⟨[c, _], rfl⟩
            · exact reads_fault
        · split
          · exact reads_fault
          · exact (ih _ _).of_suffix hfirst

/-! ## Numbers -/

theorem spanDigits_suffix (cs : List Char) : (spanDigits cs).2 <:+ cs := List.dropWhile_suffix _

theorem readFraction_suffix (cs : List Char) : (readFraction cs).2 <:+ cs := by
  unfold readFraction
  split
  · split
    · exact (spanDigits_suffix _).trans (List.suffix_cons ..)
    · exact List.suffix_rfl
  · exact List.suffix_rfl

theorem readExponent_suffix (cs : List Char) : (readExponent cs).2 <:+ cs := by
  unfold readExponent
  split
  · rename_i e rest
    have hdigits {ds : List Char} (hds : ds <:+ rest) : (spanDigits ds).2 <:+ e :: rest :=
      (spanDigits_suffix ds).trans (hds.trans (List.suffix_cons ..))
    split
    · dsimp only
      split <;> dsimp only <;> split
      · exact List.suffix_rfl
      · exact hdigits (List.suffix_cons ..)
      · exact List.suffix_rfl
      · exact hdigits (List.suffix_cons ..)
      · exact List.suffix_rfl
      · exact hdigits List.suffix_rfl
    · exact List.suffix_rfl
  · exact List.suffix_rfl

/-- Behind the digits of a whole number the text goes on; if they are too many, they show. -/
theorem readNumber_reads (cs : List Char) : Reads cs (readNumber cs) := by
  unfold readNumber
  split
  rename_i negative signed hsign
  have hsigned : signed <:+ cs := by
    split at hsign <;> cases hsign
    · exact List.suffix_cons ..
    · exact List.suffix_rfl
  split
  rename_i whole rest hwhole
  have happend : whole ++ rest = signed := by
    split at hwhole <;> cases hwhole
    · rfl
    · exact List.takeWhile_append_dropWhile
  have hdigits : ∀ d ∈ whole, isAsciiDigit d = true := by
    intro d hd
    split at hwhole <;> cases hwhole
    · rw [List.mem_singleton.1 hd]
      decide
    · exact List.mem_takeWhile_imp hd
  have hrest : rest <:+ cs := (happend ▸ List.suffix_append whole rest).trans hsigned
  split
  · exact reads_faultAt
  · have hend : (readExponent (readFraction rest).2).2 <:+ cs :=
      (readExponent_suffix _).trans ((readFraction_suffix _).trans hrest)
    dsimp only
    split
    · split
      · rename_i hmany
        have hprefix : whole <+: signed := happend ▸ List.prefix_append whole rest
        exact ⟨hmany, whole, hprefix.isInfix.trans hsigned.isInfix, rfl, hdigits⟩
      · exact hend
    · exact hend

/-! ## Values -/

theorem word?_suffix {word : List Char} (h : word? word cs = some rest) : rest <:+ cs := by
  fun_induction word? word cs with
  | case1 cs => exact Option.some.inj h ▸ List.suffix_rfl
  | case2 => cases h
  | case3 ws w cs ih => exact (ih h).trans (List.suffix_cons ..)
  | case4 => cases h

theorem readWord?_suffix {v : Json} (h : readWord? cs = some (v, rest)) : rest <:+ cs := by
  obtain ⟨⟨w, v⟩, -, hword⟩ := List.exists_of_findSome?_eq_some h
  obtain ⟨rest, hrest, heq⟩ := Option.map_eq_some_iff.1 hword
  obtain ⟨-, rfl⟩ := Prod.mk.inj heq
  exact word?_suffix hrest

/-- The readers of one level keep to the text that they are given. -/
structure StayWithin (fuel : Nat) : Prop where
  value : ∀ cs, Reads cs (readValue fuel cs)
  items : ∀ acc cs, Reads cs (readItems fuel acc cs)
  members : ∀ acc cs, Reads cs (readMembers fuel acc cs)

theorem StayWithin.readValue (h : StayWithin n) (cs : List Char) :
    Reads cs (readValue (n + 1) cs) := by
  cases cs with
  | nil => exact reads_faultAt
  | cons c cs =>
    have hfirst : cs <:+ c :: cs := List.suffix_cons ..
    have hskip : skip cs <:+ c :: cs := (skip_suffix cs).trans hfirst
    unfold Json.readValue
    split
    · exact ((readText_reads ..).map Json.str).of_suffix hfirst
    · split
      · split
        · rename_i rest hclose
          exact (List.suffix_cons ']' rest).trans (hclose ▸ hskip)
        · exact ((h.items ..).map Json.arr).of_suffix hskip
      · split
        · split
          · rename_i rest hclose
            exact (List.suffix_cons '\x7d' rest).trans (hclose ▸ hskip)
          · exact ((h.members ..).map Json.obj).of_suffix hskip
        · split
          · exact readWord?_suffix ‹_›
          · exact readNumber_reads _

theorem StayWithin.readItems (h : StayWithin n) (acc : List Json) (cs : List Char) :
    Reads cs (readItems (n + 1) acc cs) := by
  unfold Json.readItems
  apply (h.value cs).bind
  intro v rest _
  have hskip := skip_suffix rest
  dsimp only
  split
  · rename_i rest' hclose
    exact (List.suffix_cons ']' rest').trans (hclose ▸ hskip)
  · rename_i rest' hcomma
    have hrest : rest' <:+ rest := (List.suffix_cons ',' rest').trans (hcomma ▸ hskip)
    exact (h.items ..).of_suffix ((skip_suffix rest').trans hrest)
  · exact reads_faultAt

theorem StayWithin.readMembers (h : StayWithin n) (acc : Fields) (cs : List Char) :
    Reads cs (readMembers (n + 1) acc cs) := by
  unfold Json.readMembers
  split
  · rename_i name
    apply Reads.of_suffix _ (List.suffix_cons ..)
    apply (readText_reads ..).bind
    intro key rest _
    dsimp only
    split
    · rename_i rest' hcolon
      have hrest : rest' <:+ rest := (List.suffix_cons ':' rest').trans (hcolon ▸ skip_suffix rest)
      apply Reads.of_suffix _ ((skip_suffix rest').trans hrest)
      apply (h.value _).bind
      intro v rest _
      have hskip := skip_suffix rest
      dsimp only
      split
      · rename_i rest' hclose
        exact (List.suffix_cons '\x7d' rest').trans (hclose ▸ hskip)
      · rename_i rest' hcomma
        have hrest : rest' <:+ rest := (List.suffix_cons ',' rest').trans (hcomma ▸ hskip)
        exact (h.members ..).of_suffix ((skip_suffix rest').trans hrest)
      · exact reads_faultAt
    · exact reads_faultAt
  · exact reads_faultAt

theorem stayWithin (fuel : Nat) : StayWithin fuel := by
  induction fuel with
  | zero => exact ⟨fun _ => reads_faultAt, fun _ _ => reads_faultAt, fun _ _ => reads_faultAt⟩
  | succ fuel ih => exact ⟨ih.readValue, ih.readItems, ih.readMembers⟩

/-- A text that is refused for the length of a whole number has so many digits in a row. -/
theorem hasLongRow_of_read {s : String} (h : read s = .error (.tooManyDigits n)) :
    HasLongRow s.toList n := by
  have hchars : readChars s.toList = .error (.tooManyDigits n) := by
    unfold read at h
    dsimp only at h
    split at h
    · cases h
    · cases h
    · rename_i hread
      cases h
      exact hread
  unfold readChars at hchars
  split at hchars
  · cases hchars
  · have hvalue := (stayWithin (s.toList.length + 1)).value (skip s.toList)
    cases hread : readValue (s.toList.length + 1) (skip s.toList) with
    | error e =>
      rw [hread] at hchars hvalue
      cases hchars
      exact HasLongRow.of_suffix hvalue (skip_suffix _)
    | ok a =>
      rw [hread] at hchars
      simp only [bind, Except.bind] at hchars
      split at hchars
      · cases hchars
      · cases hchars

/-! ## Digits alone -/

theorem spanDigits_of_digits (h : ∀ c ∈ cs, isAsciiDigit c = true) : spanDigits cs = (cs, []) := by
  rw [spanDigits, List.takeWhile_eq_self_iff.2 h, List.dropWhile_eq_nil_iff.2 h]

section
variable {d : Char} {ds : List Char}

theorem ne_of_isAsciiDigit {c : Char} (hd : isAsciiDigit d = true) (hc : isAsciiDigit c = false) :
    d ≠ c := by
  intro h
  rw [h, hc] at hd
  cases hd

theorem skip_of_isAsciiDigit (hd : isAsciiDigit d = true) : skip (d :: ds) = d :: ds := by
  have hspace : isSpace d = false := by
    have hne {c : Char} (hc : isAsciiDigit c = false) : d ≠ c := ne_of_isAsciiDigit hd hc
    simp (disch := decide) [isSpace, hne]
  simp [skip, hspace]

theorem readWord?_of_isAsciiDigit (hd : isAsciiDigit d = true) : readWord? (d :: ds) = none := by
  have hword {w : Char} {ws : List Char} (hw : isAsciiDigit w = false) :
      word? (w :: ws) (d :: ds) = none := if_neg (ne_of_isAsciiDigit hd hw).symm
  simp (disch := decide) [readWord?, words, hword]

theorem readNumber_of_digits (hzero : d ≠ '0') (hdigits : ∀ c ∈ d :: ds, isAsciiDigit c = true)
    (hmany : maxIntDigits < (d :: ds).length) :
    readNumber (d :: ds) = .error (.tooManyDigits (d :: ds).length) := by
  have hsign : d ≠ '-' := ne_of_isAsciiDigit (hdigits d List.mem_cons_self) (by decide)
  unfold readNumber
  split
  rename_i negative signed hsigned
  obtain ⟨rfl, rfl⟩ : negative = false ∧ signed = d :: ds := by
    split at hsigned
    · rename_i heq
      exact absurd (List.cons.inj heq).1 hsign
    · exact ⟨(Prod.mk.inj hsigned).1.symm, (Prod.mk.inj hsigned).2.symm⟩
  split
  rename_i whole rest hwhole
  obtain ⟨rfl, rfl⟩ : whole = d :: ds ∧ rest = [] := by
    split at hwhole
    · rename_i heq
      exact absurd (List.cons.inj heq).1 hzero
    · rw [spanDigits_of_digits hdigits] at hwhole
      exact ⟨(Prod.mk.inj hwhole).1.symm, (Prod.mk.inj hwhole).2.symm⟩
  simpa [readFraction, readExponent] using hmany

/-- Digits alone are no JSON that can be read, where they are too many. -/
theorem read_of_digits (hzero : d ≠ '0') (hdigits : ∀ c ∈ d :: ds, isAsciiDigit c = true)
    (hmany : maxIntDigits < (d :: ds).length) :
    read (String.ofList (d :: ds)) = .error (.tooManyDigits (d :: ds).length) := by
  have hd : isAsciiDigit d = true := hdigits d List.mem_cons_self
  have hne {c : Char} (hc : isAsciiDigit c = false) : d ≠ c := ne_of_isAsciiDigit hd hc
  have hvalue : readValue ((d :: ds).length + 1) (d :: ds) =
      .error (.tooManyDigits (d :: ds).length) := by
    rw [readValue, if_neg (hne (by decide)), if_neg (hne (by decide)), if_neg (hne (by decide)),
      readWord?_of_isAsciiDigit hd]
    exact readNumber_of_digits hzero hdigits hmany
  have hchars : readChars (d :: ds) = .error (.tooManyDigits (d :: ds).length) := by
    unfold readChars
    split
    · rename_i heq
      exact absurd (List.cons.inj heq).1 (hne (by decide))
    · rw [skip_of_isAsciiDigit hd, hvalue]
      rfl
  rw [read, String.toList_ofList]
  simp only [hchars]

end

end Parley.Json
