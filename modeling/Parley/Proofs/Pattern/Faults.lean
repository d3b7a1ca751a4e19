import Mathlib.Data.List.Infix
import Parley.Pattern.Reader

/-!
# What a refused pattern shows

A pattern that is well formed but for its counts and settings is refused for one of three reasons,
and each can be seen in its written form (`read_tells`). A count that is too large, or has too many
digits, stands directly behind an opening brace or a comma. Two alphabets are asked for by letters
in brackets behind a question mark. A pattern that shows neither is read, or is malformed.

Every reader stops within the tokens that it was given, and the settings that are known at any time
stand in the pattern (`Within`). The readers of one level keep to that when those of the level below
do (`staysWithin`).
-/

namespace Parley.Pattern

open Number Text

variable {α β : Type} {shows shows' : List Char → Prop} {whole ts rest : List Token} {r : Reading}
  {c : Char} {ds letters : List Char} {fuel : Nat}

/-- A row of digits stands directly behind an opening brace or a comma. -/
def ShowsCount (shows : List Char → Prop) (ds : List Char) : Prop :=
  (∀ d ∈ ds, isAsciiDigit d = true) ∧ (shows ('\x7b' :: ds) ∨ shows (',' :: ds))

/-- A letter stands among letters of settings in a bracket of their own. -/
def ShowsSetting (shows : List Char → Prop) (c : Char) : Prop :=
  ∃ letters : List Char, c ∈ letters ∧ (∀ l ∈ letters, l ∈ settingLetters) ∧
    shows ('(' :: '?' :: (letters ++ [')']))

/-- What a fault tells of a pattern, by the rows of characters that the pattern shows. -/
def Fault.Tells (shows : List Char → Prop) : Fault → Prop
  | .malformed => True
  | .countTooLarge => ∃ ds, ShowsCount shows ds ∧ maxCount ≤ digitsValue ds
  | .tooManyDigits digits =>
    ∃ ds, ShowsCount shows ds ∧ ds.length = digits ∧ maxWholeDigits < digits
  | .mixedAlphabets => ShowsSetting shows 'a' ∧ ShowsSetting shows 'u'

theorem ShowsCount.mono (h : ShowsCount shows ds) (hshows : ∀ cs, shows cs → shows' cs) :
    ShowsCount shows' ds :=
  ⟨h.1, h.2.imp (hshows _) (hshows _)⟩

theorem ShowsSetting.mono (h : ShowsSetting shows c) (hshows : ∀ cs, shows cs → shows' cs) :
    ShowsSetting shows' c := by
  obtain ⟨letters, hc, hletters, hshown⟩ := h
  exact ⟨letters, hc, hletters, hshows _ hshown⟩

theorem Fault.Tells.mono {f : Fault} (h : f.Tells shows) (hshows : ∀ cs, shows cs → shows' cs) :
    f.Tells shows' := by
  cases f with
  | malformed => trivial
  | countTooLarge =>
    obtain ⟨ds, hds, hlarge⟩ := h
    exact ⟨ds, hds.mono hshows, hlarge⟩
  | tooManyDigits digits =>
    obtain ⟨ds, hds, hlength, hmany⟩ := h
    exact ⟨ds, hds.mono hshows, hlength, hmany⟩
  | mixedAlphabets => exact ⟨h.1.mono hshows, h.2.mono hshows⟩

theorem Fault.tells_of_eq {f : Fault} (h : f = .malformed) : f.Tells shows := by
  rw [h]
  exact trivial

/-! ## What a reader comes to -/

/-- What a reader comes to: what it yields, or else the fault that it finds. -/
def Comes (yields : α → Prop) (fails : Fault → Prop) : Except Fault α → Prop
  | .ok a => yields a
  | .error f => fails f

section
variable {P Q : α → Prop} {R : β → Prop} {E F : Fault → Prop} {x : Except Fault α}

theorem Comes.mono (h : Comes P E x) (hyields : ∀ a, P a → Q a) (hfails : ∀ f, E f → F f) :
    Comes Q F x := by
  cases x with
  | ok a => exact hyields a h
  | error f => exact hfails f h

theorem Comes.bind {next : α → Except Fault β} (h : Comes P E x)
    (hnext : ∀ a, P a → Comes R E (next a)) : Comes R E (x >>= next) := by
  cases x with
  | ok a => exact hnext a h
  | error f => exact h

/-- One of two readers, and what follows on either of them. -/
theorem Comes.ite_bind {p : Prop} [Decidable p] {y : Except Fault α} {next : α → Except Fault β}
    (h : Comes P E (if p then x else y)) (hnext : ∀ a, P a → Comes R E (next a)) :
    Comes R E (if p then x >>= next else y >>= next) := by
  by_cases hp : p
  · rw [if_pos hp] at h ⊢
    exact h.bind hnext
  · rw [if_neg hp] at h ⊢
    exact h.bind hnext

end

/-- A reader stops within the tokens that it was given, or finds them malformed. -/
def Stops (ts : List Token) (behind : α → List Token) : Except Fault α → Prop :=
  Comes (fun a => behind a <:+ ts) (· = .malformed)

section
variable {behind : α → List Token} {x : Except Fault α}

theorem Stops.malformed : Stops ts behind (.error .malformed) := rfl

theorem Stops.of_suffix (h : Stops rest behind x) (hrest : rest <:+ ts) : Stops ts behind x :=
  h.mono (fun _ ha => ha.trans hrest) fun _ hf => hf

theorem Stops.bind {next : α → Except Fault β} {behind' : β → List Token} (h : Stops ts behind x)
    (hnext : ∀ a, behind a <:+ ts → Stops (behind a) behind' (next a)) :
    Stops ts behind' (x >>= next) := by
  refine Comes.bind h ?_
  intro a ha
  exact (hnext a ha).of_suffix ha

theorem Stops.map {g : α → β} {behind' : β → List Token} (h : Stops ts behind x)
    (hg : ∀ a, behind' (g a) = behind a) : Stops ts behind' (x.map g) := by
  cases x with
  | ok a =>
    show behind' (g a) <:+ ts
    rw [hg]
    exact h
  | error f => exact h

end

/-! ## Characters, classes and names -/

theorem readDigits_suffix (digit? : Char → Option Nat) (base n acc : Nat) (ts : List Token) :
    (readDigits digit? base n acc ts).2.2 <:+ ts := by
  fun_induction readDigits digit? base n acc ts with
  | case1 => grind
  | case2 => exact List.suffix_rfl
  | case3 => exact List.suffix_rfl

theorem readHex_stops (n : Nat) (ts : List Token) : Stops ts Prod.snd (readHex n ts) := by
  unfold readHex
  dsimp only
  split
  · exact readDigits_suffix ..
  · exact .malformed

theorem readCode?_stops {x : Except Fault (Nat × List Token)} (h : readCode? c ts = some x) :
    Stops ts Prod.snd x := by
  unfold readCode? at h
  split at h
  · exact Option.some.inj h ▸ readHex_stops 2 ts
  · exact Option.some.inj h ▸ readHex_stops 4 ts
  · refine Option.some.inj h ▸ (readHex_stops 8 ts).bind ?_
    intro a ha
    dsimp only
    split
    · exact List.suffix_rfl
    · exact .malformed
  · cases h

theorem readClassEscape_stops (c : Char) (ts : List Token) :
    Stops ts Prod.snd (readClassEscape c ts) := by
  unfold readClassEscape
  split
  · exact List.suffix_rfl
  · exact List.suffix_rfl
  · exact (readCode?_stops ‹_›).map fun _ => rfl
  · dsimp only
    split
    · exact .malformed
    · exact readDigits_suffix ..
  · split
    · exact .malformed
    · exact List.suffix_rfl

theorem readMember_stops (ts : List Token) : Stops ts Prod.snd (readMember ts) := by
  unfold readMember
  split
  · exact List.suffix_cons ..
  · exact (readClassEscape_stops ..).of_suffix (List.suffix_cons ..)
  · exact .malformed

theorem readFrom_stops {acc : List Member}
    (hmembers : ∀ acc ts, Stops ts Prod.snd (readMembers fuel acc ts)) (ts : List Token) :
    Stops ts Prod.snd (readMembers.readFrom fuel acc ts) := by
  unfold readMembers.readFrom
  refine (readMember_stops ts).bind ?_
  rintro ⟨first, rest⟩ -
  dsimp only
  split
  · exact (List.suffix_cons ..).trans (List.suffix_cons ..)
  · refine Stops.of_suffix ((readMember_stops _).bind ?_) (List.suffix_cons ..)
    rintro ⟨last, rest⟩ -
    dsimp only
    split
    · split
      · exact .malformed
      · exact hmembers _ _
    · exact .malformed
  · exact hmembers _ _

theorem readMembers_stops (fuel : Nat) (acc : List Member) (ts : List Token) :
    Stops ts Prod.snd (readMembers fuel acc ts) := by
  induction fuel generalizing acc ts with
  | zero =>
    unfold readMembers
    exact .malformed
  | succ fuel ih =>
    unfold readMembers
    split
    · split
      · exact readFrom_stops ih _
      · exact List.suffix_cons ..
    · exact readFrom_stops ih _

/-- Members that have been read make a class. -/
theorem classOf_stops (negated : Bool) (members : List Member) (ts : List Token) :
    Stops ts Prod.snd (match members.eraseDups with
      | [.char n] => .ok (if negated then Pattern.otherThan n else .char n, ts)
      | members => .ok (.oneOf negated members, ts)) := by
  split
  · exact List.suffix_rfl
  · exact List.suffix_rfl

theorem readClass_stops (ts : List Token) : Stops ts Prod.snd (readClass ts) := by
  unfold readClass
  dsimp only
  split
  · refine Stops.of_suffix ((readMembers_stops ..).bind ?_) (List.suffix_cons ..)
    intro x _
    exact classOf_stops true x.1 x.2
  · refine (readMembers_stops ..).bind ?_
    intro x _
    exact classOf_stops false x.1 x.2

theorem readReference_stops (r : Reading) (number : Nat) (ts : List Token) :
    Stops ts Prod.snd (readReference r number ts) := by
  unfold readReference
  split
  · exact List.suffix_rfl
  · exact .malformed

theorem readEscape_stops (r : Reading) (c : Char) (ts : List Token) :
    Stops ts Prod.snd (readEscape r c ts) := by
  unfold readEscape
  split
  · exact List.suffix_rfl
  · exact List.suffix_rfl
  · exact List.suffix_rfl
  · exact List.suffix_rfl
  · exact readDigits_suffix ..
  · split
    · exact List.suffix_rfl
    · exact List.suffix_rfl
    · exact (readCode?_stops ‹_›).map fun _ => rfl
    · split
      -- a digit: one or two more may belong to it
      · split
        · split
          · split
            · split
              · dsimp only
                split
                · exact .malformed
                · exact (List.suffix_cons ..).trans (List.suffix_cons ..)
              · exact (readReference_stops ..).of_suffix (List.suffix_cons ..)
            · exact (readReference_stops ..).of_suffix (List.suffix_cons ..)
          · exact readReference_stops ..
        · exact readReference_stops ..
      · split
        · exact .malformed
        · exact List.suffix_rfl

theorem readName_stops (closing : Char) (acc : List Char) (ts : List Token) :
    Stops ts Prod.snd (readName closing acc ts) := by
  fun_induction readName closing acc ts with
  | case1 => exact .malformed
  | case2 => exact List.suffix_cons ..
  | case3 acc c ts _ ih => exact ih.of_suffix (List.suffix_cons ..)
  | case4 acc c ts ih => exact ih.of_suffix (List.suffix_cons ..)
  | case5 => exact .malformed

/-! ## Settings, comments and counts -/

/-- Letters of settings stand in front of the rest; they are read one by one onto others. -/
def Lettered (acc on : List Char) (ts rest : List Token) : Prop :=
  ∃ letters : List Char, (∀ l ∈ letters, l ∈ settingLetters) ∧ on = letters.reverse ++ acc ∧
    ts = letters.map .plain ++ rest

theorem Lettered.suffix {acc on : List Char} (h : Lettered acc on ts rest) : rest <:+ ts := by
  obtain ⟨letters, -, -, rfl⟩ := h
  exact List.suffix_append ..

/-- Settings that are switched on are the letters up to the character that ends them. -/
theorem readOn_comes (acc : List Char) (letter : Char) (ts : List Token)
    (hletter : letter ∈ settingLetters) :
    Comes (fun x => Lettered acc x.1 (.plain letter :: ts) (.plain x.2.1 :: x.2.2)) (· = .malformed)
      (readOn acc letter ts) := by
  fun_induction readOn acc letter ts with
  | case1 => exact rfl
  | case2 acc letter _ c rest =>
    exact ⟨[letter], List.forall_mem_singleton.2 hletter, rfl, rfl⟩
  | case3 acc letter _ c rest _ hc ih =>
    refine (ih (by simpa using hc)).mono ?_ fun _ hf => hf
    rintro ⟨on, ending, rest⟩ ⟨letters, hletters, rfl, hts⟩
    exact ⟨letter :: letters, List.forall_mem_cons.2 ⟨hletter, hletters⟩, by simp,
      by simpa using hts⟩
  | case4 => exact rfl
  | case5 => exact rfl

theorem readOff_stops (acc : List Char) (ts : List Token) :
    Stops ts Prod.snd (readOff acc ts) := by
  fun_induction readOff acc ts with
  | case1 => exact .malformed
  | case2 => exact List.suffix_cons ..
  | case3 acc ts c _ _ ih => exact ih.of_suffix (List.suffix_cons ..)
  | case4 => exact .malformed
  | case5 => exact .malformed

theorem readGreed_suffix (ts : List Token) : (readGreed ts).2 <:+ ts := by
  unfold readGreed
  split
  · exact List.suffix_cons ..
  · exact List.suffix_cons ..
  · exact List.suffix_rfl

theorem repeatLast_stops (least : Nat) (most : Option Nat) (acc : List Pattern) (ts : List Token) :
    Stops ts Prod.snd (repeatLast least most acc ts) := by
  unfold repeatLast
  split
  · split
    · exact readGreed_suffix ts
    · exact .malformed
  · exact .malformed

/-- Nothing stands behind a backslash that has nothing behind it. -/
def IsWritten (ts : List Token) : Prop := ∀ rest, .dangling :: rest <:+ ts → rest = []

theorem isWritten_tokens (cs : List Char) : IsWritten (tokens cs) := by
  intro rest h
  fun_induction tokens cs with
  | case1 => simp at h
  | case2 => simpa [List.suffix_cons_iff] using h
  | case3 c cs ih =>
    refine ih ?_
    simpa [List.suffix_cons_iff] using h
  | case4 c cs _ _ ih =>
    refine ih ?_
    simpa [List.suffix_cons_iff] using h

theorem skipLine_suffix (hts : IsWritten ts) : skipLine ts <:+ ts := by
  fun_induction skipLine ts with
  | case1 => exact List.suffix_rfl
  | case2 => exact List.suffix_cons ..
  | case3 ts =>
    -- the lone backslash is left over, and it is the last token
    rw [hts ts List.suffix_rfl]
  | case4 t ts _ _ ih =>
    refine (ih ?_).trans (List.suffix_cons ..)
    intro rest hrest
    exact hts rest (hrest.trans (List.suffix_cons ..))

theorem skipComment_stops (ts : List Token) : Stops ts id (skipComment ts) := by
  fun_induction skipComment ts with
  | case1 => exact List.suffix_cons ..
  | case2 ts c _ ih => exact ih.of_suffix (List.suffix_cons ..)
  | case3 c ts ih => exact ih.of_suffix (List.suffix_cons ..)
  | case4 => exact .malformed

theorem closing_stops (ts : List Token) : Stops ts id (closing ts) := by
  unfold closing
  split
  · exact List.suffix_cons ..
  · exact .malformed

/-- A reader leaves the settings that are known as they are, or finds a pattern malformed. -/
def KeepsSettings (r : Reading) : Except Fault (α × Reading) → Prop :=
  Comes (fun x => x.2.settings = r.settings) (· = .malformed)

theorem readCondition_keepsSettings (r : Reading) (name : List Char) :
    KeepsSettings r (readCondition r name) := by
  unfold readCondition
  split
  · split
    · split
      · exact rfl
      · exact rfl
    · exact rfl
  · split
    · dsimp only
      split
      · exact rfl
      · exact rfl
    · exact rfl

theorem openGroup_keepsSettings (r : Reading) (name : Option (List Char)) :
    KeepsSettings r (r.openGroup name) := by
  unfold Reading.openGroup
  dsimp only
  split
  · exact rfl
  · split
    · exact rfl
    · exact rfl

/-- What the tokens show: plain characters in a row. -/
def Shown (whole : List Token) (cs : List Char) : Prop := cs.map .plain <:+: whole

theorem spanDigits_eq (ts : List Token) :
    (∀ d ∈ (spanDigits ts).1, isAsciiDigit d = true) ∧
      ts = (spanDigits ts).1.map .plain ++ (spanDigits ts).2 := by
  fun_induction spanDigits ts with
  | case1 => grind
  | case2 => exact ⟨List.forall_mem_nil _, rfl⟩
  | case3 => exact ⟨List.forall_mem_nil _, rfl⟩

theorem readCount_comes {ahead : List Token} (h : ShowsCount shows ds) :
    Comes (fun _ => True) (Fault.Tells shows) (readCount ds ahead) := by
  unfold readCount
  split
  · trivial
  · split
    · trivial
    · split
      · exact ⟨ds, h, rfl, ‹_›⟩
      · split
        · exact ⟨ds, h, ‹_›⟩
        · trivial

/-- The digits directly behind a brace or a comma are shown as a count. -/
theorem showsCount_spanDigits (hc : c = '\x7b' ∨ c = ',') (hts : .plain c :: ts <:+ whole) :
    ShowsCount (Shown whole) (spanDigits ts).1 := by
  have hshown : Shown whole (c :: (spanDigits ts).1) := by
    refine List.IsInfix.trans ?_ hts.isInfix
    refine ⟨[], (spanDigits ts).2, ?_⟩
    rw [List.nil_append, List.map_cons, List.cons_append, ← (spanDigits_eq ts).2]
  refine ⟨(spanDigits_eq ts).1, ?_⟩
  obtain rfl | rfl := hc
  · exact .inl hshown
  · exact .inr hshown

theorem spanDigits_suffix (ts : List Token) : (spanDigits ts).2 <:+ ts :=
  ⟨(spanDigits ts).1.map .plain, (spanDigits_eq ts).2.symm⟩

theorem readCounts_comes (hts : .plain '\x7b' :: ts <:+ whole) :
    Comes (fun counts => ∀ x ∈ counts, x.2.2 <:+ ts) (Fault.Tells (Shown whole))
      (readCounts ts) := by
  have hleast := showsCount_spanDigits (.inl rfl) hts
  have hcomma : ∀ rest, (spanDigits ts).2 = .plain ',' :: rest → .plain ',' :: rest <:+ ts := by
    intro rest hrest
    exact hrest ▸ spanDigits_suffix ts
  unfold readCounts
  split
  · exact fun x hx => nomatch hx
  · dsimp only
    split
    · rename_i rest hbrace
      have hrest : rest <:+ ts := by
        refine (List.suffix_cons (.plain '\x7d') rest).trans ?_
        rw [← hbrace]
        split
        · exact (spanDigits_suffix _).trans ((List.suffix_cons ..).trans (hcomma _ ‹_›))
        · exact spanDigits_suffix ts
      refine (readCount_comes hleast).bind ?_
      intro _ _
      refine Comes.bind (readCount_comes ?_) ?_
      -- without a comma the one row of digits is both counts
      · split
        · refine showsCount_spanDigits (.inr rfl) ((hcomma _ ‹_›).trans ?_)
          exact (List.suffix_cons ..).trans hts
        · exact hleast
      · intro _ _
        split
        · trivial
        · intro x hx
          obtain rfl := Option.some.inj hx
          exact hrest
    · exact fun x hx => nomatch hx

/-- Settings for the whole pattern are the letters up to a closing bracket. -/
theorem readSettings_comes (ts : List Token) (hc : c ∈ settingLetters ∨ c = '-') :
    Comes (fun x => x.2 <:+ ts ∧
        ∀ on, x.1 = .forAll on → Lettered [] on (.plain c :: ts) (.plain ')' :: x.2))
      (· = .malformed) (readSettings c ts) := by
  unfold readSettings
  refine Comes.ite_bind (P := fun x : List Char × Char × List Token => x.2.2 <:+ ts ∧
    (x.2.1 = ')' → Lettered [] x.1 (.plain c :: ts) (.plain ')' :: x.2.2))) ?_ ?_
  · split
    · exact ⟨List.suffix_rfl, fun h : '-' = ')' => absurd h (by decide)⟩
    · refine (readOn_comes [] c ts (hc.resolve_right ‹_›)).mono ?_ fun _ hf => hf
      rintro ⟨on, ending, rest⟩ hletters
      refine ⟨?_, ?_⟩
      · obtain h | h := List.suffix_cons_iff.1 hletters.suffix
        · exact (List.cons.inj h).2 ▸ List.suffix_rfl
        · exact (List.suffix_cons ..).trans h
      · rintro rfl
        exact hletters
  · rintro ⟨on, ending, rest⟩ ⟨hrest, hletters⟩
    dsimp only
    split
    · refine ⟨hrest, ?_⟩
      intro on' hon
      obtain rfl := Settings.forAll.inj hon
      exact hletters ‹_›
    · split
      · exact rfl
      · refine Comes.ite_bind (P := fun x : List Char × List Token => x.2 <:+ ts) ?_ ?_
        · split
          · exact (readOff_stops [] rest).of_suffix hrest
          · exact hrest
        · rintro ⟨off, rest⟩ hrest
          dsimp only
          split
          · exact rfl
          · exact ⟨hrest, nofun⟩

/-! ## Groups, rows and alternatives -/

/-- A place in a pattern, and what is known there: it is behind what stands before it, and the
settings that are known stand in the pattern. -/
structure Within (whole : List Token) (r : Reading) (ts : List Token) : Prop where
  suffix : ts <:+ whole
  settings : ∀ c ∈ r.settings, ShowsSetting (Shown whole) c

/-- A reader leads from a place in a pattern to another one, or finds a fault that the pattern
shows. -/
def Reads (whole : List Token) : Except Fault (α × Reading × List Token) → Prop :=
  Comes (fun x => Within whole x.2.1 x.2.2) (Fault.Tells (Shown whole))

/-- The readers of one level stay within the pattern. -/
structure StaysWithin (whole : List Token) (fuel : Nat) : Prop where
  choice : ∀ spaced top r ts, Within whole r ts → Reads whole (readChoice fuel spaced top r ts)
  alternatives : ∀ spaced top r ts, Within whole r ts →
    Reads whole (readAlternatives fuel spaced top r ts)
  row : ∀ spaced leading acc r ts, Within whole r ts →
    Reads whole (readRow fuel spaced leading acc r ts)
  bracket : ∀ spaced letter r ts, Within whole r ts →
    Reads whole (readBracket fuel spaced letter r ts)

section
variable (h : StaysWithin whole fuel) (hr : Within whole r ts)

theorem Within.tail {t : Token} (hr : Within whole r (t :: ts)) : Within whole r ts :=
  ⟨(List.suffix_cons ..).trans hr.suffix, hr.settings⟩

theorem Within.of_suffix (hr : Within whole r ts) (hrest : rest <:+ ts) : Within whole r rest :=
  ⟨hrest.trans hr.suffix, hr.settings⟩

theorem Within.of_settings {r' : Reading} (hr : Within whole r ts)
    (hsettings : r'.settings = r.settings) : Within whole r' ts :=
  ⟨hr.suffix, hsettings ▸ hr.settings⟩

/-- A reader that stops leads on from where it stopped. -/
theorem Stops.reads {x : Except Fault α} {behind : α → List Token}
    {next : α → Except Fault (β × Reading × List Token)} (hx : Stops ts behind x)
    (hr : Within whole r ts) (hnext : ∀ a, Within whole r (behind a) → Reads whole (next a)) :
    Reads whole (x >>= next) := by
  refine Comes.bind (hx.mono ?_ fun _ => Fault.tells_of_eq) hnext
  intro a ha
  exact hr.of_suffix ha

/-- A reader that keeps the settings leads on from the same place. -/
theorem KeepsSettings.reads {x : Except Fault (α × Reading)}
    {next : α × Reading → Except Fault (β × Reading × List Token)} (hx : KeepsSettings r x)
    (hr : Within whole r ts) (hnext : ∀ a, Within whole a.2 ts → Reads whole (next a)) :
    Reads whole (x >>= next) := by
  refine Comes.bind (hx.mono ?_ fun _ => Fault.tells_of_eq) hnext
  intro a ha
  exact hr.of_settings ha

/-- A part ends with a closing bracket. -/
theorem Within.closing (hr : Within whole r ts) (a : α) :
    Reads whole (do return (a, r, ← Pattern.closing ts)) :=
  (closing_stops ts).reads hr fun _ hr => hr

/-- Settings for the whole pattern stand in it. -/
theorem Within.settle {on : List Char}
    (hr : Within whole r (.plain '(' :: .plain '?' :: .plain c :: ts))
    (hletters : Lettered [] on (.plain c :: ts) (.plain ')' :: rest)) (hrest : rest <:+ ts) :
    Within whole { r with settings := on ++ r.settings } rest := by
  obtain ⟨letters, hmem, rfl, hts⟩ := hletters
  have hshown : Shown whole ('(' :: '?' :: (letters ++ [')'])) := by
    refine List.IsInfix.trans ?_ hr.suffix.isInfix
    refine ⟨[], rest, ?_⟩
    rw [hts]
    simp
  refine ⟨(hr.tail.tail.tail.of_suffix hrest).suffix, ?_⟩
  intro l hl
  rw [List.append_nil, List.mem_append, List.mem_reverse] at hl
  obtain hl | hl := hl
  · exact ⟨letters, hl, hmem, hshown⟩
  · exact hr.settings l hl

/-- Settings lead on from behind them, and those for the whole pattern stand in it. -/
theorem readSettings_reads {next : Settings × List Token → Except Fault (β × Reading × List Token)}
    (hr : Within whole r (.plain '(' :: .plain '?' :: .plain c :: ts))
    (hc : c ∈ settingLetters ∨ c = '-')
    (hnext : ∀ x, Within whole r x.2 →
      (∀ on, x.1 = .forAll on → Within whole { r with settings := on ++ r.settings } x.2) →
      Reads whole (next x)) :
    Reads whole (readSettings c ts >>= next) := by
  refine Comes.bind ((readSettings_comes ts hc).mono (fun _ hx => hx)
    fun _ => Fault.tells_of_eq) ?_
  rintro ⟨settings, rest⟩ ⟨hrest, hletters⟩
  refine hnext _ (hr.tail.tail.tail.of_suffix hrest) ?_
  intro on hon
  exact hr.settle (hletters on hon) hrest

include h hr

theorem readChoice_reads (spaced top : Bool) :
    Reads whole (readChoice (fuel + 1) spaced top r ts) := by
  unfold readChoice
  refine (h.row spaced top [] r ts hr).bind ?_
  rintro ⟨first, r, ts⟩ hr
  refine (h.alternatives spaced top r ts hr).bind ?_
  rintro ⟨rest, r, ts⟩ hr
  dsimp only
  split
  · exact hr
  · exact hr

theorem readAlternatives_reads (spaced top : Bool) :
    Reads whole (readAlternatives (fuel + 1) spaced top r ts) := by
  unfold readAlternatives
  split
  · refine (h.row _ false [] r _ hr.tail).bind ?_
    rintro ⟨part, r, ts⟩ hr
    refine (h.alternatives _ top r ts hr).bind ?_
    rintro ⟨rest, r, ts⟩ hr
    exact hr
  · exact hr

theorem readBracket_reads (spaced : Bool) (letter : Char) :
    Reads whole (readBracket (fuel + 1) spaced letter r ts) := by
  have hpart : ∀ (make : Pattern → Pattern), Reads whole (do
      let x ← readChoice fuel spaced false r ts
      .ok (make x.1, x.2.1, ← closing x.2.2)) := by
    intro make
    refine (h.choice spaced false r ts hr).bind ?_
    intro x hx
    exact hx.closing _
  unfold readBracket
  split
  · exact hpart _
  · exact hpart _
  · exact hpart _
  · exact hpart _
  -- a look back, the bounds of which are forgotten behind it
  · split
    · split
      · refine Comes.bind (h.choice _ _ _ _ (hr.tail.of_settings rfl)) ?_
        rintro ⟨part, r, ts⟩ hr
        refine (hr.of_settings ?_).closing _
        exact rfl
      · trivial
    · trivial
  -- a group that has a name, or a reference to one
  · split
    · refine (readName_stops ..).reads hr.tail ?_
      rintro ⟨name, ts⟩ hr
      dsimp only
      split
      · refine (openGroup_keepsSettings ..).reads hr ?_
        rintro ⟨number, r⟩ hr
        refine (h.choice _ _ _ _ hr).bind ?_
        rintro ⟨part, r, ts⟩ hr
        refine (hr.of_settings ?_).closing _
        exact rfl
      · trivial
    · refine (readName_stops ..).reads hr.tail ?_
      rintro ⟨name, ts⟩ hr
      dsimp only
      split
      · refine (readReference_stops ..).reads hr ?_
        rintro ⟨part, ts⟩ hr
        exact hr
      · trivial
    · trivial
  -- a part that hangs on a group
  · refine (readName_stops ..).reads hr ?_
    rintro ⟨name, ts⟩ hr
    refine (readCondition_keepsSettings ..).reads hr ?_
    rintro ⟨number, r⟩ hr
    refine (h.row _ _ _ _ _ hr).bind ?_
    rintro ⟨yes, r, ts⟩ hr
    dsimp only
    split
    · refine (h.row _ _ _ _ _ hr.tail).bind ?_
      rintro ⟨no, r, ts⟩ hr
      exact hr.closing _
    · exact hr.closing _
  · trivial

/-- A row goes on behind a part that is repeated. -/
theorem repeatLast_reads (least : Nat) (most : Option Nat) (acc : List Pattern)
    (spaced leading : Bool) :
    Reads whole (repeatLast least most acc ts >>= fun x =>
      readRow fuel spaced leading x.1 r x.2) :=
  (repeatLast_stops ..).reads hr fun _ hx => h.row _ _ _ _ _ hx

theorem readRow_reads (hwhole : IsWritten whole) (spaced leading : Bool) (acc : List Pattern) :
    Reads whole (readRow (fuel + 1) spaced leading acc r ts) := by
  unfold readRow
  split
  · exact hr
  · trivial
  · refine (readEscape_stops ..).reads hr.tail ?_
    rintro ⟨part, ts⟩ hr
    exact h.row _ _ _ _ _ hr
  · split
    · exact hr
    · split
      · exact h.row _ _ _ _ _ hr.tail
      · split
        · refine h.row _ _ _ _ _ (hr.tail.of_suffix (skipLine_suffix ?_))
          intro rest hrest
          exact hwhole rest (hrest.trans hr.tail.suffix)
        · split
          · refine (readClass_stops ..).reads hr.tail ?_
            rintro ⟨part, ts⟩ hr
            exact h.row _ _ _ _ _ hr
          · exact h.row _ _ _ _ _ hr.tail
          · exact h.row _ _ _ _ _ hr.tail
          · exact h.row _ _ _ _ _ hr.tail
          · exact repeatLast_reads h hr.tail ..
          · exact repeatLast_reads h hr.tail ..
          · exact repeatLast_reads h hr.tail ..
          · refine (readCounts_comes hr.suffix).bind ?_
            intro counts hcounts
            split
            · exact repeatLast_reads h (hr.tail.of_suffix (hcounts _ rfl)) ..
            · exact h.row _ _ _ _ _ hr.tail
          -- a bracket: a comment, settings, one with a mark behind the question mark, or a group
          · split
            · refine (skipComment_stops ..).reads hr.tail.tail.tail ?_
              intro ts hr
              exact h.row _ _ _ _ _ hr
            · split
              · rename_i hletter
                refine readSettings_reads hr (by simpa using hletter) ?_
                rintro ⟨settings, ts⟩ hr hsettle
                cases settings with
                | forAll on =>
                  dsimp only
                  split
                  · exact h.row _ _ _ _ _ (hsettle on rfl)
                  · trivial
                | forPart on off =>
                  refine Comes.bind (h.choice _ _ _ _ hr) ?_
                  rintro ⟨part, r, ts⟩ hr
                  refine (closing_stops ts).reads hr ?_
                  intro ts hr
                  exact h.row _ _ _ _ _ hr
              · refine (h.bracket _ _ _ _ hr.tail.tail.tail).bind ?_
                rintro ⟨part, r, ts⟩ hr
                exact h.row _ _ _ _ _ hr
            · trivial
            · refine (openGroup_keepsSettings ..).reads hr.tail ?_
              rintro ⟨number, r⟩ hr
              refine (h.choice _ _ _ _ hr).bind ?_
              rintro ⟨part, r, ts⟩ hr
              refine (closing_stops ts).reads hr ?_
              intro ts hr
              exact h.row _ _ _ _ _ (hr.of_settings rfl)
          · exact h.row _ _ _ _ _ hr.tail

end

theorem staysWithin (hwhole : IsWritten whole) (fuel : Nat) : StaysWithin whole fuel := by
  induction fuel with
  | zero =>
    -- without fuel every reader finds the pattern malformed
    constructor
    · intros
      unfold readChoice
      trivial
    · intros
      unfold readAlternatives
      trivial
    · intros
      unfold readRow
      trivial
    · intros
      unfold readBracket
      trivial
  | succ fuel ih =>
    exact {
      choice := fun _ _ _ _ hr => readChoice_reads ih hr ..
      alternatives := fun _ _ _ _ hr => readAlternatives_reads ih hr ..
      row := fun _ _ _ _ _ hr => readRow_reads ih hr hwhole ..
      bracket := fun _ _ _ _ hr => readBracket_reads ih hr .. }

/-! ## The whole pattern -/

/-- A token as it is written. -/
def Token.written : Token → List Char
  | .plain c => [c]
  | .escaped c => ['\\', c]
  | .dangling => ['\\']

theorem flatMap_written_tokens (cs : List Char) : (tokens cs).flatMap Token.written = cs := by
  fun_induction tokens cs with
  | case1 => rfl
  | case2 => rfl
  | case3 c cs ih => simpa [Token.written] using ih
  | case4 c cs _ _ ih => simpa [Token.written] using ih

/-- What the tokens of a text show stands in the text. -/
theorem infix_of_shown {cs shown : List Char} (h : Shown (tokens cs) shown) : shown <:+: cs := by
  obtain ⟨before, behind, h⟩ := h
  have hwritten := congrArg (List.flatMap Token.written) h
  rw [flatMap_written_tokens, List.flatMap_append, List.flatMap_append] at hwritten
  have hplain : (shown.map Token.plain).flatMap Token.written = shown := by
    simp [List.flatMap_map, Token.written]
  rw [hplain] at hwritten
  exact ⟨_, _, hwritten⟩

/-- A pattern that is refused shows why. -/
theorem read_tells {written : String} {f : Fault} (h : read written = .error f) :
    f.Tells fun cs => cs <:+: written.toList := by
  have hcomes : Comes (fun _ : Search => True) (Fault.Tells (Shown (tokens written.toList)))
      (read written) := by
    have hbegin : Within (tokens written.toList) {} (tokens written.toList) :=
      ⟨List.suffix_rfl, List.forall_mem_nil _⟩
    unfold read
    refine ((staysWithin (isWritten_tokens _) _).choice _ _ _ _ hbegin).bind ?_
    rintro ⟨p, r, rest⟩ hr
    dsimp only
    split
    · rename_i halphabets
      rw [Bool.and_eq_true, List.contains_iff_mem, List.contains_iff_mem] at halphabets
      exact ⟨hr.settings _ halphabets.1, hr.settings _ halphabets.2⟩
    · split
      · trivial
      · trivial
  rw [h] at hcomes
  exact Fault.Tells.mono hcomes fun _ => infix_of_shown

end Parley.Pattern
