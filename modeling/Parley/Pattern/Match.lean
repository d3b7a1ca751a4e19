import Parley.Pattern.Letters

/-!
Seeking a pattern in a text.

A match runs from a position on with a continuation that says what has to follow. A continuation
that fails sends the search back to the last open choice. Where a repeated part has matched nothing
it is not tried again at the same position, so every search ends.
-/

namespace Parley.Pattern

/-- What the groups have matched so far: number, first position and position after the last
character, newest first. -/
abbrev Captures := List (Nat × Nat × Nat)

/-- A position in the text and what the groups have matched. -/
abbrev Place := Nat × Captures

/-- What a group has matched last. -/
def Captures.find? (caps : Captures) (number : Nat) : Option (Nat × Nat) := caps.lookup number

/-- Whether a character of a word stands at the position. -/
def wordAt (ascii : Bool) (text : Array Char) (pos : Nat) : Bool :=
  match text[pos]? with
  | some c => Kind.word.holds ascii c
  | none => false

/-- Whether the place between two characters is an edge of a word. -/
def atWordEdge (ascii : Bool) (text : Array Char) (pos : Nat) : Bool :=
  (0 < pos && wordAt ascii text (pos - 1)) != wordAt ascii text pos

/-- Whether an anchor holds at the position. An empty text has no edges of words and nothing that is
not one. -/
def Anchor.holds (mode : Mode) (text : Array Char) (pos : Nat) : Anchor → Bool
  | .lineStart => pos == 0 || (mode.perLine && text[pos - 1]? == some '\n')
  | .lineEnd =>
    pos == text.size || (text[pos]? == some '\n' && (mode.perLine || pos + 1 == text.size))
  | .textStart => pos == 0
  | .textEnd => pos == text.size
  | .wordEdge => text.size != 0 && atWordEdge mode.ascii text pos
  | .noWordEdge => text.size != 0 && !atWordEdge mode.ascii text pos

/-- The position after a copy of the piece between two positions. -/
def copyAt? (mode : Mode) (text : Array Char) (first last pos : Nat) : Option Nat :=
  let piece := text.extract first last
  let here := text.extract pos (pos + piece.size)
  if here.size = piece.size && (piece.zip here).all (fun p => sameLetters mode p.1 p.2) then
    some (pos + piece.size)
  else none

/-- Repeats a part between `least` and `most` times before going on. `count` is how often it has
matched, `last` the position at which it was tried last. -/
def repeated (part : Place → (Place → Option Place) → Option Place) (least : Nat)
    (most : Option Nat) (lazy : Bool) (k : Place → Option Place) :
    (fuel count : Nat) → Option Nat → Place → Option Place
  | 0, _, _, _ => none
  | fuel + 1, count, last, at_ =>
    if count < least then
      part at_ fun next => repeated part least most lazy k fuel (count + 1) last next
    else
      let more := fun _ : Unit =>
        if most.all (count < ·) && last != some at_.1 then
          part at_ fun next => repeated part least most lazy k fuel (count + 1) (some at_.1) next
        else none
      if lazy then (k at_).orElse more else (more ()).orElse fun _ => k at_

/-- Repeats a part as often as possible, every match being final, and tells where that ends. -/
def repeatedFinal (part : Place → Option Place) (least : Nat) (most : Option Nat) :
    (fuel count : Nat) → Option Nat → Place → Option Place
  | 0, _, _, _ => none
  | fuel + 1, count, last, at_ =>
    if count < least then
      match part at_ with
      | some next => repeatedFinal part least most fuel (count + 1) last next
      | none => none
    else if most.all (count < ·) && last != some at_.1 then
      match part at_ with
      | some next => repeatedFinal part least most fuel (count + 1) (some at_.1) next
      | none => some at_
    else some at_

/-- Steps over one character that passes the test. -/
def stepIf (text : Array Char) (at_ : Place) (k : Place → Option Place) (test : Char → Bool) :
    Option Place :=
  match text[at_.1]? with
  | some c => if test c then k (at_.1 + 1, at_.2) else none
  | none => none

mutual

/-- Matches a pattern from a place on; `k` says what follows. `width` gives the length of what may
stand before a place. -/
def run (text : Array Char) (width : Pattern → Option Nat) :
    Pattern → Mode → Place → (Place → Option Place) → Option Place
  | .char code, mode, at_, k => stepIf text at_ k (sameChar mode code)
  | .otherThan code, mode, at_, k => stepIf text at_ k fun c => !sameChar mode code c
  | .any, mode, at_, k => stepIf text at_ k fun c => mode.dotAll || c != '\n'
  | .oneOf negated members, mode, at_, k => stepIf text at_ k (inClass mode negated members)
  | .anchor a, mode, at_, k => if a.holds mode text at_.1 then k at_ else none
  | .row parts, mode, at_, k => runRow text width parts mode at_ k
  | .choice parts, mode, at_, k => runChoice text width parts mode at_ k
  | .times least most greed part, mode, at_, k =>
    let fuel := least + text.size + 3
    match greed with
    | .greedy => repeated (run text width part mode) least most false k fuel 0 none at_
    | .lazy => repeated (run text width part mode) least most true k fuel 0 none at_
    | .possessive =>
      (repeatedFinal (fun p => run text width part mode p some) least most fuel 0 none at_).bind k
  | .group number part, mode, at_, k =>
    run text width part mode at_ fun next => k (next.1, (number, at_.1, next.1) :: next.2)
  | .scoped change part, mode, at_, k => run text width part (change.apply mode) at_ k
  | .atomic part, mode, at_, k => (run text width part mode at_ some).bind k
  | .ahead wanted part, mode, at_, k =>
    match run text width part mode at_ some with
    | some next => if wanted then k (at_.1, next.2) else none
    | none => if wanted then none else k at_
  | .behind wanted part, mode, at_, k =>
    let found := match width part with
      | some n => if n ≤ at_.1 then run text width part mode (at_.1 - n, at_.2) some else none
      | none => none
    match found with
    | some next => if wanted then k (at_.1, next.2) else none
    | none => if wanted then none else k at_
  | .again number, mode, at_, k =>
    match Captures.find? at_.2 number with
    | some (first, last) => match copyAt? mode text first last at_.1 with
      | some pos => k (pos, at_.2)
      | none => none
    | none => none
  | .ifGroup number yes no, mode, at_, k =>
    if (Captures.find? at_.2 number).isSome then run text width yes mode at_ k
    else match no with
      | some part => run text width part mode at_ k
      | none => k at_

/-- Matches parts one after the other. -/
def runRow (text : Array Char) (width : Pattern → Option Nat) :
    List Pattern → Mode → Place → (Place → Option Place) → Option Place
  | [], _, at_, k => k at_
  | part :: rest, mode, at_, k =>
    run text width part mode at_ fun next => runRow text width rest mode next k

/-- Matches the first of several parts that leads on. -/
def runChoice (text : Array Char) (width : Pattern → Option Nat) :
    List Pattern → Mode → Place → (Place → Option Place) → Option Place
  | [], _, _, _ => none
  | part :: rest, mode, at_, k =>
    (run text width part mode at_ k).orElse fun _ => runChoice text width rest mode at_ k

end

/-- Whether a pattern matches from some position of the text on. -/
def occursIn (p : Pattern) (width : Pattern → Option Nat) (mode : Mode) (text : String) : Bool :=
  let cs := text.toList.toArray
  (List.range (cs.size + 1)).any fun start => (run cs width p mode (start, []) some).isSome

end Parley.Pattern
