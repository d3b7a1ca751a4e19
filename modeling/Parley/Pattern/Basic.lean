/-!
Search patterns: the things a text is searched for.

A pattern is read from its written form by `Pattern.read` (module `Pattern.Reader`) and sought by
`Pattern.occursIn` (module `Pattern.Match`). Groups are numbered from one in the order of their
opening brackets.
-/

namespace Parley

namespace Pattern

/-- How a pattern reads letters, lines and classes of characters. -/
structure Mode where
  /-- Small and capital letters are the same. -/
  ignoreCase : Bool := false
  /-- The line anchors hold at every line of the text. -/
  perLine : Bool := false
  /-- The dot stands for a line feed too. -/
  dotAll : Bool := false
  /-- Classes and cases are those of ASCII. -/
  ascii : Bool := false
  deriving DecidableEq, Repr

/-- A change of mode for a part of a pattern; `none` leaves a setting as it is. -/
structure ModeChange where
  ignoreCase : Option Bool := none
  perLine : Option Bool := none
  dotAll : Option Bool := none
  ascii : Option Bool := none
  deriving DecidableEq, Repr

/-- The mode after a change. -/
def ModeChange.apply (c : ModeChange) (m : Mode) : Mode where
  ignoreCase := c.ignoreCase.getD m.ignoreCase
  perLine := c.perLine.getD m.perLine
  dotAll := c.dotAll.getD m.dotAll
  ascii := c.ascii.getD m.ascii

/-- Places between characters. -/
inductive Anchor where
  | lineStart
  | lineEnd
  | textStart
  | textEnd
  | wordEdge
  | noWordEdge
  deriving DecidableEq, Repr

/-- Classes of characters with a letter of their own. -/
inductive Kind where
  | digit
  | blank
  | word
  deriving DecidableEq, Repr

/-- What may stand between square brackets. -/
inductive Member where
  | char (code : Nat)
  | range (first last : Nat)
  | kind (negated : Bool) (k : Kind)
  deriving DecidableEq, Repr

/-- How often a repeated part is tried first: as often as possible, as seldom as possible, or as
often as possible without giving anything back. -/
inductive Greed where
  | greedy
  | lazy
  | possessive
  deriving DecidableEq, Repr

end Pattern

open Pattern in
/-- A search pattern. -/
inductive Pattern where
  /-- One character, given by its code point. -/
  | char (code : Nat)
  /-- Any character but one. -/
  | otherThan (code : Nat)
  /-- Any character. -/
  | any
  /-- One character of a class, or one outside of it. -/
  | oneOf (negated : Bool) (members : List Member)
  /-- A place between characters. -/
  | anchor (a : Anchor)
  /-- Parts one after the other. -/
  | row (parts : List Pattern)
  /-- One of several parts, the first that leads to a match. -/
  | choice (parts : List Pattern)
  /-- A part repeated. -/
  | times (least : Nat) (most : Option Nat) (greed : Greed) (part : Pattern)
  /-- A part whose match is remembered under a number. -/
  | group (number : Nat) (part : Pattern)
  /-- A part in a mode of its own. -/
  | scoped (change : ModeChange) (part : Pattern)
  /-- A part whose first match is final. -/
  | atomic (part : Pattern)
  /-- A part that has to match from here on, or must not, without being passed over. -/
  | ahead (wanted : Bool) (part : Pattern)
  /-- A part that has to match just before, or must not. -/
  | behind (wanted : Bool) (part : Pattern)
  /-- What a group matched, again. -/
  | again (number : Nat)
  /-- One part if a group has matched, otherwise another. -/
  | ifGroup (number : Nat) (yes : Pattern) (no : Option Pattern)
  deriving Repr

end Parley
