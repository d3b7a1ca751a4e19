import Parley.Dictionary

/-!
Locks that are made for keys when somebody comes and dropped when the last one goes.

Each lock serves who comes first: one holds it, the others wait in line. `KeyedLock.entries` names
the lock that new users of a key get; `KeyedLock.users` counts who holds or waits for a key. Whoever
has entered uses the lock that the key had then until leaving it.
-/

namespace Parley

/-- A lock, who holds it and who waits for it. -/
structure Guard (ω : Type) where
  serial : Nat
  key : String
  holder : Option ω := none
  waiting : List ω := []
  deriving DecidableEq, Repr

/-- Locks by key. -/
structure KeyedLock (ω : Type) where
  /-- The locks in use. -/
  guards : List (Guard ω) := []
  /-- The lock of each key that has one, by serial number. -/
  entries : Dictionary Nat := []
  /-- How many use each key. -/
  users : Dictionary Nat := []
  /-- The serial number of the next lock. -/
  next : Nat := 0
  deriving Repr

namespace Guard

variable {ω : Type} [DecidableEq ω]

/-- Lets somebody in, or into the line. -/
def enter (g : Guard ω) (w : ω) : Guard ω :=
  if g.holder.isNone && g.waiting.isEmpty then { g with holder := some w }
  else { g with waiting := g.waiting ++ [w] }

/-- Passes the lock on to the first in line. -/
def pass (g : Guard ω) : Guard ω :=
  { g with holder := g.waiting.head?, waiting := g.waiting.tail }

/-- Lets somebody go who holds the lock or waits for it. -/
def leave (g : Guard ω) (w : ω) : Guard ω :=
  if g.holder = some w then g.pass else { g with waiting := g.waiting.filter (· ≠ w) }

/-- Whether somebody holds the lock or waits for it. -/
def isUsedBy (g : Guard ω) (w : ω) : Bool := g.holder == some w || g.waiting.contains w

/-- Whether anybody uses the lock. -/
def inUse (g : Guard ω) : Bool := g.holder.isSome || !g.waiting.isEmpty

end Guard

namespace KeyedLock

variable {ω : Type} [DecidableEq ω]

/-- The number of keys that have a lock. -/
def size (l : KeyedLock ω) : Nat := l.entries.length

/-- The lock of a serial number. -/
def guard? (l : KeyedLock ω) (serial : Nat) : Option (Guard ω) :=
  l.guards.find? (·.serial == serial)

/-- The lock of a key. -/
def entry? (l : KeyedLock ω) (key : String) : Option (Guard ω) :=
  (Dictionary.find? l.entries key).bind l.guard?

/-- Who holds the lock of a key. -/
def holder? (l : KeyedLock ω) (key : String) : Option ω := (l.entry? key).bind (·.holder)

/-- Whether the lock of a key is held. -/
def isLocked (l : KeyedLock ω) (key : String) : Bool := (l.holder? key).isSome

/-- A lock changed. -/
def change (l : KeyedLock ω) (serial : Nat) (f : Guard ω → Guard ω) : KeyedLock ω :=
  { l with guards := l.guards.map fun g => if g.serial = serial then f g else g }

/-- The locks with one for a key. -/
def withEntry (l : KeyedLock ω) (key : String) : KeyedLock ω × Nat :=
  match Dictionary.find? l.entries key with
  | some serial => (l, serial)
  | none => ({ l with
      guards := l.guards ++ [{ serial := l.next, key }]
      entries := Dictionary.put l.entries key l.next
      next := l.next + 1 }, l.next)

/-- Somebody comes for a key. -/
def enter (l : KeyedLock ω) (w : ω) (key : String) : KeyedLock ω :=
  let (l, serial) := l.withEntry key
  let count := (Dictionary.find? l.users key).getD 0
  { l.change serial (·.enter w) with users := Dictionary.put l.users key (count + 1) }

/-- One user of a key fewer; the last one takes the lock of the key away. -/
def forget (l : KeyedLock ω) (key : String) : KeyedLock ω :=
  let count := (Dictionary.find? l.users key).getD 0 - 1
  if count = 0 then
    { l with users := Dictionary.drop l.users key, entries := Dictionary.drop l.entries key }
  else { l with users := Dictionary.put l.users key count }

/-- The lock that somebody uses. -/
def used? (l : KeyedLock ω) (w : ω) : Option (Guard ω) := l.guards.find? (·.isUsedBy w)

/-- Locks that nobody uses any more are gone. -/
def sweep (l : KeyedLock ω) : KeyedLock ω := { l with guards := l.guards.filter (·.inUse) }

/-- Somebody goes who holds a lock or waits for one. -/
def leave (l : KeyedLock ω) (w : ω) : KeyedLock ω :=
  match l.used? w with
  | some g => ((l.change g.serial (·.leave w)).forget g.key).sweep
  | none => l

end KeyedLock

end Parley
