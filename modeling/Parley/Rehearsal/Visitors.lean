import Parley.Lock.Basic

/-!
Visitors who come for a key, stay until they are let go, and note when they get in and out.
-/

namespace Parley.Rehearsal

/-- What is done with a visitor. -/
inductive Errand where
  /-- Comes for a key; a failure on the way out changes nothing. -/
  | enter (visitor key : String) (failure : Option String)
  /-- May go, now or as soon as it gets in. -/
  | exit (visitor : String)
  /-- Is sent away, from inside or from the line. -/
  | cancel (visitor : String)

/-- Visitors and the locks they use. -/
structure Visitors where
  locks : KeyedLock String := {}
  /-- Who may go. -/
  released : List String := []
  /-- The keys that somebody came for. -/
  keys : List String := []
  /-- What was noted. -/
  notes : List String := []

namespace Visitors

/-- Notes that a visitor is in or out. -/
def note (v : Visitors) (visitor what : String) : Visitors :=
  { v with notes := v.notes ++ [visitor ++ ":" ++ what] }

/-- Lets out whoever holds a key and may go, and those behind. -/
def pass (key : String) : (fuel : Nat) → Visitors → Visitors
  | 0, v => v
  | fuel + 1, v =>
    match v.locks.holder? key with
    | none => v
    | some visitor =>
      if v.released.contains visitor then
        let v := v.note visitor "out"
        let v := { v with
          locks := v.locks.leave visitor, released := v.released.filter (· != visitor) }
        match v.locks.holder? key with
        | none => v
        | some next => pass key fuel (v.note next "in")
      else v

/-- Lets those out who may go. -/
def settle (v : Visitors) (key : String) : Visitors :=
  pass key ((v.locks.entry? key).elim 0 fun g => g.waiting.length + 1) v

/-- The key that a visitor uses. -/
def keyOf? (v : Visitors) (visitor : String) : Option String := (v.locks.used? visitor).map (·.key)

/-- Does an errand. -/
def perform : Errand → Visitors → Visitors
  | .enter visitor key _, v =>
    let v := { v with
      locks := v.locks.enter visitor key
      keys := if v.keys.contains key then v.keys else v.keys ++ [key] }
    if v.locks.holder? key = some visitor then (v.note visitor "in").settle key else v
  | .exit visitor, v =>
    match v.keyOf? visitor with
    | none => v
    | some key => { v with released := visitor :: v.released }.settle key
  | .cancel visitor, v =>
    match v.keyOf? visitor with
    | none => v
    | some key =>
      let before := v.locks.holder? key
      let v := { v with
        locks := v.locks.leave visitor, released := v.released.filter (· != visitor) }
      match v.locks.holder? key with
      | none => v
      | some next => if before = some next then v else (v.note next "in").settle key

/-- What an errand comes to: what was noted, how many keys have a lock, and which are locked. -/
structure Report where
  notes : List String
  size : Nat
  locked : List (String × Bool)

/-- Does one errand after the other. -/
def run : List Errand → Visitors → List Report
  | [], _ => []
  | errand :: rest, v =>
    let v := perform errand { v with notes := [] }
    { notes := v.notes, size := v.locks.size
      locked := v.keys.map fun k => (k, v.locks.isLocked k) }
      :: run rest v

end Visitors

end Parley.Rehearsal
