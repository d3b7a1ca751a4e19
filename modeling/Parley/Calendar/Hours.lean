import Parley.Calendar.ClockTime
import Parley.Table.Database

/-!
Opening hours of the days of the week, and holidays.

Times are kept as text (see `ClockTime.text`). A day that is a holiday may be closed, have hours of
its own, or be a day like any other.
-/

namespace Parley

open Number

/-- The opening hours of a day of the week; 0 is Sunday. -/
structure DayHours where
  weekday : Int
  opens : Option String
  closes : Option String
  isActive : Bool := true
  breakStart : Option String := none
  breakEnd : Option String := none
  deriving DecidableEq, Repr

/-- What a holiday does to the hours of its day. -/
inductive HolidayKind where
  | holiday
  | closed
  | specialHours
  /-- Anything else that was written there. -/
  | other (v : Json)
  deriving DecidableEq, Repr

/-- The day of a holiday, or what was written in place of one. -/
inductive HolidayDate where
  | on (date : Date)
  | unread (v : Json)
  deriving DecidableEq, Repr

/-- A holiday. -/
structure Holiday where
  date : HolidayDate
  kind : HolidayKind := .holiday
  name : Json := .null
  opens : Option String := none
  closes : Option String := none
  deriving DecidableEq, Repr

/-- The whole number in a cell. -/
def wholeOfCell : Json → Except Failure Int
  | .int n => .ok n
  | .bool b => .ok (if b then 1 else 0)
  | .float .nan => .error .undefinedWhole
  | .float (.infinity _) => .error .infiniteWhole
  | .float (.finite negative m e) =>
    let n : Nat := if 0 ≤ e then m * Nat.pow 2 e.toNat else m / Nat.pow 2 (-e).toNat
    .ok (if negative then -n else n)
  | .str s => wholeOfText s
  | v => .error (.notWhole v.kindName)

namespace DayHours

/-- The hours in a row; a day is active unless the row says otherwise. -/
def ofRow (row : Row) : Except Failure DayHours := do
  let weekday ← row.require "day_of_week"
  let weekday ← wholeOfCell weekday
  let opens ← row.require "start_time"
  let opens ← ClockTime.text opens
  let closes ← row.require "end_time"
  let closes ← ClockTime.text closes
  let isActive := ((Dictionary.find? row "is_active").getD (.bool true)).truthy
  let breakStart ← ClockTime.text (row.cell "break_start")
  let breakEnd ← ClockTime.text (row.cell "break_end")
  .ok { weekday, opens, closes, isActive, breakStart, breakEnd }

end DayHours

namespace HolidayKind

/-- The name of a kind. -/
def name : HolidayKind → Json
  | holiday => .str "HOLIDAY"
  | closed => .str "CLOSED"
  | specialHours => .str "SPECIAL_HOURS"
  | other v => v

/-- The kind of a name; without one it is a plain holiday. -/
def ofName (v : Json) : HolidayKind :=
  if v.truthy then ([holiday, closed, specialHours].find? (·.name.same v)).getD (other v)
  else holiday

/-- Whether the day is closed. -/
def closesDay : HolidayKind → Bool
  | holiday | closed => true
  | specialHours | other _ => false

end HolidayKind

namespace Holiday

/-- The holiday in a row; only the first ten characters of its date count. -/
def ofRow (row : Row) : Except Failure Holiday := do
  let date ← match ← row.require "date" with
    | .str s => (Date.read (Text.takeChars 10 s)).map HolidayDate.on
    | v => .ok (.unread v)
  let kind := HolidayKind.ofName (row.cell "type")
  let opens ← ClockTime.text (row.cell "start_time")
  let closes ← ClockTime.text (row.cell "end_time")
  .ok { date, kind, name := row.cell "name", opens, closes }

/-- Whether a holiday is on a day. -/
def isOn (h : Holiday) (date : Date) : Bool := h.date == .on date

end Holiday

end Parley
