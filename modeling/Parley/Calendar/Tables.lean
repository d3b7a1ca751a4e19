import Parley.Calendar.Opening

/-!
Calendars kept in a database.

Only the holidays from today to a week ahead are asked for. A company without hours of its own has
the default week.
-/

namespace Parley.Calendar

/-- The time zone whose clock a business goes by, unless another one is given. -/
def usualZone : String := "America/Sao_Paulo"

/-- The time zone that a business goes by; an empty name is none. -/
def zone (given : Option String) : String := (given.filter (· != "")).getD usualZone

/-- The weekly hours of a company. -/
def weekOf (tenant : String) : Program Database.Access (List DayHours) := do
  let rows ← Database.put (.select "business_hours" [.equal "company_id" (.str tenant)]
    (some "day_of_week"))
  if rows.isEmpty then pure defaultWeek else Program.ofExcept (rows.mapM DayHours.ofRow)

/-- The holidays of a company between two days, both included. -/
def holidaysOf (tenant : String) (first last : Date) : Program Database.Access (List Holiday) := do
  let rows ← Database.put (.select "holidays" [.equal "company_id" (.str tenant),
    .atLeast "date" first.text, .atMost "date" last.text])
  Program.ofExcept (rows.mapM Holiday.ofRow)

/-- The holidays of a company from a day to a week later. -/
def comingHolidays (tenant : String) (today : Date) : Program Database.Access (List Holiday) := do
  let last ← Program.ofExcept (today.plusDays lookahead)
  holidaysOf tenant today last

/-- The calendar of a company, as far as it matters on a day. -/
def load (tenant : String) (today : Date) : Program Database.Access Calendar := do
  let week ← weekOf tenant
  let holidays ← comingHolidays tenant today
  pure { week, holidays }

/-- Whether a company is open now. -/
def openNow (tenant : String) (now : Moment) : Program Database.Access Bool := do
  let calendar ← load tenant now.date
  Program.ofExcept (calendar.isOpenAt now)

/-- When a company opens next. -/
def opensNext (tenant : String) (now : Moment) : Program Database.Access (Option Moment) := do
  let calendar ← load tenant now.date
  Program.ofExcept (calendar.nextOpening now)

end Parley.Calendar
