import Parley.Calendar.Tables
import Parley.Proofs.Calendar.Timetable
import Parley.Proofs.Program.Runs
import Parley.Proofs.Store.Agreement

/-!
# The holidays that are asked for

Only the holidays from today to a week ahead are asked for, by the texts of their dates, and a text
may go on behind its date. A text that begins with a date is neither before the text of an earlier
day nor behind that of a later one (`Date.text_lt_append`), so the holidays of all days that matter
are among those that come back, and the first one on a day stays the first.
-/

namespace Parley

open Calendar Store Text

/-! ## Dates as they are written -/

/-- A text of ASCII characters has as many bytes as characters. -/
theorem utf8ByteSize_of_ascii (s : String) (h : ∀ c ∈ s.toList, c.toNat < 128) :
    s.utf8ByteSize = s.toList.length := by
  obtain ⟨cs, rfl⟩ : ∃ cs, s = String.ofList cs := ⟨s.toList, String.ofList_toList.symm⟩
  rw [String.toList_ofList] at h ⊢
  induction cs with
  | nil => rfl
  | cons c cs ih =>
    obtain ⟨hc, hcs⟩ := List.forall_mem_cons.1 h
    have hone : c.utf8Size = 1 := Char.utf8Size_eq_one_iff.2 (by
      rw [UInt32.le_iff_toNat_le]
      exact Nat.le_of_lt_succ hc)
    rw [String.ofList_cons, String.utf8ByteSize_append, String.utf8ByteSize_singleton, hone,
      ih hcs, List.length_cons, Nat.add_comm]

namespace Date

variable {a b : Date}

theorem text_toList (d : Date) : d.text.toList =
    places 4 d.year ++ '-' :: (places 2 d.month ++ '-' :: places 2 d.day) := by
  simp [text, places, String.toList_append]

theorem length_text (d : Date) : d.text.toList.length = 10 := by
  obtain ⟨hyear, hmonth, hday⟩ := d.bounds
  rw [text_toList]
  simp [length_places (by decide : 0 < 4) hyear, length_places (by decide : 0 < 2) hmonth,
    length_places (by decide : 0 < 2) hday]

theorem toNat_lt_of_mem_text (d : Date) : ∀ c ∈ d.text.toList, c.toNat < 128 := by
  have hdigit : ∀ width n, ∀ c ∈ places width n, c.toNat < 128 := by
    intro width n c hc
    have hascii : 48 ≤ c.toNat ∧ c.toNat ≤ 57 := by
      simpa [isAsciiDigit, Char.le_def, UInt32.le_iff_toNat_le] using
        List.all_eq_true.1 (all_places width n) c hc
    omega
  intro c hc
  rw [text_toList] at hc
  simp only [List.mem_append, List.mem_cons] at hc
  obtain hc | rfl | hc | rfl | hc := hc
  · exact hdigit _ _ c hc
  · decide
  · exact hdigit _ _ c hc
  · decide
  · exact hdigit _ _ c hc

/-- A row of digits does not begin with the sign of a week. -/
theorem places_append_ne {width n : Nat} (hwidth : 0 < width) (h : n < 10 ^ width)
    (rest cs : List Char) : places width n ++ rest ≠ 'W' :: cs := by
  intro hweek
  obtain ⟨c, ds, hplaces⟩ := List.exists_cons_of_length_pos
    ((length_places hwidth h).symm ▸ hwidth : 0 < (places width n).length)
  have hc := List.all_eq_true.1 (all_places width n) c (hplaces ▸ List.mem_cons_self)
  rw [hplaces] at hweek
  rw [(List.cons.inj hweek).1] at hc
  exact absurd hc (by decide)

/-- A date is read back as it was written. -/
theorem read_text (d : Date) : read d.text = .ok d := by
  obtain ⟨hyear, hmonth, hday⟩ := d.bounds
  have hsize : d.text.utf8ByteSize = 10 := by
    rw [utf8ByteSize_of_ascii _ d.toNat_lt_of_mem_text, length_text]
  have hreads := And.intro (takeDigits?_places (by decide) hyear)
    (And.intro (takeDigits?_places (by decide) hmonth) (takeDigits?_places (by decide) hday))
  have hlastRead := hreads.2.2 []
  rw [List.append_nil] at hlastRead
  have hexists : Date.of d.year d.month d.day = .ok d := dif_pos d.exists_
  -- What stands behind the first hyphen is a digit, so no week is read.
  have hweek := places_append_ne (by decide) hmonth
  unfold read
  rw [hsize, if_pos (by decide), text_toList]
  unfold parts?
  simp [hreads, hlastRead, skipHyphen?, hexists, hweek]

end Date

namespace Calendar

/-! ## Calendars that agree on a day -/

variable {c c' : Calendar} {now : Moment} {date : Date}

/-- The rows of a company in a table. -/
def rowsOf (db : Database) (table tenant : String) : List Row :=
  (db.rows table).filter (Database.passes [.equal "company_id" (.str tenant)])

/-- The hours of a company in the order of their days. -/
def weekRows (db : Database) (tenant : String) : List Row :=
  (rowsOf db "business_hours" tenant).mergeSort fun a b =>
    (a.cell "day_of_week").precedes (b.cell "day_of_week")

/-- The week in rows of hours; without any it is the default one. -/
def readWeek (rows : List Row) : Except Failure (List DayHours) :=
  if rows.isEmpty then .ok defaultWeek else rows.mapM DayHours.ofRow

/-- A calendar has all of a company's hours and holidays. -/
structure IsWhole (c : Calendar) (db : Database) (tenant : String) : Prop where
  week : readWeek (weekRows db tenant) = .ok c.week
  holidays : (rowsOf db "holidays" tenant).mapM Holiday.ofRow = .ok c.holidays

variable {db : Database} {tenant : String} {row : Row} {first last : Date}

section

variable {α β : Type} {p : Program Database.Access α} {f : α → Program Database.Access β}
  {later : Database}

theorem run_bind_of_ok {a : α} (h : Database.run p db = (.ok a, later)) :
    Database.run (p >>= f) db = Database.run (f a) later := Program.run_bind_of_ok h

theorem run_bind_of_error {e : Failure} (h : Database.run p db = (.error e, later)) :
    Database.run (p >>= f) db = (.error e, later) := Program.run_bind_of_error h

end

end Calendar

end Parley
