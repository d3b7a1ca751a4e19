import Parley.Calendar.ClockTime
import Parley.Proofs.Calendar.Counted
import Parley.Proofs.Text.Words

/-!
# Times of day as they are kept

The minutes of a day are written as hours and minutes of two digits each (`ClockTime.minuteText`).
So their texts stand in the order of the minutes (`minuteText_le_iff`), a clock shows the text of its
minute (`hourMinute_eq`), and it can be set to each of them (`set_minuteText`).
-/

namespace Parley

open Text Number

/-! ## Whole numbers in digits alone -/

namespace Number

variable {cs : List Char}

theorem groupedDigits?_of_digits (h : ∀ c ∈ cs, isAsciiDigit c = true) (acc : Nat) {after : Bool}
    (hne : after = true ∨ cs ≠ []) : groupedDigits? acc after cs =
      some (cs.foldl (fun n c => 10 * n + digitValue c) acc) := by
  induction cs generalizing acc after with
  | nil =>
    obtain rfl | hne := hne
    · rfl
    · exact absurd rfl hne
  | cons c cs ih =>
    obtain ⟨hc, hcs⟩ := List.forall_mem_cons.1 h
    have hvalue : digitValue? c = some (digitValue c) := by
      rw [(digitValue?_of_isAsciiDigit hc).2, (digitValue_of_isAsciiDigit hc).2]
    rw [groupedDigits?, hvalue, List.foldl_cons]
    exact ih hcs _ (.inl rfl)

/-- A row of ASCII digits is read as its value, unless it is too long. -/
theorem readWhole_of_digits (h : ∀ c ∈ cs, isAsciiDigit c = true) (hne : cs ≠ []) :
    readWhole (String.ofList cs) = if maxWholeDigits < cs.length then
      .error (.tooManyDigits cs.length) else .ok (digitsValue cs : Nat) := by
  have hstrip : stripChars cs = cs := by
    have hblank := strip_of_isUnbroken (s := String.ofList cs) fun c hc => by
      rw [String.toList_ofList] at hc
      exact not_isBlank_of_isDigit (isDigit_of_isAsciiDigit (h c hc))
    simpa [strip] using congrArg String.toList hblank
  have hfilter : cs.filter isDigit = cs :=
    List.filter_eq_self.2 fun c hc => isDigit_of_isAsciiDigit (h c hc)
  have hread : groupedDigits? 0 false cs = some _ := groupedDigits?_of_digits h 0 (.inr hne)
  obtain ⟨c, rest, rfl⟩ := List.exists_cons_of_ne_nil hne
  have hc := h c List.mem_cons_self
  have hminus : c ≠ '-' := by
    rintro rfl
    exact absurd hc (by decide)
  have hplus : c ≠ '+' := by
    rintro rfl
    exact absurd hc (by decide)
  unfold readWhole
  rw [String.toList_ofList, hstrip]
  split
  rename_i negative cs heq
  split at heq
  · rename_i hcons
    exact absurd (List.cons.inj hcons).1 hminus
  · rename_i hcons
    exact absurd (List.cons.inj hcons).1 hplus
  · cases heq
    rw [hread]
    dsimp only
    rw [hfilter]
    rfl

end Number

/-! ## Minutes of the day -/

namespace ClockTime

/-- How many minutes a day has. -/
def minutesPerDay : Nat := 1440

/-- A minute of the day as it is kept. -/
def minuteText (m : Nat) : String := Date.padded 2 (m / 60) ++ ":" ++ Date.padded 2 (m % 60)

example : minuteText 485 = "08:05" := by decide

variable {a b m : Nat}

theorem minuteText_clock {hour minute : Nat} (h : minute < 60) :
    minuteText (hour * 60 + minute) = Date.padded 2 hour ++ ":" ++ Date.padded 2 minute := by
  have hhour : (hour * 60 + minute) / 60 = hour := by omega
  have hminute : (hour * 60 + minute) % 60 = minute := by omega
  rw [minuteText, hhour, hminute]

theorem minuteText_toList (m : Nat) :
    (minuteText m).toList = Date.places 2 (m / 60) ++ ':' :: Date.places 2 (m % 60) := by
  simp [minuteText, Date.places, String.toList_append]

theorem minuteText_ne_empty (m : Nat) : minuteText m ≠ "" := by
  intro hempty
  have hlist := congrArg String.toList hempty
  rw [minuteText_toList] at hlist
  simp at hlist

theorem minuteText_lt (hb : b < minutesPerDay) (h : a < b) : minuteText a < minuteText b := by
  unfold minutesPerDay at hb
  have hhours : b / 60 < 10 ^ 2 := by omega
  rw [String.lt_iff, minuteText_toList, minuteText_toList]
  refine Date.places_mark_lt (by decide) hhours ':' ?_
  by_cases hhour : a / 60 < b / 60
  · exact .inl hhour
  · have hminute := Date.places_append_lt (n := a % 60) (m := b % 60) (s := []) (t := [])
      (by decide : 0 < 2) (by omega) (.inl (by omega))
    simp only [List.append_nil] at hminute
    exact .inr ⟨by omega, hminute⟩

/-- The texts of minutes stand in the order of the minutes. -/
theorem minuteText_le_iff (ha : a < minutesPerDay) (hb : b < minutesPerDay) :
    minuteText a ≤ minuteText b ↔ a ≤ b := by
  rcases Nat.lt_trichotomy a b with hlt | rfl | hgt
  · exact iff_of_true (String.not_lt.1 (String.lt_asymm (minuteText_lt hb hlt))) (Nat.le_of_lt hlt)
  · exact iff_of_true (String.le_refl _) (Nat.le_refl _)
  · exact iff_of_false (String.not_le.2 (minuteText_lt ha hgt)) (Nat.not_le.2 hgt)

theorem eq_of_minuteText_eq (ha : a < minutesPerDay) (hb : b < minutesPerDay)
    (h : minuteText a = minuteText b) : a = b := by
  have hle : minuteText a ≤ minuteText b := h ▸ String.le_refl _
  have hge : minuteText b ≤ minuteText a := h ▸ String.le_refl _
  exact Nat.le_antisymm ((minuteText_le_iff ha hb).1 hle) ((minuteText_le_iff hb ha).1 hge)

/-! ## Setting a clock -/

/-- A row of ASCII digits that is not too long is the text of its value. -/
theorem wholeOfText_digits {cs : List Char} (h : ∀ c ∈ cs, isAsciiDigit c = true) (hne : cs ≠ [])
    (hlength : cs.length ≤ maxWholeDigits) :
    wholeOfText (String.ofList cs) = .ok (digitsValue cs : Nat) := by
  rw [wholeOfText, readWhole_of_digits h hne, if_neg (Nat.not_lt.2 hlength)]
  rfl

theorem wholeOfText_of_long {cs : List Char} (h : ∀ c ∈ cs, isAsciiDigit c = true)
    (hlength : maxWholeDigits < cs.length) :
    wholeOfText (String.ofList cs) = .error (.tooManyDigits cs.length) := by
  have hne : cs ≠ [] := List.ne_nil_of_length_pos (Nat.lt_of_le_of_lt (Nat.zero_le _) hlength)
  rw [wholeOfText, readWhole_of_digits h hne, if_pos hlength]
  rfl

theorem wholeOfText_places {n : Nat} (h : n < 100) :
    wholeOfText (String.ofList (Date.places 2 n)) = .ok (n : Int) := by
  have hlength : (Date.places 2 n).length = 2 := Date.length_places (by decide) h
  rw [wholeOfText_digits (List.all_eq_true.1 (Date.all_places 2 n))
    (List.ne_nil_of_length_pos (by omega)) (by rw [hlength]; decide), Date.digitsValue_places]

theorem splitAtChar_minuteText (m : Nat) : splitAtChar ':' (minuteText m).toList =
    [Date.places 2 (m / 60), Date.places 2 (m % 60)] := by
  have hcolon : ∀ n, ∀ d ∈ Date.places 2 n, d ≠ ':' := by
    rintro n d hd rfl
    exact absurd (List.all_eq_true.1 (Date.all_places 2 n) _ hd) (by decide)
  have hminute : splitAtChar ':' (Date.places 2 (m % 60)) = [Date.places 2 (m % 60)] := by
    have hend := splitAtChar_append (hcolon (m % 60)) (show splitAtChar ':' [] = [[]] from rfl)
    rwa [List.append_nil] at hend
  have hhour : splitAtChar ':' (':' :: Date.places 2 (m % 60)) = [[], Date.places 2 (m % 60)] := by
    rw [splitAtChar, if_pos rfl, hminute]
  rw [minuteText_toList, splitAtChar_append (hcolon (m / 60)) hhour, List.append_nil]

/-- A time that is told is kept as the text of its minute. -/
theorem text_of_parts {v : Json} {hour minute : Nat} (hminute : minute < 60)
    (hparts : parts v.text = .ok (hour, minute)) :
    text v = .ok (some (minuteText (hour * 60 + minute))) := by
  have hnone : parts Json.null.text = .error .missingMinutes ∧
      parts (Json.str "").text = .error .missingMinutes := by decide
  have htime : text v = (parts v.text).map fun time =>
      some (twoPlaces time.1 ++ ":" ++ twoPlaces time.2) := by
    unfold text
    split
    · rw [hnone.1] at hparts
      cases hparts
    · rw [hnone.2] at hparts
      cases hparts
    · rfl
  rw [htime, hparts, minuteText_clock hminute]
  show Except.ok (some (twoPlaces hour ++ ":" ++ twoPlaces minute)) = _
  rw [twoPlaces, twoPlaces, if_neg (by omega), if_neg (by omega)]
  rfl

theorem parts_minuteText (h : m < minutesPerDay) :
    parts (minuteText m) = .ok ((m / 60 : Nat), (m % 60 : Nat)) := by
  unfold minutesPerDay at h
  have hhour := wholeOfText_places (n := m / 60) (by omega)
  have hminute := wholeOfText_places (n := m % 60) (by omega)
  unfold parts
  rw [splitAtChar_minuteText]
  dsimp only
  rw [hhour, hminute]
  rfl

theorem word_of_lt {n : Nat} (h : n < 60) : word (n : Int) = .ok n := by
  have hpow : Nat.pow 2 63 = 9223372036854775808 ∧ Nat.pow 2 31 = 2147483648 := by decide
  unfold word
  dsimp only
  rw [hpow.1, hpow.2, if_neg (by omega), if_neg (by omega), if_neg (by omega)]

end ClockTime

namespace TimeOfDay

/-- A clock shows the text of its minute. -/
theorem hourMinute_eq (t : TimeOfDay) :
    t.hourMinute = ClockTime.minuteText (t.hour * 60 + t.minute) :=
  (ClockTime.minuteText_clock t.fits.2.1).symm

/-- The time of day at the beginning of a minute. -/
def ofMinute (m : Nat) : TimeOfDay := ofMicros (m * 60000000)

variable {m : Nat}

theorem ofMinute_parts (h : m < ClockTime.minutesPerDay) : (ofMinute m).hour = m / 60 ∧
    (ofMinute m).minute = m % 60 ∧ (ofMinute m).second = 0 ∧ (ofMinute m).micro = 0 := by
  unfold ClockTime.minutesPerDay at h
  unfold ofMinute ofMicros
  dsimp only
  omega

theorem hourMinute_ofMinute (h : m < ClockTime.minutesPerDay) :
    (ofMinute m).hourMinute = ClockTime.minuteText m := by
  obtain ⟨hhour, hminute, -⟩ := ofMinute_parts h
  rw [hourMinute_eq, hhour, hminute, Nat.div_add_mod']

end TimeOfDay

namespace ClockTime

/-- A clock can be set to every minute of the day. -/
theorem set_minuteText {m : Nat} (h : m < minutesPerDay) (day : Moment) :
    set day (minuteText m) = .ok { day with time := .ofMinute m } := by
  obtain ⟨hhour, hminute, hsecond, hmicro⟩ := TimeOfDay.ofMinute_parts h
  unfold minutesPerDay at h
  have hin : (0 : Int) ≤ (m / 60 : Nat) ∧ ((m / 60 : Nat) : Int) < 24 := by omega
  have hin' : (0 : Int) ≤ (m % 60 : Nat) ∧ ((m % 60 : Nat) : Int) < 60 := by omega
  unfold set
  rw [parts_minuteText h]
  show (word (m / 60 : Nat) >>= fun hour => word (m % 60 : Nat) >>= fun minute => _) = _
  rw [word_of_lt (by omega), word_of_lt (by omega)]
  show dite _ _ _ = _
  rw [dif_pos hin, dif_pos hin']
  refine congrArg Except.ok (Moment.ext rfl (TimeOfDay.ext ?_ ?_ ?_ ?_) rfl)
  · exact hhour.symm
  · exact hminute.symm
  · exact hsecond.symm
  · exact hmicro.symm

end ClockTime

end Parley
