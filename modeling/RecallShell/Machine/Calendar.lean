import RecallShell.Machine.Escapes

/-!
# Dates

A moment is a number of microseconds since the beginning of 1970. Its date and time are those of the
zero meridian.
-/

namespace RecallShell.Machine

/-- A date. -/
structure Date where
  /-- The year. -/
  year : Nat
  /-- The month, from one. -/
  month : Nat
  /-- The day of the month, from one. -/
  day : Nat
  deriving DecidableEq, Repr, Inhabited

/-- The number of microseconds in a day. -/
def dayLength : Nat := 86400 * 1000000

/-- The days from the beginning of a year that began in March to 1970. -/
def epochDays : Nat := 719468

namespace Date

/-- The number of days from the beginning of 1970 to a date. -/
def number (d : Date) : Nat :=
  let year := if d.month ≤ 2 then d.year - 1 else d.year
  let dayOfYear := (153 * ((d.month + 9) % 12) + 2) / 5 + d.day - 1
  year * 365 + year / 4 - year / 100 + year / 400 + dayOfYear - epochDays

/-- The date so many days behind the beginning of 1970. -/
def ofNumber (n : Nat) : Date :=
  let (era, day) := ((n + epochDays) / 146097, (n + epochDays) % 146097)
  let year := (day - day / 1460 + day / 36524 - day / 146096) / 365
  let day := day - (365 * year + year / 4 - year / 100)
  let month := (5 * day + 2) / 153
  ⟨year + era * 400 + if month < 10 then 0 else 1, if month < 10 then month + 3 else month - 9,
    day - (153 * month + 2) / 5 + 1⟩

/-- The date that digits with dashes between them write. -/
def read? (text : String) : Option Date :=
  match (text.splitToList (· == '-')).map String.toNat? with
  | [some year, some month, some day] =>
    if 1970 ≤ year && 1 ≤ month && month ≤ 12 && 1 ≤ day && day ≤ 31 then some ⟨year, month, day⟩
    else none
  | _ => none

/-- The short names of the months. -/
def months : List String :=
  ["Jan", "Feb", "Mar", "Apr", "May", "Jun", "Jul", "Aug", "Sep", "Oct", "Nov", "Dec"]

end Date

/-- A moment with its date, and with its time if it is not half a year before the present one. -/
def shownMoment (now moment : Nat) : String :=
  let d := Date.ofNumber (moment / dayLength)
  let minutes := moment % dayLength / 60000000
  let padded (fill : Char) (width n : Nat) : String :=
    String.ofList (List.replicate (width - (toString n).length) fill) ++ toString n
  let time := if moment ≤ now && now < moment + 182 * dayLength then
      padded '0' 2 (minutes / 60) ++ ":" ++ padded '0' 2 (minutes % 60)
    else s!" {d.year}"
  " ".intercalate [Date.months.getD (d.month - 1) "", padded ' ' 2 d.day, time]

end RecallShell.Machine
