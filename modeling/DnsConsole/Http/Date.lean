import DnsConsole.Text.Numerals
import DnsConsole.Text.Pieces

/-!
# Dates

The time at which a file was last modified is written as a date of fixed form, `Sun, 06 Nov 1994 08:49:37
GMT`, and read in this form and two older ones.  A date counts only if it exists: its fields are in range,
the month has that day, and the day of the week is right.  Inside, a time is the number of seconds since
the beginning of 1970.
-/

namespace DnsConsole.Http

/-- A date of the calendar. -/
structure Day where
  year : Nat
  month : Nat
  day : Nat
  deriving DecidableEq, Repr

namespace Day

/-- The date that lies some days behind 1 January 1970.  Years are counted from March, so that the leap day
is the last of its year, and in eras of 400 years, which have the same number of days. -/
def ofDays (days : Nat) : Day :=
  let z := days + 719468
  let dayOfEra := z % 146097
  let yearOfEra := (dayOfEra - dayOfEra / 1460 + dayOfEra / 36524 - dayOfEra / 146096) / 365
  let dayOfYear := dayOfEra - (365 * yearOfEra + yearOfEra / 4 - yearOfEra / 100)
  let month := (5 * dayOfYear + 2) / 153
  { year := yearOfEra + z / 146097 * 400 + (if month < 10 then 0 else 1)
    month := if month < 10 then month + 3 else month - 9
    day := dayOfYear - (153 * month + 2) / 5 + 1 }

/-- How many days a date of 1970 or later lies behind 1 January 1970. -/
def toDays (d : Day) : Nat :=
  let year := if d.month ≤ 2 then d.year - 1 else d.year
  let month := if d.month ≤ 2 then d.month + 9 else d.month - 3
  let yearOfEra := year % 400
  let dayOfYear := (153 * month + 2) / 5 + d.day - 1
  year / 400 * 146097 + yearOfEra * 365 + yearOfEra / 4 - yearOfEra / 100 + dayOfYear - 719468

end Day

namespace Date

/-- The names of the days, Monday first. -/
def dayNames : List String :=
  ["Monday", "Tuesday", "Wednesday", "Thursday", "Friday", "Saturday", "Sunday"]

/-- The names of the months. -/
def monthNames : List String :=
  ["Jan", "Feb", "Mar", "Apr", "May", "Jun", "Jul", "Aug", "Sep", "Oct", "Nov", "Dec"]

/-- The day of the week some days behind 1 January 1970, a Thursday; Monday is 0. -/
def dayOfWeek (days : Nat) : Nat :=
  (days + 3) % 7

/-- The first three letters of the name of a day. -/
def shortDayName (day : Nat) : List Char :=
  (dayNames.getD day "").toList.take 3

/-- A time in the fixed form. -/
def text (time : Nat) : String :=
  let days := time / 86400
  let d := Day.ofDays days
  let two := Text.Decimal.padded 2
  String.ofList
    (shortDayName (dayOfWeek days) ++ [',', ' '] ++ two d.day ++ [' '] ++
      (monthNames.getD (d.month - 1) "").toList ++ [' '] ++ Text.Decimal.padded 4 d.year ++ [' '] ++
      two (time / 3600 % 24) ++ [':'] ++ two (time / 60 % 60) ++ [':'] ++ two (time % 60) ++
      " GMT".toList)

/-! ### Reading -/

/-- What a date says, before it is checked. -/
structure Fields where
  weekday : Nat
  day : Day
  hour : Nat
  minute : Nat
  second : Nat
  deriving DecidableEq, Repr

/-- The time that the fields name, if there is one. -/
def Fields.time? (f : Fields) : Option Nat :=
  let days := f.day.toDays
  if f.second < 60 ∧ f.minute < 60 ∧ f.hour < 24 ∧ 1970 ≤ f.day.year ∧ f.day.year ≤ 9999 ∧
      Day.ofDays days = f.day ∧ dayOfWeek days = f.weekday then
    some (days * 86400 + f.hour * 3600 + f.minute * 60 + f.second)
  else none

/-- The number in `len` digits that start at a place of a text. -/
def digitsAt? (cs : List Char) (start len : Nat) : Option Nat :=
  Text.Decimal.read? ((cs.drop start).take len)

/-- Whether a text stands at a place of another one. -/
def isAt (cs : List Char) (start : Nat) (s : String) : Bool :=
  s.toList.isPrefixOf (cs.drop start)

/-- The month whose name stands at a place of a text between two characters. -/
def monthAt? (cs : List Char) (start : Nat) (front behind : String) : Option Nat :=
  (monthNames.findIdx? fun name => isAt cs start (front ++ name ++ behind)).map (· + 1)

/-- The time of day that stands at a place of a text. -/
def clockAt? (cs : List Char) (start : Nat) : Option (Nat × Nat × Nat) := do
  if isAt cs (start + 2) ":" && isAt cs (start + 5) ":" then
    return (← digitsAt? cs start 2, ← digitsAt? cs (start + 3) 2, ← digitsAt? cs (start + 6) 2)
  else none

/-- The fields of `Sun, 06 Nov 1994 08:49:37 GMT`. -/
def fixedFields? (cs : List Char) : Option Fields := do
  if cs.length = 29 && isAt cs 25 " GMT" && isAt cs 16 " " && isAt cs 3 ", " then
    let weekday ← dayNames.findIdx? fun name => name.toList.take 3 == cs.take 3
    let (hour, minute, second) ← clockAt? cs 17
    return ⟨weekday, ⟨← digitsAt? cs 12 4, ← monthAt? cs 7 " " " ", ← digitsAt? cs 5 2⟩, hour,
      minute, second⟩
  else none

/-- The fields of `06-Nov-94 08:49:37 GMT` behind the name of a day; a year below 70 is of this
century, and what stands between date and time does not matter. -/
def fieldsBehindName? (weekday : Nat) (cs : List Char) : Option Fields := do
  if cs.length = 22 && isAt cs 18 " GMT" then
    let year ← digitsAt? cs 7 2
    let (hour, minute, second) ← clockAt? cs 10
    return ⟨weekday, ⟨if year < 70 then 2000 + year else 1900 + year, ← monthAt? cs 2 "-" "-",
      ← digitsAt? cs 0 2⟩, hour, minute, second⟩
  else none

/-- The fields of `Sunday, 06-Nov-94 08:49:37 GMT`. -/
def namedFields? (cs : List Char) : Option Fields := do
  let (name, r) := (cs.takeWhile (· ≠ ','), cs.dropWhile (· ≠ ','))
  let weekday ← dayNames.findIdx? fun day => day.toList == name
  if isAt r 0 ", " then fieldsBehindName? weekday (r.drop 2) else none

/-- The fields of `Sun Nov  6 08:49:37 1994`. -/
def unzonedFields? (cs : List Char) : Option Fields := do
  if cs.length = 24 && isAt cs 3 " " && isAt cs 10 " " && isAt cs 19 " " then
    let weekday ← dayNames.findIdx? fun name => name.toList.take 3 == cs.take 3
    let day ← if isAt cs 8 " " then digitsAt? cs 9 1 else digitsAt? cs 8 2
    let (hour, minute, second) ← clockAt? cs 11
    return ⟨weekday, ⟨← digitsAt? cs 20 4, ← monthAt? cs 4 "" " ", day⟩, hour, minute, second⟩
  else none

/-- A text without the spaces and tabs at its ends. -/
def trimSpace (cs : List Char) : List Char :=
  ((cs.dropWhile Text.isSpaceOrTab).reverse.dropWhile Text.isSpaceOrTab).reverse

/-- The time that a date in one of the three forms names. -/
def read? (s : String) : Option Nat := do
  let cs := trimSpace s.toList
  let fields ← fixedFields? cs <|> namedFields? cs <|> unzonedFields? cs
  fields.time?

end Date

end DnsConsole.Http
