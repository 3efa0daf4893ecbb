import ConfigEditor.Text.Quoted
set_option autoImplicit false

/-!
# Log: points in time

A point in time is a number of milliseconds since the first moment of 1970 in
universal time.  `Timestamp.text` writes it as date and time of the Gregorian calendar,
extended to all years, in universal time.  Years from 0 to 9999 have four digits; any
other has a sign and six.
-/

namespace ConfigEditor

/-- Year, month and day of the Gregorian calendar. -/
structure CivilDate where
  year : Int
  month : Nat
  day : Nat
  deriving DecidableEq, Repr, Inhabited

namespace CivilDate

/-- The date that lies a number of days after the first of January 1970.  Years are counted
from March, so that a leap day is the last day of its year; 400 such years have 146097 days. -/
def ofDays (days : Int) : CivilDate :=
  let shifted := days + 719468
  let era := shifted.fdiv 146097
  let dayOfEra := (shifted.fmod 146097).toNat
  let yearOfEra :=
    (dayOfEra - dayOfEra / 1460 + dayOfEra / 36524 - dayOfEra / 146096) / 365
  let dayOfYear := dayOfEra - (365 * yearOfEra + yearOfEra / 4 - yearOfEra / 100)
  let shiftedMonth := (5 * dayOfYear + 2) / 153
  let month := if shiftedMonth < 10 then shiftedMonth + 3 else shiftedMonth - 9
  { year := era * 400 + yearOfEra + if month ≤ 2 then 1 else 0
    month := month
    day := dayOfYear - (153 * shiftedMonth + 2) / 5 + 1 }

end CivilDate

namespace Timestamp

/-- Decimal digits with zeros in front up to a width. -/
def padded (width n : Nat) : Text :=
  let ds := Text.decimal n
  List.replicate (width - ds.length) '0' ++ ds

/-- A year. -/
def yearText (year : Int) : Text :=
  if 0 ≤ year ∧ year ≤ 9999 then padded 4 year.toNat
  else (if year < 0 then '-' else '+') :: padded 6 year.natAbs

/-- Milliseconds of a day. -/
def dayLength : Int := 86400000

/-- A point in time. -/
def text (milliseconds : Int) : Text :=
  let date := CivilDate.ofDays (milliseconds.fdiv dayLength)
  let ofDay := (milliseconds.fmod dayLength).toNat
  yearText date.year ++ '-' :: padded 2 date.month ++ '-' :: padded 2 date.day ++
    'T' :: padded 2 (ofDay / 3600000) ++ ':' :: padded 2 (ofDay / 60000 % 60) ++
    ':' :: padded 2 (ofDay / 1000 % 60) ++ '.' :: padded 3 (ofDay % 1000) ++ ['Z']

end Timestamp

end ConfigEditor
