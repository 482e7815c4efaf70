import PageBinding.Text.Basic

/-!
Points in time as log entries give them: date and time of day in universal time.
-/
namespace PageBinding.Log

/-- A date of the calendar that has leap years every four years, but only every four hundred at
the turns of centuries. -/
structure Date where
  year : Int
  month : Nat
  day : Nat
  deriving DecidableEq, Repr

/-- The date that is a number of days after the first of January 1970. Years are counted from
March on, so that the day that leap years add is the last. -/
def Date.ofDays (days : Int) : Date :=
  let days := days + 719468
  let era := days.fdiv 146097
  let inEra := (days - era * 146097).toNat
  let year := (inEra - inEra / 1460 + inEra / 36524 - inEra / 146096) / 365
  let inYear := inEra - (365 * year + year / 4 - year / 100)
  let shifted := (5 * inYear + 2) / 153
  let day := inYear - (153 * shifted + 2) / 5 + 1
  let month := if shifted < 10 then shifted + 3 else shifted - 9
  ⟨era * 400 + year + (if month ≤ 2 then 1 else 0), month, day⟩

def timeText (seconds : Int) : String :=
  let days := seconds.fdiv 86400
  let inDay := (seconds - days * 86400).toNat
  let date := Date.ofDays days
  let two := Text.padded 2
  Text.padded 4 date.year.toNat ++ "-" ++ two date.month ++ "-" ++ two date.day ++ "T"
    ++ two (inDay / 3600) ++ ":" ++ two (inDay / 60 % 60) ++ ":" ++ two (inDay % 60) ++ "Z"

end PageBinding.Log
