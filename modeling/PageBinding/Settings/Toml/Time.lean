import PageBinding.Text.Basic
import PageBinding.Text.Quoted

/-!
Points in time, as settings have them: a date, a time of day and how far that is from universal
time.
-/
namespace PageBinding.Settings.Toml

structure Time where
  year : Nat
  month : Nat
  day : Nat
  hour : Nat
  minute : Nat
  second : Nat
  fraction : Nat
  offset : Int
  deriving DecidableEq, Repr, Inhabited

inductive TimeError
  | badYear (text : String)
  | outOfRange (text part : String)
  deriving DecidableEq, Repr

def TimeError.message : TimeError → String
  | badYear text =>
      "parsing time " ++ Text.shown text
        ++ " as \"2006-01-02T15:04:05.999999999Z07:00\": cannot parse " ++ Text.shown text ++ " as \"2006\""
  | outOfRange text part => "parsing time " ++ Text.shown text ++ ": " ++ part ++ " out of range"

/-- The number of days in a month. Every fourth year is a leap year, but only every fourth of those
at the turns of centuries. -/
def daysIn (year month : Nat) : Nat :=
  let isLeap := year % 4 = 0 && (year % 100 ≠ 0 || year % 400 = 0)
  if month = 2 then (if isLeap then 29 else 28)
  else if [4, 6, 9, 11].contains month then 30
  else 31

def Time.read (text : String) : Except TimeError Time := do
  let cs := text.toList
  let number (start width : Nat) (cs : List Char) : Nat :=
    Text.decimalValue ((cs.drop start).take width)
  let refuse (part : String) (bad : Bool) : Except TimeError Unit :=
    if bad then .error (.outOfRange text part) else .ok ()
  if !(cs.take 4).all Char.isDigit then throw (.badYear text)
  let rest := cs.drop 19
  let digits := if rest.head? = some '.' then (rest.drop 1).takeWhile Char.isDigit else []
  let zone := if digits.isEmpty then rest else rest.drop (digits.length + 1)
  let ahead := 60 * number 1 2 zone + number 4 2 zone
  let time : Time := {
    year := number 0 4 cs
    month := number 5 2 cs
    day := number 8 2 cs
    hour := number 11 2 cs
    minute := number 14 2 cs
    second := number 17 2 cs
    fraction := Text.decimalValue (digits ++ List.replicate (9 - digits.length) '0')
    offset := match zone.head? with
      | some '+' => ahead
      | some '-' => -ahead
      | _ => 0 }
  refuse "month" (time.month = 0 || 12 < time.month)
  refuse "hour" (24 ≤ time.hour)
  refuse "minute" (60 ≤ time.minute)
  refuse "second" (60 ≤ time.second)
  if zone.head? ≠ some 'Z' then
    refuse "time zone offset hour" (24 < number 1 2 zone)
    refuse "time zone offset minute" (60 < number 4 2 zone)
  refuse "day" (time.day = 0 || daysIn time.year time.month < time.day)
  return time

def Time.text (t : Time) : String :=
  let two := Text.padded 2
  let digits := ((Text.padded 9 t.fraction).toList.reverse.dropWhile (· = '0')).reverse
  let fraction := if digits.isEmpty then "" else "." ++ String.ofList digits
  let ahead := t.offset.natAbs
  let zone := (if t.offset < 0 then "-" else "+") ++ two (ahead / 60) ++ two (ahead % 60)
  Text.padded 4 t.year ++ "-" ++ two t.month ++ "-" ++ two t.day ++ " " ++ two t.hour ++ ":"
    ++ two t.minute ++ ":" ++ two t.second ++ fraction ++ " " ++ zone ++ " "
    ++ (if t.offset = 0 then "UTC" else zone)

def months : List String :=
  ["January", "February", "March", "April", "May", "June", "July", "August", "September", "October",
    "November", "December"]

def Time.parts (t : Time) : String :=
  let numbers := [t.day, t.hour, t.minute, t.second, t.fraction].map (toString ·)
  "time.Date(" ++ toString t.year ++ ", time." ++ (months[t.month - 1]?).getD "" ++ ", "
    ++ String.intercalate ", " numbers ++ ", "
    ++ (if t.offset = 0 then "time.UTC" else "time.Location(\"\")") ++ ")"

end PageBinding.Settings.Toml
