namespace Railroad

structure Date where
  year : Nat
  month : Nat
  day : Nat
  deriving DecidableEq, Repr

structure Time where
  hour : Nat
  minute : Nat
  second : Nat
  microsecond : Nat
  deriving DecidableEq, Repr

/-- A time on a date.  `offset` says by how many minutes its place is ahead of UTC, if that is
known. -/
structure Moment where
  date : Date
  time : Time
  offset : Option Int
  deriving DecidableEq, Repr

inductive CalendarFault where
  | year (n : Nat)
  | month
  | day
  | hour
  | minute
  | second
  | offset (minutes : Int)
  deriving DecidableEq, Repr

def isLeap (year : Nat) : Bool := year % 4 = 0 && (year % 100 ≠ 0 || year % 400 = 0)

def daysIn (year month : Nat) : Nat :=
  if month = 2 then if isLeap year then 29 else 28
  else if month ∈ [4, 6, 9, 11] then 30
  else 31

def Date.check (d : Date) : Except CalendarFault Date :=
  if d.year = 0 then .error (.year 0)
  else if d.month = 0 ∨ 12 < d.month then .error .month
  else if d.day = 0 ∨ daysIn d.year d.month < d.day then .error .day
  else .ok d

def Time.check (t : Time) : Except CalendarFault Time :=
  if 23 < t.hour then .error .hour
  else if 59 < t.minute then .error .minute
  else if 59 < t.second then .error .second
  else .ok t

def checkOffset (minutes : Int) : Except CalendarFault Int :=
  if minutes.natAbs < 24 * 60 then .ok minutes else .error (.offset minutes)

def Moment.check (m : Moment) : Except CalendarFault Moment := do
  let _ ← m.offset.mapM checkOffset
  let _ ← m.date.check
  let _ ← m.time.check
  return m

def paddedDigits (width n : Nat) : String :=
  let ds := Nat.toDigits 10 n
  String.ofList (List.replicate (width - ds.length) '0' ++ ds)

namespace Date

def text (d : Date) : String :=
  paddedDigits 4 d.year ++ "-" ++ paddedDigits 2 d.month ++ "-" ++ paddedDigits 2 d.day

def fields (d : Date) : List Nat := [d.year, d.month, d.day]

end Date

namespace Time

def text (t : Time) : String :=
  paddedDigits 2 t.hour ++ ":" ++ paddedDigits 2 t.minute ++ ":" ++ paddedDigits 2 t.second ++
    if t.microsecond = 0 then "" else "." ++ paddedDigits 6 t.microsecond

def fields (t : Time) : List Nat :=
  [t.hour, t.minute] ++
    if t.microsecond ≠ 0 then [t.second, t.microsecond]
    else if t.second ≠ 0 then [t.second]
    else []

end Time

def offsetText (minutes : Int) : String :=
  let n := minutes.natAbs
  (if minutes < 0 then "-" else "+") ++ paddedDigits 2 (n / 60) ++ ":" ++ paddedDigits 2 (n % 60)

def Moment.text (m : Moment) : String :=
  m.date.text ++ " " ++ m.time.text ++ ((m.offset.map offsetText).getD "")

/-- A span of minutes as whole days and the seconds behind them, which are never negative. -/
def spanText (minutes : Int) : String :=
  let days := minutes.fdiv (24 * 60)
  let seconds := minutes.fmod (24 * 60) * 60
  let parts := (if days = 0 then [] else ["days=" ++ toString days]) ++
    if seconds = 0 then [] else ["seconds=" ++ toString seconds]
  "datetime.timedelta(" ++ (if parts.isEmpty then "0" else ", ".intercalate parts) ++ ")"

def Date.shown (d : Date) : String :=
  "datetime.date(" ++ ", ".intercalate (d.fields.map toString) ++ ")"

def offsetShown (minutes : Int) : String :=
  if minutes = 0 then "datetime.timezone.utc" else "datetime.timezone(" ++ spanText minutes ++ ")"

def Moment.shown (m : Moment) : String :=
  let zone := m.offset.map fun n => "tzinfo=" ++ offsetShown n
  "datetime.datetime(" ++
    ", ".intercalate ((m.date.fields ++ m.time.fields).map toString ++ zone.toList) ++ ")"

def CalendarFault.message : CalendarFault → String
  | year n => "year " ++ toString n ++ " is out of range"
  | month => "month must be in 1..12"
  | day => "day is out of range for month"
  | hour => "hour must be in 0..23"
  | minute => "minute must be in 0..59"
  | second => "second must be in 0..59"
  | offset minutes =>
    "offset must be a timedelta strictly between -timedelta(hours=24) and timedelta(hours=24), not "
      ++ spanText minutes ++ "."

end Railroad
