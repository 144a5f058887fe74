/-!
Dates and times of day as they are written in data: a date in the proleptic Gregorian calendar, and
a moment that adds a time of day and, possibly, the distance of its clock from universal time.

Main statement: a date is accepted exactly when the calendar has it (`Date.of?_isOk_iff`).
-/

namespace FeatureChoice.Calendar

/-- A day. -/
structure Date where
  year : Nat
  month : Nat
  day : Nat
  deriving DecidableEq, Repr

/-- A time of day on a date; the offset from universal time is in seconds. -/
structure Moment where
  date : Date
  hour : Nat
  minute : Nat
  second : Nat
  microsecond : Nat
  offset : Option Int
  deriving DecidableEq, Repr

/-- Why there is no such date or moment. -/
inductive Error where
  | year (year : Nat)
  | month
  | day
  | hour
  | minute
  | second
  | offset (seconds : Int)
  deriving DecidableEq, Repr

def isLeap (year : Nat) : Bool := year % 4 = 0 && (year % 100 ≠ 0 || year % 400 = 0)

def daysIn (year month : Nat) : Nat :=
  if month = 2 then if isLeap year then 29 else 28
  else if month = 4 || month = 6 || month = 9 || month = 11 then 30
  else 31

def Date.of? (year month day : Nat) : Except Error Date :=
  if year < 1 || 9999 < year then .error (.year year)
  else if month < 1 || 12 < month then .error .month
  else if day < 1 || daysIn year month < day then .error .day
  else .ok ⟨year, month, day⟩

/-- There is a date exactly for the years from 1 to 9999, their months and the days of these. -/
theorem Date.of?_isOk_iff (year month day : Nat) :
    Date.of? year month day = .ok ⟨year, month, day⟩ ↔
      (1 ≤ year ∧ year ≤ 9999) ∧ (1 ≤ month ∧ month ≤ 12) ∧
        (1 ≤ day ∧ day ≤ daysIn year month) := by
  unfold Date.of?
  split <;> (try split) <;> (try split) <;> simp_all <;> omega

/-- The greatest distance of a clock from universal time, in seconds; it is never reached. -/
def offsetLimit : Int := 86400

/-- The moment of its parts. The offset is judged first, then the date, then the time of day. -/
def Moment.of? (year month day hour minute second microsecond : Nat) (offset : Option Int) :
    Except Error Moment := do
  if let some seconds := offset then
    if seconds ≤ -offsetLimit || offsetLimit ≤ seconds then throw (.offset seconds)
  let date ← Date.of? year month day
  if 23 < hour then throw .hour
  if 59 < minute then throw .minute
  if 59 < second then throw .second
  return ⟨date, hour, minute, second, microsecond, offset⟩

/-- The number of days from the start of the calendar to a date. -/
def Date.dayNumber (d : Date) : Nat :=
  let years := d.year - 1
  years * 365 + years / 4 - years / 100 + years / 400 +
    (List.range' 1 (d.month - 1)).foldl (fun days month => days + daysIn d.year month) 0 + d.day

/-- The microseconds from the start of the calendar to a moment, by its own clock. -/
def Moment.ownTime (m : Moment) : Int :=
  Int.ofNat
    ((((m.date.dayNumber * 24 + m.hour) * 60 + m.minute) * 60 + m.second) * 1000000 + m.microsecond)

/-- Whether two moments are one. Clocks that are set against universal time are compared by it; a
clock that is not is never compared with one that is. -/
def Moment.isSame (m n : Moment) : Bool :=
  match m.offset, n.offset with
  | some o, some p => m.ownTime - o * 1000000 = n.ownTime - p * 1000000
  | none, none => m.ownTime = n.ownTime
  | _, _ => false

/-- A length of time in words: whole days, rounded down, and the seconds left. -/
def displaySpan (seconds : Int) : String :=
  let days := seconds.fdiv 86400
  let rest := seconds.fmod 86400
  let parts :=
    (if days = 0 then [] else [s!"days={days}"]) ++ (if rest = 0 then [] else [s!"seconds={rest}"])
  "datetime.timedelta(" ++ (if parts.isEmpty then "0" else ", ".intercalate parts) ++ ")"

def displayOffset (seconds : Int) : String :=
  if seconds = 0 then "datetime.timezone.utc" else s!"datetime.timezone({displaySpan seconds})"

def Date.display (d : Date) : String := s!"datetime.date({d.year}, {d.month}, {d.day})"

/-- A moment in words; seconds and microseconds of zero are left out at the end. -/
def Moment.display (m : Moment) : String :=
  let parts :=
    [m.date.year, m.date.month, m.date.day, m.hour, m.minute] ++
      (if m.microsecond ≠ 0 then [m.second, m.microsecond]
       else if m.second ≠ 0 then [m.second] else [])
  let zone := match m.offset with
    | none => []
    | some seconds => [s!"tzinfo={displayOffset seconds}"]
  "datetime.datetime(" ++ ", ".intercalate (parts.map toString ++ zone) ++ ")"

def Error.message : Error → String
  | .year y => s!"year {y} is out of range"
  | .month => "month must be in 1..12"
  | .day => "day is out of range for month"
  | .hour => "hour must be in 0..23"
  | .minute => "minute must be in 0..59"
  | .second => "second must be in 0..59"
  | .offset seconds =>
    "offset must be a timedelta strictly between -timedelta(hours=24) and timedelta(hours=24), not " ++
      displaySpan seconds ++ "."

end FeatureChoice.Calendar
