/-!
# Moments

A moment is a day of the calendar, a time of day, or both together with the offset from universal
time that may be known.
-/

namespace CheckRouter

structure Day where
  year : Nat
  month : Nat
  day : Nat
  deriving DecidableEq, Repr

structure TimeOfDay where
  hour : Nat
  minute : Nat
  second : Nat
  microsecond : Nat
  deriving DecidableEq, Repr

inductive Moment
  | day (day : Day)
  | time (time : TimeOfDay)
  /-- A time on a day; an offset is counted in minutes. -/
  | dayTime (day : Day) (time : TimeOfDay) (offset : Option Int)
  deriving DecidableEq, Repr

def isLeapYear (year : Nat) : Bool := year % 4 = 0 && (year % 100 != 0 || year % 400 = 0)

def daysIn (year month : Nat) : Nat :=
  if month = 2 then if isLeapYear year then 29 else 28
  else if month = 4 || month = 6 || month = 9 || month = 11 then 30
  else 31

namespace Moment

def padded (size n : Nat) : String :=
  let digits := Nat.toDigits 10 n
  .ofList (List.replicate (size - digits.length) '0' ++ digits)

def offsetText (minutes : Int) : String :=
  (if minutes < 0 then "-" else "+") ++ padded 2 (minutes.natAbs / 60) ++ ":" ++
    padded 2 (minutes.natAbs % 60)

end Moment

def Day.isReal (day : Day) : Bool :=
  1 ≤ day.year && 1 ≤ day.month && day.month ≤ 12 && 1 ≤ day.day &&
    day.day ≤ daysIn day.year day.month

def Day.text (day : Day) : String :=
  Moment.padded 4 day.year ++ "-" ++ Moment.padded 2 day.month ++ "-" ++ Moment.padded 2 day.day

/-- The time with six places for a fraction of a second, if it has one. -/
def TimeOfDay.text (time : TimeOfDay) : String :=
  Moment.padded 2 time.hour ++ ":" ++ Moment.padded 2 time.minute ++ ":" ++
    Moment.padded 2 time.second ++
    if time.microsecond = 0 then "" else "." ++ Moment.padded 6 time.microsecond

def Moment.text : Moment → String
  | .day d => d.text
  | .time t => t.text
  | .dayTime d t offset => d.text ++ "T" ++ t.text ++ (offset.map offsetText).getD ""

end CheckRouter
