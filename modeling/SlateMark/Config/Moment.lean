import SlateMark.Decimal.Layout
import SlateMark.Value

/-!
Dates and times. A date is one of the calendar, a time is one of a day without leap seconds, and
both together may have an offset from universal time.
-/
namespace SlateMark

def isLeapYear (year : Nat) : Bool := year % 4 = 0 && (year % 100 ≠ 0 || year % 400 = 0)

/-- A number that is no month has no days. -/
def daysInMonth (year month : Nat) : Nat :=
  if month = 2 then if isLeapYear year then 29 else 28
  else if month = 4 ∨ month = 6 ∨ month = 9 ∨ month = 11 then 30
  else if 1 ≤ month ∧ month ≤ 12 then 31
  else 0

structure Date where
  year : Nat
  month : Nat
  day : Nat
  day_mem : 1 ≤ day ∧ day ≤ daysInMonth year month
  deriving DecidableEq, Repr

structure Time where
  hour : Nat
  minute : Nat
  second : Nat
  microsecond : Nat
  deriving DecidableEq, Repr

/-- The offset of a date with a time counts minutes. -/
inductive Moment where
  | date (date : Date)
  | time (time : Time)
  | dateTime (date : Date) (time : Time) (offset : Option Int)
  deriving DecidableEq, Repr

/-- A number in decimal digits, at least as many as given. -/
def paddedText (width n : Nat) : String :=
  String.ofList (Decimal.padZeros width (Nat.toDigits 10 n))

def Date.text (d : Date) : String :=
  s!"{paddedText 4 d.year}-{paddedText 2 d.month}-{paddedText 2 d.day}"

def Time.text (t : Time) : String :=
  s!"{paddedText 2 t.hour}:{paddedText 2 t.minute}:{paddedText 2 t.second}" ++
    if t.microsecond = 0 then "" else s!".{paddedText 6 t.microsecond}"

def Date.numbers (d : Date) : List Nat := [d.year, d.month, d.day]

/-- Zeros at the end are left out, but for hours and minutes. -/
def Time.numbers (t : Time) : List Nat :=
  [t.hour, t.minute] ++
    if t.microsecond ≠ 0 then [t.second, t.microsecond]
    else if t.second ≠ 0 then [t.second] else []

def offsetText (minutes : Int) : String :=
  let clock := minutes.natAbs
  let sign := if minutes < 0 then "-" else "+"
  sign ++ s!"{paddedText 2 (clock / 60)}:{paddedText 2 (clock % 60)}"

/-- An offset to the west is shown as a day less and the rest of that day. -/
def offsetShown (minutes : Int) : String :=
  if minutes = 0 then "datetime.timezone.utc"
  else
    let day := if minutes < 0 then "days=-1, " else ""
    let seconds := 60 * (if minutes < 0 then 1440 + minutes else minutes)
    s!"datetime.timezone(datetime.timedelta({day}seconds={seconds}))"

namespace Moment

def typeName : Moment → String
  | .date _ => "date"
  | .time _ => "time"
  | .dateTime _ _ _ => "datetime"

def text : Moment → String
  | .date d => d.text
  | .time t => t.text
  | .dateTime d t offset =>
    d.text ++ " " ++ t.text ++
      match offset with
      | none => ""
      | some minutes => offsetText minutes

def shown (m : Moment) : String :=
  let inside := match m with
    | .date d => d.numbers.map toString
    | .time t => t.numbers.map toString
    | .dateTime d t offset =>
      (d.numbers ++ t.numbers).map toString ++
        match offset with
        | none => []
        | some minutes => ["tzinfo=" ++ offsetShown minutes]
  "datetime." ++ m.typeName ++ "(" ++ ", ".intercalate inside ++ ")"

def foreign (m : Moment) : Foreign := ⟨m.typeName, "datetime." ++ m.typeName, m.text, m.shown⟩

end Moment

example : (Moment.dateTime ⟨1979, 5, 27, by decide⟩ ⟨7, 32, 0, 0⟩ (some (-300))).text =
    "1979-05-27 07:32:00-05:00" := by decide

end SlateMark
