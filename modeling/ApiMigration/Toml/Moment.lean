import ApiMigration.Text.Affix
import ApiMigration.Toml.Number

namespace ApiMigration.Toml

structure Date where
  year : Nat
  month : Nat
  day : Nat
deriving DecidableEq, Repr

structure Time where
  hour : Nat
  minute : Nat
  second : Nat
  nanosecond : Nat := 0
deriving DecidableEq, Repr

inductive Offset where
  | universal
  | ahead (minutes : Int)
deriving DecidableEq, Repr

inductive Moment where
  | day (date : Date)
  | clock (time : Time)
  | dateTime (date : Date) (time : Time) (offset : Option Offset)
deriving DecidableEq, Repr

def padded (width number : Nat) : String :=
  let digits := Nat.toDigits 10 number
  String.ofList (List.replicate (width - digits.length) '0' ++ digits)

def Date.render (date : Date) : String :=
  padded 4 date.year ++ "-" ++ padded 2 date.month ++ "-" ++ padded 2 date.day

/-- The text of a time. A fraction is written without zeros at its end. -/
def Time.render (time : Time) : String :=
  let fraction := ((padded 9 time.nanosecond).toList.reverse.dropWhile (· == '0')).reverse
  padded 2 time.hour ++ ":" ++ padded 2 time.minute ++ ":" ++ padded 2 time.second
    ++ if fraction.isEmpty then "" else "." ++ String.ofList fraction

def Offset.render : Offset → String
  | .universal => "Z"
  | .ahead minutes =>
    (if minutes < 0 then "-" else "+") ++ padded 2 (minutes.natAbs / 60) ++ ":"
      ++ padded 2 (minutes.natAbs % 60)

def Moment.render : Moment → String
  | .day date => date.render
  | .clock time => time.render
  | .dateTime date time offset =>
    date.render ++ "T" ++ time.render ++ (offset.map Offset.render).getD ""

def daysIn (year month : Nat) : Nat :=
  if month = 2 then
    if year % 4 = 0 ∧ (year % 100 ≠ 0 ∨ year % 400 = 0) then 29 else 28
  else if [4, 6, 9, 11].contains month then 30
  else 31

def field? (count low high : Nat) (text : List Char) : Option (Nat × List Char) := do
  if (text.take count).length < count then none
  let value ← number? 10 (text.take count)
  if low ≤ value ∧ value ≤ high then some (value, text.drop count) else none

def date? (text : List Char) : Option (Date × List Char) := do
  let (year, text) ← field? 4 0 9999 text
  let (month, text) ← field? 2 1 12 (← Text.afterPrefix? ['-'] text)
  let (day, text) ← field? 2 1 (daysIn year month) (← Text.afterPrefix? ['-'] text)
  return ({ year, month, day }, text)

/-- The nanoseconds of a fraction, if there is one. Digits after the ninth do not count. -/
def nanoseconds (text : List Char) : Nat × List Char :=
  match text with
  | '.' :: digit :: more =>
    if digit.isDigit then
      let kept := ((digit :: more).takeWhile Char.isDigit).take 9
      (((number? 10 kept).getD 0) * Nat.pow 10 (9 - kept.length),
       (digit :: more).dropWhile Char.isDigit)
    else (0, text)
  | _ => (0, text)

def time? (text : List Char) : Option (Time × List Char) := do
  let (hour, text) ← field? 2 0 23 text
  let (minute, text) ← field? 2 0 59 (← Text.afterPrefix? [':'] text)
  let (second, text) ← field? 2 0 60 (← Text.afterPrefix? [':'] text)
  let (nanosecond, text) := nanoseconds text
  return ({ hour, minute, second, nanosecond }, text)

def offsetMinutes? (text : List Char) : Option (Int × List Char) := do
  let (hours, text) ← field? 2 0 23 text
  let (minutes, text) ← field? 2 0 59 (← Text.afterPrefix? [':'] text)
  return (Int.ofNat (hours * 60 + minutes), text)

def offset? : List Char → Option (Option Offset × List Char)
  | 'Z' :: text => some (some .universal, text)
  | 'z' :: text => some (some .universal, text)
  | '+' :: text => (offsetMinutes? text).map fun (minutes, rest) => (some (.ahead minutes), rest)
  | '-' :: text => (offsetMinutes? text).map fun (minutes, rest) => (some (.ahead (-minutes)), rest)
  | text => some (none, text)

def timeAfter? : List Char → Option (Time × List Char)
  | [] => none
  | c :: text => if c = 'T' ∨ c = 't' ∨ c = ' ' then time? text else none

def moment? (text : List Char) : Option (Moment × List Char) :=
  match date? text with
  | none => (time? text).map fun (time, rest) => (.clock time, rest)
  | some (date, rest) =>
    match timeAfter? rest with
    | none => some (.day date, rest)
    | some (time, rest) =>
      (offset? rest).map fun (offset, rest) => (.dateTime date time offset, rest)

end ApiMigration.Toml
