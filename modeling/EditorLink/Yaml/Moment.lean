import EditorLink.Number.Reading
import EditorLink.Text.Pieces
/-!
# Dates and times

A date may have a time of day, and that an offset from the time of the zero meridian.
A text that has the form of a date need not be one: months, days, hours and offsets
have their bounds.
-/
namespace EditorLink.Yaml
open EditorLink.Number EditorLink.Text

/-- A time of day; the offset is in seconds. -/
structure ClockTime where
  hour : Nat
  minute : Nat
  second : Nat
  micro : Nat
  offset : Option Int
deriving DecidableEq

/-- A date, maybe with a time of day. -/
structure Moment where
  year : Nat
  month : Nat
  day : Nat
  time : Option ClockTime
deriving DecidableEq

/-- A part of a date that is out of its bounds. -/
inductive MomentFault where
  | offset (seconds : Int)
  | year (n : Nat)
  | month
  | day
  | hour
  | minute
  | second
deriving DecidableEq

/-- Some seconds in days and seconds, as a span of time is shown. -/
def spanText (seconds : Int) : List Char :=
  let shown (name : String) (n : Int) : List (List Char) :=
    if n = 0 then [] else [(name ++ "=" ++ toString n).toList]
  let parts := shown "days" (seconds.fdiv 86400) ++ shown "seconds" (seconds.fmod 86400)
  "datetime.timedelta(".toList ++ (if parts = [] then ['0'] else joinWith [',', ' '] parts) ++ [')']

namespace MomentFault

/-- What is said about a part that is out of its bounds. -/
def message : MomentFault → String
  | offset seconds => "offset must be a timedelta strictly between -timedelta(hours=24) and " ++
      s!"timedelta(hours=24), not {String.ofList (spanText seconds)}."
  | year n => s!"year {n} is out of range"
  | month => "month must be in 1..12"
  | day => "day is out of range for month"
  | hour => "hour must be in 0..23"
  | minute => "minute must be in 0..59"
  | second => "second must be in 0..59"

end MomentFault

def withoutLastBreak (s : List Char) : List Char :=
  if s.getLast? = some '\n' then s.dropLast else s

namespace Moment

/-- The number of a row of digits between two lengths, and what follows. -/
def digits? (least most : Nat) (s : List Char) : Option (Nat × List Char) :=
  let run := (s.take most).takeWhile Char.isDigit
  if run.length < least then none else some (digitsValue run, s.drop run.length)

def behind? (c : Char) : List Char → Option (List Char)
  | [] => none
  | d :: rest => if d = c then some rest else none

def isSpace (c : Char) : Bool := c = ' ' || c = '\t'

/-- The offset that a text names, which may be empty; the inner `none` means no offset. -/
def zone? (s : List Char) : Option (Option Int) :=
  if s = [] then some none
  else match s.dropWhile isSpace with
    | ['Z'] => some (some 0)
    | sign :: rest => do
      if sign ≠ '+' && sign ≠ '-' then none
      let (hours, rest) ← digits? 1 2 rest
      let minutes ← match rest with
        | [] => some 0
        | ':' :: rest => do
          let (minutes, rest) ← digits? 2 2 rest
          if rest = [] then some minutes else none
        | _ => none
      let seconds : Int := 3600 * hours + 60 * minutes
      return some (if sign = '-' then -seconds else seconds)
    | [] => none

/-- The millionths of a second behind a point; further digits do not count. -/
def millionths (digits : List Char) : Nat := digitsValue ((digits ++ List.replicate 6 '0').take 6)

/-- The time of day that a text names behind a date. -/
def clock? (s : List Char) : Option ClockTime := do
  let rest ← match s with
    | 'T' :: rest => some rest
    | 't' :: rest => some rest
    | s => if s.head?.any isSpace then some (s.dropWhile isSpace) else none
  let (hour, rest) ← digits? 1 2 rest
  let (minute, rest) ← digits? 2 2 (← behind? ':' rest)
  let (second, rest) ← digits? 2 2 (← behind? ':' rest)
  let (micro, rest) := match rest with
    | '.' :: rest => (millionths (rest.takeWhile Char.isDigit), rest.dropWhile Char.isDigit)
    | rest => (0, rest)
  return ⟨hour, minute, second, micro, ← zone? rest⟩

/-- The date that a text has the form of. -/
def read? (s : List Char) : Option Moment := do
  let (year, rest) ← digits? 4 4 (withoutLastBreak s)
  let (month, rest) ← digits? 1 2 (← behind? '-' rest)
  let (day, rest) ← digits? 1 2 (← behind? '-' rest)
  if rest = [] then return ⟨year, month, day, none⟩
  return ⟨year, month, day, some (← clock? rest)⟩

/-- Whether a text is a date without further notice: if it has no time, then month and
day have two digits each. -/
def isPlain (s : List Char) : Bool :=
  (read? s).any fun m => m.time.isSome || (withoutLastBreak s).length = 10

/-- How many days a month has. -/
def daysIn (year month : Nat) : Nat :=
  if month = 2 then
    if year % 4 = 0 && (year % 100 ≠ 0 || year % 400 = 0) then 29 else 28
  else if [4, 6, 9, 11].contains month then 30
  else 31

/-- The first part that is out of its bounds. -/
def fault? (m : Moment) : Option MomentFault :=
  let offset := (m.time.bind (·.offset)).getD 0
  if 86400 ≤ offset.natAbs then some (.offset offset)
  else if m.year = 0 then some (.year m.year)
  else if m.month = 0 || 12 < m.month then some .month
  else if m.day = 0 || daysIn m.year m.month < m.day then some .day
  else match m.time with
    | none => none
    | some t =>
      if 23 < t.hour then some .hour
      else if 59 < t.minute then some .minute
      else if 59 < t.second then some .second
      else none

def zoneText (seconds : Int) : List Char :=
  if seconds = 0 then "datetime.timezone.utc".toList
  else "datetime.timezone(".toList ++ spanText seconds ++ [')']

def kind (m : Moment) : String := if m.time.isSome then "datetime.datetime" else "datetime.date"

/-- How a date is shown. -/
def text (m : Moment) : List Char :=
  let numbers (ns : List Nat) : List (List Char) := ns.map fun n => (toString n).toList
  let clock := match m.time with
    | none => []
    | some t =>
      let small := if t.micro ≠ 0 then [t.second, t.micro] else if t.second ≠ 0 then [t.second] else []
      numbers (t.hour :: t.minute :: small) ++
        (t.offset.toList.map fun seconds => "tzinfo=".toList ++ zoneText seconds)
  m.kind.toList ++ '(' :: joinWith [',', ' '] (numbers [m.year, m.month, m.day] ++ clock) ++ [')']

example : isPlain "2001-12-14".toList = true ∧ isPlain "2001-1-1".toList = false := by
  decide +kernel

end Moment
end EditorLink.Yaml
